import ImagegenBridge.Lib.Program

/-!
# Pools of concurrent programs over one shared state

Programs are spawned, step one exchange at a time in any order, and may be
dropped wherever they await. A program that keeps a contract needs no further
look at its code: the pool refines a system of monitors alone.
-/

/-- What a pool looks like from outside its programs. A dropped program leaves
the monitor state it was in. -/
structure Snapshot {I : Interface} (m : Program.Monitor I) (σ : Type) where
  shared : σ
  phase : Nat → Option m.State
  dropped : Nat → Option m.State
  spawned : Nat

structure Pool {I : Interface} (m : Program.Monitor I) (σ α : Type) where
  view : Snapshot m σ
  code : Nat → Program I α

/-- What happens in a pool: the program `id` starts, exchanges, or is dropped. -/
inductive PoolEvent (I : Interface) where
  | spawned (id : Nat)
  | exchanged (id : Nat) (exchange : Exchange I)
  | dropped (id : Nat)

variable {I : Interface} {m : Program.Monitor I} {σ α : Type}

namespace Snapshot

/-- One value of a table changes. -/
def set {β : Type} (table : Nat → β) (id : Nat) (value : β) : Nat → β :=
  fun other => if other = id then value else table other

@[simp] theorem set_self {β : Type} (table : Nat → β) (id : Nat) (value : β) :
    set table id value id = value := by simp [set]

theorem set_other {β : Type} (table : Nat → β) {id other : Nat} (value : β) (h : other ≠ id) :
    set table id value other = table other := by simp [set, h]

def empty (shared : σ) : Snapshot m σ := ⟨shared, fun _ => none, fun _ => none, 0⟩

def spawn (s : Snapshot m σ) (start : m.State) : Snapshot m σ :=
  { s with phase := set s.phase s.spawned (some start), spawned := s.spawned + 1 }

def exchange (s : Snapshot m σ) (id : Nat) (phase : m.State) (shared : σ) : Snapshot m σ :=
  { s with phase := set s.phase id (some phase), shared }

def drop (s : Snapshot m σ) (id : Nat) (shared : σ) : Snapshot m σ :=
  { s with phase := set s.phase id none, dropped := set s.dropped id (s.phase id), shared }

section

variable {s : Snapshot m σ} {id other : Nat} {phase start p : m.State} {shared : σ}

theorem live_exchange (live : (s.exchange id phase shared).phase other = some p) :
    (other = id ∧ p = phase) ∨ (other ≠ id ∧ s.phase other = some p) := by
  by_cases own : other = id
  · subst own
    simp only [Snapshot.exchange, set_self, Option.some.injEq] at live
    exact .inl ⟨rfl, live.symm⟩
  · simp only [Snapshot.exchange, set_other _ _ own] at live
    exact .inr ⟨own, live⟩

theorem live_drop (live : (s.drop id shared).phase other = some p) :
    other ≠ id ∧ s.phase other = some p := by
  by_cases own : other = id
  · subst own
    simp [Snapshot.drop] at live
  · simp only [Snapshot.drop, set_other _ _ own] at live
    exact ⟨own, live⟩

theorem live_spawn (live : (s.spawn start).phase other = some p) :
    p = start ∨ s.phase other = some p := by
  by_cases own : other = s.spawned
  · subst own
    simp only [Snapshot.spawn, set_self, Option.some.injEq] at live
    exact .inl live.symm
  · simp only [Snapshot.spawn, set_other _ _ own] at live
    exact .inr live

end

/-- How the shared state answers and changes when a program awaits an operation, and
what an operation under way leaves when its program is dropped. -/
structure Behavior (I : Interface) (σ : Type) where
  Performs : Nat → (op : I.Op) → I.Ans op → σ → σ → Prop
  Abandons : Nat → I.Op → σ → σ → Prop

/-- The system of monitors: any allowed operation may happen. -/
inductive Step (c : Program.Contract m) (b : Behavior I σ) (start : m.State) :
    Snapshot m σ → PoolEvent I → Snapshot m σ → Prop
  | spawn (s : Snapshot m σ) : Step c b start s (.spawned s.spawned) (s.spawn start)
  | exchange (s : Snapshot m σ) {id : Nat} {phase : m.State} {op : I.Op} {answer : I.Ans op}
      {shared : σ} (live : s.phase id = some phase) (allowed : c.Allow phase op)
      (expected : c.Expect phase op answer) (performs : b.Performs id op answer s.shared shared) :
      Step c b start s (.exchanged id ⟨op, answer⟩)
        (s.exchange id (m.next phase op answer) shared)
  | drop (s : Snapshot m σ) {id : Nat} {phase : m.State} {op : I.Op} {shared : σ}
      (live : s.phase id = some phase) (allowed : c.Allow phase op)
      (abandons : b.Abandons id op s.shared shared) :
      Step c b start s (.dropped id) (s.drop id shared)

/-- Snapshots the monitors reach from another. -/
inductive Path (c : Program.Contract m) (b : Behavior I σ) (start : m.State)
    (origin : Snapshot m σ) : Snapshot m σ → Prop
  | here : Path c b start origin origin
  | step {s s' : Snapshot m σ} {event : PoolEvent I} : Path c b start origin s →
      Step c b start s event s' → Path c b start origin s'

/-- Only spawned programs are live or dropped, and none is both. -/
structure WellFormed (s : Snapshot m σ) : Prop where
  fresh : ∀ id, s.spawned ≤ id → s.phase id = none ∧ s.dropped id = none
  exclusive : ∀ id phase, s.dropped id = some phase → s.phase id = none

theorem empty_wellFormed (shared : σ) : (empty shared : Snapshot m σ).WellFormed :=
  ⟨fun _ _ => ⟨rfl, rfl⟩, fun _ _ impossible => nomatch impossible⟩

theorem WellFormed.live_spawned {s : Snapshot m σ} (wellFormed : s.WellFormed) {id : Nat}
    {phase : m.State} (live : s.phase id = some phase) : id < s.spawned := by
  obtain spawned | beyond := Nat.lt_or_ge id s.spawned
  · exact spawned
  · rw [(wellFormed.fresh id beyond).1] at live
    cases live

theorem Step.wellFormed {c : Program.Contract m} {b : Behavior I σ} {start : m.State}
    {s s' : Snapshot m σ} {event : PoolEvent I} (wellFormed : s.WellFormed)
    (step : Step c b start s event s') : s'.WellFormed := by
  cases step with
  | spawn =>
    refine ⟨fun id beyond => ?_, fun id phase gone => ?_⟩
    · have old : s.spawned ≤ id := Nat.le_of_succ_le beyond
      have other : id ≠ s.spawned := Nat.ne_of_gt beyond
      exact ⟨(set_other _ _ other).trans (wellFormed.fresh id old).1, (wellFormed.fresh id old).2⟩
    · have other : id ≠ s.spawned := by
        rintro rfl
        have never := (wellFormed.fresh s.spawned (Nat.le_refl _)).2
        rw [show s.dropped s.spawned = some phase from gone] at never
        cases never
      exact (set_other _ _ other).trans (wellFormed.exclusive id phase gone)
  | @exchange id phase op answer after live =>
    have spawned := wellFormed.live_spawned live
    refine ⟨fun other beyond => ?_, fun other phase' gone => ?_⟩
    · have different : other ≠ id := Nat.ne_of_gt (Nat.lt_of_lt_of_le spawned beyond)
      exact ⟨(set_other _ _ different).trans (wellFormed.fresh other beyond).1,
        (wellFormed.fresh other beyond).2⟩
    · have different : other ≠ id := by
        rintro rfl
        rw [wellFormed.exclusive other phase' gone] at live
        cases live
      exact (set_other _ _ different).trans (wellFormed.exclusive other phase' gone)
  | @drop id phase op shared live =>
    have spawned := wellFormed.live_spawned live
    refine ⟨fun other beyond => ?_, fun other phase' gone => ?_⟩
    · have different : other ≠ id := Nat.ne_of_gt (Nat.lt_of_lt_of_le spawned beyond)
      exact ⟨(set_other _ _ different).trans (wellFormed.fresh other beyond).1,
        (set_other _ _ different).trans (wellFormed.fresh other beyond).2⟩
    · by_cases own : other = id
      · subst own
        exact set_self ..
      · simp only [Snapshot.drop, set_other _ _ own] at gone ⊢
        exact wellFormed.exclusive other phase' gone

/-! ## Two monitors at once -/

section

variable {m' : Program.Monitor I}

/-- What another monitor sees of a pool. -/
def project (f : m.State → m'.State) (s : Snapshot m σ) : Snapshot m' σ where
  shared := s.shared
  phase id := (s.phase id).map f
  dropped id := (s.dropped id).map f
  spawned := s.spawned

theorem project_phase {f : m.State → m'.State} {s : Snapshot m σ} {id : Nat} {phase : m.State}
    (live : s.phase id = some phase) : (s.project f).phase id = some (f phase) := by
  simp [project, live]

theorem map_set {β γ : Type} (f : β → γ) (table : Nat → Option β) (id : Nat)
    (value : Option β) :
    (fun other => (set table id value other).map f) =
      set (fun other => (table other).map f) id (value.map f) := by
  funext other
  by_cases own : other = id
  · rw [own, set_self, set_self]
  · rw [set_other _ _ own, set_other _ _ own]

/-- A step under a contract, seen by a monitor that follows it, is a step under what that
monitor's contract allows. -/
theorem Step.project {f : m.State → m'.State} {c : Program.Contract m}
    {c' : Program.Contract m'} {b : Behavior I σ} {start : m.State} {s s' : Snapshot m σ}
    {event : PoolEvent I}
    (follows : ∀ phase op answer, f (m.next phase op answer) = m'.next (f phase) op answer)
    (allowed : ∀ phase op, c.Allow phase op → c'.Allow (f phase) op)
    (expected : ∀ phase op answer, c.Expect phase op answer → c'.Expect (f phase) op answer)
    (step : Step c b start s event s') :
    Step c' b (f start) (s.project f) event (s'.project f) := by
  cases step with
  | spawn =>
    have same : (s.spawn start).project f = (s.project f).spawn (f start) := by
      simp only [Snapshot.project, Snapshot.spawn, map_set, Option.map_some]
    rw [same]
    exact .spawn (s.project f)
  | @exchange id phase op answer shared live allows expects performs =>
    have same : (s.exchange id (m.next phase op answer) shared).project f =
        (s.project f).exchange id (m'.next (f phase) op answer) shared := by
      simp only [Snapshot.project, Snapshot.exchange, map_set, Option.map_some, follows]
    rw [same]
    exact .exchange _ (project_phase live) (allowed phase op allows)
      (expected phase op answer expects) performs
  | @drop id phase op shared live allows abandons =>
    have same : (s.drop id shared).project f = (s.project f).drop id shared := by
      simp only [Snapshot.project, Snapshot.drop, map_set, Option.map_none]
    rw [same]
    exact .drop _ (project_phase live) (allowed phase op allows) abandons

end

end Snapshot

namespace Pool

open Snapshot

/-- The pool's own steps: a program that is live and awaits gets an answer. -/
inductive Step (spawns : Program I α → Prop) (b : Behavior I σ) (start : m.State) :
    Pool m σ α → PoolEvent I → Pool m σ α → Prop
  | spawn (s : Pool m σ α) {p : Program I α} (allowed : spawns p) :
      Step spawns b start s (.spawned s.view.spawned)
        ⟨s.view.spawn start, set s.code s.view.spawned p⟩
  | exchange (s : Pool m σ α) {id : Nat} {phase : m.State} {op : I.Op} {answer : I.Ans op}
      {next : I.Ans op → Program I α} {shared : σ} (live : s.view.phase id = some phase)
      (awaits : s.code id = .await op next) (performs : b.Performs id op answer s.view.shared shared) :
      Step spawns b start s (.exchanged id ⟨op, answer⟩)
        ⟨s.view.exchange id (m.next phase op answer) shared, set s.code id (next answer)⟩
  | drop (s : Pool m σ α) {id : Nat} {phase : m.State} {op : I.Op} {next : I.Ans op → Program I α}
      {shared : σ} (live : s.view.phase id = some phase) (awaits : s.code id = .await op next)
      (abandons : b.Abandons id op s.view.shared shared) :
      Step spawns b start s (.dropped id) ⟨s.view.drop id shared, s.code⟩

/-- Pools reached from another by events that all meet a condition. -/
inductive Path (spawns : Program I α → Prop) (b : Behavior I σ) (start : m.State)
    (condition : Snapshot m σ → PoolEvent I → Prop) (origin : Pool m σ α) : Pool m σ α → Prop
  | here : Path spawns b start condition origin origin
  | step {s s' : Pool m σ α} {event : PoolEvent I} :
      Path spawns b start condition origin s → Step spawns b start s event s' →
        condition s.view event → Path spawns b start condition origin s'

/-- Pools that a run from no programs reaches. -/
def Run (spawns : Program I α → Prop) (b : Behavior I σ) (start : m.State) (shared : σ)
    (condition : Snapshot m σ → PoolEvent I → Prop) (s : Pool m σ α) : Prop :=
  ∃ code, Path spawns b start condition ⟨empty shared, code⟩ s

variable {c : Program.Contract m} {spawns : Program I α → Prop} {b : Behavior I σ}
  {start : m.State} {shared : σ} {condition : Snapshot m σ → PoolEvent I → Prop}
  {post : α → m.State → Prop}

theorem run_mono {condition' : Snapshot m σ → PoolEvent I → Prop} {s : Pool m σ α}
    (weaker : ∀ v event, condition v event → condition' v event)
    (run : Run spawns b start shared condition s) : Run spawns b start shared condition' s := by
  obtain ⟨code, path⟩ := run
  refine ⟨code, ?_⟩
  induction path with
  | here => exact .here
  | step _ step met ih => exact .step ih step (weaker _ _ met)

/-- A pool goes on with one of its programs, as long as the answers are performed
and meet the condition. The induction is on the steps the program makes. -/
theorem Path.plays {origin : Pool m σ α} {id : Nat} {answer : (op : I.Op) → σ → I.Ans op × σ}
    {check : m.State → σ → (op : I.Op) → I.Ans op → Bool}
    (sound : ∀ (v : Snapshot m σ) phase op, v.phase id = some phase →
      check phase v.shared op (answer op v.shared).1 = true →
        b.Performs id op (answer op v.shared).1 v.shared (answer op v.shared).2 ∧
          condition v (.exchanged id ⟨op, (answer op v.shared).1⟩))
    (steps : Nat) : ∀ {s : Pool m σ α} {phase phase' : m.State} {after : σ} {rest : Program I α},
      Path spawns b start condition origin s → s.view.phase id = some phase →
      Program.play answer check steps phase s.view.shared (s.code id) = some (phase', after, rest) →
      Path spawns b start condition origin
        ⟨s.view.exchange id phase' after, set s.code id rest⟩ := by
  have unchanged : ∀ {s : Pool m σ α} {phase : m.State}, s.view.phase id = some phase →
      (⟨s.view.exchange id phase s.view.shared, set s.code id (s.code id)⟩ : Pool m σ α) = s := by
    intro s phase live
    have same : ∀ {β : Type} (table : Nat → β), set table id (table id) = table := by
      intro β table
      funext other
      by_cases own : other = id
      · rw [own, set_self]
      · exact set_other _ _ own
    obtain ⟨⟨shared, phases, dropped, spawned⟩, code⟩ := s
    simp only [Snapshot.exchange, same, ← live]
  induction steps with
  | zero =>
    intro s phase phase' after rest run live played
    cases played
    rw [unchanged live]
    exact run
  | succ steps ih =>
    intro s phase phase' after rest run live played
    cases awaits : s.code id with
    | done result =>
      rw [awaits] at played
      cases played
      rw [← awaits, unchanged live]
      exact run
    | await op next =>
      rw [awaits, Program.play] at played
      split at played
      · rename_i checked
        obtain ⟨performs, met⟩ := sound s.view phase op live checked
        have stepped := Path.step run (.exchange _ live awaits performs) met
        have again := ih stepped (set_self _ _ _)
          (show _ = some (phase', after, rest) by simpa [Snapshot.exchange] using played)
        have overwritten : ∀ {β : Type} (table : Nat → β) (first second : β),
            set (set table id first) id second = set table id second := by
          intro β table first second
          funext other
          by_cases own : other = id
          · rw [own, set_self, set_self]
          · rw [set_other _ _ own, set_other _ _ own, set_other _ _ own]
        simpa only [Snapshot.exchange, overwritten] using again
      · cases played

/-- Every live program keeps the contract from the state its monitor is in. -/
def Keeps (c : Program.Contract m) (post : α → m.State → Prop) (s : Pool m σ α) : Prop :=
  ∀ id phase, s.view.phase id = some phase → (s.code id).Keeps c phase post

/-- The condition makes the contract's expectations true. -/
def Justifies (condition : Snapshot m σ → PoolEvent I → Prop) (b : Behavior I σ)
    (c : Program.Contract m) : Prop :=
  ∀ s id phase op answer after, s.phase id = some phase → b.Performs id op answer s.shared after →
    condition s (.exchanged id ⟨op, answer⟩) → c.Expect phase op answer

/-- One step of the pool is a step of its monitors, and keeps every program kept. -/
theorem step_refines {s s' : Pool m σ α} {event : PoolEvent I} (kept : s.Keeps c post)
    (start_kept : ∀ p, spawns p → p.Keeps c start post) (justified : Justifies condition b c)
    (step : Step spawns b start s event s') (met : condition s.view event) :
    Snapshot.Step c b start s.view event s'.view ∧ s'.Keeps c post := by
  cases step with
  | spawn p_allowed =>
    rename_i p
    refine ⟨.spawn _, ?_⟩
    intro id phase live
    by_cases fresh : id = s.view.spawned
    · subst fresh
      simp only [Snapshot.spawn, set_self, Option.some.injEq] at live
      subst live
      simpa using start_kept p p_allowed
    · simp only [Snapshot.spawn, set_other _ _ fresh] at live
      simpa [set_other _ _ fresh] using kept id phase live
  | @exchange id phase op answer next after live awaits performs =>
    have own := kept id phase live
    rw [awaits] at own
    have expected := justified s.view id phase op answer after live performs met
    refine ⟨.exchange _ live own.1 expected performs, ?_⟩
    intro other phase' live'
    by_cases same : other = id
    · subst same
      simp only [Snapshot.exchange, set_self, Option.some.injEq] at live'
      subst live'
      simpa using own.2 answer expected
    · simp only [Snapshot.exchange, set_other _ _ same] at live'
      simpa [set_other _ _ same] using kept other phase' live'
  | @drop id phase op next shared live awaits abandons =>
    have own := kept id phase live
    rw [awaits] at own
    refine ⟨.drop _ live own.1 abandons, ?_⟩
    intro other phase' live'
    by_cases same : other = id
    · subst same
      simp [Snapshot.drop] at live'
    · simp only [Snapshot.drop, set_other _ _ same] at live'
      exact kept other phase' live'

/-- Along events that justify the contract, the pool refines its monitors. -/
theorem path_refines {origin s : Pool m σ α} (kept : origin.Keeps c post)
    (start_kept : ∀ p, spawns p → p.Keeps c start post) (justified : Justifies condition b c)
    (path : Path spawns b start condition origin s) :
    Snapshot.Path c b start origin.view s.view ∧ s.Keeps c post := by
  induction path with
  | here => exact ⟨.here, kept⟩
  | step _ step met ih =>
    obtain ⟨reached, kept⟩ := ih
    obtain ⟨refined, kept'⟩ := step_refines kept start_kept justified step met
    exact ⟨.step reached refined, kept'⟩

theorem run_refines {s : Pool m σ α} (start_kept : ∀ p, spawns p → p.Keeps c start post)
    (justified : Justifies condition b c)
    (run : Run spawns b start shared condition s) :
    Snapshot.Path c b start (empty shared) s.view ∧ s.Keeps c post := by
  obtain ⟨code, path⟩ := run
  have none_live : (⟨empty shared, code⟩ : Pool m σ α).Keeps c post :=
    fun id phase live => nomatch live
  exact path_refines none_live start_kept justified path

/-- The rule of invariants: what the monitors' steps preserve, as long as their events
meet the condition, holds in every pool reached. The invariant may be what justifies
the contract's expectations. -/
theorem run_invariant_justifies {Inv : Snapshot m σ → Prop} {s : Pool m σ α}
    (start_kept : ∀ p, spawns p → p.Keeps c start post)
    (justified : Justifies (fun v event => Inv v ∧ condition v event) b c)
    (initial : Inv (empty shared))
    (preserved : ∀ v event v', Inv v → Snapshot.Step c b start v event v' → condition v event → Inv v')
    (run : Run spawns b start shared condition s) : Inv s.view ∧ s.Keeps c post := by
  obtain ⟨code, path⟩ := run
  induction path with
  | here => exact ⟨initial, fun id phase live => nomatch live⟩
  | step _ step met ih =>
    obtain ⟨holds, kept⟩ := ih
    obtain ⟨refined, kept'⟩ := step_refines kept start_kept justified step ⟨holds, met⟩
    exact ⟨preserved _ _ _ holds refined met, kept'⟩

theorem run_invariant {Inv : Snapshot m σ → Prop} {s : Pool m σ α}
    (start_kept : ∀ p, spawns p → p.Keeps c start post) (justified : Justifies condition b c)
    (initial : Inv (empty shared))
    (preserved : ∀ v event v', Inv v → Snapshot.Step c b start v event v' → condition v event → Inv v')
    (run : Run spawns b start shared condition s) : Inv s.view ∧ s.Keeps c post := by
  apply run_invariant_justifies start_kept _ initial preserved run
  intro v id phase op answer after live performs met
  exact justified v id phase op answer after live performs met.2

theorem Step.performs {s s' : Pool m σ α} {id : Nat} {op : I.Op} {answer : I.Ans op}
    (step : Step spawns b start s (.exchanged id ⟨op, answer⟩) s') :
    b.Performs id op answer s.view.shared s'.view.shared := by
  cases step with
  | exchange live awaits performs => exact performs

/-! ## Schedules -/

/-- What a scheduler does next: a program starts, one awaits its answer, one is dropped. -/
inductive Move (I : Interface) (α : Type) where
  | spawn (p : Program I α)
  | go (id : Nat)
  | drop (id : Nat)

/-- The pool a schedule reaches, with answers and leavings that are functions of the
shared state, as long as each move is possible. -/
def schedule (answers : Nat → (op : I.Op) → σ → Option (I.Ans op × σ))
    (leaves : Nat → I.Op → σ → Option σ) (start : m.State) :
    List (Move I α) → Pool m σ α → Option (Pool m σ α)
  | [], s => some s
  | .spawn p :: later, s =>
    schedule answers leaves start later ⟨s.view.spawn start, set s.code s.view.spawned p⟩
  | .go id :: later, s =>
    match s.view.phase id, s.code id with
    | some phase, .await op next => (answers id op s.view.shared).bind fun (answer, shared) =>
      schedule answers leaves start later
        ⟨s.view.exchange id (m.next phase op answer) shared, set s.code id (next answer)⟩
    | _, _ => none
  | .drop id :: later, s =>
    match s.view.phase id, s.code id with
    | some _, .await op _ => (leaves id op s.view.shared).bind fun shared =>
      schedule answers leaves start later ⟨s.view.drop id shared, s.code⟩
    | _, _ => none

/-- A schedule of allowed programs is a run. -/
theorem schedule_path {answers : Nat → (op : I.Op) → σ → Option (I.Ans op × σ)}
    {leaves : Nat → I.Op → σ → Option σ}
    (performs : ∀ id op s answer s', answers id op s = some (answer, s') →
      b.Performs id op answer s s')
    (abandons : ∀ id op s s', leaves id op s = some s' → b.Abandons id op s s')
    {moves : List (Move I α)} (allowed : ∀ p, Move.spawn p ∈ moves → spawns p)
    {origin s s' : Pool m σ α} (path : Path spawns b start (fun _ _ => True) origin s)
    (scheduled : schedule answers leaves start moves s = some s') :
    Path spawns b start (fun _ _ => True) origin s' := by
  induction moves generalizing s with
  | nil =>
    cases scheduled
    exact path
  | cons move later ih =>
    have rest := fun p member => allowed p (List.mem_cons_of_mem _ member)
    cases move with
    | spawn p =>
      exact ih rest (path.step (.spawn s (allowed p (List.mem_cons_self ..))) trivial) scheduled
    | go id =>
      unfold schedule at scheduled
      split at scheduled
      · rename_i phase op next live awaits
        obtain ⟨⟨answer, shared⟩, answered, scheduled⟩ := Option.bind_eq_some_iff.mp scheduled
        have performed := performs id op _ answer shared answered
        exact ih rest (path.step (.exchange s live awaits performed) trivial) scheduled
      · cases scheduled
    | drop id =>
      unfold schedule at scheduled
      split at scheduled
      · rename_i phase op next live awaits
        obtain ⟨shared, left, scheduled⟩ := Option.bind_eq_some_iff.mp scheduled
        have abandoned := abandons id op _ shared left
        exact ih rest (path.step (.drop s live awaits abandoned) trivial) scheduled
      · cases scheduled

end Pool
