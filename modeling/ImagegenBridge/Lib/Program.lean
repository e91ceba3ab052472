import Mathlib.Control.Lawful

/-!
# Programs that await answers

A program is the tree of what it does next for every answer its environment
gives. A monitor watches the exchanges, a contract says what is allowed and what
is relied on in each of its states, and `Keeps` is a program's weakest
precondition under a contract.
-/

/-- The operations a program awaits, and the answers each may get. -/
structure Interface where
  Op : Type
  Ans : Op → Type

inductive Program (I : Interface) (α : Type) where
  | done (result : α)
  | await (op : I.Op) (next : I.Ans op → Program I α)

/-- One operation with the answer it got. -/
structure Exchange (I : Interface) where
  op : I.Op
  answer : I.Ans op

namespace Program

variable {I : Interface} {α β γ ε : Type}

def bind : Program I α → (α → Program I β) → Program I β
  | .done result, f => f result
  | .await op next, f => .await op fun answer => (next answer).bind f

instance : Monad (Program I) where
  pure := .done
  bind := bind

@[simp] theorem done_bind (a : α) (f : α → Program I β) : (done a >>= f) = f a := rfl

@[simp] theorem await_bind (op : I.Op) (next : I.Ans op → Program I α) (f : α → Program I β) :
    (await op next >>= f) = await op fun answer => next answer >>= f := rfl

/-- Awaits one operation. -/
def ask (op : I.Op) : Program I (I.Ans op) := .await op .done

/-- A run of a program so far: what was exchanged and what is left to do. -/
inductive Follows : Program I α → List (Exchange I) → Program I α → Prop
  | here (p : Program I α) : Follows p [] p
  | answered {op : I.Op} {next : I.Ans op → Program I α} {answer : I.Ans op}
      {trace : List (Exchange I)} {rest : Program I α} :
      Follows (next answer) trace rest → Follows (.await op next) (⟨op, answer⟩ :: trace) rest

/-- The run in which the environment answers every operation by a function. -/
def drive (environment : (op : I.Op) → I.Ans op) : Program I α → List (Exchange I) × α
  | .done result => ([], result)
  | .await op next =>
    let rest := drive environment (next (environment op))
    (⟨op, environment op⟩ :: rest.1, rest.2)

theorem drive_follows (environment : (op : I.Op) → I.Ans op) (p : Program I α) :
    Follows p (p.drive environment).1 (.done (p.drive environment).2) := by
  induction p with
  | done result => exact .here _
  | await op next ih => exact .answered (ih (environment op))

/-- The run in which the environment answers what it has an answer for. -/
def driven (environment : (op : I.Op) → Option (I.Ans op)) :
    Program I α → Option (List (Exchange I) × α)
  | .done result => some ([], result)
  | .await op next => (environment op).bind fun answer =>
    ((next answer).driven environment).map fun rest => (⟨op, answer⟩ :: rest.1, rest.2)

theorem driven_follows {environment : (op : I.Op) → Option (I.Ans op)} {p : Program I α}
    {trace : List (Exchange I)} {result : α} (run : p.driven environment = some (trace, result)) :
    Follows p trace (.done result) := by
  induction p generalizing trace with
  | done result =>
    cases run
    exact .here _
  | await op next ih =>
    obtain ⟨answer, _, run⟩ := Option.bind_eq_some_iff.mp run
    obtain ⟨⟨rest, last⟩, later, same⟩ := Option.map_eq_some_iff.mp run
    cases same
    exact .answered (ih answer later)

/-- Before every exchange of a run the program awaits its operation. -/
theorem Follows.awaits {p rest : Program I α} {before after : List (Exchange I)}
    {exchange : Exchange I} (run : Follows p (before ++ exchange :: after) rest) :
    ∃ next, Follows p before (.await exchange.op next) := by
  induction before generalizing p with
  | nil =>
    cases run with
    | @answered op next answer _ _ _ => exact ⟨next, .here _⟩
  | cons first before ih =>
    cases run with
    | answered run =>
      obtain ⟨next, reached⟩ := ih run
      exact ⟨next, .answered reached⟩

/-- What an observer remembers of the exchanges. -/
structure Monitor (I : Interface) where
  State : Type
  next : State → (op : I.Op) → I.Ans op → State

/-- Which operations a program may await in each state of the monitor, and which
answers it relies on. -/
structure Contract (m : Monitor I) where
  Allow : m.State → I.Op → Prop
  Expect : m.State → (op : I.Op) → I.Ans op → Prop

variable {m : Monitor I} (c : Contract m)

/-- Some steps of a program over a state that answers by a function, as long as a
check of every answer passes. -/
def play {σ : Type} (answer : (op : I.Op) → σ → I.Ans op × σ)
    (check : m.State → σ → (op : I.Op) → I.Ans op → Bool) :
    Nat → m.State → σ → Program I α → Option (m.State × σ × Program I α)
  | 0, s, shared, p => some (s, shared, p)
  | _ + 1, s, shared, .done result => some (s, shared, .done result)
  | steps + 1, s, shared, .await op next =>
    if check s shared op (answer op shared).1 = true then
      play answer check steps (m.next s op (answer op shared).1) (answer op shared).2
        (next (answer op shared).1)
    else none

/-- From a state of the monitor, every operation the program awaits is allowed, as
long as the answers are expected ones, and it ends in a state that meets `post`. -/
def Keeps : Program I α → m.State → (α → m.State → Prop) → Prop
  | .done result, s, post => post result s
  | .await op next, s, post => c.Allow s op ∧
      ∀ answer, c.Expect s op answer → (next answer).Keeps (m.next s op answer) post

variable {c}

theorem Keeps.mono {p : Program I α} {s : m.State} {post post' : α → m.State → Prop}
    (kept : p.Keeps c s post) (weaker : ∀ a t, post a t → post' a t) : p.Keeps c s post' := by
  induction p generalizing s with
  | done result => exact weaker result s kept
  | await op next ih => exact ⟨kept.1, fun answer expected => ih answer (kept.2 answer expected)⟩

theorem Keeps.and {p : Program I α} {s : m.State} {post post' : α → m.State → Prop}
    (kept : p.Keeps c s post) (kept' : p.Keeps c s post') :
    p.Keeps c s fun a t => post a t ∧ post' a t := by
  induction p generalizing s with
  | done result => exact ⟨kept, kept'⟩
  | await op next ih =>
    exact ⟨kept.1, fun answer expected => ih answer (kept.2 answer expected) (kept'.2 answer expected)⟩

/-- A program keeps a contract that allows more and relies on more. -/
theorem Keeps.weaken {c' : Contract m} {p : Program I α} {s : m.State} {post : α → m.State → Prop}
    (allowed : ∀ t op, c.Allow t op → c'.Allow t op)
    (expected : ∀ t op answer, c'.Expect t op answer → c.Expect t op answer)
    (kept : p.Keeps c s post) : p.Keeps c' s post := by
  induction p generalizing s with
  | done result => exact kept
  | await op next ih =>
    exact ⟨allowed s op kept.1, fun answer given => ih answer (kept.2 answer (expected s op answer given))⟩

/-- The rule of sequence. -/
theorem keeps_bind {p : Program I α} {f : α → Program I β} {s : m.State}
    {post : β → m.State → Prop} :
    (p >>= f).Keeps c s post ↔ p.Keeps c s fun a t => (f a).Keeps c t post := by
  induction p generalizing s with
  | done result => exact Iff.rfl
  | await op next ih =>
    constructor
    · intro kept
      exact ⟨kept.1, fun answer expected => (ih answer).mp (kept.2 answer expected)⟩
    · intro kept
      exact ⟨kept.1, fun answer expected => (ih answer).mpr (kept.2 answer expected)⟩

/-- What every allowed exchange preserves holds at the end as well. -/
theorem Keeps.and_invariant {Inv : m.State → Prop} {p : Program I α} {s : m.State}
    {post : α → m.State → Prop}
    (preserved : ∀ t op answer, Inv t → c.Allow t op → c.Expect t op answer →
      Inv (m.next t op answer))
    (kept : p.Keeps c s post) (start : Inv s) : p.Keeps c s fun a t => post a t ∧ Inv t := by
  induction p generalizing s with
  | done result => exact ⟨kept, start⟩
  | await op next ih =>
    refine ⟨kept.1, ?_⟩
    intro answer expected
    exact ih answer (kept.2 answer expected) (preserved s op answer start kept.1 expected)

/-- The monitor's state after a run. -/
def Monitor.after (m : Monitor I) (s : m.State) : List (Exchange I) → m.State
  | [] => s
  | exchange :: trace => Monitor.after m (m.next s exchange.op exchange.answer) trace

/-- A record that every exchange may add to, and none removes from. -/
theorem after_records {m : Monitor I} {seen : m.State → Prop} {marks : Exchange I → Prop}
    (step : ∀ s op answer, seen (m.next s op answer) ↔ seen s ∨ marks ⟨op, answer⟩) (s : m.State)
    (trace : List (Exchange I)) :
    seen (m.after s trace) ↔ seen s ∨ ∃ exchange ∈ trace, marks exchange := by
  induction trace generalizing s with
  | nil => simp [Monitor.after]
  | cons exchange trace ih =>
    rw [Monitor.after, ih, step, or_assoc]
    simp only [List.mem_cons, exists_eq_or_imp]

def Contract.ExpectsAll (c : Contract m) (s : m.State) : List (Exchange I) → Prop
  | [] => True
  | exchange :: trace => c.Expect s exchange.op exchange.answer ∧
      Contract.ExpectsAll c (m.next s exchange.op exchange.answer) trace

/-- A contract that relies on no answer. -/
theorem expectsAll_free (free : ∀ t op answer, c.Expect t op answer) (s : m.State)
    (trace : List (Exchange I)) : c.ExpectsAll s trace := by
  induction trace generalizing s with
  | nil => trivial
  | cons exchange trace ih => exact ⟨free _ _ _, ih _⟩

/-- Answers that are expected are expected where less is. -/
theorem Contract.ExpectsAll.mono {c c' : Contract m}
    (weaker : ∀ t op answer, c.Expect t op answer → c'.Expect t op answer) {s : m.State}
    {trace : List (Exchange I)} (expected : c.ExpectsAll s trace) : c'.ExpectsAll s trace := by
  induction trace generalizing s with
  | nil => trivial
  | cons exchange trace ih => exact ⟨weaker _ _ _ expected.1, ih expected.2⟩

/-- What is left of a kept program is kept from the state the monitor is in. -/
theorem Keeps.follows {p rest : Program I α} {trace : List (Exchange I)} {s : m.State}
    {post : α → m.State → Prop} (kept : p.Keeps c s post) (run : Follows p trace rest)
    (expected : c.ExpectsAll s trace) : rest.Keeps c (m.after s trace) post := by
  induction run generalizing s with
  | here p => exact kept
  | @answered _ _ answer _ _ _ ih => exact ih (kept.2 answer expected.1) expected.2

/-- What every allowed exchange preserves holds after a run of a kept program. -/
theorem Keeps.invariant {Inv : m.State → Prop} {p rest : Program I α} {trace : List (Exchange I)}
    {s : m.State} {post : α → m.State → Prop}
    (preserved : ∀ t op answer, Inv t → c.Allow t op → c.Expect t op answer →
      Inv (m.next t op answer))
    (kept : p.Keeps c s post) (run : Follows p trace rest) (expected : c.ExpectsAll s trace)
    (start : Inv s) : Inv (m.after s trace) := by
  induction run generalizing s with
  | here p => exact start
  | @answered _ _ answer _ _ _ ih =>
    exact ih (kept.2 answer expected.1) expected.2
      (preserved s _ answer start kept.1 expected.1)

/-! ## Two monitors at once -/

def Monitor.both (first second : Monitor I) : Monitor I where
  State := first.State × second.State
  next s op answer := (first.next s.1 op answer, second.next s.2 op answer)

def Contract.both {m' : Monitor I} (c : Contract m) (c' : Contract m') : Contract (m.both m') where
  Allow s op := c.Allow s.1 op ∧ c'.Allow s.2 op
  Expect s op answer := c.Expect s.1 op answer ∧ c'.Expect s.2 op answer

/-- A program that keeps two contracts keeps both at once. -/
theorem Keeps.both {m' : Monitor I} {c' : Contract m'} {p : Program I α} {s : m.State}
    {s' : m'.State} {post : α → m.State → Prop} {post' : α → m'.State → Prop}
    (kept : p.Keeps c s post) (kept' : p.Keeps c' s' post') :
    p.Keeps (c.both c') (s, s') fun a t => post a t.1 ∧ post' a t.2 := by
  induction p generalizing s s' with
  | done result => exact ⟨kept, kept'⟩
  | await op next ih =>
    refine ⟨⟨kept.1, kept'.1⟩, ?_⟩
    rintro answer ⟨expected, expected'⟩
    exact ih answer (kept.2 answer expected) (kept'.2 answer expected')

/-! ## Programs inside programs -/

/-- A program over one interface as a part of programs over another one. -/
def relay {J : Interface} (op : I.Op → J.Op) (answer : ∀ o, J.Ans (op o) → I.Ans o) :
    Program I α → Program J α
  | .done result => .done result
  | .await o next => .await (op o) fun given => (next (answer o given)).relay op answer

/-- A part whose operations are all allowed and keep an invariant. -/
theorem relay_keeps {J : Interface} {m : Monitor J} {c : Contract m} {op : I.Op → J.Op}
    {answer : ∀ o, J.Ans (op o) → I.Ans o} {Inv : m.State → Prop}
    (allowed : ∀ s o, Inv s → c.Allow s (op o))
    (preserved : ∀ s o given, Inv s → Inv (m.next s (op o) given))
    (p : Program I α) {s : m.State} (start : Inv s) :
    (p.relay op answer).Keeps c s fun _ t => Inv t := by
  induction p generalizing s with
  | done result => exact start
  | await o next ih =>
    exact ⟨allowed s o start, fun given _ => ih (answer o given) (preserved s o given start)⟩

/-- A part that keeps its own contract keeps the contract of the whole, in which its
operations are allowed and its monitor is followed. -/
theorem Keeps.relay {J : Interface} {m' : Monitor J} {c' : Contract m'} {op : I.Op → J.Op}
    {answer : ∀ o, J.Ans (op o) → I.Ans o} {Related : m.State → m'.State → Prop}
    (allowed : ∀ s t o, Related s t → c.Allow s o → c'.Allow t (op o))
    (followed : ∀ s t o given, Related s t → c.Allow s o → c'.Expect t (op o) given →
      c.Expect s o (answer o given) ∧
        Related (m.next s o (answer o given)) (m'.next t (op o) given))
    {p : Program I α} {s : m.State} {t : m'.State} {post : α → m.State → Prop}
    (kept : p.Keeps c s post) (related : Related s t) :
    (p.relay op answer).Keeps c' t fun a t' => ∃ s', Related s' t' ∧ post a s' := by
  induction p generalizing s t with
  | done result => exact ⟨s, related, kept⟩
  | await o next ih =>
    refine ⟨allowed s t o related kept.1, fun given expected => ?_⟩
    obtain ⟨known, related⟩ := followed s t o given related kept.1 expected
    exact ih (answer o given) (kept.2 _ known) related

/-! ## The operations a program uses -/

/-- Every operation that a program may await is of a kind. -/
def Uses (kind : I.Op → Prop) : Program I α → Prop
  | .done _ => True
  | .await op next => kind op ∧ ∀ answer, (next answer).Uses kind

section

variable {kind kind' : I.Op → Prop}

theorem Uses.mono {p : Program I α} (uses : p.Uses kind) (wider : ∀ op, kind op → kind' op) :
    p.Uses kind' := by
  induction p with
  | done result => trivial
  | await op next ih => exact ⟨wider op uses.1, fun answer => ih answer (uses.2 answer)⟩

theorem Uses.bind {p : Program I α} {f : α → Program I β} (first : p.Uses kind)
    (rest : ∀ a, (f a).Uses kind) : (p >>= f).Uses kind := by
  induction p with
  | done result => exact rest result
  | await op next ih => exact ⟨first.1, fun answer => ih answer (first.2 answer)⟩

theorem uses_ask {op : I.Op} (fits : kind op) : (ask op).Uses kind :=
  ⟨fits, fun _ => trivial⟩

theorem Uses.bind_tries {x : ExceptT ε (Program I) α} {f : α → ExceptT ε (Program I) β}
    (first : x.run.Uses kind) (rest : ∀ a, (f a).run.Uses kind) : (x >>= f).run.Uses kind := by
  apply first.bind
  rintro (e | a)
  · trivial
  · exact rest a

theorem Uses.lift {p : Program I α} (uses : p.Uses kind) :
    (ExceptT.lift p : ExceptT ε (Program I) α).run.Uses kind :=
  uses.bind fun _ => trivial

theorem uses_relay {J : Interface} {kind : J.Op → Prop} {op : I.Op → J.Op}
    {answer : ∀ o, J.Ans (op o) → I.Ans o} (fits : ∀ o, kind (op o)) (p : Program I α) :
    (p.relay op answer).Uses kind := by
  induction p with
  | done result => trivial
  | await o next ih => exact ⟨fits o, fun given => ih (answer o given)⟩

/-- Operations that are allowed and that the monitor does not see. -/
theorem Uses.keeps {p : Program I α} {s : m.State} (uses : p.Uses kind)
    (allowed : ∀ op, kind op → c.Allow s op)
    (unseen : ∀ op answer, kind op → m.next s op answer = s) : p.Keeps c s fun _ t => t = s := by
  induction p with
  | done result => rfl
  | await op next ih =>
    refine ⟨allowed op uses.1, ?_⟩
    intro answer _
    rw [unseen op answer uses.1]
    exact ih answer (uses.2 answer)

end

/-! ## Programs that may fail -/

/-- `Keeps` for a program that may fail, with one condition for each way it ends. -/
def Tries (c : Contract m) (x : ExceptT ε (Program I) α) (s : m.State) (ok : α → m.State → Prop)
    (failed : ε → m.State → Prop) : Prop :=
  x.run.Keeps c s fun result t => match result with
    | .ok a => ok a t
    | .error e => failed e t

variable {x : ExceptT ε (Program I) α} {f : α → ExceptT ε (Program I) β} {s : m.State}
  {ok : β → m.State → Prop} {failed : ε → m.State → Prop}

theorem tries_bind : Tries c (x >>= f) s ok failed ↔
    Tries c x s (fun a t => Tries c (f a) t ok failed) failed := by
  have sequence : (x >>= f).run = (x.run >>= fun result => match result with
      | .ok a => (f a).run
      | .error e => Program.done (.error e)) := by
    refine congrArg (Program.bind x.run) (funext fun result => ?_)
    cases result <;> rfl
  unfold Tries
  rw [sequence, keeps_bind]
  constructor <;> intro kept <;> refine kept.mono fun result t held => ?_ <;>
    cases result <;> exact held

@[simp] theorem tries_pure (b : β) :
    Tries c (pure b : ExceptT ε (Program I) β) s ok failed ↔ ok b s := Iff.rfl

@[simp] theorem tries_throw (e : ε) :
    Tries c (throw e : ExceptT ε (Program I) β) s ok failed ↔ failed e s := Iff.rfl

/-- A program that cannot fail, run inside one that may. -/
theorem tries_lift (p : Program I β) :
    Tries c (ExceptT.lift p : ExceptT ε (Program I) β) s ok failed ↔ p.Keeps c s ok := by
  have lifted : (ExceptT.lift p : ExceptT ε (Program I) β).run =
      (p >>= fun b => Program.done (.ok b)) := rfl
  unfold Tries
  rw [lifted, keeps_bind]
  exact Iff.rfl

/-- A program that may fail, run for its result. -/
theorem tries_attempt {g : Except ε α → ExceptT ε (Program I) β} :
    Tries c (ExceptT.lift x.run >>= g) s ok failed ↔
      Tries c x s (fun a t => Tries c (g (.ok a)) t ok failed)
        (fun e t => Tries c (g (.error e)) t ok failed) := by
  rw [tries_bind, tries_lift]
  constructor <;> intro kept <;> refine Keeps.mono kept fun result t held => ?_ <;>
    cases result <;> exact held

theorem Tries.mono {ok' : β → m.State → Prop} {failed' : ε → m.State → Prop}
    {y : ExceptT ε (Program I) β} (tried : Tries c y s ok failed)
    (better : ∀ b t, ok b t → ok' b t) (worse : ∀ e t, failed e t → failed' e t) :
    Tries c y s ok' failed' := by
  refine Keeps.mono tried fun result t held => ?_
  cases result with
  | ok b => exact better b t held
  | error e => exact worse e t held

/-- `Keeps` for a program that may end with nothing. -/
def Finds (c : Contract m) (x : OptionT (Program I) α) (s : m.State) (found : α → m.State → Prop)
    (missed : m.State → Prop) : Prop :=
  x.run.Keeps c s fun result t => match result with
    | some a => found a t
    | none => missed t

variable {y : OptionT (Program I) α} {g : α → OptionT (Program I) β} {found : β → m.State → Prop}
  {missed : m.State → Prop}

theorem run_bind : (y >>= g).run = (y.run >>= fun result => match result with
    | some a => (g a).run
    | none => Program.done none) := by
  refine congrArg (Program.bind y.run) (funext fun result => ?_)
  cases result <;> rfl

theorem Uses.bind_finds {kind : I.Op → Prop} (first : y.run.Uses kind)
    (rest : ∀ a, (g a).run.Uses kind) : (y >>= g).run.Uses kind := by
  rw [run_bind]
  apply first.bind
  rintro (_ | a)
  · trivial
  · exact rest a

theorem finds_bind : Finds c (y >>= g) s found missed ↔
    Finds c y s (fun a t => Finds c (g a) t found missed) missed := by
  unfold Finds
  rw [run_bind, keeps_bind]
  constructor
  all_goals
    intro kept
    apply kept.mono
    intro result t held
    cases result <;> exact held

@[simp] theorem finds_pure (b : β) :
    Finds c (pure b : OptionT (Program I) β) s found missed ↔ found b s := Iff.rfl

theorem Finds.mono {found' : β → m.State → Prop} {missed' : m.State → Prop}
    {z : OptionT (Program I) β} (kept : Finds c z s found missed)
    (better : ∀ b t, found b t → found' b t) (worse : ∀ t, missed t → missed' t) :
    Finds c z s found' missed' := by
  apply Keeps.mono kept
  intro result t held
  cases result with
  | none => exact worse t held
  | some b => exact better b t held

end Program
