import ImagegenBridge.Core.NegotiationValidity
import ImagegenBridge.Runtime.IdempotencyAccounting
import ImagegenBridge.Runtime.MaterializeErrors
import ImagegenBridge.Runtime.Orchestrator

/-!
# Fallback after a paid route

Under the default policy another route may follow a failure "before output". The
marks remember, for each route, whether it was attempted, whether its provider
returned a result, and whether the bridge then could not retrieve or deliver it.
-/

namespace ImagegenBridge.Orchestrator

open Idempotency Materialize Program Outcome

variable {Fingerprint : Type}

/-- The route is attempted. -/
def attempts (index : Nat) : Exchange (calls Fingerprint) → Bool
  | ⟨.attempt i, _⟩ => index == i
  | _ => false

/-- `provider.execute` of the route returns a result. -/
def pays (index : Nat) : Exchange (calls Fingerprint) → Bool
  | ⟨.execute i _ _, finish⟩ => index == i && finish.returned.isSome
  | _ => false

/-- The route's result can be retrieved or delivered by no setting of the bridge. -/
def Refused (config : MaterializationConfig) (job : Job) : Controlled World → Prop
  | .finished world => RetrievalRefused config world job ∨ DeliveryRefused config world job
  | _ => False

/-- Materialization of the route runs to its end and is refused. -/
def Refuses (config : MaterializationConfig) (index : Nat) : Exchange (calls Fingerprint) → Prop
  | ⟨.materialize i job, answer⟩ => index = i ∧ Refused config job answer
  | _ => False

/-- What is known of each route. -/
structure Marks where
  attempted : Nat → Prop
  paid : Nat → Prop
  refused : Nat → Prop

def unmarked : Marks := ⟨fun _ => False, fun _ => False, fun _ => False⟩

def Marks.note (config : MaterializationConfig) (s : Marks)
    (exchange : Exchange (calls Fingerprint)) : Marks where
  attempted := fun j => s.attempted j ∨ attempts j exchange = true
  paid := fun j => s.paid j ∨ pays j exchange = true
  refused := fun j => s.refused j ∨ Refuses config j exchange

abbrev routeMonitor (Fingerprint : Type) (config : MaterializationConfig) :
    Monitor (calls Fingerprint) where
  State := Marks
  next := fun s op answer => s.note config ⟨op, answer⟩

/-- Routes are attempted in order, each after its paid predecessors were refused. -/
abbrev routeContract (Fingerprint : Type) (config : MaterializationConfig) (total : Nat) :
    Contract (routeMonitor Fingerprint config) where
  Allow := fun s op => match op with
    | .attempt i => i < total ∧ (∀ j, s.attempted j → j < i) ∧ ∀ j, s.paid j → s.refused j
    | .execute i _ _ => ∀ j, s.attempted j → j ≤ i
    | _ => True
  Expect := fun _ _ _ => True

section Marks

variable {config : MaterializationConfig} {total : Nat}

theorem after_marks (trace : List (Exchange (calls Fingerprint))) (s : Marks) (j : Nat) :
    let s' : Marks := (routeMonitor Fingerprint config).after s trace
    (s'.attempted j ↔ s.attempted j ∨ ∃ x ∈ trace, attempts j x = true) ∧
      (s'.paid j ↔ s.paid j ∨ ∃ x ∈ trace, pays j x = true) ∧
      (s'.refused j ↔ s.refused j ∨ ∃ x ∈ trace, Refuses config j x) := by
  induction trace generalizing s with
  | nil => simp [Monitor.after]
  | cons exchange trace ih =>
    obtain ⟨attempted, paid, refused⟩ := ih (s.note config exchange)
    refine ⟨attempted.trans ?_, paid.trans ?_, refused.trans ?_⟩ <;>
      simp only [Marks.note, List.exists_mem_cons_iff, or_assoc]

/-- No route follows a paid one that was not refused. -/
def InOrder (total : Nat) (s : Marks) : Prop :=
  ∀ i, s.attempted (i + 1) → i + 1 < total ∧ (s.paid i → s.refused i)

theorem inOrder_preserved (s : Marks) (op : Op Fingerprint) (answer : op.Ans)
    (ordered : InOrder total s)
    (allowed : (routeContract Fingerprint config total).Allow s op) :
    InOrder total (s.note config ⟨op, answer⟩) := by
  intro i attempted
  cases op with
  | attempt index =>
    obtain ⟨within, _, settled⟩ := allowed
    obtain earlier | now := attempted
    · obtain ⟨bound, paid⟩ := ordered i earlier
      exact ⟨bound, fun paidNow => paidNow.elim (fun h => Or.inl (paid h)) (fun h => nomatch h)⟩
    · have same : i + 1 = index := eq_of_beq now
      subst same
      exact ⟨within, fun paidNow => paidNow.elim (fun h => Or.inl (settled i h))
        (fun h => nomatch h)⟩
  | execute index provider request =>
    have earlier : s.attempted (i + 1) := attempted.elim id (fun impossible => nomatch impossible)
    obtain ⟨bound, paid⟩ := ordered i earlier
    refine ⟨bound, ?_⟩
    rintro (before | now)
    · exact Or.inl (paid before)
    · have same : i = index := eq_of_beq (Bool.and_eq_true_iff.mp now).1
      subst same
      exact absurd (allowed _ earlier) (Nat.not_succ_le_self _)
  | _ =>
    have earlier : s.attempted (i + 1) := attempted.elim id (fun impossible => nomatch impossible)
    obtain ⟨bound, paid⟩ := ordered i earlier
    exact ⟨bound, fun paidNow => paidNow.elim (fun h => Or.inl (paid h)) (fun h => nomatch h)⟩

/-- Operations that mark nothing. -/
def Quiet : Op Fingerprint → Bool
  | .attempt _ | .execute .. | .materialize .. => false
  | _ => true

theorem note_quiet {op : Op Fingerprint} (quiet : Quiet op = true) (s : Marks) (answer : op.Ans) :
    s.note config ⟨op, answer⟩ = s := by
  cases op <;> first
    | exact absurd quiet Bool.false_ne_true
    | simp [Marks.note, attempts, pays, Refuses]

variable {α β : Type} {s : Marks}

theorem tries_quiet {op : Op Fingerprint} (quiet : Quiet op = true)
    {f : op.Ans → Task Fingerprint β} {ok : β → Marks → Prop} {failed : BridgeError → Marks → Prop}
    (rest : ∀ answer, Tries (routeContract Fingerprint config total) (f answer) s ok failed) :
    Tries (routeContract Fingerprint config total) (call op >>= f) s ok failed := by
  rw [tries_bind, tries_call]
  refine ⟨?_, fun answer _ => ?_⟩
  · cases op <;> first
      | exact absurd quiet Bool.false_ne_true
      | trivial
  · have same : (routeMonitor Fingerprint config).next s op answer = s := note_quiet quiet s answer
    rw [same]
    exact rest answer

/-- What trying one route changes: it may be paid, and it may be refused. -/
structure Tried (index : Nat) (s s' : Marks) (paid refused : Prop) : Prop where
  attempted : ∀ j, s'.attempted j ↔ s.attempted j
  paid : ∀ j, s'.paid j ↔ s.paid j ∨ (j = index ∧ paid)
  refused : ∀ j, s'.refused j ↔ s.refused j ∨ (j = index ∧ refused)

/-- A route that failed before its provider returned, or was paid and then failed. -/
def TriedInVain (index : Nat) (s : Marks) (e : BridgeError) (s' : Marks) : Prop :=
  Tried index s s' False False ∨ Tried index s s' True (Unavailable e)

theorem Tried.refl (index : Nat) (s : Marks) : Tried index s s False False where
  attempted := fun _ => Iff.rfl
  paid := fun j => by simp
  refused := fun j => by simp

theorem tried_execute (index : Nat) (provider : String) (request : ImageRequest)
    (finish : ProviderEnd ImageResponse) (s : Marks) :
    Tried index s ((routeMonitor Fingerprint config).next s (.execute index provider request) finish)
      (finish.returned.isSome = true) False where
  attempted := fun j => by simp [Marks.note, attempts]
  paid := fun j => by simp [Marks.note, pays]
  refused := fun j => by simp [Marks.note, Refuses]

theorem tried_materialize {index : Nat} {s t : Marks} (job : Job) (answer : Controlled World)
    (paid : Tried index s t True False) :
    Tried index s ((routeMonitor Fingerprint config).next t (.materialize index job) answer) True
      (Refused config job answer) where
  attempted := fun j => by simpa [Marks.note, attempts] using paid.attempted j
  paid := fun j => by simpa [Marks.note, pays] using paid.paid j
  refused := fun j => by simp [Marks.note, Refuses, paid.refused j]

theorem Tried.congr {index : Nat} {s t : Marks} {p p' r r' : Prop} (tried : Tried index s t p r)
    (paid : p ↔ p') (refused : r ↔ r') : Tried index s t p' r' := by
  rw [← propext paid, ← propext refused]
  exact tried

theorem mapped_ok {message : String} {job : Job} {answer : Controlled World}
    {response : ImageResponse}
    (ok : awaitControlled message (answer.map (materialize config · job)) = .ok response) :
    ¬Refused config job answer := by
  cases answer with
  | elapsed => cases ok
  | interrupted interruption => exact id
  | finished world =>
    intro refused
    obtain ⟨e, failed, _⟩ := (materialize_unavailable_iff job).mpr refused
    simp only [Controlled.map, awaitControlled, failed] at ok
    cases ok

theorem mapped_error {job : Job} {answer : Controlled World} {e : BridgeError}
    (failed : awaitControlled "request was cancelled during output materialization"
      (answer.map (materialize config · job)) = .error e) :
    Refused config job answer ↔ Unavailable e := by
  cases answer with
  | elapsed =>
    cases failed
    exact ⟨False.elim, fun unavailable =>
      absurd unavailable (not_unavailable_of_code (by simp [timeoutError]))⟩
  | interrupted interruption =>
    cases interruption <;> cases failed <;>
      exact ⟨False.elim, fun unavailable => absurd unavailable
        (not_unavailable_of_code (by simp [timeoutError, cancelledError]))⟩
  | finished world =>
    have computed : materialize config world job = .error e := failed
    refine (materialize_unavailable_iff job).symm.trans ⟨?_, fun unavailable => ⟨e, computed, unavailable⟩⟩
    rintro ⟨e', raised, unavailable⟩
    rw [computed] at raised
    cases raised
    exact unavailable

theorem checkResponseModel_steady {name : String} {capabilities : ProviderCapabilities}
    {response : ImageResponse} {e : BridgeError}
    (failed : checkResponseModel name capabilities response = .error e) : ¬Unavailable e := by
  unfold checkResponseModel at failed
  split at failed
  · obtain ⟨_, rfl⟩ := (failIf_error ..).mp failed
    exact not_unavailable_of_code (Or.inl rfl)
  · cases failed

variable {rt : Runtime} {request : ImageRequest} {requestId : String}

theorem executeRouteAdmitted_tries (index : Nat) (route : ProviderRoute) (name : String)
    (queueMs : Nat) (s : Marks) (current : ∀ j, s.attempted j → j ≤ index) :
    Tries (routeContract Fingerprint rt.materializer.config total)
      (executeRouteAdmitted rt request requestId index route name queueMs) s
      (fun _ t => Tried index s t True False) (TriedInVain index s) := by
  unfold executeRouteAdmitted
  refine tries_quiet rfl fun discovered => ?_
  rw [tries_bind, tries_require]
  refine ⟨fun prepared _ => ?_, fun e _ => Or.inl (Tried.refl index s)⟩
  rw [tries_bind, tries_call]
  refine ⟨current, fun finish _ => ?_⟩
  have executed : Tried index s ((routeMonitor Fingerprint rt.materializer.config).next s
      (.execute index name prepared.effective) finish) (finish.returned.isSome = true) False :=
    tried_execute index name prepared.effective finish s
  refine tries_quiet rfl fun providerMs => ?_
  rw [tries_bind, tries_require]
  constructor
  · intro returned ok
    have paid := executed.congr (iff_true_intro (by
      rw [awaitProviderExecution_ok.mp (fromProvider_ok ok)]
      rfl)) Iff.rfl
    rw [tries_bind, tries_require]
    refine ⟨fun _ _ => ?_, fun e failed => Or.inr (paid.congr Iff.rfl
      (iff_of_false id (checkResponseModel_steady failed)))⟩
    dsimp only
    rw [tries_bind, tries_call]
    refine ⟨trivial, fun answer _ => ?_⟩
    rw [tries_bind, tries_require]
    constructor
    · intro response ok
      exact tries_quiet rfl fun artifactMs =>
        (tried_materialize _ answer paid).congr Iff.rfl (iff_of_false (mapped_ok ok) id)
    · intro e failed
      exact Or.inr ((tried_materialize _ answer paid).congr Iff.rfl (mapped_error failed))
  · intro e failed
    obtain ⟨e', original⟩ := fromProvider_error failed
    refine Or.inl (executed.congr (iff_of_false ?_ id) Iff.rfl)
    intro some
    obtain ⟨value, returned⟩ := Option.isSome_iff_exists.mp some
    rw [awaitProviderExecution_ok.mpr returned] at original
    cases original

theorem executeRoute_tries (index : Nat) (route : ProviderRoute) (s : Marks)
    (current : ∀ j, s.attempted j → j ≤ index) :
    Tries (routeContract Fingerprint rt.materializer.config total)
      (executeRoute rt request requestId index route) s
      (fun _ t => Tried index s t True False) (TriedInVain index s) := by
  have unchanged : ∀ e, TriedInVain index s e s := fun e => Or.inl (Tried.refl index s)
  unfold executeRoute
  rw [tries_bind, tries_require]
  refine ⟨fun name _ => ?_, fun e _ => unchanged e⟩
  rw [tries_bind, tries_require]
  refine ⟨fun _ _ => ?_, fun e _ => unchanged e⟩
  refine tries_quiet rfl fun permit => ?_
  rw [tries_bind, tries_require]
  refine ⟨fun _ _ => ?_, fun e _ => unchanged e⟩
  refine tries_quiet rfl fun admitted => ?_
  rw [tries_bind, tries_require]
  refine ⟨fun _ _ => ?_, fun e _ => unchanged e⟩
  refine tries_quiet rfl fun queueMs => ?_
  rw [tries_attempt]
  refine (executeRouteAdmitted_tries index route name queueMs s current).mono ?_ ?_
  · intro execution t tried
    exact tries_quiet rfl fun _ => tries_require.mpr
      ⟨fun _ _ => tried, fun e impossible => nomatch impossible⟩
  · intro e t tried
    exact tries_quiet rfl fun _ => tries_require.mpr
      ⟨(fun _ impossible => nomatch impossible), fun e' same => Except.error.inj same ▸ tried⟩

/-- The loop is about to attempt one route: all earlier paid routes were refused. -/
structure Ready (index : Nat) (s : Marks) : Prop where
  attempted : ∀ j, s.attempted j → j < index
  paid : ∀ j, s.paid j → s.refused j
  refused : ∀ j, s.refused j → s.paid j ∧ j < index ∧ (j + 1 < index → s.attempted (j + 1))

/-- Every refused route was paid, and is followed by the next one. -/
def Followed (total : Nat) (s : Marks) : Prop :=
  ∀ j, s.refused j → s.paid j ∧ (j + 1 < total → s.attempted (j + 1))

/-- The marks once the loop has read the clock for a new attempt. -/
def attemptedNow (index : Nat) (s : Marks) : Marks :=
  { s with attempted := fun j => s.attempted j ∨ j = index }

theorem note_attempt (index : Nat) (s : Marks) :
    (routeMonitor Fingerprint config).next s (.attempt index) () = attemptedNow index s := by
  simp [Marks.note, attempts, pays, Refuses, attemptedNow]

theorem ready_followed {index : Nat} {s t : Marks} {paid refused : Prop} (ready : Ready index s)
    (tried : Tried index (attemptedNow index s) t paid refused)
    (last : refused → paid ∧ total ≤ index + 1) : Followed total t := by
  intro j marked
  rcases (tried.refused j).mp marked with before | ⟨rfl, now⟩
  · obtain ⟨paidBefore, earlier, follows⟩ := ready.refused j before
    refine ⟨(tried.paid j).mpr (Or.inl paidBefore), fun _ => (tried.attempted (j + 1)).mpr ?_⟩
    obtain inside | next := Nat.lt_or_eq_of_le (Nat.succ_le_of_lt earlier)
    · exact Or.inl (follows inside)
    · exact Or.inr next
  · exact ⟨(tried.paid j).mpr (Or.inr ⟨rfl, (last now).1⟩),
      fun within => absurd (last now).2 (Nat.not_le_of_lt within)⟩

theorem ready_next {index : Nat} {s t : Marks} {paid : Prop} {refused : Prop} (ready : Ready index s)
    (tried : Tried index (attemptedNow index s) t paid refused) (both : paid ↔ refused) :
    Ready (index + 1) t where
  attempted := by
    intro j marked
    rcases (tried.attempted j).mp marked with before | rfl
    · exact Nat.lt_succ_of_lt (ready.attempted j before)
    · exact Nat.lt_succ_self j
  paid := by
    intro j marked
    rcases (tried.paid j).mp marked with before | ⟨same, now⟩
    · exact (tried.refused j).mpr (Or.inl (ready.paid j before))
    · exact (tried.refused j).mpr (Or.inr ⟨same, both.mp now⟩)
  refused := by
    intro j marked
    rcases (tried.refused j).mp marked with before | ⟨rfl, now⟩
    · obtain ⟨paidBefore, earlier, follows⟩ := ready.refused j before
      refine ⟨(tried.paid j).mpr (Or.inl paidBefore), Nat.lt_succ_of_lt earlier, fun _ => ?_⟩
      refine (tried.attempted (j + 1)).mpr ?_
      obtain inside | next := Nat.lt_or_eq_of_le (Nat.succ_le_of_lt earlier)
      · exact Or.inl (follows inside)
      · exact Or.inr next
    · exact ⟨(tried.paid j).mpr (Or.inr ⟨rfl, both.mpr now⟩), Nat.lt_succ_self j,
        fun impossible => absurd impossible (Nat.lt_irrefl _)⟩

/-- The induction is on the routes left; a loop that stops leaves every refused
route either last or followed. -/
theorem tryRoutes_tries (policy : request.routing.fallbackPolicy = .onUnavailable)
    {primaryProvider : String} {globalQueueMs : Nat} (rest : List ProviderRoute) :
    ∀ (index : Nat) (attempts : List ProviderAttempt) (s : Marks), index + rest.length = total →
      Ready index s →
      Tries (routeContract Fingerprint rt.materializer.config total)
        (tryRoutes rt request requestId primaryProvider globalQueueMs index rest attempts) s
        (fun _ t => Followed total t) (fun _ t => Followed total t) := by
  induction rest with
  | nil =>
    intro index attempts s all ready
    rw [tryRoutes, tries_throw]
    intro j marked
    obtain ⟨paid, _, follows⟩ := ready.refused j marked
    have total_eq : index = total := all
    exact ⟨paid, fun within => follows (total_eq ▸ within)⟩
  | cons route rest ih =>
    intro index attempts s all ready
    rw [List.length_cons] at all
    rw [tryRoutes, tries_bind, tries_call]
    refine ⟨⟨by omega, ready.attempted, ready.paid⟩, fun answer _ => ?_⟩
    rw [note_attempt, tries_attempt]
    have current : ∀ j, (attemptedNow index s).attempted j → j ≤ index := by
      rintro j (before | rfl)
      · exact Nat.le_of_lt (ready.attempted j before)
      · exact Nat.le_refl j
    refine (executeRoute_tries index route (attemptedNow index s) current).mono ?_ ?_
    · intro execution t tried
      have followed : Followed total t := ready_followed ready tried False.elim
      refine tries_quiet rfl fun durationMs => tries_quiet rfl fun totalMs =>
        tries_quiet rfl fun world => ?_
      exact tries_require.mpr ⟨fun _ _ => followed, fun _ _ => followed⟩
    · intro e t tried
      refine tries_quiet rfl fun durationMs => ?_
      dsimp only
      split
      · rename_i stops
        rw [tries_throw]
        rcases tried with unpaid | paid
        · exact ready_followed ready unpaid False.elim
        · refine ready_followed ready paid fun unavailable => ⟨trivial, ?_⟩
          rw [policy, show shouldFallback e .onUnavailable = true from unavailable] at stops
          simp only [Bool.not_true, Bool.or_false, List.isEmpty_iff] at stops
          simp only [stops, List.length_nil] at all
          omega
      · rename_i continues
        have unavailable : Unavailable e := by
          rw [policy] at continues
          simp only [Bool.or_eq_true, Bool.not_eq_true', not_or, Bool.not_eq_false] at continues
          exact continues.2
        apply ih (index + 1) _ t (by omega)
        obtain unpaid | paid := tried
        · exact ready_next ready unpaid Iff.rfl
        · exact ready_next ready paid (iff_of_true trivial unavailable)

theorem unmarked_ready : Ready 0 unmarked where
  attempted := fun _ impossible => impossible.elim
  paid := fun _ impossible => impossible.elim
  refused := fun _ impossible => impossible.elim

theorem executeLeader_tries (policy : request.routing.fallbackPolicy = .onUnavailable) :
    Tries (routeContract Fingerprint rt.materializer.config
        (routesOf request (rt.primaryProvider request)).length)
      (executeLeader rt request requestId) unmarked
      (fun _ t => Followed (routesOf request (rt.primaryProvider request)).length t)
      (fun _ t => Followed (routesOf request (rt.primaryProvider request)).length t) := by
  have nothing : ∀ total, Followed total unmarked := fun _ _ impossible => impossible.elim
  unfold executeLeader
  refine tries_quiet rfl fun admitted => ?_
  rw [tries_bind, tries_require]
  refine ⟨fun _ _ => ?_, fun _ _ => nothing _⟩
  refine tries_quiet rfl fun globalQueueMs => ?_
  dsimp only
  rw [tries_bind, tries_require]
  refine ⟨fun _ _ => ?_, fun _ _ => nothing _⟩
  exact tryRoutes_tries policy _ 0 [] unmarked (Nat.zero_add _) unmarked_ready

end Marks

/-! ## Runs of a leader -/

/-- The route was attempted, paid or refused during a run. -/
def Attempted (index : Nat) (trace : List (Exchange (calls Fingerprint))) : Prop :=
  ∃ exchange ∈ trace, attempts index exchange = true

def Paid (index : Nat) (trace : List (Exchange (calls Fingerprint))) : Prop :=
  ∃ exchange ∈ trace, pays index exchange = true

instance (index : Nat) (trace : List (Exchange (calls Fingerprint))) :
    Decidable (Attempted index trace) :=
  inferInstanceAs (Decidable (∃ exchange ∈ trace, _))

instance (index : Nat) (trace : List (Exchange (calls Fingerprint))) :
    Decidable (Paid index trace) :=
  inferInstanceAs (Decidable (∃ exchange ∈ trace, _))

def RefusedIn (config : MaterializationConfig) (index : Nat)
    (trace : List (Exchange (calls Fingerprint))) : Prop :=
  ∃ exchange ∈ trace, Refuses config index exchange

/-- No route is attempted after its predecessor's provider returned a result. -/
def NeverDuplicated (trace : List (Exchange (calls Fingerprint))) : Prop :=
  ∀ i, Paid i trace → ¬Attempted (i + 1) trace

/-- Only the last route's result may be refused by the bridge's own settings. -/
def OnlyLastRefused (config : MaterializationConfig) (total : Nat)
    (trace : List (Exchange (calls Fingerprint))) : Prop :=
  ∀ i, i + 1 < total → ¬RefusedIn config i trace

/-- What is known of each route after a run. -/
def marksAfter (config : MaterializationConfig) (trace : List (Exchange (calls Fingerprint))) :
    Marks :=
  (routeMonitor Fingerprint config).after unmarked trace

theorem marksAfter_iff (config : MaterializationConfig)
    (trace : List (Exchange (calls Fingerprint))) (j : Nat) :
    ((marksAfter config trace).attempted j ↔ Attempted j trace) ∧
      ((marksAfter config trace).paid j ↔ Paid j trace) ∧
      ((marksAfter config trace).refused j ↔ RefusedIn config j trace) := by
  obtain ⟨attempted, paid, refused⟩ := after_marks trace unmarked j
  exact ⟨attempted.trans (or_iff_right id), paid.trans (or_iff_right id),
    refused.trans (or_iff_right id)⟩

/-- A leader's run duplicates no paid result as long as no result but the last
route's is refused, and a finished run in which one is refused does duplicate it. -/
theorem fallback_after_paid_iff {rt : Runtime} {request : ImageRequest} {requestId : String}
    (policy : request.routing.fallbackPolicy = .onUnavailable)
    {trace : List (Exchange (calls Fingerprint))} {rest : Program (calls Fingerprint) _}
    (run : Follows (executeLeader rt request requestId).run trace rest) :
    let total := (routesOf request (rt.primaryProvider request)).length
    (OnlyLastRefused rt.materializer.config total trace → NeverDuplicated trace) ∧
      ((∃ result, rest = .done result) → NeverDuplicated trace →
        OnlyLastRefused rt.materializer.config total trace) := by
  intro total
  have kept : Tries (routeContract Fingerprint rt.materializer.config total)
      (executeLeader rt request requestId) unmarked (fun _ t => Followed total t)
      (fun _ t => Followed total t) := executeLeader_tries policy
  have marks := marksAfter_iff rt.materializer.config trace
  have ordered : InOrder total (marksAfter rt.materializer.config trace) :=
    kept.invariant (fun t op answer held allowed _ => inOrder_preserved t op answer held allowed)
      run (expectsAll_free (fun _ _ _ => trivial) _ trace) (fun _ impossible => impossible.elim)
  constructor
  · intro onlyLast i paid attempted
    obtain ⟨within, refused⟩ := ordered i ((marks (i + 1)).1.mpr attempted)
    exact onlyLast i within ((marks i).2.2.mp (refused ((marks i).2.1.mpr paid)))
  · rintro ⟨result, rfl⟩ never i within refused
    have ended : Followed total (marksAfter rt.materializer.config trace) := by
      have followed := kept.follows run (expectsAll_free (fun _ _ _ => trivial) _ trace)
      cases result <;> exact followed
    obtain ⟨paid, next⟩ := ended i ((marks i).2.2.mpr refused)
    exact never i ((marks i).2.1.mp paid) ((marks (i + 1)).1.mp (next within))

section HostedImages

def hostedImage : GeneratedImage where
  index := 0
  payload := .url "https://images.example/0.png"
  format := .png
  width := 1
  height := 1
  bytes := 1
  sha256 := ""
  generationMs := none
  metadataName := none

/-- A provider that answers with a URL. -/
def hostedResponse : ImageResponse :=
  { plainResponse with model := "test-image", data := [hostedImage] }

/-- A world in which nothing can be read or written. -/
def emptyWorld : World where
  decode := fun _ => none
  encode := fun _ => ""
  inspectImage := fun _ => .error (artifactError "unreadable")
  fetch := fun _ => .error (artifactError "unreadable")
  detectBorderChromaKey := fun _ => .error (artifactError "unreadable")
  removeChromaKey := fun _ _ _ => .error (artifactError "unreadable")
  inspectTransparentAlpha := fun _ => .error (artifactError "unreadable")
  encodeEmbedded := fun _ _ _ _ _ => none
  embedImageMetadata := fun _ _ _ => .error ⟨artifactError "unwritable", rfl⟩
  publishWithOptions := fun _ _ => .error ⟨artifactError "unwritable", rfl⟩
  joinUrl := fun _ _ => none
  encodeSidecar := fun _ _ _ _ _ => none
  attachMetadata := fun _ _ _ => .error ⟨artifactError "unwritable", rfl⟩

/-- Two providers behind a materializer without fetcher, store or base URL. -/
def plainRuntime : Runtime where
  requestLimits := .default
  defaultTimeoutMs := 300000
  defaultProvider := "primary"
  providers := ["primary", "backup"]
  descriptorName := id
  materializer := ⟨{}, by decide, by decide⟩

def twoRoutes : ImageRequest :=
  { lighthouse with routing := { fallbacks := [⟨"backup", none⟩] } }

/-- Everything is admitted at once and every provider answers with one response. -/
def serves (response : ImageResponse) : (op : Op Unit) → op.Ans
  | .shutdownRequested | .deadlineOverflows _ => false
  | .newRequestId => "request"
  | .elapsed => 0
  | .begin scope key _ => .ok (.leader ⟨⟨scope, key⟩, ()⟩)
  | .wait _ => .elapsed
  | .acquireGlobal | .acquireProvider .. => .finished (.ok ())
  | .acquireBreaker .. => .ok ()
  | .capabilities _ name _ => .finished (.ok { Negotiation.pngOnly with provider := name })
  | .execute .. => .finished (.ok response)
  | .materialize .. => .finished emptyWorld
  | .attachMetadata .. => emptyWorld
  | .attempt _ | .finishBreaker .. | .complete .. | .fail .. => ()

def hostedRun : List (Exchange (calls Unit)) × Outcome ImageResponse :=
  (executeLeader plainRuntime twoRoutes "request").run.drive (serves hostedResponse)

theorem hostedRun_follows : Follows (executeLeader plainRuntime twoRoutes "request").run hostedRun.1
    (.done hostedRun.2) :=
  drive_follows (serves hostedResponse) (executeLeader plainRuntime twoRoutes "request").run

theorem hostedRun_paid : Paid 0 hostedRun.1 ∧ Attempted 1 hostedRun.1 ∧ Paid 1 hostedRun.1 := by
  decide +kernel

/-- The primary provider is paid for an image the bridge cannot retrieve, and the
backup is attempted and paid as well. -/
theorem hosted_image_paid_twice : ∃ (rt : Runtime) (request : ImageRequest) (requestId : String)
    (trace : List (Exchange (calls Unit))) (result : Outcome ImageResponse),
    request.routing.fallbackPolicy = .onUnavailable ∧
      Follows (executeLeader rt request requestId).run trace (.done result) ∧
      Paid 0 trace ∧ Attempted 1 trace ∧ Paid 1 trace ∧ ¬NeverDuplicated trace := by
  obtain ⟨paid, attempted, again⟩ := hostedRun_paid
  exact ⟨plainRuntime, twoRoutes, "request", hostedRun.1, hostedRun.2, rfl,
    hostedRun_follows, paid, attempted, again, fun never => never 0 paid attempted⟩

/-- In that run a result before the last route's was refused. -/
theorem hosted_image_refused :
    ¬OnlyLastRefused plainRuntime.materializer.config 2 hostedRun.1 := by
  intro onlyLast
  obtain ⟨paid, attempted, _⟩ := hostedRun_paid
  exact (fallback_after_paid_iff rfl hostedRun_follows).1 onlyLast 0 paid attempted

end HostedImages

end ImagegenBridge.Orchestrator
