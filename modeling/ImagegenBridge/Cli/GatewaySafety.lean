import ImagegenBridge.Cli.Gateway

/-!
# What a retryable answer of the gateway means

Nothing but the last step sends the request. Every answer of the gateway's own invites another
attempt, the one for a request that has reached a backend as well.
-/

namespace ImagegenBridge.Gateway

open Program

variable {Url α β : Type}

/-- Some of the request reached a backend. -/
def delivers : Exchange (gatewayCalls Url) → Bool
  | ⟨.send _, .unanswered _⟩ | ⟨.send _, .answered ..⟩ => true
  | _ => false

/-- Some of the request reached a backend that did not answer. -/
def losesAnswer : Exchange (gatewayCalls Url) → Bool
  | ⟨.send _, .unanswered _⟩ => true
  | _ => false

/-- An error of the gateway's own that invites another attempt. -/
structure OwnRetryable (response : Response) : Prop where
  retryable : ∃ value, response.body = .json value ∧
    (value.index "error").index "retryable" = .bool true
  retryAfter : retryAfter ∈ response.headers

theorem unavailable_ownRetryable (message : String) : OwnRetryable (unavailable message) :=
  ⟨⟨_, rfl, rfl⟩, by simp [unavailable]⟩

theorem not_ownRetryable_of_stream {response : Response} {chunks : List Bytes} {ending : Ending}
    (body : response.body = .stream chunks ending) : ¬OwnRetryable response := by
  rintro ⟨⟨other, same, _⟩, _⟩
  cases body.symm.trans same

/-! ## What has reached a backend -/

structure Delivery where
  delivered : Prop
  lost : Prop

abbrev deliveryMonitor (Url : Type) : Monitor (gatewayCalls Url) where
  State := Delivery
  next s op answer :=
    ⟨s.delivered ∨ delivers ⟨op, answer⟩ = true, s.lost ∨ losesAnswer ⟨op, answer⟩ = true⟩

abbrev freeContract (Url : Type) : Contract (deliveryMonitor Url) :=
  ⟨fun _ _ => True, fun _ _ _ => True⟩

def Unsent : Delivery := ⟨False, False⟩

/-- What a response says about the request. -/
structure Settled (response : Response) (s : Delivery) : Prop where
  lost : s.lost → OwnRetryable response
  delivered : OwnRetryable response → s.delivered → s.lost

/-- Anything but sending the request. -/
def Quiet : GatewayOp Url → Prop
  | .send _ => False
  | _ => True

theorem next_quiet {op : GatewayOp Url} (quiet : Quiet op) (answer : op.Ans) (s : Delivery) :
    (deliveryMonitor Url).next s op answer = s := by
  cases op with
  | send => exact quiet.elim
  | _ => simp [delivers, losesAnswer]

theorem keeps_quiet {p : Serving Url α} {f : α → Serving Url β} {s : Delivery}
    {post : β → Delivery → Prop} (quiet : p.Uses Quiet)
    (rest : ∀ a, (f a).Keeps (freeContract Url) s post) :
    (p >>= f).Keeps (freeContract Url) s post := by
  have unseen := quiet.keeps (c := freeContract Url) (s := s) (fun _ _ => trivial)
    fun op answer fits => next_quiet fits answer s
  refine keeps_bind.mpr (unseen.mono fun a t same => ?_)
  rw [same]
  exact rest a

/-! ## The steps -/

variable (join : Url → String → Option Url) (state : GatewayState Url)

theorem stall_uses {kind : GatewayOp Url → Prop} (fits : kind .stall) :
    (stall : Serving Url α).Uses kind :=
  (uses_ask fits).bind fun never => nomatch never

theorem selectedReadyBackend_quiet : (selectedReadyBackend join state).run.Uses Quiet := by
  have known {γ : Type} (found : Option γ) :
      (OptionT.mk (Program.done found) : OptionT (Program (gatewayCalls Url)) γ).run.Uses Quiet :=
    trivial
  refine Uses.bind_finds (uses_ask trivial) fun slot => ?_
  refine Uses.bind_finds (known _) fun backend => ?_
  refine Uses.bind_finds (known _) fun health => ?_
  exact Uses.bind_finds (uses_ask trivial) fun status => known _

theorem hold_quiet (deadline rounds : Nat) : (hold join state deadline rounds).Uses Quiet := by
  induction rounds with
  | zero => exact stall_uses trivial
  | succ rounds ih =>
    refine (selectedReadyBackend_quiet join state).bind ?_
    rintro (_ | backend)
    · refine (uses_ask trivial).bind fun now => ?_
      split
      · trivial
      · exact (uses_ask trivial).bind fun _ => ih
    · trivial

theorem boundedStream_keeps (deadline rounds : Nat) (chunks : List Bytes) (s : Delivery) :
    (boundedStream state deadline rounds chunks).Keeps (freeContract Url) s
      fun body t => t = s ∧ ∃ chunks ending, body = .stream chunks ending := by
  induction rounds generalizing chunks with
  | zero => exact keeps_quiet (uses_ask trivial) fun never => nomatch never
  | succ rounds ih =>
    refine keeps_quiet (uses_ask trivial) fun now => keeps_quiet (uses_ask trivial) ?_
    rintro (bytes | _ | _ | _)
    · exact ih (chunks ++ [bytes])
    · exact ⟨rfl, _, _, rfl⟩
    · exact ⟨rfl, _, _, rfl⟩
    · exact ⟨rfl, _, _, rfl⟩

theorem settled_undelivered (response : Response) {s : Delivery} (undelivered : ¬s.delivered)
    (kept : ¬s.lost) : Settled response s :=
  ⟨fun lost => (kept lost).elim, fun _ delivered => (undelivered delivered).elim⟩

theorem answer_keeps (rounds deadline status : Nat) (headers : Headers) {s : Delivery}
    (answered : ¬s.lost) : (answer state rounds deadline status headers).Keeps (freeContract Url) s
      Settled := by
  refine keeps_bind.mpr ((boundedStream_keeps state deadline rounds [] s).mono ?_)
  rintro body t ⟨rfl, chunks, ending, rfl⟩
  exact ⟨fun lost => (answered lost).elim, fun own => (not_ownRetryable_of_stream rfl own).elim⟩

theorem forward_keeps (rounds : Nat) (backend : Url) (request : Request) :
    (forward join state rounds backend request).Keeps (freeContract Url) Unsent Settled := by
  refine keeps_quiet (uses_ask trivial) fun now => ?_
  split
  · exact settled_undelivered _ id id
  · refine ⟨trivial, fun sent _ => ?_⟩
    cases sent with
    | undelivered failure =>
      exact settled_undelivered _ (by simp [Unsent, delivers]) (by simp [Unsent, losesAnswer])
    | unanswered failure =>
      exact ⟨fun _ => unavailable_ownRetryable _, fun _ _ => .inr rfl⟩
    | answered status headers =>
      refine answer_keeps state rounds _ status headers ?_
      simp [Unsent, losesAnswer]

theorem proxy_keeps (rounds : Nat) (request : Request) :
    (proxy join state rounds request).Keeps (freeContract Url) Unsent Settled := by
  refine keeps_quiet (uses_ask trivial) fun now => ?_
  refine keeps_quiet (hold_quiet join state _ rounds) ?_
  rintro (_ | backend)
  · exact settled_undelivered _ id id
  · exact forward_keeps join state rounds backend request

theorem gatewayReadiness_keeps :
    (gatewayReadiness join state).Keeps (freeContract Url) Unsent Settled := by
  refine keeps_quiet (selectedReadyBackend_quiet join state) ?_
  rintro (_ | backend) <;> exact settled_undelivered _ id id

theorem route_keeps (rounds : Nat) (request : Request) :
    (route join state rounds request).Keeps (freeContract Url) Unsent Settled := by
  unfold route
  dsimp only
  split
  · split <;> exact settled_undelivered _ id id
  · split
    · split
      · exact gatewayReadiness_keeps join state
      · exact settled_undelivered _ id id
    · exact proxy_keeps join state rounds request

theorem app_keeps (maxBodyBytes rounds : Nat) (request : Request) :
    (app join state maxBodyBytes rounds request).Keeps (freeContract Url) Unsent Settled := by
  unfold app
  split
  · exact settled_undelivered _ id id
  · refine keeps_quiet (uses_ask trivial) fun admitted => ?_
    split
    · exact route_keeps join state rounds request
    · exact settled_undelivered _ id id

/-! ## Whole requests -/

/-- An answer that invites another attempt says that nothing reached a backend, and a request
whose answer was lost does not get one. -/
structure Safe (trace : List (Exchange (gatewayCalls Url))) (response : Response) : Prop where
  undelivered : OwnRetryable response → ∀ exchange ∈ trace, delivers exchange = false
  lost : (∃ exchange ∈ trace, losesAnswer exchange = true) → ¬OwnRetryable response

theorem delivered_after (trace : List (Exchange (gatewayCalls Url))) :
    ((deliveryMonitor Url).after Unsent trace).delivered ↔
      ∃ exchange ∈ trace, delivers exchange = true :=
  (@after_records _ (deliveryMonitor Url) (·.delivered) (delivers · = true)
    (fun _ _ _ => Iff.rfl) Unsent trace).trans (or_iff_right id)

theorem lost_after (trace : List (Exchange (gatewayCalls Url))) :
    ((deliveryMonitor Url).after Unsent trace).lost ↔
      ∃ exchange ∈ trace, losesAnswer exchange = true :=
  (@after_records _ (deliveryMonitor Url) (·.lost) (losesAnswer · = true)
    (fun _ _ _ => Iff.rfl) Unsent trace).trans (or_iff_right id)

/-- The gateway is safe exactly when no request that reaches a backend loses its answer. -/
theorem gateway_safe_iff (maxBodyBytes rounds : Nat) (request : Request)
    {trace : List (Exchange (gatewayCalls Url))} {response : Response}
    (run : Follows (app join state maxBodyBytes rounds request) trace (.done response)) :
    Safe trace response ↔ ∀ exchange ∈ trace, losesAnswer exchange = false := by
  have settled : Settled response _ := Keeps.follows
    (app_keeps join state maxBodyBytes rounds request) run
    (expectsAll_free (fun _ _ _ => trivial) _ _)
  have lost := lost_after trace
  have delivered := delivered_after trace
  constructor
  · intro safe exchange sent
    refine Bool.eq_false_iff.mpr fun losing => ?_
    have some_lost : ∃ exchange ∈ trace, losesAnswer exchange = true := ⟨exchange, sent, losing⟩
    exact safe.lost some_lost (settled.lost (lost.mpr some_lost))
  · intro keeps
    have none_lost : ¬∃ exchange ∈ trace, losesAnswer exchange = true := by
      rintro ⟨exchange, sent, losing⟩
      exact Bool.false_ne_true ((keeps exchange sent).symm.trans losing)
    refine ⟨fun own exchange sent => Bool.eq_false_iff.mpr fun reached => ?_,
      fun some_lost => (none_lost some_lost).elim⟩
    exact none_lost (lost.mp (settled.delivered own (delivered.mpr ⟨exchange, sent, reached⟩)))

def appendPath (base path : String) : Option String := some (base ++ path)

def twoSlots : GatewayState String := ⟨"http://blue/", "http://green/", 30000, 250, 60000, 5000⟩

def post : Request := ⟨"POST", "/v1/images/generations", some "/v1/images/generations", [], some 2⟩

/-- The blue slot is ready, takes the request and answers too late. -/
def lateAnswers : (op : GatewayOp String) → Option op.Ans
  | .admitted => some true
  | .readState => some (some "blue")
  | .probe _ => some (some 200)
  | .now => some 0
  | .sleep _ => some ()
  | .send _ => some (.unanswered .deadline)
  | .nextChunk _ => some .ended
  | .stall => none

def sent : Outgoing String := ⟨"POST", "http://blue/v1/images/generations", [], 60000⟩

def lateTrace : List (Exchange (gatewayCalls String)) :=
  [⟨.admitted, true⟩, ⟨.now, (0 : Nat)⟩, ⟨.readState, some "blue"⟩,
    ⟨.probe "http://blue/health/ready", some (200 : Nat)⟩, ⟨.now, (0 : Nat)⟩,
    ⟨.send sent, SendAnswer.unanswered .deadline⟩]

theorem late_follows : Follows (app appendPath twoSlots 1024 1 post) lateTrace
    (.done (unavailable "active backend did not return headers before the request deadline")) :=
  @driven_follows _ _ lateAnswers _ _ _ rfl

theorem gateway_safe_iff_late :
    Safe lateTrace
        (unavailable "active backend did not return headers before the request deadline") ↔
      ∀ exchange ∈ lateTrace, losesAnswer exchange = false :=
  gateway_safe_iff appendPath twoSlots 1024 1 post late_follows

theorem late_answer_invites_retry :
    ∃ response, Follows (app appendPath twoSlots 1024 1 post) lateTrace (.done response) ∧
      OwnRetryable response ∧ (∃ exchange ∈ lateTrace, delivers exchange = true) ∧
      ¬Safe lateTrace response := by
  have own := unavailable_ownRetryable
    "active backend did not return headers before the request deadline"
  have reached : ⟨.send sent, SendAnswer.unanswered .deadline⟩ ∈ lateTrace := by simp [lateTrace]
  refine ⟨_, late_follows, own, ⟨_, reached, rfl⟩, fun safe => ?_⟩
  exact safe.lost ⟨_, reached, rfl⟩ own

end ImagegenBridge.Gateway
