import ImagegenBridge.CodexAppServer.Rpc

/-!
# Delivery of one request

A request is handed to the writer at most once. Afterwards its error is the response of the
peer or an ambiguous one exactly when the connection did not lose it.
-/

namespace ImagegenBridge.CodexAppServer

open Program

/-- An error the peer responded with. -/
def Responded (error : BridgeError) : Prop := ∃ value, error = rpcResponseError value

/-- The report of an ambiguous outcome. -/
def Ambiguous (error : BridgeError) : Prop := error.outcomeUnknown = true ∧ error.retryable = false

/-- What happened to a request: whether it was handed to the writer, whether the connection
lost it, and what it was told. -/
structure Delivery where
  handed : Prop
  lost : Prop
  responses : List (Outcome Json)

def unsent : Delivery := ⟨False, False, []⟩

/-- The sender of a pending request answers it with the response of the peer or with the
failure of the connection. -/
def Delivery.told (delivery : Delivery) : Option (Outcome Json) → Delivery
  | none => { delivery with lost := True }
  | some (.ok value) => { delivery with responses := .ok value :: delivery.responses }
  | some (.error e) =>
    { delivery with
      lost := delivery.lost ∨ ¬Responded e ∧ ¬Ambiguous e
      responses := .error e :: delivery.responses }

def Delivery.next (delivery : Delivery) : (op : RpcOp) → op.Ans → Delivery
  | .lockWriter, _ => { delivery with handed := True }
  | .writeByte _, false | .flush, false => { delivery with lost := True }
  | .wait _, .answered result => delivery.told result
  | _, _ => delivery

abbrev deliveryMonitor : Monitor rpcCalls := ⟨Delivery, Delivery.next⟩

/-- The writer is taken once. -/
abbrev deliveryContract : Contract deliveryMonitor where
  Allow delivery
    | .lockWriter => ¬delivery.handed
    | _ => True
  Expect _ _ _ := True

/-- The peer refused a request. -/
def Delivery.Refused (delivery : Delivery) : Prop :=
  ∃ e, .error e ∈ delivery.responses ∧ Responded e

/-- How a side-effecting request ends: with the result it was told, or with an error that
tells of a request that was handed over exactly when the connection did not lose it. -/
def Told (delivery : Delivery) : Outcome Json → Prop
  | .ok value => delivery.handed ∧ ¬delivery.lost ∧ delivery.responses = [.ok value]
  | .error e => (∀ value, .ok value ∉ delivery.responses) ∧
    (delivery.handed → (Ambiguous e ∨ delivery.Refused ↔ ¬delivery.lost))

section

variable {delivery : Delivery} {id : Nat}

theorem delivery_keeps {α : Type} {op : RpcOp} {f : op.Ans → Rpc α}
    {post : α → Delivery → Prop} (allowed : deliveryContract.Allow delivery op)
    (continues : ∀ answer, (f answer).Keeps deliveryContract (delivery.next op answer) post) :
    (rpc op >>= f).Keeps deliveryContract delivery post :=
  ⟨allowed, fun answer _ => continues answer⟩

theorem protocolError_plain (message : String) : ¬Ambiguous (protocolError message) :=
  fun ambiguous => nomatch ambiguous.1

theorem requestInterrupted_ambiguous (code : ErrorCode) (message : String) :
    Ambiguous (requestInterrupted code message true id) := by
  constructor
  · simp only [requestInterrupted, if_true]
    rw [BridgeError.withDetail_outcome_ne _ _ (by decide),
      BridgeError.withDetail_outcome_ne _ _ (by decide)]
    exact BridgeError.withDetail_unknown _
  · rfl

theorem failConnection_delivery {error : BridgeError} {post : Unit → Delivery → Prop}
    (ends : post () delivery) : (failConnection error).Keeps deliveryContract delivery post :=
  ⟨trivial, fun _ _ => ⟨trivial, fun _ _ => ends⟩⟩

theorem writeAll_delivery {bytes : List UInt8} {post : Bool → Delivery → Prop}
    (stops : post false { delivery with lost := True }) (ends : post true delivery) :
    (writeAll bytes).Keeps deliveryContract delivery post := by
  induction bytes with
  | nil => exact ends
  | cons byte rest ih =>
    apply delivery_keeps trivial
    intro taken
    cases taken with
    | false => exact stops
    | true => exact ih

theorem writeFailed_delivery {message : String} {post : Outcome Unit → Delivery → Prop}
    (ends : ∀ message, post (.error (protocolError message)) delivery) :
    (writeFailed message).Keeps deliveryContract delivery post := by
  apply keeps_bind.mpr
  apply failConnection_delivery
  apply delivery_keeps trivial
  intro _
  exact ends message

/-- A write hands its line over, or loses it. -/
theorem write_delivery {rendered : List UInt8} {post : Outcome Unit → Delivery → Prop}
    (fresh : ¬delivery.handed) (sent : post (.ok ()) { delivery with handed := True })
    (failed : ∀ message, post (.error (protocolError message))
      { delivery with handed := True, lost := True }) :
    (write rendered).Keeps deliveryContract delivery post := by
  apply delivery_keeps fresh
  intro _
  apply keeps_bind.mpr
  apply writeAll_delivery
  · exact writeFailed_delivery failed
  · apply delivery_keeps trivial
    intro flushed
    cases flushed with
    | false => exact writeFailed_delivery failed
    | true =>
      apply delivery_keeps trivial
      intro _
      exact sent

/-- A request that was lost before a response came. -/
theorem told_lost (message : String) (silent : delivery.responses = []) (lost : delivery.lost) :
    Told delivery (.error (protocolError message)) := by
  refine ⟨fun value => by simp [silent], fun _ => ?_⟩
  constructor
  · rintro (ambiguous | ⟨e, refused, _⟩)
    · exact absurd ambiguous (protocolError_plain message)
    · rw [silent] at refused
      cases refused
  · exact fun kept => absurd lost kept

theorem awaitResponse_delivery (handed : delivery.handed) (kept : ¬delivery.lost)
    (silent : delivery.responses = []) :
    (awaitResponse true id).Keeps deliveryContract delivery
      fun result after => Told after result := by
  apply delivery_keeps trivial
  intro wakeup
  cases wakeup with
  | answered result =>
    cases result with
    | none => exact told_lost _ silent trivial
    | some result =>
      cases result with
      | ok value => exact ⟨handed, kept, congrArg _ silent⟩
      | error e =>
        have alone : (delivery.next (.wait id) (.answered (some (.error e)))).responses
            = [.error e] := congrArg _ silent
        refine ⟨fun value => by rw [alone]; simp, fun _ => ?_⟩
        constructor
        · rintro known (lost | ⟨unresponded, plain⟩)
          · exact kept lost
          · obtain ambiguous | ⟨e', told, responded⟩ := known
            · exact plain ambiguous
            · rw [alone] at told
              cases List.mem_singleton.mp told
              exact unresponded responded
        · intro kept
          by_cases ambiguous : Ambiguous e
          · exact .inl ambiguous
          · by_cases responded : Responded e
            · exact .inr ⟨e, List.mem_cons_self .., responded⟩
            · exact absurd (.inr ⟨responded, ambiguous⟩) kept
  | cancelled | elapsed =>
    apply delivery_keeps trivial
    intro _
    refine ⟨fun value told => ?_, fun _ => ?_⟩
    · have told : .ok value ∈ delivery.responses := told
      rw [silent] at told
      cases told
    constructor
    · exact fun _ => kept
    · exact fun _ => .inl (requestInterrupted_ambiguous _ _)

theorem sendRequest_delivery {rendered : List UInt8} :
    (sendRequest true id rendered).Keeps deliveryContract unsent
      fun result after => Told after result := by
  apply delivery_keeps trivial
  intro _
  apply keeps_bind.mpr
  apply write_delivery (fun handed => handed)
  · exact awaitResponse_delivery trivial (fun lost => lost) rfl
  · intro message
    apply delivery_keeps trivial
    intro _
    exact told_lost message rfl trivial

/-- A side-effecting request tells how it was delivered. -/
theorem request_delivery {codec : JsonText} {config : RpcConfig} {method : String} {params : Json} :
    (requestWithDelivery codec config method params true).Keeps deliveryContract unsent
      fun result after => Told after result := by
  apply delivery_keeps trivial
  intro closed
  cases closed with
  | some error => exact ⟨nofun, False.elim⟩
  | none =>
    apply delivery_keeps trivial
    intro id
    dsimp only
    split
    · exact ⟨nofun, False.elim⟩
    · exact sendRequest_delivery

end

end ImagegenBridge.CodexAppServer
