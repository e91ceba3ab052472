import ImagegenBridge.CodexAppServer.ConnectionSteps

/-!
# Requests at the close of a connection

A failure takes the map of pending requests, answers them, and publishes that the
connection is closed. A request reads the closed flag before it registers, so its
registration may come after both.
-/

namespace ImagegenBridge.CodexAppServer

open Program Snapshot

/-- Once the connection is closed no request waits for its response. -/
def Settled (v : RpcView) : Prop :=
  v.shared.closed ≠ none → v.shared.pending = [] ∧
    ∀ caller phase id, v.phase caller = some phase → phase.entry = some id →
      v.shared.channels id ≠ none

/-- Requests register before a failure takes the map. -/
def InTime (v : RpcView) : PoolEvent rpcCalls → Prop
  | .exchanged _ ⟨.register _, _⟩ => v.shared.drained = false
  | _ => True

section

variable {codec : JsonText} {config : RpcConfig} {v v' : RpcView} {event : PoolEvent rpcCalls}

/-- Without late registrations the map stays empty. -/
theorem step_emptied (emptied : v.shared.drained = true → v.shared.pending = [])
    (step : RpcStep codec config v event v') (met : InTime v event) :
    v'.shared.drained = true → v'.shared.pending = [] := by
  cases step with
  | spawn => exact emptied
  | @drop id phase op shared live allowed abandons =>
    obtain rfl := abandons_released abandons
    exact emptied
  | @exchange id phase op answer shared live allowed _ performs =>
    cases op with
    | checkClosed | nextId | lockWriter =>
      obtain ⟨_, rfl⟩ := performs
      exact emptied
    | wait n =>
      obtain ⟨rfl, _⟩ := performs
      exact emptied
    | register n =>
      obtain rfl := performs
      intro drained
      cases met.symm.trans drained
    | unregister n =>
      obtain rfl := performs
      intro drained
      simp [Snapshot.exchange, Connection.remove, emptied drained]
    | flush | unlockWriter | publish error =>
      obtain rfl := performs
      exact emptied
    | writeByte byte =>
      obtain rfl := performs
      cases answer <;> exact emptied
    | dispatch line =>
      obtain ⟨_, rfl⟩ := performs
      intro drained
      obtain ⟨_, _, _, same⟩ := @receive_frame codec config v.shared line
      have before : v.shared.drained = true := by
        rw [← drained]
        simp only [Snapshot.exchange, same]
      apply List.eq_nil_iff_forall_not_mem.mpr
      intro other member
      have earlier := (settles_receive.pending other member).1
      rw [emptied before] at earlier
      cases earlier
    | drain error =>
      obtain rfl := performs
      intro _
      rfl

theorem inTime_settled {s : RpcPool} (run : RpcRun codec config InTime s) : Settled s.view := by
  let Emptied : RpcView → Prop := fun v => v.shared.drained = true → v.shared.pending = []
  have start : Emptied (Snapshot.empty Connection.initial) := fun _ => rfl
  obtain ⟨⟨orderly, emptied⟩, _⟩ := rpcRun_invariant start
    (fun v event v' _ before step met => step_emptied before step met) run
  intro closed
  have none_left := emptied (orderly.flagged.closed closed)
  refine ⟨none_left, ?_⟩
  intro caller phase id live registered
  apply (orderly.ids.entered caller phase id live registered).resolve_left
  rw [none_left]
  exact List.not_mem_nil

theorem not_settled {id : Nat} (closed : v.shared.closed ≠ none) (left : id ∈ v.shared.pending) :
    ¬Settled v := by
  intro settled
  rw [(settled closed).1] at left
  cases left

/-- Every request is answered before the connection is known to be closed, as long as none
registers after a failure took the map; one that does is left in the map. -/
theorem close_completeness :
    (∀ s, RpcRun codec config InTime s → Settled s.view) ∧
    ∀ (s s' : RpcPool) (caller id : Nat), s.view.shared.drained = true →
      RpcPoolStep codec config s (.exchanged caller ⟨.register id, ()⟩) s' →
        (s.view.shared.closed ≠ none → ¬Settled s'.view) ∧
        ∀ (s'' : RpcPool) (closer : Nat) (error : BridgeError),
          RpcPoolStep codec config s' (.exchanged closer ⟨.publish error, ()⟩) s'' →
            ¬Settled s''.view := by
  constructor
  · exact fun s run => inTime_settled run
  · intro s s' caller id _ registers
    have registered : s'.view.shared = _ := registers.performs
    have left : id ∈ s'.view.shared.pending := by
      rw [registered]
      exact List.mem_cons_self ..
    constructor
    · intro closed
      apply not_settled _ left
      rw [registered]
      exact closed
    · intro s'' closer error publishes
      have published : s''.view.shared = _ := publishes.performs
      have closed : s''.view.shared.closed ≠ none := by
        rw [published]
        exact Option.some_ne_none error
      have still : id ∈ s''.view.shared.pending := by
        rw [published]
        exact left
      exact not_settled closed still

end

/-- The peer closes the connection between a request's look at the closed flag and its
registration. -/
def lateRegistration : List (Pool.Move rpcCalls RpcEnd) :=
  [.spawn (startTurn (turnCodec .null)), .go 0, .go 0,
    .spawn (readLoop [] >>= fun _ => pure .reader), .go 1, .go 1]
    ++ List.replicate (firstLine.length + 5) (.go 0)

/-- The request waits for a response on a connection that is closed. -/
def waitsAfterClose (s : RpcPool) : Bool :=
  s.view.shared.closed.isSome && (s.view.shared.channels 1).isNone
    && (s.view.phase 0).any (fun phase => phase.entry = some 1)
    && (match s.code 0 with
      | .await (.wait 1) _ => true
      | _ => false)

theorem late_registration_plays :
    (rpcSchedule (turnCodec .null) turnConfig lateRegistration).any waitsAfterClose = true := by
  rfl

/-- It waits until its own deadline. -/
theorem late_registration_waits : ∃ s : RpcPool,
    RpcRun (turnCodec .null) turnConfig (fun _ _ => True) s ∧ waitsAfterClose s = true ∧
      ¬Settled s.view := by
  obtain ⟨s, scheduled, waits⟩ := (Option.any_eq_true ..).mp late_registration_plays
  refine ⟨s, rpcSchedule_run ?_ scheduled, waits, ?_⟩
  · intro p member
    simp only [lateRegistration, List.mem_append, List.mem_cons, List.mem_replicate, reduceCtorEq,
      and_false, false_or, or_false, List.not_mem_nil, Pool.Move.spawn.injEq] at member
    obtain rfl | rfl := member
    · exact .request ..
    · exact .reader _
  · intro settled
    simp only [waitsAfterClose, Bool.and_eq_true, Option.isSome_iff_ne_none] at waits
    obtain ⟨⟨⟨closed, unanswered⟩, registered⟩, _⟩ := waits
    obtain ⟨phase, live, own⟩ := (Option.any_eq_true ..).mp registered
    exact (settled closed).2 0 phase 1 live (of_decide_eq_true own)
      (Option.isNone_iff_eq_none.mp unanswered)

end ImagegenBridge.CodexAppServer
