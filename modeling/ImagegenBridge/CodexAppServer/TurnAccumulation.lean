import ImagegenBridge.CodexAppServer.Sessions

/-!
# What a turn accumulates

The peer of a turn sends what it likes: items of other turns, items without a result, one item
many times. What has been taken from it stays inside the limits of the turn, and an item that
cannot be taken changes nothing of it.
-/

namespace ImagegenBridge.CodexAppServer

open Program

namespace TurnAccumulator

/-! ## Captures in place -/

/-- A routine that changes the accumulator as it goes, and keeps what it has changed when it
fails. -/
abbrev InPlace (α : Type) := ExceptT BridgeError (StateM TurnAccumulator) α

/-- `capture` on `&mut self`. -/
def captureInPlace (item : Json) : InPlace Unit := do
  let itemId ← requiredText (item.index "id") "completed image has no item ID"
  let turn ← get
  Outcome.failIf (itemId ∈ turn.completedItemIds)
    (appServerProtocolError "app-server returned a duplicate completed image item")
  Outcome.failIf (turn.images.length ≥ turn.maxImages)
    (appServerProtocolError "app-server returned more images than negotiated")
  let result ← requiredText (item.index "result") "completed image has no result"
  let nextResultBytes := turn.resultBytes + Text.len result
  Outcome.failIf (nextResultBytes ≥ 2 ^ 64)
    (appServerProtocolError "aggregate image result size overflowed")
  Outcome.failIf (nextResultBytes > turn.maxResultBytes)
    (appServerProtocolError "aggregate image results exceed the byte limit")
  let revised := ((item.index "revisedPrompt").asStr.orElse fun _ =>
    (item.index "revised_prompt").asStr).filter (· ≠ "")
  Outcome.failIf (revised.any (fun text => Text.len text > maxRevisedPromptBytes) = true)
    (appServerProtocolError "Codex revised prompt exceeds the configured limit")
  modify fun turn => { turn with completedItemIds := itemId :: turn.completedItemIds }
  modify fun turn => { turn with resultBytes := nextResultBytes }
  modify fun turn => { turn with images := turn.images ++ [result] }
  match revised with
  | some text => modify fun turn => { turn with revisedPrompt := some text }
  | none => pure ()

/-- What a routine returns and what it leaves. -/
def perform (routine : InPlace Unit) (turn : TurnAccumulator) : Outcome Unit × TurnAccumulator :=
  routine.run.run turn

/-- A routine makes one change, or fails and makes none. -/
def Decides (routine : InPlace Unit) (turn : TurnAccumulator) (next : Outcome TurnAccumulator) :
    Prop :=
  perform routine turn = match next with
    | Except.ok next => (Except.ok (), next)
    | Except.error e => (Except.error e, turn)

variable {α : Type} {turn : TurnAccumulator}

theorem decides_check {x : Outcome α} {f : α → InPlace Unit} {g : α → Outcome TurnAccumulator}
    (later : ∀ a, Decides (f a) turn (g a)) :
    Decides ((monadLift x : InPlace α) >>= f) turn (x >>= g) := by
  cases x with
  | error e => rfl
  | ok a => exact later a

theorem decides_get {f : TurnAccumulator → InPlace Unit} {next : Outcome TurnAccumulator}
    (later : Decides (f turn) turn next) : Decides (get >>= f) turn next := later

theorem captureInPlace_decides (item : Json) (turn : TurnAccumulator) :
    Decides (captureInPlace item) turn (turn.capture item) := by
  unfold captureInPlace capture
  apply decides_check
  intro itemId
  apply decides_get
  apply decides_check
  intro _
  apply decides_check
  intro _
  apply decides_check
  intro result
  apply decides_check
  intro _
  apply decides_check
  intro _
  apply decides_check
  intro _
  cases ((item.index "revisedPrompt").asStr.orElse fun _ =>
    (item.index "revised_prompt").asStr).filter (· ≠ "") with
  | none => rfl
  | some text => rfl

/-! ## The items that were taken -/

def itemId (item : Json) : Option String := (item.index "id").asStr

def itemResult (item : Json) : Option String := (item.index "result").asStr

/-- The accumulator holds these items, inside its limits. -/
structure Holds (turn : TurnAccumulator) (taken : List Json) : Prop where
  ids : turn.completedItemIds.reverse.map some = taken.map itemId
  distinct : turn.completedItemIds.Nodup
  images : turn.images.map some = taken.map itemResult
  few : turn.images.length ≤ turn.maxImages
  bytes : turn.resultBytes = (turn.images.map Text.len).sum
  room : turn.resultBytes ≤ turn.maxResultBytes

theorem requiredText_ok {value : Json} {message text : String}
    (found : requiredText value message = .ok text) : value.asStr = some text := by
  unfold requiredText nonEmptyText at found
  split at found
  · rename_i filtered
    cases found
    exact (Option.filter_eq_some_iff.mp filtered).1
  · cases found

/-- One more item, which was not there before and for which there is room. -/
structure Captured (item : Json) (turn next : TurnAccumulator) (id result : String) : Prop where
  named : itemId item = some id
  delivered : itemResult item = some result
  fresh : id ∉ turn.completedItemIds
  few : turn.images.length < turn.maxImages
  room : turn.resultBytes + Text.len result ≤ turn.maxResultBytes
  ids : next.completedItemIds = id :: turn.completedItemIds
  images : next.images = turn.images ++ [result]
  bytes : next.resultBytes = turn.resultBytes + Text.len result
  limits : next.maxImages = turn.maxImages ∧ next.maxResultBytes = turn.maxResultBytes

theorem capture_ok {item : Json} {turn next : TurnAccumulator}
    (captured : turn.capture item = .ok next) :
    ∃ id result, Captured item turn next id result := by
  unfold capture at captured
  obtain ⟨id, named, captured⟩ := Outcome.bind_ok.mp captured
  obtain ⟨_, fresh, captured⟩ := Outcome.bind_ok.mp captured
  obtain ⟨_, few, captured⟩ := Outcome.bind_ok.mp captured
  obtain ⟨result, delivered, captured⟩ := Outcome.bind_ok.mp captured
  obtain ⟨_, _, captured⟩ := Outcome.bind_ok.mp captured
  obtain ⟨_, room, captured⟩ := Outcome.bind_ok.mp captured
  obtain ⟨_, _, captured⟩ := Outcome.bind_ok.mp captured
  rw [Outcome.failIf_ok] at fresh few room
  cases captured
  exact ⟨id, result, requiredText_ok named, requiredText_ok delivered, fresh, Nat.not_le.mp few,
    Nat.not_lt.mp room, rfl, rfl, rfl, rfl, rfl⟩

theorem Holds.captured {taken : List Json} {item : Json} {turn next : TurnAccumulator}
    {id result : String} (holds : Holds turn taken) (captured : Captured item turn next id result) :
    Holds next (taken ++ [item]) where
  ids := by
    rw [captured.ids, List.reverse_cons, List.map_append, holds.ids, List.map_append]
    simp [captured.named]
  distinct := by
    rw [captured.ids]
    exact List.nodup_cons.mpr ⟨captured.fresh, holds.distinct⟩
  images := by
    rw [captured.images, List.map_append, holds.images, List.map_append]
    simp [captured.delivered]
  few := by
    rw [captured.images, captured.limits.1, List.length_append]
    exact captured.few
  bytes := by
    rw [captured.bytes, captured.images, List.map_append, List.sum_append, ← holds.bytes]
    simp
  room := by
    rw [captured.bytes, captured.limits.2]
    exact captured.room

/-! ## Notifications -/

/-- A notification of the turn is counted. -/
def observed (threadId turnId : String) (notification : RpcNotification) (turn : TurnAccumulator) :
    TurnAccumulator :=
  if belongsTo notification.params threadId turnId then turn.observe notification else turn

/-- What the loop of `run_turn` does to the accumulator at a notification. -/
def receive (threadId turnId : String) (notification : RpcNotification) : InPlace Unit := do
  modify (observed threadId turnId notification)
  match completedImage notification threadId turnId with
  | some item => captureInPlace item
  | none => pure ()

/-- The accumulator after these notifications, whether or not one of them failed. -/
def accumulated (threadId turnId : String) (turn : TurnAccumulator)
    (notifications : List RpcNotification) : TurnAccumulator :=
  notifications.foldl (fun turn notification => (perform (receive threadId turnId notification) turn).2)
    turn

variable {threadId turnId : String} {notification : RpcNotification} {taken : List Json}

theorem perform_receive :
    perform (receive threadId turnId notification) turn =
      match completedImage notification threadId turnId with
      | some item => perform (captureInPlace item) (observed threadId turnId notification turn)
      | none => (.ok (), observed threadId turnId notification turn) := by
  unfold receive
  cases completedImage notification threadId turnId <;> rfl

theorem Holds.observed (holds : Holds turn taken) :
    Holds (observed threadId turnId notification turn) taken := by
  unfold TurnAccumulator.observed
  split
  · exact ⟨holds.ids, holds.distinct, holds.images, holds.few, holds.bytes, holds.room⟩
  · exact holds

theorem observed_limits :
    (observed threadId turnId notification turn).maxImages = turn.maxImages ∧
      (observed threadId turnId notification turn).maxResultBytes = turn.maxResultBytes := by
  unfold observed
  split <;> exact ⟨rfl, rfl⟩

/-- One notification adds its item, or nothing. -/
theorem Holds.received (holds : Holds turn taken) :
    let next := (perform (receive threadId turnId notification) turn).2
    (next.maxImages = turn.maxImages ∧ next.maxResultBytes = turn.maxResultBytes) ∧
      ∃ more, more.Sublist (completedImage notification threadId turnId).toList ∧
        Holds next (taken ++ more) := by
  dsimp only
  have limits := @observed_limits turn threadId turnId notification
  have before : Holds (TurnAccumulator.observed threadId turnId notification turn) (taken ++ []) := by
    rw [List.append_nil]
    exact holds.observed
  rw [perform_receive]
  cases completed : completedImage notification threadId turnId with
  | none => exact ⟨limits, [], List.Sublist.refl _, before⟩
  | some item =>
    dsimp only
    have decides := captureInPlace_decides item
      (TurnAccumulator.observed threadId turnId notification turn)
    unfold Decides at decides
    rw [decides]
    cases captured : (TurnAccumulator.observed threadId turnId notification turn).capture item with
    | error e => exact ⟨limits, [], List.nil_sublist _, before⟩
    | ok next =>
      obtain ⟨id, result, one⟩ := capture_ok captured
      exact ⟨⟨one.limits.1.trans limits.1, one.limits.2.trans limits.2⟩, [item],
        List.Sublist.refl _, holds.observed.captured one⟩

/-- The induction is on the notifications; the items taken grow at the end. -/
theorem Holds.accumulated (notifications : List RpcNotification) (holds : Holds turn taken) :
    let next := accumulated threadId turnId turn notifications
    (next.maxImages = turn.maxImages ∧ next.maxResultBytes = turn.maxResultBytes) ∧
      ∃ more, more.Sublist (notifications.filterMap (completedImage · threadId turnId)) ∧
        Holds next (taken ++ more) := by
  induction notifications generalizing turn taken with
  | nil =>
    refine ⟨⟨rfl, rfl⟩, [], List.Sublist.refl _, ?_⟩
    rw [List.append_nil]
    exact holds
  | cons notification rest ih =>
    obtain ⟨limits, more, among, next⟩ := @Holds.received _ threadId turnId notification _ holds
    obtain ⟨limits', later, among', last⟩ := ih next
    refine ⟨⟨limits'.1.trans limits.1, limits'.2.trans limits.2⟩, more ++ later, ?_, ?_⟩
    · rw [List.filterMap_cons]
      cases completed : completedImage notification threadId turnId with
      | none =>
        rw [completed] at among
        rw [List.sublist_nil.mp among]
        exact among'
      | some item =>
        rw [completed] at among
        exact among.append among'
    · rw [← List.append_assoc]
      exact last

theorem newAccumulator_holds (config : AppServerProviderConfig) (request : ImageRequest) :
    Holds (newAccumulator config request) [] where
  ids := rfl
  distinct := List.nodup_nil
  images := rfl
  few := Nat.zero_le _
  bytes := rfl
  room := Nat.zero_le _

/-- Whatever the peer sends, the images of a turn are the results of distinct items that it
completed, no more and no longer than the turn allows. An item that is refused leaves the
accumulator as it was. -/
theorem turn_accumulation (config : AppServerProviderConfig) (request : ImageRequest)
    (threadId turnId : String) (notifications : List RpcNotification) :
    let turn := accumulated threadId turnId (newAccumulator config request) notifications
    turn.images.length ≤ request.parameters.n ∧
      turn.resultBytes = (turn.images.map Text.len).sum ∧
      turn.resultBytes ≤ (newAccumulator config request).maxResultBytes ∧
      (∃ taken : List Json,
        taken.Sublist (notifications.filterMap (completedImage · threadId turnId)) ∧
        (taken.map itemId).Nodup ∧ turn.images.map some = taken.map itemResult) ∧
      ∀ item error, (perform (captureInPlace item) turn).1 = .error error →
        (perform (captureInPlace item) turn).2 = turn := by
  obtain ⟨⟨few, room⟩, taken, among, holds⟩ := @Holds.accumulated _ threadId turnId _ notifications
    (newAccumulator_holds config request)
  rw [List.nil_append] at holds
  dsimp only at few room holds ⊢
  generalize accumulated threadId turnId (newAccumulator config request) notifications = turn at *
  refine ⟨holds.few.trans few.le, holds.bytes, holds.room.trans room.le, ⟨taken, among, ?_, holds.images⟩, ?_⟩
  · rw [← holds.ids]
    exact (List.nodup_reverse.mpr holds.distinct).map (Option.some_injective _)
  · intro item error failed
    have decides := captureInPlace_decides item turn
    unfold Decides at decides
    rw [decides] at failed ⊢
    cases captured : turn.capture item with
    | error e => rfl
    | ok next =>
      rw [captured] at failed
      cases failed

end TurnAccumulator

open TurnAccumulator

/-! ## The loop -/

/-- The notifications that the loop was handed. -/
abbrev handedMonitor : Monitor providerCalls where
  State := List RpcNotification
  next notifications op answer := match op, answer with
    | .receive _ _, .received notification => notifications ++ [notification]
    | _, _ => notifications

/-- Nothing is asked of the program. -/
abbrev handedContract : Contract handedMonitor where
  Allow _ _ := True
  Expect _ _ _ := True

theorem keeps_anyway {α : Type} (p : Program providerCalls α) (s : List RpcNotification) :
    p.Keeps handedContract s fun _ _ => True := by
  induction p generalizing s with
  | done result => trivial
  | await op next ih => exact ⟨trivial, fun answer _ => ih answer _⟩

theorem interrupted_fails {p : AppServerImageProvider} {rounds : Nat} {threadId turnId : String}
    {report : Outcome String → BridgeError} {s : List RpcNotification}
    {ok : TurnImages → List RpcNotification → Prop} :
    Tries handedContract (interrupted p rounds threadId turnId report) s ok fun _ _ => True := by
  apply tries_bind.mpr
  rw [tries_lift]
  apply (keeps_anyway _ s).mono
  intro confirmed later _
  trivial

theorem turnResult_images {notification : RpcNotification} {request : ImageRequest}
    {turn : TurnAccumulator} {result : TurnImages}
    (ended : turnResult notification request turn = .ok result) : result.images = turn.images := by
  unfold turnResult at ended
  dsimp only at ended
  split_ifs at ended
  cases ended
  rfl

/-- A turn that delivers images delivers those that it has accumulated. -/
theorem followTurn_accumulates (p : AppServerImageProvider) (threadId turnId : String)
    (turnRequest : ImageRequest) (rounds : Nat) (turn : TurnAccumulator)
    (notifications : List RpcNotification) :
    Tries handedContract (followTurn p threadId turnId turnRequest rounds turn) notifications
      (fun result later => ∃ more, later = notifications ++ more ∧
        result.images = (accumulated threadId turnId turn more).images) fun _ _ => True := by
  induction rounds generalizing turn notifications with
  | zero => exact tries_bind.mpr ((tries_lift _).mpr ⟨trivial, fun never => nomatch never⟩)
  | succ rounds ih =>
    apply tries_awaited trivial
    intro wakeup
    cases wakeup with
    | failed error => trivial
    | cancelled | elapsed => exact interrupted_fails
    | received notification =>
      have captured : ∀ next, (completedImage notification threadId turnId).elim
          (.ok (observed threadId turnId notification turn))
          (observed threadId turnId notification turn).capture = .ok next →
          (perform (receive threadId turnId notification) turn).2 = next := by
        intro next taken
        rw [perform_receive]
        cases completed : completedImage notification threadId turnId with
        | none =>
          rw [completed] at taken
          exact Except.ok.inj taken
        | some item =>
          rw [completed] at taken
          have decides := captureInPlace_decides item (observed threadId turnId notification turn)
          unfold Decides at decides
          dsimp only
          rw [decides, show TurnAccumulator.capture item _ = _ from taken]
      dsimp only
      split
      · exact interrupted_fails
      · rename_i next taken
        split
        · cases ended : turnResult notification turnRequest next with
          | error e => trivial
          | ok result =>
            refine ⟨[notification], rfl, ?_⟩
            rw [turnResult_images ended, ← captured next taken]
            rfl
        · apply (ih next (notifications ++ [notification])).mono
          · rintro result later ⟨more, same, images⟩
            refine ⟨notification :: more, same.trans (List.append_assoc ..), ?_⟩
            rw [images, ← captured next taken]
            rfl
          · intro e later _
            trivial

end ImagegenBridge.CodexAppServer
