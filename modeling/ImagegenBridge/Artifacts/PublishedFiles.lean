import ImagegenBridge.Artifacts.Retrieval

/-!
# What a publication leaves alone

A publication makes directories, writes temporary files and gives them names that nothing has.
Files that have their names already stay as they are.
-/

namespace ImagegenBridge.ArtifactStore

open Inspect Materialize Files Program

variable {α β : Type} {s t : Session} {x : Action α}

/-- Files with final names are still what they were. -/
def Grown (before after : Tree) : Prop :=
  ∀ path bytes, ¬Temporary path → before path = some (.file bytes) → after path = some (.file bytes)

theorem Grown.refl (tree : Tree) : Grown tree tree := fun _ _ _ present => present

theorem Grown.trans {first second third : Tree} (before : Grown first second)
    (after : Grown second third) : Grown first third :=
  fun path bytes final present => after path bytes final (before path bytes final present)

/-- Operations that replace and remove temporary files only. -/
def Adds : Op → Prop
  | .write temporary _ | .persistNoclobber temporary _ | .act (.discard temporary) =>
    Temporary temporary
  | .act (.persist _ _) | .act (.remove _) => False
  | _ => True

def adding : Terms where
  allow _ op := Adds op
  mayFail _ _ := True

/-! ## One operation -/

theorem grown_update {tree : Tree} {path : Path} {node : Option Node}
    (loose : Temporary path ∨ tree path = none) : Grown tree (Function.update tree path node) := by
  intro other bytes final present
  have apart : other ≠ path := by
    rintro rfl
    obtain temporary | free := loose
    · exact final temporary
    · rw [free] at present
      cases present
  rw [Function.update_of_ne apart, present]

theorem grown_moved {tree : Tree} {temporary destination : Path} (loose : Temporary temporary)
    (free : tree destination = none) : Grown tree (moved tree temporary destination) :=
  (grown_update (.inr free)).trans (grown_update (.inl loose))

theorem grown_change {op : Op} {answer : Ans op} (adds : Adds op)
    (truthful : Truthful s op answer) : Grown s.tree (change s.tree op answer) := by
  cases op with
  | stat | read | canonicalize | nextEntry => exact .refl _
  | createTemporary directory =>
    cases answer with
    | error => exact .refl _
    | ok name => exact grown_update (.inr truthful.2.2)
  | write temporary bytes => cases answer <;> exact grown_update (.inl adds)
  | persistNoclobber temporary destination =>
    cases answer with
    | occupied | failed => exact .refl _
    | moved => exact grown_moved adds truthful.2
  | act act =>
    cases answer with
    | failed => exact .refl _
    | done =>
      have able : performable s.tree act = true := truthful
      cases act with
      | sync | openDirectory => exact .refl _
      | createDirectory path =>
        simp only [performable, Bool.and_eq_true, Option.isNone_iff_eq_none] at able
        exact grown_update (.inr able.1)
      | persist | remove => cases adds
      | discard path => exact grown_update (.inl adds)

/-! ## Actions -/

/-- Wherever it starts, an action asks for nothing else. -/
def Adding (x : Action α) (ok : α → Prop) : Prop :=
  ∀ s, Tries (contract adding) x s (fun a _ => ok a) fun _ _ => True

/-- An action that succeeds has left every file with a final name. -/
def Growing (x : Action α) : Prop :=
  ∀ s, Tries (contract unreliable) x s (fun _ t => Grown s.tree t.tree) fun _ _ => True

theorem Adding.growing {ok : α → Prop} (adding : Adding x ok) : Growing x := by
  intro s
  have start : Grown s.tree s.tree := .refl s.tree
  have kept : x.run.Keeps (contract ArtifactStore.adding) s
      fun _ t => True ∧ Grown s.tree t.tree := by
    refine Keeps.and_invariant ?_ (Keeps.mono (adding s) fun _ _ _ => trivial) start
    rintro u op answer before adds ⟨truthful, _⟩
    exact before.trans (grown_change adds truthful)
  refine keeps_relax (fun _ _ _ => trivial) (fun _ _ _ => trivial) (Keeps.mono kept ?_)
  rintro (e | a) t ⟨_, grown⟩
  · trivial
  · exact grown

theorem growing_pure (a : α) : Growing (pure a) := fun s => .refl s.tree

theorem growing_throw (e : BridgeError) : Growing (throw e : Action α) := fun _ => trivial

theorem Growing.bind {f : α → Action β} (first : Growing x) (rest : ∀ a, Growing (f a)) :
    Growing (x >>= f) := by
  intro s
  rw [tries_bind]
  apply (first s).mono
  · intro a t grown
    apply (rest a t).mono
    · intro b u later
      exact grown.trans later
    · intro e u _
      trivial
  · intro e t _
    trivial

theorem Growing.compensated {undo : List Act} (growing : Growing x) :
    Growing (compensated x undo) := by
  intro s
  apply tries_compensated
  apply (growing s).mono
  · intro a t grown
    exact grown
  · intro e t _
    have free : ∀ acts, (performAll acts).Keeps (contract unreliable) t fun _ _ => True := by
      intro acts
      induction acts generalizing t with
      | nil => trivial
      | cons act rest ih =>
        refine ⟨trivial, ?_⟩
        intro answer _
        exact ih _
    exact free undo

theorem adding_pure {ok : α → Prop} {a : α} (fine : ok a) : Adding (pure a) ok := fun _ => fine

theorem adding_throw {ok : α → Prop} (e : BridgeError) : Adding (throw e) ok := fun _ => trivial

theorem Adding.bind {ok : α → Prop} {ok' : β → Prop} {f : α → Action β} (first : Adding x ok)
    (rest : ∀ a, ok a → Adding (f a) ok') : Adding (x >>= f) ok' := by
  intro s
  rw [tries_bind]
  apply (first s).mono
  · intro a t fine
    exact rest a fine t
  · intro e t _
    trivial

theorem adding_refuse (p : Prop) [Decidable p] (message : String) :
    Adding (refuse p message) fun _ => True := by
  intro s
  apply tries_refuse
  · intro _
    trivial
  · intro _ _
    trivial

theorem adding_ask (op : Op) (adds : Adds op) :
    Adding (ExceptT.lift (.await op .done)) fun _ => True :=
  fun _ => ⟨adds, fun _ _ => trivial⟩

theorem adding_decide (op : Op) (adds : Adds op) (decides : Ans op → Except BridgeError β) :
    Adding (orRaise (.await op .done) decides) fun _ => True := by
  intro s
  apply tries_orRaise.mpr
  refine ⟨adds, ?_⟩
  intro answer _
  unfold Keeps
  dsimp only
  split <;> trivial

theorem adding_create (directory : Path) (message : String → String) :
    Adding (orRaise (createTemporary directory) fun
      | .ok name => .ok name
      | .error reason => .error (artifactError (message reason))) IsTemporary := by
  intro s
  apply tries_orRaise.mpr
  refine ⟨trivial, ?_⟩
  rintro (reason | name) ⟨truthful, _⟩
  · trivial
  · exact truthful.1

theorem adding_discard {temporary : Path} {ok : α → Prop} (named : Temporary temporary)
    (e : BridgeError) :
    Adding (ExceptT.lift (perform (.discard temporary)) >>= fun _ => (throw e : Action α)) ok :=
  (adding_ask (.act (.discard temporary)) named).bind fun _ _ => adding_throw e

/-! ## The parts of a publication -/

theorem adding_writeTemporary (directory : Path) (bytes : Bytes) (uncreated unwritten : String → String) :
    Adding (writeTemporary directory bytes uncreated unwritten) Temporary := by
  apply (adding_create directory uncreated).bind
  intro name named
  have temporary : Temporary (directory ++ [name]) := ⟨directory, name, rfl, named⟩
  apply (adding_ask (.write (directory ++ [name]) bytes) temporary).bind
  intro written _
  cases written with
  | complete => exact adding_pure temporary
  | partway part reason => exact adding_discard temporary _

theorem adding_placeTemporary {temporary : Path} (named : Temporary temporary) (destination : Path)
    (message : String → String) : Adding (placeTemporary temporary destination message) fun _ => True := by
  apply (adding_ask (.persistNoclobber temporary destination) named).bind
  intro placed _
  cases placed with
  | moved => exact adding_pure trivial
  | occupied reason | failed reason => exact adding_discard named _

theorem adding_syncDirectory (directory : Path) : Adding (syncDirectory directory) fun _ => True :=
  adding_decide (.act (.sync directory)) trivial _

theorem adding_publishOwnership (record : OwnershipRecord) :
    Adding (publishOwnership record) fun _ => True := by
  apply (adding_decide (.stat ownershipRoot) trivial checkOwnershipRoot).bind
  intro _ _
  apply (adding_refuse _ _).bind
  intro _ _
  apply (adding_writeTemporary _ _ _ _).bind
  intro temporary named
  apply (adding_placeTemporary named _ _).bind
  intro _ _
  exact adding_syncDirectory _

theorem adding_enterDirectory (current : Path) (components : List String) :
    Adding (enterDirectory current components) fun _ => True := by
  induction components generalizing current with
  | nil => exact adding_pure trivial
  | cons component rest ih =>
    have enters : Adding (enterComponent (current ++ [component])) fun _ => True := by
      apply (adding_ask (.stat (current ++ [component])) trivial).bind
      intro found _
      match found with
      | .found .directory => exact adding_pure trivial
      | .found (.file _) | .found .link | .found .special => exact adding_throw _
      | .missing => exact adding_decide (.act (.createDirectory _)) trivial _
      | .failed => exact adding_throw _
    apply enters.bind
    intro _ _
    exact ih _

theorem adding_publicationDirectory (directory : Option String) :
    Adding (publicationDirectory directory) fun _ => True := by
  cases directory with
  | none => exact adding_pure trivial
  | some relative =>
    apply (adding_refuse _ _).bind
    intro _ _
    apply (adding_enterDirectory _ _).bind
    intro path _
    exact adding_decide (.canonicalize path) trivial checkCanonical

theorem adding_attemptNames (directory : Path) (requested : String) (bytes : Bytes)
    (remaining attempt : Nat) :
    Adding (attemptNames directory requested bytes remaining attempt) fun _ => True := by
  induction remaining generalizing attempt with
  | zero => exact adding_throw _
  | succ remaining ih =>
    apply (adding_writeTemporary _ _ _ _).bind
    intro temporary named
    apply (adding_ask (.persistNoclobber temporary _) named).bind
    intro placed _
    cases placed with
    | moved => exact adding_pure trivial
    | occupied reason =>
      apply (adding_ask (.act (.discard temporary)) named).bind
      intro _ _
      exact ih _
    | failed reason => exact adding_discard named _

theorem adding_unixTimestamp (now : Option UInt64) : Adding (unixTimestamp now) fun _ => True := by
  cases now with
  | none => exact adding_throw _
  | some seconds => exact adding_pure trivial

/-! ## The publication -/

theorem growing_publishInspected (id : Uuid) (now : Option UInt64) (bytes : Bytes)
    (filenamePrefix : Option String) (publication : ArtifactPublication) (metadata : ImageMetadata) :
    Growing (publishInspected id now bytes filenamePrefix publication metadata) := by
  apply (adding_publicationDirectory _).growing.bind
  intro directory
  apply (adding_refuse _ _).growing.bind
  intro _
  apply (adding_attemptNames _ _ _ _ _).growing.bind
  rintro ⟨destination, filename⟩
  apply (adding_syncDirectory directory).growing.compensated.bind
  intro _
  apply (adding_unixTimestamp now).growing.bind
  intro createdAt
  apply (adding_publishOwnership _).growing.compensated.bind
  intro _
  exact growing_pure _

theorem growing_publishWithOptions (store : Store) (id : Uuid) (now : Option UInt64) (bytes : Bytes)
    (filenamePrefix : Option String) (expected : Option OutputFormat)
    (publication : ArtifactPublication) :
    Growing (publishWithOptions store id now bytes filenamePrefix expected publication) := by
  unfold publishWithOptions
  split
  · exact growing_throw _
  · apply (adding_refuse _ _).growing.bind
    intro _
    exact growing_publishInspected _ _ _ _ _ _

/-- The file of a name has these bytes and keeps them. -/
structure Stored (tree : Tree) (name : String) (bytes : Bytes) : Prop where
  file : tree (relativePath name) = some (.file bytes)
  final : ¬Temporary (relativePath name)

theorem Stored.grown {before after : Tree} {name : String} {bytes : Bytes}
    (stored : Stored before name bytes) (grown : Grown before after) : Stored after name bytes :=
  ⟨grown _ _ stored.final stored.file, stored.final⟩

theorem Placement.Published.stored {p : Placement} {bytes : Bytes} {attempt : Nat}
    {createdAt : UInt64} {tree : Tree} (published : p.Published bytes attempt createdAt tree) :
    Stored tree (placedName p.publication.directory (p.name attempt)) bytes := by
  have plain : PlainName (p.name attempt).toList :=
    plain_candidate (plain_requested published.named p.filenamePrefix p.id) attempt
  have path : relativePath (placedName p.publication.directory (p.name attempt)) =
      p.destination attempt := relativePath_placed p.publication.directory plain
  constructor
  · rw [path]
    exact published.artifact
  · rw [path]
    exact plain.final p.directory

/-- A publication that succeeds stores the bytes under the name it returns. -/
theorem publish_stores (store : Store) (id : Uuid) (now : Option UInt64) (bytes : Bytes)
    (filenamePrefix : Option String) (expected : Option OutputFormat)
    (publication : ArtifactPublication) (s : Session) :
    Tries (contract unreliable)
      (publishWithOptions store id now bytes filenamePrefix expected publication) s
      (fun stored t => Grown s.tree t.tree ∧ Stored t.tree stored.name bytes) fun _ _ => True := by
  have placed := tries_publishWithOptions unreliable_orderly (fun _ _ => trivial) store id now bytes
    filenamePrefix expected publication s
  have grown := growing_publishWithOptions store id now bytes filenamePrefix expected publication s
  refine Keeps.mono (Keeps.and placed grown) ?_
  rintro (e | stored) t ⟨published, grew⟩
  · trivial
  · obtain ⟨metadata, _, p, rfl, attempt, createdAt, _, held, _, name, _⟩ := published
    refine ⟨grew, ?_⟩
    rw [name]
    exact held.stored

end ImagegenBridge.ArtifactStore
