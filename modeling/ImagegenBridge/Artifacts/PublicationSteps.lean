import ImagegenBridge.Artifacts.StoreWrites

/-!
# The steps of a publication

The directory is entered, a free name is found, and the artifact and its record are
written. What each step leaves when it fails is kept apart from what the compensation
takes back.
-/

namespace ImagegenBridge.ArtifactStore

open Text Validation Inspect Materialize Files Program

variable {α β : Type} {terms : Terms} {s t : Session} {good : OwnershipRecord → Prop}

/-! ## The directory -/

theorem tries_enterComponent (orderly : AllowsOrderly good terms) {target path : Path}
    (top : path <+: target) (above : isDirectory s.tree path.dropLast = true) :
    Tries (contract terms) (enterComponent path) s
      (fun _ t => Entered target s t ∧ t.tree path = some .directory)
      (fun _ t => Aborted (s.tree path = none ∨ s.tree path = some .directory) s t) := by
  unfold enterComponent
  rw [tries_bind, tries_lift]
  apply (reads_stat path).keeps orderly.reading
  · unfold statOf
    cases present : s.tree path with
    | none =>
      apply tries_finished (orderly s (.act (.createDirectory path)) trivial)
      · intro _
        refine ⟨⟨rfl, ?_⟩, Function.update_self _ _ _⟩
        intro other
        by_cases same : other = path
        · subst same
          exact .inr ⟨top, present, Function.update_self _ _ _⟩
        · exact .inl (Function.update_of_ne same _ _)
      · intro e _ _
        exact aborted_fault s nofun
      · intro e impossible
        simp [performable, present, above] at impossible
    | some node =>
      cases node with
      | directory => exact ⟨.refl _ _, present⟩
      | file bytes => exact aborted_refl s (by simp)
      | link => exact aborted_refl s (by simp)
      | special => exact aborted_refl s (by simp)
  · intro op reading _
    apply aborted_fault
    rintro directory rfl
    exact reading

theorem tries_enterDirectory (orderly : AllowsOrderly good terms) {target : Path}
    (components : List String) {current : Path} (split : target = current ++ components)
    (paved : Paved s.tree current) :
    Tries (contract terms) (enterDirectory current components) s
      (fun path t => path = target ∧ Entered target s t ∧ Paved t.tree target)
      (fun _ t => ∃ u, Entered target s u ∧ Aborted (Enterable s.tree target) u t) := by
  induction components generalizing current s with
  | nil =>
    rw [List.append_nil] at split
    subst split
    exact ⟨rfl, .refl _ _, paved⟩
  | cons component rest ih =>
    have further : target = current ++ [component] ++ rest := by
      rw [split, List.append_assoc, List.singleton_append]
    have top : current ++ [component] <+: target := ⟨rest, further.symm⟩
    unfold enterDirectory
    rw [tries_bind]
    apply (tries_enterComponent orderly top (by rw [List.dropLast_concat]; exact paved.here)).mono
    · rintro _ u ⟨entered, present⟩
      have onward : Paved u.tree (current ++ [component]) := by
        rw [paved_concat]
        refine ⟨?_, isDirectory_iff.mpr (.inr present)⟩
        intro above inside
        have before := paved above inside
        rw [isDirectory_iff] at before ⊢
        rcases before with root | directory
        · exact .inl root
        · right
          rcases entered.tree above with same | ⟨_, _, created⟩
          · rw [same, directory]
          · exact created
      apply (ih further onward).mono
      · rintro path t ⟨same, later, arrived⟩
        exact ⟨same, entered.trans later, arrived⟩
      · rintro e t ⟨v, later, aborted⟩
        exact ⟨v, entered.trans later, aborted.weaken entered.enterable⟩
    · intro e t aborted
      refine ⟨s, .refl _ _, aborted.weaken ?_⟩
      intro enterable
      exact enterable _ top (by simp)

theorem undotted_component {value : String} (safe : safeRelative value = true) {name : String}
    (among : name ∈ relativePath value) : PlainName name.toList := by
  obtain ⟨component, part, rfl⟩ := List.mem_map.mp among
  rw [String.toList_ofList]
  exact ((safeRelative_iff.mp safe).2 component part).1

theorem directoryPath_plain {directory : Option String} (safe : SafeDirectory directory) :
    ∀ name ∈ directoryPath directory, PlainName name.toList := by
  intro name among
  cases directory with
  | none => cases among
  | some value => exact undotted_component (safe value rfl) among

theorem plain_final {directory : Path} (plain : ∀ name ∈ directory, PlainName name.toList) :
    ¬Temporary directory := by
  rintro ⟨above, name, rfl, dotted⟩
  exact (plain name (by simp)).undotted dotted.dotted

theorem plain_outside {directory : Path} (plain : ∀ name ∈ directory, PlainName name.toList) :
    ownershipDirectory ∉ directory := by
  intro among
  have undotted := (plain _ among).undotted
  revert undotted
  decide

/-- The directory of a publication is entered, or refused. -/
theorem tries_publicationDirectory (orderly : AllowsOrderly good terms) (directory : Option String)
    (s : Session) :
    Tries (contract terms) (publicationDirectory directory) s
      (fun path t => path = directoryPath directory ∧ SafeDirectory directory ∧
        Entered path s t ∧ Paved t.tree path)
      (fun _ t => ∃ u, Entered (directoryPath directory) s u ∧
        Aborted (SafeDirectory directory ∧ Enterable s.tree (directoryPath directory)) u t) := by
  cases directory with
  | none => exact ⟨rfl, nofun, .refl _ _, paved_root _⟩
  | some relative =>
    unfold publicationDirectory
    rw [tries_bind]
    apply tries_refuse
    · intro accepted
      rw [Bool.not_eq_false] at accepted
      have safe : SafeDirectory (some relative) := by
        rintro name ⟨⟩
        exact accepted
      have outside := plain_outside (directoryPath_plain safe)
      rw [tries_bind]
      apply (tries_enterDirectory orderly (relativePath relative) rfl (paved_root _)).mono
      · rintro path t ⟨rfl, entered, paved⟩
        rw [List.nil_append] at entered paved ⊢
        apply (reads_orRaise (reads_canonicalize paved.rooted paved.here)).keeps orderly.reading
        · have other : relativePath relative ≠ ownershipRoot := by
            intro same
            apply outside
            show ownershipDirectory ∈ relativePath relative
            rw [same]
            exact List.mem_cons_self
          have accepts : checkCanonical (some (some (relativePath relative))) =
              .ok (relativePath relative) := if_neg other
          rw [accepts]
          exact ⟨rfl, safe, entered, paved⟩
        · intro op reading _
          refine ⟨t, entered, aborted_fault t ?_⟩
          rintro directory rfl
          exact reading
      · rintro e t ⟨u, entered, aborted⟩
        rw [List.nil_append] at entered aborted
        exact ⟨u, entered, aborted.weaken fun able => able.2⟩
    · intro e refused
      refine ⟨s, .refl _ _, aborted_refl s ?_⟩
      rintro ⟨safe, _⟩
      rw [safe relative rfl] at refused
      cases refused

/-! ## The name -/

/-- The attempt whose name is free. -/
def FreeAt (tree : Tree) (directory : Path) (requested : String) (first last attempt : Nat) : Prop :=
  first ≤ attempt ∧ attempt < last ∧ tree (directory ++ [candidateName requested attempt]) = none ∧
    ∀ earlier, first ≤ earlier → earlier < attempt →
      tree (directory ++ [candidateName requested earlier]) ≠ none

/-- Some attempt finds a free name. -/
def Free (tree : Tree) (directory : Path) (requested : String) (first last : Nat) : Prop :=
  ∃ attempt, FreeAt tree directory requested first last attempt

theorem plain_candidate {requested : String} (plain : PlainName requested.toList) (attempt : Nat) :
    PlainName (candidateName requested attempt).toList := by
  unfold candidateName
  split_ifs
  · exact plain
  · exact plain_suffixed plain _

/-- Faults of discards only. -/
def OnlyDiscards (new : List Op) : Prop := ∀ op ∈ new, ∃ path, op = .act (.discard path)

theorem OnlyDiscards.unsynced {new : List Op} (only : OnlyDiscards new) (directory : Path) :
    .act (.sync directory) ∉ new := by
  intro among
  obtain ⟨path, same⟩ := only _ among
  cases same

/-- The artifact has the name of the first attempt that found it free. Names that were
taken may have left temporary files. -/
structure Placed (s : Session) (directory : Path) (requested : String) (first last : Nat)
    (bytes : Bytes) (name : String) (t : Session) : Prop where
  called : ∃ attempt, FreeAt s.tree directory requested first last attempt ∧
    name = candidateName requested attempt
  left : ∃ u new, Left s u new ∧ OnlyDiscards new ∧ u.tree (directory ++ [name]) = none ∧
    t = { u with tree := Function.update u.tree (directory ++ [name]) (some (.file bytes)) }

theorem FreeAt.earlier {tree : Tree} {directory : Path} {requested : String}
    {first last attempt : Nat} (free : FreeAt tree directory requested (first + 1) last attempt)
    (taken : tree (directory ++ [candidateName requested first]) ≠ none) :
    FreeAt tree directory requested first last attempt := by
  obtain ⟨after, before, none, others⟩ := free
  refine ⟨by omega, before, none, ?_⟩
  intro earlier from_first to_attempt
  by_cases same : earlier = first
  · rw [same]
    exact taken
  · exact others earlier (by omega) to_attempt

theorem FreeAt.later {tree : Tree} {directory : Path} {requested : String}
    {first last attempt : Nat} (free : FreeAt tree directory requested first last attempt)
    (taken : tree (directory ++ [candidateName requested first]) ≠ none) :
    FreeAt tree directory requested (first + 1) last attempt := by
  obtain ⟨after, before, none, others⟩ := free
  have moved : first ≠ attempt := by
    rintro rfl
    exact taken none
  exact ⟨by omega, before, none, fun earlier low high => others earlier (by omega) high⟩

/-- The names in a directory are seen alike when only temporary files are left. -/
theorem FreeAt.steady {u : Session} {directory : Path} {requested : String} {new : List Op}
    {first last attempt : Nat} (plain : PlainName requested.toList) (left : Left s u new) :
    FreeAt u.tree directory requested first last attempt ↔
      FreeAt s.tree directory requested first last attempt := by
  have same (tried : Nat) : u.tree (directory ++ [candidateName requested tried]) =
      s.tree (directory ++ [candidateName requested tried]) :=
    left.steady ((plain_candidate plain tried).final directory)
  simp only [FreeAt, same]

theorem tries_attemptNames (orderly : AllowsOrderly good terms) {directory : Path} {requested : String}
    (plain : PlainName requested.toList) (bytes : Bytes)
    (components : ∀ name ∈ directory, PlainName name.toList) (remaining first : Nat)
    (present : isDirectory s.tree directory = true) :
    Tries (contract terms) (attemptNames directory requested bytes remaining first) s
      (fun result t => result.1 = directory ++ [result.2] ∧
        Placed s directory requested first (first + remaining) bytes result.2 t)
      (fun _ t => Aborted (Free s.tree directory requested first (first + remaining)) s t) := by
  induction remaining generalizing first s with
  | zero =>
    apply aborted_refl s
    rintro ⟨attempt, after, before, _⟩
    omega
  | succ remaining ih =>
    have final := (plain_candidate plain first).final directory
    have elsewhere : (directory ++ [candidateName requested first]).dropLast ≠ ownershipRoot := by
      rw [List.dropLast_concat]
      rintro rfl
      exact plain_outside components List.mem_cons_self
    unfold attemptNames
    rw [tries_bind]
    apply (tries_writeTemporary orderly directory bytes _ _ s).mono
    · intro temporary t staged
      have apart : directory ++ [candidateName requested first] ≠ temporary := by
        rintro rfl
        exact final staged.dotted
      rw [tries_bind, tries_lift]
      apply keeps_persistNoclobber (orderly t (.persistNoclobber _ _) (.inl elsewhere))
      · exact isFile_some staged.held
      · intro free
        rw [staged.elsewhere apart] at free
        refine ⟨rfl, ⟨first, ⟨le_rfl, by omega, free, fun _ _ _ => by omega⟩, rfl⟩, s, [],
          .refl s, nofun, free, ?_⟩
        rw [staged.moved final, staged.written]
      · intro reason occupied
        rw [staged.elsewhere apart] at occupied
        have same : t = { t with faults := t.faults ++ [] } := by rw [List.append_nil]
        dsimp only
        rw [tries_bind, tries_lift, same]
        apply staged.discard
        · rintro u op rfl
          exact orderly u _ trivial
        · intro answer later u left one
          rw [List.nil_append] at left
          have discards : OnlyDiscards later := by
            rcases one with rfl | rfl
            · nofun
            · intro op among
              exact ⟨temporary, List.mem_singleton.mp among⟩
          have stays : isDirectory u.tree directory = true := by
            rw [isDirectory_iff] at present ⊢
            rw [left.steady (plain_final components)]
            exact present
          have onward := ih (first + 1) stays
          rw [Nat.add_right_comm, Nat.add_assoc] at onward
          apply onward.mono
          · rintro result v ⟨named, ⟨attempt, free, called⟩, w, new, again, only, none, written⟩
            refine ⟨named, ⟨attempt, ?_, called⟩, w, later ++ new, left.trans again, ?_, none,
              written⟩
            · exact ((FreeAt.steady plain left).mp free).earlier occupied
            · intro op among
              rcases List.mem_append.mp among with early | late
              · exact discards op early
              · exact only op late
          · intro e v aborted
            apply left.aborted discards.unsynced
            apply aborted.weaken
            rintro ⟨attempt, free⟩
            exact ⟨attempt, (FreeAt.steady plain left).mpr (free.later occupied)⟩
      · intro reason _
        apply staged_raise staged orderly
        · simp
        · intro none
          cases none
    · intro e t aborted
      exact aborted.weaken fun _ => present

/-! ## Compensation -/

theorem tries_compensated {x : Action α} {undo : List Act} {ok : α → Session → Prop}
    {failed : BridgeError → Session → Prop}
    (tried : Tries (contract terms) x s ok fun e t =>
      (performAll undo).Keeps (contract terms) t fun _ u => failed e u) :
    Tries (contract terms) (compensated x undo) s ok failed := by
  unfold compensated
  rw [tries_attempt]
  apply tried.mono
  · intro a t done
    exact done
  · intro e t undone
    rw [tries_bind, tries_lift]
    exact undone

theorem keeps_removeFirst (orderly : AllowsOrderly good terms) {path : Path} {rest : List Act}
    {bytes : Bytes} {post : Unit → Session → Prop} (held : s.tree path = some (.file bytes))
    (removed : (performAll rest).Keeps (contract terms)
      { s with tree := Function.update s.tree path none } post)
    (stays : (performAll rest).Keeps (contract terms) (fault s (.act (.remove path))) post) :
    (performAll (.remove path :: rest)).Keeps (contract terms) s post := by
  unfold performAll
  rw [keeps_bind]
  apply keeps_perform (orderly s (.act (.remove path)) trivial)
  · intro _
    exact removed
  · intro reason _ _
    exact stays
  · intro reason impossible
    simp [performable, held] at impossible

/-- Removing a file and syncing a directory, where each may be at fault. -/
theorem keeps_takeBack (orderly : AllowsOrderly good terms) {path directory : Path} {bytes : Bytes}
    {post : Unit → Session → Prop} (held : s.tree path = some (.file bytes))
    (present : isDirectory s.tree directory = true)
    (removed : ∀ later, later = [] ∨ later = [.act (.sync directory)] →
      post () { s with tree := Function.update s.tree path none, faults := s.faults ++ later })
    (stays : ∀ later u, u.faults = s.faults ++ .act (.remove path) :: later → post () u) :
    (performAll [.remove path, .sync directory]).Keeps (contract terms) s post := by
  have still : isDirectory (Function.update s.tree path none) directory = true :=
    isDirectory_update present (by rw [held]; nofun)
  apply keeps_removeFirst orderly held
  · have none := removed [] (.inl rfl)
    rw [List.append_nil] at none
    unfold performAll
    rw [keeps_bind]
    apply keeps_perform (orderly _ (.act (.sync directory)) trivial)
    · intro _
      exact none
    · intro reason _ _
      exact removed _ (.inr rfl)
    · intro reason _
      exact none
  · unfold performAll
    rw [keeps_bind]
    apply keeps_perform (orderly _ (.act (.sync directory)) trivial)
    · intro _
      exact stays [] _ rfl
    · intro reason _ _
      exact stays [.act (.sync directory)] _ (by simp [fault])
    · intro reason _
      exact stays [] _ rfl

/-- The operations that take back what an earlier one did. -/
def Compensates (op : Op) : Prop := ∃ path, op = .act (.discard path) ∨ op = .act (.remove path)

/-- Nothing changed but that directories may have been created. -/
def Undone (before after : Tree) : Prop :=
  ∀ path, after path = before path ∨ (before path = none ∧ after path = some .directory)

/-- A record was published that was not there. -/
def LeavesRecord (before after : Tree) : Prop :=
  ∃ record, before (markerPath record.id) = none ∧
    after (markerPath record.id) = some (.file (encodeOwnership record))

/-- What a failed publication leaves, by its fault if it has one only. -/
def PublishFailed (able : Prop) (s t : Session) : Prop :=
  ∃ new, t.faults = s.faults ++ new ∧ (new = [] → ¬able) ∧ ∀ op, new = [op] → ¬Compensates op →
    if op = .act (.sync ownershipRoot) then LeavesRecord s.tree t.tree else Undone s.tree t.tree

theorem publishFailed_left {able : Prop} {target : Path} {u : Session} {new : List Op}
    (entered : Entered target s u) (left : Left u t new)
    (unsynced : .act (.sync ownershipRoot) ∉ new) (unable : new = [] → ¬able) :
    PublishFailed able s t := by
  refine ⟨new, by rw [left.faults, entered.faults], unable, ?_⟩
  rintro op rfl uncompensating
  have other : op ≠ .act (.sync ownershipRoot) := by
    rintro rfl
    exact unsynced List.mem_cons_self
  rw [if_neg other]
  intro path
  rcases left.tree path with same | ⟨_, discarded⟩
  · rw [same]
    rcases entered.tree path with kept | ⟨_, none, created⟩
    · exact .inl kept
    · exact .inr ⟨none, created⟩
  · exact absurd ⟨path, .inl (List.mem_singleton.mp discarded).symm⟩ uncompensating

theorem publishFailed_compensating {able : Prop} {new : List Op} {op : Op}
    (faults : t.faults = s.faults ++ new) (among : op ∈ new) (compensates : Compensates op) :
    PublishFailed able s t := by
  refine ⟨new, faults, ?_, ?_⟩
  · rintro rfl
    cases among
  · rintro other rfl uncompensating
    rw [List.mem_singleton] at among
    subst among
    exact absurd compensates uncompensating

theorem publishFailed_aborted {able : Prop} {target : Path} {u : Session}
    (entered : Entered target s u) (aborted : Aborted able u t) : PublishFailed able s t := by
  obtain ⟨new, left, unsynced, unable⟩ := aborted
  exact publishFailed_left entered left (unsynced ownershipRoot) unable

/-- An artifact over a session in which its place was free. -/
def withFile (s : Session) (path : Path) (bytes : Bytes) : Session :=
  { s with tree := Function.update s.tree path (some (.file bytes)) }

theorem withFile_held (s : Session) (path : Path) (bytes : Bytes) :
    (withFile s path bytes).tree path = some (.file bytes) := Function.update_self _ _ _

theorem withFile_other (s : Session) {path other : Path} (bytes : Bytes) (apart : other ≠ path) :
    (withFile s path bytes).tree other = s.tree other := Function.update_of_ne apart _ _

/-- Some fault is that of removing a file. -/
def RemovalFailed (path : Path) (s t : Session) : Prop :=
  ∃ new, t.faults = s.faults ++ new ∧ .act (.remove path) ∈ new

/-- A file that is removed again. -/
theorem left_removed {u : Session} {path : Path} {bytes : Bytes} {new : List Op}
    (left : Left (withFile s path bytes) u new) (free : s.tree path = none) (later : List Op) :
    Left s { u with tree := Function.update u.tree path none, faults := u.faults ++ later }
      (new ++ later) := by
  refine ⟨by rw [← List.append_assoc, left.faults]; rfl, ?_⟩
  intro other
  by_cases same : other = path
  · subst same
    left
    rw [free]
    exact Function.update_self _ _ _
  · show Function.update u.tree path none other = s.tree other ∨ _
    rw [Function.update_of_ne same, ← withFile_other s bytes same]
    rcases left.tree other with kept | ⟨temporary, discarded⟩
    · exact .inl kept
    · exact .inr ⟨temporary, List.mem_append_left _ discarded⟩

theorem tries_syncPlaced (orderly : AllowsOrderly good terms) {directory destination : Path}
    {bytes : Bytes} (free : s.tree destination = none)
    (present : isDirectory (withFile s destination bytes).tree directory = true) :
    Tries (contract terms) (compensated (syncDirectory directory) [.remove destination])
      (withFile s destination bytes) (fun _ t => t = withFile s destination bytes)
      (fun _ t => Left s t [.act (.sync directory)] ∨ RemovalFailed destination s t) := by
  apply tries_compensated
  apply tries_syncDirectory orderly present
  · rfl
  · intro e _
    have held : (fault (withFile s destination bytes) (.act (.sync directory))).tree destination =
        some (.file bytes) := withFile_held s destination bytes
    apply keeps_removeFirst orderly held
    · left
      have removed := left_removed (left_fault (withFile s destination bytes)
        (.act (.sync directory))) free []
      rwa [List.append_nil, List.append_nil] at removed
    · right
      refine ⟨[.act (.sync directory), .act (.remove destination)], ?_, by simp⟩
      simp [fault, withFile]

theorem tries_recordPlaced (orderly : AllowsOrderly good terms) {destination : Path} {bytes : Bytes}
    {record : OwnershipRecord} (fine : good record)
    (rooted : Rooted (withFile s destination bytes).tree (relativePath record.name))
    (final : ¬Temporary (markerPath record.id)) (image : ¬Temporary destination)
    (apart : destination ≠ markerPath record.id) (free : s.tree destination = none) :
    Tries (contract terms) (compensated (publishOwnership record) [.remove destination, .sync []])
      (withFile s destination bytes)
      (fun _ t => Publishable (withFile s destination bytes).tree record ∧
        t = { withFile s destination bytes with
          tree := marked (withFile s destination bytes).tree record })
      (fun _ t =>
        (∃ new later, Left s t (new ++ later) ∧ .act (.sync ownershipRoot) ∉ new ++ later ∧
          (new ++ later = [] → ¬Publishable (withFile s destination bytes).tree record)) ∨
        RemovalFailed destination s t ∨
        (s.tree (markerPath record.id) = none ∧
          t.tree (markerPath record.id) = some (.file (encodeOwnership record)) ∧
          ∃ new, t.faults = s.faults ++ .act (.sync ownershipRoot) :: new)) := by
  apply tries_compensated
  apply (tries_publishOwnership orderly fine rooted final).mono
  · intro _ t published
    exact published
  · rintro e t (⟨new, left, unsynced, unable⟩ | ⟨publishable, rfl⟩)
    · have held : t.tree destination = some (.file bytes) := by
        rw [left.steady image]
        exact withFile_held s destination bytes
      apply keeps_takeBack orderly held rfl
      · intro later one
        refine .inl ⟨new, later, left_removed left free later, ?_, ?_⟩
        · intro among
          rcases List.mem_append.mp among with early | last
          · exact unsynced ownershipRoot early
          · rcases one with rfl | rfl
            · cases last
            · cases List.mem_singleton.mp last
        · intro none
          exact unable (List.append_eq_nil_iff.mp none).1
      · intro later u faults
        refine .inr (.inl ⟨new ++ .act (.remove destination) :: later, ?_, by simp⟩)
        rw [faults, left.faults, List.append_assoc]
        rfl
    · have held : marked (withFile s destination bytes).tree record destination =
          some (.file bytes) := by
        unfold marked
        rw [Function.update_of_ne apart]
        exact withFile_held s destination bytes
      have before : s.tree (markerPath record.id) = none := by
        rw [← withFile_other s bytes apart.symm]
        exact publishable.free
      have after : Function.update (marked (withFile s destination bytes).tree record) destination
          none (markerPath record.id) = some (.file (encodeOwnership record)) := by
        rw [Function.update_of_ne apart.symm, marked, Function.update_self]
      apply keeps_takeBack orderly held rfl
      · intro later _
        refine .inr (.inr ⟨before, after, later, ?_⟩)
        simp [fault, withFile]
      · intro later u faults
        refine .inr (.inl ⟨.act (.sync ownershipRoot) :: .act (.remove destination) :: later, ?_,
          by simp⟩)
        rw [faults]
        simp [fault, withFile]

end ImagegenBridge.ArtifactStore
