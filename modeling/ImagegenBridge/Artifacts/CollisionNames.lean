import ImagegenBridge.Artifacts.Publication
import ImagegenBridge.Lib.FileRuns

/-!
# Names that are taken already

A publication that finds its name taken goes on to the next one in a row of names, all different
and all with the extension that was asked for. No file that was there before is touched.
-/

namespace ImagegenBridge.ArtifactStore

open Files Materialize Program Text Validation

variable {tree : Tree} {s u : Session}

/-! ## The row of names -/

theorem undotted_number (number : Nat) : '.' ∉ (toString number).toList := by
  intro dot
  rw [Nat.toString_eq_ofList_toDigits, String.toList_ofList] at dot
  have digit := Nat.isDigit_of_mem_toDigits (by decide) (by decide) dot
  revert digit
  decide

/-- What stands before the number, and what follows it. -/
theorem suffixedFilename_split (requested : String) :
    ∃ before after, requested.toList = before ++ after ∧
      ∀ suffix, (suffixedFilename requested suffix).toList =
        before ++ ('-' :: ((toString suffix).toList ++ after)) := by
  unfold suffixedFilename
  cases split : rsplitOnce '.' requested.toList with
  | none =>
    refine ⟨requested.toList, [], (List.append_nil _).symm, ?_⟩
    intro suffix
    simp
  | some parts =>
    obtain ⟨stem, ending⟩ := parts
    refine ⟨stem, '.' :: ending, (rsplitOnce_some split).1, ?_⟩
    intro suffix
    simp

theorem suffixedFilename_injective {requested : String} {first later : Nat}
    (same : suffixedFilename requested first = suffixedFilename requested later) :
    first = later := by
  obtain ⟨before, after, _, suffixed⟩ := suffixedFilename_split requested
  have lists := congrArg String.toList same
  rw [suffixed, suffixed, List.append_cancel_left_eq, List.cons.injEq,
    List.append_cancel_right_eq] at lists
  exact Decimal.toString_injective (String.toList_injective lists.2)

theorem suffixedFilename_longer (requested : String) (suffix : Nat) :
    suffixedFilename requested suffix ≠ requested := by
  obtain ⟨before, after, whole, suffixed⟩ := suffixedFilename_split requested
  intro same
  have lengths := congrArg (fun name => name.toList.length) same
  simp only [suffixed, whole, List.length_append, List.length_cons] at lengths
  omega

/-- No two attempts for one name try the same file. -/
theorem candidateName_injective (requested : String) :
    Function.Injective (candidateName requested) := by
  intro first later same
  unfold candidateName at same
  split_ifs at same with left right right
  · omega
  · exact absurd same.symm (suffixedFilename_longer requested _)
  · exact absurd same (suffixedFilename_longer requested _)
  · have numbers := suffixedFilename_injective same
    omega

theorem candidateName_extension (requested : String) (attempt : Nat) :
    extension? (candidateName requested attempt).toList = extension? requested.toList := by
  unfold candidateName
  split_ifs
  · rfl
  · unfold suffixedFilename
    cases split : rsplitOnce '.' requested.toList with
    | none =>
      have free := rsplitOnce_none.mp split
      have numbered : '.' ∉ (requested ++ "-" ++ toString (attempt + 1)).toList := by
        simp only [String.toList_append, List.mem_append, not_or]
        exact ⟨⟨free, by decide⟩, undotted_number _⟩
      rw [extension?_none.mpr free, extension?_none.mpr numbered]
    | some parts =>
      obtain ⟨stem, ending⟩ := parts
      obtain ⟨whole, free⟩ := rsplitOnce_some split
      rw [extension?_some whole free]
      apply extension?_some _ free
      · exact stem ++ '-' :: (toString (attempt + 1)).toList
      · simp

/-! ## The files that are there -/

/-- Everything that was there is there as it was. -/
def Untouched (before after : Tree) : Prop :=
  ∀ path node, before path = some node → after path = some node

theorem Untouched.refl (tree : Tree) : Untouched tree tree := fun _ _ present => present

theorem Untouched.update {current : Tree} {path : Path} {node : Option Node}
    (kept : Untouched tree current) (fresh : tree path = none) : Untouched tree (Function.update current path node) := by
  intro other content present
  have apart : other ≠ path := by
    rintro rfl
    rw [fresh] at present
    cases present
  rw [Function.update_of_ne apart]
  exact kept other content present

theorem Untouched.absent {current : Tree} {path : Path} (kept : Untouched tree current)
    (free : current path = none) : tree path = none := by
  cases present : tree path with
  | none => rfl
  | some node =>
    rw [kept path node present] at free
    cases free

theorem discard_kept {temporary : Path} (kept : Untouched tree u.tree)
    (own : tree temporary = none) :
    (perform (.discard temporary)).Keeps (contract unreliable) u fun _ t => Untouched tree t.tree := by
  apply keeps_perform trivial
  · intro _
    exact kept.update own
  · intro reason _ _
    exact kept
  · intro reason _
    exact kept

theorem writeTemporary_kept (directory : Path) (bytes : Bytes) (uncreated unwritten : String → String)
    (kept : Untouched tree u.tree) :
    Tries (contract unreliable) (writeTemporary directory bytes uncreated unwritten) u
      (fun temporary t => Untouched tree t.tree ∧ tree temporary = none)
      fun _ t => Untouched tree t.tree := by
  unfold writeTemporary
  rw [tries_bind]
  apply tries_orRaise.mpr
  apply keeps_createTemporary trivial
  · intro name _ _ free
    have own := kept.absent free
    dsimp only
    rw [tries_bind, tries_lift]
    apply keeps_write trivial
    · exact ⟨(kept.update own).update own, own⟩
    · intro part reason _
      dsimp only
      rw [tries_bind, tries_lift]
      exact (discard_kept ((kept.update own).update own) own).mono fun _ _ later => later
  · intro reason _ _
    exact kept
  · intro reason _
    exact kept

theorem persist_kept {temporary destination : Path} {post : Persisted → Session → Prop}
    (kept : Untouched tree u.tree) (own : tree temporary = none)
    (placed : ∀ t, Untouched tree t.tree → post .moved t)
    (occupied : ∀ reason t, Untouched tree t.tree → post (.occupied reason) t)
    (failed : ∀ reason t, Untouched tree t.tree → post (.failed reason) t) :
    (persistNoclobber temporary destination).Keeps (contract unreliable) u post := by
  refine ⟨trivial, ?_⟩
  rintro (_ | reason | reason) ⟨truthful, _⟩
  · exact placed _ ((kept.update (kept.absent truthful.2)).update own)
  · exact occupied reason _ kept
  · exact failed reason _ kept

theorem attemptNames_kept (directory : Path) (requested : String) (bytes : Bytes)
    (remaining attempt : Nat) (kept : Untouched tree u.tree) :
    Tries (contract unreliable) (attemptNames directory requested bytes remaining attempt) u
      (fun _ t => Untouched tree t.tree) fun _ t => Untouched tree t.tree := by
  induction remaining generalizing attempt u with
  | zero => exact kept
  | succ remaining ih =>
    unfold attemptNames
    rw [tries_bind]
    apply (writeTemporary_kept directory bytes _ _ kept).mono
    · rintro temporary t ⟨kept, own⟩
      rw [tries_bind, tries_lift]
      apply persist_kept kept own
      · intro v later
        exact later
      · intro reason v later
        dsimp only
        rw [tries_bind, tries_lift]
        exact (discard_kept later own).mono fun _ w last => ih (attempt + 1) last
      · intro reason v later
        dsimp only
        rw [tries_bind, tries_lift]
        exact (discard_kept later own).mono fun _ w last => last
    · intro e t later
      exact later

/-! ## Publication without overwriting -/

/-- What a publication that succeeds has chosen. -/
structure Chosen (s : Session) (directory : Path) (requested : String) (attempts : Nat)
    (bytes : Bytes) (result : Path × String) (t : Session) : Prop where
  kept : Untouched s.tree t.tree
  path : result.1 = directory ++ [result.2]
  first : ∃ attempt, FreeAt s.tree directory requested 0 attempts attempt ∧
    result.2 = candidateName requested attempt
  written : t.tree result.1 = some (.file bytes)

section Publication

variable {directory : Path} {requested : String} {bytes : Bytes}
  {collision : ArtifactCollisionPolicy} {explicit : Bool}

theorem publishNoclobber_chooses (plain : PlainName requested.toList)
    (components : ∀ name ∈ directory, PlainName name.toList)
    (present : isDirectory s.tree directory = true) :
    Tries (contract unreliable) (publishNoclobber directory requested bytes collision explicit) s
      (Chosen s directory requested (collisionAttempts collision explicit) bytes)
      fun _ t => Untouched s.tree t.tree := by
  have orderly : AllowsOrderly (fun _ => True) unreliable := fun _ _ _ => trivial
  have chosen := tries_attemptNames orderly plain bytes components
    (collisionAttempts collision explicit) 0 present
  have kept := attemptNames_kept directory requested bytes (collisionAttempts collision explicit) 0
    (Untouched.refl s.tree)
  apply (Keeps.and chosen kept).mono
  rintro (e | result) t ⟨ended, kept⟩
  · exact kept
  · obtain ⟨path, ⟨attempt, free, called⟩, _, _, _, _, _, rfl⟩ := ended
    rw [Nat.zero_add] at free
    refine ⟨kept, path, ⟨attempt, free, called⟩, ?_⟩
    rw [path]
    exact Function.update_self _ _ _

/-- With one attempt, and no fault of the file system, only a name that is there is refused. -/
theorem publishNoclobber_refuses (plain : PlainName requested.toList)
    (components : ∀ name ∈ directory, PlainName name.toList)
    (present : isDirectory s.tree directory = true) :
    Tries (contract faultless) (publishNoclobber directory requested bytes .error explicit) s
      (fun _ _ => s.tree (directory ++ [requested]) = none)
      fun _ _ => s.tree (directory ++ [requested]) ≠ none := by
  have orderly : AllowsOrderly (fun _ => True) faultless := fun _ _ _ => trivial
  have one : collisionAttempts .error explicit = 1 := by simp [collisionAttempts]
  have free : Free s.tree directory requested 0 (0 + 1) ↔
      s.tree (directory ++ [requested]) = none := by
    constructor
    · rintro ⟨attempt, _, least, none, _⟩
      obtain rfl : attempt = 0 := by omega
      exact none
    · intro none
      exact ⟨0, le_rfl, by omega, none, fun _ _ impossible => by omega⟩
  unfold publishNoclobber
  rw [one]
  have chosen := tries_attemptNames orderly plain bytes components 1 0 present
  apply (keeps_calm (fun _ _ impossible => impossible) chosen).mono
  rintro (e | result) t ⟨ended, calm⟩
  · intro none
    exact ended.faulty (free.mpr none) calm
  · obtain ⟨_, ⟨attempt, found, _⟩, _⟩ := ended
    exact free.mp ⟨attempt, found⟩

/-- For a name of one portable component in a directory of the store, whatever is in it: no
publication touches a file that was there; one that succeeds has the first free name of the row;
the names of the row differ and have the extension that was asked for; and with no other name to
try, and no fault, the publication fails exactly if the name is taken. -/
theorem collision_safe (plain : PlainName requested.toList)
    (components : ∀ name ∈ directory, PlainName name.toList)
    (present : isDirectory s.tree directory = true) :
    Tries (contract unreliable) (publishNoclobber directory requested bytes collision explicit) s
        (Chosen s directory requested (collisionAttempts collision explicit) bytes)
        (fun _ t => Untouched s.tree t.tree) ∧
      Function.Injective (candidateName requested) ∧
      (∀ attempt, extension? (candidateName requested attempt).toList =
        extension? requested.toList) ∧
      Tries (contract faultless) (publishNoclobber directory requested bytes .error explicit) s
        (fun _ _ => s.tree (directory ++ [requested]) = none)
        fun _ _ => s.tree (directory ++ [requested]) ≠ none :=
  ⟨publishNoclobber_chooses plain components present, candidateName_injective requested,
    candidateName_extension requested, publishNoclobber_refuses plain components present⟩

end Publication

/-- A picture whose name is taken already, in a directory of the store. -/
theorem collision_safe_taken :
    let tree : Tree := fun path => if path = ["portrait.png"] then some (.file [1]) else none
    Tries (contract unreliable) (publishNoclobber [] "portrait.png" [2] .suffix true) (.at tree)
        (Chosen (.at tree) [] "portrait.png" 10000 [2]) (fun _ t => Untouched tree t.tree) ∧
      Tries (contract faultless) (publishNoclobber [] "portrait.png" [2] .error true) (.at tree)
        (fun _ _ => tree ["portrait.png"] = none) fun _ _ => tree ["portrait.png"] ≠ none := by
  intro tree
  have plain : PlainName "portrait.png".toList := 
    ⟨by decide, by decide, List.all_eq_true.mp (by decide)⟩
  have present : isDirectory (Session.at tree).tree [] = true := rfl
  have suffixed := @collision_safe (.at tree) [] "portrait.png" [2] .suffix true plain nofun present
  exact ⟨suffixed.1, suffixed.2.2.2⟩

end ImagegenBridge.ArtifactStore
