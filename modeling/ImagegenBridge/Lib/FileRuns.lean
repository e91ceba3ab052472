import ImagegenBridge.Lib.Decimal
import ImagegenBridge.Lib.Files
import Mathlib.Data.Set.Finite.Range
import Mathlib.Data.Set.Finite.Lemmas

/-!
# Runs of programs over files

What a program keeps holds at the end of some run, and a program that only looks has one
run without a fault. On a tree with finitely many files every operation has an answer
that is no fault.
-/

namespace Files

variable {α : Type} {s : Session} {terms : Terms} {p : Program interface α}

/-- Nothing is at fault. -/
def faultless : Terms where
  allow _ _ := True
  mayFail _ _ := False

/-- Anything may be at fault. -/
def unreliable : Terms where
  allow _ _ := True
  mayFail _ _ := True

/-- Only looking is allowed, and nothing is at fault. -/
def looking : Terms where
  allow _ op := Reading op
  mayFail _ _ := False

/-! ## Looking -/

theorem seen {op : Op} (reading : Reading op) (s : Session) :
    ∃ answer, Truthful s op answer ∧ faulted s.tree op answer ≠ true ∧
      monitor.next s op answer = s := by
  have calm {op : Op} {answer : Ans op} (reading : Reading op)
      (sound : faulted s.tree op answer ≠ true) : monitor.next s op answer = s := by
    have same : (if faulted s.tree op answer = true then s.faults ++ [op] else s.faults) = s.faults :=
      if_neg sound
    cases op <;> first | exact congrArg (Session.mk s.tree s.opened s.listed) same | cases reading
  cases op with
  | stat path =>
    have sound : faulted s.tree (.stat path) (statOf s.tree path) ≠ true := by
      unfold statOf
      cases s.tree path <;> simp [faulted, failure]
    refine ⟨statOf s.tree path, ?_, sound, calm reading sound⟩
    unfold statOf
    cases present : s.tree path with
    | none => exact present
    | some node => exact congrArg (Option.map Node.kind) present
  | read path =>
    have sound : faulted s.tree (.read path) (readOf s.tree path) ≠ true := by
      unfold readOf
      cases present : s.tree path with
      | none => simp [faulted, possible, isFile, present]
      | some node => cases node <;> simp [faulted, failure, possible, isFile, present]
    refine ⟨readOf s.tree path, ?_, sound, calm reading sound⟩
    unfold readOf
    split
    · assumption
    · trivial
  | canonicalize path =>
    have sound : faulted s.tree (.canonicalize path) (some (some path)) ≠ true := by
      simp [faulted, failure]
    exact ⟨some (some path), fun _ => rfl, sound, calm reading sound⟩
  | createTemporary | write | persistNoclobber | nextEntry | act => cases reading

/-- A program that only looks has a run, at whose end all holds that it keeps. -/
theorem looked {post post' : α → Session → Prop} (looks : p.Keeps (contract looking) s post)
    (kept : p.Keeps (contract terms) s post') : ∃ a t, post a t ∧ post' a t := by
  induction p with
  | done a => exact ⟨a, s, looks, kept⟩
  | await op next ih =>
    obtain ⟨answer, truthful, sound, same⟩ := seen looks.1 s
    have first := looks.2 answer ⟨truthful, fun faulty => absurd faulty sound⟩
    have later := kept.2 answer ⟨truthful, fun faulty => absurd faulty sound⟩
    rw [same] at first later
    exact ih answer first later

theorem Reads.certain {value worst : α} {post : α → Session → Prop}
    (reads : Reads s.tree p value worst) (kept : p.Keeps (contract terms) s post) : post value s := by
  have looks := reads looking (fun _ _ reading => reading) s rfl
  obtain ⟨a, t, ⟨rfl, rfl⟩ | ⟨_, op, _, impossible, _⟩, held⟩ := looked looks kept
  · exact held
  · exact impossible.elim

/-! ## Finite trees -/

def Sparse (tree : Tree) : Prop := {path | tree path ≠ none}.Finite

theorem Sparse.update {tree : Tree} (sparse : Sparse tree) (path : Path) (node : Option Node) :
    Sparse (Function.update tree path node) := by
  apply (sparse.insert path).subset
  intro other present
  by_cases same : other = path
  · exact .inl same
  · right
    rw [Set.mem_ofPred_eq, Function.update_of_ne same] at present
    exact present

theorem Sparse.change {tree : Tree} (sparse : Sparse tree) (op : Op) (answer : Ans op) :
    Sparse (change tree op answer) := by
  cases op with
  | stat | read | canonicalize | nextEntry => exact sparse
  | createTemporary directory =>
    cases answer with
    | error => exact sparse
    | ok name => exact sparse.update _ _
  | write temporary bytes => cases answer <;> exact sparse.update _ _
  | persistNoclobber temporary destination =>
    cases answer with
    | moved => exact (sparse.update _ _).update _ _
    | occupied => exact sparse
    | failed => exact sparse
  | act act =>
    cases answer with
    | failed => exact sparse
    | done =>
      cases act with
      | persist => exact (sparse.update _ _).update _ _
      | createDirectory | discard | remove => exact sparse.update _ _
      | sync | openDirectory => exact sparse

def temporaryName (number : Nat) : String := ".tmp" ++ toString number

theorem temporaryName_injective : Function.Injective temporaryName := by
  intro first later same
  rw [temporaryName, temporaryName, String.append_right_inj] at same
  exact Decimal.toString_injective same

/-- There is always another name for a temporary file. -/
theorem Sparse.fresh {tree : Tree} (sparse : Sparse tree) (directory : Path) :
    ∃ name, IsTemporary name ∧ tree (directory ++ [name]) = none := by
  have injective : Function.Injective fun number => directory ++ [temporaryName number] := by
    intro first later same
    have names := (List.append_inj' same rfl).2
    exact temporaryName_injective (List.singleton_inj.mp names)
  obtain ⟨number, free⟩ := (sparse.preimage injective.injOn).exists_notMem
  refine ⟨temporaryName number, ?_, ?_⟩
  · exact ⟨(toString number).toList, by rw [temporaryName, String.toList_append]⟩
  · simpa using free

/-- An entry that was there when its directory was opened, still is, and was not given. -/
theorem exists_entry (s : Session) (directory : Path) :
    ∃ answer, Truthful s (.nextEntry directory) answer ∧
      faulted s.tree (.nextEntry directory) answer ≠ true := by
  cases opened : s.opened with
  | none =>
    refine ⟨.finished, ?_, by simp [faulted, failure]⟩
    intro before impossible
    rw [opened] at impossible
    cases impossible
  | some before =>
    by_cases left : ∃ name, before (directory ++ [name]) ≠ none ∧ s.tree (directory ++ [name]) ≠ none ∧
        name ∉ s.listed
    · obtain ⟨name, was, still, unlisted⟩ := left
      refine ⟨.named name, ?_, by simp [faulted, failure]⟩
      intro known same
      rw [opened] at same
      cases same
      exact ⟨.inl was, fun _ => unlisted⟩
    · refine ⟨.finished, ?_, by simp [faulted, failure]⟩
      intro known same name was still
      rw [opened] at same
      cases same
      by_contra unlisted
      exact left ⟨name, was, still, unlisted⟩

theorem exists_answer (sparse : Sparse s.tree) (op : Op) :
    ∃ answer, Truthful s op answer ∧ faulted s.tree op answer ≠ true := by
  cases op with
  | stat path =>
    have looks : Reading (.stat path) := trivial
    obtain ⟨answer, truthful, sound, _⟩ := seen looks s
    exact ⟨answer, truthful, sound⟩
  | read path =>
    have looks : Reading (.read path) := trivial
    obtain ⟨answer, truthful, sound, _⟩ := seen looks s
    exact ⟨answer, truthful, sound⟩
  | canonicalize path =>
    have looks : Reading (.canonicalize path) := trivial
    obtain ⟨answer, truthful, sound, _⟩ := seen looks s
    exact ⟨answer, truthful, sound⟩
  | createTemporary directory =>
    by_cases present : isDirectory s.tree directory = true
    · obtain ⟨name, temporary, free⟩ := sparse.fresh directory
      exact ⟨.ok name, ⟨temporary, present, free⟩, by simp [faulted, failure]⟩
    · exact ⟨.error "", trivial, by simp [faulted, possible, present]⟩
  | write temporary bytes => exact ⟨.complete, trivial, by simp [faulted, failure]⟩
  | persistNoclobber temporary destination =>
    by_cases free : s.tree destination = none
    · by_cases held : isFile s.tree temporary = true
      · exact ⟨.moved, ⟨held, free⟩, by simp [faulted, failure]⟩
      · exact ⟨.failed "", trivial, by simp [faulted, possible, held]⟩
    · exact ⟨.occupied "", free, by simp [faulted, failure]⟩
  | nextEntry directory => exact exists_entry s directory
  | act act =>
    by_cases able : performable s.tree act = true
    · exact ⟨.done, able, by simp [faulted, failure]⟩
    · exact ⟨.failed "", trivial, by simp [faulted, possible, able]⟩

/-- All that a program keeps holds at the end of a run without a fault. -/
theorem exists_run {terms' : Terms} {post post' : α → Session → Prop} (sparse : Sparse s.tree)
    (kept : p.Keeps (contract terms) s post) (also : p.Keeps (contract terms') s post') :
    ∃ a t, post a t ∧ post' a t ∧ t.faults = s.faults ∧ Sparse t.tree := by
  induction p generalizing s with
  | done a => exact ⟨a, s, kept, also, rfl, sparse⟩
  | await op next ih =>
    obtain ⟨answer, truthful, sound⟩ := exists_answer sparse op
    have first := kept.2 answer ⟨truthful, fun faulty => absurd faulty sound⟩
    have second := also.2 answer ⟨truthful, fun faulty => absurd faulty sound⟩
    obtain ⟨a, t, held, holds, faults, finite⟩ := ih answer (sparse.change op answer) first second
    exact ⟨a, t, held, holds, faults.trans (if_neg sound), finite⟩

/-- A program that fails only at a fault has a run that ends well. -/
theorem exists_success {ε : Type} {x : ExceptT ε (Program interface) α} {terms' : Terms}
    {ok ok' : α → Session → Prop} {failed failed' : ε → Session → Prop} (sparse : Sparse s.tree)
    (kept : Program.Tries (contract terms) x s ok failed)
    (also : Program.Tries (contract terms') x s ok' failed')
    (fine : ∀ e t, failed e t → t.faults = s.faults → False) :
    ∃ a t, ok a t ∧ ok' a t ∧ t.faults = s.faults ∧ Sparse t.tree := by
  obtain ⟨result, t, held, holds, faults, finite⟩ := exists_run sparse kept also
  cases result with
  | error e => exact (fine e t held faults).elim
  | ok a => exact ⟨a, t, held, holds, faults, finite⟩

/-- A program keeps weaker terms as well. -/
theorem keeps_relax {terms' : Terms} {post : α → Session → Prop}
    (allows : ∀ u op, terms.allow u op → terms'.allow u op)
    (fails : ∀ u op, terms'.mayFail u op → terms.mayFail u op) (kept : p.Keeps (contract terms) s post) :
    p.Keeps (contract terms') s post := by
  induction p generalizing s with
  | done a => exact kept
  | await op next ih =>
    refine ⟨allows s op kept.1, ?_⟩
    rintro answer ⟨truthful, may⟩
    exact ih answer (kept.2 answer ⟨truthful, fun faulty => fails s op (may faulty)⟩)

/-- Where nothing may be at fault, nothing is. -/
theorem keeps_calm {post : α → Session → Prop} (calm : ∀ s op, ¬terms.mayFail s op)
    (kept : p.Keeps (contract terms) s post) :
    p.Keeps (contract terms) s fun a t => post a t ∧ t.faults = s.faults := by
  have start : s.faults = s.faults := rfl
  apply kept.and_invariant _ start
  rintro u op answer same _ ⟨_, may⟩
  exact (if_neg fun faulty => calm u op (may faulty)).trans same

end Files
