import ImagegenBridge.Lib.Program
import Mathlib.Logic.Function.Basic
import Mathlib.Data.Set.Finite.Basic

/-!
# Programs over a tree of files

The operations of a file system below one root, the answers it may give to them, and
a monitor that keeps the tree. A fault is an operation that failed although the tree
allowed it. A contract over the monitor says which operations a program may ask for
and which of them may be at fault.
-/

namespace Files

abbrev Content := List UInt8

inductive Node where
  | file (bytes : Content)
  | directory
  | link
  | special
  deriving DecidableEq

/-- The components below the root. -/
abbrev Path := List String

abbrev Tree := Path → Option Node

/-- What a file's metadata says. -/
inductive Kind where
  | file (length : Nat)
  | directory
  | link
  | special
  deriving DecidableEq

def Node.kind : Node → Kind
  | .file bytes => .file bytes.length
  | .directory => .directory
  | .link => .link
  | .special => .special

def isFile (tree : Tree) (path : Path) : Bool :=
  match tree path with
  | some (.file _) => true
  | _ => false

/-- The root is a directory. -/
def isDirectory (tree : Tree) (path : Path) : Bool := path == [] || tree path == some .directory

/-- Every directory on the way to a path is there, and is no link. -/
def Rooted (tree : Tree) (path : Path) : Prop :=
  ∀ above below, path = above ++ below → below ≠ [] → isDirectory tree above = true

theorem isDirectory_iff {tree : Tree} {path : Path} :
    isDirectory tree path = true ↔ path = [] ∨ tree path = some .directory := by
  simp [isDirectory]

theorem isDirectory_update {tree : Tree} {path changed : Path} {node : Option Node}
    (directory : isDirectory tree path = true) (other : tree changed ≠ some .directory) :
    isDirectory (Function.update tree changed node) path = true := by
  rw [isDirectory_iff] at directory ⊢
  rcases directory with root | present
  · exact .inl root
  · right
    rw [Function.update_of_ne, present]
    rintro rfl
    exact other present

/-- A path stays rooted as long as no directory goes. -/
theorem Rooted.update {tree : Tree} {path changed : Path} {node : Option Node}
    (rooted : Rooted tree path) (other : tree changed ≠ some .directory) :
    Rooted (Function.update tree changed node) path := by
  intro above below split some
  exact isDirectory_update (rooted above below split some) other

/-- A directory that is there, with every directory above it. -/
def Paved (tree : Tree) (directory : Path) : Prop :=
  ∀ above, above <+: directory → isDirectory tree above = true

theorem Paved.here {tree : Tree} {directory : Path} (paved : Paved tree directory) :
    isDirectory tree directory = true := paved directory List.prefix_rfl

theorem Paved.rooted {tree : Tree} {directory : Path} (paved : Paved tree directory) :
    Rooted tree directory := fun above below split _ => paved above ⟨below, split.symm⟩

theorem paved_root (tree : Tree) : Paved tree [] := by
  intro above top
  rw [List.prefix_nil.mp top]
  rfl

theorem paved_concat {tree : Tree} {directory : Path} {name : String} :
    Paved tree (directory ++ [name]) ↔
      Paved tree directory ∧ isDirectory tree (directory ++ [name]) = true := by
  constructor
  · intro paved
    exact ⟨fun above top => paved above (top.trans (List.prefix_append _ _)), paved.here⟩
  · rintro ⟨paved, last⟩ above top
    rcases List.prefix_concat_iff.mp top with rfl | inside
    · exact last
    · exact paved above inside

theorem rooted_concat {tree : Tree} {directory : Path} {name : String} :
    Rooted tree (directory ++ [name]) ↔ Paved tree directory := by
  constructor
  · rintro rooted above ⟨below, rfl⟩
    exact rooted above (below ++ [name]) (by rw [List.append_assoc]) (by simp)
  · intro paved above below split some
    apply paved above
    have top : above <+: directory ++ [name] := ⟨below, split.symm⟩
    rcases List.prefix_concat_iff.mp top with rfl | inside
    · exact absurd (List.self_eq_append_right.mp split) some
    · exact inside

theorem Paved.update {tree : Tree} {directory changed : Path} {node : Option Node}
    (paved : Paved tree directory) (other : tree changed ≠ some .directory) :
    Paved (Function.update tree changed node) directory :=
  fun above top => isDirectory_update (paved above top) other

/-- The operations that are done or not done. -/
inductive Act where
  | createDirectory (path : Path)
  | persist (temporary destination : Path)
  | discard (temporary : Path)
  | remove (path : Path)
  | sync (directory : Path)
  | openDirectory (directory : Path)
  deriving DecidableEq

inductive Op where
  | stat (path : Path)
  | read (path : Path)
  | canonicalize (path : Path)
  | createTemporary (directory : Path)
  | write (temporary : Path) (bytes : Content)
  | persistNoclobber (temporary destination : Path)
  | nextEntry (directory : Path)
  | act (act : Act)
  deriving DecidableEq

inductive Stat where
  | found (kind : Kind)
  | missing
  | failed

/-- A failure has a text. -/
inductive Completion where
  | done
  | failed (reason : String)

inductive Written where
  | complete
  | partway (part : Content) (reason : String)

inductive Persisted where
  | moved
  | occupied (reason : String)
  | failed (reason : String)

/-- An entry may have a name that is no text. -/
inductive Entry where
  | named (name : String)
  | unnamed
  | failed
  | finished

/-- A canonical path that is not below the root is no path of the tree. -/
def Ans : Op → Type
  | .stat _ => Stat
  | .read _ => Option Content
  | .canonicalize _ => Option (Option Path)
  | .createTemporary _ => Except String String
  | .write _ _ => Written
  | .persistNoclobber _ _ => Persisted
  | .nextEntry _ => Entry
  | .act _ => Completion

abbrev interface : Interface := ⟨Op, Ans⟩

/-! ## The tree under the operations -/

/-- A temporary file takes its final name. -/
def moved (tree : Tree) (temporary destination : Path) : Tree :=
  Function.update (Function.update tree destination (tree temporary)) temporary none

def performed (tree : Tree) : Act → Tree
  | .createDirectory path => Function.update tree path (some .directory)
  | .persist temporary destination => moved tree temporary destination
  | .discard path | .remove path => Function.update tree path none
  | .sync _ | .openDirectory _ => tree

def change (tree : Tree) : (op : Op) → Ans op → Tree
  | .createTemporary directory, .ok name =>
    Function.update tree (directory ++ [name]) (some (.file []))
  | .write temporary bytes, .complete => Function.update tree temporary (some (.file bytes))
  | .write temporary _, .partway part _ => Function.update tree temporary (some (.file part))
  | .persistNoclobber temporary destination, .moved => moved tree temporary destination
  | .act act, .done => performed tree act
  | _, _ => tree

/-- Whether the tree lets an act succeed. -/
def performable (tree : Tree) : Act → Bool
  | .createDirectory path => (tree path).isNone && isDirectory tree path.dropLast
  | .persist temporary destination => isFile tree temporary && tree destination != some .directory
  | .discard path | .remove path => (tree path).isSome && tree path != some .directory
  | .sync directory | .openDirectory directory => isDirectory tree directory

def possible (tree : Tree) : Op → Bool
  | .stat _ | .write _ _ | .nextEntry _ => true
  | .read path => isFile tree path
  | .canonicalize path => isDirectory tree path
  | .createTemporary directory => isDirectory tree directory
  | .persistNoclobber temporary _ => isFile tree temporary
  | .act act => performable tree act

def failure : (op : Op) → Ans op → Bool
  | .stat _, .failed => true
  | .read _, none => true
  | .canonicalize _, none => true
  | .createTemporary _, .error _ => true
  | .write _ _, .partway _ _ => true
  | .persistNoclobber _ _, .failed _ => true
  | .nextEntry _, .failed => true
  | .act _, .failed _ => true
  | _, _ => false

/-- What the monitor knows: the tree, the directory that is being listed, as it was when
it was opened and with the entries it gave so far, and the faults. -/
structure Session where
  tree : Tree
  opened : Option Tree
  listed : List String
  faults : List Op

def Session.at (tree : Tree) : Session := ⟨tree, none, [], []⟩

def fault (s : Session) (op : Op) : Session := { s with faults := s.faults ++ [op] }

def openedBy (s : Session) : (op : Op) → Ans op → Option Tree
  | .act (.openDirectory _), .done => some s.tree
  | _, _ => s.opened

def listedBy (s : Session) : (op : Op) → Ans op → List String
  | .act (.openDirectory _), .done => []
  | .nextEntry _, .named name => name :: s.listed
  | _, _ => s.listed

def faulted (tree : Tree) (op : Op) (answer : Ans op) : Bool := failure op answer && possible tree op

abbrev monitor : Program.Monitor interface where
  State := Session
  next s op answer :=
    { tree := change s.tree op answer
      opened := openedBy s op answer
      listed := listedBy s op answer
      faults := if faulted s.tree op answer = true then s.faults ++ [op] else s.faults }

/-- Temporary files have names of their own. -/
def IsTemporary (name : String) : Prop := ".tmp".toList <+: name.toList

theorem IsTemporary.dotted {name : String} (temporary : IsTemporary name) :
    name.toList.head? = some '.' := by
  obtain ⟨rest, same⟩ := temporary
  rw [← same]
  rfl

/-- The answers a file system may give. An entry that has not changed since the directory
was opened is given once, and the listing ends when every entry that was there and still
is has been given. -/
def Truthful (s : Session) : (op : Op) → Ans op → Prop
  | .stat path, .found kind => (s.tree path).map Node.kind = some kind
  | .stat path, .missing => s.tree path = none
  | .read path, some bytes => s.tree path = some (.file bytes)
  | .canonicalize path, some target => Rooted s.tree path → target = some path
  | .createTemporary directory, .ok name =>
    IsTemporary name ∧ isDirectory s.tree directory = true ∧ s.tree (directory ++ [name]) = none
  | .persistNoclobber temporary destination, .moved =>
    isFile s.tree temporary = true ∧ s.tree destination = none
  | .persistNoclobber _ destination, .occupied _ => s.tree destination ≠ none
  | .nextEntry directory, .named name => ∀ opened, s.opened = some opened →
    (opened (directory ++ [name]) ≠ none ∨ s.tree (directory ++ [name]) ≠ none) ∧
      (s.tree (directory ++ [name]) = opened (directory ++ [name]) → name ∉ s.listed)
  | .nextEntry directory, .finished => ∀ opened, s.opened = some opened → ∀ name,
    opened (directory ++ [name]) ≠ none → s.tree (directory ++ [name]) ≠ none → name ∈ s.listed
  | .act act, .done => performable s.tree act = true
  | _, _ => True

/-- What a program may ask for, and what may be at fault. -/
structure Terms where
  allow : Session → Op → Prop
  mayFail : Session → Op → Prop

abbrev contract (terms : Terms) : Program.Contract monitor where
  Allow := terms.allow
  Expect s op answer :=
    Truthful s op answer ∧ (faulted s.tree op answer = true → terms.mayFail s op)

/-! ## The operations as programs -/

def stat (path : Path) : Program interface Stat := .await (.stat path) .done

def read (path : Path) : Program interface (Option Content) := .await (.read path) .done

def canonicalize (path : Path) : Program interface (Option (Option Path)) :=
  .await (.canonicalize path) .done

def createTemporary (directory : Path) : Program interface (Except String String) :=
  .await (.createTemporary directory) .done

def write (temporary : Path) (bytes : Content) : Program interface Written :=
  .await (.write temporary bytes) .done

def persistNoclobber (temporary destination : Path) : Program interface Persisted :=
  .await (.persistNoclobber temporary destination) .done

def nextEntry (directory : Path) : Program interface Entry := .await (.nextEntry directory) .done

def perform (act : Act) : Program interface Completion := .await (.act act) .done

/-! ## Programs that only look -/

def Reading : Op → Prop
  | .stat _ | .read _ | .canonicalize _ => True
  | _ => False

def Terms.AllowsReading (terms : Terms) : Prop := ∀ s op, Reading op → terms.allow s op

variable {α β : Type} {tree : Tree} {terms : Terms} {s : Session}

/-- A program that changes nothing. Without a fault it ends with `value`, and at its
first fault it ends with `worst`. -/
def Reads (tree : Tree) (p : Program interface α) (value worst : α) : Prop :=
  ∀ terms : Terms, terms.AllowsReading → ∀ s : Session, s.tree = tree →
    p.Keeps (contract terms) s fun a t => (a = value ∧ t = s) ∨
      (a = worst ∧ ∃ op, Reading op ∧ terms.mayFail s op ∧ t = fault s op)

theorem Reads.keeps {p : Program interface α} {value worst : α} {post : α → Session → Prop}
    (reads : Reads s.tree p value worst) (allowed : terms.AllowsReading) (fine : post value s)
    (failed : ∀ op, Reading op → terms.mayFail s op → post worst (fault s op)) :
    p.Keeps (contract terms) s post := by
  apply Program.Keeps.mono (reads terms allowed s rfl)
  rintro a t (⟨rfl, rfl⟩ | ⟨rfl, op, reading, may, rfl⟩)
  · exact fine
  · exact failed op reading may

theorem reads_done (a worst : α) : Reads tree (.done a) a worst := by
  intro terms allowed s same
  exact .inl ⟨rfl, rfl⟩

/-- The rule of sequence: what follows a fault ends at once. -/
theorem Reads.bind {p : Program interface α} {f : α → Program interface β} {a worst : α}
    {b worst' : β} (first : Reads tree p a worst) (later : Reads tree (f a) b worst')
    (ends : f worst = .done worst') : Reads tree (p >>= f) b worst' := by
  intro terms allowed s same
  subst same
  rw [Program.keeps_bind]
  apply first.keeps allowed
  · exact later terms allowed s rfl
  · intro op reading may
    rw [ends]
    exact .inr ⟨rfl, op, reading, may, rfl⟩

def statOf (tree : Tree) (path : Path) : Stat :=
  match tree path with
  | none => .missing
  | some node => .found node.kind

def readOf (tree : Tree) (path : Path) : Option Content :=
  match tree path with
  | some (.file bytes) => some bytes
  | _ => none

theorem reads_stat (path : Path) : Reads tree (stat path) (statOf tree path) .failed := by
  rintro terms allowed s rfl
  refine ⟨allowed s _ trivial, ?_⟩
  rintro (kind | _ | _) ⟨truthful, may⟩
  · left
    obtain ⟨node, present, same⟩ := Option.map_eq_some_iff.mp truthful
    have seen : statOf s.tree path = .found kind := by
      unfold statOf
      rw [present, ← same]
    exact ⟨seen.symm, rfl⟩
  · left
    have missing : s.tree path = none := truthful
    exact ⟨by rw [statOf, missing], rfl⟩
  · right
    exact ⟨rfl, .stat path, trivial, may rfl, rfl⟩

theorem reads_read (path : Path) : Reads tree (read path) (readOf tree path) none := by
  rintro terms allowed s rfl
  refine ⟨allowed s _ trivial, ?_⟩
  rintro (_ | bytes) ⟨truthful, may⟩
  · by_cases file : isFile s.tree path = true
    · right
      have faulted : faulted s.tree (.read path) none = true := file
      refine ⟨rfl, .read path, trivial, may faulted, ?_⟩
      exact congrArg (Session.mk s.tree s.opened s.listed) (if_pos faulted)
    · left
      have sound : faulted s.tree (.read path) none ≠ true := file
      refine ⟨?_, congrArg (Session.mk s.tree s.opened s.listed) (if_neg sound)⟩
      unfold isFile at file
      unfold readOf
      split
      · rename_i bytes present
        rw [present] at file
        exact absurd rfl file
      · rfl
  · left
    have present : s.tree path = some (.file bytes) := truthful
    exact ⟨by rw [readOf, present], rfl⟩

theorem reads_canonicalize {path : Path} (rooted : Rooted tree path)
    (directory : isDirectory tree path = true) :
    Reads tree (canonicalize path) (some (some path)) none := by
  rintro terms allowed s rfl
  refine ⟨allowed s _ trivial, ?_⟩
  rintro (_ | target) ⟨truthful, may⟩
  · right
    have faulted : faulted s.tree (.canonicalize path) none = true := directory
    refine ⟨rfl, .canonicalize path, trivial, may faulted, ?_⟩
    exact congrArg (Session.mk s.tree s.opened s.listed) (if_pos faulted)
  · left
    exact ⟨congrArg some (truthful rooted), rfl⟩

/-! ## Programs that change the tree -/

/-- The session after an act. -/
def acted (s : Session) (act : Act) : Session where
  tree := performed s.tree act
  opened := openedBy s (.act act) .done
  listed := listedBy s (.act act) .done
  faults := s.faults

theorem keeps_perform {act : Act} {post : Completion → Session → Prop}
    (allowed : terms.allow s (.act act))
    (done : performable s.tree act = true → post .done (acted s act))
    (failed : ∀ reason, performable s.tree act = true → terms.mayFail s (.act act) →
      post (.failed reason) (fault s (.act act)))
    (impossible : ∀ reason, performable s.tree act = false → post (.failed reason) s) :
    (perform act).Keeps (contract terms) s post := by
  refine ⟨allowed, ?_⟩
  rintro (_ | reason) ⟨truthful, may⟩
  · exact done truthful
  · have same : failure (.act act) (.failed reason) = true := rfl
    show post (.failed reason) ⟨s.tree, _, _, _⟩
    by_cases able : performable s.tree act = true
    · have faulted : faulted s.tree (.act act) (.failed reason) = true := able
      rw [if_pos faulted]
      cases act <;> exact failed reason able (may faulted)
    · have sound : ¬faulted s.tree (.act act) (.failed reason) = true := able
      rw [if_neg sound]
      cases act <;> exact impossible reason (Bool.not_eq_true _ ▸ able)

theorem keeps_createTemporary {directory : Path} {post : Except String String → Session → Prop}
    (allowed : terms.allow s (.createTemporary directory))
    (created : ∀ name, IsTemporary name → isDirectory s.tree directory = true →
      s.tree (directory ++ [name]) = none →
      post (.ok name)
        { s with tree := Function.update s.tree (directory ++ [name]) (some (.file [])) })
    (failed : ∀ reason, isDirectory s.tree directory = true →
      terms.mayFail s (.createTemporary directory) →
      post (.error reason) (fault s (.createTemporary directory)))
    (impossible : ∀ reason, isDirectory s.tree directory = false → post (.error reason) s) :
    (createTemporary directory).Keeps (contract terms) s post := by
  refine ⟨allowed, ?_⟩
  rintro (reason | name) ⟨truthful, may⟩
  · show post (.error reason) ⟨s.tree, s.opened, s.listed, _⟩
    by_cases able : isDirectory s.tree directory = true
    · have faulted : faulted s.tree (.createTemporary directory) (.error reason) = true := able
      rw [if_pos faulted]
      exact failed reason able (may faulted)
    · have sound : ¬faulted s.tree (.createTemporary directory) (.error reason) = true := able
      rw [if_neg sound]
      exact impossible reason (Bool.not_eq_true _ ▸ able)
  · exact created name truthful.1 truthful.2.1 truthful.2.2

theorem keeps_write {temporary : Path} {bytes : Content} {post : Written → Session → Prop}
    (allowed : terms.allow s (.write temporary bytes))
    (complete : post .complete
      { s with tree := Function.update s.tree temporary (some (.file bytes)) })
    (partway : ∀ part reason, terms.mayFail s (.write temporary bytes) →
      post (.partway part reason)
        (fault { s with tree := Function.update s.tree temporary (some (.file part)) }
          (.write temporary bytes))) :
    (write temporary bytes).Keeps (contract terms) s post := by
  refine ⟨allowed, ?_⟩
  rintro (_ | ⟨part, reason⟩) ⟨_, may⟩
  · exact complete
  · exact partway part reason (may rfl)

theorem keeps_persistNoclobber {temporary destination : Path} {post : Persisted → Session → Prop}
    (allowed : terms.allow s (.persistNoclobber temporary destination))
    (held : isFile s.tree temporary = true)
    (placed : s.tree destination = none →
      post .moved { s with tree := moved s.tree temporary destination })
    (occupied : ∀ reason, s.tree destination ≠ none → post (.occupied reason) s)
    (failed : ∀ reason, terms.mayFail s (.persistNoclobber temporary destination) →
      post (.failed reason) (fault s (.persistNoclobber temporary destination))) :
    (persistNoclobber temporary destination).Keeps (contract terms) s post := by
  refine ⟨allowed, ?_⟩
  rintro (_ | reason | reason) ⟨truthful, may⟩
  · exact placed truthful.2
  · exact occupied reason truthful
  · have faulted : faulted s.tree (.persistNoclobber temporary destination) (.failed reason) = true :=
      held
    show post (.failed reason) ⟨s.tree, s.opened, s.listed, _⟩
    rw [if_pos faulted]
    exact failed reason (may faulted)

/-- The session after an entry was given. -/
def afterEntry (s : Session) (name : String) : Session := { s with listed := name :: s.listed }

theorem keeps_nextEntry {directory : Path} {before : Tree} {post : Entry → Session → Prop}
    (allowed : terms.allow s (.nextEntry directory)) (opened : s.opened = some before)
    (named : ∀ name, before (directory ++ [name]) ≠ none ∨ s.tree (directory ++ [name]) ≠ none →
      (s.tree (directory ++ [name]) = before (directory ++ [name]) → name ∉ s.listed) →
      post (.named name) (afterEntry s name))
    (unnamed : post .unnamed s)
    (failed : terms.mayFail s (.nextEntry directory) → post .failed (fault s (.nextEntry directory)))
    (finished : (∀ name, before (directory ++ [name]) ≠ none → s.tree (directory ++ [name]) ≠ none →
      name ∈ s.listed) → post .finished s) :
    (nextEntry directory).Keeps (contract terms) s post := by
  refine ⟨allowed, ?_⟩
  rintro (name | _ | _ | _) ⟨truthful, may⟩
  · obtain ⟨present, new⟩ := truthful before opened
    exact named name present new
  · exact unnamed
  · exact failed (may rfl)
  · exact finished (truthful before opened)

/-! ## Programs that only remove -/

/-- The operations that change nothing but that they remove some of these files. -/
def Removes (touched : Path → Prop) : Op → Prop
  | .act (.remove path) => touched path
  | .stat _ | .read _ | .canonicalize _ | .nextEntry _ | .act (.sync _)
  | .act (.openDirectory _) => True
  | _ => False

/-- Nothing changed but that some of these files were removed. -/
def Pruned (touched : Path → Prop) (before after : Tree) : Prop :=
  ∀ path, after path = before path ∨
    (touched path ∧ before path ≠ some .directory ∧ after path = none)

theorem Pruned.refl (touched : Path → Prop) (tree : Tree) : Pruned touched tree tree :=
  fun _ => .inl rfl

theorem Pruned.trans {touched : Path → Prop} {before between after : Tree}
    (first : Pruned touched before between) (later : Pruned touched between after) :
    Pruned touched before after := by
  intro path
  rcases later path with same | ⟨among, other, gone⟩
  · rw [same]
    exact first path
  · rcases first path with kept | ⟨_, was, _⟩
    · rw [kept] at other
      exact .inr ⟨among, other, gone⟩
    · exact .inr ⟨among, was, gone⟩

theorem Pruned.kept {touched : Path → Prop} {before after : Tree} (pruned : Pruned touched before after)
    {path : Path} {node : Node} (present : after path = some node) : before path = some node := by
  rcases pruned path with same | ⟨_, _, gone⟩
  · rw [← same, present]
  · rw [gone] at present
    cases present

theorem Pruned.directory {touched : Path → Prop} {before after : Tree}
    (pruned : Pruned touched before after) {path : Path} (present : before path = some .directory) :
    after path = some .directory := by
  rcases pruned path with same | ⟨_, other, _⟩
  · rw [same, present]
  · exact absurd present other

theorem pruned_change {touched : Path → Prop} {op : Op} {answer : Ans op} (removes : Removes touched op)
    (truthful : Truthful s op answer) : Pruned touched s.tree (change s.tree op answer) := by
  cases op with
  | stat | read | canonicalize | nextEntry => exact .refl _ _
  | createTemporary | write | persistNoclobber => cases removes
  | act act =>
    cases answer with
    | failed => exact .refl _ _
    | done =>
      cases act with
      | sync | openDirectory => exact .refl _ _
      | createDirectory | persist | discard => cases removes
      | remove path =>
        have able : performable s.tree (.remove path) = true := truthful
        simp only [performable, Bool.and_eq_true, bne_iff_ne] at able
        intro other
        by_cases same : other = path
        · subst same
          exact .inr ⟨removes, able.2, Function.update_self _ _ _⟩
        · exact .inl (Function.update_of_ne same _ _)

/-- A program that may only remove some files changes nothing else. -/
theorem keeps_pruned {touched : Path → Prop} {p : Program interface α} {post : α → Session → Prop}
    (restricted : ∀ u op, terms.allow u op → Removes touched op)
    (kept : p.Keeps (contract terms) s post) :
    p.Keeps (contract terms) s fun a t => post a t ∧ Pruned touched s.tree t.tree := by
  apply kept.and_invariant _ (Pruned.refl touched s.tree)
  intro u op answer pruned allowed expected
  exact pruned.trans (pruned_change (restricted u op allowed) expected.1)

/-! ## What a failure leaves -/

/-- The place of a temporary file. -/
def Temporary (path : Path) : Prop := ∃ directory name, path = directory ++ [name] ∧ IsTemporary name

/-- Nothing changed since a session but that some temporary files could not be
discarded. -/
structure Left (s t : Session) (new : List Op) : Prop where
  faults : t.faults = s.faults ++ new
  tree : ∀ path, t.tree path = s.tree path ∨ (Temporary path ∧ .act (.discard path) ∈ new)

theorem Left.refl (s : Session) : Left s s [] := ⟨(List.append_nil _).symm, fun _ => .inl rfl⟩

theorem Left.trans {s t u : Session} {first later : List Op} (before : Left s t first)
    (after : Left t u later) : Left s u (first ++ later) := by
  constructor
  · rw [after.faults, before.faults, List.append_assoc]
  · intro path
    rcases after.tree path with same | ⟨temporary, discarded⟩
    · rcases before.tree path with kept | ⟨temporary, discarded⟩
      · exact .inl (same.trans kept)
      · exact .inr ⟨temporary, List.mem_append_left _ discarded⟩
    · exact .inr ⟨temporary, List.mem_append_right _ discarded⟩

theorem left_fault (s : Session) (op : Op) : Left s (fault s op) [op] := ⟨rfl, fun _ => .inl rfl⟩

/-- The end of a program that failed before it changed anything for good. Without a fault
it had no way to succeed. -/
def Aborted (able : Prop) (s t : Session) : Prop :=
  ∃ new, Left s t new ∧ (∀ directory, .act (.sync directory) ∉ new) ∧ (new = [] → ¬able)

theorem aborted_refl {able : Prop} (s : Session) (unable : ¬able) : Aborted able s s :=
  ⟨[], .refl s, fun _ => List.not_mem_nil, fun _ => unable⟩

theorem aborted_fault {able : Prop} {op : Op} (s : Session)
    (other : ∀ directory, op ≠ .act (.sync directory)) : Aborted able s (fault s op) := by
  refine ⟨[op], left_fault s op, ?_, fun none => nomatch none⟩
  intro directory among
  exact other directory (List.mem_singleton.mp among).symm

theorem Aborted.weaken {able able' : Prop} {s t : Session} (aborted : Aborted able s t)
    (needs : able' → able) : Aborted able' s t := by
  obtain ⟨new, left, unsynced, unable⟩ := aborted
  exact ⟨new, left, unsynced, fun none possible => unable none (needs possible)⟩

theorem Aborted.faulty {able : Prop} {s t : Session} (aborted : Aborted able s t) (possible : able)
    (calm : t.faults = s.faults) : False := by
  obtain ⟨new, left, _, unable⟩ := aborted
  rw [left.faults, List.append_right_eq_self] at calm
  exact unable calm possible

theorem Left.aborted {able : Prop} {s t u : Session} {first : List Op} (before : Left s t first)
    (unsynced : ∀ directory, .act (.sync directory) ∉ first) (aborted : Aborted able t u) :
    Aborted able s u := by
  obtain ⟨later, left, calm, unable⟩ := aborted
  refine ⟨first ++ later, before.trans left, ?_, ?_⟩
  · intro directory among
    rcases List.mem_append.mp among with early | late
    · exact unsynced directory early
    · exact calm directory late
  · intro none
    exact unable (List.append_eq_nil_iff.mp none).2

/-- A temporary file with its content, over a tree that had no such file. -/
structure Staged (base : Session) (temporary : Path) (bytes : Content) (t : Session) : Prop where
  dotted : Temporary temporary
  fresh : base.tree temporary = none
  written : t = { base with tree := Function.update base.tree temporary (some (.file bytes)) }

theorem Staged.held {base t : Session} {temporary : Path} {bytes : Content}
    (staged : Staged base temporary bytes t) : t.tree temporary = some (.file bytes) := by
  rw [staged.written]
  exact Function.update_self _ _ _

theorem Staged.elsewhere {base t : Session} {temporary path : Path} {bytes : Content}
    (staged : Staged base temporary bytes t) (other : path ≠ temporary) :
    t.tree path = base.tree path := by
  rw [staged.written]
  exact Function.update_of_ne other _ _

/-- After a failure the temporary file is discarded, or stays. -/
theorem Staged.discard {base t : Session} {temporary : Path} {bytes : Content} {early : List Op}
    {post : Completion → Session → Prop} (staged : Staged base temporary bytes t)
    (allowed : ∀ u op, op = .act (.discard temporary) → terms.allow u op)
    (left : ∀ answer later u, Left base u (early ++ later) →
      (later = [] ∨ later = [.act (.discard temporary)]) → post answer u) :
    (perform (.discard temporary)).Keeps (contract terms) { t with faults := t.faults ++ early }
      post := by
  have held := staged.held
  have kept : t.faults = base.faults := by rw [staged.written]
  apply keeps_perform (allowed _ _ rfl)
  · intro _
    apply left .done [] _ _ (.inl rfl)
    refine ⟨by rw [List.append_nil, ← kept]; rfl, ?_⟩
    intro path
    left
    show Function.update t.tree temporary none path = base.tree path
    by_cases same : path = temporary
    · rw [same, Function.update_self, staged.fresh]
    · rw [Function.update_of_ne same, staged.elsewhere same]
  · intro reason _ _
    apply left (.failed reason) [.act (.discard temporary)] _ _ (.inr rfl)
    refine ⟨by rw [← List.append_assoc, ← kept]; rfl, ?_⟩
    intro path
    by_cases same : path = temporary
    · right
      rw [same]
      exact ⟨staged.dotted, List.mem_append_right _ List.mem_cons_self⟩
    · exact .inl (staged.elsewhere same)
  · intro reason impossible
    simp only [performable, held] at impossible
    cases impossible

/-- A temporary file that took its final name. -/
theorem Staged.moved {base t : Session} {temporary destination : Path} {bytes : Content}
    (staged : Staged base temporary bytes t) (other : ¬Temporary destination) :
    Files.moved t.tree temporary destination =
      Function.update base.tree destination (some (.file bytes)) := by
  have apart : destination ≠ temporary := by
    rintro rfl
    exact other staged.dotted
  funext path
  unfold Files.moved
  by_cases same : path = temporary
  · rw [same, Function.update_self, Function.update_of_ne apart.symm, staged.fresh]
  · rw [Function.update_of_ne same, staged.held]
    by_cases final : path = destination
    · rw [final, Function.update_self, Function.update_self]
    · rw [Function.update_of_ne final, Function.update_of_ne final, staged.elsewhere same]

theorem Left.exact {s t : Session} (left : Left s t []) : t.tree = s.tree := by
  funext path
  rcases left.tree path with same | ⟨_, impossible⟩
  · exact same
  · cases impossible

theorem Left.steady {s t : Session} {new : List Op} (left : Left s t new) {path : Path}
    (final : ¬Temporary path) : t.tree path = s.tree path := by
  rcases left.tree path with same | ⟨temporary, _⟩
  · exact same
  · exact absurd temporary final

/-- Directories on the way to a target were created, and nothing else changed. -/
structure Entered (target : Path) (s t : Session) : Prop where
  faults : t.faults = s.faults
  tree : ∀ path, t.tree path = s.tree path ∨
    (path <+: target ∧ s.tree path = none ∧ t.tree path = some .directory)

theorem Entered.refl (target : Path) (s : Session) : Entered target s s := ⟨rfl, fun _ => .inl rfl⟩

theorem Entered.trans {target : Path} {s t u : Session} (first : Entered target s t)
    (later : Entered target t u) : Entered target s u := by
  constructor
  · rw [later.faults, first.faults]
  · intro path
    rcases later.tree path with same | ⟨top, none, present⟩
    · rw [same]
      exact first.tree path
    · right
      rcases first.tree path with same | ⟨_, absent, directory⟩
      · exact ⟨top, same.symm.trans none, present⟩
      · exact ⟨top, absent, present⟩

/-- The way to a directory holds nothing that is no directory. -/
def Enterable (tree : Tree) (directory : Path) : Prop :=
  ∀ above, above <+: directory → above ≠ [] → tree above = none ∨ tree above = some .directory

theorem Entered.enterable {target : Path} {s t : Session} (entered : Entered target s t)
    (enterable : Enterable s.tree target) : Enterable t.tree target := by
  intro above top below
  rcases entered.tree above with same | ⟨_, _, present⟩
  · rw [same]
    exact enterable above top below
  · exact .inr present

end Files
