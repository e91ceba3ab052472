import ImagegenBridge.Core.Error
import ImagegenBridge.Lib.Program

/-!
# Replacing the binary, `crates/cli/src/update/install.rs`

`replace` is a program over the steps that it takes in the file system, on Unix. Each of them may
fail. A file is replaced by renaming a temporary one, which a dropped guard removes.
-/

namespace ImagegenBridge.SelfUpdate

open Program

abbrev Bytes := List UInt8

/-- The running executable and the one beside it that it can be put back from. -/
inductive Binary where
  | executable
  | backup
  deriving DecidableEq, Repr

inductive ReplaceOp where
  | isFile (binary : Binary)
  | read (binary : Binary)
  | createDirectories
  | createTemporary
  | writeTemporary (bytes : Bytes)
  | syncTemporary
  | permitTemporary
  | persist (binary : Binary)
  | permit (binary : Binary)

abbrev ReplaceOp.Ans : ReplaceOp → Type
  | .read _ => Option Bytes
  | _ => Bool

abbrev replaceCalls : Interface := ⟨ReplaceOp, ReplaceOp.Ans⟩

abbrev Replace (α : Type) := ExceptT BridgeError (Program replaceCalls) α

def await (op : ReplaceOp) : Replace op.Ans := ExceptT.lift (ask (I := replaceCalls) op)

/-- The `?` operator. -/
def ensure {α : Type} (outcome : Outcome α) : Replace α := ExceptT.mk (Program.done outcome)

def invalid (message : String) : BridgeError := .new .invalidRequest message

def internal (message : String) : BridgeError := .new .internal message

def succeeded (success : Bool) (message : String) : Outcome Unit :=
  Outcome.failIf (success = false) (internal message)

def contents (read : Option Bytes) (message : String) : Outcome Bytes :=
  read.elim (.error (internal message)) .ok

def atomicWrite (binary : Binary) (bytes : Bytes) : Replace Unit := do
  let created ← await .createDirectories
  ensure (succeeded created "update directory could not be created")
  let opened ← await .createTemporary
  ensure (succeeded opened "temporary update file could not be created")
  let written ← await (.writeTemporary bytes)
  ensure (succeeded written "temporary update file could not be written")
  let published ← await (.persist binary)
  ensure (succeeded published "update file could not be published atomically")

/-- `parented` says that the path of the executable has a parent. -/
def replace (parented : Bool) (binary : Bytes) : Replace Unit := do
  ensure (succeeded parented "running executable has no parent directory")
  let read ← await (.read .executable)
  let current ← ensure (contents read "running executable could not be backed up")
  atomicWrite .backup current
  let permitted ← await (.permit .backup)
  ensure (succeeded permitted "backup executable permissions could not be set")
  let opened ← await .createTemporary
  ensure (succeeded opened "temporary executable could not be created")
  let written ← await (.writeTemporary binary)
  ensure (succeeded written "temporary executable could not be written")
  let synced ← await .syncTemporary
  ensure (succeeded synced "temporary executable could not be written")
  let permitted ← await .permitTemporary
  ensure (succeeded permitted "temporary executable permissions could not be set")
  let published ← await (.persist .executable)
  ensure (succeeded published "updated executable could not be published atomically")

def ensureConfirmation (dryRun yes : Bool) : Outcome Unit :=
  Outcome.failIf (dryRun = false ∧ yes = false)
    (invalid "this command changes the installation; review with --dry-run, then pass --yes")

structure InstallResult where
  action : String
  dryRun : Bool

def rollback (container parented dryRun yes : Bool) : Replace InstallResult := do
  ensure (ensureConfirmation dryRun yes)
  ensure (Outcome.failIf (container = true) (invalid
    "standalone rollback is disabled inside containers; roll back the Docker image pin on the host"))
  let present ← await (.isFile .backup)
  ensure (Outcome.failIf (present = false)
    (invalid "no previous standalone binary is available for rollback"))
  if dryRun then return ⟨"rollback", true⟩
  else do
    let read ← await (.read .backup)
    let bytes ← ensure (contents read "previous binary could not be read")
    replace parented bytes
    return ⟨"rolled_back", false⟩

/-! ## The two files -/

/-- A step failed. -/
def fails : Exchange replaceCalls → Bool
  | ⟨.read _, read⟩ => read.isNone
  | ⟨.isFile _, _⟩ => false
  | ⟨.createDirectories, success⟩ | ⟨.createTemporary, success⟩ | ⟨.writeTemporary _, success⟩
  | ⟨.syncTemporary, success⟩ | ⟨.permitTemporary, success⟩ | ⟨.persist _, success⟩
  | ⟨.permit _, success⟩ => !success

/-- The backup was published. -/
def publishesBackup : Exchange replaceCalls → Bool
  | ⟨.persist .backup, published⟩ => published
  | _ => false

/-- What is in the two files and in the temporary one, whether the backup was published, and
whether a step failed after that. -/
structure Files where
  content : Binary → Option Bytes
  temporary : Option Bytes
  published : Prop
  late : Prop

namespace Files

def start (content : Binary → Option Bytes) : Files := ⟨content, none, False, False⟩

def persisted (s : Files) (binary : Binary) : Files :=
  { s with
    content := fun other => if other = binary then s.temporary else s.content other
    temporary := none }

def written (s : Files) (bytes : Bytes) : Files := { s with temporary := some bytes }

def changed (s : Files) : (op : ReplaceOp) → op.Ans → Files
  | .createTemporary, success => if success then s.written [] else s
  | .writeTemporary bytes, success => if success then s.written bytes else s
  | .persist binary, success => if success then s.persisted binary else s
  | _, _ => s

def next (s : Files) (op : ReplaceOp) (answer : op.Ans) : Files :=
  { s.changed op answer with
    published := s.published ∨ publishesBackup ⟨op, answer⟩ = true
    late := s.late ∨ (s.published ∧ fails ⟨op, answer⟩ = true) }

end Files

abbrev filesMonitor : Monitor replaceCalls := ⟨Files, Files.next⟩

/-- What is read is what is there. -/
abbrev filesContract : Contract filesMonitor where
  Allow _ _ := True
  Expect s op answer := match op, answer with
    | .read binary, some bytes => s.content binary = some bytes
    | _, _ => True

end ImagegenBridge.SelfUpdate
