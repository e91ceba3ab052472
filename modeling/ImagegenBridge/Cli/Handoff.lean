import ImagegenBridge.Core.Error
import ImagegenBridge.Core.Text
import ImagegenBridge.Lib.Lines
import ImagegenBridge.Lib.Program

/-!
# Active/passive handoff, `crates/cli/src/update/install.rs`

A handoff is a program over the Docker Compose commands, the health probes and the three
files it writes. The JSON parser is a parameter.
-/

namespace ImagegenBridge.Update

open Program Text

inductive Slot where
  | blue
  | green
  deriving DecidableEq, Repr

namespace Slot

def name : Slot → String
  | blue => "blue"
  | green => "green"

def other : Slot → Slot
  | blue => green
  | green => blue

/-- The variable of the environment file that pins the image of a slot. -/
def variableName : Slot → String
  | blue => "IMAGEGEN_BRIDGE_BLUE_IMAGE"
  | green => "IMAGEGEN_BRIDGE_GREEN_IMAGE"

end Slot

/-! ## Operations -/

/-- A file that is replaced as a whole. -/
inductive HandoffFile where
  | environment
  | coordination
  | slot
  deriving DecidableEq, Repr

inductive ComposeCommand where
  | pull (slot : Slot)
  | stop (slot : Slot)
  | up (slot : Slot)

inductive ReadAnswer where
  | content (bytes : List UInt8)
  | missing
  | failed

/-- Where an atomic write fails. -/
inductive WriteStep where
  | directory
  | temporary
  | contents
  | publish

inductive WriteAnswer where
  | written
  | failed (step : WriteStep)

inductive ComposeAnswer where
  | succeeded
  | failed
  | unavailable
  deriving DecidableEq

/-- What the listing of a service answers. -/
inductive ListAnswer where
  | listed (success : Bool) (stdout : List UInt8)
  | unavailable

inductive HandoffOp where
  | readEnvironment
  | write (file : HandoffFile) (bytes : List UInt8)
  | removeEnvironment
  | compose (command : ComposeCommand)
  | list (slot : Slot)
  | deadlinePassed
  | stall

abbrev HandoffOp.Ans : HandoffOp → Type
  | .readEnvironment => ReadAnswer
  | .write .. => WriteAnswer
  | .removeEnvironment | .deadlinePassed => Bool
  | .compose _ => ComposeAnswer
  | .list _ => ListAnswer
  | .stall => Empty

abbrev handoffCalls : Interface := ⟨HandoffOp, HandoffOp.Ans⟩

abbrev Handoff (α : Type) := ExceptT BridgeError (Program handoffCalls) α

def await (op : HandoffOp) : Handoff op.Ans := ExceptT.lift (ask (I := handoffCalls) op)

/-- The `?` operator. -/
def ensure {α : Type} (outcome : Outcome α) : Handoff α := ExceptT.mk (Program.done outcome)

def invalid (message : String) : BridgeError := .new .invalidRequest message

def internal (message : String) : BridgeError := .new .internal message

def unavailable : BridgeError := invalid "Docker Compose is not available on this host"

/-- Runs a step that is undone by another one when it fails. -/
def orUndo (step : Handoff Unit) (undo : BridgeError → Handoff Unit) : Handoff Unit := do
  match ← ExceptT.lift step.run with
  | .ok () => pure ()
  | .error error => undo error

/-! ## The environment file -/

/-- `text.lines()`. -/
def textLines (text : List Char) : List (List Char) :=
  let (complete, rest) := Lines.cut '\n' [] text
  (complete.map fun line => if line.getLast? = some '\r' then line.dropLast else line) ++
    if rest = [] then [] else [rest]

/-- The line pins the variable. -/
def pins (variableName : String) (line : List Char) : Bool :=
  startsWith (line.dropWhile isWhitespace) (variableName.toList ++ ['='])

/-- The first line that pins the variable is replaced, and every other one is dropped. -/
def replacePin (variableName pinned : String) (kept : Bool × List String) (line : List Char) :
    Bool × List String :=
  if pins variableName line then (true, if kept.1 then kept.2 else kept.2 ++ [pinned])
  else (kept.1, kept.2 ++ [String.ofList line])

def updateEnvNamedPin (original : List UInt8) (variableName image : String) :
    Outcome (List UInt8) :=
  match String.fromUTF8? ⟨original.toArray⟩ with
  | none => .error (invalid "environment file is not valid UTF-8")
  | some text =>
    let pinned := variableName ++ "=" ++ image
    let (found, lines) := (textLines text.toList).foldl (replacePin variableName pinned) (false, [])
    let lines := if found then lines else lines ++ [pinned]
    .ok ("\n".intercalate lines ++ "\n").toUTF8.toList

/-! ## Files and commands -/

def readFailure : BridgeError := invalid "environment file could not be read safely"

def readEnvironment : Handoff (Option (List UInt8)) := do
  match ← await .readEnvironment with
  | .content bytes => pure (some bytes)
  | .missing => pure none
  | .failed => throw readFailure

def writeFailure : WriteStep → BridgeError
  | .directory => internal "update directory could not be created"
  | .temporary => internal "temporary update file could not be created"
  | .contents => internal "temporary update file could not be written"
  | .publish => internal "update file could not be published atomically"

def atomicWrite (file : HandoffFile) (bytes : List UInt8) : Handoff Unit := do
  match ← await (.write file bytes) with
  | .written => pure ()
  | .failed step => throw (writeFailure step)

/-- What the file answers is ignored. -/
def restoreFile : Option (List UInt8) → Handoff Unit
  | some original => do
    let _ ← await (.write .environment original)
  | none => do
    let _ ← await .removeEnvironment

def compose (command : ComposeCommand) : Handoff Unit := do
  match ← await (.compose command) with
  | .succeeded => pure ()
  | .failed => throw (BridgeError.new .upstream "Docker Compose command failed")
  | .unavailable => throw unavailable

variable (parse : String → Option Json)

def healthyValue (value : Json) : Bool := ((value.get "Health").bind Json.asStr) == some "healthy"

def composeReportsHealthy (bytes : List UInt8) : Bool :=
  match String.fromUTF8? ⟨bytes.toArray⟩ with
  | none => false
  | some text =>
    ((parse text).any fun value => match value with
      | .array items => items.any healthyValue
      | value => healthyValue value) ||
    (textLines text.toList).any fun line => (parse (String.ofList line)).any healthyValue

def stall : Handoff Unit := do
  let never ← await .stall
  nomatch never

/-- The loop lists the service as long as it has rounds left, and stalls then: a run that
takes longer has a longer bound. -/
def waitHealthy (slot : Slot) : Nat → Handoff Unit
  | 0 => stall
  | rounds + 1 => do
    match ← await (.list slot) with
    | .unavailable => throw unavailable
    | .listed success stdout =>
      if success && composeReportsHealthy parse stdout then pure ()
      else if ← await .deadlinePassed then
        throw (BridgeError.new .timeout
          "new deployment slot did not become provider-ready before the deadline")
      else waitHealthy slot rounds

/-! ## The handoff -/

def slotLine (slot : Slot) : List UInt8 := (slot.name ++ "\n").toUTF8.toList

def holdLine : List UInt8 := "hold\n".toUTF8.toList

def rollbackHandoff (rounds : Nat) (current target : Slot) (original : Option (List UInt8)) :
    Handoff Unit := do
  orUndo (compose (.stop target)) fun _ => pure ()
  restoreFile original
  compose (.up current)
  waitHealthy parse current rounds
  atomicWrite .slot (slotLine current)
  atomicWrite .coordination (slotLine current)

/-- The report of a handoff that failed, with how its rollback ended. -/
def handoffError (message : String) (rollback : Outcome Unit) (error : BridgeError) : BridgeError :=
  .new .upstream (message ++ "; previous slot rollback " ++
    (match rollback with
      | .ok () => "succeeded"
      | .error _ => "failed") ++ ": " ++ error.message)

def rolledBack (rounds : Nat) (current target : Slot) (original : Option (List UInt8))
    (message : String) (error : BridgeError) : Handoff Unit := do
  let rollback ← ExceptT.lift (rollbackHandoff parse rounds current target original).run
  throw (handoffError message rollback error)

def cutOver (rounds : Nat) (current target : Slot) : Handoff Unit := do
  compose (.stop current)
  compose (.up target)
  waitHealthy parse target rounds

def commit (target : Slot) : Handoff Unit := do
  atomicWrite .slot (slotLine target)
  atomicWrite .coordination (slotLine target)

def dockerHandoff (rounds : Nat) (current target : Slot) (image : String) : Handoff Unit := do
  let original ← readEnvironment
  let updated ← ensure (updateEnvNamedPin (original.getD []) target.variableName image)
  atomicWrite .environment updated
  orUndo (compose (.pull target)) fun error => do
    restoreFile original
    throw error
  orUndo (atomicWrite .coordination holdLine) fun error => do
    restoreFile original
    throw error
  orUndo (cutOver parse rounds current target)
    (rolledBack parse rounds current target original "active/passive handoff failed")
  orUndo (commit target)
    (rolledBack parse rounds current target original "handoff state commit failed")

end ImagegenBridge.Update
