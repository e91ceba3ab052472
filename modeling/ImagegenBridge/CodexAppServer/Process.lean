import ImagegenBridge.Core.Error
import ImagegenBridge.Lib.Interleaving
import ImagegenBridge.Lib.Transition

/-!
# The supervised child, `crates/codex-app-server/src/process.rs`

Calls of `rpc` and `shutdown` interleave at every atomic step they take on the flag, on the
lock and on the children; a call may be dropped wherever it awaits. Children are numbered as
they are started, each with its connection, and exit when they like. A child that is dropped
is killed.
-/

namespace ImagegenBridge.CodexAppServer.Supervision

open Interleaving (Moved)

def shuttingDownError : BridgeError :=
  BridgeError.new .cancelled "codex app-server supervisor is shutting down"

/-! ## `stop_running` -/

/-- Where a stop stands: before `try_wait`, before `start_kill`, and at the wait. -/
inductive Stop where
  | inspecting
  | killing
  | waiting

/-- How a stop ends, of a child that lives or not. -/
inductive Stop.Ends : Stop → Bool → Outcome Unit → Prop
  | exited : Ends .inspecting false (.ok ())
  | uninspected {alive : Bool} : Ends .inspecting alive
      (.error (BridgeError.new .internal "could not inspect codex app-server process"))
  | unkilled {alive : Bool} : Ends .killing alive
      (.error (BridgeError.new .internal "could not stop codex app-server"))
  | reaped : Ends .waiting false (.ok ())
  | timedOut {alive : Bool} : Ends .waiting alive
      (.error (BridgeError.new .timeout "codex app-server did not stop"))
  | unreaped {alive : Bool} : Ends .waiting alive
      (.error (BridgeError.new .internal "could not reap codex app-server"))

/-! ## The supervisor -/

/-- Where the call of `rpc` stands that holds the lock. -/
inductive Stage where
  | locked
  | stopping (stop : Stop) (child : Nat)
  | stopped
  | resting
  | clear
  | connecting (child : Nat)
  -- The connection failed and the child is being killed.
  | cleaning (child : Nat)

namespace Stage

/-- The child that the call owns. -/
def child : Stage → Option Nat
  | stopping _ child | connecting child | cleaning child => some child
  | _ => none

/-- The stage is an await point. -/
def awaits : Stage → Bool
  | stopping .waiting _ | resting | connecting _ | cleaning _ => true
  | _ => false

end Stage

/-- `queued` calls of `rpc` and `closing` calls of `shutdown` wait for the lock, `inside` holds
it, and the calls of `shutdown` in `stopping` stop a child without it. `installs` lists the
children that were installed, and `returned` what calls of `shutdown` returned. -/
structure Supervisor where
  started : Nat
  alive : Nat → Bool
  killed : Nat → Bool
  running : Option Nat
  shuttingDown : Bool
  generation : Nat
  installs : List Nat
  queued : Nat
  inside : Option Stage
  closing : Nat
  stopping : List (Stop × Nat)
  returned : List (Outcome Unit)

namespace Supervisor

/-- The supervisor that `CodexProcess::spawn` makes. -/
def spawned : Supervisor where
  started := 1
  alive child := child == 0
  killed _ := false
  running := some 0
  shuttingDown := false
  generation := 1
  installs := [0]
  queued := 0
  inside := none
  closing := 0
  stopping := []
  returned := []

def exit (s : Supervisor) (child : Nat) : Supervisor :=
  { s with alive := fun other => s.alive other && other != child }

def kill (s : Supervisor) (child : Nat) : Supervisor :=
  { s with killed := fun other => s.killed other || other == child }

/-- A call drops the child that it owns. -/
def giveUp (s : Supervisor) : Option Nat → Supervisor
  | none => s
  | some child => s.kill child

/-- `Command::spawn`. -/
def start (s : Supervisor) : Supervisor :=
  { s with started := s.started + 1, alive := fun other => s.alive other || other == s.started }

def install (s : Supervisor) (child : Nat) : Supervisor :=
  { s with
    running := some child,
    generation := s.generation + 1,
    installs := s.installs ++ [child] }

end Supervisor

/-- The call goes on, and changes nothing. -/
inductive Stage.Advances (s : Supervisor) : Stage → Stage → Prop
  | absent : s.running = none → Advances s .locked .stopped
  | alive {child : Nat} : s.alive child = true →
      Advances s (.stopping .inspecting child) (.stopping .killing child)
  | stopped {stop : Stop} {child : Nat} : stop.Ends (s.alive child) (.ok ()) →
      Advances s (.stopping stop child) .stopped
  | rests : s.shuttingDown = false → Advances s .stopped .resting
  | rested : s.shuttingDown = false → Advances s .resting .clear

/-- The call returns an error. -/
inductive Stage.Fails (s : Supervisor) : Stage → BridgeError → Prop
  | unstopped {stop : Stop} {child : Nat} {error : BridgeError} :
      stop.Ends (s.alive child) (.error error) → Fails s (.stopping stop child) error
  | stopped : s.shuttingDown = true → Fails s .stopped shuttingDownError
  | rested : s.shuttingDown = true → Fails s .resting shuttingDownError
  | unspawned :
      Fails s .clear (BridgeError.new .configuration "could not spawn codex app-server")
  | noStdin {child : Nat} : Fails s (.connecting child)
      (BridgeError.new .internal "codex app-server stdin is unavailable")
  | noStdout {child : Nat} : Fails s (.connecting child)
      (BridgeError.new .internal "codex app-server stdout is unavailable")
  | disconnected {child : Nat} {error : BridgeError} : Fails s (.cleaning child) error

inductive SupervisorEvent where
  | exited (child : Nat)
  | went
  | dropped
  | answered (result : Outcome Nat)
  | returned (result : Outcome Unit)

inductive SupervisorStep : Supervisor → SupervisorEvent → Supervisor → Prop
  | exited {s : Supervisor} {child : Nat} : s.alive child = true →
      SupervisorStep s (.exited child) (s.exit child)
  | refused {s : Supervisor} : s.shuttingDown = true →
      SupervisorStep s (.answered (.error shuttingDownError)) s
  | queued {s : Supervisor} : s.shuttingDown = false →
      SupervisorStep s .went { s with queued := s.queued + 1 }
  | unqueued {s : Supervisor} : 0 < s.queued →
      SupervisorStep s .dropped { s with queued := s.queued - 1 }
  | locked {s : Supervisor} : 0 < s.queued → s.inside = none →
      SupervisorStep s .went { s with queued := s.queued - 1, inside := some .locked }
  -- The connection is open, and the child has not exited.
  | healthy {s : Supervisor} {child : Nat} : s.inside = some .locked → s.running = some child →
      s.alive child = true → SupervisorStep s (.answered (.ok child)) { s with inside := none }
  | takes {s : Supervisor} {child : Nat} : s.inside = some .locked → s.running = some child →
      SupervisorStep s .went
        { s with running := none, inside := some (.stopping .inspecting child) }
  | advances {s : Supervisor} {stage stage' : Stage} : s.inside = some stage →
      stage.Advances s stage' → SupervisorStep s .went { s with inside := some stage' }
  | kills {s : Supervisor} {child : Nat} : s.inside = some (.stopping .killing child) →
      SupervisorStep s .went { s.kill child with inside := some (.stopping .waiting child) }
  | starts {s : Supervisor} : s.inside = some .clear →
      SupervisorStep s .went { s.start with inside := some (.connecting s.started) }
  -- The lock hides the child until the counter is raised.
  | installs {s : Supervisor} {child : Nat} : s.inside = some (.connecting child) →
      SupervisorStep s (.answered (.ok child)) { s.install child with inside := none }
  | disconnected {s : Supervisor} {child : Nat} : s.inside = some (.connecting child) →
      SupervisorStep s .went { s.kill child with inside := some (.cleaning child) }
  | fails {s : Supervisor} {stage : Stage} {error : BridgeError} : s.inside = some stage →
      stage.Fails s error →
      SupervisorStep s (.answered (.error error)) { s.giveUp stage.child with inside := none }
  | dropped {s : Supervisor} {stage : Stage} : s.inside = some stage → stage.awaits = true →
      SupervisorStep s .dropped { s.giveUp stage.child with inside := none }
  | shutdown {s : Supervisor} :
      SupervisorStep s .went { s with shuttingDown := true, closing := s.closing + 1 }
  | unclosed {s : Supervisor} : 0 < s.closing →
      SupervisorStep s .dropped { s with closing := s.closing - 1 }
  -- The guard of the lock lives until the child is taken, not until it is stopped.
  | closes {s : Supervisor} {child : Nat} : 0 < s.closing → s.inside = none →
      s.running = some child →
      SupervisorStep s .went
        { s with
          closing := s.closing - 1,
          running := none,
          stopping := s.stopping ++ [(.inspecting, child)] }
  | finds {s : Supervisor} : 0 < s.closing → s.inside = none → s.running = none →
      SupervisorStep s (.returned (.ok ()))
        { s with closing := s.closing - 1, returned := s.returned ++ [.ok ()] }
  | closeAlive {s : Supervisor} {child : Nat} {stopping : List (Stop × Nat)} :
      Moved s.stopping (.inspecting, child) (.killing, child) stopping →
      s.alive child = true → SupervisorStep s .went { s with stopping }
  | closeKills {s : Supervisor} {child : Nat} {stopping : List (Stop × Nat)} :
      Moved s.stopping (.killing, child) (.waiting, child) stopping →
      SupervisorStep s .went { s.kill child with stopping }
  | closed {s : Supervisor} {stop : Stop} {child : Nat} {result : Outcome Unit}
      {before after : List (Stop × Nat)} :
      s.stopping = before ++ (stop, child) :: after → stop.Ends (s.alive child) result →
      SupervisorStep s (.returned result)
        { s.kill child with
          stopping := before ++ after,
          returned := s.returned ++ [result] }
  | closeDropped {s : Supervisor} {child : Nat} {before after : List (Stop × Nat)} :
      s.stopping = before ++ (.waiting, child) :: after →
      SupervisorStep s .dropped { s.kill child with stopping := before ++ after }

end ImagegenBridge.CodexAppServer.Supervision
