import DebugServer.Session.Basic
import DebugServer.Value.Inspect

/-!
# Shutting down

The engine is asked to end the debuggee and waited for, within a time limit; then nothing is
offered for inspection any more.
-/

namespace DebugServer

/-- The record of a crash; the payload may quote what the client sent. -/
def Crash.record (c : Crash) (backtrace : Bool) : Log.Record where
  level := .error
  target := Log.crashTarget
  message := "panic captured"
  fields :=
    [("panic_message", .plain (Text.redactMessage c.message)),
     ("panic_location", .plain "<location>")] ++
    if backtrace then [("panic_backtrace", .plain "<backtrace>")] else []

namespace Session

variable {σ : Type}

def waitRecords (settings : Settings) : WaitOutcome → List Log.Record
  | .finished result =>
    [Log.session .debug "debuggee finished" [("result", .plain (Value.inspectResult result))]]
  | .failed e =>
    [Log.session .warn "debuggee finished with an error" [("error", .plain e.message)]]
  | .crashed c =>
    (settings.crashReports.map c.record).toList ++
      [Log.session .warn "engine wait was abandoned" []]
  | .overdue =>
    [Log.session .warn "debuggee did not stop in time; its threads may still be running"
      [("timeout_ms", .number settings.shutdownTimeout)]]

/-- Ends the session; a second shutdown does nothing. -/
def shutdown (engine : Engine σ) (s : Session σ) : Session σ :=
  let s := { s with reached := .terminated }
  if s.program.isNone then s
  else
    let (outcome, state) := engine.wait (engine.terminate s.engine)
    let s := (waitRecords s.settings outcome).foldl log { s with engine := state }
    { s.withTables s.live.tables.clear with program := none, delivery := .stopped }

end Session

end DebugServer
