import DebugServer.Inspection.Tables
import DebugServer.Log.Record
import DebugServer.Protocol.Outbox

/-!
# Engine events

The part of a session that changes while the debuggee runs. Events are handled one after the
other, up to and including the end of the program. Whether the client still listens makes no
difference to what becomes of the tables.
-/

namespace DebugServer

structure LiveState where
  tables : Tables
  outbox : Outbox
  ended : Bool
  /-- The events that could not be sent. -/
  failures : Array TransportError
  journal : Array Log.Record
deriving Inhabited

namespace LiveState

def empty (limits : TextLimits) : LiveState :=
  ⟨.empty limits, .empty, false, #[], #[]⟩

def log (s : LiveState) (record : Log.Record) : LiveState :=
  { s with journal := s.journal.push record }

/-- Sends an event; a failure is noted and changes nothing else. -/
def notify (s : LiveState) (event : SessionEvent) : LiveState :=
  match s.outbox.send event.letter with
  | .ok outbox => { s with outbox }
  | .error e =>
    { s with failures := s.failures.push e }.log
      (Log.session .warn "failed to send notification" [("error", .plain e.message)])

/-- A stop of a thread whose previous stop the client never released. -/
def logReplaced (s : LiveState) (thread : ThreadId) : LiveState :=
  match s.tables.stops.get? thread with
  | none => s
  | some previous =>
    s.log (Log.session .warn "replacing unreleased stop event"
      [("thread_id", .number thread.toInt), ("previous", .plain previous.reason.inspect)])

def recordStop (s : LiveState) (stop : StopEvent) : LiveState :=
  { s.logReplaced stop.thread with tables := s.tables.recordStop stop }

def handle (s : LiveState) : EngineEvent → LiveState
  | .threadStarted thread => s.notify (.threadStarted thread)
  | .threadExited thread => s.notify (.threadExited thread)
  | .stopped stop =>
    let s := s.log (Log.session .debug "thread stopped"
      [("thread_id", .number stop.thread.toInt), ("reason", .text stop.reason.clientName)])
    (s.recordStop stop).notify (.stopped stop.reason stop.thread)
  | .terminated => { { s with tables := s.tables.clear }.notify .terminated with ended := true }

end LiveState

def EngineEvent.isLast : EngineEvent → Bool
  | .terminated => true
  | _ => false

/-- Handles events up to the last one; the second part is left unread. -/
def LiveState.run (s : LiveState) : List EngineEvent → LiveState × List EngineEvent
  | [] => (s, [])
  | e :: rest => if e.isLast then (s.handle e, rest) else (s.handle e).run rest

end DebugServer
