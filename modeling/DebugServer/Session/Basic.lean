import DebugServer.Location.Translator
import DebugServer.Session.Live
import DebugServer.Session.Reply

/-!
# Debug sessions

A session stands between one client and one engine. Requests come from the client, events from the
engine; each is dealt with to its end before the next.
-/

namespace DebugServer

structure Settings where
  /-- The program to debug unless a launch names another. -/
  source : Option ProgramSource
  stopAtEntry : Bool
  programAlias : Option String
  limits : TextLimits
  queueCapacity : Nat
  /-- How many milliseconds the end of the debuggee is waited for. -/
  shutdownTimeout : Nat
  /-- Whether crashes of the engine are logged, and then whether with a backtrace. -/
  crashReports : Option Bool
deriving Inhabited

inductive Delivery where
  | notStarted
  | running
  | stopped
deriving DecidableEq, Repr, Inhabited

structure Session (σ : Type) where
  settings : Settings
  live : LiveState
  translator : Translator
  stopAtEntry : Bool
  reached : Phase
  /-- The program being debugged, from its launch to the shutdown. -/
  program : Option Program
  delivery : Delivery
  connected : Bool
  engine : σ

namespace Session

variable {σ : Type}

def new (settings : Settings) (engine : σ) : Session σ where
  settings := settings
  live := .empty settings.limits
  translator := ⟨.default, settings.programAlias⟩
  stopAtEntry := settings.stopAtEntry
  reached := .uninitialized
  program := none
  delivery := .notStarted
  connected := false
  engine := engine

/-- A session is over as soon as the program has ended. -/
def phase (s : Session σ) : Phase :=
  if s.live.ended then .terminated else s.reached

def log (s : Session σ) (record : Log.Record) : Session σ :=
  { s with live := s.live.log record }

def withTables (s : Session σ) (tables : Tables) : Session σ :=
  { s with live := { s.live with tables } }

def withOutbox (s : Session σ) (outbox : Outbox) : Session σ :=
  { s with live := { s.live with outbox } }

/-- Sends a message; a refused one leaves the session as it is. -/
def send (s : Session σ) (letter : Letter) : Except TransportError Unit × Session σ :=
  match s.live.outbox.send letter with
  | .ok outbox => (.ok (), s.withOutbox outbox)
  | .error e => (.error e, s)

/-- Takes an event of the engine and says whether anyone listens to it at all. -/
def deliver (s : Session σ) (event : EngineEvent) : Bool × Session σ :=
  match s.delivery with
  | .notStarted => (false, s)
  | .running =>
    (true, { s with
      live := s.live.handle event
      delivery := if event.isLast then .stopped else .running })
  | .stopped =>
    (true, s.log (Log.session .debug "event pump has stopped; dropping engine event"
      [("event", .plain event.inspect)]))

/-- Takes what the debuggee writes; before its streams are connected that is lost. -/
def print (s : Session σ) (stream : OutputStream) (text : String) :
    Except TransportError Unit × Session σ :=
  if s.connected && text ≠ "" then
    match s.live.outbox.write stream (Text.toBytes text) with
    | .ok outbox => (.ok (), s.withOutbox outbox)
    | .error e => (.error e, s)
  else (.ok (), s)

end Session

end DebugServer
