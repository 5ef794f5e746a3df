import DebugServer.Json.Basic
import DebugServer.Engine.Stop

/-!
# Messages to the client

Everything that a session sends is an event or the response to one request, under a sequence
number.
-/

namespace DebugServer

/-- A message before it is numbered. -/
inductive Letter where
  | response (requestSeq : Int64) (command : String) (success : Bool) (message : Option String)
      (body : Option Json)
  | event (name : String) (body : Option Json)
deriving Inhabited

structure Message where
  seq : Nat
  letter : Letter
deriving Inhabited

def Message.toJson (m : Message) : Json :=
  match m.letter with
  | .response requestSeq command success message body =>
    Json.object <|
      [("seq", Json.int m.seq), ("type", .str "response"),
       ("request_seq", Json.int requestSeq.toInt), ("success", .bool success),
       ("command", .str command)] ++
      Json.optional "message" (message.map Json.str) ++ Json.optional "body" body
  | .event name body =>
    Json.object <|
      [("seq", Json.int m.seq), ("type", .str "event"), ("event", .str name)] ++
      Json.optional "body" body

inductive OutputStream where
  | stdout
  | stderr
deriving DecidableEq, Repr, Inhabited

def OutputStream.category : OutputStream → String
  | .stdout => "stdout"
  | .stderr => "stderr"

inductive SessionEvent where
  | initialized
  | output (stream : OutputStream) (text : String)
  | stopped (reason : StopReason) (thread : ThreadId)
  | threadStarted (thread : ThreadId)
  | threadExited (thread : ThreadId)
  | terminated
deriving DecidableEq, Repr, Inhabited

namespace SessionEvent

def threadBody (reason : String) (thread : ThreadId) : Json :=
  Json.object [("reason", .str reason), ("threadId", Json.int thread.toInt)]

def letter : SessionEvent → Letter
  | .initialized => .event "initialized" none
  | .output stream text =>
    .event "output" (some (Json.object [("category", .str stream.category), ("output", .str text)]))
  | .stopped reason thread => .event "stopped" (some (threadBody reason.clientName thread))
  | .threadStarted thread => .event "thread" (some (threadBody "started" thread))
  | .threadExited thread => .event "thread" (some (threadBody "exited" thread))
  | .terminated => .event "terminated" none

end SessionEvent

end DebugServer
