import DebugServer.Framing.Reader
import DebugServer.Session.Dispatch
import DebugServer.Session.Shutdown

/-!
# Serving a session over a byte stream

Messages are read from the client until the stream ends, a request ends the session, or something
goes wrong that cannot be answered. However that happens, the session is then shut down and the
outbox closed.
-/

namespace DebugServer

inductive ServerError where
  | framing (error : FramingError)
  | json (error : Json.SyntaxError)
  | transport (error : TransportError)
deriving DecidableEq, Repr

def ServerError.message : ServerError → String
  | .framing e => e.message
  | .json e => invalidJson e.redactedMessage
  | .transport e => e.message

/-- The messages that a session can still take, and why it takes no more. -/
structure Server (σ : Type) where
  session : Session σ
  reader : FrameReader
  ending : Option (Except ServerError Unit)

namespace Server

variable {σ : Type}

def new (session : Session σ) : Server σ :=
  ⟨session, .start, none⟩

/-- Answers `initialize`, which is allowed at any time. -/
def answerInitialize (s : Session σ) (request : Request) :
    Except TransportError Unit × Session σ :=
  match request.decodeArguments InitializeArguments.format with
  | .error e => s.send ((Reply.refuse (.arguments e)).letter request)
  | .ok a =>
    let (capabilities, s) := s.configure a
    s.send ((Reply.body (.capabilities capabilities)).letter request)

def answer (engine : Engine σ) (s : Session σ) (request : Request) :
    Except TransportError Flow × Session σ :=
  if request.command = "initialize" then
    let (sent, s) := answerInitialize s request
    (sent.map fun () => .proceed, s)
  else
    match s.process engine request with
    | (.ok .stop, s) =>
      (.ok .stop, s.log (Log.session .info "ending debug session"
        [("command", .text request.command)]))
    | answered => answered

/-- Takes one message; whatever is no request is dropped. -/
def take (engine : Engine σ) (s : Session σ) (bytes : List UInt8) :
    Except ServerError Flow × Session σ :=
  match Json.parse Json.nestingLimit bytes with
  | .error e => (.error (.json e), s)
  | .ok message =>
    match Request.ofMessage? message with
    | .error e =>
      (.ok .proceed, s.log (Log.session .warn "dropping malformed request"
        [("error", .plain (invalidJson e.redactedMessage))]))
    | .ok none => (.ok .proceed, s)
    | .ok (some request) =>
      let (answered, s) := answer engine s request
      (answered.mapError .transport, s)

def takeAll (engine : Engine σ) : List (List UInt8) → Server σ → Server σ
  | [], server => server
  | bytes :: rest, server =>
    match take engine server.session bytes with
    | (.ok .proceed, session) => takeAll engine rest { server with session }
    | (.ok .stop, session) => { server with session, ending := some (.ok ()) }
    | (.error e, session) => { server with session, ending := some (.error e) }

def endWith (server : Server σ) (ending : Except ServerError Unit) : Server σ :=
  if server.ending.isSome then server else { server with ending := some ending }

def receive (engine : Engine σ) (server : Server σ) (piece : List UInt8) : Server σ :=
  if server.ending.isSome then server
  else
    match server.reader.feed piece [] with
    | (messages, .ok reader) => { takeAll engine messages server with reader }
    | (messages, .error e) => (takeAll engine messages server).endWith (.error (.framing e))

def receiveEnd (engine : Engine σ) (server : Server σ) : Server σ :=
  if server.ending.isSome then server
  else
    match server.reader.close with
    | (messages, none) => (takeAll engine messages server).endWith (.ok ())
    | (messages, some e) => (takeAll engine messages server).endWith (.error (.framing e))

def deliver (server : Server σ) (event : EngineEvent) : Server σ :=
  { server with session := (server.session.deliver event).2 }

def shutdown (engine : Engine σ) (server : Server σ) : Server σ :=
  let s := server.session.shutdown engine
  { server with session := s.withOutbox s.live.outbox.close }

/-- How serving ended; an input that did not end yet is no error. -/
def result (server : Server σ) : Except ServerError Unit :=
  server.ending.getD (.ok ())

def run (engine : Engine σ) (session : Session σ) (pieces : List (List UInt8)) : Server σ :=
  (receiveEnd engine (pieces.foldl (receive engine) (new session))).shutdown engine

end Server

end DebugServer
