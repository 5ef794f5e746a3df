import DebugServer.Proofs.Server.Conversation
import DebugServer.Proofs.Session.Traced

/-!
# Servers that are watched

A server takes the same way whether the calls on its engine are recorded or not.
-/

namespace DebugServer

variable {σ : Type}

/-- The same arrival for a session whose engine is watched. -/
def Arrival.traced : Arrival σ → Arrival (Traced σ)
  | .bytes piece => .bytes piece
  | .event e => .event e
  | .output stream text => .output stream text
  | .progress change => .progress fun t => { t with state := change t.state }

theorem Session.background_untraced {s : Session (Traced σ)} (arrival : Arrival σ) :
    s.untraced.background arrival = (s.background arrival.traced).untraced := by
  cases arrival with
  | bytes | progress => rfl
  | event event => exact congrArg Prod.snd (deliver_untraced event)
  | output stream text => exact congrArg Prod.snd (print_untraced stream text)

namespace Server

/-- The server without the record. -/
def untraced (server : Server (Traced σ)) : Server σ :=
  ⟨server.session.untraced, server.reader, server.ending⟩

variable {engine : Engine σ} {s : Session (Traced σ)} {server : Server (Traced σ)}

theorem answer_untraced (request : Request) :
    answer engine s.untraced request = Session.dropTrace (answer engine.traced s request) := by
  unfold answer
  split
  · rw [Session.answerInitialize_untraced]
    rfl
  · rw [Session.process_untraced]
    cases hprocess : s.process engine.traced request with
    | mk result s' =>
      cases result with
      | error e => rfl
      | ok flow => cases flow <;> rfl

theorem take_untraced (bytes : List UInt8) :
    take engine s.untraced bytes = Session.dropTrace (take engine.traced s bytes) := by
  unfold take
  split
  · rfl
  split
  · rfl
  · rfl
  · rw [answer_untraced]
    rfl

theorem takeAll_untraced (messages : List (List UInt8)) :
    takeAll engine messages server.untraced = (takeAll engine.traced messages server).untraced := by
  induction messages generalizing server with
  | nil => rfl
  | cons bytes messages ih =>
    have htake : take engine server.untraced.session bytes = _ := take_untraced bytes
    unfold takeAll
    rw [htake]
    cases take engine.traced server.session bytes with
    | mk result s' =>
      cases result with
      | error e => rfl
      | ok flow =>
        cases flow with
        | proceed => exact @ih { server with session := s' }
        | stop => rfl

theorem endWith_untraced (ending : Except ServerError Unit) :
    server.untraced.endWith ending = (server.endWith ending).untraced := by
  unfold endWith
  simp only [show server.untraced.ending = server.ending from rfl]
  split <;> rfl

theorem receive_untraced (piece : List UInt8) :
    receive engine server.untraced piece = (receive engine.traced server piece).untraced := by
  unfold receive
  simp only [show server.untraced.ending = server.ending from rfl,
    show server.untraced.reader = server.reader from rfl, takeAll_untraced]
  split
  · rfl
  split
  · rfl
  · exact endWith_untraced _

theorem receiveEnd_untraced :
    receiveEnd engine server.untraced = (receiveEnd engine.traced server).untraced := by
  unfold receiveEnd
  simp only [show server.untraced.ending = server.ending from rfl,
    show server.untraced.reader = server.reader from rfl, takeAll_untraced]
  split
  · rfl
  split <;> exact endWith_untraced _

theorem advance_untraced (engine : Engine σ) (server : Server (Traced σ)) (arrival : Arrival σ) :
    server.untraced.advance engine arrival =
      (server.advance engine.traced arrival.traced).untraced := by
  have hbackground := Session.background_untraced arrival (s := server.session)
  cases arrival with
  | bytes piece => exact receive_untraced piece
  | event | output | progress => simp only [advance, Arrival.traced, untraced, hbackground]

theorem shutdown_untraced :
    server.untraced.shutdown engine = (server.shutdown engine.traced).untraced := by
  have hshutdown : server.untraced.session.shutdown engine = _ := Session.shutdown_untraced
  simp only [shutdown, hshutdown]
  rfl

end Server

end DebugServer
