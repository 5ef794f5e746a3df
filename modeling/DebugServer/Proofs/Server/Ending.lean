import DebugServer.Proofs.Protocol.Numbering
import DebugServer.Proofs.Server.Traced
import DebugServer.Proofs.Session.Oblivious
import DebugServer.Proofs.Session.Standing

/-!
# The end of a connection

A server takes what arrives while a writer passes its messages on to the client. Either may come to
its end at any time: the input stops or is no use any more, a request ends the session, a write
fails. Whichever it is, the session is then shut down and its outbox closed, and what is left to be
written is written.
-/

namespace DebugServer

variable {σ : Type}

namespace Server

/-- What the requests of a client keep true of a session. -/
structure Kept (engine : Engine σ) (P : Session σ → Prop) : Prop where
  log : ∀ {s} record, P s → P (s.log record)
  greeting : ∀ {s} request, P s → P (answerInitialize s request).2
  process : ∀ {s} request, P s → P (s.process engine request).2

namespace Kept

variable {engine : Engine σ} {P : Session σ → Prop}

theorem answer (hP : Kept engine P) {s : Session σ} (h : P s) (request : Request) :
    P (Server.answer engine s request).2 := by
  unfold Server.answer
  split
  · exact hP.greeting request h
  · have hprocess := hP.process request h
    split
    · rename_i hresult
      rw [hresult] at hprocess
      exact hP.log _ hprocess
    · exact hprocess

theorem take (hP : Kept engine P) {s : Session σ} (h : P s) (bytes : List UInt8) :
    P (Server.take engine s bytes).2 := by
  unfold Server.take
  split
  · exact h
  split
  · exact hP.log _ h
  · exact h
  · exact hP.answer h _

theorem takeAll (hP : Kept engine P) {server : Server σ} (h : P server.session)
    (messages : List (List UInt8)) : P (Server.takeAll engine messages server).session := by
  induction messages generalizing server with
  | nil => exact h
  | cons bytes messages ih =>
    have htake := hP.take h bytes
    unfold Server.takeAll
    split <;> rename_i hresult <;> rw [hresult] at htake
    · exact ih htake
    · exact htake
    · exact htake

theorem receive (hP : Kept engine P) {server : Server σ} (h : P server.session)
    (piece : List UInt8) : P (Server.receive engine server piece).session := by
  unfold Server.receive
  split
  · exact h
  split
  · exact hP.takeAll h _
  · rw [session_endWith]
    exact hP.takeAll h _

theorem receiveEnd (hP : Kept engine P) {server : Server σ} (h : P server.session) :
    P (Server.receiveEnd engine server).session := by
  unfold Server.receiveEnd
  split
  · exact h
  split <;> rw [session_endWith] <;> exact hP.takeAll h _

theorem advance (hP : Kept engine P) {server : Server σ} {arrival : Arrival σ}
    (hbackground : P (server.session.background arrival)) :
    P (Server.advance engine server arrival).session := by
  cases arrival with
  | bytes piece => exact hP.receive hbackground piece
  | event | output | progress => exact hbackground

end Kept

end Server

namespace Session

end Session

/-- A server, with what has been written of its messages. -/
structure Connection (σ : Type) where
  server : Server σ
  written : List Message
  /-- Whether a write has failed, after which nothing is taken out of the queue any more. -/
  broken : Bool

inductive Occasion (σ : Type) where
  | arrival (arrival : Arrival σ)
  | inputEnd
  /-- The message that has waited longest is written. -/
  | write
  /-- A write fails. -/
  | fail

def Occasion.traced : Occasion σ → Occasion (Traced σ)
  | .arrival what => .arrival what.traced
  | .inputEnd => .inputEnd
  | .write => .write
  | .fail => .fail

namespace Connection

def new (session : Session σ) : Connection σ :=
  ⟨.new session, [], false⟩

def session (c : Connection σ) : Session σ :=
  c.server.session

def outbox (c : Connection σ) : Outbox :=
  c.session.live.outbox

def withOutbox (c : Connection σ) (outbox : Outbox) : Connection σ :=
  { c with server := { c.server with session := c.session.withOutbox outbox } }

def write (c : Connection σ) : Connection σ :=
  { c.withOutbox c.outbox.receive.2 with written := c.written ++ c.outbox.receive.1.toList }

def advance (engine : Engine σ) (c : Connection σ) : Occasion σ → Connection σ
  | .arrival arrival => { c with server := c.server.advance engine arrival }
  | .inputEnd => { c with server := c.server.receiveEnd engine }
  | .write => c.write
  | .fail => { c.withOutbox c.outbox.abandon with broken := true }

/-- The connection after a past. -/
def after (engine : Engine σ) (c : Connection σ) : (past : List (Occasion σ)) → Connection σ
  | [] => c
  | occasion :: past => (c.after engine past).advance engine occasion

def shutdown (engine : Engine σ) (c : Connection σ) : Connection σ :=
  { c with server := c.server.shutdown engine }

section

variable {engine : Engine σ} {c : Connection σ}

/-- Without a writer, and with nothing from the engine, this is how a server runs. -/
theorem run_eq (engine : Engine σ) (session : Session σ) (pieces : List (List UInt8)) :
    let past := .inputEnd :: (pieces.map fun piece => .arrival (.bytes piece)).reverse
    (((new session).after engine past).shutdown engine).server =
      Server.run engine session pieces := by
  have hafter : ∀ pieces : List (List UInt8),
      (new session).after engine (pieces.map fun piece => .arrival (.bytes piece)) =
        ⟨pieces.reverse.foldl (Server.receive engine) (.new session), [], false⟩ := by
    intro pieces
    induction pieces with
    | nil => rfl
    | cons piece pieces ih =>
      simp only [List.map_cons, after, ih, List.reverse_cons, List.foldl_append, advance,
        List.foldl_cons, List.foldl_nil, Server.advance]
  have hpieces := hafter pieces.reverse
  rw [List.map_reverse, List.reverse_reverse] at hpieces
  simp only [after, hpieces]
  rfl

/-- A connection to an engine that is watched. -/
def watched (engine : Engine σ) (settings : Settings) (state : σ) (past : List (Occasion σ)) :
    Connection (Traced σ) :=
  (new (.new settings ⟨state, []⟩)).after engine.traced (past.map .traced)

/-- The connection without the record. -/
def untraced (c : Connection (Traced σ)) : Connection σ :=
  ⟨c.server.untraced, c.written, c.broken⟩

/-- A connection goes the same way whether its engine is watched or not. -/
theorem watched_untraced (engine : Engine σ) (settings : Settings) (state : σ)
    (past : List (Occasion σ)) :
    (watched engine settings state past).untraced =
      (new (.new settings state)).after engine past := by
  induction past with
  | nil => rfl
  | cons occasion past ih =>
    rw [after, ← ih]
    cases occasion with
    | arrival arrival =>
      have hserver := (watched engine settings state past).server.advance_untraced engine arrival
      simp only [advance, untraced, hserver]
      rfl
    | inputEnd =>
      simp only [advance, untraced, Server.receiveEnd_untraced]
      rfl
    | write | fail => rfl

theorem watched_shutdown_untraced (engine : Engine σ) (settings : Settings) (state : σ)
    (past : List (Occasion σ)) :
    ((watched engine settings state past).shutdown engine.traced).untraced =
      ((new (.new settings state)).after engine past).shutdown engine := by
  rw [← watched_untraced]
  simp only [shutdown, untraced, Server.shutdown_untraced]

/-- With an engine that tells of a stop while it fails to start a program, the stop stays. -/
example :
    let engine : Engine ScriptedState :=
      { scriptedEngine with
        start := fun _ state => (.error (.other "no threads"), state)
        startEvents := fun _ _ => [.stopped ⟨.breakpoint, mainThread, ⟨[], 0⟩⟩] }
    let settings : Settings := ⟨some (.text "package main"), false, none, ⟨10, 10⟩, 10, 10, none⟩
    let launch := frameJson (Request.toJson ⟨1, "request", "launch", .null⟩)
    let c := watched engine settings (.new .default .empty) [.arrival (.bytes launch)]
    (c.shutdown engine.traced).session.live.tables.stops.stops.length = 1 := by
  decide +kernel

end

end Connection

end DebugServer
