import DebugServer.Protocol.Message
import DebugServer.Text.Utf8

/-!
# The outbox

The one way out to the client. A message gets the next sequence number when it is accepted; one
that is refused uses up none.
-/

namespace DebugServer

inductive TransportError where
  | closed
deriving DecidableEq, Repr, Inhabited

def TransportError.message : TransportError → String
  | .closed => "outbound DAP channel is closed"

structure Outbox where
  nextSeq : Nat
  closed : Bool
  /-- Whether nobody takes messages out any more. -/
  abandoned : Bool
  queue : Array Message
deriving Inhabited

namespace Outbox

def empty : Outbox :=
  ⟨1, false, false, #[]⟩

def send (o : Outbox) (letter : Letter) : Except TransportError Outbox :=
  if o.closed || o.abandoned then .error .closed
  else .ok { o with nextSeq := o.nextSeq + 1, queue := o.queue.push ⟨o.nextSeq, letter⟩ }

/-- Accepts nothing more; what is queued can still be taken out. -/
def close (o : Outbox) : Outbox :=
  { o with closed := true }

/-- Drops what is queued, with nobody left to take anything out. -/
def abandon (o : Outbox) : Outbox :=
  { o with abandoned := true, queue := #[] }

def takeAll (o : Outbox) : List Message × Outbox :=
  (o.queue.toList, { o with queue := #[] })

/-- Forwards one write of the debuggee; bytes that are not text are shown as replacement
characters. -/
def write (o : Outbox) (stream : OutputStream) (bytes : List UInt8) :
    Except TransportError Outbox :=
  o.send (SessionEvent.output stream (String.ofList (Text.decodeLossy bytes))).letter

end Outbox

end DebugServer
