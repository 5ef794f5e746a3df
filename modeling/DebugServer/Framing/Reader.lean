import DebugServer.Framing.Header

/-!
# Reading framed messages

A stream is a sequence of messages, each a header that says how long it is and then that many
bytes. The reader takes one byte at a time, so it makes no difference how a stream is cut into
pieces.
-/

namespace DebugServer

inductive FrameReader where
  /-- Within a header: the bytes of the current line, last first, and their number; the length
  found so far; whether a line has been read. -/
  | header (line : List UInt8) (lineSize : Nat) (length : Option Nat) (begun : Bool)
  /-- Within a message: how many bytes are still missing, and those that were read, last first. -/
  | message (missing : Nat) (taken : List UInt8)
deriving Repr

inductive FrameStep where
  | more (reader : FrameReader)
  | message (bytes : List UInt8)
  | failed (error : FramingError)

inductive FrameOutcome where
  | ended
  | message (bytes rest : List UInt8)
  | failed (error : FramingError)
deriving DecidableEq, Repr

namespace FrameReader

def start : FrameReader :=
  .header [] 0 none false

def endHeader : Option Nat → FrameStep
  | none => .failed .missingLength
  | some n =>
    if messageLimit < n then .failed (.messageTooLarge n)
    else if n = 0 then .message []
    else .more (.message n [])

/-- Goes on after a whole line of a header, of which `line` has the bytes, last first. -/
def endLine (line : List UInt8) (length : Option Nat) : FrameStep :=
  match HeaderLine.ofBytes line.reverse with
  | .error e => .failed e
  | .ok .blank => endHeader length
  | .ok (.length n) => .more (.header [] 0 (some n) true)
  | .ok .other => .more (.header [] 0 length true)

def push (b : UInt8) : FrameReader → FrameStep
  | .header line size length begun =>
    if headerLimit ≤ size then .failed .lineTooLong
    else if b = 0x0A then endLine (b :: line) length
    else .more (.header (b :: line) (size + 1) length begun)
  | .message missing taken =>
    if missing ≤ 1 then .message (b :: taken).reverse
    else .more (.message (missing - 1) (b :: taken))

def cut : FrameReader → FrameOutcome
  | .header _ _ _ false => .ended
  | .header _ _ _ true => .failed .headerCut
  | .message _ _ => .failed .messageCut

/-- Goes on where the stream ends; an unfinished line counts as a whole one. -/
def finish : FrameReader → FrameOutcome
  | .header [] _ _ begun => cut (.header [] 0 none begun)
  | .header line _ length _ =>
    match endLine line length with
    | .more reader => cut reader
    | .message bytes => .message bytes []
    | .failed e => .failed e
  | .message missing taken => cut (.message missing taken)

def next : FrameReader → List UInt8 → FrameOutcome
  | r, [] => r.finish
  | r, b :: rest =>
    match r.push b with
    | .more r => next r rest
    | .message bytes => .message bytes rest
    | .failed e => .failed e

/-- Reads a piece of a stream: the messages that end in it, and the reader behind it or why there
is none; `taken` are earlier messages, last first. -/
def feed : FrameReader → List UInt8 → (taken : List (List UInt8)) →
    List (List UInt8) × Except FramingError FrameReader
  | r, [], taken => (taken.reverse, .ok r)
  | r, b :: rest, taken =>
    match r.push b with
    | .more r => feed r rest taken
    | .message bytes => feed start rest (bytes :: taken)
    | .failed e => (taken.reverse, .error e)

def close (r : FrameReader) : List (List UInt8) × Option FramingError :=
  match r.finish with
  | .ended => ([], none)
  | .message bytes _ => ([bytes], none)
  | .failed e => ([], some e)

def readPieces : FrameReader → List (List UInt8) → List (List UInt8) × Option FramingError
  | r, [] => r.close
  | r, piece :: rest =>
    match r.feed piece [] with
    | (messages, .error e) => (messages, some e)
    | (messages, .ok r) =>
      let (later, error) := readPieces r rest
      (messages ++ later, error)

end FrameReader

def readFrame (bytes : List UInt8) : FrameOutcome :=
  FrameReader.start.next bytes

end DebugServer
