import DebugServer.CommandLine.Startup
import DebugServer.Engine.Scripted
import DebugServer.Framing.Writer

/-!
# The program

Serves one session over the standard streams. No engine that runs programs comes with the library,
so the session is given one that follows a script. All that is decided here is when to read and
when to write.
-/

namespace DebugServer.StandardStreams

def pieceSize : USize := 65536

def readContents (path : String) : IO (Except FileError (List UInt8)) := do
  try
    return .ok (← IO.FS.readBinFile path).toList
  catch
    | .noFileOrDirectory .. => return .error .notFound
    | .inappropriateType .. => return .error .isDirectory
    | e => return .error (.other (toString e))

def openLog (start : Startup) : IO (Option IO.FS.Handle) := do
  match start.logging.file with
  | none => return none
  | some path =>
    try
      return some (← IO.FS.Handle.mk path .append)
    catch _ => return none

structure Outputs where
  client : IO.FS.Stream
  console : IO.FS.Stream
  log : Option IO.FS.Handle

def writeRecords (out : Outputs) (start : Startup) (records : List Log.Record) : IO Unit := do
  for line in start.lines records do
    if start.logging.stderr then out.console.putStrLn line
    if let some file := out.log then file.putStrLn line
  if let some file := out.log then file.flush

def writeDue (out : Outputs) (start : Startup) (server : Server ScriptedState) :
    IO (Server ScriptedState) := do
  let (messages, outbox) := server.session.live.outbox.takeAll
  for message in messages do
    out.client.write (ByteArray.mk (frameJson message.toJson).toArray)
  out.client.flush
  writeRecords out start server.session.live.journal.toList
  let live := { server.session.live with outbox, journal := #[] }
  return { server with session := { server.session with live } }

/-- Takes input until it ends or the server has enough of it. -/
partial def serve (input : IO.FS.Stream) (out : Outputs) (start : Startup)
    (server : Server ScriptedState) : IO (Server ScriptedState) := do
  if server.ending.isSome then return server
  let piece ← input.read pieceSize
  if piece.isEmpty then
    writeDue out start (server.receiveEnd scriptedEngine)
  else
    serve input out start (← writeDue out start (server.receive scriptedEngine piece.toList))

def run (a : Arguments) : IO UInt32 := do
  let environment : Environment :=
    ⟨← IO.getEnv "INTERP_DAP_CONFIG", ← IO.getEnv "RUST_LOG"⟩
  let file ← (a.configPath? environment).mapM fun path => return ⟨path, ← readContents path⟩
  let start := Startup.new a environment file
  let out : Outputs := ⟨← IO.getStdout, ← IO.getStderr, ← openLog start⟩
  if let some complaint := start.complaint then out.console.putStrLn complaint
  writeRecords out start (start.records out.log.isSome)
  let server := Server.new (.new start.settings (.new .default .empty))
  let server ← serve (← IO.getStdin) out start server
  let server ← writeDue out start (server.shutdown scriptedEngine)
  match server.result with
  | .ok () => return 0
  | .error e =>
    out.console.putStrLn ("Error: " ++ e.report)
    return 1

def runWords (words : List String) : IO UInt32 := do
  match Arguments.ofWords words with
  | .ok a => run a
  | .error e =>
    let stream ← if e.exitCode = 0 then IO.getStdout else IO.getStderr
    stream.putStrLn e.message
    return e.exitCode.toUInt32

end DebugServer.StandardStreams

def main (words : List String) : IO UInt32 :=
  DebugServer.StandardStreams.runWords words
