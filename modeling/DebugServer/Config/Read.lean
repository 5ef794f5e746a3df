import DebugServer.Config.Basic
import DebugServer.Text.Redacted
import DebugServer.Toml.Document

/-!
# Reading configurations

A configuration comes from a text, which may come from a file. Error texts do not repeat what the
text holds.
-/

namespace DebugServer

inductive FileError where
  | notFound
  | isDirectory
  | notText
  | other (detail : String)
deriving DecidableEq, Repr

def FileError.message : FileError → String
  | .notFound => "No such file or directory (os error 2)"
  | .isDirectory => "Is a directory (os error 21)"
  | .notText => "stream did not contain valid UTF-8"
  | .other detail => detail

inductive ConfigError where
  | file (path : String) (error : FileError)
  | malformed
  | decode (error : DecodeError)
deriving DecidableEq, Repr

def ConfigError.message : ConfigError → String
  | .file path e => "failed to read config file " ++ path ++ ": " ++ e.message
  | .malformed => "failed to parse toml config: malformed text"
  | .decode e => "failed to parse toml config: " ++ Text.redactConfigMessage e.message

namespace Config

def ofText (s : String) : Except ConfigError Config :=
  match Toml.parse? s with
  | none => .error .malformed
  | some j => (format.decode j).mapError .decode

def ofFile (path : String) (contents : Except FileError (List UInt8)) :
    Except ConfigError Config :=
  match contents with
  | .error e => .error (.file path e)
  | .ok bytes =>
    match Text.decode? bytes with
    | none => .error (.file path .notText)
    | some s => ofText (String.ofList s)

end Config

end DebugServer
