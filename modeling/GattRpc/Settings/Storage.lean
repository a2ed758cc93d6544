import GattRpc.Files
import GattRpc.Settings.Reader
import GattRpc.Settings.Writer
import GattRpc.Text.Utf8

/-! # Settings in files

Settings are loaded from a file, which is made with the defaults in it if it is not there, and
saved to one. -/

namespace GattRpc

/-- The variables of the environment that are set. -/
structure Environment where
  entries : List (String × String) := []
  /-- The home directory of the account, for when no variable names one. -/
  accountHome : Option String := none

def Environment.get? (e : Environment) (name : String) : Option String := e.entries.lookup name

namespace Settings

inductive Failure
  | file (e : FileError)
  | refused (r : Refusal)
  /-- A number is too large to be written. -/
  | unwritable
deriving DecidableEq, Repr

def Failure.message : Failure → String
  | file e => e.message
  | refused .syntaxError => "TOML parse error"
  | refused (.mismatch m) => "TOML parse error: " ++ m.message Toml.floatLayout
  | unwritable => "out-of-range value for u64 type"

/-- A place inside a directory. -/
def joined (dir name : String) : String :=
  if dir.endsWith "/" then dir ++ name else dir ++ "/" ++ name

/-- The home directory. -/
def home? (e : Environment) : Option String :=
  match e.get? "HOME" with
  | some h => if h.isEmpty then e.accountHome else some h
  | none => e.accountHome

/-- The directory for configuration files; only an absolute one counts. -/
def configHome (e : Environment) : String :=
  match e.get? "XDG_CONFIG_HOME" with
  | some dir => if dir.startsWith "/" then dir else fallback
  | none => fallback
where
  fallback : String := match home? e with
    | some h => joined h ".config"
    | none => "."

/-- Where the settings are unless another place is given. -/
def defaultPath (e : Environment) : String :=
  joined (joined (configHome e) "ble-jsonrpc") "config.toml"

variable {m : Type → Type} [Monad m] [Files m]

/-- Saves settings, making the directory of the file if it is not there. Nothing is written of
settings that cannot be written as a whole. -/
def save (s : Settings) (p : Path) : m (Except Failure Unit) := do
  match ← Files.makeDirectories p.parent with
  | .error e => return .error (.file e)
  | .ok () =>
    match s.text? with
    | none => return .error .unwritable
    | some text => return (← Files.write p (Utf8.encode text)).mapError .file

/-- The settings in a file, which is made if it is not there. -/
def load (p : Path) : m (Except Failure Settings) := do
  if ← Files.isThere p then
    match ← Files.read p with
    | .error e => return .error (.file e)
    | .ok bytes =>
      match Utf8.decode? bytes with
      | none => return .error (.file .notText)
      | some text => return (parse text).mapError .refused
  else
    let defaults : Settings := {}
    return (← defaults.save p).map fun () => defaults

end Settings

end GattRpc
