import GattRpc.Program
import GattRpc.Session.Answering

/-! # The command line program

Reads the environment and the files, and prints what a run leaves behind. No radio is built in, so
that opening a link fails. -/

namespace GattRpc.Console

/-- The text of a directory's place. -/
def directoryText (names : List String) : String := "/" ++ "/".intercalate names

/-- The text of a place. -/
def pathText (p : Path) : String := directoryText p.names ++ match p.ending with
  | .name => ""
  | .separator => "/"
  | .dot => "/."

def ofIOError : IO.Error → FileError
  | .noFileOrDirectory .. => .notFound
  | .alreadyExists .. => .alreadyExists
  | .inappropriateType _ 20 _ => .notADirectory
  | _ => .isADirectory

/-- The result of something done with a file. -/
def attempt {α : Type} (x : IO α) : IO (Except FileError α) := do
  match ← x.toBaseIO with
  | .ok a => return .ok a
  | .error e => return .error (ofIOError e)

instance : Files IO where
  isThere p := do
    match ← attempt (IO.FS.readBinFile (pathText p)) with
    | .error .notFound | .error .notADirectory => return false
    | _ => return true
  read p := attempt do return (← IO.FS.readBinFile (pathText p)).toList
  makeDirectories names := attempt (IO.FS.createDirAll (directoryText names))
  write p content :=
    attempt (IO.FS.writeBinFile (pathText p) (ByteArray.mk content.toArray))

/-- The variables that the program looks at. -/
def environment : IO Environment := do
  let names := ["HOME", "XDG_CONFIG_HOME", "BLERPC_CONFIG", "BLERPC_ADDRESS"]
  let entries ← names.filterMapM fun name => do
    return (← IO.getEnv name).map fun value => (name, value)
  return { entries }

/-- There is no radio to open a link with. -/
def noRadio : LinkError := .io "no Bluetooth radio"

def run (args : List String) : IO Finish := do
  let env ← environment
  let directory := (Path.ofText [] (toString (← IO.currentDir))).names
  match ← Errand.find env directory args with
  | .error finish => return finish
  | .ok _ => return .ofLines [] (some (.link noRadio))

end GattRpc.Console

def main (args : List String) : IO UInt32 := do
  let finish ← GattRpc.Console.run args
  IO.print finish.output
  IO.eprint finish.errors
  return finish.code
