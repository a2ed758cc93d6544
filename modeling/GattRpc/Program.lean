import GattRpc.Address
import GattRpc.CommandLine.Parser
import GattRpc.Json.Parser
import GattRpc.Session.Client

/-! # The program

A run first finds out what to do: from the command line, the settings and the address of the
device. Then it opens a link, connects, carries out its task and closes the connection, whatever
became of the task. -/

namespace GattRpc

/-- Why a run fails. -/
inductive Mishap
  | settings (e : Settings.Failure)
  | noAddress
  | badAddress (text part : String)
  | link (e : LinkError)
  | rpc (e : RpcError)
  | badParams (fault : String)
  | refused (code : Int64)
deriving DecidableEq

namespace Mishap

def message : Mishap → String
  | settings e => e.message
  | noAddress => "no device address given (use --address or [device] address)"
  | badAddress text _ => s!"invalid Bluetooth address '{text}'"
  | link e => e.message
  | rpc e => e.message
  | badParams _ => "params must be valid JSON"
  | refused code => s!"peripheral returned code {code}"

/-- What lies behind a mishap, if more is known. -/
def cause? : Mishap → Option String
  | badAddress _ part => some s!"invalid Bluetooth address: {part}"
  | rpc (.transport e) => some e.message
  | badParams fault => some fault
  | _ => none

/-- Each line of a text moved to the right. -/
def indented (text : String) : String :=
  "\n".intercalate ((text.splitOn "\n").map fun line => "    " ++ line)

def report (m : Mishap) : String :=
  let cause := (m.cause?.map fun c => "\n\nCaused by:\n" ++ indented c).getD ""
  "Error: " ++ m.message ++ cause ++ "\n"

end Mishap

/-- How a run ends: its exit code, what it printed, and what it printed as errors. -/
structure Finish where
  code : UInt32
  output : String := ""
  errors : String := ""
deriving DecidableEq, Repr

namespace Finish

/-- The exit code of a run that crashes. -/
def crashed : Finish := { code := 101 }

def ofStop (env : Environment) : CommandLine.Stop → Finish
  | .help scope => { code := 0, output := CommandLine.helpPage env scope }
  | .nothing => { code := 2, errors := CommandLine.helpPage env .program }
  | .version => { code := 0, output := CommandLine.versionLine ++ "\n" }
  | .misuse m => { code := 2, errors := m.text }

/-- The end of a run that printed some lines and may have failed. -/
def ofLines (lines : List String) : Option Mishap → Finish
  | none => { code := 0, output := String.join (lines.map (· ++ "\n")) }
  | some e => { code := 1, output := String.join (lines.map (· ++ "\n")), errors := e.report }

end Finish

/-- A task with all that it takes. -/
structure Errand where
  task : Task
  settings : Settings
  address : Address

namespace Errand

/-- The address to connect to: the one of the command line or else the one of the settings. -/
def addressOf (i : Invocation) (s : Settings) : Except Mishap Address :=
  match i.address.or s.device.address with
  | none => .error .noAddress
  | some text => (Address.parse text).mapError (.badAddress text)

variable {m : Type → Type} [Monad m] [Files m]

/-- Finds out what to do, in a directory that relative paths are seen from. -/
def find (env : Environment) (directory : List String) (args : List String) :
    m (Except Finish Errand) := do
  match CommandLine.parse env args with
  | .error stop => return .error (.ofStop env stop)
  | .ok i =>
    let file := i.config.getD (Settings.defaultPath env)
    match ← Settings.load (.ofText directory file) with
    | .error e => return .error (.ofLines [] (some (.settings e)))
    | .ok settings =>
      match addressOf i settings with
      | .error e => return .error (.ofLines [] (some e))
      | .ok address => return .ok ⟨i.task, settings, address⟩

end Errand

/-- A session, and the lines that were printed on the way. -/
structure Dialogue (L : Type) where
  session : Session L
  lines : List String := []

namespace Dialogue

variable {L : Type}

/-- The line of an event, if it has one. -/
def line? : Event → Option String
  | .notification method params => some (method ++ " " ++ params.text)
  | _ => none

/-- Prints the notifications that have come. -/
def hear (d : Dialogue L) : Dialogue L :=
  let (channel, events) := d.session.channel.drain
  { session := { d.session with channel }, lines := d.lines ++ events.filterMap line? }

def print (d : Dialogue L) (line : String) : Dialogue L := { d with lines := d.lines ++ [line] }

variable [Adapter L]

/-- Runs until a condition holds, going from one time at which something can be done to the next,
for at most so many times. Without a result the run does not end. -/
def runUntil {α : Type} (done? : Dialogue L → Option α) :
    Nat → Dialogue L → Option (α × Dialogue L)
  | 0, _ => none
  | patience + 1, d =>
    let d := { d with session := d.session.settle }.hear
    match done? d with
    | some a => some (a, d)
    | none =>
      match d.session.engine.nextDue with
      | none => none
      | some due => runUntil done? patience { d with session.now := max d.session.now due }

/-- Makes a client call and waits for its result. -/
def ask (patience : Nat) (call : ClientCall) (d : Dialogue L) :
    Option (CallResult × Dialogue L) :=
  let number := d.session.made
  runUntil (fun d => d.session.finished.lookup number) patience
    { d with session := d.session.begin call }

/-- The value of the params of a task; there may be none. -/
def readParams : Option String → Except Mishap Json
  | none => .ok .null
  | some text =>
    let bytes := Utf8.encode text
    (Json.parse bytes).mapError fun fault => .badParams (fault.message bytes)

/-- Prints the result of a call, if it has one. -/
def conclude (r : CallResult) (d : Dialogue L) : Option Mishap × Dialogue L :=
  match r with
  | .answered response =>
    match response.toResult with
    | .ok v => (none, d.print v.prettyText)
    | .error _ => (some (.refused response.code), d)
  | .failed e => (some (.rpc e), d)
  | .connected | .sent _ | .closed => (none, d)

/-- Carries out a task on a connection. Listening ends once `lines` lines are printed. -/
def perform (patience lines : Nat) (task : Task) (d : Dialogue L) :
    Option (Option Mishap × Dialogue L) :=
  match task with
  | .call method params =>
    match readParams params with
    | .error e => some (some e, d)
    | .ok v => (d.ask patience (.call method v)).map fun (r, d) => d.conclude r
  | .notify method params =>
    match readParams params with
    | .error e => some (some e, d)
    | .ok v => (d.ask patience (.send method v none)).map fun (r, d) => d.conclude r
  | .listen =>
    runUntil (fun d => if lines ≤ d.lines.length then some none else none) patience d

/-- Connects, carries out a task, and closes the connection, unless connecting fails. -/
def converse (patience lines : Nat) (task : Task) (d : Dialogue L) :
    Option (Option Mishap × Dialogue L) := do
  let (result, d) ← d.ask patience .connect
  match result with
  | .failed e => return (some (.rpc e), d)
  | _ =>
    let (mishap, d) ← d.perform patience lines task
    let (_, d) ← d.ask patience .close
    return (mishap, d)

end Dialogue

namespace Errand

variable {L : Type} [Adapter L]

/-- Runs an errand over a link that was opened, and gives the link back. Without a result the run
does not end. -/
def run (patience lines : Nat) (e : Errand) (link : L) : Option (L × Finish) :=
  match Session.open? link e.settings.options with
  | none => some (link, .crashed)
  | some session => do
    let (mishap, d) ← Dialogue.converse patience lines e.task { session }
    return (d.session.engine.link, .ofLines d.lines mishap)

end Errand

end GattRpc
