import GattRpc.Settings.Storage

/-! # The command line

The program takes options and one of three verbs, each with arguments of its own. -/

namespace GattRpc

/-- What the program can be told to do. -/
inductive Verb
  | call
  | notify
  | listen
deriving DecidableEq, Repr

/-- A task, with the arguments of its verb. -/
inductive Task
  | call (method : String) (params : Option String)
  | notify (method : String) (params : Option String)
  | listen
deriving DecidableEq, Repr

/-- What a command line asks for. -/
structure Invocation where
  config : Option String
  address : Option String
  task : Task
deriving DecidableEq, Repr

namespace CommandLine

/-- An argument that is told by its place. -/
structure Positional where
  label : String
  required : Bool
  about : String := ""
deriving DecidableEq, Repr

/-- An argument that is told by its name. -/
inductive Flag
  | config
  | address
  | help
  | version
deriving DecidableEq, Repr

namespace Flag

def long : Flag → String
  | config => "config"
  | address => "address"
  | help => "help"
  | version => "version"

def short? : Flag → Option Char
  | config => none
  | address => some 'a'
  | help => some 'h'
  | version => some 'V'

/-- What the value of a flag is called, if it has one. -/
def valueLabel? : Flag → Option String
  | config => some "<CONFIG>"
  | address => some "<ADDRESS>"
  | help | version => none

/-- The variable of the environment that stands in for a flag. -/
def envName? : Flag → Option String
  | config => some "BLERPC_CONFIG"
  | address => some "BLERPC_ADDRESS"
  | help | version => none

def about : Flag → String
  | config => "Configuration file (defaults to the user config directory)"
  | address => "Peripheral Bluetooth address; overrides the configured one"
  | help => "Print help"
  | version => "Print version"

/-- A flag with its value, as usage lines show it. -/
def shown (f : Flag) : String :=
  match f.valueLabel? with
  | some label => s!"--{f.long} {label}"
  | none => s!"--{f.long}"

end Flag

namespace Verb

def all : List Verb := [.call, .notify, .listen]

def name : Verb → String
  | .call => "call"
  | .notify => "notify"
  | .listen => "listen"

def about : Verb → String
  | .call => "Send a request and print its response"
  | .notify => "Send a request without waiting for a response"
  | .listen => "Print messages pushed by the peripheral until interrupted"

def positionals : Verb → List Positional
  | .call =>
    [⟨"METHOD", true, ""⟩, ⟨"PARAMS", false, "Request params as a JSON object"⟩]
  | .notify => [⟨"METHOD", true, ""⟩, ⟨"PARAMS", false, ""⟩]
  | .listen => []

/-- The verb of a name. -/
def ofName? (name : String) : Option Verb := all.find? fun v => Verb.name v = name

/-- The task of a verb with its arguments. -/
def task? : Verb → List String → Option Task
  | .call, method :: params => some (.call method params.head?)
  | .notify, method :: params => some (.notify method params.head?)
  | .listen, _ => some .listen
  | _, [] => none

end Verb

/-- The word that asks for help in the place of a verb. -/
def helpWord : String := "help"

def helpAbout : String := "Print this message or the help of the given subcommand(s)"

/-- The words that can stand in the place of a verb. -/
def words : List String := Verb.all.map Verb.name ++ [helpWord]

/-- What a part of the command line belongs to. -/
inductive Scope
  | program
  | verb (v : Verb)
  | help
deriving DecidableEq, Repr

namespace Scope

/-- The words that lead to a scope. -/
def title : Scope → String
  | program => "blerpc"
  | verb v => "blerpc " ++ Verb.name v
  | help => "blerpc " ++ helpWord

def about : Scope → String
  | program => "JSON-RPC over BLE"
  | verb v => Verb.about v
  | help => helpAbout

def flags : Scope → List Flag
  | program => [.config, .address, .help, .version]
  | verb _ => [.help]
  | help => []

def positionals : Scope → List Positional
  | program | help => []
  | verb v => Verb.positionals v

end Scope

end CommandLine

end GattRpc
