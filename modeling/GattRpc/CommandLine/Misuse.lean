import GattRpc.CommandLine.Usage

/-! # Misuse of the command line

What is wrong with a command line, and the text that says so, with tips how to mend it. -/

namespace GattRpc.CommandLine

inductive Problem
  | unexpectedArgument (arg : String)
  | unrecognizedCommand (arg : String)
  | missingValue (f : Flag)
  | repeated (f : Flag)
  | unexpectedValue (value : String) (f : Flag)
  | missingArgument (p : Positional)
  | missingCommand
deriving DecidableEq, Repr

def Problem.message : Problem → String
  | unexpectedArgument arg => s!"unexpected argument '{arg}' found"
  | unrecognizedCommand arg => s!"unrecognized subcommand '{arg}'"
  | missingValue f => s!"a value is required for '{f.shown}' but none was supplied"
  | repeated f => s!"the argument '{f.shown}' cannot be used multiple times"
  | unexpectedValue value f =>
    s!"unexpected value '{value}' for '{f.shown}' found; no more were expected"
  | missingArgument p =>
    "the following required arguments were not provided:\n  " ++ p.shown true
  | missingCommand =>
    s!"'{Scope.program.title}' requires a subcommand but one was not provided\n  [subcommands: "
      ++ ", ".intercalate words ++ "]"

/-- How a misuse may be mended. -/
inductive Tip
  | asValue (arg : String)
  | similarArgument (name : String)
  | similarCommands (names : List String)
  | withoutDashes (command : String)
deriving DecidableEq, Repr

def Tip.message : Tip → String
  | asValue arg => s!"to pass '{arg}' as a value, use '-- {arg}'"
  | similarArgument name => s!"a similar argument exists: '{name}'"
  | similarCommands [name] => s!"a similar subcommand exists: '{name}'"
  | similarCommands names =>
    "some similar subcommands exist: " ++ ", ".intercalate (names.map fun n => s!"'{n}'")
  | withoutDashes command =>
    s!"subcommand '{command}' exists; to use it, remove the '--' before it"

structure Misuse where
  problem : Problem
  tip : Option Tip := none
  /-- The usage line, if it helps. -/
  usage : Option String := none
deriving DecidableEq, Repr

def Misuse.text (m : Misuse) : String :=
  "error: " ++ m.problem.message ++ "\n\n"
    ++ (m.tip.map fun t => "  tip: " ++ t.message ++ "\n\n").getD ""
    ++ (m.usage.map fun u => u ++ "\n\n").getD ""
    ++ "For more information, try '--help'.\n"

end GattRpc.CommandLine
