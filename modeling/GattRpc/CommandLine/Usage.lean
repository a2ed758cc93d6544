import GattRpc.CommandLine.Basic

/-! # Usage and help

The usage line of a scope and its page of help. -/

namespace GattRpc.CommandLine

/-- An argument that must be there stands in angle brackets, another one in square brackets. -/
def Positional.shown (p : Positional) (required : Bool) : String :=
  if required then s!"<{p.label}>" else s!"[{p.label}]"

/-- The usage line of a scope, which names the flags that were used; `filled` arguments were
given. -/
def usage (scope : Scope) (used : List Flag) (filled : Nat) : String :=
  let options := match used, scope with
    | [], .program => [" [OPTIONS]"]
    | used, _ => used.map fun f => " " ++ f.shown
  let arguments := scope.positionals.mapIdx fun i p =>
    " " ++ p.shown (p.required || i < filled)
  let rest := match scope with
    | .program => [" <COMMAND>"]
    | .verb _ => []
    | .help => [" [COMMAND]..."]
  "Usage: " ++ scope.title ++ String.join (options ++ arguments ++ rest)

/-- The usage line of a scope by itself. -/
def fullUsage (scope : Scope) : String := usage scope [] 0

/-- The lines of a table of two columns. -/
def table (rows : List (String × String)) : String :=
  let width := (rows.map fun r => r.1.length).foldl max 0
  String.join (rows.map fun (label, about) =>
    "  " ++ label ++ String.ofList (List.replicate (width - label.length) ' ') ++ "  " ++ about
      ++ "\n")

/-- A table under its heading, if there is anything in it. -/
def section? (heading : String) (rows : List (String × String)) : String :=
  if rows.isEmpty then "" else "\n" ++ heading ++ ":\n" ++ table rows

/-- The row of a flag. Where a variable stands in for it, its value is shown. -/
def Flag.row (env : Environment) (f : Flag) : String × String :=
  let lead := match f.short? with
    | some c => String.ofList ['-', c, ',', ' ']
    | none => "    "
  let note := match f.envName? with
    | some v => " [env: " ++ v ++ "=" ++ (env.get? v).getD "" ++ "]"
    | none => ""
  (lead ++ f.shown, f.about ++ note)

def commandRows : Scope → List (String × String)
  | .program => (Verb.all.map fun v => (Verb.name v, Verb.about v)) ++ [(helpWord, helpAbout)]
  | _ => []

def argumentRows : Scope → List (String × String)
  | .help => [("[COMMAND]...", "Print help for the subcommand(s)")]
  | scope => scope.positionals.map fun p => (p.shown p.required, p.about)

/-- The page of help of a scope. -/
def helpPage (env : Environment) (scope : Scope) : String :=
  scope.about ++ "\n\n" ++ fullUsage scope ++ "\n"
    ++ section? "Commands" (commandRows scope)
    ++ section? "Arguments" (argumentRows scope)
    ++ section? "Options" (scope.flags.map (Flag.row env))

def versionLine : String := "blerpc 0.4.0"

end GattRpc.CommandLine
