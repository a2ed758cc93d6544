import GattRpc.CommandLine.Misuse
import GattRpc.Text.Similarity

/-! # Reading the command line

Arguments are read from left to right. Flags may come anywhere before a lone `--`, after which
every argument is told by its place; at the first verb the rest belongs to it. The value of a flag
may be attached to it or come next, and then it is taken up only when another flag or the end is
reached. -/

namespace GattRpc.CommandLine

/-- Why a command line ends without a task. -/
inductive Stop
  /-- A page of help was asked for. -/
  | help (scope : Scope)
  /-- Nothing was given at all. -/
  | nothing
  | version
  | misuse (m : Misuse)
deriving DecidableEq, Repr

/-- The arguments of a scope that were read so far. -/
structure Reading where
  scope : Scope
  given : List (Flag × String) := []
  /-- A flag that is not taken up yet, with its value if it has come. -/
  pending : Option (Flag × Option String) := none
  arguments : List String := []
  /-- No flags are read any more. -/
  trailing : Bool := false
deriving DecidableEq, Repr

namespace Reading

/-- The usage line that names the flags in use, and one more. -/
def usageWith (r : Reading) (extra : List Flag) : String :=
  usage r.scope (r.given.map Prod.fst ++ extra) r.arguments.length

/-- Takes up a flag with its value. A configuration file must have a name. -/
def give (r : Reading) (f : Flag) (value : String) : Reading × Option Problem :=
  if (r.given.lookup f).isSome then
    ({ r with given := r.given.filter fun g => g.1 ≠ f }, some (.repeated f))
  else
    let empty := f = .config ∧ value = ""
    ({ r with given := r.given ++ [(f, value)] }, if empty then some (.missingValue f) else none)

/-- Takes up the flag that is pending. -/
def settle (r : Reading) : Reading × Option Problem :=
  match r.pending with
  | none => (r, none)
  | some (f, none) => ({ r with pending := none }, some (.missingValue f))
  | some (f, some value) => { r with pending := none }.give f value

/-- Goes on unless there is a problem with a flag. -/
def check : Reading × Option Problem → Except Stop Reading
  | (r, none) => .ok r
  | (_, some (.missingValue f)) => .error (.misuse { problem := .missingValue f })
  | (r, some problem) => .error (.misuse { problem, usage := some (fullUsage r.scope) })

/-- The flag whose name a word is most like, if it is much like any. -/
def similarFlag? (r : Reading) (name : String) : Option Flag := do
  let best ← (similarWords name (r.scope.flags.map Flag.long)).getLast?
  r.scope.flags.find? fun f => f.long = best

/-- A flag that does not exist. Where arguments are told by their place it may have been meant as
one of them. -/
def unknownLong (r : Reading) (name : String) : Stop :=
  let r := r.settle.1
  let problem := Problem.unexpectedArgument ("--" ++ name)
  match r.similarFlag? name with
  | some f =>
    let extra := if (r.given.lookup f).isSome then [] else [f]
    .misuse ⟨problem, some (.similarArgument ("--" ++ f.long)), some (r.usageWith extra)⟩
  | none =>
    let tip := if r.scope.positionals.isEmpty then none else some (.asValue ("--" ++ name))
    .misuse ⟨problem, tip, some (r.usageWith [])⟩

def unknownShort (r : Reading) (c : Char) : Stop :=
  let arg := String.ofList ['-', c]
  let tip := if r.scope.positionals.isEmpty then none else some (.asValue arg)
  .misuse ⟨.unexpectedArgument arg, tip, some (fullUsage r.scope)⟩

/-- A flag without a value ends the reading. -/
def stopAt (r : Reading) (f : Flag) : Except Stop Reading := do
  let r ← check r.settle
  .error (if f = .version then .version else .help r.scope)

/-- A flag that takes a value, which is attached or comes next. -/
def valued (r : Reading) (f : Flag) (attached : Option String) : Except Stop Reading := do
  let r ← check r.settle
  match attached with
  | some value => check (r.give f value)
  | none => return { r with pending := some (f, none) }

def long (r : Reading) (name : String) (attached : Option String) : Except Stop Reading :=
  match r.scope.flags.find? fun f => f.long = name with
  | none => .error (r.unknownLong name)
  | some f =>
    if f.valueLabel?.isSome then r.valued f attached
    else match attached with
      | none => r.stopAt f
      | some value =>
        -- an argument that was read last is not taken up yet
        let r := { r with arguments := r.arguments.dropLast }
        .error (.misuse ⟨.unexpectedValue value f, none, some (r.usageWith [f])⟩)

/-- A flag by its letter, with its value behind it. -/
def short (r : Reading) (c : Char) (behind : List Char) : Except Stop Reading :=
  match r.scope.flags.find? fun f => f.short? = some c with
  | none => .error (r.unknownShort c)
  | some f =>
    if f.valueLabel?.isSome then
      match behind with
      | [] => r.valued f none
      | '=' :: value | value => r.valued f (some (String.ofList value))
    else r.stopAt f

/-- An argument that is told by its place. -/
def argument (r : Reading) (arg : String) : Except Stop Reading :=
  if r.arguments.length < r.scope.positionals.length then
    .ok { r with arguments := r.arguments ++ [arg] }
  else .error (.misuse (excess r.scope))
where
  excess : Scope → Misuse
    | .program =>
      if r.trailing && words.contains arg then
        ⟨.unexpectedArgument arg, some (.withoutDashes arg), some (fullUsage .program)⟩
      else
        let similar := similarWords arg words
        let tip := if similar.isEmpty then none else some (.similarCommands similar)
        ⟨.unrecognizedCommand arg, tip, some (fullUsage .program)⟩
    | scope => ⟨.unexpectedArgument arg, none, some (fullUsage scope)⟩

/-- A flag and what is attached to it after an equals sign. -/
def splitLong (cs : List Char) : String × Option String :=
  let name := String.ofList (cs.takeWhile (· ≠ '='))
  match cs.dropWhile (· ≠ '=') with
  | _ :: value => (name, some (String.ofList value))
  | [] => (name, none)

/-- The value that the pending flag waits for, or an argument. -/
def plain (r : Reading) (arg : String) : Except Stop Reading :=
  match r.pending with
  | some (f, none) => .ok { r with pending := some (f, some arg) }
  | _ => r.argument arg

/-- One argument that is no verb. -/
def next (r : Reading) (arg : String) : Except Stop Reading :=
  if r.trailing then r.argument arg
  else match arg.toList with
    | ['-', '-'] => .ok { r with trailing := true }
    | '-' :: '-' :: cs =>
      let (name, attached) := splitLong cs
      r.long name attached
    | '-' :: c :: behind => r.short c behind
    | _ => r.plain arg

/-- A flag waits for its value, so that no verb is looked for. -/
def waits (r : Reading) : Bool :=
  match r.pending with
  | some (_, none) => true
  | _ => false

end Reading

/-- The help that the words after `help` ask for. -/
def helpFor : Scope → List String → Stop
  | scope, [] => .help scope
  | .program, word :: rest =>
    match Verb.ofName? word with
    | some v => helpFor (.verb v) rest
    | none =>
      if word = helpWord then helpFor .help rest
      else .misuse { problem := .unrecognizedCommand word, usage := some (fullUsage .program) }
  | scope, word :: _ =>
    .misuse { problem := .unrecognizedCommand word, usage := some (fullUsage scope) }

/-- Reads the arguments of a verb. -/
def readVerb (v : Verb) (args : List String) : Except Stop Task := do
  let r ← args.foldlM Reading.next { scope := .verb v }
  match Verb.task? v r.arguments with
  | some task => return task
  | none =>
    let missing := (Verb.positionals v).head?.getD ⟨"", true, ""⟩
    .error (.misuse { problem := .missingArgument missing, usage := some (fullUsage r.scope) })

/-- Reads up to the verb, and the task that the verb gives. -/
def readProgram : Reading → List String → Except Stop (Reading × Option Task)
  | r, [] => .ok (r, none)
  | r, arg :: rest => do
    if r.trailing || r.waits then readProgram (← r.next arg) rest
    else match Verb.ofName? arg with
      | some v => return (r, some (← readVerb v rest))
      | none =>
        if arg = helpWord then .error (helpFor .program rest)
        else readProgram (← r.next arg) rest

/-- Takes a flag that was not given from the environment. -/
def fromEnvironment (env : Environment) (r : Reading) (f : Flag) : Except Stop Reading :=
  match f.envName?.bind env.get? with
  | none => .ok r
  | some value => if (r.given.lookup f).isSome then .ok r else Reading.check (r.give f value)

/-- What the command line asks for. -/
def parse (env : Environment) (args : List String) : Except Stop Invocation := do
  let (r, task?) ← readProgram { scope := .program } args
  let r ← Reading.check r.settle
  let r ← Scope.program.flags.foldlM (fromEnvironment env) r
  match task? with
  | some task => return ⟨r.given.lookup .config, r.given.lookup .address, task⟩
  | none =>
    if r.given.isEmpty then .error .nothing
    else .error (.misuse { problem := .missingCommand, usage := some (fullUsage .program) })

end GattRpc.CommandLine
