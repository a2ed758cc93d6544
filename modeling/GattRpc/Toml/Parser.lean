import GattRpc.Toml.Scanner

/-! # Reading TOML documents

A document is read line by line: key and value pairs go into the table whose header came last, and
a header finishes that table and starts the next one. -/

namespace GattRpc.Toml.Read

/-- The items of an array up to its closing bracket, added in reverse to `seen`. Blanks, comments
and line breaks may stand anywhere between them, and a comma after the last one. -/
def arrayItems (item : Scan Toml) : Nat → List Toml → Scan (List Toml)
  | 0, _, _ => none
  | steps + 1, seen, cs =>
    match skipLines cs.length cs with
    | ']' :: rest => some (seen.reverse, rest)
    | start => do
      let (v, rest) ← item start
      match skipLines rest.length rest with
      | ',' :: rest => arrayItems item steps (v :: seen) rest
      | ']' :: rest => some ((v :: seen).reverse, rest)
      | _ => none

/-- The parts of a key but the last one, and the last one. -/
def splitKey (path : List String) : List String × String :=
  (path.dropLast, path.getLast?.getD "")

/-- The members of a table between braces, all on one line, added to `seen`. -/
def inlineMembers (item : Scan Toml) : Nat → Toml → Scan Toml
  | 0, _, _ => none
  | steps + 1, seen, cs => do
    let (path, rest) ← key cs
    let ((), rest) ← char '=' rest
    let (v, rest) ← item (skipBlanks rest)
    let (front, k) := splitKey path
    let seen ← assign .inline front k v seen
    match skipBlanks rest with
    | ',' :: rest => inlineMembers item steps seen rest
    | '}' :: rest => some (seen, rest)
    | _ => none

/-- A value, inside which so many more containers may be opened. -/
def value : Nat → Scan Toml
  | depth, cs =>
    match cs, depth with
    | '[' :: _, 0 | '{' :: _, 0 => none
    | '[' :: rest, inner + 1 => do
      let (items, rest) ← arrayItems (value inner) rest.length [] rest
      some (.array items, rest)
    | '{' :: rest, inner + 1 =>
      match skipBlanks rest with
      | '}' :: rest => some (emptyTable .inline, rest)
      | start => inlineMembers (value inner) rest.length (emptyTable .inline) start
    | cs, _ => scalar cs

/-- A document whose last header is still open. -/
structure Draft where
  /-- The finished tables. -/
  root : Toml := emptyTable .header
  /-- The table that pairs are added to. -/
  current : Toml := emptyTable .header
  path : List String := []
  /-- The table is one of several. -/
  isElement : Bool := false

namespace Draft

/-- Puts a table after the others of its name. -/
def appendElement (k : String) (t : Toml) : Toml → Option Toml
  | .table origin ms =>
    match ms.lookup k with
    | none => some (.table origin (ms ++ [(k, .tables [t])]))
    | some (.tables items) => some (.table origin (replaceMember k (.tables (items ++ [t])) ms))
    | some _ => none
  | _ => none

/-- Puts a finished table in its place. -/
def place (k : String) (t : Toml) : Toml → Option Toml
  | .table origin ms => if (ms.lookup k).isSome then none else some (.table origin (ms ++ [(k, t)]))
  | _ => none

/-- Finishes the current table. -/
def finish (d : Draft) : Option Toml :=
  match d.path with
  | [] => some d.current
  | path =>
    let (front, k) := splitKey path
    let put := if d.isElement then appendElement k d.current else place k d.current
    alter .header front put d.root

/-- Takes a table that was only implied out of its parent, so that its header completes it. -/
def claim (k : String) : Toml → Option (Toml × Toml)
  | .table origin ms =>
    match ms.lookup k with
    | none => some (.table origin ms, emptyTable .header)
    | some (.table .implied inner) =>
      some (.table origin (ms.filter fun m => m.1 ≠ k), .table .header inner)
    | some _ => none
  | _ => none

/-- The table at the end of a path, if there is one. -/
def descend? : List String → Toml → Option Toml
  | [], t => some t
  | k :: path, .table _ ms =>
    match ms.lookup k with
    | some (.tables items) => items.getLast?.bind (descend? path)
    | some t => descend? path t
    | none => none
  | _ :: _, _ => none

/-- Starts a table with its own header. -/
def startTable (d : Draft) (path : List String) : Option Draft := do
  let root ← d.finish
  let (front, k) := splitKey path
  let root ← alter .header front some root
  let parent ← descend? front root
  let (_, current) ← claim k parent
  let root ← alter .header front (fun t => (claim k t).map Prod.fst) root
  some { root, current, path }

/-- Starts one of several tables. -/
def startElement (d : Draft) (path : List String) : Option Draft := do
  let root ← d.finish
  let (front, k) := splitKey path
  let reserve : Toml → Option Toml
    | .table origin ms =>
      match ms.lookup k with
      | none => some (.table origin (ms ++ [(k, .tables [])]))
      | some (.tables items) => some (.table origin (replaceMember k (.tables items) ms))
      | some _ => none
    | _ => none
  let root ← alter .header front reserve root
  some { root, current := emptyTable .header, path, isElement := true }

/-- Adds a key and value pair to the current table. -/
def add (d : Draft) (path : List String) (v : Toml) : Option Draft := do
  let (front, k) := splitKey path
  let current ← assign .dotted front k v d.current
  some { d with current }

end Draft

/-- A header line, after its first bracket. -/
def header (d : Draft) : Scan Draft
  | '[' :: rest => do
    let (path, rest) ← key rest
    let ((), rest) ← char ']' rest
    let ((), rest) ← char ']' rest
    let rest ← endLine? rest
    some (← d.startElement path, rest)
  | rest => do
    let (path, rest) ← key rest
    let ((), rest) ← char ']' rest
    let rest ← endLine? rest
    some (← d.startTable path, rest)

/-- A line with a key and a value. -/
def pair (d : Draft) : Scan Draft := fun cs => do
  let (path, rest) ← key cs
  let ((), rest) ← char '=' rest
  let (v, rest) ← value nestingLimit (skipBlanks rest)
  let rest ← endLine? rest
  some (← d.add path v, rest)

/-- The lines of a document. Every step takes a character. -/
def readLines : Nat → Draft → List Char → Option Draft
  | steps, d, cs =>
    match skipBlanks cs, steps with
    | [], _ => some d
    | _, 0 => none
    | '#' :: rest, steps + 1 => do readLines steps d (← endLine? ('#' :: rest))
    | '[' :: rest, steps + 1 => do
      let (d, rest) ← header d rest
      readLines steps d rest
    | c :: rest, steps + 1 =>
      match newline? (c :: rest) with
      | some rest => readLines steps d rest
      | none => do
        let (d, rest) ← pair d (c :: rest)
        readLines steps d rest

end GattRpc.Toml.Read

namespace GattRpc

/-- The table that a document holds, if it is one. A byte order mark may come first. -/
def Toml.parse (text : String) : Option Toml := do
  let cs := match text.toList with
    | '\uFEFF' :: rest => rest
    | cs => cs
  let d ← Toml.Read.readLines cs.length {} cs
  d.finish

end GattRpc
