import GattRpc.Binary64.Basic

/-! # TOML values

A document is a table. Each table remembers how it came about, because that decides who may still
add to it: a table that only a header's path or a dotted key implies can be completed, a table that
was given its own header or is written inline cannot be given again. -/

namespace GattRpc

/-- How a table came about. -/
inductive Toml.Origin
  /-- It has a header of its own, or is the document. -/
  | header
  /-- Only a longer header names it. -/
  | implied
  /-- Dotted keys make it. -/
  | dotted
  /-- It is written between braces. -/
  | inline
deriving DecidableEq, Repr

inductive Toml
  | string (s : String)
  | integer (i : Int)
  | float (x : Binary64)
  | boolean (b : Bool)
  | dateTime
  | array (items : List Toml)
  /-- Tables with headers of their own, one after the other. -/
  | tables (items : List Toml)
  | table (origin : Toml.Origin) (members : List (String × Toml))
deriving Inhabited

namespace Toml

/-- A table of the given origin that has no members. -/
def emptyTable (origin : Origin) : Toml := .table origin []

/-- Replaces the value of a member. -/
def replaceMember (k : String) (v : Toml) (ms : List (String × Toml)) : List (String × Toml) :=
  ms.map fun m => if m.1 = k then (k, v) else m

/-- What a table may be used for when a path leads through it. -/
inductive Access
  /-- A header leads through it. -/
  | header
  /-- A dotted key leads through it. -/
  | dotted
  /-- A dotted key between braces leads through it. -/
  | inline
deriving DecidableEq, Repr

/-- The origin of the tables that a path makes on its way. -/
def Access.origin : Access → Origin
  | header => .implied
  | dotted | inline => .dotted

/-- A path may lead through a table of this origin. Dotted keys add only to tables that no header
of their own completes, and nothing adds to a table between braces. -/
def Access.mayEnter (access : Access) (origin : Origin) : Bool :=
  match access, origin with
  | .header, .inline | _, .inline => false
  | .header, _ => true
  | .dotted, .header | .inline, .header => false
  | .dotted, _ | .inline, _ => true

/-- Changes the table at the end of a path, making the tables on the way that are not there. The
last of several tables stands for all of them. -/
def alter (access : Access) : List String → (Toml → Option Toml) → Toml → Option Toml
  | [], f, t => f t
  | k :: path, f, .table origin ms =>
    match ms.lookup k with
    | none => do
      let inner ← alter access path f (emptyTable access.origin)
      some (.table origin (ms ++ [(k, inner)]))
    | some (.tables items) => do
      let last ← items.getLast?
      let inner ← alter access path f last
      some (.table origin (replaceMember k (.tables (items.dropLast ++ [inner])) ms))
    | some (.table innerOrigin inner) =>
      if access.mayEnter innerOrigin then do
        let inner ← alter access path f (.table innerOrigin inner)
        some (.table origin (replaceMember k inner ms))
      else none
    | some _ => none
  | _ :: _, _, _ => none

/-- Adds a member at the end of a table, unless it is there. A dotted key needs a table that dotted
keys make. -/
def addMember (viaPath : Bool) (k : String) (v : Toml) : Toml → Option Toml
  | .table origin ms =>
    if (origin = .dotted) ≠ viaPath then none
    else if (ms.lookup k).isSome then none
    else some (.table origin (ms ++ [(k, v)]))
  | _ => none

/-- Gives a value to a key, dotted or not. -/
def assign (access : Access) (path : List String) (k : String) (v : Toml) (t : Toml) :
    Option Toml :=
  alter access path (addMember (!path.isEmpty) k v) t

end Toml

end GattRpc
