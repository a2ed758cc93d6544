/-! # Files

The few things that are done with files, for whatever holds them: `Files m` says that a monad can
do them, and a `FileTree` is the plain model of a disk. Names are looked up one after the other, so
that a `..` leads nowhere if the directory that it leaves is not there. -/

namespace GattRpc

/-- Why something could not be done with a file. -/
inductive FileError
  | notFound
  | isADirectory
  | notADirectory
  | alreadyExists
  /-- The bytes of the file are no text. -/
  | notText
deriving DecidableEq, Repr

def FileError.message : FileError → String
  | notFound => "No such file or directory (os error 2)"
  | isADirectory => "Is a directory (os error 21)"
  | notADirectory => "Not a directory (os error 20)"
  | alreadyExists => "File exists (os error 17)"
  | notText => "stream did not contain valid UTF-8"

/-- What follows the last name in the text of a path. -/
inductive Path.Ending
  | name
  /-- A separator, so that only a directory can be there. -/
  | separator
  /-- A dot, which looks into what is there. -/
  | dot
deriving DecidableEq, Repr

/-- A path to a file, as the names that its text gives from the root on. -/
structure Path where
  names : List String
  ending : Path.Ending := .name
deriving DecidableEq, Repr

namespace Path

/-- The path that a text gives, seen from a directory. Where a `..` leads is not decided by the
text. -/
def ofText (base : List String) (text : String) : Path :=
  let parts := (text.splitOn "/").filter (· ≠ "")
  { names := (if text.startsWith "/" then [] else base) ++ parts.filter (· ≠ ".")
    ending :=
      if parts.getLast? = some "." then .dot
      else if text.endsWith "/" then .separator
      else .name }

/-- The directory that a path is in, by its text. -/
def parent (p : Path) : List String := p.names.dropLast

end Path

class Files (m : Type → Type) where
  /-- There is something at a path. -/
  isThere : Path → m Bool
  read : Path → m (Except FileError (List UInt8))
  /-- Makes a directory and those that lead to it, unless they are there. -/
  makeDirectories : List String → m (Except FileError Unit)
  /-- Makes a file, or replaces what it holds. -/
  write : Path → List UInt8 → m (Except FileError Unit)

inductive FileTree
  | file (content : List UInt8)
  | directory (entries : List (String × FileTree))
deriving Inhabited

namespace FileTree

def empty : FileTree := .directory []

/-- The entries with one of them replaced, or added at the end. -/
def insert (name : String) (t : FileTree) : List (String × FileTree) → List (String × FileTree)
  | [] => [(name, t)]
  | (n, old) :: rest => if n = name then (name, t) :: rest else (n, old) :: insert name t rest

/-- What is at a place, which is given by the directories that lead to it from the root. -/
def find : List String → FileTree → Except FileError FileTree
  | [], t => .ok t
  | name :: names, .directory entries =>
    match entries.lookup name with
    | none => .error .notFound
    | some t => find names t
  | _ :: _, .file _ => .error .notADirectory

/-- Goes on from a place by a name: `..` leads back from a directory. -/
def enter (t : FileTree) (place : List String) (name : String) :
    Except FileError (List String) :=
  match t.find place with
  | .error e => .error e
  | .ok (.file _) => .error .notADirectory
  | .ok (.directory entries) =>
    if name = ".." then .ok place.dropLast
    else if (entries.lookup name).isSome then .ok (place ++ [name])
    else .error .notFound

/-- The place that names lead to. All of them have to be there. -/
def resolve (names : List String) (t : FileTree) : Except FileError (List String) :=
  names.foldlM t.enter []

/-- What names lead to. -/
def look (names : List String) (t : FileTree) : Except FileError FileTree := do
  t.find (← t.resolve names)

/-- The bytes of the file at a path. -/
def read (p : Path) (t : FileTree) : Except FileError (List UInt8) :=
  match t.look p.names with
  | .error e => .error e
  | .ok (.directory _) => .error .isADirectory
  | .ok (.file content) => if p.ending = .name then .ok content else .error .notADirectory

/-- There is something at a path. -/
def isThere (p : Path) (t : FileTree) : Bool :=
  match t.look p.names with
  | .error _ => false
  | .ok (.directory _) => true
  | .ok (.file _) => p.ending = .name

/-- Changes what is at a place, where there may be nothing. Its directory must be there. -/
def alter (f : Option FileTree → Except FileError FileTree) :
    List String → FileTree → Except FileError FileTree
  | [], t => f (some t)
  | _ :: _, .file _ => .error .notADirectory
  | name :: names, .directory entries =>
    match entries.lookup name, names with
    | some t, names => do return .directory (insert name (← alter f names t) entries)
    | none, [] => do return .directory (insert name (← f none) entries)
    | none, _ :: _ => .error .notFound

/-- Changes what names lead to, where there may be nothing. Nothing can be made at the root or at a
`..`, where a directory is. -/
def change (f : Option FileTree → Except FileError FileTree) (taken : FileError)
    (names : List String) (t : FileTree) : Except FileError FileTree :=
  match names.getLast? with
  | none => .error taken
  | some name => do
    let place ← t.resolve names.dropLast
    if name = ".." then
      let _ ← t.enter place name
      .error taken
    else t.alter f (place ++ [name])

def makeNew : Option FileTree → Except FileError FileTree
  | some _ => .error .alreadyExists
  | none => .ok empty

/-- Makes one directory, unless it is there. -/
def makeDirectory (names : List String) (t : FileTree) : Except FileError Unit × FileTree :=
  match t.change makeNew .alreadyExists names with
  | .ok t => (.ok (), t)
  | .error e =>
    match t.look names with
    | .ok (.directory _) => (.ok (), t)
    | _ => (.error e, t)

/-- Makes a directory and, if those that lead to it are not there, first the one that it is in by
its names. -/
def makeDirectories (names : List String) (t : FileTree) : Except FileError Unit × FileTree :=
  match t.makeDirectory names with
  | (.error .notFound, t) =>
    if _ : names = [] then (.error .notFound, t)
    else match makeDirectories names.dropLast t with
      | (.ok (), t) => t.makeDirectory names
      | failed => failed
  | done => done
termination_by names.length
decreasing_by
  rw [List.length_dropLast]
  exact Nat.sub_lt (List.length_pos_iff.2 ‹_›) Nat.one_pos

/-- What a file holds is replaced. -/
def replace (ending : Path.Ending) (content : List UInt8) :
    Option FileTree → Except FileError FileTree
  | some (.directory _) => .error .isADirectory
  | some (.file _) | none =>
    if ending = .name then .ok (.file content) else .error .isADirectory

def write (p : Path) (content : List UInt8) (t : FileTree) : Except FileError FileTree :=
  match p.ending with
  | .name | .separator => t.change (replace p.ending content) .isADirectory p.names
  | .dot => do
    match ← t.look p.names with
    | .file _ => .error .notADirectory
    | .directory _ => .error .isADirectory

/-- Does something with the files, or leaves them as they are if that fails. -/
def attempt (f : FileTree → Except FileError FileTree) : StateM FileTree (Except FileError Unit) :=
  fun t => match f t with
    | .ok t => (.ok (), t)
    | .error e => (.error e, t)

instance : Files (StateM FileTree) where
  isThere p := fun t => (t.isThere p, t)
  read p := fun t => (t.read p, t)
  makeDirectories names := fun t => t.makeDirectories names
  write p content := attempt (write p content)

end FileTree

end GattRpc
