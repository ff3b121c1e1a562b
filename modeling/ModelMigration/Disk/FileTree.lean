import ModelMigration.Disk.Access

/-!
# File trees

The state of a disk: which files and directories there are, and in which directory a run works.
The operations on it answer as a file system does, without links and permissions.
-/

namespace ModelMigration.Disk

/-- The names that lead from the root directory to a place. -/
abbrev Location := List String

/-- What stands at a location. -/
inductive Entry where
  | directory
  | file (content : ByteArray)

/-- What stands where an entry is. -/
def Entry.kind : Entry → Kind
  | directory => .directory
  | file _ => .file

/-- The entries of a disk below its root, and the directory that relative paths start from. -/
structure FileTree where
  here : Location
  entries : Std.ExtTreeMap Location Entry

namespace FileTree

/-- The entry at a location; the root directory is always there. -/
def entry? (t : FileTree) (place : Location) : Option Entry :=
  if place = [] then some .directory else t.entries[place]?

/-- The location and those above it but for the root. -/
def spine (place : Location) : List Location :=
  (List.range place.length).map fun i => place.take (i + 1)

/-- The tree that holds a working directory and nothing else. -/
def empty (here : Location) : FileTree where
  here := here
  entries := (spine here).foldl (fun entries place => entries.insert place .directory) ∅

/-- The greatest number of bytes in a name. -/
def greatestName : Nat := 255

/-- The number of bytes that a path has to stay below. -/
def pathLimit : Nat := 4096

/-- Whether a name goes on from a location: it has to be a directory. -/
def passable (t : FileTree) (place : Location) : Except Refusal Unit :=
  match t.entry? place with
  | some .directory => .ok ()
  | some (.file _) => .error .notDirectory
  | none => .error .notFound

/-- One part of a path followed from a location. -/
def follow (t : FileTree) (place : Location) (part : String) : Except Refusal Location := do
  if part = "" then return place
  t.passable place
  if part = "." then return place
  else if part = ".." then return place.dropLast
  else if greatestName < part.utf8ByteSize then .error .nameTooLong
  else return place ++ [part]

/-- The parts of a path followed from a location. -/
def followAll (t : FileTree) (place : Location) (parts : List String) : Except Refusal Location :=
  parts.foldlM t.follow place

/-- The location that a path starts from; some texts are no paths at all. -/
def origin (t : FileTree) (path : Path) : Except Refusal Location :=
  if path.text.toList.contains '\x00' then .error .nulInName
  else if path.text = "" then .error .notFound
  else if pathLimit ≤ path.text.utf8ByteSize then .error .nameTooLong
  else .ok (if path.isAbsolute then [] else t.here)

/-- The parts of a path between slashes. -/
def partsOf (path : Path) : List String := Text.pieces '/' path.text

/-- Whether a path ends with a slash, which only a directory may. -/
def endsWithSlash (path : Path) : Bool := path.text.toList.getLast? = some '/'

/-- The location of a path and what stands there. -/
def find (t : FileTree) (path : Path) : Except Refusal (Location × Entry) := do
  let place ← t.followAll (← t.origin path) (partsOf path)
  match t.entry? place with
  | none => .error .notFound
  | some (.file content) =>
      if endsWithSlash path then .error .notDirectory else return (place, .file content)
  | some .directory => return (place, .directory)

/-- The end of a path at which something is to be made or removed. -/
inductive Target where
  /-- The path ends with the root, `.` or `..`. -/
  | special
  /-- The path ends with a name in the directory at a location. -/
  | named (directory : Location) (name : String)

/-- The end of a path; what stands in front of it has to be a directory. -/
def target (t : FileTree) (path : Path) : Except Refusal Target := do
  let start ← t.origin path
  match ((partsOf path).reverse.dropWhile fun part => part = "") with
  | [] => return .special
  | last :: before =>
      let directory ← t.followAll start before.reverse
      t.passable directory
      if last = "." || last = ".." then return .special else return .named directory last

/-- The content of a file. -/
def read (t : FileTree) (path : Path) : Except Refusal ByteArray := do
  match ← t.find path with
  | (_, .file content) => return content
  | (_, .directory) => .error .isDirectory

/-- The tree with an entry put in place. -/
def put (t : FileTree) (place : Location) (entry : Entry) : FileTree :=
  { t with entries := t.entries.insert place entry }

/-- The tree with a file in place; its directory has to be there. -/
def write (t : FileTree) (path : Path) (content : ByteArray) : Except Refusal FileTree := do
  match ← t.target path with
  | .special => .error .isDirectory
  | .named directory name =>
      if endsWithSlash path then .error .isDirectory
      else if greatestName < name.utf8ByteSize then .error .nameTooLong
      else
        match t.entry? (directory ++ [name]) with
        | some .directory => .error .isDirectory
        | _ => return t.put (directory ++ [name]) (.file content)

/-- The tree with one more directory, at a place where nothing stands. -/
def makeDirectory (t : FileTree) (path : Path) : Except Refusal FileTree := do
  match ← t.target path with
  | .special => .error .alreadyThere
  | .named directory name =>
      if greatestName < name.utf8ByteSize then .error .nameTooLong
      else if (t.entry? (directory ++ [name])).isSome then .error .alreadyThere
      else return t.put (directory ++ [name]) .directory

/-- The name of a location in the directory at another one, if it stands there. -/
def nameIn? (directory place : Location) : Option String :=
  if place.dropLast = directory then place.getLast? else none

/-- The names in a directory, each with what stands there. -/
def list (t : FileTree) (path : Path) : Except Refusal (List (String × Kind)) := do
  match ← t.find path with
  | (_, .file _) => .error .notDirectory
  | (directory, .directory) =>
      return t.entries.toList.filterMap fun (place, entry) =>
        (nameIn? directory place).map fun name => (name, entry.kind)

/-- The tree without a file. -/
def remove (t : FileTree) (path : Path) : Except Refusal FileTree := do
  match ← t.target path with
  | .special => .error .isDirectory
  | .named directory name =>
      if greatestName < name.utf8ByteSize then .error .nameTooLong
      else
        match t.entry? (directory ++ [name]) with
        | none => .error .notFound
        | some .directory => .error .isDirectory
        | some (.file _) =>
            if endsWithSlash path then .error .notDirectory
            else return { t with entries := t.entries.erase (directory ++ [name]) }

/-- The files below a location, each with the names that lead there from it. -/
def filesBelow (t : FileTree) (place : Location) : List (Location × ByteArray) :=
  t.entries.toList.filterMap fun (other, entry) =>
    match entry with
    | .file content =>
        if place.isPrefixOf other then some (other.drop place.length, content) else none
    | .directory => none

/-- A change of the tree, which a refusal leaves as it is. -/
def change (edit : FileTree → Except Refusal FileTree) : StateM FileTree (Except Refusal Unit) :=
  fun t =>
    match edit t with
    | .ok changed => (.ok (), changed)
    | .error refusal => (.error refusal, t)

/-- The operations on the tree of a state. -/
def access : Access (StateM FileTree) where
  kind? path := do return ((← get).find path).toOption.map fun found => found.2.kind
  read path := do return (← get).read path
  write path content := change fun t => t.write path content
  makeDirectory path := change fun t => t.makeDirectory path
  list path := do return (← get).list path
  remove path := change fun t => t.remove path

end FileTree

end ModelMigration.Disk
