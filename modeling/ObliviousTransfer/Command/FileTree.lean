/-!
A tree of files and directories, and the operations on it that the commands
need, each with the fault that a refusal gives. A path is followed name by
name, and every name but the last has to be that of a directory. A path, and a
name in it, can be too long to be looked up at all.
-/

namespace ObliviousTransfer

inductive FileFault where
  | notFound
  | alreadyExists
  | notDirectory
  | isDirectory
  | nameTooLong
  /-- Any other refusal, in the words of the system. -/
  | refused (explanation : String)
  deriving DecidableEq

def FileFault.message : FileFault → String
  | .notFound => "No such file or directory (os error 2)"
  | .alreadyExists => "File exists (os error 17)"
  | .notDirectory => "Not a directory (os error 20)"
  | .isDirectory => "Is a directory (os error 21)"
  | .nameTooLong => "File name too long (os error 36)"
  | .refused explanation => explanation

/-- The names that lead from the root to an entry. -/
abbrev Place := List String

inductive Entry where
  | file (text : String)
  | directory
  deriving DecidableEq

/-- A path as it was given: from the root or from the working directory, and its names, among them
single and double dots. -/
structure Path where
  fromRoot : Bool
  names : List String
  deriving DecidableEq

namespace Path

def ofString (text : String) : Path :=
  ⟨text.toList.head? = some '/', (text.split '/').toList.map (·.toString) |>.filter (· ≠ "")⟩

def join (directory file : String) : String :=
  if directory.toList.getLast? = some '/' then directory ++ file else directory ++ "/" ++ file

/-- The names without single dots, but for one at the front of a relative path. -/
def plainNames (path : Path) : List String :=
  match path.fromRoot, path.names with
  | false, "." :: rest => "." :: rest.filter (· ≠ ".")
  | _, names => names.filter (· ≠ ".")

def text (path : Path) : String :=
  (if path.fromRoot then "/" else "") ++ "/".intercalate path.names

/-- The paths that a path goes through, from itself outwards. -/
def ancestors (path : String) : List String :=
  let parsed := ofString path
  let names := parsed.plainNames
  let shorter := (List.range names.length).reverse.filter (· ≠ 0)
  path :: shorter.map fun count => Path.text ⟨parsed.fromRoot, names.take count⟩

end Path

structure FileTree where
  entries : List (Place × Entry)
  workingPlace : Place
  deriving DecidableEq

namespace FileTree

def entry? (tree : FileTree) (place : Place) : Option Entry :=
  if place = [] then some .directory else tree.entries.lookup place

def put (tree : FileTree) (place : Place) (entry : Entry) : FileTree :=
  { tree with entries := (place, entry) :: tree.entries.filter fun kept => kept.1 ≠ place }

def longestPath : Nat := 4095

def longestName : Nat := 255

def enter (tree : FileTree) (place : Place) (name : String) : Except FileFault Place :=
  if name = "." then .ok place
  else if name = ".." then .ok place.dropLast
  else if longestName < name.utf8ByteSize then .error .nameTooLong
  else
    match tree.entry? (place ++ [name]) with
    | none => .error .notFound
    | some (.file _) => .error .notDirectory
    | some .directory => .ok (place ++ [name])

def walk (tree : FileTree) (place : Place) : List String → Except FileFault Place
  | [] => .ok place
  | name :: rest => do tree.walk (← tree.enter place name) rest

def startOf (tree : FileTree) (path : Path) : Place :=
  if path.fromRoot then [] else tree.workingPlace

def isDirectory (tree : FileTree) (path : String) : Bool :=
  let parsed := Path.ofString path
  path.utf8ByteSize ≤ longestPath && parsed ≠ ⟨false, []⟩ &&
    (tree.walk (tree.startOf parsed) parsed.names).isOk

/-- Where the last name of a path lies, or nothing if it is no name of its own. -/
def target (tree : FileTree) (path : String) : Except FileFault (Option Place) :=
  let parsed := Path.ofString path
  if longestPath < path.utf8ByteSize then .error .nameTooLong
  else
    match parsed.names.getLast? with
    | none => if parsed.fromRoot then .ok none else .error .notFound
    | some last => do
        let place ← tree.walk (tree.startOf parsed) parsed.names.dropLast
        if last = "." ∨ last = ".." then .ok none
        else if longestName < last.utf8ByteSize then .error .nameTooLong
        else .ok (some (place ++ [last]))

def makeDirectory (tree : FileTree) (path : String) : Except FileFault FileTree := do
  match ← tree.target path with
  | none => .error .alreadyExists
  | some place =>
      match tree.entry? place with
      | some _ => .error .alreadyExists
      | none => .ok (tree.put place .directory)

def read (tree : FileTree) (path : String) : Except FileFault String := do
  match ← tree.target path with
  | none => .error .isDirectory
  | some place =>
      match tree.entry? place with
      | none => .error .notFound
      | some .directory => .error .isDirectory
      | some (.file text) => .ok text

def write (tree : FileTree) (path text : String) : Except FileFault FileTree := do
  match ← tree.target path with
  | none => .error .isDirectory
  | some place =>
      match tree.entry? place with
      | some .directory => .error .isDirectory
      | _ => .ok (tree.put place (.file text))

end FileTree

end ObliviousTransfer
