/-!
# Files

As much of a file system as the existence of a flag file depends on: files, directories and
symbolic links in one tree, and the working directory, which is where paths start that do not
start at the root. Permissions are left out: every directory may be searched.
-/

namespace FaultGate

namespace FileTree

/-- What stands at a place. -/
inductive Node where
  | file
  | directory
  | link (target : String)
  deriving DecidableEq, Repr

/-- A place, by the names on the way to it from the root. -/
abbrev Place := List String

end FileTree

/-- A file system with a working directory. -/
structure FileTree where
  /-- What stands where, besides the working directory and the directories around it. -/
  nodes : List (FileTree.Place × FileTree.Node)
  /-- The place of the working directory. -/
  home : FileTree.Place
  deriving DecidableEq, Repr

namespace FileTree

/-- Nothing but a working directory at the given place, and the directories around it. -/
def around (home : Place) : FileTree := ⟨[], home⟩

/-- Nothing but a working directory. -/
def empty : FileTree := around ["srv", "stub-api"]

/-- What stands at a place. The root is a place around every working directory. -/
def node? (t : FileTree) (place : Place) : Option Node :=
  if place.isPrefixOf t.home then some .directory else t.nodes.lookup place

/-- The tree with a node put at a place where there is none. -/
def insert (t : FileTree) (place : Place) (node : Node) : FileTree :=
  { t with nodes := (place, node) :: t.nodes }

/-- The tree without a place and all that is below it. Only the working directory and the
directories around it are always there. -/
def erase (t : FileTree) (place : Place) : FileTree :=
  { t with nodes := t.nodes.filter fun e => !place.isPrefixOf e.1 }

/-- The names that a path is made of. -/
def components (path : String) : List String :=
  (path.toList.splitOn '/').map String.ofList

/-- Where a path starts that is read in a directory: there, or at the root. -/
def start (directory : Place) (path : String) : Place :=
  if path.toList.head? = some '/' then [] else directory

/-- What walking along a path leads to. -/
inductive Target where
  | directory (place : Place)
  | file (place : Place)
  /-- Nothing, where something could be created. -/
  | vacant (place : Place)
  | nowhere
  deriving DecidableEq, Repr

/-- Is there something? -/
def Target.found : Target → Bool
  | .directory _ => true
  | .file _ => true
  | .vacant _ => false
  | .nowhere => false

/-- Walks along names from a directory. What comes of a link is told by `follow`, from where its
target starts and from the names that lie ahead then. -/
def along (t : FileTree) (follow : Place → List String → Target) : Place → List String → Target
  | place, [] => .directory place
  | place, name :: rest =>
    if name = "" || name = "." then along t follow place rest
    else if name = ".." then along t follow place.dropLast rest
    else
      match t.node? (place ++ [name]) with
      | none => if rest.isEmpty then .vacant (place ++ [name]) else .nowhere
      | some .file => if rest.isEmpty then .file (place ++ [name]) else .nowhere
      | some .directory => along t follow (place ++ [name]) rest
      | some (.link target) =>
        if target.isEmpty then .nowhere
        else follow (start place target) (components target ++ rest)

/-- Walks along names from a directory, through that many links at most. -/
def walk (t : FileTree) : Nat → Place → List String → Target
  | 0 => along t fun _ _ => .nowhere
  | links + 1 => along t (walk t links)

/-- How many links may be followed on the way along one path. -/
def maxLinks : Nat := 40

/-- What names lead to from a directory. -/
def resolve (t : FileTree) (place : Place) (names : List String) : Target :=
  t.walk maxLinks place names

/-- What a path leads to. -/
def target (t : FileTree) (path : String) : Target :=
  t.resolve (start t.home path) (components path)

/-- How many bytes a path may have. -/
def maxLength : Nat := 4095

/-- How many bytes a name may have. -/
def maxNameLength : Nat := 255

/-- Can the path be asked for? It must not be empty, no null character may stand in it, and
neither the path nor a name in it may be too long. -/
def canAsk (path : String) : Bool :=
  !path.isEmpty && !path.toList.contains '\x00' && path.utf8ByteSize ≤ maxLength &&
    (components path).all (·.utf8ByteSize ≤ maxNameLength)

/-- Does something exist at the path? Links are followed. -/
def has (t : FileTree) (path : String) : Bool :=
  canAsk path && (t.target path).found

/-- Creates the directories on the way along names that do not exist yet, from the outermost
on. -/
def makeDirectories (t : FileTree) (place : Place) (done : List String) : List String → FileTree
  | [] => t
  | name :: rest =>
    match t.resolve place (done ++ [name]) with
    | .vacant new => makeDirectories (t.insert new .directory) place (done ++ [name]) rest
    | _ => makeDirectories t place (done ++ [name]) rest

/-- Creates a directory, and the directories around it. -/
def makeDirectory (t : FileTree) (path : String) : FileTree :=
  if canAsk path then t.makeDirectories (start t.home path) [] (components path) else t

/-- Creates the directories around a path. -/
def makeParents (t : FileTree) (path : String) : FileTree :=
  t.makeDirectories (start t.home path) [] (components path).dropLast

/-- Creates an empty file, and the directories around it. -/
def touch (t : FileTree) (path : String) : FileTree :=
  if canAsk path then
    match (t.makeParents path).target path with
    | .vacant place => (t.makeParents path).insert place .file
    | _ => t.makeParents path
  else t

/-- The place that the last name of a path has, without following it. -/
def lastPlace? (t : FileTree) (path : String) : Option Place :=
  match (components path).getLast? with
  | none => none
  | some last =>
    if !canAsk path || last = "" || last = "." || last = ".." then none
    else
      match t.resolve (start t.home path) (components path).dropLast with
      | .directory place => some (place ++ [last])
      | _ => none

/-- Removes what stands at a path, and all that is below it. A link is removed itself. -/
def remove (t : FileTree) (path : String) : FileTree :=
  match t.lastPlace? path with
  | some place => t.erase place
  | none => t

/-- Creates a symbolic link where nothing stands. -/
def link (t : FileTree) (path target : String) : FileTree :=
  match t.lastPlace? path with
  | some place => if (t.node? place).isSome then t else t.insert place (.link target)
  | none => t

end FileTree

end FaultGate
