import EntityScaffold.Keyed
import EntityScaffold.Path
/-!
# File trees

The files and directories a run can see, as a value.  Places are lists of names from the root; the
directory that relative paths start from is part of the tree.  `locate` follows a path to a place, name by
name, through directories only, so that `..` after a missing directory leads nowhere, and only through those
that may be searched.

Two operations change a tree: `makeDirectories` creates what is missing on the way to a directory, and
`write` puts a text into a file.  Either says how it failed.  Directories that were made before a fault stay,
and a file is opened before anything is stored in it: where writing then breaks off, what had been stored by
then is left in the place of what was there before (`store`).  No name holds the null character, and names and
paths have a greatest length.

A tree has regular files and directories only, each in one place: there are no links and no devices.  Of the
rights to a place it knows the one to search a directory.  That a directory or a file may not be read or
changed is left out; such a fault would come before a file is opened, as the others do that `write` finds on
the way.  Contents are texts, so there are no halves of surrogate pairs in them and no other bytes that are no
text, and a write that breaks off does so between two characters.
-/

namespace EntityScaffold

/-- What a place in a file tree holds. -/
inductive FileNode where
  | file (content : String)
  | directory
  deriving DecidableEq, Repr, Inhabited

/-- Why a path cannot be followed, or a file or directory not be written. -/
inductive FileFault where
  /-- A file stands where a directory is to be made. -/
  | fileExists
  /-- A file stands on the way. -/
  | notDirectory
  /-- A directory stands where a file is to be written. -/
  | isDirectory
  /-- Nothing is there. -/
  | notFound
  /-- A name holds the null character. -/
  | nullInName
  /-- A name or the whole path is too long. -/
  | tooLong
  /-- A directory on the way may not be searched. -/
  | denied
  /-- The file was opened, and then writing broke off. -/
  | brokenOff
  deriving DecidableEq, Repr, Inhabited

/-- Whether a fault means that nothing is there. -/
def FileFault.isAbsence : FileFault → Bool
  | .notDirectory | .notFound | .nullInName => true
  | _ => false

/-- What is said of a fault that the file system has no word for. -/
def FileFault.message? : FileFault → Option String
  | .nullInName => some "embedded null byte"
  | _ => none

/-- Files and directories, with the place from which relative paths start, and what cannot be done with them. -/
structure FileTree where
  home : List String
  nodes : List (List String × FileNode)
  /-- The directories that may not be searched. -/
  closed : List (List String) := []
  /-- The places at which writing breaks off, each with the number of characters that are stored before. -/
  stops : List (List String × Nat) := []
  deriving Repr, Inhabited

namespace FileTree

/-- A tree with nothing but the directory `home` and those above it. -/
def empty (home : List String) : FileTree where
  home := home
  nodes := (List.range home.length).map fun n => (home.take (n + 1), .directory)

/-- What stands at a place.  The root is always a directory. -/
def node? (tree : FileTree) (place : List String) : Option FileNode :=
  if place.isEmpty then some .directory else tree.nodes.lookup place

/-- Put a node to a place. -/
def put (tree : FileTree) (place : List String) (node : FileNode) : FileTree :=
  { tree with nodes := Keyed.put place node tree.nodes }

/-- What was put to a place stands there; only the root stays what it is. -/
theorem node?_put_self (tree : FileTree) {place : List String} (h : place ≠ []) (node : FileNode) :
    (tree.put place node).node? place = some node := by
  simp [node?, put, h]

/-- Nothing changes at other places. -/
theorem node?_put_of_ne (tree : FileTree) {place other : List String} (h : other ≠ place)
    (node : FileNode) : (tree.put place node).node? other = tree.node? other := by
  simp [node?, put, Keyed.lookup_put_of_ne h]

/-- Whether a place is a directory. -/
def isDirectoryAt (tree : FileTree) (place : List String) : Bool :=
  tree.node? place == some .directory

/-- Whether a directory may not be searched. -/
def isClosed (tree : FileTree) (place : List String) : Bool := tree.closed.contains place

/-- One name further. -/
def step (place : List String) (name : String) : List String :=
  if name = ".." then place.dropLast else place ++ [name]

/-- Follow names from a place; every place that is left must be a directory that may be searched. -/
def locateFrom (tree : FileTree) (place : List String) : List String → Except FileFault (List String)
  | [] => .ok place
  | name :: rest =>
    match tree.node? place with
    | some .directory =>
      if tree.isClosed place then .error .denied
      else if Path.isLongName name then .error .tooLong
      else tree.locateFrom (step place name) rest
    | some (.file _) => .error .notDirectory
    | none => .error .notFound

/-- Where a path starts. -/
def start (tree : FileTree) (path : Path) : List String :=
  if path.root = .relative then tree.home else []

/-- A path that can be followed: its names are free of the null character, and it is not too long. -/
def followed {α : Type} (path : Path) (outcome : Except FileFault α) : Except FileFault α :=
  if path.hasNull then .error .nullInName else if path.isLong then .error .tooLong else outcome

/-- The place a path leads to, whether something stands there or not. -/
def locate (tree : FileTree) (path : Path) : Except FileFault (List String) :=
  followed path (tree.locateFrom (tree.start path) path.components)

/-- What a path leads to. -/
def find (tree : FileTree) (path : Path) : Except FileFault FileNode := do
  match tree.node? (← tree.locate path) with
  | some node => pure node
  | none => .error .notFound

/-- What a path leads to, if it leads to anything. -/
def find? (tree : FileTree) (path : Path) : Except FileFault (Option FileNode) :=
  match tree.find path with
  | .ok node => .ok (some node)
  | .error fault => if fault.isAbsence then .ok none else .error fault

/-- Whether a path leads to a file. -/
def isFile (tree : FileTree) (path : Path) : Except FileFault Bool := do
  match ← tree.find? path with
  | some (.file _) => pure true
  | _ => pure false

/-- Whether a path leads to anything. -/
def isThere (tree : FileTree) (path : Path) : Except FileFault Bool := do
  pure (← tree.find? path).isSome

/-- Read a file. -/
def read (tree : FileTree) (path : Path) : Except FileFault String := do
  match ← tree.find path with
  | .file content => pure content
  | .directory => .error .isDirectory

/-- Make the directories that are missing along names from a place.  A file on the way is a fault: at
the end of the way or after a directory that had to be made, it stands where a directory is to be made. -/
def makeFrom (tree : FileTree) (place : List String) (made : Bool) :
    List String → FileTree × Option FileFault
  | [] => (tree, none)
  | name :: rest =>
    let next := step place name
    if tree.isClosed place then (tree, some .denied)
    else if Path.isLongName name then (tree, some .tooLong)
    else
      match tree.node? next with
      | some .directory => tree.makeFrom next made rest
      | some (.file _) => (tree, some (if made || rest.isEmpty then .fileExists else .notDirectory))
      | none => (tree.put next .directory).makeFrom next true rest

/-- Make a directory and those on the way to it. -/
def makeDirectories (tree : FileTree) (path : Path) : FileTree × Option FileFault :=
  match followed path (.ok ()) with
  | .ok () => tree.makeFrom (tree.start path) false path.components
  | .error fault => (tree, some fault)

/-- Store a text in a file that has been opened, which has made the file or emptied it.  Where writing breaks
off, as much of the text is there as was stored before. -/
def store (tree : FileTree) (place : List String) (content : String) : FileTree × Option FileFault :=
  match tree.stops.lookup place with
  | some stored => (tree.put place (.file (String.ofList (content.toList.take stored))), some .brokenOff)
  | none => (tree.put place (.file content), none)

/-- Write a file in a directory that is there. -/
def writeAt (tree : FileTree) (path : Path) (content : String) : FileTree × Option FileFault :=
  match tree.locate path with
  | .error fault => (tree, some fault)
  | .ok place => if tree.isDirectoryAt place then (tree, some .isDirectory) else tree.store place content

/-- Write a file, making its directory when needed. -/
def write (tree : FileTree) (path : Path) (content : String) : FileTree × Option FileFault :=
  match tree.makeDirectories path.parent with
  | (tree, some fault) => (tree, some fault)
  | (tree, none) => tree.writeAt path content

/-- Remove a file. -/
def remove (tree : FileTree) (path : Path) : FileTree :=
  match tree.locate path with
  | .ok place => { tree with nodes := tree.nodes.filter fun (p, _) => p != place }
  | .error _ => tree

/-- The files below the home directory with their contents, by their paths seen from there, in order. -/
def files (tree : FileTree) : List (String × String) :=
  let found := tree.nodes.filterMap fun (place, node) =>
    match node with
    | .file content =>
      if tree.home.isPrefixOf place then
        some (Text.join "/" (place.drop tree.home.length), content)
      else none
    | .directory => none
  found.mergeSort fun a b => Text.le a.1 b.1

end FileTree

end EntityScaffold
