import Stubgen.Files.Basic

/-!
# File trees

A tree holds everything below one directory, the root, which goes by an absolute
name of its own and is the directory that the program runs in.  Nothing else
exists.  Some files are tools: programs with recorded answers, which may keep a
log of how they were called.
-/

namespace Stubgen

structure Tool where
  answers : List (Text × Answer)
  executable : Bool := true
  /-- The file in the root that the tool adds its arguments to. -/
  log : Option Text := none
  deriving DecidableEq, Repr

inductive Entry
  | directory
  | file (contents : Bytes)
  | tool (t : Tool)
  deriving DecidableEq, Repr

abbrev Location := List Text

/-- All entries below a directory.  A later entry of a location hides an earlier
one. -/
structure FileTree where
  root : Text
  entries : List (Location × Entry) := []
  deriving DecidableEq, Repr

namespace Tool

/-- The answer to a command.  A class that is not recorded is not found. -/
def answer (t : Tool) (command : List Text) : Answer :=
  let name := command.getLast?.getD []
  match t.answers.lookup name with
  | some answer => answer
  | none =>
    ⟨[], Text.encode ("Error: class not found: ".toList ++ name ++ ['\n']),
      .exited 1⟩

/-- The line of a log for a command: its arguments, each with a bar behind
it. -/
def logLine (command : List Text) : Text :=
  (command.drop 1).flatMap (· ++ ['|']) ++ ['\n']

end Tool

namespace FileTree

def entry? (tree : FileTree) (at_ : Location) : Option Entry :=
  if at_.isEmpty then some .directory else tree.entries.lookup at_

def insert (tree : FileTree) (at_ : Location) (e : Entry) : FileTree :=
  { tree with
    entries := (at_, e) :: tree.entries.filter fun entry => entry.1 ≠ at_ }

/-- The part of a path below the root; `none` if the path leads elsewhere. -/
def below? (tree : FileTree) (path : Text) : Option Text :=
  if path = tree.root then some Path.here
  else
    match Text.afterLabel? (tree.root ++ ['/']) path with
    | some rest => some (Path.here ++ '/' :: rest)
    | none => if path.head? = some '/' then none else some path

/-- Walks from a location along components, each of which stands in a
directory. -/
def walk (tree : FileTree) (at_ : Location) :
    List Text → Except SystemError Location
  | [] => .ok at_
  | c :: rest =>
    match tree.entry? at_ with
    | none => .error .notFound
    | some .directory =>
      if c = Path.here then tree.walk at_ rest
      else if c = Path.up then
        if at_.isEmpty then .error .notFound else tree.walk at_.dropLast rest
      else tree.walk (at_ ++ [c]) rest
    | some _ => .error .notADirectory

/-- The location of a path.  Only the last component of the path may be
missing. -/
def locate (tree : FileTree) (path : Text) : Except SystemError Location :=
  if path.isEmpty then .error .notFound
  else if path.any (·.toNat = 0) then .error .nulInPath
  else
    match tree.below? path with
    | none => .error .notFound
    | some path =>
      tree.walk [] (Path.components path ++
        if Path.endsInSlash path then [Path.here] else [])

def find (tree : FileTree) (path : Text) : Except SystemError Entry := do
  let at_ ← tree.locate path
  match tree.entry? at_ with
  | some e => return e
  | none => .error .notFound

def kind? (tree : FileTree) (path : Text) : Option FileKind :=
  match tree.find path with
  | .ok .directory => some .directory
  | .ok _ => some .file
  | .error _ => none

def read (tree : FileTree) (path : Text) : Except SystemError Bytes := do
  match ← tree.find path with
  | .directory => .error .isADirectory
  | .file contents => return contents
  | .tool _ => return []

/-- The location of the file that is opened for writing at a path, and its
contents if it is there.  A path that ends in a slash is a directory, whatever
stands there. -/
def openFile (tree : FileTree) (path : Text) :
    Except SystemError (Location × Bytes) := do
  if Path.endsInSlash path then
    let _ ← tree.locate (Text.dropEndWhile (· = '/') path)
    .error .isADirectory
  else
    let at_ ← tree.locate path
    match tree.entry? at_ with
    | some .directory => .error .isADirectory
    | some (.file contents) => return (at_, contents)
    | some (.tool _) => return (at_, [])
    | none => return (at_, [])

def write (tree : FileTree) (path : Text) (append : Bool) (bytes : Bytes) :
    Except SystemError FileTree := do
  let (at_, contents) ← tree.openFile path
  return tree.insert at_ (.file (if append then contents ++ bytes else bytes))

/-- The tree after a tool has added a command to its log. -/
def logCommand (tree : FileTree) (t : Tool) (command : List Text) : FileTree :=
  match t.log with
  | none => tree
  | some log =>
    ((tree.write log true (Text.encode (Tool.logLine command))).toOption).getD
      tree

def run (tree : FileTree) (command : List Text) :
    Except SystemError (Answer × FileTree) := do
  if command.any fun word => word.any (·.toNat = 0) then .error .nulInCommand
  else
    match ← tree.find (command.head?.getD []) with
    | .tool t =>
      if t.executable then return (t.answer command, tree.logCommand t command)
      else .error .permissionDenied
    | _ => .error .permissionDenied

def contents? (tree : FileTree) (at_ : Location) : Option Bytes :=
  match tree.entry? at_ with
  | some (.file contents) => some contents
  | _ => none

def pathOf (at_ : Location) : Text := Text.joinWith ['/'] at_

/-- The files that are new since an earlier state of the tree or hold something
else. -/
def changedSince (before after : FileTree) : List (Text × Bytes) :=
  after.entries.filterMap fun (at_, _) =>
    match after.contents? at_ with
    | some contents =>
      if before.contents? at_ = some contents then none
      else some (pathOf at_, contents)
    | none => none

end FileTree

/-- A file tree as a system. -/
def Files.ofTree : Files (StateM FileTree) where
  kind? path := do return (← get).kind? path
  read path := do return (← get).read path
  write path append bytes := do
    match (← get).write path append bytes with
    | .ok tree => set tree; return .ok ()
    | .error e => return .error e
  run command := do
    match (← get).run command with
    | .ok (answer, tree) => set tree; return .ok answer
    | .error e => return .error e

end Stubgen
