import Std.Data.ExtTreeMap
import ScopedSheets.Environment

/-!
# An in-memory environment

A store holds files by their paths in the order of code points. Directories are not stored: a path is a
directory when some file lies under it, or when it was declared as one. Trailing slashes make no
difference to a directory.

Programs are scripted. Each run takes the next action, which may change the store, and then the next
result, the last of which is repeated for ever. The store remembers all command lines and all removals.
-/

namespace ScopedSheets

structure Store where
  files : Std.ExtTreeMap Text Text
  directories : List Text

namespace Store

def dirBase (path : Text) : Text := Text.trimRight (· == '/') path

/-- A store with these files, the last one of a path counting, and these directories. -/
def ofLists (files : List (Text × Text)) (directories : List Text) : Store :=
  ⟨.ofList files, directories.map dirBase⟩

def below? (dir path : Text) : Option Text := (dirBase dir ++ ['/']).isPrefixOf? path

def isDirectory (s : Store) (path : Text) : Bool :=
  s.directories.contains (dirBase path) || s.files.keys.any fun p => (below? path p).isSome

def contains (s : Store) (path : Text) : Bool := s.files.contains path || s.isDirectory path

/-- Whether a listing of `root` shows the file at `path`: it lies under `root`, and right in it unless
the listing is recursive. -/
def lists (root : Text) (recursive : Bool) (path : Text) : Bool :=
  (below? root path).any fun rest => recursive || !rest.contains '/'

def list (s : Store) (root : Text) (recursive : Bool) : Except Fault (List Text) :=
  if s.isDirectory root then .ok (s.files.keys.filter (lists root recursive))
  else .error (.notListed root)

def read (s : Store) (path : Text) : Except Fault Text :=
  match s.files[path]? with
  | some content => .ok content
  | none => .error (.notStored path)

def write (s : Store) (path content : Text) : Store :=
  { s with files := s.files.insert path content }

def remove (s : Store) (path : Text) : Store := { s with files := s.files.erase path }

theorem read_write (s : Store) (path content : Text) :
    (s.write path content).read path = .ok content := by
  simp [read, write]

theorem read_write_of_ne (s : Store) {path other : Text} (content : Text) (h : path ≠ other) :
    (s.write path content).read other = s.read other := by
  simp [read, write, Std.ExtTreeMap.getElem?_insert, h]

theorem read_remove (s : Store) (path : Text) :
    (s.remove path).read path = .error (.notStored path) := by
  simp [read, remove]

theorem read_remove_of_ne (s : Store) {path other : Text} (h : path ≠ other) :
    (s.remove path).read other = s.read other := by
  simp [read, remove, Std.ExtTreeMap.getElem?_erase, h]

end Store

/-- What a scripted program does to the store. The file it works on is its first argument. -/
inductive Action where
  | nothing
  | write (content : Text)
  | wrap (before after : Text)
  | remove
  | writeAt (path content : Text)
deriving DecidableEq, Repr

def Action.needsFile : Action → Bool
  | nothing | writeAt .. => false
  | write .. | wrap .. | remove => true

structure Bench where
  store : Store
  actions : List Action := []
  /-- The results of the runs to come; the last is repeated. -/
  results : List ExecResult := []
  calls : List (List Text) := []
  removed : List Text := []

namespace Bench

def write (b : Bench) (path content : Text) : Bench :=
  { b with store := b.store.write path content }

def remove (b : Bench) (path : Text) : Bench :=
  { b with store := b.store.remove path, removed := b.removed ++ [path] }

def actOn (b : Bench) (path : Text) : Action → Change Bench Unit
  | .nothing => (.ok (), b)
  | .write content => (.ok (), b.write path content)
  | .wrap before after =>
    match b.store.read path with
    | .ok content => (.ok (), b.write path (before ++ content ++ after))
    | .error fault => (.error fault, b)
  | .remove => (.ok (), b.remove path)
  | .writeAt path content => (.ok (), b.write path content)

def act (b : Bench) (args : List Text) (action : Action) : Change Bench Unit :=
  match args[1]? with
  | some path => b.actOn path action
  | none => if action.needsFile then (.error .shortCommandLine, b) else b.actOn [] action

/-- The next result, and the results left: the last one stays, and without any a run succeeds
silently. -/
def nextResult : List ExecResult → ExecResult × List ExecResult
  | [] => ({}, [])
  | [r] => (r, [r])
  | r :: rest => (r, rest)

/-- Runs a program: the command line is remembered, the next action is performed, and the next result is
returned. An action that fails takes no result. -/
def run (b : Bench) (args : List Text) : Change Bench ExecResult :=
  let action := b.actions.headD .nothing
  let b := { b with calls := b.calls ++ [args], actions := b.actions.tail }
  match b.act args action with
  | (.error fault, b) => (.error fault, b)
  | (.ok (), b) =>
    let (result, results) := nextResult b.results
    (.ok result, { b with results })

end Bench

instance : Environment Bench where
  list b := b.store.list
  read b := b.store.read
  isDirectory b path := .ok (b.store.isDirectory path)
  contains b path := .ok (b.store.contains path)
  write b path content := (.ok (), b.write path content)
  remove b path := (.ok (), b.remove path)
  run b args _ := b.run args

end ScopedSheets
