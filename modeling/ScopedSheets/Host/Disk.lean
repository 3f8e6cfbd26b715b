import Std.Data.ExtTreeMap
import ScopedSheets.Environment
import ScopedSheets.Text.Utf8

/-!
# A disk

A disk holds directories and files of bytes, each at a place, which is the list of names that lead there
from the root. There are no links. A path is followed name by name: every name but the last has to lead
to a directory, and double dots lead back.
-/

namespace ScopedSheets

/-- Where something is on a disk: the names from the root down. -/
abbrev Place := List Text

inductive Device where
  /-- Empty, and takes everything. -/
  | null
  /-- Without an end, and takes everything. -/
  | endless
  /-- Without an end, and takes nothing. -/
  | full
  /-- The terminal of whoever asks for it. Programs have none. -/
  | terminal
deriving DecidableEq, Repr

inductive Node where
  | directory
  | file (content : Bytes) (executable : Bool)
  | device (device : Device)
  | pipe
  /-- Whatever the descriptor with a number leads to, of the process that asks. -/
  | descriptor (number : Nat)
deriving DecidableEq

structure Disk where
  nodes : Std.ExtTreeMap Place Node

namespace Disk

def empty : Disk := ⟨∅⟩

def node? (d : Disk) : Place → Option Node
  | [] => some .directory
  | place => d.nodes[place]?

def put (d : Disk) (place : Place) (node : Node) : Disk := ⟨d.nodes.insert place node⟩

def clear (d : Disk) (place : Place) : Disk := ⟨d.nodes.erase place⟩

def isDirectoryAt (d : Disk) (place : Place) : Bool := d.node? place = some .directory

def maxName : Nat := 255

def maxPath : Nat := 4095

/-- Follows names from a place. The last name need not lead to anything. -/
def follow (d : Disk) : Place → List Text → Except SystemFault Place
  | place, [] => .ok place
  | place, name :: names =>
    match d.node? place with
    | none => .error .noEntry
    | some .directory =>
      if name = [] || name = ".".toList then follow d place names
      else if name = "..".toList then follow d place.dropLast names
      else if maxName < (Utf8.encode name).length then .error .longName
      else follow d (place ++ [name]) names
    | some _ => .error .notDirectory

/-- Follows a written path from a directory. The empty path leads nowhere. -/
def locate (d : Disk) (start : Place) (path : Text) : Except SystemFault Place :=
  if path = [] then .error .noEntry
  else if maxPath < (Utf8.encode path).length then .error .longName
  else d.follow (if path.head? = some '/' then [] else start) (path.splitOn '/')

def find? (d : Disk) (start : Place) (path : Text) : Option Node :=
  match d.locate start path with
  | .ok place => d.node? place
  | .error _ => none

def readAt (d : Disk) (place : Place) : Except SystemFault Bytes :=
  match d.node? place with
  | none => .error .noEntry
  | some .directory => .error .isDirectory
  | some (.file content _) => .ok content
  | some (.device .terminal) => .error .noDevice
  | some _ => .ok []

/-- Gives the file at a place this content. A new file is not executable. -/
def writeAt (d : Disk) (place : Place) (content : Bytes) : Except SystemFault Disk :=
  match d.node? place with
  | none => .ok (d.put place (.file content false))
  | some .directory => .error .isDirectory
  | some (.file _ executable) => .ok (d.put place (.file content executable))
  | some (.device .full) => if content = [] then .ok d else .error .noSpace
  | some (.device .terminal) => .error .noDevice
  | some _ => .ok d

def removeAt (d : Disk) (place : Place) : Except SystemFault Disk :=
  match d.node? place with
  | none => .error .noEntry
  | some .directory => .error .isDirectory
  | some _ => .ok (d.clear place)

def makeDirectoryAt (d : Disk) (place : Place) : Except SystemFault Disk :=
  match d.node? place with
  | none => .ok (d.put place .directory)
  | some _ => .error .alreadyExists

/-- The names below a place, with what is there, in the order of code points. Only the names right below
it when `deep` does not hold. -/
def below (d : Disk) (place : Place) (deep : Bool) : List (Place × Node) :=
  d.nodes.toList.filterMap fun (p, node) =>
    match place.isPrefixOf? p with
    | none | some [] => none
    | some rest => if deep || rest.length = 1 then some (rest, node) else none

def filesBelow (d : Disk) (place : Place) : List (Place × Bytes) :=
  (d.below place true).filterMap fun
    | (rest, .file content _) => some (rest, content)
    | _ => none

def withDirectory (d : Disk) (place : Place) : Disk :=
  (List.range place.length).foldl (fun d n => d.put (place.take (n + 1)) .directory) d

def withFile (d : Disk) (place : Place) (content : Bytes) (executable : Bool) : Disk :=
  (d.withDirectory place.dropLast).put place (.file content executable)

end Disk

end ScopedSheets
