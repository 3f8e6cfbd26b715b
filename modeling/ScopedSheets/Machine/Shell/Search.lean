import ScopedSheets.Machine.Shell.Act

/-!
# Looking for programs

Where the shell finds the program that a name without a slash stands for: the places named by a variable are
tried in their order, and the first regular file is taken. Where the shell starts a program it goes on to the
later ones when the system refuses it.
-/

namespace ScopedSheets.Shell

open Act

def candidates (searchPath name : Text) : List Text :=
  if name.contains '/' then [name]
  else (searchPath.splitOn ':').map fun directory =>
    if directory = [] then name else directory ++ '/' :: name

def isMissing (fault : SystemFault) : Bool := fault = .noEntry || fault = .notDirectory

def programWording (fault : SystemFault) : Text :=
  if isMissing fault then "not found".toList else fault.description

def programStatus (fault : SystemFault) : Nat :=
  if isMissing fault || fault = .longName || fault = .manyLinks then 127 else 126

def isFileAt (m : Machine) (pid : Pid) (path : Text) : Except SystemFault Bool :=
  (m.node? pid path).map fun
    | .file .. => true
    | _ => false

/-- The number of the first path with a regular file, counted from `index`; `fault` is what has been found out
before. -/
def firstFile (m : Machine) (pid : Pid) :
    (index : Nat) → (fault : SystemFault) → List Text → Except SystemFault Nat
  | _, fault, [] => .error fault
  | index, fault, path :: paths =>
    match isFileAt m pid path with
    | .ok true => .ok index
    | .ok false => firstFile m pid (index + 1) .denied paths
    | .error wrong => firstFile m pid (index + 1) (if isMissing wrong then fault else wrong) paths

def search (name : Text) : Act (Except SystemFault Nat) := do
  let paths := candidates (← get).searchPath name
  (Work.look fun pid m => firstFile m pid 0 .noEntry paths : Work _)

/-- Lets a program take the place of the shell, the first of some paths that can be executed. It comes back only
with the fault. A file of no known format is a script for the shell. -/
def launchFirst (args : List Text) (bindings : List (Text × Text)) :
    (fault : SystemFault) → List Text → Work SystemFault
  | fault, [] => return fault
  | fault, path :: paths => do
    let wrong ← match ← Work.execute path args bindings with
      | .badFormat =>
        let shell := "/bin/sh".toList
        Work.execute shell (shell :: path :: args.tail) bindings
      | wrong => pure wrong
    launchFirst args bindings (if isMissing wrong then fault else wrong) paths

def launch {α : Type} (index : Nat) (args : List Text) : Act α := do
  let s ← get
  let name := args.headD []
  let paths := (candidates s.searchPath name).drop index
  let fault ← (launchFirst args s.handedDown .noEntry paths : Work _)
  complain (name ++ ": ".toList ++ programWording fault)
  setStatus (programStatus fault)
  throw .done

end ScopedSheets.Shell
