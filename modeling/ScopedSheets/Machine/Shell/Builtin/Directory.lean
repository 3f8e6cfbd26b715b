import ScopedSheets.Machine.Shell.Search

/-!
# Commands about the directory

A shell remembers its directory by the path that led there. A path with double dots is followed in writing:
they take the name before them away, whatever it leads to.
-/

namespace ScopedSheets.Shell.Builtin

open Act

def foldNames (names : List Text) : List Text :=
  (names.foldl (fun before name =>
    if name = [] || name = ['.'] then before
    else if name = ['.', '.'] then before.tail
    else name :: before) []).reverse

def pathFrom (directory path : Text) : Text :=
  let whole := if path.head? = some '/' then path else directory ++ '/' :: path
  '/' :: ['/'].intercalate (foldNames (whole.splitOn '/'))

def realPath : Act Text :=
  (Work.look fun pid m => Octets.ofText ('/' :: ['/'].intercalate (m.directory pid)) : Work Text)

def setPath (path : Text) : Act Unit := do
  assign "OLDPWD".toList (← get).path true false
  modify ({ · with path })
  assign "PWD".toList path true false

def enter (physical : Bool) (path : Text) : Act Bool := do
  let s ← get
  let target := if physical then path else pathFrom s.path path
  match ← (Work.attempt fun pid m => (m.changeDirectory pid target).map fun m => ((), m) : Work _) with
  | .ok () =>
    let real ← realPath
    setPath (if physical then real else target)
    return true
  | .error _ => return false

def isDirectory (path : Text) : Act Bool :=
  (Work.look fun pid m => (m.node? pid path).toOption = some .directory : Work Bool)

def isAnchored (path : Text) : Bool :=
  path.head? = some '/' || [['.'], ['.', '.']].contains (path.takeWhile (· ≠ '/'))

def cd : Builtin := fun words => do
  let (options, rest) ← splitOptions "LP".toList words
  let physical := options.getLast? = some 'P'
  let s ← get
  let (target, isBack) := match rest with
    | [] => ((s.value? "HOME".toList).getD [], false)
    | ['-'] :: _ => ((s.value? "OLDPWD".toList).getD [], true)
    | path :: _ => (path, false)
  let target' := if target = [] then ['.'] else target
  let places := match s.value? "CDPATH".toList with
    | some places => if isAnchored target then [] else places.splitOn ':'
    | none => []
  let paths := places.map fun place =>
    (!place.isEmpty, if place = [] then target' else place ++ '/' :: target')
  let found ← paths.findM? fun (_, path) => isDirectory path
  let (isElsewhere, path) := found.getD (false, target')
  if ← enter physical path then
    if isBack || isElsewhere then print ((← get).path ++ ['\n'])
    return 0
  else fail ("can't cd to ".toList ++ target')

def pwd : Builtin := fun words => do
  let (options, _) ← splitOptions "LP".toList words
  let path ← if options.getLast? = some 'P' then realPath else pure (← get).path
  print (path ++ ['\n'])
  return 0

end ScopedSheets.Shell.Builtin
