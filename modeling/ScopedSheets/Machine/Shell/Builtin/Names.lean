import ScopedSheets.Machine.Shell.Grammar
import ScopedSheets.Machine.Shell.Search

/-!
# Commands about names

What the first word of a command stands for: a keyword, an alias, a function, one of the shell's own
commands or a program. The commands here say which of these a name is, and change aliases and what is
remembered about programs.
-/

namespace ScopedSheets.Shell.Builtin

open Act

def aliasText (name value : Text) : Text := name ++ '=' :: quote value ++ ['\n']

def noAlias (caller : String) (name : Text) : Act Unit :=
  (Work.say 2 (caller.toList ++ ": ".toList ++ name ++ " not found\n".toList) : Work Unit)

def setAlias (name value : Text) : Act Unit :=
  modify fun s =>
    if s.aliases.any (·.1 = name) then
      { s with aliases := s.aliases.map fun a => if a.1 = name then (name, value) else a }
    else { s with aliases := s.aliases ++ [(name, value)] }

def aliasParts? : Text → Option (Text × Text)
  | [] => none
  | c :: t => (Text.cutAt? '=' t).map fun (name, value) => (c :: name, value)

def defineAliases : Builtin := fun words => do
  if words.isEmpty then
    for (name, value) in (← get).aliases do
      print (aliasText name value)
    return 0
  let mut status := 0
  for word in words do
    match aliasParts? word with
    | some (name, value) => setAlias name value
    | none =>
      match (← get).aliases.lookup word with
      | some value => print (aliasText word value)
      | none =>
        noAlias "alias" word
        status := 1
  return status

def forgetAliases : Builtin := fun words => do
  let (options, names) ← splitOptions ['a'] words
  if !options.isEmpty then
    modify ({ · with aliases := [] })
    return 0
  let mut status := 0
  for name in names do
    if (← get).aliases.any (·.1 = name) then
      modify fun s => { s with aliases := s.aliases.filter (·.1 ≠ name) }
    else
      noAlias "unalias" name
      status := 1
  return status

/-- What the shell knows of its own commands: whether a name is one, and whether it is special. -/
abbrev Known := Text → Option Bool

def hash (known : Known) : Builtin := fun words => do
  let (_, names) ← splitOptions ['r'] words
  let mut status := 0
  for name in names do
    if (known name).isNone then
      if let .error fault ← search name then
        complain (name ++ ": ".toList ++ programWording fault)
        status := 1
  return status

inductive Meaning where
  | keyword
  | alias (value : Text)
  | function
  | builtin (isSpecial : Bool)
  | program (path : Text)
  | nothing

def meaning (known : Known) (name : Text) : Act Meaning := do
  let s ← get
  if (keyword? name).isSome then return .keyword
  else if let some value := s.aliases.lookup name then return .alias value
  else if (s.functions.lookup name).isSome then return .function
  else if let some isSpecial := known name then return .builtin isSpecial
  else
    let found := (← search name).toOption.bind fun index => (candidates s.searchPath name)[index]?
    return (found.map Meaning.program).getD .nothing

def describe (name : Text) : Meaning → Act Nat
  | .keyword => do
    print (name ++ " is a shell keyword\n".toList)
    return 0
  | .alias value => do
    print (name ++ " is an alias for ".toList ++ value ++ ['\n'])
    return 0
  | .function => do
    print (name ++ " is a shell function\n".toList)
    return 0
  | .builtin isSpecial => do
    let special := if isSpecial then "special ".toList else []
    print (name ++ " is a ".toList ++ special ++ "shell builtin\n".toList)
    return 0
  | .program path => do
    print (name ++ " is ".toList ++ path ++ ['\n'])
    return 0
  | .nothing => do
    print (name ++ ": not found\n".toList)
    return 127

def pointOut (name : Text) : Meaning → Act Nat
  | .alias value => do
    print ("alias ".toList ++ aliasText name value)
    return 0
  | .program path => do
    print (path ++ ['\n'])
    return 0
  | .nothing => return 127
  | _ => do
    print (name ++ ['\n'])
    return 0

def type (known : Known) : Builtin := fun words => do
  let statuses ← words.mapM fun word => do describe word (← meaning known word)
  return statuses.foldl max 0

def command (known : Known) : Builtin := fun words => do
  let (options, names) ← splitOptions "vV".toList words
  match names with
  | [] => return 0
  | name :: _ =>
    let meaning ← meaning known name
    if options.contains 'V' then describe name meaning else pointOut name meaning

end ScopedSheets.Shell.Builtin
