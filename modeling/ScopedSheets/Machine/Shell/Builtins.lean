import ScopedSheets.Machine.Shell.Builtin.Directory
import ScopedSheets.Machine.Shell.Builtin.Jobs
import ScopedSheets.Machine.Shell.Builtin.Limits
import ScopedSheets.Machine.Shell.Builtin.Names
import ScopedSheets.Machine.Shell.Builtin.Output
import ScopedSheets.Machine.Shell.Builtin.Variables
import ScopedSheets.Machine.Shell.Condition

/-!
# The shell's own commands

The commands that a shell does by itself, by name. A mistake of a special one ends the shell, and what is
assigned before it stays. Three more commands run scripts or programs and are only named here.
-/

namespace ScopedSheets.Shell

open Act Number

namespace Builtin

def leaveLoops (goesOn : Bool) : Builtin := fun words => do
  let n := (← countOf words).getD 1
  if n = 0 then fail (illegalNumber (words.headD []))
  let n := min n (← get).loops
  if n ≠ 0 then modify ({ · with passing := if goesOn then .rounds n else .loops n })
  return 0

def leave : Builtin := fun words => do
  let n ← countOf words
  modify ({ · with passing := .script n.isSome })
  return n.getD (← get).status

def exit : Builtin := fun words => do
  if let some n ← countOf words then modify ({ · with exitStatus := some n })
  throw .exit

def test : Builtin := fun words => return if ← Condition.holds words then 0 else 1

def bracket : Builtin := fun words => do
  if (words.getLastD []).head? = some ']' then test words.dropLast else fail "missing ]".toList

end Builtin

inductive Duty where
  | own (run : Builtin)
  | eval
  | source
  | exec

structure OwnCommand where
  duty : Duty
  isSpecial : Bool := false
  assigns : Bool := false

def commonCommands : List String :=
  ["[", "alias", "bg", "cd", "chdir", "command", "echo", "false", "fg", "hash", "jobs", "kill",
   "printf", "pwd", "read", "test", "true", "type", "umask", "unalias", "wait"]

def knownCommand : Builtin.Known := fun name =>
  if specialNames.contains (String.ofList name) then some true
  else if commonCommands.contains (String.ofList name) then some false
  else none

def duty? (name : String) : Option Duty :=
  match name with
  | "eval" => some .eval
  | "." => some .source
  | "exec" => some .exec
  | ":" | "true" => some (.own fun _ => return 0)
  | "false" => some (.own fun _ => return 1)
  | "break" => some (.own (Builtin.leaveLoops false))
  | "continue" => some (.own (Builtin.leaveLoops true))
  | "exit" => some (.own Builtin.exit)
  | "export" => some (.own (Builtin.markAll true false))
  | "readonly" => some (.own (Builtin.markAll false true))
  | "local" => some (.own Builtin.makeLocals)
  | "return" => some (.own Builtin.leave)
  | "set" => some (.own Builtin.set)
  | "shift" => some (.own Builtin.shift)
  | "times" => some (.own Builtin.times)
  | "trap" => some (.own Builtin.trap)
  | "unset" => some (.own Builtin.unset)
  | "[" => some (.own Builtin.bracket)
  | "test" => some (.own Builtin.test)
  | "alias" => some (.own Builtin.defineAliases)
  | "unalias" => some (.own Builtin.forgetAliases)
  | "bg" | "fg" => some (.own Builtin.resume)
  | "cd" | "chdir" => some (.own Builtin.cd)
  | "command" => some (.own (Builtin.command knownCommand))
  | "echo" => some (.own Builtin.echo)
  | "hash" => some (.own (Builtin.hash knownCommand))
  | "jobs" => some (.own Builtin.jobs)
  | "kill" => some (.own Builtin.kill)
  | "printf" => some (.own Builtin.printf)
  | "pwd" => some (.own Builtin.pwd)
  | "read" => some (.own Builtin.read)
  | "type" => some (.own (Builtin.type knownCommand))
  | "umask" => some (.own Builtin.umask)
  | "wait" => some (.own Builtin.wait)
  | _ => none

def ownCommand? (name : Text) : Option OwnCommand :=
  let name := String.ofList name
  (duty? name).map fun duty =>
    { duty
      isSpecial := specialNames.contains name
      assigns := ["export", "readonly", "local", "alias"].contains name }

end ScopedSheets.Shell
