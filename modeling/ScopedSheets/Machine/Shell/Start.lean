import ScopedSheets.Machine.Shell.Run

/-!
# How a shell starts

The command line of a shell: options, then a script in a word, in a file or from the input, then the
parameters. A shell starts with the variables that it is handed, with the directory that it is in, and with
the signals ignored that were ignored before.
-/

namespace ScopedSheets.Shell

open Act

def readStartOptions : (count : Nat) → (takesWord : Bool) → List Text → Act (Bool × List Text)
  | _, takesWord, ['-'] :: rest | _, takesWord, ['-', '-'] :: rest => return (takesWord, rest)
  | n + 1, takesWord, ('-' :: letters) :: rest => do
    let rest ← Builtin.turnLetters true rest (letters.filter (· ≠ 'c'))
    readStartOptions n (takesWord || letters.contains 'c') rest
  | n + 1, takesWord, ('+' :: letters) :: rest => do
    readStartOptions n takesWord (← Builtin.turnLetters false rest letters)
  | _, takesWord, words => return (takesWord, words)

def maxSteps : Nat := 1000000000

def ownVariables (parent : Pid) : List (Text × Text) :=
  [("PPID", Text.ofNat parent), ("IFS", " \t\n".toList), ("PS4", "+ ".toList),
   ("PATH", "/usr/local/sbin:/usr/local/bin:/usr/sbin:/usr/bin:/sbin:/bin".toList)].map
    fun (name, value) => (name.toList, value)

def neverInherited : List Text := ["IFS", "PPID"].map String.toList

def State.start (i : Invocation) (m : Machine) (pid : Pid) : State :=
  let task := m.task? pid
  let inherited := i.bindings.filter fun (name, _) => isName name && !neverInherited.contains name
  let own := (ownVariables ((task.map Task.parent).getD 0)).filter fun (name, _) =>
    !inherited.any (·.1 = name)
  { name := i.name
    bindings := inherited.map (fun (name, value) => (name, { value := some value, isExported := true }))
      ++ own.map fun (name, value) => (name, { value := some value })
    pid
    ignored := ((task.map Task.dispositions).getD []).filterMap fun (signal, d) =>
      if d = .ignore then some signal else none }

/-- Finds out the path of the directory. The one that has been handed down is kept if it leads there. -/
def findPath : Act Unit := do
  let handed := ((← get).value? "PWD".toList).getD []
  let path ← (Work.look fun pid m =>
    let place := m.directory pid
    if handed.head? = some '/' && (m.locate pid handed).toOption = some place then handed
    else Octets.ofText ('/' :: ['/'].intercalate place) : Work Text)
  modify fun s => { s.withVariable "PWD".toList (some { value := some path, isExported := true }) with path }

def runScript (descriptor : Nat) : Act Unit :=
  discard (runLines maxSteps {} .script 0 { rest := [], descriptor := some descriptor })

def begin (words : List Text) : Act Unit := do
  findPath
  match ← readStartOptions (words.length + 1) false words with
  | (true, []) => fail "-c requires an argument".toList
  | (true, script :: rest) =>
    if let name :: params := rest then modify ({ · with name, params })
    discard (evaluate maxSteps {} script)
  | (false, first :: rest) =>
    if (← get).has .stdin then
      modify ({ · with params := first :: rest })
      runScript 0
    else
      let descriptor ← openScript first
      modify ({ · with name := first, params := rest })
      runScript descriptor
  | (false, []) =>
    modify fun s => { s with settings := Setting.set s.settings .stdin true }
    runScript 0

def program (i : Invocation) : Work Nat := do
  let s ← Work.look fun pid m => State.start i m pid
  let shell : Act Nat := do finish maxSteps (← attempt (begin i.args.tail))
  let (outcome, s) ← shell.run.run s
  return outcome.toOption.getD (s.status % 256)

end ScopedSheets.Shell
