import ScopedSheets.Machine.Shell.Job

/-!
# Commands about processes and signals

Waiting for processes, showing them, sending signals, and saying what is done about signals that come.
-/

namespace ScopedSheets.Shell.Builtin

open Act Number

def lower (t : Text) : Text := t.map Char.toLower

def signalOfNumber? (word : Text) : Option Signal :=
  if word ≠ [] && word.all Char.isDigit && valueIn 10 word ≤ Signal.last then some (valueIn 10 word)
  else none

def signal? (word : Text) : Option Signal :=
  (signalOfNumber? word).or
    (Signal.names.findIdx? fun name => lower name.toList = lower word)

/-- The signal that can be sent and that a word names. By name that is not the one that stands for the end. -/
def sendable? (word : Text) : Option Signal :=
  (signalOfNumber? word).or ((signal? word).filter (· ≠ 0))

def send (signal : Signal) (word : Text) : Act Bool := do
  match count? word with
  | none => fail (illegalNumber word)
  | some target =>
    let isThere ← (Work.act fun pid m => ((m.task? target).isSome, m.signal pid target signal) : Work Bool)
    if !isThere then complain "No such process\n".toList
    return isThere

def kill : Builtin := fun words => do
  let (signal, targets) ← match words with
    | ('-' :: name) :: targets =>
      match sendable? name with
      | some signal => pure (signal, targets)
      | none => fail ("Illegal option -".toList ++ name.take 1)
    | _ => pure (Signal.terminate, words)
  if targets.isEmpty then fail "Usage: kill [-signum | -sigspec] pid...".toList
  let mut status := 0
  for target in targets do
    if !(← send signal target) then status := 1
  return status

def setTrap (signal : Signal) (action : Option Text) : Act Unit := do
  modify fun s =>
    let others := s.traps.filter (·.1 ≠ signal)
    { s with traps := match action with
      | some action => (signal, action) :: others
      | none => others }
  heed signal

def setTraps (action : Option Text) : List Text → Act Nat
  | [] => return 0
  | word :: words => do
    match signal? word with
    | none =>
      (Work.say 2 ("trap: ".toList ++ word ++ ": bad trap\n".toList) : Work Unit)
      return 1
    | some signal =>
      setTrap signal action
      setTraps action words

def trap : Builtin := fun words => do
  match ← operands words with
  | [] =>
    let traps := (← get).traps
    for (name, signal) in Signal.names.zip (List.range Signal.names.length) do
      if let some action := traps.lookup signal then
        print ("trap -- ".toList ++ quote action ++ ' ' :: name.toList ++ ['\n'])
    return 0
  | first :: rest =>
    if rest.isEmpty || (signalOfNumber? first).isSome then setTraps none (first :: rest)
    else setTraps (if first = ['-'] then none else some first) rest

def jobOfProcess? (pid : Pid) : Act (Option Job) :=
  return (← get).jobs.find? fun j => (j.processes.getLast?.map Prod.fst) = some pid

def waitFor : (status : Nat) → List Text → Act Nat
  | status, [] => return status
  | status, word :: words => do
    match count? word with
    | none => fail (illegalNumber word)
    | some pid =>
      match ← jobOfProcess? pid with
      | none => waitFor status words
      | some job =>
        awaitJob job.number maxEndings
        waitFor (((← jobNow? job.number).map Job.status).getD 0) words

def wait : Builtin := fun words => do
  match ← operands words with
  | [] =>
    awaitAll maxEndings
    return 0
  | words => waitFor 127 words

def stateText (j : Job) : Text :=
  match j.isDone, j.processes.getLast?.bind Prod.snd with
  | true, some (.exited 0) => "Done".toList
  | true, some (.exited status) => "Done(".toList ++ Text.ofNat status ++ [')']
  | true, some (.killed signal) => signal.description
  | _, _ => "Running".toList

def jobText (sign : Char) (j : Job) : Text :=
  '[' :: Text.ofNat j.number ++ "] ".toList ++ sign :: ' ' :: stateText j ++ ['\n']

def jobs : Builtin := fun words => do
  discard (operands words)
  noteEndings maxEndings
  let jobs := (← get).jobs
  for (j, sign) in jobs.zip ('+' :: '-' :: List.replicate jobs.length ' ') do
    print (jobText sign j)
  modify ({ · with jobs := jobs.filter (!·.isDone) })
  return 0

def resume : Builtin := fun _ => do
  if (← get).jobs.isEmpty then fail "No current job".toList
  else fail "job (null) not created under job control".toList

end ScopedSheets.Shell.Builtin
