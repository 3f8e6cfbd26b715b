import ScopedSheets.Machine.Shell.Act

/-!
# Jobs of a shell

The processes that a shell starts and waits for. Whenever one of them ends, that is noted with the job it
belongs to; what a signal ended is told when somebody waits for that job.
-/

namespace ScopedSheets.Shell

open Act

namespace Job

def freeNumber (jobs : List Job) : Nat :=
  (List.range' 1 (jobs.length + 1)).find? (fun n => !jobs.any (·.number = n)) |>.getD 1

def withEnding (j : Job) (pid : Pid) (ending : ProcessEnd) : Job :=
  { j with processes := j.processes.map fun (p, e) => if p = pid then (p, some ending) else (p, e) }

end Job

def addJob (pids : List Pid) : Act Job := do
  let jobs := (← get).jobs
  let job : Job := { number := Job.freeNumber jobs, processes := pids.map fun p => (p, none) }
  modify ({ · with jobs := job :: jobs })
  return job

def jobNow? (number : Nat) : Act (Option Job) := return (← get).jobs.find? (·.number = number)

def dropJob (number : Nat) : Act Unit :=
  modify fun s => { s with jobs := s.jobs.filter (·.number ≠ number) }

def noteEnding (pid : Pid) (ending : ProcessEnd) : Act Unit :=
  modify fun s => { s with jobs := s.jobs.map (·.withEnding pid ending) }

def tellEnding (ending : ProcessEnd) : Act Unit := do
  match ending with
  | .killed signal =>
    if signal ≠ Signal.interrupt && signal ≠ Signal.pipe then
      Work.say 2 (signal.description ++ ['\n'])
  | .exited _ => pure ()

/-- Waits for a process to end, and tells whether there was one. `told` is the job whose endings the user is told
of. -/
def awaitChild (told : Option Nat) : Act Bool := do
  match ← (Work.await fun pid m => m.wait pid : Work _) with
  | none => return false
  | some (pid, ending) =>
    let jobs := (← get).jobs
    noteEnding pid ending
    if jobs.any fun j => told = some j.number && j.processes.any (·.1 = pid) then tellEnding ending
    return true

def noteEndings : (count : Nat) → Act Unit
  | 0 => return ()
  | n + 1 => do
    let ended ← (Work.act fun pid m => (m.wait pid).getD (none, m) : Work _)
    if let some (child, ending) := ended then
      noteEnding child ending
      noteEndings n

def maxEndings : Nat := 1000000000

def awaitJob (number : Nat) : (count : Nat) → Act Unit
  | 0 => return ()
  | n + 1 => do
    if !((← jobNow? number).all Job.isDone) then
      if ← awaitChild (some number) then awaitJob number n

def finishJob (job : Job) : Act Nat := do
  awaitJob job.number maxEndings
  let status := ((← jobNow? job.number).map Job.status).getD 0
  dropJob job.number
  return status

def awaitAll : (count : Nat) → Act Unit
  | 0 => return ()
  | n + 1 => do
    if !(← get).jobs.all Job.isDone then
      if ← awaitChild none then awaitAll n

end ScopedSheets.Shell
