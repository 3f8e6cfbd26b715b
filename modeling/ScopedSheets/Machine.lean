import ScopedSheets.Host.OperatingSystem
import ScopedSheets.Machine.Scheduler

/-!
# A machine as an operating system

Programs run on a machine beside those that are at work there already. A program is started with an empty input,
and what it writes is collected.
-/

namespace ScopedSheets

/-- A machine with the processes that are at work on it although nobody waits for them. -/
structure Station where
  machine : Machine
  running : List Running := []

namespace Station

def ofDisk (disk : Disk) : Station := { machine := { disk } }

def bindings : List (Text × Text) :=
  [("PATH", "/usr/local/bin:/usr/local/sbin:/usr/local/bin:/usr/sbin:/usr/bin:/sbin:/bin"),
   ("HOME", "/root")].map fun (name, value) => (name.toList, value.toList)

def searchPath : List Text :=
  ["/usr/local/bin", "/usr/local/sbin", "/usr/sbin", "/usr/bin", "/sbin", "/bin"].map String.toList

def hostPid : Pid := 999

def withProcess (m : Machine) (directory : Place) : Machine × Pid :=
  let pid := m.nextPid
  let task : Task := { parent := hostPid, directory, descriptors := [] }
  let m := { m with tasks := m.tasks ++ [(pid, task)], nextPid := pid + 1 }
  let (_, m) := m.addFile pid { target := .device .null, readable := true, writable := true }
  let (_, m) := m.addFile pid { target := .stdout, writable := true }
  let (_, m) := m.addFile pid { target := .stderr, writable := true }
  (m, pid)

def isMissing (fault : SystemFault) : Bool := fault = .noEntry || fault = .notDirectory

def startFirst (m : Machine) (pid : Pid) (args : List Text) :
    (fault : SystemFault) → List Text → Except SystemFault (Machine × Process)
  | fault, [] => .error fault
  | fault, path :: paths =>
    match Scheduler.start m pid path args bindings with
    | .ok started => .ok started
    | .error wrong => startFirst m pid args (if isMissing fault then wrong else fault) paths

def pathsOf (name : Text) : List Text :=
  if name.contains '/' then [name] else searchPath.map fun directory => directory ++ '/' :: name

def codeOf : ProcessEnd → Int
  | .exited status => status
  | .killed signal => -(signal : Int)

def collected (pieces : List Bytes) : Bytes := pieces.reverse.flatten

/-- How a run ends for the host. When the time is up, nothing is known that was written if by then nobody could
write any more. -/
def endOf (run : Scheduler.Run) : ProgramEnd :=
  let stdout := collected run.machine.stdout
  let stderr := collected run.machine.stderr
  match run.ending with
  | .ended ending => .ended (codeOf ending) stdout stderr
  | .timeUp true => .timeUp stdout stderr
  | .timeUp false => .timeUp [] []

/-- Runs a process for a number of milliseconds at most. -/
def run (s : Station) (m : Machine) (pid : Pid) (p : Process) (limit : Nat) : ProgramEnd × Station :=
  let run := Scheduler.run m ⟨pid, p, 0⟩ s.running (limit * 1000)
  let (machine, running) := Scheduler.goOn (run.machine.hangUp.reap pid) run.running
  (endOf run, { machine, running })

def start (s : Station) (directory : Place) (args : List Text) :
    Except SystemFault ((limit : Nat) → ProgramEnd × Station) := do
  let (m, pid) := withProcess s.machine directory
  let args := args.map Octets.ofText
  let (m, p) ← startFirst m pid args .noEntry (pathsOf (args.headD []))
  return s.run m pid p

end Station

instance : OperatingSystem Station where
  disk s := s.machine.disk
  withDisk s disk := { s with machine := { s.machine with disk } }
  start := Station.start

end ScopedSheets
