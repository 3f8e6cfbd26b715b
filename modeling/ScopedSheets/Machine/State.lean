import ScopedSheets.Host.Disk
import ScopedSheets.Machine.Octets
import ScopedSheets.Machine.Signal

/-!
# The machine

What running processes share: the disk, the clock, the open files, the pipes, and a record of each process.
A process reaches an open file through a descriptor, which is a number of its own; several descriptors, of
several processes, may lead to the same open file and then share its offset. An open file is gone when no
descriptor leads to it. What a process does to the machine happens at once or, where it has to wait, not yet.
-/

namespace ScopedSheets

inductive Target where
  | stdout
  | stderr
  | pipe (number : Nat)
  | file (place : Place)
  | directory (place : Place)
  | device (device : Device)
deriving DecidableEq

structure OpenFile where
  target : Target
  readable : Bool := false
  writable : Bool := false
  appends : Bool := false
  offset : Nat := 0

structure Descriptor where
  file : Nat
  /-- Whether a program that takes the place of the process loses it. -/
  isPrivate : Bool := false

inductive OpenMode where
  | read
  | write
  | append
  /-- For writing, and only if it does not exist. -/
  | create
deriving DecidableEq

abbrev Pid := Nat

inductive Disposition where
  | ignore
  | caught
deriving DecidableEq

inductive ProcessEnd where
  | exited (status : Nat)
  | killed (signal : Signal)
deriving DecidableEq, Repr

structure Task where
  parent : Pid
  directory : Place
  descriptors : List (Nat × Descriptor)
  dispositions : List (Signal × Disposition) := []
  pending : List Signal := []
  mask : Nat := 0o022
  wake : Option Nat := none
  /-- The signal that ends the process as soon as it is its turn. -/
  doom : Option Signal := none
  ending : Option ProcessEnd := none

/-- What running processes share. The clock counts microseconds. -/
structure Machine where
  disk : Disk
  clock : Nat := 1000000
  tasks : List (Pid × Task) := []
  files : List (Nat × OpenFile) := []
  pipes : List (Nat × Bytes) := []
  nextFile : Nat := 0
  nextPid : Pid := 1000
  stdout : List Bytes := []
  stderr : List Bytes := []

namespace Machine

def task? (m : Machine) (pid : Pid) : Option Task := m.tasks.lookup pid

def modifyTask (m : Machine) (pid : Pid) (f : Task → Task) : Machine :=
  { m with tasks := m.tasks.map fun (p, t) => if p = pid then (p, f t) else (p, t) }

def isAlive (m : Machine) (pid : Pid) : Bool := (m.task? pid).any (·.ending.isNone)

def directory (m : Machine) (pid : Pid) : Place := ((m.task? pid).map Task.directory).getD []

def descriptor? (m : Machine) (pid : Pid) (number : Nat) : Option Descriptor := do
  (← m.task? pid).descriptors.lookup number

def openFile? (m : Machine) (pid : Pid) (number : Nat) : Option OpenFile := do
  m.files.lookup (← m.descriptor? pid number).file

def modifyFile (m : Machine) (number : Nat) (f : OpenFile → OpenFile) : Machine :=
  { m with files := m.files.map fun (n, o) => if n = number then (n, f o) else (n, o) }

def release (m : Machine) (file : Nat) : Machine :=
  if m.tasks.any fun (_, t) => t.descriptors.any fun (_, d) => d.file = file then m
  else
    let files := m.files.filter (·.1 ≠ file)
    let isUsed := fun number => files.any fun (_, o) => o.target = .pipe number
    match m.files.lookup file with
    | some { target := .pipe number, .. } =>
      { m with files, pipes := if isUsed number then m.pipes else m.pipes.filter (·.1 ≠ number) }
    | _ => { m with files }

def close (m : Machine) (pid : Pid) (number : Nat) : Machine :=
  match m.descriptor? pid number with
  | none => m
  | some d =>
    (m.modifyTask pid fun t =>
      { t with descriptors := t.descriptors.filter (·.1 ≠ number) }).release d.file

def setDescriptor (m : Machine) (pid : Pid) (number : Nat) (d : Descriptor) : Machine :=
  let m' := m.modifyTask pid fun t =>
    { t with descriptors := (number, d) :: t.descriptors.filter fun (n, _) => n ≠ number }
  match m.descriptor? pid number with
  | some old => m'.release old.file
  | none => m'

def freeDescriptor (m : Machine) (pid : Pid) (low : Nat) : Nat :=
  let used := ((m.task? pid).map Task.descriptors).getD []
  (used.map Prod.fst).mergeSort.foldl (fun n number => if number = n then n + 1 else n) low

def addFile (m : Machine) (pid : Pid) (file : OpenFile) : Nat × Machine :=
  let number := m.freeDescriptor pid 0
  let m := { m with files := (m.nextFile, file) :: m.files, nextFile := m.nextFile + 1 }
  (number, m.setDescriptor pid number ⟨m.nextFile - 1, false⟩)

def duplicateFrom (m : Machine) (pid : Pid) (number low : Nat) : Option (Nat × Machine) := do
  let d ← m.descriptor? pid number
  let free := m.freeDescriptor pid low
  return (free, m.setDescriptor pid free { d with isPrivate := true })

def duplicateTo (m : Machine) (pid : Pid) (number target : Nat) : Option Machine := do
  let d ← m.descriptor? pid number
  return m.setDescriptor pid target { d with isPrivate := false }

def addPipe (m : Machine) (pid : Pid) : (Nat × Nat) × Machine :=
  let number := m.nextFile
  let m := { m with pipes := (number, []) :: m.pipes, nextFile := number + 1 }
  let (reading, m) := m.addFile pid { target := .pipe number, readable := true }
  let (writing, m) := m.addFile pid { target := .pipe number, writable := true }
  ((reading, writing), m)

/-- The place that a written path leads to for a process. Where descriptors are, it goes on to the file or the
directory that the descriptor leads to. -/
def locate (m : Machine) (pid : Pid) (path : Text) : Except SystemFault Place := do
  let place ← m.disk.locate (m.directory pid) (Octets.toText path)
  match m.disk.node? place with
  | some (.descriptor number) =>
    match (m.openFile? pid number).map OpenFile.target with
    | none => throw .noEntry
    | some (.file place) | some (.directory place) => return place
    | some _ => return place
  | _ => return place

def nodeOf (m : Machine) : Target → Node
  | .stdout | .stderr | .pipe _ => .pipe
  | .file place | .directory place => (m.disk.node? place).getD (.file [] false)
  | .device device => .device device

def node? (m : Machine) (pid : Pid) (path : Text) : Except SystemFault Node := do
  match m.disk.node? (← m.locate pid path) with
  | some (.descriptor number) =>
    match m.openFile? pid number with
    | some file => return m.nodeOf file.target
    | none => throw .noEntry
  | some node => return node
  | none => throw .noEntry

def openPath (m : Machine) (pid : Pid) (path : Text) (mode : OpenMode) :
    Except SystemFault (Nat × Machine) := do
  let place ← m.locate pid path
  let file : OpenFile :=
    { target := .file place, readable := mode = .read, writable := mode ≠ .read, appends := mode = .append }
  match m.disk.node? place, mode with
  | some (.descriptor number), _ =>
    match m.openFile? pid number with
    | none => throw .noEntry
    | some there => return m.addFile pid { file with target := there.target }
  | some (.device .terminal), _ | some .pipe, _ => throw .noDevice
  | some (.device device), _ => return m.addFile pid { file with target := .device device }
  | some .directory, .read => return m.addFile pid { file with target := .directory place }
  | some .directory, _ => throw .isDirectory
  | some (.file ..), .create => throw .alreadyExists
  | none, .read => throw .noEntry
  | some (.file ..), .write | none, _ =>
    let disk ← m.disk.writeAt place []
    return { m with disk }.addFile pid file
  | some (.file ..), _ => return m.addFile pid file

def entries (m : Machine) (pid : Pid) (path : Text) : Except SystemFault (List Text) := do
  let place ← m.locate pid path
  match m.disk.node? place with
  | none => throw .noEntry
  | some .directory =>
    return Text.sort ((m.disk.below place false).filterMap fun (rest, _) => rest.head?.map Octets.ofText)
  | some _ => throw .notDirectory

def changeDirectory (m : Machine) (pid : Pid) (path : Text) : Except SystemFault Machine := do
  let place ← m.locate pid path
  match m.disk.node? place with
  | none => throw .noEntry
  | some .directory => return m.modifyTask pid ({ · with directory := place })
  | some _ => throw .notDirectory

inductive Amount where
  | upTo (count : Nat)
  | line

def Amount.take (amount : Amount) (bytes : Bytes) : Bytes × Bytes :=
  match amount with
  | upTo count => (bytes.take count, bytes.drop count)
  | line =>
    let row := bytes.takeWhile (· != 10)
    match bytes.drop row.length with
    | feed :: rest => (row ++ [feed], rest)
    | [] => (row, [])

def pipeSize : Nat := 65536

def hasEnd (m : Machine) (pipe : Nat) (p : OpenFile → Bool) : Bool :=
  m.files.any fun (_, o) => o.target = .pipe pipe && p o

def readDevice : Device → Amount → Option Bytes
  | .endless, .upTo count | .full, .upTo count => some (List.replicate count 0)
  | .endless, .line | .full, .line => none
  | .null, _ | .terminal, _ => some []

/-- Reads from a descriptor; none while there is nothing and there may be more. At the end there are no
bytes. -/
def read (m : Machine) (pid : Pid) (number : Nat) (amount : Amount) :
    Option (Except SystemFault Bytes × Machine) :=
  match m.descriptor? pid number, m.openFile? pid number with
  | some d, some o =>
    if !o.readable then some (.error .badDescriptor, m)
    else
      let fromContent := fun content : Bytes =>
        let (taken, _) := amount.take (content.drop o.offset)
        some (.ok taken, m.modifyFile d.file ({ · with offset := o.offset + taken.length }))
      match o.target with
      | .file place => fromContent (((m.disk.readAt place).toOption).getD [])
      | .directory _ => some (.error .isDirectory, m)
      | .device device => (readDevice device amount).map fun bytes => (.ok bytes, m)
      | .stdout | .stderr => none
      | .pipe pipe =>
        let held := (m.pipes.lookup pipe).getD []
        let isComplete := match amount with
          | .upTo _ => !held.isEmpty
          | .line => held.contains 10 || pipeSize ≤ held.length
        if isComplete || !m.hasEnd pipe OpenFile.writable then
          let (taken, rest) := amount.take held
          some (.ok taken, { m with
            pipes := m.pipes.map fun (n, b) => if n = pipe then (n, rest) else (n, b) })
        else none
  | _, _ => some (.error .badDescriptor, m)

def overwrite (content : Bytes) (offset : Nat) (bytes : Bytes) : Bytes :=
  if offset = content.length then content ++ bytes
  else (content.take offset ++ List.replicate (offset - content.length) 0) ++ bytes
    ++ content.drop (offset + bytes.length)

def write (m : Machine) (pid : Pid) (number : Nat) (bytes : Bytes) :
    Option (Except SystemFault Unit × Machine) :=
  match m.descriptor? pid number, m.openFile? pid number with
  | some d, some o =>
    if !o.writable then some (.error .badDescriptor, m)
    else match o.target with
      | .stdout => some (.ok (), { m with stdout := bytes :: m.stdout })
      | .stderr => some (.ok (), { m with stderr := bytes :: m.stderr })
      | .device .full => some (.error .noSpace, m)
      | .device _ | .directory _ => some (.ok (), m)
      | .file place =>
        let content := ((m.disk.readAt place).toOption).getD []
        let offset := if o.appends then content.length else o.offset
        match m.disk.writeAt place (overwrite content offset bytes) with
        | .ok disk =>
          some (.ok (), { m with disk }.modifyFile d.file ({ · with offset := offset + bytes.length }))
        | .error fault => some (.error fault, m)
      | .pipe pipe =>
        let held := (m.pipes.lookup pipe).getD []
        if !m.hasEnd pipe OpenFile.readable then some (.error .brokenPipe, m)
        else if pipeSize ≤ held.length then none
        else some (.ok (), { m with
          pipes := m.pipes.map fun (n, b) => if n = pipe then (n, b ++ bytes) else (n, b) })
  | _, _ => some (.error .badDescriptor, m)

def initPid : Pid := 1

def bury (m : Machine) : Machine :=
  { m with tasks := m.tasks.filter fun (_, t) => t.ending.isNone || t.parent ≠ initPid }

def pend (m : Machine) (pid : Pid) (signal : Signal) : Machine :=
  m.modifyTask pid fun t =>
    if t.pending.contains signal then t else { t with pending := t.pending ++ [signal] }

def finish (m : Machine) (pid : Pid) (ending : ProcessEnd) : Machine :=
  match m.task? pid with
  | none => m
  | some t =>
    let m := t.descriptors.foldl (fun m (number, _) => m.close pid number) m
    let adopt := fun t : Task => if t.parent = pid then { t with parent := initPid } else t
    let m := { m with tasks := m.tasks.map fun (p, t) => (p, adopt t) }
    let m := m.modifyTask pid ({ · with ending := some ending, wake := none })
    let tellsParent := (m.task? t.parent).any fun parent =>
      parent.dispositions.lookup Signal.child = some .caught
    (if tellsParent then m.pend t.parent Signal.child else m).bury

/-- Sends a signal to a process, which may have ended. A process that ends itself does so at once. -/
def signal (m : Machine) (sender pid : Pid) (signal : Signal) : Machine :=
  match (m.task? pid).filter (·.ending.isNone) with
  | none => m
  | some t =>
    match if signal.isCatchable then t.dispositions.lookup signal else none with
    | some .ignore => m
    | some .caught => m.pend pid signal
    | none =>
      if signal.isHarmless then m
      else if sender = pid then m.finish pid (.killed signal)
      else m.modifyTask pid fun t => { t with doom := t.doom.or (some signal) }

def fork (m : Machine) (pid : Pid) : Pid × Machine :=
  let child := m.nextPid
  let t := (m.task? pid).getD { parent := initPid, directory := [], descriptors := [] }
  (child, { m with
    nextPid := child + 1
    tasks := m.tasks ++ [(child, { t with parent := pid, pending := [], wake := none, doom := none })] })

/-- Waits for one of the children that have ended, oldest first; none while none has. Without children there is
nobody to wait for. -/
def wait (m : Machine) (pid : Pid) : Option (Option (Pid × ProcessEnd) × Machine) :=
  let children := m.tasks.filter fun (_, t) => t.parent = pid
  match children.findSome? fun (p, t) => t.ending.map fun e => (p, e) with
  | some (p, e) => some (some (p, e), { m with tasks := m.tasks.filter (·.1 ≠ p) })
  | none => if children.isEmpty then some (none, m) else none

def shed (m : Machine) (pid : Pid) : Machine :=
  match m.task? pid with
  | none => m
  | some t =>
    let m := t.descriptors.foldl (fun m (number, d) => if d.isPrivate then m.close pid number else m) m
    m.modifyTask pid fun t =>
      { t with dispositions := t.dispositions.filter (·.2 = .ignore), pending := [] }

def isHeard (m : Machine) : Bool := m.files.any fun (_, o) => o.target = .stdout || o.target = .stderr

/-- Stops collecting output. Who still writes there finds that nobody reads it. -/
def hangUp (m : Machine) : Machine :=
  let number := m.nextFile
  let close := fun o : OpenFile =>
    if o.target = .stdout || o.target = .stderr then { o with target := .pipe number } else o
  { m with
    files := m.files.map fun (n, o) => (n, close o)
    pipes := if m.isHeard then (number, []) :: m.pipes else m.pipes
    nextFile := number + 1
    stdout := []
    stderr := [] }

def reap (m : Machine) (pid : Pid) : Machine :=
  { m with tasks := m.tasks.filter fun (p, t) => p ≠ pid || t.ending.isNone }

end Machine

end ScopedSheets
