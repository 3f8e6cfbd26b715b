import ScopedSheets.Host.OperatingSystem
import ScopedSheets.Host.Path
import ScopedSheets.Text.Newline

/-!
# The files of a host

Text files on a disk, by paths that are relative to a working directory. Reading decodes UTF-8 and unifies
the line ends; writing encodes, changes nothing else, and makes the directories that are missing on the
way. Every fault names the path with the working directory in front. A path that holds the character zero is
no path for the system, and nothing has it.
-/

namespace ScopedSheets

/-- A system as a program sees it that was started at one place and takes relative paths from a working
directory. -/
structure Host (σ : Type) where
  system : σ
  home : Place
  workingDir : Text

namespace Host

variable {σ : Type} [OperatingSystem σ]

def disk (h : Host σ) : Disk := OperatingSystem.disk h.system

def withDisk (h : Host σ) (disk : Disk) : Host σ :=
  { h with system := OperatingSystem.withDisk h.system disk }

def resolve (h : Host σ) (path : Text) : Path := (Path.ofText h.workingDir).join (Path.ofText path)

def faultWith (path : Path) (fault : SystemFault) : Fault := .system fault path.text

def locate (h : Host σ) (path : Path) : Except Fault Place :=
  if path.text.contains '\x00' then .error .nullByte
  else (h.disk.locate h.home path.text).mapError (faultWith path)

/-- What a path leads to, or none where it leads nowhere. A path that is too long is a fault. -/
def node? (h : Host σ) (path : Path) : Except Fault (Option Node) :=
  match h.locate path with
  | .ok place => .ok (h.disk.node? place)
  | .error (.system .longName p) => .error (.system .longName p)
  | .error _ => .ok none

def isDirectory (h : Host σ) (path : Text) : Except Fault Bool :=
  (h.node? (h.resolve path)).map (· = some .directory)

def contains (h : Host σ) (path : Text) : Except Fault Bool :=
  (h.node? (h.resolve path)).map Option.isSome

def textOfBytes (content : Bytes) : Except Fault Text :=
  match Utf8.decode? content with
  | some t => .ok (Text.unifyNewlines t)
  | none => .error .notText

def readPath (h : Host σ) (path : Path) : Except Fault Text := do
  let place ← h.locate path
  textOfBytes (← (h.disk.readAt place).mapError (faultWith path))

def read (h : Host σ) (path : Text) : Except Fault Text := h.readPath (h.resolve path)

def list (h : Host σ) (root : Text) (recursive : Bool) : Except Fault (List Text) := do
  let base := h.resolve root
  if (← h.node? base) ≠ some .directory then throw (.notListed root)
  let place ← h.locate base
  let found := (h.disk.below place recursive).filterMap fun
    | (rest, .file ..) => some (Path.text ⟨base.slashes, base.parts ++ rest⟩)
    | _ => none
  return Text.sort found

/-- Makes the directory with a path. One that exists is no fault. -/
def makeDirectory (h : Host σ) (path : Path) : Except Fault (Host σ) := do
  let place ← h.locate path
  match h.disk.makeDirectoryAt place with
  | .ok disk => return h.withDisk disk
  | .error fault => if h.disk.isDirectoryAt place then return h else throw (faultWith path fault)

/-- Makes the directory with a path and those that it needs, `height` of them at most. Those made before
a fault stay. -/
def makeDirectories : (height : Nat) → Path → Host σ → Change (Host σ) Unit
  | 0, _, h => (.ok (), h)
  | height + 1, path, h =>
    match h.makeDirectory path with
    | .ok h => (.ok (), h)
    | .error (.system .noEntry _) =>
      match makeDirectories height path.parent h with
      | (.error fault, h) => (.error fault, h)
      | (.ok (), h) =>
        match h.makeDirectory path with
        | .ok h => (.ok (), h)
        | .error fault => (.error fault, h)
    | .error fault => (.error fault, h)

def writePath (h : Host σ) (path : Path) (content : Text) : Change (Host σ) Unit :=
  match makeDirectories (path.parts.length + 1) path.parent h with
  | (.error fault, h) => (.error fault, h)
  | (.ok (), h) =>
    match h.locate path with
    | .error fault => (.error fault, h)
    | .ok place =>
      match h.disk.writeAt place (Utf8.encode content) with
      | .ok disk => (.ok (), h.withDisk disk)
      | .error fault => (.error (faultWith path fault), h)

def write (h : Host σ) (path content : Text) : Change (Host σ) Unit := h.writePath (h.resolve path) content

/-- Removes a file; an absent one is no fault. -/
def remove (h : Host σ) (path : Text) : Change (Host σ) Unit :=
  let path := h.resolve path
  match (h.locate path).bind fun place => (h.disk.removeAt place).mapError (faultWith path) with
  | .ok disk => (.ok (), h.withDisk disk)
  | .error (.system .noEntry _) => (.ok (), h)
  | .error fault => (.error fault, h)

end Host

end ScopedSheets
