import ScopedSheets.Cli
import ScopedSheets.Machine

/-!
# The program

The command line on the files of the system. All that the program knows of the system is put on a disk
beforehand: the files that its arguments name and, for a bundle, the files that its input lists, one
path a line. The commands work on that disk, and what they have changed is written back.
-/

namespace ScopedSheets.Main

def placeOf (home : Place) (path : Path) : Place :=
  (if path.isAbsolute then path.parts else home ++ path.parts).foldl
    (fun place part => if part = "..".toList then place.dropLast else place ++ [part]) []

def textOf (place : Place) : String := String.ofList ('/' :: ['/'].intercalate place)

/-- Puts a file of the system on a disk, if it is there. -/
def load (home : Place) (disk : Disk) (path : String) : IO Disk := do
  try
    let content ← IO.FS.readBinFile path
    return disk.withFile (placeOf home (.ofText path.toList)) content.toList true
  catch _ => return disk

def listedPaths : IO (List String) := do
  let input ← IO.FS.readBinFile "/dev/stdin"
  let lines := (Utf8.decodeLossy input.toList).splitOn '\n'
  return (lines.filter (· ≠ [])).map String.ofList

def changedFiles (before after : Disk) : List (Place × Bytes) :=
  (after.filesBelow []).filter fun (place, content) =>
    match before.node? place with
    | some (.file old _) => old ≠ content
    | _ => true

def removedFiles (before after : Disk) : List Place :=
  ((before.filesBelow []).map Prod.fst).filter fun place => (after.node? place).isNone

def save (before after : Disk) : IO Unit := do
  for (place, content) in changedFiles before after do
    IO.FS.createDirAll (textOf place.dropLast)
    IO.FS.writeBinFile (textOf place) ⟨content.toArray⟩
  for place in removedFiles before after do IO.FS.removeFile (textOf place)

end ScopedSheets.Main

open ScopedSheets in
def main (args : List String) : IO UInt32 := do
  let home := (Path.ofText ((← IO.getEnv "PWD").getD "/").toList).parts
  let listed ← if args.head? = some "bundle" then Main.listedPaths else pure []
  let disk ← (args ++ listed).foldlM (Main.load home) (Disk.empty.withSystem.withDirectory home)
  let token := Text.hexDigits 10 (← IO.rand 0 0xffffffffff)
  let host : Host Station := ⟨.ofDisk disk, home, '/' :: ['/'].intercalate home⟩
  let (report, host) := Cli.run token host (args.map String.toList)
  IO.print (String.ofList report.stdout)
  IO.eprint (String.ofList report.stderr)
  if let some fault := report.fault then IO.eprintln (String.ofList fault.message)
  Main.save disk host.disk
  return report.exitCode.toUInt32
