import ScopedSheets.Machine.Utilities
import ScopedSheets.Machine.Shell.Start

/-!
# Programs on a disk

What executing a file means. The file of a program that the host comes with stands for that program, and any
other file has to say in its first line which program interprets it. The words that a program is given have
a limited length.
-/

namespace ScopedSheets

namespace Program

def work? (name : Text) : Option (Invocation → Work Nat) :=
  if name = "sh".toList then some Shell.program else Utility.find? name

def names : List Text := "sh".toList :: Utility.all.map fun (name, _) => name.toList

def directories : List Place := [["bin"], ["usr", "bin"]].map (·.map String.toList)

def atPlace? (place : Place) : Option (Invocation → Work Nat) :=
  if directories.contains place.dropLast then work? (place.getLastD []) else none

def otherDirectories : List Place :=
  [["dev"], ["etc"], ["home"], ["root"], ["sbin"], ["tmp"], ["usr", "local", "bin"], ["usr", "sbin"]].map
    (·.map String.toList)

def devices : List (String × Device) :=
  [("null", .null), ("zero", .endless), ("urandom", .endless), ("full", .full), ("tty", .terminal)]

def namedDescriptors : List (String × Nat) := [("stdin", 0), ("stdout", 1), ("stderr", 2)]

def maxDescriptors : Nat := 64

def accounts : Bytes := Octets.toBytes "root:x:0:0:root:/root:/bin/sh\n".toList

def magic : Bytes := [127, 69, 76, 70]

/-- How many bytes of a script count for its first line. -/
def maxFirstLine : Nat := 255

def interpreter (content : Bytes) : Except SystemFault (Text × List Text) :=
  match ([35, 33] : Bytes).isPrefixOf? content with
  | none => .error .badFormat
  | some rest =>
    let isSpace := fun c : Char => c = ' ' || c = '\t'
    let start := Octets.ofBytes (rest.take (maxFirstLine - 2))
    let line := Text.trim isSpace (start.takeWhile fun c => c ≠ '\n' && c ≠ '\x00')
    let name := line.takeWhile (!isSpace ·)
    let option := (line.dropWhile (!isSpace ·)).dropWhile isSpace
    if name = [] then .error .badFormat else .ok (name, if option = [] then [] else [option])

def maxWord : Nat := 131071

def isTooLong (args : List Text) (bindings : List (Text × Text)) : Bool :=
  args.any (maxWord < ·.length) || bindings.any fun (name, value) => maxWord ≤ name.length + value.length

end Program

namespace Disk

def executable (d : Disk) (directory : Place) (path : Text) : Except SystemFault (Place × Bytes) := do
  let place ← d.locate directory (Octets.toText path)
  match d.node? place with
  | none => throw .noEntry
  | some (.file content true) => return (place, content)
  | some _ => throw .denied

def maxScripts : Nat := 6

/-- The work of the program that executing the file with a path runs, and its command line. Interpreters stand for
interpreters, `depth` of them at most. -/
def execute (d : Disk) (directory : Place) : (depth : Nat) → (path : Text) → List Text →
    Except SystemFault ((Invocation → Work Nat) × List Text)
  | 0, _, _ => throw .manyLinks
  | depth + 1, path, args => do
    let (place, content) ← d.executable directory path
    match Program.atPlace? place with
    | some work => return (work, args)
    | none =>
      let (name, option) ← Program.interpreter content
      execute d directory depth name (name :: option ++ path :: args.tail)

def withSystem (d : Disk) : Disk :=
  let d := Program.directories.foldl
    (fun d directory =>
      Program.names.foldl (fun d name => d.withFile (directory ++ [name]) Program.magic true) d) d
  let d := Program.otherDirectories.foldl withDirectory d
  let d := d.withFile ["etc".toList, "passwd".toList] Program.accounts false
  let inDevices := fun name : Text => ["dev".toList, name]
  let d := Program.devices.foldl (fun d (name, device) => d.put (inDevices name.toList) (.device device)) d
  let d := Program.namedDescriptors.foldl
    (fun d (name, number) => d.put (inDevices name.toList) (.descriptor number)) d
  (List.range Program.maxDescriptors).foldl
    (fun d n => d.put (inDevices "fd".toList ++ [Text.ofNat n]) (.descriptor n))
    (d.withDirectory (inDevices "fd".toList))

end Disk

end ScopedSheets
