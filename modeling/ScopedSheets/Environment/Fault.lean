import ScopedSheets.Text.Quoted

/-!
# Faults of an environment

What can go wrong with files and programs, and the wording of each fault.
-/

namespace ScopedSheets

inductive SystemFault where
  | noEntry
  | noDevice
  | longArguments
  | badFormat
  | badDescriptor
  | denied
  | alreadyExists
  | notDirectory
  | isDirectory
  | noSpace
  | brokenPipe
  | longName
  | manyLinks
deriving DecidableEq, Repr

namespace SystemFault

def number : SystemFault → Nat
  | noEntry => 2
  | noDevice => 6
  | longArguments => 7
  | badFormat => 8
  | badDescriptor => 9
  | denied => 13
  | alreadyExists => 17
  | notDirectory => 20
  | isDirectory => 21
  | noSpace => 28
  | brokenPipe => 32
  | longName => 36
  | manyLinks => 40

def description : SystemFault → Text
  | noEntry => "No such file or directory".toList
  | noDevice => "No such device or address".toList
  | longArguments => "Argument list too long".toList
  | badFormat => "Exec format error".toList
  | badDescriptor => "Bad file descriptor".toList
  | denied => "Permission denied".toList
  | alreadyExists => "File exists".toList
  | notDirectory => "Not a directory".toList
  | isDirectory => "Is a directory".toList
  | noSpace => "No space left on device".toList
  | brokenPipe => "Broken pipe".toList
  | longName => "File name too long".toList
  | manyLinks => "Too many levels of symbolic links".toList

def message (f : SystemFault) (path : Text) : Text :=
  "[Errno ".toList ++ Text.ofNat f.number ++ "] ".toList ++ f.description ++ ": ".toList
    ++ Text.quoted path

end SystemFault

inductive TimeLimitProblem where
  /-- It is longer than the system waits. -/
  | tooLong
  /-- It is longer than the times that the system has. -/
  | noTime
  /-- It is too large to calculate with. -/
  | noNumber
deriving DecidableEq, Repr

def TimeLimitProblem.message : TimeLimitProblem → Text
  | tooLong => "timeout is too large".toList
  | noTime => "timestamp too large to convert to C _PyTime_t".toList
  | noNumber => "int too large to convert to float".toList

inductive Fault where
  | notListed (root : Text)
  | notStored (path : Text)
  | system (fault : SystemFault) (path : Text)
  /-- Bytes that were to be text are not UTF-8. -/
  | notText
  | nullByte
  | shortCommandLine
  | timeLimit (problem : TimeLimitProblem)
deriving DecidableEq, Repr

def Fault.message : Fault → Text
  | notListed root => "Not a directory: ".toList ++ root
  | notStored path => "Stub file not found: ".toList ++ path
  | system fault path => fault.message path
  | notText => "invalid UTF-8".toList
  | nullByte => "embedded null byte".toList
  | shortCommandLine => "list index out of range".toList
  | timeLimit problem => problem.message

end ScopedSheets
