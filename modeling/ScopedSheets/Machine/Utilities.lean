import ScopedSheets.Machine.Utility.Echo
import ScopedSheets.Machine.Utility.Files
import ScopedSheets.Machine.Utility.Listing
import ScopedSheets.Machine.Utility.Sleep

/-!
# Small programs

The programs that the host comes with beside its shell, by name. Each is given its command line and leaves its
exit status.
-/

namespace ScopedSheets.Utility

def all : List (String × (Invocation → Work Nat)) :=
  [("echo", echo), ("printf", printf), ("cat", cat), ("ls", ls), ("sleep", sleep),
   ("true", fun _ => return 0), ("false", fun _ => return 1)]

def find? (name : Text) : Option (Invocation → Work Nat) :=
  (all.find? fun (known, _) => known.toList = name).map Prod.snd

end ScopedSheets.Utility
