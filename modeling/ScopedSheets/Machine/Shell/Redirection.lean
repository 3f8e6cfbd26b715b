import ScopedSheets.Machine.Shell.Expansion

/-!
# Redirections

Letting the descriptors of a shell lead elsewhere, for one command or for good. Before a descriptor is
changed its old way is kept under a high number, from which it is brought back afterwards. A redirection that
fails is told to the user, and the command that it belongs to is not carried out.
-/

namespace ScopedSheets.Shell

open Act

/-- A redirection with its words expanded, except for a document. -/
inductive Redirected where
  | file (descriptor : Nat) (use : FileUse) (path : Text)
  | same (descriptor : Nat) (other : Option Nat)
  | document (descriptor : Nat) (number : Nat)

def openWording (use : FileUse) (path : Text) (fault : SystemFault) : Text :=
  let isMissing := fault = .noEntry || fault = .notDirectory
  let (verb, missing) := if use = .input then ("open", "No such file")
    else ("create", "Directory nonexistent")
  "cannot ".toList ++ verb.toList ++ ' ' :: path ++ ": ".toList
    ++ if isMissing then missing.toList else fault.description

def openMode (keepsFiles : Bool) : FileUse → OpenMode
  | .input => .read
  | .output => if keepsFiles then .create else .write
  | .overwrite => .write
  | .append => .append

def firstKept : Nat := 10

def openText (t : Text) : Act Nat := do
  let (reading, writing) ← (Work.act fun pid m => m.addPipe pid : Work _)
  Work.say writing t
  (Work.act fun pid m => ((), m.close pid writing) : Work Unit)
  return reading

def openFile (use : FileUse) (path : Text) : Act Nat := do
  let keepsFiles := (← get).has .noclobber
  let isSpecial ← (Work.look fun pid m =>
    match m.node? pid path with
    | .ok (.file ..) | .error _ => false
    | .ok _ => true : Work Bool)
  let mode := openMode (keepsFiles && !isSpecial) use
  match ← (Work.attempt fun pid m => m.openPath pid path mode : Work _) with
  | .ok descriptor => return descriptor
  | .error fault =>
    let creates := !(keepsFiles && isSpecial && use = .output)
    fail (openWording (if creates then use else .input) path fault)

def closeDescriptor (descriptor : Nat) : Act Unit :=
  (Work.act fun pid m => ((), m.close pid descriptor) : Work Unit)

def noteKept (descriptor : Nat) (kept : Option Nat) : Act Unit :=
  modify fun s => { s with redirected := s.redirected.modifyHead ((descriptor, kept) :: ·) }

def keepDescriptor (descriptor : Nat) : Act Unit := do
  let kept ← (Work.act fun pid m =>
    match m.duplicateFrom pid descriptor firstKept with
    | some (n, m) => (some n, m.close pid descriptor)
    | none => (none, m) : Work (Option Nat))
  noteKept descriptor kept

def duplicate (descriptor other : Nat) : Act Unit := do
  let done ← (Work.act fun pid m =>
    match m.duplicateTo pid other descriptor with
    | some m => (true, m)
    | none => (false, m) : Work Bool)
  if !done then fail (Text.ofNat other ++ ": Bad file descriptor".toList)

def isKept (descriptor : Nat) : Act Bool :=
  return ((← get).redirected.headD []).any (·.1 = descriptor)

def redirectTo (keeps : Bool) (descriptor opened : Nat) : Act Unit := do
  if descriptor = opened then
    if keeps && !(← isKept descriptor) then noteKept descriptor none
  else
    if keeps && !(← isKept descriptor) then keepDescriptor descriptor
    duplicate descriptor opened
    closeDescriptor opened

/-- What a shell keeps at work of redirections: their frame is taken away, and what has been kept is brought
back unless it is dropped. -/
def unwindRedirections (drops : Bool) : Act Unit := do
  let frames := (← get).redirected
  modify ({ · with redirected := frames.tail })
  (frames.headD []).forM fun (descriptor, kept) =>
    (Work.act fun pid m =>
      match kept with
      | none => ((), if drops then m else m.close pid descriptor)
      | some n =>
        let m := if drops then m else (m.duplicateTo pid n descriptor).getD m
        ((), m.close pid n) : Work Unit)

section

variable (output : Option Script → Act Text)

def expandRedirection : Redirection → Act Redirected
  | .file descriptor use path => return .file descriptor use (← expandText output path)
  | .same descriptor other => return .same descriptor other
  | .document descriptor number => return .document descriptor number

/-- Carries out a redirection. `keeps` tells that it is undone afterwards. -/
def redirect (keeps : Bool) : Redirected → Act Unit
  | .file descriptor use path => do redirectTo keeps descriptor (← openFile use path)
  | .document descriptor number => do
    let w := ((← get).documents.lookup number).getD []
    redirectTo keeps descriptor (← openText (← expandDocument output w))
  | .same descriptor other => do
    if other ≠ some descriptor then
      if keeps && !(← isKept descriptor) then keepDescriptor descriptor
      match other with
      | some other => duplicate descriptor other
      | none => closeDescriptor descriptor

/-- Carries out redirections for a while, and something else in the meantime, which is told whether they have
succeeded. `drops` tells whether they stay. -/
def redirecting {α : Type} (rs : List Redirected) (drops : Bool) (body : (done : Bool) → Act α) :
    Act α := do
  if rs.isEmpty then body true
  else
    modify fun s => { s with redirected := [] :: s.redirected }
    let outcome ← attempt do
      match ← attempt (rs.forM (redirect output true)) with
      | .ok () => body true
      | .error .mistake => body false
      | .error halt => throw halt
    unwindRedirections (drops && outcome.isOk)
    conclude outcome

end

end ScopedSheets.Shell
