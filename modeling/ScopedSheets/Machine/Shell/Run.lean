import ScopedSheets.Machine.Shell.Call
import ScopedSheets.Machine.Shell.Redirection

/-!
# Running scripts

A shell runs the commands of a script one after the other. Commands that work side by side, and those whose
changes are not to be seen outside, run in copies of the shell. A command may be the last thing that the shell
does, and then a program takes its place. Every command takes a step of those that the shell is given; a
shell that has none left does nothing more for ever.
-/

namespace ScopedSheets.Shell

open Act

structure Occasion where
  /-- Whether its failure is looked at, so that it does not end the shell. -/
  tested : Bool := false
  /-- Whether the shell ends with it. -/
  exits : Bool := false

namespace Occasion

def inside (o : Occasion) : Occasion := { o with exits := false }

def inTest (_ : Occasion) : Occasion := { tested := true }

end Occasion

/-- Takes note of the end of a round, and tells whether the loop goes on. -/
def endRound : Act Bool := do
  match (← get).passing with
  | .nothing => return true
  | .script _ => return false
  | .loops n =>
    modify ({ · with passing := if n ≤ 1 then .nothing else .loops (n - 1) })
    return false
  | .rounds n =>
    modify ({ · with passing := if n ≤ 1 then .nothing else .rounds (n - 1) })
    return n ≤ 1

def inLoop {α : Type} (body : Act α) : Act α := do
  modify fun s => { s with loops := s.loops + 1 }
  let a ← body
  modify fun s => { s with loops := s.loops - 1 }
  return a

def isPassing : Act Bool := return (← get).passing ≠ .nothing

def quietSignals : List Signal := [Signal.interrupt, Signal.quit]

def State.copied (s : State) (background : Bool) : State :=
  { s with
    traps := s.traps.filter (·.2 = [])
    ignored := if background then quietSignals ++ s.ignored else s.ignored
    redirected := []
    scripts := []
    jobs := []
    sourceLine := s.mainLine
    output := [] }

def uncatch (background : Bool) : Act Unit := do
  let s ← get
  (Work.act fun pid m => ((), m.modifyTask pid fun t =>
    let kept := t.dispositions.filter fun (signal, d) =>
      d = .ignore && (s.ignored.contains signal || s.traps.lookup signal = some [])
    { t with dispositions := (if background then quietSignals.map (·, .ignore) else []) ++ kept }) :
    Work Unit)

def emptyInput : Act Unit :=
  (Work.act fun pid m =>
    let m := m.close pid 0
    ((), ((m.openPath pid "/dev/null".toList .read).map Prod.snd).toOption.getD m) : Work Unit)

def moveDescriptor (source target : Nat) : Act Unit :=
  (Work.act fun pid m => ((), ((m.duplicateTo pid source target).getD m).close pid source) : Work Unit)

def outputText (bytes : Bytes) : Text :=
  ((Octets.ofBytes (bytes.filter (· ≠ 0))).reverse.dropWhile (· == '\n')).reverse

def openScript (path : Text) : Act Nat := do
  match ← (Work.attempt fun pid m => m.openPath pid path .read : Work _) with
  | .error fault => fail (openWording .input path fault)
  | .ok descriptor =>
    let moved ← (Work.act fun pid m =>
      match m.duplicateFrom pid descriptor firstKept with
      | some (n, m) => (n, m.close pid descriptor)
      | none => (descriptor, m) : Work Nat)
    modify fun s => { s with scripts := moved :: s.scripts }
    return moved

def closeScript : Act Unit := do
  let scripts := (← get).scripts
  scripts.head?.forM closeDescriptor
  modify ({ · with scripts := scripts.tail })

def blockSize : Nat := 8192

def readMore (descriptor : Nat) (source : Source) : Act Source := do
  match ← (Work.read descriptor (.upTo blockSize) : Work _) with
  | .error _ | .ok [] => return { source with isEnded := true }
  | .ok bytes => return source.extended ((Octets.ofBytes bytes).filter (· ≠ '\x00'))

inductive LineOrigin where
  | text
  | part
  | script
deriving DecidableEq

/-- Reads a line of a script. One that may go on after the text so far is read again with more of it, until no more
comes. -/
def fetchLine : (blocks : Nat) → Source → Act (Source × Except Mistake (Line × Source))
  | 0, _ => (Work.hang : Work _)
  | n + 1, source => do
    let outcome := readLine.run source
    let isTouched := match outcome with
      | .ok (_, next) => next.isTouched
      | .error mistake => mistake.isTouched
    match if isTouched && !source.isEnded then source.descriptor else none with
    | some descriptor => fetchLine n (← readMore descriptor source)
    | none => return (source, outcome)

def scriptPath (word : Text) : Act Text := do
  if word.contains '/' then return word
  match ← search word with
  | .ok index => return (candidates (← get).searchPath word).getD index word
  | .error _ => fail (word ++ ": not found".toList)

mutual

def run : (steps : Nat) → Occasion → Script → Act Unit
  | 0, _, _ => (Work.hang : Work Unit)
  | n + 1, o, script => do
    (Work.step : Work Unit)
    let mut decides := false
    if !(← get).has .noexec then
      answer n
      decides ← carryOut n o script
    answer n
    let s ← get
    if decides && s.has .errexit && !o.tested && s.status ≠ 0 then throw .done
    if o.exits then throw .done

/-- Carries out a command, and tells whether its failure may end the shell. -/
def carryOut : (steps : Nat) → Occasion → Script → Act Bool
  | 0, _, _ => (Work.hang : Work Bool)
  | n + 1, o, script => do
    match script with
    | .call line assignments words redirections =>
      modify ({ · with line })
      call n o assignments words redirections
      return true
    | .pipeline commands =>
      let pids ← startPipeline n o none commands
      setStatus (← finishJob (← addJob pids))
      return true
    | .subshell line body redirections =>
      modify ({ · with line })
      let rs ← redirections.mapM (expandRedirection (outputOf n))
      let inside : Act Unit := do
        rs.forM (redirect (outputOf n) false)
        run n { o with exits := true } body
      -- the shell itself becomes the copy if it ends with it
      if o.exits && !(← get).hasTraps then
        modify fun s => { s.copied false with scripts := s.scripts }
        uncatch false
        inside
      else setStatus (← finishJob (← addJob [← startCopy n false inside]))
      return true
    | .background body =>
      let pid ← startCopy n true (run n { exits := true } body)
      modify ({ · with lastBackground := some pid })
      discard (addJob [pid])
      setStatus 0
      return true
    | .redirected line body redirections =>
      modify ({ · with line })
      let rs ← redirections.mapM (expandRedirection (outputOf n))
      redirecting (outputOf n) rs false fun done => do
        if done then run n o.inside body else setStatus 2
        return !done
    | .sequence first second =>
      run n o.inside first
      if !(← isPassing) then run n o second
      return false
    | .both left right =>
      run n o.inTest left
      if (← get).status = 0 && !(← isPassing) then run n o right
      return false
    | .either left right =>
      run n o.inTest left
      if (← get).status ≠ 0 && !(← isPassing) then run n o right
      return false
    | .invert body =>
      run n o.inTest body
      if !(← isPassing) then setStatus (if (← get).status = 0 then 1 else 0)
      return false
    | .choose condition yes no =>
      run n o.inTest condition
      if !(← isPassing) then
        if (← get).status = 0 then run n o yes
        else match no with
          | some no => run n o no
          | none => setStatus 0
      return false
    | .loop untilTrue condition body =>
      setStatus (← inLoop (repeatWhile n o untilTrue condition body 0))
      return false
    | .forEach line name words body =>
      modify ({ · with line })
      let texts ← words.mapM (expandFields (outputOf n))
      setStatus (← inLoop (repeatFor n o name body 0 texts.flatten))
      return false
    | .select line word branches =>
      modify ({ · with line })
      let t ← expandText (outputOf n) word
      choose n o t branches
      return false
    | .define name body =>
      modify fun s => { s with functions := (name, body) :: s.functions.filter (·.1 ≠ name) }
      setStatus 0
      return false

def repeatWhile : (steps : Nat) → Occasion → (untilTrue : Bool) → Script → Script → (status : Nat) → Act Nat
  | 0, _, _, _, _, _ => (Work.hang : Work Nat)
  | n + 1, o, untilTrue, condition, body, status => do
    run n o.inTest condition
    let holds := (← get).status = 0
    if !(← endRound) then return (← get).status
    else if holds = untilTrue then return status
    else
      run n o.inside body
      let status := (← get).status
      if ← endRound then repeatWhile n o untilTrue condition body status else return status

def repeatFor : (steps : Nat) → Occasion → (name : Text) → Script → (status : Nat) → List Text → Act Nat
  | 0, _, _, _, _, _ => (Work.hang : Work Nat)
  | _, _, _, _, status, [] => return status
  | n + 1, o, name, body, _, t :: rest => do
    setVariable name t
    run n o.inside body
    let status := (← get).status
    if ← endRound then repeatFor n o name body status rest else return status

def choose : (steps : Nat) → Occasion → Text → List (List Word × Option Script) → Act Unit
  | 0, _, _, _ => (Work.hang : Work Unit)
  | _, _, _, [] => setStatus 0
  | n + 1, o, t, (patterns, body) :: rest => do
    if ← fitsAny n t patterns then
      match body with
      | some body => run n o body
      | none => setStatus 0
    else choose n o t rest

def fitsAny : (steps : Nat) → Text → List Word → Act Bool
  | 0, _, _ => (Work.hang : Work Bool)
  | _, _, [] => return false
  | n + 1, t, w :: rest => do
    if (← expandPattern (outputOf n) w).fits t then return true else fitsAny n t rest

/-- Starts a copy of the shell that does something: its number. One that nobody waits for has no input. -/
def startCopy : (steps : Nat) → (background : Bool) → Act Unit → Act Pid
  | 0, _, _ => (Work.hang : Work Pid)
  | n + 1, background, body => do
    let s ← get
    let work : Act Nat := do
      uncatch background
      s.scripts.forM closeDescriptor
      if background then emptyInput
      finish n (← attempt body)
    (Work.fork do
      let (outcome, s) ← (work.run.run (s.copied background) : Work _)
      return outcome.toOption.getD s.status : Work Pid)

/-- Starts the commands of a pipeline: their numbers. `input` is the end of the pipe that the next one reads
from. -/
def startPipeline : (steps : Nat) → Occasion → (input : Option Nat) → List Script → Act (List Pid)
  | 0, _, _, _ => (Work.hang : Work (List Pid))
  | _, _, _, [] => return []
  | n + 1, o, input, command :: rest => do
    let pipe ← if rest.isEmpty then pure none
      else some <$> (Work.act fun pid m => m.addPipe pid : Work _)
    let pid ← startCopy n false do
      if let some (reading, _) := pipe then closeDescriptor reading
      if let some input := input then
        if 0 < input then moveDescriptor input 0
      if let some (_, writing) := pipe then
        if 1 < writing then moveDescriptor writing 1
      run n { o with exits := true } command
    if let some input := input then closeDescriptor input
    if let some (_, writing) := pipe then closeDescriptor writing
    return pid :: (← startPipeline n o (pipe.map Prod.fst) rest)

def outputOf : (steps : Nat) → Option Script → Act Text
  | 0, _ => (Work.hang : Work Text)
  | _, none => return []
  | n + 1, some script => do
    let (reading, writing) ← (Work.act fun pid m => m.addPipe pid : Work _)
    let pid ← startCopy n false do
      closeDescriptor reading
      if writing ≠ 1 then moveDescriptor writing 1
      run n { exits := true } script
    let job ← addJob [pid]
    closeDescriptor writing
    let (bytes, _) ← (Work.readAll reading 1000000000 : Work _)
    closeDescriptor reading
    let outputStatus ← finishJob job
    modify ({ · with outputStatus })
    return outputText bytes

def call : (steps : Nat) → Occasion → List Word → List Word → List Redirection → Act Unit
  | 0, _, _, _, _ => (Work.hang : Work Unit)
  | n + 1, o, assignments, words, redirections => do
    let output := outputOf n
    modify ({ · with outputStatus := 0 })
    let c ← expandCall output words
    let body : Act Unit := do
      let rs ← redirections.mapM (expandRedirection output)
      redirecting output rs c.isExec fun done => do
        if !done then
          setStatus 2
          if c.isSpecial = some true then throw .mistake
        else
          let exports := c.isExec && 1 < c.words.length
          let assigned ← assignAll output c.isTemporary exports assignments
          trace output (!rs.isEmpty) (assigned ++ c.all)
          perform n o c
    if c.isTemporary then inFrame body else body

def perform : (steps : Nat) → Occasion → Called → Act Unit
  | 0, _, _ => (Work.hang : Work Unit)
  | n + 1, o, c => do
    let s ← get
    match c.words with
    | [] =>
      noteEndings maxEndings
      setStatus s.outputStatus
    | name :: args =>
      match if c.skipsFunctions then none else s.functions.lookup name, c.own with
      | some body, _ => callFunction n o body args
      | none, some own =>
        match ← attempt (calledBy name (callOwn n o own.duty args)) with
        | .ok () => noteEndings maxEndings
        | .error .mistake => if c.isSpecial = some true then throw .mistake
        | .error halt => throw halt
      | none, none => callProgram n o c

def callOwn : (steps : Nat) → Occasion → Duty → List Text → Act Unit
  | 0, _, _, _ => (Work.hang : Work Unit)
  | n + 1, o, duty, args => do
    let status ← match duty with
      | .own command => command args
      | .eval =>
        if args.isEmpty then pure 0 else evaluate n o.inside ([' '].intercalate args)
      | .source =>
        match ← operands args with
        | [] => pure 0
        | word :: _ => source n (← scriptPath word)
      | .exec => if args.isEmpty then pure 0 else launch 0 args
    if ← flush then setStatus status
    else
      complain ((← get).caller ++ ": I/O error".toList)
      setStatus (status ||| 1)

def callFunction : (steps : Nat) → Occasion → Script → List Text → Act Unit
  | 0, _, _, _ => (Work.hang : Work Unit)
  | n + 1, o, body, params => do
    let s ← get
    modify ({ · with params, loops := 0 })
    let restore := fun now : State =>
      { now with params := s.params, loops := s.loops, passing := now.passing.atEnd }
    ensuring (modify restore) (run n o.inside body)

def callProgram : (steps : Nat) → Occasion → Called → Act Unit
  | 0, _, _ => (Work.hang : Work Unit)
  | _ + 1, o, c => do
    let s ← get
    let name := c.words.headD []
    match ← if name.contains '/' then pure (.ok 0) else search name with
    | .error fault =>
      complain (name ++ ": ".toList ++ programWording fault)
      setStatus 127
    | .ok index =>
      if o.exits && !s.hasTraps then launch index c.words
      else
        let start : Act Nat := launch index c.words
        let pid ← (Work.fork do return (← (start.run.run s : Work _)).2.status : Work Pid)
        setStatus (← finishJob (← addJob [pid]))

def evaluate : (steps : Nat) → Occasion → Text → Act Nat
  | 0, _, _ => (Work.hang : Work Nat)
  | n + 1, o, text => do
    let sourceLine := (← get).sourceLine
    ensuring (modify ({ · with sourceLine })) (runLines n o .text 0 { rest := text })

def source : (steps : Nat) → (path : Text) → Act Nat
  | 0, _ => (Work.hang : Work Nat)
  | n + 1, path => do
    let descriptor ← openScript path
    let sourceLine := (← get).sourceLine
    let restore : Act Unit := do
      modify ({ · with sourceLine })
      closeScript
    let status ← ensuring restore
      (calledBy path (runLines n {} .part 0 { rest := [], descriptor := some descriptor }))
    modify fun s => { s with passing := s.passing.atEnd }
    return status

/-- Runs the lines of a script: the status of the last command. Once a line has run there may be more of the
script. -/
def runLines : (steps : Nat) → Occasion → LineOrigin → (status : Nat) → Source → Act Nat
  | 0, _, _, _, _ => (Work.hang : Work Nat)
  | n + 1, o, origin, status, source => do
    let s ← get
    let (source, outcome) ← fetchLine n { source with
      aliases := s.aliases, nextDocument := s.nextDocument, documents := [], isTouched := false }
    let showBefore := fun rest : Text => do
      if origin ≠ .text && s.has .verbose then
        (Work.say 2 (source.rest.take (source.rest.length - rest.length)) : Work Unit)
    match outcome with
    | .error mistake =>
      showBefore []
      modify ({ · with line := mistake.line, sourceLine := mistake.line })
      fail mistake.wording
    | .ok (line, next) =>
      showBefore next.rest
      modify fun s => { s with
        documents := next.documents ++ s.documents
        nextDocument := next.nextDocument
        sourceLine := next.line
        mainLine := if origin = .script then next.line else s.mainLine }
      match line with
      | .stop => return status
      | .commands script =>
        let status ← match script with
          | some script => do
            run n o script
            pure (← get).status
          | none => do
            answer n
            pure status
        if (← isPassing) then return status
        else runLines n o origin status { next with isEnded := false }

def answer : (steps : Nat) → Act Unit
  | 0 => (Work.hang : Work Unit)
  | n + 1 => do
    let s ← get
    if s.traps.any (·.1 ≠ 0) then
      let pending ← (Work.act fun pid m =>
        let pending := ((m.task? pid).map Task.pending).getD []
        ((List.range (Signal.last + 1)).filter pending.contains,
          m.modifyTask pid ({ · with pending := [] })) : Work _)
      if !pending.isEmpty then
        let status := s.exitStatus.getD s.status
        modify ({ · with exitStatus := some status })
        answerEach n status pending
        modify ({ · with exitStatus := s.exitStatus })

def answerEach : (steps : Nat) → (status : Nat) → List Signal → Act Unit
  | 0, _, _ => (Work.hang : Work Unit)
  | _, _, [] => return ()
  | n + 1, status, signal :: rest => do
    if let some action := (← get).traps.lookup signal then
      discard (evaluate n {} action)
      if (← get).passing ≠ .script true then setStatus status
    answerEach n status rest

def finish : (steps : Nat) → Except Halt Unit → Act Nat
  | 0, _ => (Work.hang : Work Nat)
  | n + 1, outcome => do
    let s ← get
    let status := match outcome with
      | .error .exit => s.exitStatus.getD s.status
      | _ => s.status
    modify ({ · with status, exitStatus := some status, passing := .nothing, loops := 0 })
    if let some action := s.traps.lookup 0 then
      modify ({ · with traps := s.traps.filter (·.1 ≠ 0) })
      match ← attempt (evaluate n {} action) with
      | .ok _ | .error .exit => setStatus ((← get).exitStatus.getD status)
      | .error _ => pure ()
    discard flush
    return (← get).status % 256

end

end ScopedSheets.Shell
