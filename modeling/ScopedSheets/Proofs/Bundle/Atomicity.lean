import ScopedSheets.Proofs.Bundle.Run
import ScopedSheets.Store

/-!
# A run does all or nothing

A run works on an environment that keeps its files in a store. Only the minifier's temporary file and the
bundle itself are ever written, and the temporary file is gone in the end: a run that fails leaves all
files as they were, and a run that succeeds changes its output file at most. Nothing is assumed about the
programs of the environment but that the minifier keeps to its file.
-/

namespace ScopedSheets

open Run

/-- An environment that keeps its files in a store. Writing never fails, and writing and removing do to
the store what they should; programs may do anything. -/
class StoreBacked (σ : Type) extends Environment σ where
  store : σ → Store
  write_ok : ∀ env path content, (write env path content).1 = .ok ()
  store_write : ∀ env path content, store (write env path content).2 = (store env).write path content
  store_remove : ∀ env path, store (remove env path).2 = (store env).remove path

instance : StoreBacked Bench where
  toEnvironment := inferInstance
  store := Bench.store
  write_ok _ _ _ := rfl
  store_write _ _ _ := rfl
  store_remove _ _ := rfl

abbrev filesOf {σ : Type} [StoreBacked σ] (env : σ) : Std.ExtTreeMap Text Text :=
  (StoreBacked.store env).files

def Store.AgreesExceptAt (s s' : Store) (path : Text) : Prop :=
  ∀ path', path' ≠ path → s'.files[path']? = s.files[path']?

theorem Store.agreesExceptAt_write (s : Store) (path content : Text) :
    s.AgreesExceptAt (s.write path content) path := by
  intro path' hpath
  simp [write, Std.ExtTreeMap.getElem?_insert, hpath.symm]

theorem Store.agreesExceptAt_remove (s : Store) (path : Text) :
    s.AgreesExceptAt (s.remove path) path := by
  intro path' hpath
  simp [remove, Std.ExtTreeMap.getElem?_erase, hpath.symm]

theorem Store.files_remove_of_agreesExceptAt {s s' : Store} {path content : Text} (h : path ∉ s.files)
    (hagrees : (s.write path content).AgreesExceptAt s' path) : (s'.remove path).files = s.files := by
  apply Std.ExtTreeMap.ext_getElem?
  intro path'
  by_cases hpath : path' = path
  · subst hpath
    rw [remove, Std.ExtTreeMap.getElem?_erase_self, Std.ExtTreeMap.getElem?_eq_none h]
  · rw [agreesExceptAt_remove s' path path' hpath, hagrees path' hpath,
      agreesExceptAt_write s path content path' hpath]

section

variable {σ : Type}

theorem keepsEnv_scopeSources (sources : List Source) : (scopeSources sources : Run σ _).KeepsEnv := by
  induction sources with
  | nil => exact .pure []
  | cons source sources ih =>
    rw [scopeSources]
    cases scopeSheet source.text with
    | error e => exact .bind (.report _) fun _ => .fail _
    | ok part => exact .bind (.report _) fun _ => .bind (.report _) fun _ => .bind ih fun _ => .pure _

variable [Environment σ]

theorem keepsEnv_readSheets (paths : List Text) : (readSheets paths : Run σ _).KeepsEnv := by
  induction paths with
  | nil => exact .pure []
  | cons path paths ih =>
    refine .bind (.query _) fun text => ?_
    split
    · exact .bind (.report _) fun _ => ih
    · exact .bind ih fun _ => .pure _

theorem keepsEnv_collect (config : Config) : (collect config : Run σ _).KeepsEnv :=
  .bind (.query _) fun _ => keepsEnv_readSheets _

theorem keepsEnv_checkInput (config : Config) : (checkInput config : Run σ _).KeepsEnv := by
  unfold checkInput
  cases config.check with
  | error e => exact fun _ => rfl
  | ok _ =>
    refine .bind (.query _) fun present => ?_
    dsimp only
    split
    · exact fun _ => rfl
    · refine .bind (.query _) fun directory => ?_
      split
      · exact .fail _
      · exact .pure ()

end

section

variable {σ : Type} [StoreBacked σ]

/-- On this environment the minifier changes its temporary file at most, whatever is in it. -/
def MinifierKeepsToFile (token : Text) (config : Config) (env : σ) : Prop :=
  ∀ css,
    let path := temporaryPath config token
    let written := (Environment.write env path css).2
    (StoreBacked.store written).AgreesExceptAt
      (StoreBacked.store (Environment.run written (minifierArgs config path) config.minifyTimeout).2) path

theorem filesOf_minify {token css : Text} {config : Config} {env : σ} {s : RunState σ}
    (henv : s.env = env) (hfresh : temporaryPath config token ∉ filesOf env)
    (hkeeps : MinifierKeepsToFile token config env) :
    filesOf ((minify token css config).result s).2.env = filesOf env := by
  subst henv
  have hagrees := hkeeps css
  dsimp only at hagrees
  rw [StoreBacked.store_write] at hagrees
  unfold minify
  rw [result_bind, writeText, result_change, StoreBacked.write_ok]
  dsimp only [Except.mapError]
  rw [state_tryFinally, removeFile, result_change]
  dsimp only
  -- of what comes between writing and removing only the program changes the environment
  rw [KeepsEnv.env_bind, exec, result_change, filesOf, StoreBacked.store_remove]
  · exact Store.files_remove_of_agreesExceptAt hfresh hagrees
  · intro result
    split
    · exact .fail _
    · split
      · exact .fail _
      · exact .query _

end

def Action.inPlace : Action → Bool
  | writeAt .. => false
  | nothing | write .. | wrap .. | remove => true

theorem Bench.agreesExceptAt_actOn (b : Bench) (path : Text) {action : Action}
    (h : action.inPlace = true) : b.store.AgreesExceptAt (b.actOn path action).2.store path := by
  cases action with
  | nothing => exact fun _ _ => rfl
  | write content => exact b.store.agreesExceptAt_write path content
  | wrap before after =>
    rw [actOn]
    split
    · exact b.store.agreesExceptAt_write path _
    · exact fun _ _ => rfl
  | remove => exact b.store.agreesExceptAt_remove path
  | writeAt => nomatch h

theorem Bench.agreesExceptAt_run (b : Bench) {args : List Text} {path : Text}
    (hargs : args[1]? = some path) (h : ∀ action ∈ b.actions, action.inPlace = true) :
    b.store.AgreesExceptAt (b.run args).2.store path := by
  have haction : (b.actions.headD .nothing).inPlace = true := by
    cases hactions : b.actions with
    | nil => rfl
    | cons action actions => exact h action (hactions ▸ List.mem_cons_self)
  have hact := agreesExceptAt_actOn
    { b with calls := b.calls ++ [args], actions := b.actions.tail } path haction
  simp only [run, act, hargs]
  split
  · next heq =>
    rw [heq] at hact
    exact hact
  · next heq =>
    rw [heq] at hact
    exact hact

theorem Bench.minifierKeepsToFile (token : Text) (config : Config) {b : Bench}
    (h : ∀ action ∈ b.actions, action.inPlace = true) : MinifierKeepsToFile token config b :=
  fun css => agreesExceptAt_run (b.write (temporaryPath config token) css) rfl h

section

variable {σ : Type} [StoreBacked σ]

/-- What a run may do to the files. A failure leaves them as they were, and so does a bundle that is
printed or has no sheets; any other bundle is in its output file, and no other file has changed. -/
def AllOrNothing (config : Config) (files : Std.ExtTreeMap Text Text) :
    Except Failure BundleResult × RunState σ → Prop
  | (.error _, s) => filesOf s.env = files
  | (.ok result, s) =>
    if config.toStdout = true ∨ result.files = [] then
      filesOf s.env = files
    else
      ∃ path, config.outputFile = some path ∧ result.outputFile = some path ∧
        filesOf s.env = files.insert path result.css

theorem AllOrNothing.bind {α : Type} {config : Config} {files : Std.ExtTreeMap Text Text}
    {x : Run σ α} {f : α → Run σ BundleResult} {s : RunState σ}
    (hx : filesOf (x.result s).2.env = files)
    (hf : ∀ a s', x.result s = (.ok a, s') → filesOf s'.env = files →
      AllOrNothing config files ((f a).result s')) :
    AllOrNothing config files ((x >>= f).result s) := by
  -- a failure ends the run where the step has left the files
  rw [result_bind]
  rcases h : x.result s with ⟨e | a, s'⟩ <;> rw [h] at hx
  · exact hx
  · exact hf a s' h hx

theorem AllOrNothing.next {α : Type} {config : Config} {env : σ} {x : Run σ α}
    {f : α → Run σ BundleResult} {s : RunState σ} (hx : x.KeepsEnv) (henv : s.env = env)
    (hf : ∀ a s', x.result s = (.ok a, s') → s'.env = env →
      AllOrNothing config (filesOf env) ((f a).result s')) :
    AllOrNothing config (filesOf env) ((x >>= f).result s) := by
  have hs := (hx s).trans henv
  refine .bind (congrArg filesOf hs) fun a s' h _ => hf a s' h ?_
  rw [h] at hs
  exact hs

theorem valid_of_checkInput {config : Config} {s s' : RunState σ}
    (h : (checkInput config).result s = (.ok (), s')) : config.valid = true := by
  cases hvalid : config.valid with
  | true => rfl
  | false =>
    have hcheck : config.check = .error .noOutput := by rw [Config.check, hvalid]; rfl
    rw [checkInput, hcheck] at h
    nomatch congrArg Prod.fst h

theorem Config.exists_outputFile {config : Config} (hvalid : config.valid = true)
    (hprint : config.toStdout = false) : ∃ path, config.outputFile = some path := by
  have houtput : config.hasOutput = true := by rwa [valid, hprint, Bool.false_or] at hvalid
  obtain ⟨path, hpath, _⟩ := (Option.any_eq_true _ _).1 houtput
  exact ⟨path, hpath⟩

theorem allOrNothing_deliver {config : Config} {css message : Text} {paths : List Text} {env : σ}
    {s : RunState σ} (hvalid : config.valid = true) (hpaths : paths ≠ [])
    (hfiles : filesOf s.env = filesOf env) :
    AllOrNothing config (filesOf env) (Run.result (do
      if let some path := config.target then
        writeText path css
      log .info message
      return ⟨css, paths, config.target⟩) s) := by
  cases hprint : config.toStdout with
  | true =>
    have htarget : config.target = none := if_pos hprint
    rw [htarget]
    change if _ then _ else _
    rw [if_pos (.inl hprint)]
    exact hfiles
  | false =>
    obtain ⟨path, hpath⟩ := Config.exists_outputFile hvalid hprint
    have htarget : config.target = some path := by rw [Config.target, hprint]; exact hpath
    have hneither : ¬ (config.toStdout = true ∨ paths = []) := by simp [hprint, hpaths]
    rw [htarget]
    dsimp only
    rw [result_bind, writeText, result_change, StoreBacked.write_ok]
    change if _ then _ else _
    rw [if_neg hneither]
    refine ⟨path, hpath, rfl, ?_⟩
    change (StoreBacked.store (Environment.write s.env path css).2).files = _
    rw [StoreBacked.store_write, Store.write, ← hfiles]

/-- A run that fails leaves all files as they were, and a run that succeeds has written its bundle to the
output file and changed nothing else, or nothing at all when the bundle is printed or has no sheets. -/
theorem bundle_all_or_nothing (token : Text) (config : Config) (s : RunState σ)
    (hfresh : temporaryPath config token ∉ filesOf s.env)
    (hkeeps : MinifierKeepsToFile token config s.env) :
    AllOrNothing config (filesOf s.env) ((bundle token config).result s) := by
  refine .next (keepsEnv_checkInput config) rfl fun _ s₁ hcheck henv => ?_
  have hvalid := valid_of_checkInput hcheck
  refine .next (keepsEnv_collect config) henv fun sources s₂ _ henv => ?_
  refine .next (keepsEnv_scopeSources sources) henv fun parts s₃ _ henv => ?_
  by_cases hsources : sources = []
  · rw [if_pos hsources]
    refine .next (.report _) henv fun _ s₄ _ henv => ?_
    exact (if_pos (.inr rfl)).mpr (congrArg filesOf henv)
  · rw [if_neg hsources]
    have hpaths : sources.map Source.path ≠ [] := fun h => hsources (List.map_eq_nil_iff.1 h)
    dsimp only
    split
    · exact .bind (filesOf_minify henv hfresh hkeeps) fun css s₄ _ hfiles =>
        allOrNothing_deliver hvalid hpaths hfiles
    · exact .next (.pure _) henv fun css s₄ _ henv =>
        allOrNothing_deliver hvalid hpaths (congrArg filesOf henv)

end

theorem bundle_all_or_nothing_failed_minifier :
    let bench : Bench :=
      { store := .ofLists [("src/a.css".toList, "p".toList), ("out.css".toList, "q".toList)] []
        actions := [.write "r".toList]
        results := [{ exitCode := 1 }] }
    let config : Config :=
      { inputDir := "src".toList, outputFile := some "out.css".toList, minify := true }
    temporaryPath config "0".toList ∉ filesOf bench ∧ MinifierKeepsToFile "0".toList config bench ∧
    ((bundle "0".toList config).result { env := bench }).1.toOption = none ∧
    filesOf ((bundle "0".toList config).result { env := bench }).2.env = filesOf bench := by
  intro bench config
  have hfresh : temporaryPath config "0".toList ∉ filesOf bench := by decide +kernel
  have hkeeps : MinifierKeepsToFile "0".toList config bench :=
    Bench.minifierKeepsToFile _ _ (by decide)
  have hrun := bundle_all_or_nothing "0".toList config { env := bench } hfresh hkeeps
  have hfails : ((bundle "0".toList config).result { env := bench }).1.toOption = none := by
    decide +kernel
  refine ⟨hfresh, hkeeps, hfails, ?_⟩
  rcases h : (bundle "0".toList config).result { env := bench } with ⟨e | result, s⟩
  · rw [h] at hrun
    exact hrun
  · rw [h] at hfails
    nomatch hfails

end ScopedSheets
