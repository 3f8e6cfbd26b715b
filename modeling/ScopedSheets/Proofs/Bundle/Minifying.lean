import ScopedSheets.Proofs.Bundle.Atomicity
import ScopedSheets.Proofs.Fragment.Header

/-!
# Shortening with an external program

The minifier gets the text by way of a temporary file. Nothing is assumed about what it does: it may change
any file, fail, take too long, or remove the temporary file. Whatever it does, it runs once, on a file that
holds the text, the outcome is determined by how it ends and what it leaves, and the one thing that happens
afterwards is that the temporary file is removed (`minify_removes_temporary`).

What happens in which order is seen by a watch on the environment, which remembers each request that can
change it.
-/

namespace ScopedSheets

open Run

/-- An environment that keeps its files in a store and reads from it; removing never fails, and programs may
do anything. -/
class InMemory (σ : Type) extends StoreBacked σ where
  read_eq : ∀ env path, read env path = (store env).read path
  remove_ok : ∀ env path, (remove env path).1 = .ok ()

instance : InMemory Bench where
  toStoreBacked := inferInstance
  read_eq _ _ := rfl
  remove_ok _ _ := rfl

section

variable {σ : Type}

theorem StoreBacked.exists_write [StoreBacked σ] (env : σ) (path content : Text) :
    ∃ env', Environment.write env path content = (.ok (), env') ∧
      store env' = (store env).write path content :=
  ⟨_, Prod.ext (write_ok env path content) rfl, store_write env path content⟩

theorem InMemory.exists_remove [InMemory σ] (env : σ) (path : Text) :
    ∃ env', Environment.remove env path = (.ok (), env') ∧
      StoreBacked.store env' = (StoreBacked.store env).remove path :=
  ⟨_, Prod.ext (remove_ok env path) rfl, StoreBacked.store_remove env path⟩

end

/-- What can change an environment. -/
inductive Request where
  | write (path content : Text)
  | remove (path : Text)
  | exec (args : List Text) (timeout : Int)
deriving DecidableEq, Repr

/-- An environment with the requests so far, oldest first, each with the environment that it was made on. -/
structure Watched (σ : Type) where
  env : σ
  requests : List (Request × σ)

namespace Watched

variable {σ α : Type}

def pass (w : Watched σ) (request : Request) (change : σ → Change σ α) : Change (Watched σ) α :=
  ((change w.env).1, ⟨(change w.env).2, w.requests ++ [(request, w.env)]⟩)

instance [Environment σ] : Environment (Watched σ) where
  list w := Environment.list w.env
  read w := Environment.read w.env
  isDirectory w := Environment.isDirectory w.env
  contains w := Environment.contains w.env
  write w path content := w.pass (.write path content) fun env => Environment.write env path content
  remove w path := w.pass (.remove path) fun env => Environment.remove env path
  run w args timeout := w.pass (.exec args timeout) fun env => Environment.run env args timeout

variable {env env' : σ} {requests : List (Request × σ)}

theorem pass_eq {change : σ → Change σ α} {outcome : Except Fault α} (h : change env = (outcome, env'))
    (request : Request) :
    pass ⟨env, requests⟩ request change = (outcome, ⟨env', requests ++ [(request, env)]⟩) := by
  rw [pass, h]

variable [Environment σ]

theorem write_eq {path content : Text} {outcome : Except Fault Unit}
    (h : Environment.write env path content = (outcome, env')) :
    Environment.write (⟨env, requests⟩ : Watched σ) path content
      = (outcome, ⟨env', requests ++ [(.write path content, env)]⟩) :=
  pass_eq h _

theorem remove_eq {path : Text} {outcome : Except Fault Unit}
    (h : Environment.remove env path = (outcome, env')) :
    Environment.remove (⟨env, requests⟩ : Watched σ) path
      = (outcome, ⟨env', requests ++ [(.remove path, env)]⟩) :=
  pass_eq h _

theorem run_eq {args : List Text} {timeout : Int} {outcome : Except Fault ExecResult}
    (h : Environment.run env args timeout = (outcome, env')) :
    Environment.run (⟨env, requests⟩ : Watched σ) args timeout
      = (outcome, ⟨env', requests ++ [(.exec args timeout, env)]⟩) :=
  pass_eq h _

end Watched

/-- The outcome when the program ended with `ran` and what is read from its file afterwards is `found`. -/
def shortened (config : Config) (found : Except Fault Text) :
    Except Fault ExecResult → Except Failure Text
  | .error fault => .error (.environment fault)
  | .ok result =>
    if result.timedOut then .error (.bundle (.minifierTimedOut config.minifier config.minifyTimeout))
    else if result.exitCode ≠ 0 then .error (.bundle (.minifierFailed result.stderr result.exitCode))
    else found.mapError .environment

theorem Run.result_tryFinally_ok {σ α β : Type} {x : Run σ α} {f : Run σ β} {s s' s'' : RunState σ}
    {outcome : Except Failure α} {b : β} (hx : x.result s = (outcome, s'))
    (hf : f.result s' = (.ok b, s'')) : (tryFinally x f).result s = (outcome, s'') := by
  rw [result_tryFinally, hx]
  dsimp only
  rw [hf]

section

variable {σ : Type} [Environment σ] {token css : Text} {config : Config} {env held left final : σ}
  {ran : Except Fault ExecResult}
  (hwrite : Environment.write env (temporaryPath config token) css = (.ok (), held))
  (hrun : Environment.run held (minifierArgs config (temporaryPath config token)) config.minifyTimeout
    = (ran, left))
  (hremove : Environment.remove left (temporaryPath config token) = (.ok (), final))

include hwrite hrun hremove

theorem result_minify (journal : List Event) :
    (minify token css config).result ⟨env, journal⟩
      = (shortened config (Environment.read left (temporaryPath config token)) ran,
        ⟨final, journal⟩) := by
  have hremoved : (removeFile (temporaryPath config token)).result ⟨left, journal⟩
      = (.ok (), ⟨final, journal⟩) := by
    rw [removeFile, result_change, hremove]
    rfl
  unfold minify
  rw [result_bind, writeText, result_change, hwrite]
  -- whatever the body ends with, it leaves the environment as the program left it
  refine result_tryFinally_ok ?_ hremoved
  rw [result_bind, exec, result_change, hrun]
  cases ran with
  | error fault => rfl
  | ok result =>
    dsimp only [Except.mapError, shortened]
    split
    · rfl
    · split
      · rfl
      · rw [readText, result_query]
        rfl

theorem result_minify_watched (journal : List Event) :
    (minify token css config).result ⟨(⟨env, []⟩ : Watched σ), journal⟩
      = (shortened config (Environment.read left (temporaryPath config token)) ran,
        ⟨⟨final, [(.write (temporaryPath config token) css, env),
          (.exec (minifierArgs config (temporaryPath config token)) config.minifyTimeout, held),
          (.remove (temporaryPath config token), left)]⟩, journal⟩) :=
  result_minify (Watched.write_eq hwrite) (Watched.run_eq hrun) (Watched.remove_eq hremove) journal

end

/-- How shortening ends when the program was run with the outcome `ran` and has left these files. -/
inductive ShortensTo (config : Config) (path : Text) (files : Std.ExtTreeMap Text Text) :
    Except Fault ExecResult → Except Failure Text → Prop
  | refused {fault : Fault} : ShortensTo config path files (.error fault) (.error (.environment fault))
  | late {result : ExecResult} {error : BundleError} (htime : result.timedOut = true)
      (hmessage : error.message = "Error minifying CSS: ".toList ++ config.minifier
        ++ " timed out after ".toList ++ Text.ofInt config.minifyTimeout ++ "ms".toList) :
      ShortensTo config path files (.ok result) (.error (.bundle error))
  | failed {result : ExecResult} {error : BundleError} {words : Text} (htime : result.timedOut = false)
      (hexit : result.exitCode ≠ 0) (hwords : Text.Trimmed Text.isBlank result.stderr words)
      (hne : words ≠ []) (hmessage : error.message = "Error minifying CSS: ".toList ++ words) :
      ShortensTo config path files (.ok result) (.error (.bundle error))
  | failedSilently {result : ExecResult} {error : BundleError} (htime : result.timedOut = false)
      (hexit : result.exitCode ≠ 0) (hblank : ∀ c ∈ result.stderr, Text.isBlank c)
      (hmessage : error.message
        = "Error minifying CSS: ".toList ++ ("exit code ".toList ++ Text.ofInt result.exitCode)) :
      ShortensTo config path files (.ok result) (.error (.bundle error))
  | done {result : ExecResult} {content : Text} (htime : result.timedOut = false)
      (hexit : result.exitCode = 0) (hfile : files[path]? = some content) :
      ShortensTo config path files (.ok result) (.ok content)
  | gone {result : ExecResult} (htime : result.timedOut = false) (hexit : result.exitCode = 0)
      (hfile : files[path]? = none) :
      ShortensTo config path files (.ok result) (.error (.environment (.notStored path)))

theorem blank_of_trim_eq_nil {t : Text} (h : Text.trim Text.isBlank t = []) :
    ∀ c ∈ t, Text.isBlank c := by
  obtain ⟨lead, trail, ht, hlead, htrail⟩ := (Text.trimmed_trim Text.isBlank t).around
  intro c hc
  rw [ht, h, List.append_nil, List.mem_append] at hc
  exact hc.elim (hlead c) (htrail c)

theorem shortensTo_shortened (config : Config) (path : Text) (s : Store)
    (ran : Except Fault ExecResult) :
    ShortensTo config path s.files ran (shortened config (s.read path) ran) := by
  cases ran with
  | error fault => exact .refused
  | ok result =>
    rw [shortened]
    split
    · next htime => exact .late htime rfl
    · next htime =>
      have htime : result.timedOut = false := by simpa using htime
      split
      · next hexit =>
        have hmessage : (BundleError.minifierFailed result.stderr result.exitCode).message
            = "Error minifying CSS: ".toList ++ if Text.trim Text.isBlank result.stderr = []
              then "exit code ".toList ++ Text.ofInt result.exitCode
              else Text.trim Text.isBlank result.stderr := rfl
        by_cases hwords : Text.trim Text.isBlank result.stderr = []
        · rw [if_pos hwords] at hmessage
          exact .failedSilently htime hexit (blank_of_trim_eq_nil hwords) hmessage
        · rw [if_neg hwords] at hmessage
          exact .failed htime hexit (Text.trimmed_trim Text.isBlank result.stderr) hwords hmessage
      · next hexit =>
        have hexit : result.exitCode = 0 := by simpa using hexit
        rw [Store.read]
        cases hfile : s.files[path]? with
        | some content => exact .done htime hexit hfile
        | none => exact .gone htime hexit hfile

/-- Shortening writes its temporary file, runs the program once, on the file that holds the text, and removes
the file; nothing else that it does can change the environment. The outcome is determined by how the program
ends and what it leaves, and the files are then those that it leaves, without the temporary one. -/
theorem minify_removes_temporary {σ : Type} [InMemory σ] (token css : Text) (config : Config) (env : σ)
    (journal : List Event) :
    let path := temporaryPath config token
    ∃ held left final args ran outcome,
      (minify token css config).result ⟨env, journal⟩ = (outcome, ⟨final, journal⟩) ∧
      (minify token css config).result ⟨(⟨env, []⟩ : Watched σ), journal⟩
        = (outcome, ⟨⟨final, [(.write path css, env), (.exec args config.minifyTimeout, held),
            (.remove path, left)]⟩, journal⟩) ∧
      args[1]? = some path ∧ (filesOf held)[path]? = some css ∧
      Environment.run held args config.minifyTimeout = (ran, left) ∧
      ShortensTo config path (filesOf left) ran outcome ∧
      filesOf final = (filesOf left).erase path := by
  intro path
  obtain ⟨held, hwrite, hheld⟩ := StoreBacked.exists_write env path css
  obtain ⟨ran, left, hrun⟩ : ∃ ran left,
      Environment.run held (minifierArgs config path) config.minifyTimeout = (ran, left) := ⟨_, _, rfl⟩
  obtain ⟨final, hremove, hfinal⟩ := InMemory.exists_remove left path
  have hplain := result_minify hwrite hrun hremove journal
  have hwatched := result_minify_watched hwrite hrun hremove journal
  refine ⟨held, left, final, minifierArgs config path, ran, _, hplain, hwatched, rfl, ?_, hrun, ?_, ?_⟩
  · rw [filesOf, hheld, Store.write, Std.ExtTreeMap.getElem?_insert_self]
  · have hfound : Environment.read left path = (StoreBacked.store left).read path :=
      InMemory.read_eq left path
    rw [hfound]
    exact shortensTo_shortened config path (StoreBacked.store left) ran
  · rw [filesOf, hfinal, Store.remove]

end ScopedSheets
