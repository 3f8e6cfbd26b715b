import ScopedSheets.Bundle

/-!
# What runs do

A run is a function of its state: `Run.result` is its outcome with the state it leaves behind, and there
is an equation for each way in which runs are made. On top of the equations stand two judgements about a
run: what it gives on an environment and which sheets it reports meanwhile (`Run.Gives`), and that it
leaves every environment as it was (`Run.KeepsEnv`). Each has one rule for each way to make a run.
-/

namespace ScopedSheets

theorem processedPaths_append (j j' : List Event) :
    processedPaths (j ++ j') = processedPaths j ++ processedPaths j' :=
  List.filterMap_append

namespace Run

variable {σ α β : Type}

def result (x : Run σ α) (s : RunState σ) : Except Failure α × RunState σ := (x.run.run s).run

theorem result_pure (a : α) (s : RunState σ) : (pure a : Run σ α).result s = (.ok a, s) := rfl

theorem result_bind (x : Run σ α) (f : α → Run σ β) (s : RunState σ) :
    (x >>= f).result s = match x.result s with
      | (.ok a, s') => (f a).result s'
      | (.error e, s') => (.error e, s') := by
  simp only [result, ExceptT.run_bind, StateT.run_bind, Id.run_bind]
  rcases (StateT.run (ExceptT.run x) s).run with ⟨_ | _, s'⟩ <;> rfl

theorem result_bind_ok {x : Run σ α} {f : α → Run σ β} {s s' : RunState σ} {b : β}
    (h : (x >>= f).result s = (.ok b, s')) :
    ∃ a s₁, x.result s = (.ok a, s₁) ∧ (f a).result s₁ = (.ok b, s') := by
  rw [result_bind] at h
  rcases hx : x.result s with ⟨e | a, s₁⟩ <;> rw [hx] at h
  · nomatch congrArg Prod.fst h
  · exact ⟨a, s₁, rfl, h⟩

theorem result_fail (error : BundleError) (s : RunState σ) :
    (fail error : Run σ α).result s = (.error (.bundle error), s) := rfl

theorem result_report (event : Event) (s : RunState σ) :
    (report event).result s = (.ok (), { s with journal := s.journal ++ [event] }) := rfl

theorem result_query (q : σ → Except Fault α) (s : RunState σ) :
    (query q).result s = ((q s.env).mapError .environment, s) := by
  have hget : (get : Run σ (RunState σ)).result s = (.ok s, s) := rfl
  rw [query, result_bind, hget]
  dsimp only
  cases q s.env <;> rfl

theorem result_change (c : σ → Change σ α) (s : RunState σ) :
    (change c).result s
      = ((c s.env).1.mapError .environment, { s with env := (c s.env).2 }) := by
  have hget : (get : Run σ (RunState σ)).result s = (.ok s, s) := rfl
  rw [change, result_bind, hget]
  dsimp only
  rcases c s.env with ⟨_ | _, env⟩ <;> rfl

theorem result_tryFinally (x : Run σ α) (f : Run σ β) (s : RunState σ) :
    (tryFinally x f).result s = match x.result s with
      | (outcome, s') => match f.result s' with
        | (.ok _, s'') => (outcome, s'')
        | (.error e, s'') => (.error e, s'') := by
  simp only [result, tryFinally, tryFinally', Functor.map, ExceptT.map, ExceptT.run, ExceptT.mk,
    StateT.run, bind, StateT.bind, Id.run, pure]
  rcases x s with ⟨_ | _, s'⟩ <;> dsimp only <;> rcases f s' with ⟨_ | _, s''⟩ <;> rfl

theorem state_tryFinally (x : Run σ α) (f : Run σ β) (s : RunState σ) :
    ((tryFinally x f).result s).2 = (f.result (x.result s).2).2 := by
  rw [result_tryFinally]
  dsimp only
  split <;> simp [*]

/-- On this environment the run has this outcome, leaves that environment behind, and reports the sheets
with these paths as processed. What the journal held before makes no difference. -/
structure Gives (x : Run σ α) (env : σ) (outcome : Except Failure α) (env' : σ) (paths : List Text) :
    Prop where
  exists_log : ∀ journal, ∃ log,
    x.result ⟨env, journal⟩ = (outcome, ⟨env', journal ++ log⟩) ∧ processedPaths log = paths

namespace Gives

variable {env env' env'' : σ} {paths paths' : List Text}

theorem pure (a : α) : (Pure.pure a : Run σ α).Gives env (.ok a) env [] :=
  ⟨fun journal => ⟨[], by rw [result_pure, List.append_nil], rfl⟩⟩

theorem fail (error : BundleError) :
    (Run.fail error : Run σ α).Gives env (.error (.bundle error)) env [] :=
  ⟨fun journal => ⟨[], by rw [result_fail, List.append_nil], rfl⟩⟩

theorem log (severity : Severity) (message : Text) :
    (Run.log severity message).Gives env (.ok ()) env [] :=
  ⟨fun _ => ⟨[.log severity message], result_report _ _, rfl⟩⟩

theorem processed (path : Text) : (report (.processed path)).Gives env (.ok ()) env [path] :=
  ⟨fun _ => ⟨[.processed path], result_report _ _, rfl⟩⟩

theorem query {q : σ → Except Fault α} {a : α} (h : q env = .ok a) :
    (Run.query q).Gives env (.ok a) env [] :=
  ⟨fun journal => ⟨[], by rw [result_query, h, List.append_nil]; rfl, rfl⟩⟩

theorem change {c : σ → Change σ α} {a : α} (h : c env = (.ok a, env')) :
    (Run.change c).Gives env (.ok a) env' [] :=
  ⟨fun journal => ⟨[], by rw [result_change, h, List.append_nil]; rfl, rfl⟩⟩

theorem bind {x : Run σ α} {f : α → Run σ β} {a : α} {outcome : Except Failure β}
    (hx : x.Gives env (.ok a) env' paths) (hf : (f a).Gives env' outcome env'' paths') :
    (x >>= f).Gives env outcome env'' (paths ++ paths') := by
  refine ⟨fun journal => ?_⟩
  obtain ⟨log, hresult, rfl⟩ := hx.exists_log journal
  obtain ⟨log', hresult', rfl⟩ := hf.exists_log (journal ++ log)
  refine ⟨log ++ log', ?_, processedPaths_append log log'⟩
  rw [result_bind, hresult, ← List.append_assoc]
  exact hresult'

theorem next {x : Run σ α} {f : α → Run σ β} {a : α} {outcome : Except Failure β}
    (hx : x.Gives env (.ok a) env' []) (hf : (f a).Gives env' outcome env'' paths) :
    (x >>= f).Gives env outcome env'' paths :=
  hx.bind hf

theorem last {x : Run σ α} {f : α → Run σ β} {a : α} {outcome : Except Failure β}
    (hx : x.Gives env (.ok a) env' paths) (hf : (f a).Gives env' outcome env'' []) :
    (x >>= f).Gives env outcome env'' paths := by
  rw [← List.append_nil paths]
  exact hx.bind hf

theorem bind_error {x : Run σ α} {f : α → Run σ β} {e : Failure}
    (hx : x.Gives env (.error e) env' paths) : (x >>= f).Gives env (.error e) env' paths := by
  refine ⟨fun journal => ?_⟩
  obtain ⟨log, hresult, hpaths⟩ := hx.exists_log journal
  exact ⟨log, by rw [result_bind, hresult], hpaths⟩

theorem bind_pure {x : Run σ α} {f : α → β} {outcome : Except Failure α}
    (hx : x.Gives env outcome env' paths) :
    (x >>= fun a => Pure.pure (f a)).Gives env (outcome.map f) env' paths := by
  cases outcome with
  | error e => exact hx.bind_error
  | ok a => exact hx.last (f := fun a => Pure.pure (f a)) (pure (f a))

end Gives

def KeepsEnv (x : Run σ α) : Prop := ∀ s, (x.result s).2.env = s.env

namespace KeepsEnv

theorem pure (a : α) : (Pure.pure a : Run σ α).KeepsEnv := fun _ => rfl

theorem fail (error : BundleError) : (fail error : Run σ α).KeepsEnv := fun _ => rfl

theorem report (event : Event) : (report event : Run σ Unit).KeepsEnv := fun _ => rfl

theorem query (q : σ → Except Fault α) : (query q).KeepsEnv :=
  fun s => by rw [result_query]

theorem env_bind (x : Run σ α) {f : α → Run σ β} (hf : ∀ a, (f a).KeepsEnv) (s : RunState σ) :
    ((x >>= f).result s).2.env = (x.result s).2.env := by
  rw [result_bind]
  rcases x.result s with ⟨e | a, s'⟩
  · rfl
  · exact hf a s'

theorem bind {x : Run σ α} {f : α → Run σ β} (hx : x.KeepsEnv) (hf : ∀ a, (f a).KeepsEnv) :
    (x >>= f).KeepsEnv :=
  fun s => (env_bind x hf s).trans (hx s)

end KeepsEnv

end Run

end ScopedSheets
