import ScopedSheets.Proofs.Bundle.Inputs
import ScopedSheets.Proofs.Bundle.Run
import ScopedSheets.Proofs.Sheet.Fault
import Mathlib.Data.List.Forall2

/-!
# What a run without minifier produces

A run on a bench reads the inputs, puts them under their scopes one after the other, and reports each as
it is done. Either all of them can be put under their scopes, and the bundle is their texts in the order
of their paths, or there is a first one at fault, and the run ends there with its error.
-/

namespace ScopedSheets

open Run

section

variable {σ : Type}

def Scoped (sources : List Source) (parts : List Text) : Prop :=
  List.Forall₂ (fun source part => scopeSheet source.text = .ok part) sources parts

theorem scoped_or_fault (sources : List Source) :
    (∃ parts, Scoped sources parts) ∨
    ∃ before parts source e after, sources = before ++ source :: after ∧ Scoped before parts ∧
      scopeSheet source.text = .error e := by
  induction sources with
  | nil => exact .inl ⟨[], .nil⟩
  | cons source sources ih =>
    cases h : scopeSheet source.text with
    | error e => exact .inr ⟨[], [], source, e, sources, rfl, .nil, h⟩
    | ok part =>
      rcases ih with ⟨parts, hparts⟩ | ⟨before, parts, source', e, after, rfl, hparts, he⟩
      · exact .inl ⟨part :: parts, .cons h hparts⟩
      · exact .inr ⟨source :: before, part :: parts, source', e, after, rfl, .cons h hparts, he⟩

theorem scopeSources_gives_ok {sources : List Source} {parts : List Text} (h : Scoped sources parts)
    (env : σ) :
    (scopeSources sources).Gives env (.ok parts) env (sources.map Source.path) := by
  induction h with
  | nil => exact .pure []
  | @cons source part sources parts hpart _ ih =>
    rw [scopeSources, hpart]
    exact (Gives.log ..).next <| (Gives.processed _).bind ih.bind_pure

theorem scopeSources_gives_error {before after : List Source} {source : Source} {parts : List Text}
    {e : SheetError} (hbefore : Scoped before parts) (he : scopeSheet source.text = .error e)
    (env : σ) :
    (scopeSources (before ++ source :: after)).Gives env (.error (.bundle (.sheet source.path e))) env
      (before.map Source.path) := by
  induction hbefore with
  | nil =>
    rw [List.nil_append, scopeSources, he]
    exact (Gives.log ..).next (.fail _)
  | @cons source part sources parts hpart _ ih =>
    rw [List.cons_append, scopeSources, hpart]
    exact (Gives.log ..).next <| (Gives.processed _).bind ih.bind_error

end

theorem readSheets_gives (b : Bench) {paths : List Text} (h : ∀ path ∈ paths, path ∈ b.store.files) :
    (readSheets paths : Run Bench _).Gives b (.ok (paths.filterMap b.store.source?)) b [] := by
  induction paths with
  | nil => exact .pure []
  | cons path paths ih =>
    obtain ⟨hpath, hpaths⟩ := List.forall_mem_cons.1 h
    obtain ⟨text, htext⟩ := Option.isSome_iff_exists.1 (Std.ExtTreeMap.mem_iff_isSome_getElem?.1 hpath)
    have hread : b.store.read path = .ok text := by rw [Store.read, htext]
    rw [readSheets]
    refine .next (.query hread) ?_
    cases hblank : Text.isBlankText text with
    | true =>
      have hsource : b.store.source? path = none := by simp [Store.source?, htext, hblank]
      rw [List.filterMap_cons_none hsource]
      exact (Gives.log ..).next (ih hpaths)
    | false =>
      have hsource : b.store.source? path = some ⟨path, text⟩ := by
        simp [Store.source?, htext, hblank]
      rw [List.filterMap_cons_some hsource]
      exact (ih hpaths).bind_pure

theorem collect_gives {b : Bench} {config : Config} (hdir : b.store.isDirectory config.inputDir = true) :
    (collect config : Run Bench _).Gives b (.ok (b.store.sources config)) b [] := by
  have hlist : b.store.list config.inputDir config.recursive
      = .ok (b.store.files.keys.filter (Store.lists config.inputDir config.recursive)) :=
    Store.list_eq_ok_iff.2 ⟨hdir, rfl⟩
  refine .next (.query hlist) (readSheets_gives b ?_)
  intro path hpath
  exact Std.ExtTreeMap.mem_keys.1 (List.mem_of_mem_filter (List.mem_of_mem_filter hpath))

theorem checkInput_gives {b : Bench} {config : Config} (hvalid : config.valid = true)
    (hdir : b.store.isDirectory config.inputDir = true) :
    (checkInput config : Run Bench _).Gives b (.ok ()) b [] := by
  have hcheck : config.check = .ok () := by rw [Config.check, if_pos hvalid]
  have hcontains : b.store.contains config.inputDir = true := Store.contains_iff.2 (.inr hdir)
  rw [checkInput, hcheck]
  refine .next (a := true) (.query (congrArg Except.ok hcontains)) ?_
  exact .next (a := true) (.query (congrArg Except.ok hdir)) (.pure ())

theorem bundle_gives_error (token : Text) {config : Config} {b : Bench} (hvalid : config.valid = true)
    (hdir : b.store.isDirectory config.inputDir = true) {before after : List Source} {source : Source}
    {parts : List Text} {e : SheetError} (hsources : b.store.sources config = before ++ source :: after)
    (hbefore : Scoped before parts) (he : scopeSheet source.text = .error e) :
    (bundle token config : Run Bench _).Gives b (.error (.bundle (.sheet source.path e))) b
      (before.map Source.path) := by
  refine .next (checkInput_gives hvalid hdir) (.next (collect_gives hdir) (.bind_error ?_))
  rw [hsources]
  exact scopeSources_gives_error hbefore he b

/-- The file that a bundle of these sheets is written to, if it is: without sheets nothing is written. -/
def Config.written (config : Config) (sources : List Source) : Option Text :=
  if sources = [] then none else config.target

theorem Config.written_eq (config : Config) (sources : List Source) :
    config.written sources
      = if config.toStdout = true ∨ sources.map Source.path = [] then none else config.outputFile := by
  cases sources <;> cases h : config.toStdout <;> simp [written, target, h]

def Bench.deliver (b : Bench) (content : Text) : Option Text → Bench
  | some path => b.write path content
  | none => b

theorem bundle_gives_ok (token : Text) {config : Config} {b : Bench} (hvalid : config.valid = true)
    (hminify : config.minify = false) (hdir : b.store.isDirectory config.inputDir = true)
    {parts : List Text} (hparts : Scoped (b.store.sources config) parts) :
    (bundle token config : Run Bench _).Gives b
      (.ok ⟨['\n'].intercalate parts, (b.store.sources config).map Source.path,
        config.written (b.store.sources config)⟩)
      (b.deliver (['\n'].intercalate parts) (config.written (b.store.sources config)))
      ((b.store.sources config).map Source.path) := by
  refine .next (checkInput_gives hvalid hdir) (.next (collect_gives hdir) ?_)
  refine .last (scopeSources_gives_ok hparts b) ?_
  cases hsources : b.store.sources config with
  | nil =>
    rw [hsources] at hparts
    cases hparts
    exact .next (.log ..) (.pure _)
  | cons source sources =>
    have hwritten : config.written (source :: sources) = config.target := if_neg nofun
    rw [hminify, hwritten]
    refine .next (.pure _) ?_
    cases config.target with
    | none => exact .next (.log ..) (.pure _)
    | some path => exact .next (.change rfl) (.next (.log ..) (.pure _))

def Store.ScopesTo (s : Store) (path part : Text) : Prop :=
  ∃ text, s.files[path]? = some text ∧ scopeSheet text = .ok part

def Store.FailsWith (s : Store) (path : Text) (e : SheetError) : Prop :=
  ∃ text, s.files[path]? = some text ∧ scopeSheet text = .error e

theorem Store.FailsWith.not_scopesTo {s : Store} {path : Text} {e : SheetError}
    (h : s.FailsWith path e) (part : Text) : ¬ s.ScopesTo path part := by
  rintro ⟨text, htext, hpart⟩
  obtain ⟨text', htext', he⟩ := h
  obtain rfl := Option.some.inj (htext.symm.trans htext')
  nomatch hpart.symm.trans he

theorem Scoped.scopesTo {s : Store} {sources : List Source} {parts : List Text}
    (h : Scoped sources parts)
    (hstored : ∀ source ∈ sources, s.files[source.path]? = some source.text) :
    List.Forall₂ s.ScopesTo (sources.map Source.path) parts := by
  induction h with
  | nil => exact .nil
  | cons hpart _ ih =>
    obtain ⟨htext, hstored⟩ := List.forall_mem_cons.1 hstored
    exact .cons ⟨_, htext, hpart⟩ (ih hstored)

theorem exists_scopesTo_of_mem {s : Store} {paths parts : List Text}
    (h : List.Forall₂ s.ScopesTo paths parts) : ∀ path ∈ paths, ∃ part, s.ScopesTo path part := by
  induction h with
  | nil => nofun
  | cons hpart _ ih => exact List.forall_mem_cons.2 ⟨⟨_, hpart⟩, ih⟩

theorem filter_lt_of_pairwise {before after : List Text} {path : Text}
    (h : (before ++ path :: after).Pairwise (· < ·)) :
    (before ++ path :: after).filter (· < path) = before := by
  obtain ⟨_, hafter, hbefore⟩ := List.pairwise_append.1 h
  have hleft : before.filter (· < path) = before := by
    rw [List.filter_eq_self]
    intro path' hmem
    exact decide_eq_true (hbefore path' hmem path List.mem_cons_self)
  have hright : (path :: after).filter (· < path) = [] := by
    rw [List.filter_eq_nil_iff]
    intro path' hmem
    rw [decide_eq_true_eq]
    rcases List.mem_cons.1 hmem with rfl | hmem
    · exact List.lt_irrefl path'
    · exact List.lt_asymm (List.rel_of_pairwise_cons hafter hmem)
  rw [List.filter_append, hleft, hright, List.append_nil]

/-- A run without minifier bundles its inputs in the order of their paths, or fails at the first of them
that is at fault, after reporting those before it. -/
theorem bundle_matches_inputs (token : Text) {config : Config} {b : Bench} (hvalid : config.valid = true)
    (hminify : config.minify = false) (hdir : b.store.isDirectory config.inputDir = true) :
    ∃ inputs, AreInputs b.store config inputs ∧
      (∀ inputs', AreInputs b.store config inputs' → inputs' = inputs) ∧
      ∃ outcome final, (bundle token config).result { env := b } = (outcome, final) ∧
        ((∀ path ∈ inputs, ∃ part, b.store.ScopesTo path part) →
          ∃ parts, List.Forall₂ b.store.ScopesTo inputs parts ∧
            outcome = .ok ⟨['\n'].intercalate parts, inputs,
              if config.toStdout = true ∨ inputs = [] then none else config.outputFile⟩ ∧
            processedPaths final.journal = inputs) ∧
        (¬ (∀ path ∈ inputs, ∃ part, b.store.ScopesTo path part) →
          ∃ path ∈ inputs, ∃ e error, b.store.FailsWith path e ∧
            (∀ path' ∈ inputs, path' < path → ∃ part, b.store.ScopesTo path' part) ∧
            outcome = .error (.bundle error) ∧ error.path? = some path ∧
            error.message = "Error processing ".toList ++ path ++ ": ".toList ++ e.message ∧
            error.sheetError? = some e ∧
            processedPaths final.journal = inputs.filter (· < path)) := by
  have hinputs := b.store.areInputs_sources config
  have hstored : ∀ source ∈ b.store.sources config,
      b.store.files[source.path]? = some source.text :=
    fun source hmem => (Store.mem_sources_iff.1 hmem).stored
  refine ⟨_, hinputs, fun _ h => h.unique hinputs, ?_⟩
  rcases scoped_or_fault (b.store.sources config) with
    ⟨parts, hparts⟩ | ⟨before, parts, source, e, after, hsources, hparts, he⟩
  · obtain ⟨log, hresult, hpaths⟩ :=
      (bundle_gives_ok token hvalid hminify hdir hparts).exists_log []
    refine ⟨_, _, hresult, fun _ => ⟨parts, hparts.scopesTo hstored, ?_, hpaths⟩, fun hnot => ?_⟩
    · rw [Config.written_eq]
    · exact absurd (exists_scopesTo_of_mem (hparts.scopesTo hstored)) hnot
  · obtain ⟨log, hresult, hpaths⟩ :=
      (bundle_gives_error token hvalid hdir hsources hparts he).exists_log []
    -- the order puts exactly the sheets before the one at fault below it
    rw [hsources] at hinputs hstored ⊢
    have hmem : source ∈ before ++ source :: after := List.mem_append_right _ List.mem_cons_self
    have hfails : b.store.FailsWith source.path e := ⟨_, hstored source hmem, he⟩
    have hearlier : ((before ++ source :: after).map Source.path).filter (· < source.path)
        = before.map Source.path := by
      have hsorted := hinputs.sorted
      rw [List.map_append, List.map_cons] at hsorted ⊢
      exact filter_lt_of_pairwise hsorted
    refine ⟨_, _, hresult, fun hall => ?_, fun _ => ⟨source.path, List.mem_map_of_mem hmem, e, _,
      hfails, ?_, rfl, rfl, rfl, rfl, hpaths.trans hearlier.symm⟩⟩
    · obtain ⟨part, hpart⟩ := hall _ (List.mem_map_of_mem hmem)
      exact absurd hpart (hfails.not_scopesTo part)
    · intro path' hmem' hlt
      have hbefore : path' ∈ before.map Source.path := by
        rw [← hearlier]
        exact List.mem_filter.2 ⟨hmem', decide_eq_true hlt⟩
      have hstored' : ∀ source' ∈ before, b.store.files[source'.path]? = some source'.text :=
        fun source' h => hstored source' (List.mem_append_left _ h)
      exact exists_scopesTo_of_mem (hparts.scopesTo hstored') path' hbefore

theorem bundle_matches_inputs_unclosed :
    let store := Store.ofLists [("src/b.css".toList, "/* SCOPE x */".toList),
      ("src/a.css".toList, "p\x7b\x7d".toList), ("src2/a.css".toList, "q".toList)] []
    let config : Config := { inputDir := "src/".toList, toStdout := true }
    config.valid = true ∧ config.minify = false ∧ store.isDirectory config.inputDir = true ∧
    ∃ inputs, AreInputs store config inputs ∧ "src/b.css".toList ∈ inputs ∧
      "src2/a.css".toList ∉ inputs ∧
      ∃ outcome final,
        (bundle [] config).result ({ env := { store } } : RunState Bench) = (outcome, final) ∧
        ∃ path ∈ inputs, ∃ error, outcome = .error (.bundle error) ∧ error.path? = some path ∧
          processedPaths final.journal = inputs.filter (· < path) := by
  intro store config
  have hvalid : config.valid = true := rfl
  have hdir : store.isDirectory config.inputDir = true := by decide +kernel
  have hstored : store.files["src/b.css".toList]? = some "/* SCOPE x */".toList := by decide +kernel
  obtain ⟨inputs, hinputs, _, outcome, final, hresult, _, hfault⟩ :=
    bundle_matches_inputs [] (b := { store }) hvalid rfl hdir
  have hmem : "src/b.css".toList ∈ inputs :=
    (hinputs.mem_iff _).2 ⟨_, hstored, ⟨"b.css".toList, by decide, .inl rfl⟩, by decide,
      '/', by decide, by decide⟩
  have hnot : "src2/a.css".toList ∉ inputs := by
    rw [hinputs.mem_iff]
    rintro ⟨_, _, ⟨rest, hrest, _⟩, _⟩
    have hbase : Store.dirBase config.inputDir = "src".toList := by decide
    rw [hbase] at hrest
    have hchar : some '2' = some '/' := congrArg (·[3]?) hrest
    nomatch hchar
  have hfails : store.FailsWith "src/b.css".toList ⟨.unclosed, ⟨1, 1⟩⟩ :=
    ⟨_, hstored, scopeSheet_eq_error_iff.2 (by decide +kernel)⟩
  obtain ⟨path, hpath, _, error, _, _, houtcome, herror, _, _, hprocessed⟩ :=
    hfault fun hall => (hall _ hmem).elim fun part => hfails.not_scopesTo part
  exact ⟨hvalid, rfl, hdir, inputs, hinputs, hmem, hnot, outcome, final, hresult, path, hpath, error,
    houtcome, herror, hprocessed⟩

end ScopedSheets
