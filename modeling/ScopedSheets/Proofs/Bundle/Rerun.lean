import ScopedSheets.Proofs.Bundle.Atomicity
import ScopedSheets.Proofs.Bundle.Outcome

/-!
# Running once more

A run looks at whatever sheets lie in its input directory, and the bundle that an earlier run has written
may be one of them. A second run gives the same bundle when the file it was written to counts for nothing
in both runs, or is an input of both and has the same text under its scopes as what it has replaced
(`rerun_same_iff`).
-/

namespace ScopedSheets

open Run

section

variable {s s' : Store} {config : Config} {out path : Text}

theorem Store.AgreesExceptAt.isInput_iff (h : s.AgreesExceptAt s' out) (hpath : path ≠ out)
    {text : Text} : IsInput s' config path text ↔ IsInput s config path text := by
  have hsame := h path hpath
  constructor
  · rintro ⟨hstored, hbelow, hnamed, hvisible⟩
    exact ⟨hsame ▸ hstored, hbelow, hnamed, hvisible⟩
  · rintro ⟨hstored, hbelow, hnamed, hvisible⟩
    exact ⟨hsame ▸ hstored, hbelow, hnamed, hvisible⟩

theorem Store.AgreesExceptAt.scopesTo_iff (h : s.AgreesExceptAt s' out) (hpath : path ≠ out)
    {part : Text} : s'.ScopesTo path part ↔ s.ScopesTo path part := by
  rw [ScopesTo, ScopesTo, h path hpath]

theorem Store.AgreesExceptAt.areInputs {paths : List Text} (h : s.AgreesExceptAt s' out)
    (hinputs : AreInputs s config paths)
    (hout : (∃ text, IsInput s' config out text) ↔ ∃ text, IsInput s config out text) :
    AreInputs s' config paths := by
  refine ⟨hinputs.sorted, fun path => (hinputs.mem_iff path).trans ?_⟩
  by_cases hpath : path = out
  · rw [hpath, hout]
  · exact exists_congr fun text => (h.isInput_iff hpath).symm

theorem Store.ScopesTo.unique {part part' : Text} (h : s.ScopesTo path part)
    (h' : s.ScopesTo path part') : part = part' := by
  obtain ⟨text, htext, hpart⟩ := h
  obtain ⟨text', htext', hpart'⟩ := h'
  obtain rfl := Option.some.inj (htext.symm.trans htext')
  exact Except.ok.inj (hpart.symm.trans hpart')

theorem Store.ScopesTo.forall₂_unique {paths parts parts' : List Text}
    (h : List.Forall₂ s.ScopesTo paths parts) (h' : List.Forall₂ s.ScopesTo paths parts') :
    parts = parts' :=
  List.right_unique_forall₂' (R := s.ScopesTo) (fun _ _ _ => ScopesTo.unique) h h'

theorem Store.AgreesExceptAt.forall₂_scopesTo {paths parts : List Text}
    (h : s.AgreesExceptAt s' out) (hout : out ∉ paths) (hparts : List.Forall₂ s.ScopesTo paths parts) :
    List.Forall₂ s'.ScopesTo paths parts := by
  induction hparts with
  | nil => exact .nil
  | @cons path part paths parts hpart _ ih =>
    obtain ⟨hhead, htail⟩ := not_or.1 (List.mem_cons.not.1 hout)
    exact .cons ((h.scopesTo_iff (Ne.symm hhead)).2 hpart) (ih htail)

end

theorem forall₂_append_cons_iff {R : Text → Text → Prop} {before after parts : List Text}
    {path : Text} :
    List.Forall₂ R (before ++ path :: after) parts ↔
      ∃ left part right, parts = left ++ part :: right ∧ List.Forall₂ R before left ∧ R path part ∧
        List.Forall₂ R after right := by
  induction before generalizing parts with
  | nil =>
    rw [List.nil_append, List.forall₂_cons_left_iff]
    constructor
    · rintro ⟨part, right, hpart, hright, rfl⟩
      exact ⟨[], part, right, rfl, .nil, hpart, hright⟩
    · rintro ⟨left, part, right, rfl, hleft, hpart, hright⟩
      obtain rfl := List.forall₂_nil_left_iff.1 hleft
      exact ⟨part, right, hpart, hright, rfl⟩
  | cons first before ih =>
    rw [List.cons_append, List.forall₂_cons_left_iff]
    constructor
    · rintro ⟨q, parts, hq, hparts, rfl⟩
      obtain ⟨left, part, right, rfl, hleft, hpart, hright⟩ := ih.1 hparts
      exact ⟨q :: left, part, right, rfl, .cons hq hleft, hpart, hright⟩
    · rintro ⟨left, part, right, rfl, hleft, hpart, hright⟩
      obtain ⟨q, left, hq, hbefore, rfl⟩ := List.forall₂_cons_left_iff.1 hleft
      exact ⟨q, left ++ part :: right, hq, ih.2 ⟨left, part, right, rfl, hbefore, hpart, hright⟩, rfl⟩

theorem exists_intercalate_eq (sep : Text) (left right : List Text) :
    ∃ lead trail, ∀ part, sep.intercalate (left ++ part :: right) = lead ++ part ++ trail := by
  induction left with
  | nil =>
    cases right with
    | nil => exact ⟨[], [], fun part => by simp [List.intercalate]⟩
    | cons next right =>
      exact ⟨[], sep ++ sep.intercalate (next :: right), fun part => by simp [List.intercalate]⟩
  | cons first left ih =>
    obtain ⟨lead, trail, h⟩ := ih
    refine ⟨first ++ sep ++ lead, trail, fun part => ?_⟩
    have hne : left ++ part :: right ≠ [] := List.append_ne_nil_of_right_ne_nil _ nofun
    rw [List.cons_append, List.intercalate_cons_of_ne_nil hne, h]
    simp

theorem Store.exists_frame {s : Store} {out : Text} {paths parts : List Text}
    (h : List.Forall₂ s.ScopesTo paths parts) (hnodup : paths.Nodup) (hout : out ∈ paths) :
    ∃ lead trail part, s.ScopesTo out part ∧ ['\n'].intercalate parts = lead ++ part ++ trail ∧
      ∀ s' part', s.AgreesExceptAt s' out → s'.ScopesTo out part' →
        ∃ parts', List.Forall₂ s'.ScopesTo paths parts' ∧
          ['\n'].intercalate parts' = lead ++ part' ++ trail := by
  obtain ⟨before, after, rfl⟩ := List.append_of_mem hout
  have hnot := List.nodup_middle.1 hnodup
  obtain ⟨hbefore, hafter⟩ := not_or.1 (List.mem_append.not.1 (List.nodup_cons.1 hnot).1)
  obtain ⟨left, part, right, rfl, hleft, hpart, hright⟩ := forall₂_append_cons_iff.1 h
  obtain ⟨lead, trail, hframe⟩ := exists_intercalate_eq ['\n'] left right
  refine ⟨lead, trail, part, hpart, hframe part, fun s' part' hagrees hpart' => ?_⟩
  refine ⟨left ++ part' :: right, forall₂_append_cons_iff.2 ?_, hframe part'⟩
  exact ⟨left, part', right, rfl, hagrees.forall₂_scopesTo hbefore hleft, hpart',
    hagrees.forall₂_scopesTo hafter hright⟩

/-- What the file at this path adds to a bundle: an input its text under its scopes, and any other file
nothing. -/
def Store.Adds (s : Store) (config : Config) (path : Text) : Option Text → Prop
  | none => ¬ ∃ text, IsInput s config path text
  | some part => ∃ text, IsInput s config path text ∧ scopeSheet text = .ok part

theorem AreInputs.adds_some_iff {s : Store} {config : Config} {path part : Text} {paths : List Text}
    (h : AreInputs s config paths) (hmem : path ∈ paths) :
    s.Adds config path (some part) ↔ s.ScopesTo path part := by
  constructor
  · rintro ⟨text, hinput, hpart⟩
    exact ⟨text, hinput.stored, hpart⟩
  · rintro ⟨text, hstored, hpart⟩
    obtain ⟨text', hinput⟩ := (h.mem_iff path).1 hmem
    obtain rfl := Option.some.inj (hstored.symm.trans hinput.stored)
    exact ⟨text, hinput, hpart⟩

theorem AreInputs.adds_none_iff {s : Store} {config : Config} {path : Text} {paths : List Text}
    (h : AreInputs s config paths) : s.Adds config path none ↔ path ∉ paths :=
  not_congr (h.mem_iff path).symm

theorem same_bundle_iff {s s' : Store} {config : Config} {out : Text} {paths parts : List Text}
    (hagrees : s.AgreesExceptAt s' out) (hinputs : AreInputs s config paths)
    (hparts : List.Forall₂ s.ScopesTo paths parts) :
    (AreInputs s' config paths ∧ ∃ parts', List.Forall₂ s'.ScopesTo paths parts' ∧
        ['\n'].intercalate parts' = ['\n'].intercalate parts) ↔
      ∃ added, s.Adds config out added ∧ s'.Adds config out added := by
  have hnodup : paths.Nodup := by
    refine hinputs.sorted.imp ?_
    rintro path _ hlt rfl
    exact List.lt_irrefl path hlt
  constructor
  · rintro ⟨hinputs', parts', hparts', hsame⟩
    by_cases hout : out ∈ paths
    · obtain ⟨lead, trail, part, hpart, hframe, hstays⟩ := Store.exists_frame hparts hnodup hout
      obtain ⟨part', hpart'⟩ := exists_scopesTo_of_mem hparts' out hout
      obtain ⟨parts'', hparts'', hframe'⟩ := hstays s' part' hagrees hpart'
      obtain rfl := Store.ScopesTo.forall₂_unique hparts' hparts''
      have heq : lead ++ part' ++ trail = lead ++ part ++ trail := by
        rw [← hframe', hsame, hframe]
      obtain rfl := List.append_cancel_left (List.append_cancel_right heq)
      exact ⟨some part', (hinputs.adds_some_iff hout).2 hpart, (hinputs'.adds_some_iff hout).2 hpart'⟩
    · exact ⟨none, hinputs.adds_none_iff.2 hout, hinputs'.adds_none_iff.2 hout⟩
  · rintro ⟨_ | part, hadds, hadds'⟩
    · have hout : out ∉ paths := hinputs.adds_none_iff.1 hadds
      exact ⟨hagrees.areInputs hinputs (iff_of_false hadds' hadds), parts,
        hagrees.forall₂_scopesTo hout hparts, rfl⟩
    · obtain ⟨text, hinput, hpart⟩ := hadds
      obtain ⟨text', hinput', hpart'⟩ := hadds'
      have hout : out ∈ paths := (hinputs.mem_iff out).2 ⟨text, hinput⟩
      have hinputs' := hagrees.areInputs hinputs (iff_of_true ⟨text', hinput'⟩ ⟨text, hinput⟩)
      obtain ⟨lead, trail, part', hpart'', hframe, hstays⟩ := Store.exists_frame hparts hnodup hout
      obtain rfl := hpart''.unique ⟨text, hinput.stored, hpart⟩
      obtain ⟨parts', hparts', hframe'⟩ := hstays s' part' hagrees ⟨text', hinput'.stored, hpart'⟩
      exact ⟨hinputs', parts', hparts', hframe'.trans hframe.symm⟩

theorem Store.isDirectory_write {s : Store} {dir : Text} (h : s.isDirectory dir = true)
    (path content : Text) : (s.write path content).isDirectory dir = true := by
  rw [isDirectory_iff] at h ⊢
  refine h.imp id ?_
  rintro ⟨rest, hread⟩
  refine ⟨rest, ?_⟩
  rw [readable_iff] at hread ⊢
  exact Std.ExtTreeMap.mem_insert.2 (.inr hread)

theorem Store.write_write (s : Store) (path content content' : Text) :
    (s.write path content).write path content' = s.write path content' := by
  simp only [write, mk.injEq, and_true]
  apply Std.ExtTreeMap.ext_getElem?
  intro path'
  simp only [Std.ExtTreeMap.getElem?_insert]
  split <;> rfl

theorem isDirectory_of_checkInput {config : Config} {b : Bench} {s' : RunState Bench}
    (h : (checkInput config).result { env := b } = (.ok (), s')) :
    b.store.isDirectory config.inputDir = true := by
  have hcheck : config.check = .ok () := by rw [Config.check, if_pos (valid_of_checkInput h)]
  have hcontains : (query fun env => Environment.contains env config.inputDir).result
      (⟨b, []⟩ : RunState Bench) = (.ok (b.store.contains config.inputDir), ⟨b, []⟩) := rfl
  have hisdir : (query fun env => Environment.isDirectory env config.inputDir).result
      (⟨b, []⟩ : RunState Bench) = (.ok (b.store.isDirectory config.inputDir), ⟨b, []⟩) := rfl
  rw [checkInput, hcheck] at h
  dsimp only at h
  rw [result_bind, hcontains] at h
  cases hpresent : b.store.contains config.inputDir with
  | false =>
    rw [hpresent] at h
    cases congrArg Prod.fst h
  | true =>
    rw [hpresent] at h
    cases hdir : b.store.isDirectory config.inputDir with
    | true => rfl
    | false =>
      rw [hdir] at hisdir
      -- what is left of the check is its second question
      change (_ >>= _ : Run Bench Unit).result _ = _ at h
      rw [result_bind, hisdir] at h
      cases congrArg Prod.fst h

/-- The files that a run bundles and what they add. -/
structure Bundles (s : Store) (config : Config) (paths parts : List Text) : Prop where
  valid : config.valid = true
  directory : s.isDirectory config.inputDir = true
  inputs : AreInputs s config paths
  scopes : List.Forall₂ s.ScopesTo paths parts

theorem scoped_of_scopesTo {s : Store} {sources : List Source} {parts : List Text}
    (hstored : ∀ source ∈ sources, s.files[source.path]? = some source.text)
    (h : List.Forall₂ s.ScopesTo (sources.map Source.path) parts) : Scoped sources parts := by
  rw [List.forall₂_map_left_iff] at h
  induction h with
  | nil => exact .nil
  | cons hpart _ ih =>
    obtain ⟨hstored, hrest⟩ := List.forall_mem_cons.1 hstored
    obtain ⟨text, htext, hpart⟩ := hpart
    obtain rfl := Option.some.inj (hstored.symm.trans htext)
    exact .cons hpart (ih hrest)

theorem bundle_ok_iff (token : Text) {config : Config} {b b' : Bench} {result : BundleResult}
    (hminify : config.minify = false) (hprint : config.toStdout = false) :
    (∃ journal, (bundle token config).result { env := b } = (.ok result, ⟨b', journal⟩)) ↔
      ∃ paths parts, Bundles b.store config paths parts ∧
        result = ⟨['\n'].intercalate parts, paths, if paths = [] then none else config.outputFile⟩ ∧
        b' = b.deliver result.css result.outputFile := by
  have hinputs := b.store.areInputs_sources config
  have hstored : ∀ source ∈ b.store.sources config, b.store.files[source.path]? = some source.text :=
    fun source hmem => (Store.mem_sources_iff.1 hmem).stored
  have hwritten : config.written (b.store.sources config)
      = if (b.store.sources config).map Source.path = [] then none else config.outputFile := by
    rw [Config.written_eq, hprint]
    simp
  constructor
  · rintro ⟨journal, hrun⟩
    obtain ⟨_, s₁, hcheck, _⟩ := result_bind_ok hrun
    have hvalid := valid_of_checkInput hcheck
    have hdir := isDirectory_of_checkInput hcheck
    rcases scoped_or_fault (b.store.sources config) with
      ⟨parts, hparts⟩ | ⟨before, parts, source, e, after, hsources, hparts, he⟩
    · obtain ⟨log, hresult, _⟩ := (bundle_gives_ok token hvalid hminify hdir hparts).exists_log []
      obtain ⟨hresult, hstate⟩ := Prod.mk.inj (hrun.symm.trans hresult)
      obtain rfl := Except.ok.inj hresult
      obtain ⟨rfl, _⟩ := RunState.mk.inj hstate
      exact ⟨_, parts, ⟨hvalid, hdir, hinputs, hparts.scopesTo hstored⟩, by rw [hwritten], rfl⟩
    · obtain ⟨log, hresult, _⟩ :=
        (bundle_gives_error token hvalid hdir hsources hparts he).exists_log []
      cases congrArg Prod.fst (hrun.symm.trans hresult)
  · rintro ⟨paths, parts, ⟨hvalid, hdir, hpaths, hscopes⟩, rfl, rfl⟩
    obtain rfl := hpaths.unique hinputs
    have hparts := scoped_of_scopesTo hstored hscopes
    obtain ⟨log, hresult, _⟩ := (bundle_gives_ok token hvalid hminify hdir hparts).exists_log []
    rw [hwritten] at hresult
    exact ⟨log, hresult⟩

section

variable {config : Config} {b b' : Bench}

theorem exists_bundle_ok_iff (token : Text) {css : Text} {paths : List Text}
    (hminify : config.minify = false) (hprint : config.toStdout = false) (hvalid : config.valid = true)
    (hdir : b.store.isDirectory config.inputDir = true) :
    (∃ result final, (bundle token config).result { env := b } = (.ok result, final) ∧
        result.css = css ∧ result.files = paths ∧ final.env = b') ↔
      (AreInputs b.store config paths ∧ ∃ parts, List.Forall₂ b.store.ScopesTo paths parts ∧
        ['\n'].intercalate parts = css) ∧
      b' = b.deliver css (if paths = [] then none else config.outputFile) := by
  constructor
  · rintro ⟨result, final, hrun, rfl, rfl, rfl⟩
    obtain ⟨paths, parts, hbundles, rfl, hfinal⟩ :=
      (bundle_ok_iff token hminify hprint).1 ⟨final.journal, hrun⟩
    exact ⟨⟨hbundles.inputs, parts, hbundles.scopes, rfl⟩, hfinal⟩
  · rintro ⟨⟨hinputs, parts, hscopes, rfl⟩, rfl⟩
    obtain ⟨journal, hrun⟩ := (bundle_ok_iff token hminify hprint).2
      ⟨paths, parts, ⟨hvalid, hdir, hinputs, hscopes⟩, rfl, rfl⟩
    exact ⟨_, _, hrun, rfl, rfl, rfl⟩

/-- On what a run has left behind a second run gives the same bundle exactly when nothing was written, or
when the output file adds the same to both bundles: nothing, as no input of either run, or the same text
under its scopes. -/
theorem rerun_same_iff (token token' : Text) {result : BundleResult} {final : RunState Bench}
    (hminify : config.minify = false) (hprint : config.toStdout = false)
    (hrun : (bundle token config).result { env := b } = (.ok result, final)) :
    (∃ result' final', (bundle token' config).result { env := final.env } = (.ok result', final') ∧
        result'.css = result.css ∧ result'.files = result.files ∧ final'.env = final.env) ↔
      result.files = [] ∨
      ∃ path added, config.outputFile = some path ∧ b.store.Adds config path added ∧
        final.env.store.Adds config path added := by
  obtain ⟨paths, parts, hbundles, rfl, henv⟩ :=
    (bundle_ok_iff token hminify hprint).1 ⟨final.journal, hrun⟩
  by_cases hpaths : paths = []
  · -- nothing has changed, and the second run is the first
    rw [if_pos hpaths] at henv ⊢
    refine iff_of_true ?_ (.inl hpaths)
    rw [henv]
    refine (exists_bundle_ok_iff token' hminify hprint hbundles.valid hbundles.directory).2 ?_
    exact ⟨⟨hbundles.inputs, parts, hbundles.scopes, rfl⟩, by rw [if_pos hpaths]⟩
  · obtain ⟨out, hout⟩ := Config.exists_outputFile hbundles.valid hprint
    rw [if_neg hpaths, hout] at henv
    have hstore : final.env.store = b.store.write out (['\n'].intercalate parts) := by
      rw [henv]
      rfl
    have hagrees : b.store.AgreesExceptAt final.env.store out := by
      rw [hstore]
      exact b.store.agreesExceptAt_write out _
    have hdir : final.env.store.isDirectory config.inputDir = true := by
      rw [hstore]
      exact Store.isDirectory_write hbundles.directory _ _
    -- the same bundle, written once more, is there already
    have hdeliver : final.env = final.env.deliver (['\n'].intercalate parts)
        (if paths = [] then none else config.outputFile) := by
      rw [if_neg hpaths, hout, henv]
      simp only [Bench.deliver, Bench.write, Store.write_write]
    rw [exists_bundle_ok_iff token' hminify hprint hbundles.valid hdir, and_iff_left hdeliver,
      same_bundle_iff hagrees hbundles.inputs hbundles.scopes]
    constructor
    · rintro ⟨added, hadds, hadds'⟩
      exact .inr ⟨out, added, hout, hadds, hadds'⟩
    · rintro (hfiles | ⟨path, added, hpath, hadds, hadds'⟩)
      · exact absurd hfiles hpaths
      · obtain rfl := Option.some.inj (hout.symm.trans hpath)
        exact ⟨added, hadds, hadds'⟩

end

theorem rerun_same_on_own_source :
    let bench : Bench := { store := .ofLists [("src/a.css".toList, "p".toList)] [] }
    let config : Config := { inputDir := "src".toList, outputFile := some "src/a.css".toList }
    let first := (bundle [] config).result { env := bench }
    config.minify = false ∧ config.toStdout = false ∧
    ∃ result, first = (.ok result, first.2) ∧ result.files ≠ [] ∧
      ∃ result' final', (bundle [] config).result { env := first.2.env } = (.ok result', final') ∧
        result'.css = result.css ∧ result'.files = result.files ∧ final'.env = first.2.env := by
  intro bench config first
  have hfirst : first = (.ok ⟨"p".toList, ["src/a.css".toList], some "src/a.css".toList⟩, first.2) :=
    Prod.ext (by decide +kernel) rfl
  have hbelow : ∃ rest, "src/a.css".toList = Store.dirBase config.inputDir ++ '/' :: rest ∧
      (config.recursive = true ∨ '/' ∉ rest) := ⟨"a.css".toList, by decide, .inl rfl⟩
  have hvisible : ∃ c ∈ "p".toList, Text.isBlank c = false := ⟨'p', by decide, by decide⟩
  have hpart : scopeSheet "p".toList = .ok "p".toList := by decide +kernel
  have hbefore : IsInput bench.store config "src/a.css".toList "p".toList :=
    ⟨by decide +kernel, hbelow, by decide, hvisible⟩
  have hafter : IsInput first.2.env.store config "src/a.css".toList "p".toList :=
    ⟨by decide +kernel, hbelow, by decide, hvisible⟩
  have hagain := (rerun_same_iff [] [] rfl rfl hfirst).2
    (.inr ⟨"src/a.css".toList, some "p".toList, rfl, ⟨_, hbefore, hpart⟩, ⟨_, hafter, hpart⟩⟩)
  exact ⟨rfl, rfl, _, hfirst, nofun, hagain⟩

/-- A bundle written beside its only sheet is one of the sheets of the next run. -/
theorem rerun_bundles_own_output :
    let bench : Bench := { store := .ofLists [("src/a.css".toList, "p".toList)] [] }
    let config : Config := { inputDir := "src".toList, outputFile := some "src/b.css".toList }
    let first := (bundle [] config).result { env := bench }
    let second := (bundle [] config).result { env := first.2.env }
    config.minify = false ∧ config.toStdout = false ∧
    first.1 = .ok ⟨"p".toList, ["src/a.css".toList], some "src/b.css".toList⟩ ∧
    second.1 = .ok ⟨"p\np".toList, ["src/a.css".toList, "src/b.css".toList],
      some "src/b.css".toList⟩ ∧
    first.2.env.store.files["src/b.css".toList]? = some "p".toList ∧
    second.2.env.store.files["src/b.css".toList]? = some "p\np".toList := by
  intro bench config first second
  refine ⟨rfl, rfl, ?_, ?_, ?_, ?_⟩ <;> decide +kernel

end ScopedSheets
