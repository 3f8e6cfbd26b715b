import ScopedSheets.Cli
import ScopedSheets.Proofs.Host.Path
import ScopedSheets.Proofs.Sheet.Division
import ScopedSheets.Proofs.Text.Transfer

/-!
# Sheets without a marker on the command line

A sheet in which no marker opens a block is scoped to itself, and reading its file makes no marker either.
So what the command prints is the text of the file but for the line ends that reading unifies and the
styling that printing takes away (`scope_copies_unmarked_iff`).
-/

namespace ScopedSheets

open Text (isBlank unifyNewlines stripStyling HasStyling)

theorem all_isBlank_of_unifyNewlines {t : Text} (h : (unifyNewlines t).all isBlank) : t.all isBlank := by
  rw [List.all_eq_true] at h ⊢
  intro c hc
  cases Text.mem_unifyNewlines hc with
  | inl hreturn =>
    rw [hreturn]
    decide
  | inr hread => exact h c hread

theorem ne_nil_of_unifyNewlines {t : Text} (h : unifyNewlines t ≠ []) : t ≠ [] := by
  rintro rfl
  exact h rfl

theorem Opening.exists_before_reading {m : Opening} {w : Text} (hm : m.WellFormed)
    (hw : unifyNewlines w = m.text) : ∃ m' : Opening, m'.WellFormed ∧ w = m'.text := by
  unfold Opening.text at hw
  obtain ⟨w₁, close, rfl, hw, hclose⟩ := Text.exists_of_unifyNewlines_append hw
  obtain ⟨w₂, trail, rfl, hw, htrail⟩ := Text.exists_of_unifyNewlines_append hw
  obtain ⟨w₃, name, rfl, hw, hname⟩ := Text.exists_of_unifyNewlines_append hw
  obtain ⟨w₄, gap, rfl, hw, hgap⟩ := Text.exists_of_unifyNewlines_append hw
  obtain ⟨w₅, keyword, rfl, hw, hkeyword⟩ := Text.exists_of_unifyNewlines_append hw
  obtain ⟨opener, lead, rfl, hopener, hlead⟩ := Text.exists_of_unifyNewlines_append hw
  obtain rfl := Text.eq_of_unifyNewlines_eq hclose (by decide)
  obtain rfl := Text.eq_of_unifyNewlines_eq hkeyword (by decide)
  obtain rfl := Text.eq_of_unifyNewlines_eq hopener (by decide)
  have hnewline : '\n' ∉ m.name := by
    intro hn
    have hsolid := List.all_eq_true.1 hm.name_solid _ hn
    nomatch hsolid
  obtain rfl := Text.eq_of_unifyNewlines_eq hname hnewline
  refine ⟨⟨lead, gap, m.name, trail⟩, ⟨?_, ?_, ?_, hm.name_solid, hm.name_ne_nil, ?_⟩, rfl⟩
  · exact all_isBlank_of_unifyNewlines (hlead ▸ hm.lead_blank)
  · exact all_isBlank_of_unifyNewlines (hgap ▸ hm.gap_blank)
  · exact ne_nil_of_unifyNewlines (hgap ▸ hm.gap_ne_nil)
  · exact all_isBlank_of_unifyNewlines (htrail ▸ hm.trail_blank)

def Unmarked (t : Text) : Prop := ∀ m : Opening, m.WellFormed → ¬ m.text <:+: t

theorem Unmarked.unifyNewlines {t : Text} (h : Unmarked t) : Unmarked (unifyNewlines t) := by
  intro m hm hin
  obtain ⟨w, hw, hread⟩ := Text.exists_of_infix_unifyNewlines hin
  obtain ⟨m', hm', rfl⟩ := Opening.exists_before_reading hm hread
  exact h m' hm' hw

theorem scopeSheet_of_unmarked {t : Text} (h : Unmarked t) : scopeSheet t = .ok t := by
  have hnone : findOpening? t = none := findOpening?_eq_none_iff_infix.2 h
  have hfirst : firstSection t = .error (.plain t) :=
    firstSection_eq_plain_iff.2 ⟨rfl, findOpening?_eq_none_iff.1 hnone⟩
  exact scopeSheet_of_layout (layout_of_error hfirst)

theorem ne_hyphens_of_not_isOptionWord {word : Text} (h : isOptionWord word = false) : word ≠ "--".toList := by
  rintro rfl
  nomatch h

theorem readOptions_argument {α : Type} (table : OptionTable α) {word : Text} (h : isOptionWord word = false)
    (rest : List Text) : readOptions table false (word :: rest) = .ok ([], word :: rest) := by
  unfold readOptions
  rw [if_neg (ne_hyphens_of_not_isOptionWord h), h]
  rfl

theorem readOptions_arguments {α : Type} (table : OptionTable α) {words : List Text}
    (h : ∀ word ∈ words, isOptionWord word = false) : readOptions table true words = .ok ([], words) := by
  induction words with
  | nil =>
    unfold readOptions
    rfl
  | cons word rest ih =>
    have hword := h word (List.mem_cons_self ..)
    have hrest := ih fun w hw => h w (List.mem_cons_of_mem _ hw)
    unfold readOptions
    rw [if_neg (ne_hyphens_of_not_isOptionWord hword), hword, hrest]
    rfl

section

variable {σ : Type} [OperatingSystem σ] {host : Host σ} {path : Text} {content : Bytes} {executable : Bool}

theorem ScopeCommand.readArgs_path (hword : isOptionWord path = false) (hnull : '\x00' ∉ path)
    (hfile : host.disk.find? host.home path = some (.file content executable)) :
    ScopeCommand.readArgs host [path] = .ok (some path) := by
  have hoptions : readOptions ScopeCommand.options true [path] = .ok ([], [path]) :=
    readOptions_arguments _ (by simpa using hword)
  have hcheck : ScopeCommand.checkPath host path = .ok () := by
    unfold ScopeCommand.checkPath
    rw [if_neg (by simpa using hnull), hfile]
  unfold ScopeCommand.readArgs
  rw [hoptions]
  show (do ScopeCommand.checkPath host path; _) = _
  rw [hcheck]
  rfl

theorem Cli.run_scope (token : Text) (hword : isOptionWord path = false) (hnull : '\x00' ∉ path)
    (hfile : host.disk.find? host.home path = some (.file content executable)) :
    Cli.run token host ["scope".toList, path] = (ScopeCommand.scopeFile host path, host) := by
  have hargs : Cli.readArgs ["scope".toList, path] = .ok (.inr ["scope".toList, path]) := by
    unfold Cli.readArgs
    rw [if_neg (List.cons_ne_nil _ _), readOptions_argument _ (by decide)]
    rfl
  have hrun : ScopeCommand.run host [path] = ScopeCommand.scopeFile host path := by
    unfold ScopeCommand.run
    rw [ScopeCommand.readArgs_path hword hnull hfile]
  unfold Cli.run
  rw [hargs]
  show (if _ then _ else if _ then _ else _) = _
  rw [if_neg (by decide), if_pos rfl, hrun]

theorem Cli.run_scope_unmarked {t : Text} (token : Text) (hword : isOptionWord path = false)
    (hnull : '\x00' ∉ path) (hfile : host.disk.find? host.home path = some (.file (Utf8.encode t) executable))
    (ht : Unmarked t) :
    Cli.run token host ["scope".toList, path] = ({ stdout := stripStyling (unifyNewlines t) }, host) := by
  have hread : host.readPath (Path.ofText path) = .ok (unifyNewlines t) := by
    rw [Host.readPath_of_find? hnull hfile, Host.textOfBytes, Utf8.decode?_encode]
  rw [Cli.run_scope token hword hnull hfile, ScopeCommand.scopeFile, hread]
  simp only [scopeSheet_of_unmarked ht.unifyNewlines]
  rfl

/-- A sheet without a marker is printed with its line ends unified and without its styling, so it is copied
just when it has neither carriage returns nor styling. -/
theorem scope_copies_unmarked_iff {t : Text} (token : Text) (hword : isOptionWord path = false)
    (hnull : '\x00' ∉ path) (hfile : host.disk.find? host.home path = some (.file (Utf8.encode t) executable))
    (ht : Unmarked t) :
    Cli.run token host ["scope".toList, path] = (⟨0, stripStyling (unifyNewlines t), [], none⟩, host) ∧
      ((Cli.run token host ["scope".toList, path]).1.stdout = t ↔ '\r' ∉ t ∧ ¬ HasStyling t) := by
  have hrun := Cli.run_scope_unmarked token hword hnull hfile ht
  refine ⟨hrun, ?_⟩
  rw [hrun]
  exact Text.stripStyling_unifyNewlines_eq_iff

end

def Host.ofSheet (t : Text) : Host Disk :=
  ⟨Disk.empty.withFile ["a.css".toList] (Utf8.encode t) false, [], "/".toList⟩

theorem Host.find?_ofSheet (t : Text) :
    (Host.ofSheet t).disk.find? (Host.ofSheet t).home "a.css".toList = some (.file (Utf8.encode t) false) := by
  have hlocate : (Host.ofSheet t).disk.locate [] "a.css".toList = .ok ["a.css".toList] := by
    refine Disk.locate_ok_iff.2 ⟨by decide, by decide, ?_⟩
    have hnames : "a.css".toList.splitOn '/' = ["a.css".toList] := by decide
    rw [hnames, if_neg (by decide), Disk.follow_cons_of_isPart (by decide) rfl, if_neg (by decide),
      if_neg (by decide)]
    rfl
  refine Disk.find?_eq_some_iff.2 ⟨_, hlocate, ?_⟩
  exact Std.ExtTreeMap.getElem?_insert_self

theorem scope_copies_unmarked_iff_styled :
    Unmarked "/*SCOPE*/\r\x1b[1m\x1b[;".toList ∧
      (Cli.run [] (Host.ofSheet "/*SCOPE*/\r\x1b[1m\x1b[;".toList) ["scope".toList, "a.css".toList]).1.stdout
        = "/*SCOPE*/\n\x1b[;".toList := by
  have ht : Unmarked "/*SCOPE*/\r\x1b[1m\x1b[;".toList := findOpening?_eq_none_iff_infix.1 (by decide)
  obtain ⟨hrun, _⟩ := scope_copies_unmarked_iff [] (by decide) (by decide) (Host.find?_ofSheet _) ht
  refine ⟨ht, ?_⟩
  rw [hrun]
  cbv

/-- The two characters of a line end are printed as one. -/
theorem return_not_copied :
    (Host.ofSheet "a{}\r\n".toList).disk.find? (Host.ofSheet "a{}\r\n".toList).home "a.css".toList
        = some (.file (Utf8.encode "a{}\r\n".toList) false) ∧
      Unmarked "a{}\r\n".toList ∧
      Cli.run [] (Host.ofSheet "a{}\r\n".toList) ["scope".toList, "a.css".toList]
        = (⟨0, "a{}\n".toList, [], none⟩, Host.ofSheet "a{}\r\n".toList) ∧
      "a{}\n".toList ≠ "a{}\r\n".toList := by
  have ht : Unmarked "a{}\r\n".toList := findOpening?_eq_none_iff_infix.1 (by decide)
  have hrun := Cli.run_scope_unmarked [] (by decide) (by decide) (Host.find?_ofSheet _) ht
  have hprinted : stripStyling (unifyNewlines "a{}\r\n".toList) = "a{}\n".toList := by cbv
  rw [hprinted] at hrun
  exact ⟨Host.find?_ofSheet _, ht, hrun, by decide⟩

end ScopedSheets
