import Mathlib.Data.List.Sort
import ScopedSheets.Bundle
import ScopedSheets.Proofs.Store.Listing

/-!
# The inputs of a run

Which files of a store a run bundles, said by their paths and contents (`IsInput`), and their list in the
order of the paths (`AreInputs`), which is one list only. The listing of the store with the tests of the
run gives this list.
-/

namespace ScopedSheets

/-- The store has this text at the path, the path lies under the input directory and is a sheet's, and
the text is not of white space only. -/
structure IsInput (s : Store) (config : Config) (path text : Text) : Prop where
  stored : s.files[path]? = some text
  below : ∃ rest, path = Store.dirBase config.inputDir ++ '/' :: rest ∧
    (config.recursive = true ∨ '/' ∉ rest)
  named : ".css".toList <:+ path
  visible : ∃ c ∈ text, Text.isBlank c = false

/-- The paths of all inputs in the order of code points, each once. -/
structure AreInputs (s : Store) (config : Config) (paths : List Text) : Prop where
  sorted : paths.Pairwise (· < ·)
  mem_iff : ∀ path, path ∈ paths ↔ ∃ text, IsInput s config path text

theorem AreInputs.unique {s : Store} {config : Config} {paths paths' : List Text}
    (h : AreInputs s config paths) (h' : AreInputs s config paths') : paths = paths' :=
  h.sorted.eq_of_mem_iff h'.sorted fun path => (h.mem_iff path).trans (h'.mem_iff path).symm

def Store.source? (s : Store) (path : Text) : Option Source :=
  (s.files[path]?.filter (!Text.isBlankText ·)).map (⟨path, ·⟩)

theorem Store.source?_eq_some_iff {s : Store} {path : Text} {source : Source} :
    s.source? path = some source ↔
      source.path = path ∧ s.files[path]? = some source.text ∧ Text.isBlankText source.text = false := by
  simp only [source?, Option.map_eq_some_iff, Option.filter_eq_some_iff, Bool.not_eq_true']
  constructor
  · rintro ⟨text, ⟨hstored, hblank⟩, rfl⟩
    exact ⟨rfl, hstored, hblank⟩
  · rintro ⟨rfl, hstored, hblank⟩
    exact ⟨_, ⟨hstored, hblank⟩, rfl⟩

def Store.sheetPaths (s : Store) (config : Config) : List Text :=
  (s.files.keys.filter (lists config.inputDir config.recursive)).filter isSheetPath

def Store.sources (s : Store) (config : Config) : List Source :=
  (s.sheetPaths config).filterMap s.source?

theorem Store.mem_sources_iff {s : Store} {config : Config} {source : Source} :
    source ∈ s.sources config ↔ IsInput s config source.path source.text := by
  have hvisible : Text.isBlankText source.text = false ↔
      ∃ c ∈ source.text, Text.isBlank c = false := by
    simp only [Text.isBlankText, List.all_eq_false, Bool.not_eq_true]
  simp only [sources, sheetPaths, List.mem_filterMap, List.mem_filter, source?_eq_some_iff, lists_iff,
    isSheetPath, List.isSuffixOf_iff_suffix, Std.ExtTreeMap.mem_keys, hvisible]
  constructor
  · rintro ⟨path, ⟨⟨_, hbelow⟩, hnamed⟩, rfl, hstored, hvisible⟩
    exact ⟨hstored, hbelow, hnamed, hvisible⟩
  · rintro ⟨hstored, hbelow, hnamed, hvisible⟩
    have hmem : source.path ∈ s.files := by
      rw [Std.ExtTreeMap.mem_iff_isSome_getElem?, hstored]
      rfl
    exact ⟨_, ⟨⟨hmem, hbelow⟩, hnamed⟩, rfl, hstored, hvisible⟩

theorem Store.map_path_filterMap_source? (s : Store) (paths : List Text) :
    (paths.filterMap s.source?).map Source.path = paths.filter fun path => (s.source? path).isSome := by
  induction paths with
  | nil => rfl
  | cons path paths ih =>
    cases h : s.source? path with
    | none => simp [h, ih]
    | some source => simp [h, ih, (source?_eq_some_iff.1 h).1]

theorem Store.areInputs_sources (s : Store) (config : Config) :
    AreInputs s config ((s.sources config).map Source.path) := by
  constructor
  · rw [sources, map_path_filterMap_source?]
    exact ((s.pairwise_keys.filter _).filter _).filter _
  · intro path
    rw [List.mem_map]
    constructor
    · rintro ⟨source, hmem, rfl⟩
      exact ⟨source.text, mem_sources_iff.1 hmem⟩
    · rintro ⟨text, h⟩
      exact ⟨⟨path, text⟩, mem_sources_iff.2 h, rfl⟩

end ScopedSheets
