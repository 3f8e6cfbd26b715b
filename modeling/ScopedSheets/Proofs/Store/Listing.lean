import Mathlib.Data.List.Basic
import Mathlib.Data.List.Lex
import ScopedSheets.Proofs.Text.Cutting
import ScopedSheets.Proofs.Text.Trimming
import ScopedSheets.Store

/-!
# Listing a store

No directory is stored. A path is one when it was declared or when a file lies under it, and a listing
is made from the paths of all files. Still the operations fit together as if there were a tree: what is
listed is what can be read there, in the order of code points and whether or not the directory is written
with slashes at its end (`Store.agrees`), and everything below a directory lies right in it or below
exactly one of the directories in it (`Store.IsListing.divides`).
-/

namespace ScopedSheets

theorem Text.compare_eq_lt_iff (a b : Text) : compare a b = .lt ↔ a < b := by
  have hchar (c d : Char) : compare c d = .lt ↔ c < d := compareOfLessAndEq_eq_lt
  rw [List.compare_eq_compareLex]
  induction a generalizing b with
  | nil => cases b <;> simp [List.compareLex]
  | cons c a ih =>
    cases b with
    | nil => simp [List.compareLex]
    | cons d b =>
      simp only [List.compareLex_cons_cons, List.cons_lt_cons_iff, Ordering.then_eq_lt, ih, hchar,
        Std.LawfulEqCmp.compare_eq_iff_eq]

namespace Store

variable {s : Store} {root root' base path name rest : Text} {recursive : Bool} {all flat paths : List Text}

theorem pairwise_keys (s : Store) : s.files.keys.Pairwise (· < ·) :=
  Std.ExtTreeMap.ordered_keys.imp (Text.compare_eq_lt_iff _ _).1

theorem exists_slashes (root : Text) : ∃ n, root = dirBase root ++ List.replicate n '/' := by
  have hcut := Text.trimRight_append_takeWhile (p := (· == '/')) root
  rw [Text.takeWhile_eq_replicate, List.reverse_replicate] at hcut
  exact ⟨_, hcut.symm⟩

theorem getLast?_dirBase (root : Text) : (dirBase root).getLast? ≠ some '/' := by
  intro h
  rw [dirBase, Text.trimRight, List.getLast?_reverse] at h
  have hslash := Text.head?_dropWhile h
  simp at hslash

theorem dirBase_append_slashes (root : Text) (n : Nat) :
    dirBase (root ++ List.replicate n '/') = dirBase root := by
  apply Text.trimRight_append_of_all
  intro c hc
  exact beq_of_eq (List.eq_of_mem_replicate hc)

theorem dirBase_eq_self (h : root.getLast? ≠ some '/') : dirBase root = root := by
  apply Text.trimRight_eq_self
  intro c hc
  rw [beq_eq_false_iff_ne]
  rintro rfl
  exact h hc

theorem dirBase_append_name (hne : name ≠ []) (hslash : '/' ∉ name) :
    dirBase (base ++ '/' :: name) = base ++ '/' :: name := by
  apply dirBase_eq_self
  intro h
  rw [List.getLast?_append_of_ne_nil _ (List.cons_ne_nil _ _), List.getLast?_cons_of_ne_nil hne] at h
  exact hslash (List.mem_of_getLast? h)

def Readable (s : Store) (path : Text) : Prop := ∃ content, s.read path = .ok content

theorem readable_iff : s.Readable path ↔ path ∈ s.files := by
  unfold Readable read
  rw [Std.ExtTreeMap.mem_iff_isSome_getElem?]
  cases s.files[path]? with
  | none => simp
  | some content => simp

theorem below?_eq_some_iff : below? root path = some rest ↔ path = dirBase root ++ '/' :: rest := by
  constructor
  · intro h
    have hpath := Text.eq_append_of_isPrefixOf? h
    rw [hpath, List.append_assoc, List.singleton_append]
  · rintro rfl
    have h := Text.isPrefixOf?_append (dirBase root ++ ['/']) rest
    rwa [List.append_assoc, List.singleton_append] at h

theorem lists_iff : lists root recursive path = true ↔
    ∃ rest, path = dirBase root ++ '/' :: rest ∧ (recursive = true ∨ '/' ∉ rest) := by
  simp only [lists, Option.any_eq_true, below?_eq_some_iff, Bool.or_eq_true, Bool.not_eq_true',
    List.contains_eq_mem, decide_eq_false_iff_not]

theorem isDirectory_iff : s.isDirectory root = true ↔
    dirBase root ∈ s.directories ∨ ∃ rest, s.Readable (dirBase root ++ '/' :: rest) := by
  simp only [isDirectory, Bool.or_eq_true, List.contains_eq_mem, decide_eq_true_eq, List.any_eq_true,
    Std.ExtTreeMap.mem_keys, Option.isSome_iff_exists, below?_eq_some_iff, readable_iff]
  refine or_congr_right ⟨?_, ?_⟩
  · rintro ⟨path, hpath, rest, rfl⟩
    exact ⟨rest, hpath⟩
  · rintro ⟨rest, hpath⟩
    exact ⟨_, hpath, rest, rfl⟩

theorem isDirectory_congr (h : dirBase root = dirBase root') :
    s.isDirectory root = s.isDirectory root' := by
  rw [Bool.eq_iff_iff, isDirectory_iff, isDirectory_iff, h]

theorem list_eq_ok_iff : s.list root recursive = .ok paths ↔
    s.isDirectory root = true ∧ s.files.keys.filter (lists root recursive) = paths := by
  unfold list
  split
  · next h => simp [h]
  · next h => simp [h]

theorem exists_list_iff :
    (∃ paths, s.list root recursive = .ok paths) ↔ s.isDirectory root = true := by
  simp only [list_eq_ok_iff, exists_and_left, exists_eq', and_true]

theorem mem_of_list (h : s.list root recursive = .ok paths) : path ∈ paths ↔
    s.Readable path ∧ ∃ rest, path = dirBase root ++ '/' :: rest ∧ (recursive = true ∨ '/' ∉ rest) := by
  obtain ⟨_, rfl⟩ := list_eq_ok_iff.1 h
  rw [List.mem_filter, lists_iff, Std.ExtTreeMap.mem_keys, readable_iff]

theorem pairwise_of_list (h : s.list root recursive = .ok paths) : paths.Pairwise (· < ·) := by
  obtain ⟨_, rfl⟩ := list_eq_ok_iff.1 h
  exact s.pairwise_keys.filter _

theorem list_ok_congr (h : dirBase root = dirBase root') :
    s.list root recursive = .ok paths ↔ s.list root' recursive = .ok paths := by
  have hlists : lists root recursive = lists root' recursive := by
    funext path
    rw [Bool.eq_iff_iff, lists_iff, lists_iff, h]
  rw [list_eq_ok_iff, list_eq_ok_iff, isDirectory_congr h, hlists]

/-- The listings of a directory by the paths that can be read: `all` has those under `base`, and `flat`
those right in it. -/
structure IsListing (s : Store) (base : Text) (all flat : List Text) : Prop where
  sorted : all.Pairwise (· < ·)
  mem_iff : ∀ path, path ∈ all ↔ s.Readable path ∧ ∃ rest, path = base ++ '/' :: rest
  sublist : flat.Sublist all
  mem_flat_iff : ∀ path, path ∈ flat ↔ path ∈ all ∧ ∃ rest, path = base ++ '/' :: rest ∧ '/' ∉ rest

theorem isListing_of_list (hall : s.list root true = .ok all) (hflat : s.list root false = .ok flat) :
    s.IsListing (dirBase root) all flat := by
  have hmem (path : Text) : path ∈ all ↔ s.Readable path ∧ ∃ rest, path = dirBase root ++ '/' :: rest := by
    simp only [mem_of_list hall, true_or, and_true]
  refine ⟨pairwise_of_list hall, hmem, ?_, ?_⟩
  · obtain ⟨_, rfl⟩ := list_eq_ok_iff.1 hall
    obtain ⟨_, rfl⟩ := list_eq_ok_iff.1 hflat
    apply List.monotone_filter_right
    intro path hpath
    obtain ⟨rest, hrest, _⟩ := lists_iff.1 hpath
    exact lists_iff.2 ⟨rest, hrest, .inl rfl⟩
  · intro path
    rw [hmem, mem_of_list hflat]
    constructor
    · rintro ⟨hread, rest, hrest, hslash⟩
      exact ⟨⟨hread, rest, hrest⟩, rest, hrest, hslash.resolve_left nofun⟩
    · rintro ⟨⟨hread, _⟩, rest, hrest, hslash⟩
      exact ⟨hread, rest, hrest, .inr hslash⟩

/-- A name below `base` under which there is at least one file. -/
structure IsSubdirectory (s : Store) (base name : Text) : Prop where
  ne_nil : name ≠ []
  no_slash : '/' ∉ name
  file : ∃ rest, s.Readable (base ++ '/' :: name ++ '/' :: rest)

/-- What is listed under a subdirectory. -/
structure IsPart (s : Store) (base name : Text) (part : List Text) : Prop where
  subdirectory : s.IsSubdirectory base name
  listed : s.list (base ++ '/' :: name) true = .ok part

/-- `all` is the disjoint union of `flat` and of what is listed under the subdirectories. -/
structure Divides (s : Store) (base : Text) (all flat : List Text) : Prop where
  listed : ∀ name, s.IsSubdirectory base name → ∃ part, s.IsPart base name part
  mem_iff : ∀ path, path ∈ all ↔ path ∈ flat ∨ ∃ name part, s.IsPart base name part ∧ path ∈ part
  disjoint_flat : ∀ name part, s.IsPart base name part → flat.Disjoint part
  disjoint : ∀ name name' part part', s.IsPart base name part → s.IsPart base name' part' →
    name ≠ name' → part.Disjoint part'

theorem IsSubdirectory.exists_isPart (h : s.IsSubdirectory base name) :
    ∃ part, s.IsPart base name part := by
  have hdir : s.isDirectory (base ++ '/' :: name) = true := by
    rw [isDirectory_iff, dirBase_append_name h.ne_nil h.no_slash]
    exact .inr h.file
  obtain ⟨part, hpart⟩ := exists_list_iff.2 hdir
  exact ⟨part, h, hpart⟩

theorem IsPart.mem_iff {part : List Text} (h : s.IsPart base name part) : path ∈ part ↔
    s.Readable path ∧ ∃ rest, path = base ++ '/' :: (name ++ '/' :: rest) := by
  have hbase : dirBase (base ++ '/' :: name) = base ++ '/' :: name :=
    dirBase_append_name h.subdirectory.ne_nil h.subdirectory.no_slash
  rw [mem_of_list h.listed, hbase]
  simp only [true_or, and_true, List.append_assoc, List.cons_append]

theorem IsPart.name_unique {name' : Text} {part part' : List Text} (h : s.IsPart base name part)
    (h' : s.IsPart base name' part') (hmem : path ∈ part) (hmem' : path ∈ part') : name = name' := by
  obtain ⟨_, below, hbelow⟩ := h.mem_iff.1 hmem
  obtain ⟨_, below', hbelow'⟩ := h'.mem_iff.1 hmem'
  have hsame : name ++ '/' :: below = name' ++ '/' :: below' :=
    (List.cons.inj (List.append_cancel_left (hbelow.symm.trans hbelow'))).2
  exact Text.eq_of_append_cons h.subdirectory.no_slash h'.subdirectory.no_slash hsame

theorem exists_isPart_of_slash (hread : s.Readable (base ++ '/' :: rest)) (hslash : '/' ∈ rest)
    (hplain : ¬ "//".toList <:+: base ++ '/' :: rest) :
    ∃ name part, s.IsPart base name part ∧ base ++ '/' :: rest ∈ part := by
  obtain ⟨name, below, rfl, hname⟩ := List.eq_append_cons_of_mem hslash
  -- without a name there would be two slashes in a row
  have hne : name ≠ [] := by
    rintro rfl
    exact hplain ⟨base, below, by simp⟩
  have hsub : s.IsSubdirectory base name := ⟨hne, hname, below, by simpa using hread⟩
  obtain ⟨part, hpart⟩ := hsub.exists_isPart
  exact ⟨name, part, hpart, hpart.mem_iff.2 ⟨hread, below, rfl⟩⟩

theorem IsListing.divides (h : s.IsListing base all flat)
    (hplain : ∀ path, s.Readable path → ¬ "//".toList <:+: path) : s.Divides base all flat := by
  refine ⟨fun name hname => hname.exists_isPart, ?_, ?_, ?_⟩
  · intro path
    constructor
    · intro hmem
      obtain ⟨hread, rest, rfl⟩ := (h.mem_iff path).1 hmem
      by_cases hslash : '/' ∈ rest
      · exact .inr (exists_isPart_of_slash hread hslash (hplain _ hread))
      · exact .inl ((h.mem_flat_iff _).2 ⟨hmem, rest, rfl, hslash⟩)
    · rintro (hmem | ⟨name, part, hpart, hmem⟩)
      · exact h.sublist.subset hmem
      · obtain ⟨hread, rest, hrest⟩ := hpart.mem_iff.1 hmem
        exact (h.mem_iff path).2 ⟨hread, _, hrest⟩
  · intro name part hpart path hmem hmem'
    obtain ⟨_, rest, hrest, hslash⟩ := (h.mem_flat_iff path).1 hmem
    obtain ⟨_, below, hbelow⟩ := hpart.mem_iff.1 hmem'
    obtain rfl : rest = name ++ '/' :: below :=
      (List.cons.inj (List.append_cancel_left (hrest.symm.trans hbelow))).2
    simp at hslash
  · intro name name' part part' hpart hpart' hne path hmem hmem'
    exact hne (hpart.name_unique hpart' hmem hmem')

/-- The operations of a store agree about a directory: what exists there, what is listed and what can be
read. `base` is `root` without the slashes at its end, so it is `root` when there are none. -/
structure Agrees (s : Store) (declared : List Text) (root base : Text) : Prop where
  slashes : ∃ n, root = base ++ List.replicate n '/'
  last : base.getLast? ≠ some '/'
  contains_iff : s.contains root = true ↔ s.Readable root ∨ s.isDirectory root = true
  isDirectory_iff : s.isDirectory root = true ↔
    base ∈ declared ∨ ∃ rest, s.Readable (base ++ '/' :: rest)
  isDirectory_slashes : ∀ n, s.isDirectory (root ++ List.replicate n '/') = s.isDirectory root
  listed_iff : ∀ recursive, (∃ paths, s.list root recursive = .ok paths) ↔ s.isDirectory root = true
  list_slashes : ∀ n recursive paths,
    s.list (root ++ List.replicate n '/') recursive = .ok paths ↔ s.list root recursive = .ok paths
  listing : ∀ all flat, s.list root true = .ok all → s.list root false = .ok flat →
    s.IsListing base all flat
  divides : (∀ path, s.Readable path → ¬ "//".toList <:+: path) → ∀ all flat,
    s.list root true = .ok all → s.list root false = .ok flat → s.Divides base all flat

theorem contains_iff : s.contains path = true ↔ s.Readable path ∨ s.isDirectory path = true := by
  rw [contains, Bool.or_eq_true, Std.ExtTreeMap.contains_iff_mem, readable_iff]

theorem agrees (s : Store) (root : Text) : s.Agrees s.directories root (dirBase root) where
  slashes := exists_slashes root
  last := getLast?_dirBase root
  contains_iff := contains_iff
  isDirectory_iff := isDirectory_iff
  isDirectory_slashes n := isDirectory_congr (dirBase_append_slashes root n)
  listed_iff _ := exists_list_iff
  list_slashes n _ _ := list_ok_congr (dirBase_append_slashes root n)
  listing _ _ hall hflat := isListing_of_list hall hflat
  divides hplain _ _ hall hflat := (isListing_of_list hall hflat).divides hplain

end Store

end ScopedSheets
