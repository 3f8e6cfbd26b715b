import ScopedSheets.Proofs.Store.Listing

/-!
# A store after some edits

Writing and removing files changes what can be read at one path and leaves all other paths alone. So
after any edits a path is read back as the last edit of it has left it, and the directories, their
listings and what can be read agree as in any store (`Store.agrees_after_edits`). The directories that
were declared stay the same ones, whatever is removed from them.
-/

namespace ScopedSheets

/-- A change of one file. -/
inductive Edit where
  | write (path content : Text)
  | remove (path : Text)
deriving DecidableEq, Repr

namespace Edit

def path : Edit → Text
  | write path _ => path
  | remove path => path

def outcome : Edit → Except Fault Text
  | write _ content => .ok content
  | remove path => .error (.notStored path)

end Edit

namespace Store

def edit (s : Store) : Edit → Store
  | .write path content => s.write path content
  | .remove path => s.remove path

def editAll (s : Store) (edits : List Edit) : Store := edits.foldl edit s

variable {s : Store} {edits before after : List Edit} {path content : Text}

theorem read_edit_self (s : Store) (e : Edit) : (s.edit e).read e.path = e.outcome := by
  cases e with
  | write path content => exact s.read_write path content
  | remove path => exact s.read_remove path

theorem read_edit_of_ne {e : Edit} (h : e.path ≠ path) : (s.edit e).read path = s.read path := by
  cases e with
  | write path' content => exact s.read_write_of_ne content h
  | remove path' => exact s.read_remove_of_ne h

theorem directories_edit (s : Store) (e : Edit) : (s.edit e).directories = s.directories := by
  cases e with
  | write path content => rfl
  | remove path => rfl

theorem editAll_append_cons (s : Store) (before : List Edit) (e : Edit) (after : List Edit) :
    s.editAll (before ++ e :: after) = ((s.editAll before).edit e).editAll after := by
  rw [editAll, List.foldl_append, List.foldl_cons]
  rfl

theorem read_editAll_of_ne (h : ∀ e ∈ edits, e.path ≠ path) :
    (s.editAll edits).read path = s.read path := by
  induction edits generalizing s with
  | nil => rfl
  | cons e edits ih =>
    obtain ⟨hne, hrest⟩ := List.forall_mem_cons.1 h
    have hlater : ((s.edit e).editAll edits).read path = (s.edit e).read path := ih hrest
    exact hlater.trans (read_edit_of_ne hne)

theorem read_editAll_append_cons {e : Edit} (h : ∀ e' ∈ after, e'.path ≠ e.path) :
    (s.editAll (before ++ e :: after)).read e.path = e.outcome := by
  rw [editAll_append_cons, read_editAll_of_ne h, read_edit_self]

theorem directories_editAll (s : Store) (edits : List Edit) :
    (s.editAll edits).directories = s.directories := by
  induction edits generalizing s with
  | nil => rfl
  | cons e edits ih =>
    have hlater : ((s.edit e).editAll edits).directories = (s.edit e).directories := ih (s.edit e)
    exact hlater.trans (s.directories_edit e)

/-- A path holds what was written to it last, until it is removed; without an edit of it, what it held at
first. -/
structure ReadsBack (s : Store) (edits : List Edit) (path : Text) : Prop where
  written : ∀ before content after, edits = before ++ .write path content :: after →
    (∀ e ∈ after, e.path ≠ path) → (s.editAll edits).read path = .ok content
  removed : ∀ before after, edits = before ++ .remove path :: after →
    (∀ e ∈ after, e.path ≠ path) → (s.editAll edits).read path = .error (.notStored path)
  unedited : (∀ e ∈ edits, e.path ≠ path) → (s.editAll edits).read path = s.read path

theorem readsBack (s : Store) (edits : List Edit) (path : Text) : s.ReadsBack edits path where
  written before content after hedits hafter := by
    subst hedits
    exact read_editAll_append_cons (e := .write path content) hafter
  removed before after hedits hafter := by
    subst hedits
    exact read_editAll_append_cons (e := .remove path) hafter
  unedited h := read_editAll_of_ne h

/-- After any edits, listing, existence and reading agree about every directory, and every path is read
back. -/
theorem agrees_after_edits (s : Store) (edits : List Edit) (root : Text) :
    (s.editAll edits).Agrees s.directories root (dirBase root) ∧
      ∀ path, s.ReadsBack edits path := by
  refine ⟨?_, s.readsBack edits⟩
  have hagrees := (s.editAll edits).agrees root
  rw [directories_editAll] at hagrees
  exact hagrees

theorem agrees_after_edits_siblings :
    let store := ofLists [("/src/b".toList, "p".toList), ("/src2/c".toList, "q".toList),
      ("/old/d".toList, "r".toList)] ["/empty/".toList]
    let edits : List Edit := [.write "/src/b/a".toList "s".toList, .remove "/old/d".toList,
      .write "/src/b".toList "t".toList]
    let final := store.editAll edits
    let all := ["/src/b".toList, "/src/b/a".toList]
    let flat := ["/src/b".toList]
    final.list "/src".toList true = .ok all ∧ final.list "/src".toList false = .ok flat ∧
    (∀ path, final.Readable path → ¬ "//".toList <:+: path) ∧
    final.Divides "/src".toList all flat ∧
    final.isDirectory "/empty//".toList = true ∧ final.isDirectory "/old".toList = false ∧
    final.read "/src/b".toList = .ok "t".toList ∧
    final.read "/old/d".toList = .error (.notStored "/old/d".toList) := by
  intro store edits final all flat
  have hall : final.list "/src".toList true = .ok all := by decide +kernel
  have hflat : final.list "/src".toList false = .ok flat := by decide +kernel
  have hplain : ∀ path, final.Readable path → ¬ "//".toList <:+: path := by
    have hkeys : ∀ path ∈ final.files.keys, ¬ "//".toList <:+: path := by decide +kernel
    intro path hread
    exact hkeys path (Std.ExtTreeMap.mem_keys.2 (readable_iff.1 hread))
  obtain ⟨hsrc, hread⟩ := store.agrees_after_edits edits "/src".toList
  obtain ⟨hempty, _⟩ := store.agrees_after_edits edits "/empty//".toList
  have hgone : final.isDirectory "/old".toList = false := by decide +kernel
  exact ⟨hall, hflat, hplain, hsrc.divides hplain all flat hall hflat,
    hempty.isDirectory_iff.2 (.inl (by decide)), hgone,
    (hread _).written [.write "/src/b/a".toList "s".toList, .remove "/old/d".toList] _ [] rfl nofun,
    (hread _).removed [.write "/src/b/a".toList "s".toList] [.write "/src/b".toList "t".toList] rfl
      (by decide)⟩

end Store

end ScopedSheets
