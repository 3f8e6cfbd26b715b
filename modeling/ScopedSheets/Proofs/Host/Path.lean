import Mathlib.Data.List.Flatten
import Mathlib.Tactic.ByContra
import ScopedSheets.Host.Files
import ScopedSheets.Proofs.Text.Cutting
import ScopedSheets.Proofs.Text.Trimming

/-!
# Files by their paths

A path is written anew before it is opened: empty names, single dots and most slashes at its beginning go.
What led to a file still leads to it, since the names that go lead nowhere else and the path becomes no
longer (`readPath_of_find?`).
-/

namespace ScopedSheets

namespace Disk

variable {d : Disk} {start place : Place} {names : List Text}

theorem follow_cons_ok {name : Text} (h : d.follow start (name :: names) = .ok place) :
    d.node? start = some .directory := by
  unfold follow at h
  split at h
  · nomatch h
  · assumption
  · nomatch h

theorem follow_cons_of_not_isPart {name : Text} (hname : Path.isPart name = false)
    (h : d.node? start = some .directory) : d.follow start (name :: names) = d.follow start names := by
  have hskip : name = [] ∨ name = ".".toList := by
    rw [Path.isPart, Bool.and_eq_false_iff, decide_eq_false_iff_not, decide_eq_false_iff_not, not_not,
      not_not] at hname
    exact hname
  conv => lhs; unfold follow
  rw [h]
  simp only [Bool.or_eq_true, decide_eq_true_eq, if_pos hskip]

theorem follow_cons_of_isPart {name : Text} (hname : Path.isPart name = true)
    (h : d.node? start = some .directory) :
    d.follow start (name :: names) =
      if name = "..".toList then d.follow start.dropLast names
      else if maxName < (Utf8.encode name).length then .error .longName
      else d.follow (start ++ [name]) names := by
  have hkeep : ¬ (name = [] ∨ name = ".".toList) := by
    rw [Path.isPart, Bool.and_eq_true, decide_eq_true_eq, decide_eq_true_eq] at hname
    exact not_or.2 hname
  conv => lhs; unfold follow
  rw [h]
  simp only [Bool.or_eq_true, decide_eq_true_eq, if_neg hkeep]

theorem follow_filter (h : d.follow start names = .ok place) :
    d.follow start (names.filter Path.isPart) = .ok place := by
  induction names generalizing start with
  | nil => exact h
  | cons name names ih =>
    have hdir := follow_cons_ok h
    cases hname : Path.isPart name with
    | false =>
      rw [follow_cons_of_not_isPart hname hdir] at h
      rw [List.filter_cons_of_neg (by simp [hname])]
      exact ih h
    | true =>
      rw [follow_cons_of_isPart hname hdir] at h
      rw [List.filter_cons_of_pos hname, follow_cons_of_isPart hname hdir]
      split
      · next hup =>
        rw [if_pos hup] at h
        exact ih h
      · next hup =>
        rw [if_neg hup] at h
        split
        · next hlong =>
          rw [if_pos hlong] at h
          nomatch h
        · next hlong =>
          rw [if_neg hlong] at h
          exact ih h

theorem eq_directory_of_no_parts (hne : names ≠ []) (hparts : names.filter Path.isPart = [])
    (h : d.follow start names = .ok place) : d.node? place = some .directory := by
  have hstay := follow_filter h
  rw [hparts] at hstay
  obtain rfl : start = place := Except.ok.inj hstay
  obtain ⟨name, names, rfl⟩ := List.exists_cons_of_ne_nil hne
  exact follow_cons_ok h

theorem follow_root_replicate (n : Nat) :
    d.follow [] (List.replicate n [] ++ names) = d.follow [] names := by
  induction n with
  | zero => rfl
  | succ n ih => rw [List.replicate_succ, List.cons_append, follow_cons_of_not_isPart rfl rfl, ih]

end Disk

namespace Path

theorem not_slash_mem_parts {t part : Text} (h : part ∈ (ofText t).parts) : '/' ∉ part :=
  Text.not_mem_of_mem_splitOn (List.mem_filter.1 h).1

theorem nil_not_mem_parts (t : Text) : [] ∉ (ofText t).parts := by
  intro h
  nomatch (List.mem_filter.1 h).2

theorem slashes_ofText (t : Text) : (ofText t).slashes =
    if (t.takeWhile (· == '/')).length = 2 then 2 else min (t.takeWhile (· == '/')).length 1 := rfl

theorem exists_slashes (t : Text) :
    ∃ n rest, t = List.replicate n '/' ++ rest ∧ rest.head? ≠ some '/' ∧ (ofText t).slashes ≤ n ∧
      ((ofText t).slashes = 0 ↔ n = 0) ∧ (ofText t).parts = (rest.splitOn '/').filter isPart := by
  have hcut := List.takeWhile_append_dropWhile (p := (· == '/')) (l := t)
  rw [Text.takeWhile_eq_replicate] at hcut
  refine ⟨_, t.dropWhile (· == '/'), hcut.symm, ?_, ?_, ?_, ?_⟩
  · intro hc
    have hnot := List.head?_dropWhile_not (· == '/') t
    rw [hc] at hnot
    nomatch hnot
  · rw [slashes_ofText]
    split
    · omega
    · omega
  · rw [slashes_ofText]
    split
    · omega
    · omega
  · show ((t.splitOn '/').filter isPart) = _
    conv => lhs; rw [← hcut, Text.splitOn_replicate, List.filter_append]
    rw [List.filter_replicate_of_neg (by decide), List.nil_append]

theorem text_of_parts {p : Path} (h : p.parts ≠ []) :
    p.text = List.replicate p.slashes '/' ++ ['/'].intercalate p.parts := by
  unfold text
  rw [if_neg (fun hnone => h hnone.2)]

theorem splitOn_text {t : Text} (h : (ofText t).parts ≠ []) :
    (ofText t).text.splitOn '/' = List.replicate (ofText t).slashes [] ++ (ofText t).parts := by
  rw [text_of_parts h, Text.splitOn_replicate,
    List.splitOn_intercalate '/' (fun _ hpart => not_slash_mem_parts hpart) h]

theorem text_sublist {t : Text} (h : (ofText t).parts ≠ []) : (ofText t).text.Sublist t := by
  obtain ⟨n, rest, ht, _, hle, _, hparts⟩ := exists_slashes t
  have hjoin : (['/'].intercalate (ofText t).parts).Sublist rest := by
    have hkept : ((rest.splitOn '/').filter isPart).Sublist (rest.splitOn '/') := List.filter_sublist
    have hsub := @Text.intercalate_sublist ['/'] _ _ hkept
    rw [List.intercalate_splitOn] at hsub
    rw [hparts]
    exact hsub
  rw [text_of_parts h]
  conv => rhs; rw [ht]
  exact (List.replicate_sublist_replicate _ |>.2 hle).append hjoin

theorem slashes_ofText_ne_zero (t : Text) : (ofText t).slashes ≠ 0 ↔ t.head? = some '/' := by
  obtain ⟨n, rest, ht, hrest, _, hzero, _⟩ := exists_slashes t
  rw [Ne, hzero, ht]
  cases n with
  | zero => simp [hrest]
  | succ n => simp [List.replicate_succ]

theorem head?_text {t : Text} (h : (ofText t).parts ≠ []) :
    (ofText t).text.head? = some '/' ↔ t.head? = some '/' := by
  rw [← slashes_ofText_ne_zero t]
  constructor
  · intro hhead hzero
    obtain ⟨u, hu⟩ := List.head?_eq_some_iff.1 hhead
    -- an empty name would stand before the slash
    have hempty : [] ∈ (ofText t).text.splitOn '/' := by
      rw [hu, List.splitOn_cons_eq_if_modifyHead]
      exact List.mem_cons_self ..
    rw [splitOn_text h, hzero] at hempty
    exact nil_not_mem_parts t hempty
  · intro hpos
    obtain ⟨k, hk⟩ := Nat.exists_eq_succ_of_ne_zero hpos
    rw [text_of_parts h, hk]
    rfl

theorem text_ne_nil {t : Text} (h : (ofText t).parts ≠ []) : (ofText t).text ≠ [] := by
  intro hnil
  obtain ⟨part, hpart⟩ := List.exists_mem_of_ne_nil _ h
  have hmem : part ∈ (ofText t).text.splitOn '/' := by
    rw [splitOn_text h]
    exact List.mem_append_right _ hpart
  rw [hnil, List.splitOn_nil, List.mem_singleton] at hmem
  rw [hmem] at hpart
  exact nil_not_mem_parts t hpart

end Path

namespace Disk

variable {d : Disk} {home place : Place} {path : Text}

theorem locate_ok_iff : d.locate home path = .ok place ↔
    path ≠ [] ∧ (Utf8.encode path).length ≤ maxPath ∧
      d.follow (if path.head? = some '/' then [] else home) (path.splitOn '/') = .ok place := by
  unfold locate
  split
  · next h => simp [h]
  · next h =>
    split
    · next hlong =>
      have hnot : ¬ (Utf8.encode path).length ≤ maxPath := by omega
      simp [hnot]
    · next hshort =>
      have hle : (Utf8.encode path).length ≤ maxPath := by omega
      simp [h, hle]

theorem parts_ne_nil_of_locate (h : d.locate home path = .ok place)
    (hplace : d.node? place ≠ some .directory) : (Path.ofText path).parts ≠ [] := by
  intro hnone
  obtain ⟨_, _, hfollow⟩ := locate_ok_iff.1 h
  exact hplace (eq_directory_of_no_parts (List.splitOn_ne_nil '/' path) hnone hfollow)

theorem locate_text_ofText (h : d.locate home path = .ok place) (hplace : d.node? place ≠ some .directory) :
    d.locate home (Path.ofText path).text = .ok place := by
  obtain ⟨_, hlen, hfollow⟩ := locate_ok_iff.1 h
  have hparts := parts_ne_nil_of_locate h hplace
  refine locate_ok_iff.2 ⟨Path.text_ne_nil hparts, ?_, ?_⟩
  · have hsub := (Path.text_sublist hparts).flatMap Utf8.encodeChar
    exact hsub.length_le.trans hlen
  · have hfilter := follow_filter hfollow
    have hhead := Path.head?_text hparts
    rw [Path.splitOn_text hparts]
    by_cases hroot : path.head? = some '/'
    · rw [if_pos hroot] at hfilter
      rw [if_pos (hhead.2 hroot), follow_root_replicate]
      exact hfilter
    · have hzero : (Path.ofText path).slashes = 0 := by
        by_contra hne
        exact hroot ((Path.slashes_ofText_ne_zero path).1 hne)
      rw [if_neg hroot] at hfilter
      rw [if_neg (fun htext => hroot (hhead.1 htext)), hzero]
      exact hfilter

theorem find?_eq_some_iff {node : Node} : d.find? home path = some node ↔
    ∃ place, d.locate home path = .ok place ∧ d.node? place = some node := by
  unfold find?
  cases d.locate home path with
  | ok place => simp
  | error fault => simp

end Disk

theorem Host.readPath_of_find? {σ : Type} [OperatingSystem σ] {h : Host σ} {path : Text}
    {content : Bytes} {executable : Bool} (hnull : '\x00' ∉ path)
    (hfile : h.disk.find? h.home path = some (.file content executable)) :
    h.readPath (Path.ofText path) = textOfBytes content := by
  obtain ⟨place, hlocate, hnode⟩ := Disk.find?_eq_some_iff.1 hfile
  have hplace : h.disk.node? place ≠ some .directory := by simp [hnode]
  have hsub := Path.text_sublist (Disk.parts_ne_nil_of_locate hlocate hplace)
  have hnull' : ¬ (Path.ofText path).text.contains '\x00' = true := by
    rw [List.contains_iff_mem]
    exact fun hmem => hnull (hsub.subset hmem)
  have hfound : h.locate (Path.ofText path) = .ok place := by
    unfold Host.locate
    rw [if_neg hnull', Disk.locate_text_ofText hlocate hplace]
    rfl
  have hread : h.disk.readAt place = .ok content := by
    unfold Disk.readAt
    rw [hnode]
  unfold Host.readPath
  rw [hfound]
  show (do textOfBytes (← (h.disk.readAt place).mapError _)) = _
  rw [hread]
  rfl

end ScopedSheets
