import ScopedSheets.Text

/-!
# Line ends

A line may end in a line feed, in a carriage return, or in both in that order. Text that is read has a
line feed in place of each.
-/

namespace ScopedSheets.Text

def unifyNewlines : Text → Text
  | [] => []
  | '\r' :: '\n' :: t => '\n' :: unifyNewlines t
  | '\r' :: t => '\n' :: unifyNewlines t
  | c :: t => c :: unifyNewlines t

theorem unifyNewlines_eq_self {t : Text} (h : '\r' ∉ t) : unifyNewlines t = t := by
  fun_induction unifyNewlines t with
  | case1 => rfl
  | case2 => simp at h
  | case3 => simp at h
  | case4 c t _ _ ih => rw [ih (fun ht => h (List.mem_cons_of_mem _ ht))]

theorem not_mem_unifyNewlines (t : Text) : '\r' ∉ unifyNewlines t := by
  fun_induction unifyNewlines t with
  | case1 => simp
  | case2 t ih => simp [ih]
  | case3 t _ ih => simp [ih]
  | case4 c t _ hc ih => simp [ih, Ne.symm hc]

end ScopedSheets.Text
