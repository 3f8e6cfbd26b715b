import ScopedSheets.Text

/-!
# UTF-8

Text as bytes and bytes as text. Reading goes from left to right and takes at each place either one
well-formed sequence, which is a character, or the longest beginning of one that cannot be continued,
which is none. Strict decoding refuses the bytes when there is such a part, and lossy decoding puts the
replacement character in its place. Main statement: what encoding writes, strict decoding reads back.
-/

namespace ScopedSheets

abbrev Bytes := List UInt8

namespace Utf8

def encodeChar (c : Char) : Bytes :=
  let v := c.toNat
  if v < 0x80 then [.ofNat v]
  else if v < 0x800 then [.ofNat (0xC0 + v / 64), .ofNat (0x80 + v % 64)]
  else if v < 0x10000 then
    [.ofNat (0xE0 + v / 4096), .ofNat (0x80 + v / 64 % 64), .ofNat (0x80 + v % 64)]
  else
    [.ofNat (0xF0 + v / 262144), .ofNat (0x80 + v / 4096 % 64), .ofNat (0x80 + v / 64 % 64),
      .ofNat (0x80 + v % 64)]

def encode (t : Text) : Bytes := t.flatMap encodeChar

/-- What a first byte calls for: how many bytes more, the range of the next one, and its own share of the
value. -/
structure Lead where
  owed : Nat
  low : Nat
  high : Nat
  value : Nat
deriving DecidableEq

/-- What a byte calls for as a first byte, if it can be one. The narrow ranges shut out the values that a
shorter sequence can write, the surrogates, and all beyond the last code point. -/
def lead? (b : Nat) : Option Lead :=
  if b < 0x80 then some ⟨0, 0x80, 0xBF, b⟩
  else if b < 0xC2 then none
  else if b < 0xE0 then some ⟨1, 0x80, 0xBF, b - 0xC0⟩
  else if b = 0xE0 then some ⟨2, 0xA0, 0xBF, 0⟩
  else if b = 0xED then some ⟨2, 0x80, 0x9F, 0xD⟩
  else if b < 0xF0 then some ⟨2, 0x80, 0xBF, b - 0xE0⟩
  else if b = 0xF0 then some ⟨3, 0x90, 0xBF, 0⟩
  else if b < 0xF4 then some ⟨3, 0x80, 0xBF, b - 0xF0⟩
  else if b = 0xF4 then some ⟨3, 0x80, 0x8F, 4⟩
  else none

/-- Reads the bytes that are still owed, the first of them in a range of its own. The value is none when
they are not all there; the bytes after those taken are left. -/
def readTail : (owed low high value : Nat) → Bytes → Option Nat × Bytes
  | 0, _, _, value, bs => (some value, bs)
  | _ + 1, _, _, _, [] => (none, [])
  | owed + 1, low, high, value, b :: bs =>
    if low ≤ b.toNat ∧ b.toNat ≤ high then readTail owed 0x80 0xBF (value * 64 + (b.toNat - 0x80)) bs
    else (none, b :: bs)

theorem length_readTail_le (owed low high value : Nat) (bs : Bytes) :
    (readTail owed low high value bs).2.length ≤ bs.length := by
  fun_induction readTail owed low high value bs with
  | case1 => simp
  | case2 => simp
  | case3 owed low high value b bs _ ih => simp only [List.length_cons]; omega
  | case4 => simp

def readChar (b : UInt8) (bs : Bytes) : Option Char × Bytes :=
  match lead? b.toNat with
  | none => (none, bs)
  | some l =>
    let (value, rest) := readTail l.owed l.low l.high l.value bs
    (value.map Char.ofNat, rest)

theorem length_readChar_le (b : UInt8) (bs : Bytes) : (readChar b bs).2.length ≤ bs.length := by
  simp only [readChar]
  split
  · simp
  · exact length_readTail_le ..

/-- The characters that the bytes hold, with none for each part that is not well-formed. -/
def scan : Bytes → List (Option Char)
  | [] => []
  | b :: bs => (readChar b bs).1 :: scan (readChar b bs).2
termination_by bs => bs.length
decreasing_by
  have := length_readChar_le b bs
  simp only [List.length_cons]
  omega

def decode? (bs : Bytes) : Option Text := (scan bs).mapM id

def decodeLossy (bs : Bytes) : Text := (scan bs).map (·.getD '\uFFFD')

theorem toNat_byte {n : Nat} (h : n < 256) : (UInt8.ofNat n).toNat = n := by
  rw [UInt8.toNat_ofNat']
  omega

theorem readTail_tail {owed low high value k : Nat} {bs : Bytes} (hk : k < 64)
    (hl : low ≤ 0x80 + k) (hh : 0x80 + k ≤ high) :
    readTail (owed + 1) low high value (.ofNat (0x80 + k) :: bs)
      = readTail owed 0x80 0xBF (value * 64 + k) bs := by
  have hb : (UInt8.ofNat (0x80 + k)).toNat = 0x80 + k := toNat_byte (by omega)
  simp only [readTail, hb, hl, hh, and_self, if_true, Nat.add_sub_cancel_left]

theorem readTail_zero (value : Nat) (bs : Bytes) : readTail 0 0x80 0xBF value bs = (some value, bs) := by
  rw [readTail]

theorem lead?_one {v : Nat} (h : v < 0x80) : lead? v = some ⟨0, 0x80, 0xBF, v⟩ := if_pos h

theorem lead?_two : ∀ k < 32, 2 ≤ k → lead? (0xC0 + k) = some ⟨1, 0x80, 0xBF, k⟩ := by decide

theorem lead?_three : ∀ k < 16, lead? (0xE0 + k)
    = some ⟨2, if k = 0 then 0xA0 else 0x80, if k = 0xD then 0x9F else 0xBF, k⟩ := by decide

theorem lead?_four : ∀ k < 5, lead? (0xF0 + k)
    = some ⟨3, if k = 0 then 0x90 else 0x80, if k = 4 then 0x8F else 0xBF, k⟩ := by decide

theorem readChar_of_lead {n owed low high value v : Nat} {bs rest : Bytes} (hn : n < 256)
    (hl : lead? n = some ⟨owed, low, high, value⟩)
    (ht : readTail owed low high value bs = (some v, rest)) :
    readChar (.ofNat n) bs = (some (.ofNat v), rest) := by
  simp [readChar, toNat_byte hn, hl, ht]

theorem readChar_encodeChar (c : Char) (rest : Bytes) :
    ∃ b bs, encodeChar c = b :: bs ∧ readChar b (bs ++ rest) = (some c, rest) := by
  have hv : c.toNat < 0xD800 ∨ 0xDFFF < c.toNat ∧ c.toNat < 0x110000 := c.valid
  have hc : Char.ofNat c.toNat = c := Char.ofNat_toNat c
  simp only [encodeChar]
  generalize c.toNat = v at hv hc
  subst hc
  split
  · next h => exact ⟨_, _, rfl, readChar_of_lead (by omega) (lead?_one h) (readTail_zero ..)⟩
  · split
    · refine ⟨_, _, rfl, readChar_of_lead (by omega) (lead?_two _ (by omega) (by omega)) ?_⟩
      rw [List.cons_append, readTail_tail (by omega) (by omega) (by omega), readTail_zero,
        Nat.div_add_mod']
      rfl
    · split
      · refine ⟨_, _, rfl, readChar_of_lead (by omega) (lead?_three _ (by omega)) ?_⟩
        rw [List.cons_append, List.cons_append,
          readTail_tail (by omega) (by split <;> omega) (by split <;> omega),
          readTail_tail (by omega) (by omega) (by omega), readTail_zero]
        simp only [List.nil_append, Prod.mk.injEq, Option.some.injEq, and_true]
        omega
      · refine ⟨_, _, rfl, readChar_of_lead (by omega) (lead?_four _ (by omega)) ?_⟩
        rw [List.cons_append, List.cons_append, List.cons_append,
          readTail_tail (by omega) (by split <;> omega) (by split <;> omega),
          readTail_tail (by omega) (by omega) (by omega),
          readTail_tail (by omega) (by omega) (by omega), readTail_zero]
        simp only [List.nil_append, Prod.mk.injEq, Option.some.injEq, and_true]
        omega

theorem decode?_encode (t : Text) : decode? (encode t) = some t := by
  have h : scan (encode t) = t.map some := by
    induction t with
    | nil => simp [encode, scan]
    | cons c t ih =>
      obtain ⟨b, bs, he, hr⟩ := readChar_encodeChar c (encode t)
      rw [encode, List.flatMap_cons, he, List.cons_append, scan]
      simp only [encode] at hr ih
      rw [hr, ih, List.map_cons]
  rw [decode?, h]
  clear h
  induction t with
  | nil => rfl
  | cons c t ih =>
    rw [List.map_cons, List.mapM_cons, ih]
    rfl

end Utf8

end ScopedSheets
