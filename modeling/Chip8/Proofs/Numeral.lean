import Chip8.Text.Numeral

/-!
# What a numeral says

`Numeral.chars` writes an integer in columns and `Numeral.read?` reads one of any width.
`Numeral.read?_chars` says that nothing is lost on the way: a numeral of any radix and width reads
back as the integer it was written for, negative ones and those that outgrow their width included.

The other lemmas say which characters a numeral is made of. `Numeral.chars_succ` takes the last digit
off a numeral of two columns or more, whatever its value, so that a numeral of fixed width is its
digits one by one. `Numeral.mem_chars` leaves nothing but digits and the sign, so that blanks and line
breaks never stand inside a numeral.
-/

namespace Chip8

/-! ## Single digits -/

/-- A digit reads back as its value. -/
theorem Radix.digit?_digitChar (r : Radix) {k : Nat} (h : k < r.base) :
    r.digit? k.digitChar = some k := by
  have hall : ∀ r : Radix, ∀ k : Fin r.base, r.digit? (k : Nat).digitChar = some (k : Nat) := by
    intro r
    cases r <;> decide
  exact hall r ⟨k, h⟩

/-- The sign is a digit of no radix. -/
theorem Radix.digit?_minus (r : Radix) : r.digit? '-' = none := by
  cases r <;> decide

/-- A character that reads as no digit is none. -/
theorem Radix.ne_digitChar (r : Radix) {c : Char} (h : r.digit? c = none) {k : Nat}
    (hk : k < r.base) : c ≠ k.digitChar := by
  intro hc
  rw [hc, r.digit?_digitChar hk] at h
  cases h

namespace Numeral

/-! ## Numerals digit by digit -/

@[simp] theorem sign_natCast (n : Nat) : sign (n : Int) = [] := by
  simp [sign]

@[simp] theorem digits_natCast (r : Radix) (n : Nat) : digits r (n : Int) = Nat.toDigits r.base n := by
  simp [digits]

/-- A number of one digit, in one column. -/
theorem chars_one (r : Radix) {n : Nat} (h : n < r.base) : chars r 1 n = [n.digitChar] := by
  simp [chars, Nat.toDigits_of_lt_base h]

/-- The last column holds the last digit, and the columns before it the rest of the number. -/
theorem chars_succ (r : Radix) {width : Nat} (hwidth : 0 < width) (n : Nat) :
    chars r (width + 1) n = chars r width ((n / r.base : Nat) : Int) ++ [(n % r.base).digitChar] := by
  simp only [chars, sign_natCast, digits_natCast, List.nil_append, List.length_nil, Nat.sub_zero]
  rcases Nat.lt_or_ge n r.base with hlt | hge
  · -- one digit: what stands before it is a zero of the number and zeros of the width
    rw [Nat.toDigits_of_lt_base hlt, Nat.div_eq_of_lt hlt, Nat.toDigits_zero, Nat.mod_eq_of_lt hlt]
    simp only [List.length_singleton, Nat.add_sub_cancel, List.append_assoc]
    rw [← List.append_assoc, ← List.replicate_succ', Nat.sub_add_cancel hwidth]
  · rw [Nat.toDigits_of_base_le r.one_lt_base hge, List.length_append, List.length_singleton,
      Nat.add_sub_add_right, List.append_assoc]

/-! ## The characters of numerals -/

theorem mem_toDigits (r : Radix) {c : Char} (n : Nat) (h : c ∈ Nat.toDigits r.base n) :
    ∃ k < r.base, c = k.digitChar := by
  induction n using Nat.strongRecOn with
  | ind n ih =>
    have hbase := r.one_lt_base
    rcases Nat.lt_or_ge n r.base with hlt | hge
    · rw [Nat.toDigits_of_lt_base hlt, List.mem_singleton] at h
      exact ⟨n, hlt, h⟩
    · rw [Nat.toDigits_of_base_le hbase hge, List.mem_append, List.mem_singleton] at h
      rcases h with hfront | hlast
      · exact ih (n / r.base) (Nat.div_lt_self (by omega) hbase) hfront
      · exact ⟨n % r.base, Nat.mod_lt n (by omega), hlast⟩

/-- The columns behind the sign hold digits alone. -/
theorem mem_zeros_append (r : Radix) {c : Char} (count n : Nat)
    (h : c ∈ List.replicate count '0' ++ Nat.toDigits r.base n) : ∃ k < r.base, c = k.digitChar := by
  rcases List.mem_append.mp h with hzero | hdigit
  · exact ⟨0, Nat.lt_trans Nat.zero_lt_one r.one_lt_base, (List.mem_replicate.mp hzero).2⟩
  · exact mem_toDigits r n hdigit

/-- A numeral is made of the sign and of digits. -/
theorem mem_chars {r : Radix} {c : Char} {width : Nat} {n : Int} (h : c ∈ chars r width n) :
    c = '-' ∨ ∃ k < r.base, c = k.digitChar := by
  rw [chars, List.append_assoc, List.mem_append] at h
  rcases h with hsign | hdigits
  · refine Or.inl ?_
    unfold sign at hsign
    split at hsign
    · exact List.mem_singleton.mp hsign
    · exact absurd hsign List.not_mem_nil
  · exact Or.inr (mem_zeros_append r _ _ hdigits)

/-- A character that is neither the sign nor a digit occurs in no numeral. -/
theorem not_mem_chars {r : Radix} {c : Char} (hsign : c ≠ '-') (hdigit : r.digit? c = none)
    (width : Nat) (n : Int) : c ∉ chars r width n := by
  intro h
  rcases mem_chars h with hc | ⟨k, hk, hc⟩
  · exact hsign hc
  · exact r.ne_digitChar hdigit hk hc

/-- A number that has enough columns is written in no more than them. -/
theorem length_chars_le {r : Radix} {width columns : Nat} {n : Int} (h0 : 0 ≤ n)
    (h : n.natAbs < Nat.pow r.base columns) (hwidth : width ≤ columns) (hcolumns : 0 < columns) :
    (chars r width n).length ≤ columns := by
  have hdigits : (digits r n).length ≤ columns :=
    (Nat.length_toDigits_le_iff r.one_lt_base hcolumns).mpr h
  have hsign : sign n = [] := if_neg (by omega)
  rw [chars, hsign, List.length_append, List.length_append, List.length_replicate, List.length_nil]
  omega

/-! ## Reading back -/

/-- A value with one more digit behind it. -/
def extend (r : Radix) (value : Nat) (d : Char) : Option Nat :=
  (r.digit? d).map (r.base * value + ·)

theorem magnitude?_of_ne_nil (r : Radix) {cs : List Char} (h : cs ≠ []) :
    magnitude? r cs = cs.foldlM (extend r) 0 := by
  cases cs with
  | nil => exact absurd rfl h
  | cons c rest => rfl

theorem extend_digitChar (r : Radix) (value : Nat) {k : Nat} (h : k < r.base) :
    extend r value k.digitChar = some (r.base * value + k) := by
  rw [extend, r.digit?_digitChar h, Option.map_some]

/-- The digits of a number add up to it. -/
theorem foldlM_toDigits (r : Radix) (n : Nat) :
    (Nat.toDigits r.base n).foldlM (extend r) 0 = some n := by
  induction n using Nat.strongRecOn with
  | ind n ih =>
    have hbase := r.one_lt_base
    rcases Nat.lt_or_ge n r.base with hlt | hge
    · rw [Nat.toDigits_of_lt_base hlt, List.foldlM_cons, extend_digitChar r 0 hlt]
      simp
    · have hfront := ih (n / r.base) (Nat.div_lt_self (by omega) hbase)
      rw [Nat.toDigits_of_base_le hbase hge, List.foldlM_append, hfront, Option.bind_eq_bind,
        Option.bind_some, List.foldlM_cons,
        extend_digitChar r (n / r.base) (Nat.mod_lt n (by omega)), Nat.div_add_mod]
      simp

/-- Zeros in front of a number do not count. -/
theorem foldlM_zeros (r : Radix) (count : Nat) :
    (List.replicate count '0').foldlM (extend r) 0 = some 0 := by
  have hzero : extend r 0 '0' = some 0 :=
    extend_digitChar r 0 (Nat.lt_trans Nat.zero_lt_one r.one_lt_base)
  induction count with
  | zero => rfl
  | succ count ih =>
    rw [List.replicate_succ, List.foldlM_cons, hzero]
    exact ih

theorem magnitude?_zeros_append (r : Radix) (count n : Nat) :
    magnitude? r (List.replicate count '0' ++ Nat.toDigits r.base n) = some n := by
  have hne : List.replicate count '0' ++ Nat.toDigits r.base n ≠ [] :=
    List.append_ne_nil_of_right_ne_nil _ Nat.toDigits_ne_nil
  rw [magnitude?_of_ne_nil r hne, List.foldlM_append, foldlM_zeros]
  exact foldlM_toDigits r n

/-- A run of characters without a sign is read as a magnitude. -/
theorem read?_of_unsigned (r : Radix) {cs : List Char} (h : '-' ∉ cs) :
    read? r cs = (magnitude? r cs).map fun (m : Nat) => (m : Int) := by
  unfold read?
  split
  next rest => exact absurd List.mem_cons_self h
  next => cases magnitude? r cs <;> rfl

/-- **Numerals lose nothing**: in every radix and width an integer reads back as it was. -/
theorem read?_chars (r : Radix) (width : Nat) (n : Int) : read? r (chars r width n) = some n := by
  by_cases hneg : n < 0
  · -- the sign is stripped first, so that zeros between it and the digits do no harm
    have hsign : sign n = ['-'] := if_pos hneg
    rw [chars, hsign, List.append_assoc, List.singleton_append, read?, digits,
      magnitude?_zeros_append]
    show some (-(n.natAbs : Int)) = some n
    rw [Int.ofNat_natAbs_of_nonpos (by omega), Int.neg_neg]
  · have hsign : sign n = [] := if_neg hneg
    have hunsigned : ∀ count, '-' ∉ List.replicate count '0' ++ Nat.toDigits r.base n.natAbs := by
      intro count h
      obtain ⟨k, hk, hc⟩ := mem_zeros_append r count _ h
      exact r.ne_digitChar r.digit?_minus hk hc
    rw [chars, hsign, List.nil_append, digits, read?_of_unsigned r (hunsigned _),
      magnitude?_zeros_append, Option.map_some, Int.natAbs_of_nonneg (by omega)]

end Numeral

end Chip8
