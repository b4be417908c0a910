import Chip8.Proofs.Correlation

/-!
# The lines around an address

A window is cut out of the listing by position. Below, its bound is clamped before the cut; above, it
is left to the slice to clamp it. This file shows that for every context that is not negative both
ends come out the same, and says it without positions: a window is the lines whose addresses are near
enough.

`Slice.select_eq_filter` is the step from positions to properties of the items, and it wants to know
only which positions the property picks. For lines the positions follow from the numbering of
addresses, `Disassembly.Made.address_getElem`.

The main statement is `Disassembly.window_exact`. The last section is about contexts below zero, where
the two ends no longer come out the same: `Disassembly.window_empty_iff` says when such a window shows
lines after all, and which.
-/

namespace Chip8

namespace Slice

/-- A slice that starts inside the items and does not count from their end. -/
theorem select_eq {α : Type} {items : List α} {start stop : Int} (h0 : 0 ≤ start)
    (hstart : start ≤ items.length) (hstop : 0 ≤ stop) :
    select items start stop = (items.take stop.toNat).drop start.toNat := by
  have hbound : bound items.length stop = min stop.toNat items.length := by
    unfold bound
    rw [if_neg (by omega)]
  rw [select, bound_of_le h0 hstart, hbound, ← List.take_eq_take_min]

/-- If a property picks the positions between two bounds, the slice is the items that have it. -/
theorem select_eq_filter {α : Type} {items : List α} {p : α → Bool} {start stop : Int}
    (h0 : 0 ≤ start) (hstart : start ≤ items.length) (hstop : start ≤ stop)
    (h : ∀ i (hi : i < items.length), p items[i] = true ↔ start ≤ i ∧ (i : Int) < stop) :
    select items start stop = items.filter p := by
  rw [select_eq h0 hstart (by omega)]
  -- the items before the slice, the slice and the items behind it
  have hsplit : items = (items.take stop.toNat).take start.toNat ++
      ((items.take stop.toNat).drop start.toNat ++ items.drop stop.toNat) := by
    rw [← List.append_assoc, List.take_append_drop, List.take_append_drop]
  have hbefore : ((items.take stop.toNat).take start.toNat).filter p = [] := by
    rw [List.filter_eq_nil_iff]
    intro item hitem
    obtain ⟨i, hi, rfl⟩ := List.getElem_of_mem hitem
    rw [List.length_take, List.length_take] at hi
    rw [List.getElem_take, List.getElem_take, h i (by omega)]
    omega
  have hinside : ((items.take stop.toNat).drop start.toNat).filter p =
      (items.take stop.toNat).drop start.toNat := by
    rw [List.filter_eq_self]
    intro item hitem
    obtain ⟨i, hi, rfl⟩ := List.getElem_of_mem hitem
    rw [List.length_drop, List.length_take] at hi
    rw [List.getElem_drop, List.getElem_take, h _ (by omega)]
    omega
  have hbehind : (items.drop stop.toNat).filter p = [] := by
    rw [List.filter_eq_nil_iff]
    intro item hitem
    obtain ⟨i, hi, rfl⟩ := List.getElem_of_mem hitem
    rw [List.length_drop] at hi
    rw [List.getElem_drop, h _ (by omega)]
    omega
  conv => rhs; rw [hsplit]
  rw [List.filter_append, List.filter_append, hbefore, hinside, hbehind, List.nil_append,
    List.append_nil]

/-- A slice is empty if it ends before it starts. -/
theorem select_eq_nil {α : Type} {items : List α} {start stop : Int}
    (h : bound items.length stop ≤ bound items.length start) : select items start stop = [] := by
  unfold select
  apply List.drop_eq_nil_of_le
  rw [List.length_take]
  omega

/-- An end that counts from the end of the items, but not past their start. -/
theorem select_of_neg {α : Type} {items : List α} {start stop : Int} (hneg : stop < 0)
    (hin : 0 ≤ items.length + stop) :
    select items start stop = select items start (items.length + stop) := by
  have hbound : bound items.length stop = bound items.length (items.length + stop) := by
    rw [bound_of_le hin (by omega)]
    unfold bound
    rw [if_pos hneg]
  rw [select, select, hbound]

/-- With a negative context a slice around a position starts behind it and ends before it. It is empty
then, unless its end is so far before the first item that it counts from the last one. -/
theorem select_around_eq_nil {α : Type} {items : List α} {index : Nat} {context : Int}
    (hlt : index < items.length) (hcontext : context < 0)
    (h : -context ≤ index + 1 ∨ (items.length : Int) < 2 * -context) :
    select items (max 0 (index - context)) (index + context + 1) = [] := by
  apply select_eq_nil
  unfold bound
  rw [if_neg (show ¬max 0 ((index : Int) - context) < 0 by omega)]
  split
  · omega
  · omega

end Slice

namespace Disassembly

theorem window_eq {d : Disassembly} {address : Int} {index : Nat}
    (h : d.lineIndex address = .ok index) (context : Int) :
    d.window address context =
      .ok (Slice.select d.lines (max 0 (index - context)) (index + context + 1)) := by
  rw [window, h]
  rfl

theorem lineAt_eq {d : Disassembly} {address : Int} {index : Nat}
    (h : d.lineIndex address = .ok index) (hlt : index < d.lines.length) :
    d.lineAt address = .ok d.lines[index] := by
  obtain ⟨_, cause, hfault, _⟩ | ⟨_, _, other, _, _, hfound, hline⟩ := d.lineIndex_cases address
  · rw [hfault] at h
    cases h
  · rw [hfound] at h
    cases h
    exact hline

/-- The lines of a disassembly stand in the order of their addresses. -/
theorem Made.pairwise_lines {d : Disassembly} (hmade : d.Made) :
    d.lines.Pairwise fun line later => line.address < later.address := by
  rw [List.pairwise_iff_getElem]
  intro i j hi hj hlt
  rw [hmade.address_getElem hi, hmade.address_getElem hj]
  omega

/-- Lines are near an address exactly if their positions are near its own. -/
theorem Made.natAbs_le_iff {d : Disassembly} (hmade : d.Made) {address : Int} {index : Nat}
    (hindex : d.lineIndex address = .ok index) (context : Int) {i : Nat} (h : i < d.lines.length) :
    ((d.lines[i].address - address).natAbs : Int) ≤ 2 * context ↔
      index - context ≤ i ∧ (i : Int) ≤ index + context := by
  obtain ⟨hlt, rfl⟩ := (hmade.lineIndex_eq_ok_iff address index).mp hindex
  rw [hmade.address_getElem h, hmade.address_getElem hlt]
  omega

/-- **A window is the lines near its address.** For an address that has a line and a context that is
not negative, it is the lines of the listing that are at most that many words away, in order and each
of them once. The line of the address is one of them. On either side there are as many as the context
asks for or the listing has, and with a context of the listing's length there are all. -/
theorem window_exact {cells : Cells} {region : Region} {d : Disassembly}
    (hd : ofCells cells region = .ok d) {address : Int} {index : Nat}
    (hindex : d.lineIndex address = .ok index) {context : Int} (hcontext : 0 ≤ context) :
    ∃ lines, d.window address context = .ok lines ∧
      lines = d.lines.filter
        (fun line => decide (((line.address - address).natAbs : Int) ≤ 2 * context)) ∧
      lines.Pairwise (fun line later => line.address < later.address) ∧
      (∃ line, d.lineAt address = .ok line ∧ line ∈ lines) ∧
      (lines.length : Int) = min context index + 1 + min context (d.lines.length - 1 - index) ∧
      (d.lines.length ≤ context → lines = d.lines) := by
  obtain ⟨_, _, hmade⟩ := made_of_ofCells hd
  obtain ⟨hlt, haddress⟩ := (hmade.lineIndex_eq_ok_iff address index).mp hindex
  have hfilter : Slice.select d.lines (max 0 (index - context)) (index + context + 1) =
      d.lines.filter
        (fun line => decide (((line.address - address).natAbs : Int) ≤ 2 * context)) := by
    apply Slice.select_eq_filter (by omega) (by omega) (by omega)
    intro i hi
    rw [decide_eq_true_iff, hmade.natAbs_le_iff hindex context hi]
    omega
  have hselect : Slice.select d.lines (max 0 (index - context)) (index + context + 1) =
      (d.lines.take (index + context + 1).toNat).drop (max 0 (index - context)).toNat :=
    Slice.select_eq (by omega) (by omega) (by omega)
  refine ⟨_, window_eq hindex context, hfilter, ?_, ?_, ?_, ?_⟩
  · rw [hfilter]
    exact hmade.pairwise_lines.filter _
  · refine ⟨d.lines[index], lineAt_eq hindex hlt, ?_⟩
    rw [hfilter, List.mem_filter, haddress, Int.sub_self, decide_eq_true_iff]
    exact ⟨List.getElem_mem hlt, by omega⟩
  · rw [hselect, List.length_drop, List.length_take]
    omega
  · intro hall
    rw [hselect, List.take_of_length_le (by omega), show (max 0 (index - context)).toNat = 0 by omega]
    rfl

/-- Three words at an offset. Around the last of them a context of one leaves out the first line, and
a context of three has them all. -/
theorem window_exact_last_of_three :
    ∃ d, ofCells #[0x12, 0x00, 0x00, 0xE0, 0xFF, 0xFF, 0x12, 0x04] ⟨2, 8⟩ = .ok d ∧
      d.lineIndex 6 = .ok 2 ∧
      (∃ lines, d.window 6 1 = .ok lines ∧ lines.length = 2) ∧ d.window 6 3 = .ok d.lines := by
  have hcells : Cells.AllBytes #[0x12, 0x00, 0x00, 0xE0, 0xFF, 0xFF, 0x12, 0x04] := by
    unfold Cells.AllBytes
    decide
  obtain ⟨d, hd⟩ := exists_ofCells hcells (show Region.Valid ⟨2, 8⟩ by decide) (by decide)
  obtain ⟨_, hregion, hmade⟩ := made_of_ofCells hd
  have hlength : (d.lines.length : Int) = (8 - 2) / 2 := by
    rw [hmade.fetched.1, hregion]
  have hindex : d.lineIndex 6 = .ok 2 := by
    rw [hmade.lineIndex_eq_ok_iff]
    refine ⟨by omega, ?_⟩
    rw [hmade.address_getElem, hregion]
    rfl
  refine ⟨d, hd, hindex, ?_, ?_⟩
  · obtain ⟨lines, hwindow, _, _, _, hcount, _⟩ :=
      window_exact hd hindex (show (0 : Int) ≤ 1 by decide)
    exact ⟨lines, hwindow, by omega⟩
  · obtain ⟨lines, hwindow, _, _, _, _, hall⟩ :=
      window_exact hd hindex (show (0 : Int) ≤ 3 by decide)
    rw [hwindow, hall (by omega)]

/-! ## Contexts below zero -/

/-- **Which lines a negative context shows.** For an address that has a line and a context below zero
the window is empty exactly if the context does not reach before the first line, or is more than half
of the listing. Otherwise it is a run of lines towards the end of the listing, and all of them are at
least as far behind the address as the context says. -/
theorem window_empty_iff {cells : Cells} {region : Region} {d : Disassembly}
    (hd : ofCells cells region = .ok d) {address : Int} {index : Nat}
    (hindex : d.lineIndex address = .ok index) {context : Int} (hcontext : context < 0) :
    ∃ lines, d.window address context = .ok lines ∧
      (lines = [] ↔ -context ≤ index + 1 ∨ (d.lines.length : Int) < 2 * -context) ∧
      (index + 1 < -context → lines = d.lines.filter fun line =>
        decide (address - 2 * context ≤ line.address ∧
          line.address ≤ region.limit + (address - region.base) + 2 * context)) ∧
      ∀ line ∈ lines, 2 * -context ≤ line.address - address := by
  obtain ⟨_, hregion, hmade⟩ := made_of_ofCells hd
  obtain ⟨hlt, haddress⟩ := (hmade.lineIndex_eq_ok_iff address index).mp hindex
  have hlength := hmade.fetched.1
  obtain ⟨_, _, _, _⟩ := hmade.valid
  rw [hmade.address_getElem hlt] at haddress
  subst hregion
  -- in positions, a line is picked by the two addresses if it lies between the two ends
  have hpicked : ∀ i (hi : i < d.lines.length),
      (address - 2 * context ≤ d.lines[i].address ∧
        d.lines[i].address ≤ d.region.limit + (address - d.region.base) + 2 * context) ↔
      index - context ≤ i ∧ (i : Int) < d.lines.length + (index + context + 1) := by
    intro i hi
    rw [hmade.address_getElem hi]
    omega
  by_cases hnone : -context ≤ index + 1 ∨ (d.lines.length : Int) < 2 * -context
  · refine ⟨[], ?_, iff_of_true rfl hnone, ?_, fun line hline => absurd hline List.not_mem_nil⟩
    · rw [window_eq hindex, Slice.select_around_eq_nil hlt hcontext hnone]
    · intro hbefore
      symm
      rw [List.filter_eq_nil_iff]
      intro line hline
      obtain ⟨i, hi, rfl⟩ := List.getElem_of_mem hline
      rw [decide_eq_true_iff, hpicked i hi]
      omega
  · have hselect : Slice.select d.lines (max 0 (index - context)) (index + context + 1) =
        d.lines.filter fun line =>
          decide (address - 2 * context ≤ line.address ∧
            line.address ≤ d.region.limit + (address - d.region.base) + 2 * context) := by
      rw [Slice.select_of_neg (by omega) (by omega)]
      apply Slice.select_eq_filter (by omega) (by omega) (by omega)
      intro i hi
      rw [decide_eq_true_iff, hpicked i hi]
      omega
    refine ⟨_, window_eq hindex context, ?_, fun _ => hselect, ?_⟩
    · -- the line as far behind the address as the context says is shown
      have hfar : (index - context).toNat < d.lines.length := by omega
      refine iff_of_false ?_ hnone
      rw [hselect]
      apply List.ne_nil_of_mem
      rw [List.mem_filter, decide_eq_true_iff]
      exact ⟨List.getElem_mem hfar, (hpicked _ hfar).mpr (by omega)⟩
    · intro line hline
      rw [hselect, List.mem_filter, decide_eq_true_iff] at hline
      omega

/-- Four words from zero on, and the first of them. -/
theorem exists_four_words :
    ∃ d, ofCells #[0, 0xE0, 0, 0xE0, 0, 0xE0, 0, 0xE0] ⟨0, 8⟩ = .ok d ∧ d.lines.length = 4 ∧
      d.lineIndex 0 = .ok 0 := by
  have hbytes : Cells.AllBytes #[0, 0xE0, 0, 0xE0, 0, 0xE0, 0, 0xE0] := by
    unfold Cells.AllBytes
    decide
  obtain ⟨d, hd⟩ := exists_ofCells hbytes (show Region.Valid ⟨0, 8⟩ by decide) (by decide)
  obtain ⟨_, hregion, hmade⟩ := made_of_ofCells hd
  have hlength : (d.lines.length : Int) = (8 - 0) / 2 := by
    rw [hmade.fetched.1, hregion]
  refine ⟨d, hd, by omega, ?_⟩
  rw [hmade.lineIndex_eq_ok_iff]
  refine ⟨by omega, ?_⟩
  rw [hmade.address_getElem, hregion]
  rfl

/-- Around the first of four lines a context of one below zero shows nothing, and one of two below zero
shows lines, of which the nearest is two words behind. -/
theorem window_empty_iff_first_of_four :
    ∃ d, ofCells #[0, 0xE0, 0, 0xE0, 0, 0xE0, 0, 0xE0] ⟨0, 8⟩ = .ok d ∧ d.lineIndex 0 = .ok 0 ∧
      d.window 0 (-1) = .ok [] ∧
      ∃ lines, d.window 0 (-2) = .ok lines ∧ lines ≠ [] ∧ ∀ line ∈ lines, 4 ≤ line.address := by
  obtain ⟨d, hd, hlength, hindex⟩ := exists_four_words
  refine ⟨d, hd, hindex, ?_, ?_⟩
  · obtain ⟨lines, hwindow, hempty, _⟩ :=
      window_empty_iff hd hindex (show (-1 : Int) < 0 by decide)
    rw [hwindow, hempty.mpr (by omega)]
  · obtain ⟨lines, hwindow, hempty, _, hfar⟩ :=
      window_empty_iff hd hindex (show (-2 : Int) < 0 by decide)
    refine ⟨lines, hwindow, fun hnil => absurd (hempty.mp hnil) (by omega), ?_⟩
    intro line hline
    have hbehind := hfar line hline
    omega

/-- Around the first of four lines a context of two below zero shows the third, so that negative
contexts do not always show nothing. -/
theorem window_shows_far_line :
    (∃ d line, ofCells #[0, 0xE0, 0, 0xE0, 0, 0xE0, 0, 0xE0] ⟨0, 8⟩ = .ok d ∧
      d.lineIndex 0 = .ok 0 ∧ d.window 0 (-2) = .ok [line] ∧ line.address = 4) ∧
    ¬∀ (cells : Cells) (region : Region) (d : Disassembly) (address : Int) (index : Nat)
      (context : Int), ofCells cells region = .ok d → d.lineIndex address = .ok index →
        context < 0 → d.window address context = .ok [] := by
  obtain ⟨d, hd, hlength, hindex⟩ := exists_four_words
  obtain ⟨_, hregion, hmade⟩ := made_of_ofCells hd
  have hwindow : d.window 0 (-2) = .ok [d.lines[2]] := by
    have hstop : (d.lines.length + (((0 : Nat) : Int) + -2 + 1)).toNat = 3 := by omega
    rw [window_eq hindex, Slice.select_of_neg (by omega) (by omega),
      Slice.select_eq (by omega) (by omega) (by omega), hstop]
    show Except.ok ((d.lines.take 3).drop 2) = _
    rw [List.drop_take, List.drop_eq_getElem_cons (by omega)]
    rfl
  refine ⟨⟨d, _, hd, hindex, hwindow, ?_⟩, fun hall => ?_⟩
  · rw [hmade.address_getElem, hregion]
    rfl
  · have hempty := hall _ _ d 0 0 (-2) hd hindex (by decide)
    cases hwindow.symm.trans hempty

end Disassembly

end Chip8
