import Chip8.Proofs.Staleness

/-!
# Addresses and lines

A listing numbers its lines by address as it is made; `Disassembly.lineIndex` finds the number of an
address by arithmetic, without looking at the lines. This file shows that the two agree.

`Disassembly.lineIndex_cases` says once what is answered for an address, and it holds of disassemblies
whose fields were put together freely. There the number of lines is the only upper end; the limit of
the region is not looked at. For a disassembly that was made, `Disassembly.Made.fetched` turns the
number of lines into the limit and every line into the word at its address.

The main statement is `Disassembly.lineIndex_correlates`.
-/

namespace Chip8

/-- A word of the region starts at the address. -/
def Region.HasWord (region : Region) (address : Int) : Prop :=
  address % 2 = 0 ∧ region.base ≤ address ∧ address < region.limit

namespace Disassembly

/-! ## Any disassembly -/

/-- What is answered for an address: a bad address, or a line that exists. The line is the one at
half the distance from the base. -/
theorem lineIndex_cases (d : Disassembly) (address : Int) :
    (¬(d.region.base ≤ address ∧ address % 2 = 0 ∧
        (address - d.region.base) / 2 < d.lines.length) ∧
      ∃ cause, d.lineIndex address = .error (.address cause) ∧
        d.lineAt address = .error (.address cause)) ∨
    (d.region.base ≤ address ∧ address % 2 = 0 ∧
      ∃ index, ∃ h : index < d.lines.length, (index : Int) = (address - d.region.base) / 2 ∧
        d.lineIndex address = .ok index ∧ d.lineAt address = .ok d.lines[index]) := by
  by_cases hbase : address < d.region.base
  · refine Or.inl ⟨by omega, .belowBase address d.region.base, ?_⟩
    simp only [lineIndex, lineAt, position, Region.lineIndex, if_pos hbase]
    exact ⟨rfl, rfl⟩
  by_cases hodd : address % 2 ≠ 0
  · refine Or.inl ⟨by omega, .misaligned address, ?_⟩
    simp only [lineIndex, lineAt, position, Region.lineIndex, if_neg hbase, if_pos hodd]
    exact ⟨rfl, rfl⟩
  -- the offset is not negative, so that taking it for a natural number does not change it
  have hindex : (((address - d.region.base) / 2).toNat : Int) = (address - d.region.base) / 2 := by
    omega
  have hregion : d.region.lineIndex address = .ok ((address - d.region.base) / 2).toNat := by
    rw [Region.lineIndex, if_neg hbase, if_neg hodd]
  by_cases hend : ((address - d.region.base) / 2).toNat < d.lines.length
  · refine Or.inr ⟨by omega, by omega, _, hend, hindex, ?_⟩
    have hposition : d.position address = .ok ⟨_, hend⟩ := by
      rw [position, hregion]
      exact dif_pos hend
    rw [lineIndex, lineAt, hposition]
    exact ⟨rfl, rfl⟩
  · refine Or.inl ⟨by omega, .beyondEnd address d.region.limit, ?_⟩
    have hposition : d.position address =
        .error (.address (.beyondEnd address d.region.limit)) := by
      rw [position, hregion]
      exact dif_neg hend
    rw [lineIndex, lineAt, hposition]
    exact ⟨rfl, rfl⟩

/-! ## Disassemblies that were made -/

/-- The lines are those of the words fetched one at a time. -/
theorem Made.fetched {d : Disassembly} (hmade : d.Made) :
    Listing.Fetched d.image.cells d.region d.lines := by
  rw [hmade.lines_eq]
  exact Listing.fetched_ofWords d.image hmade.valid hmade.fits

/-- In a valid region the number of lines is reached exactly where the limit is. -/
theorem Made.lt_length_iff {d : Disassembly} (hmade : d.Made) {address : Int}
    (heven : address % 2 = 0) :
    (address - d.region.base) / 2 < d.lines.length ↔ address < d.region.limit := by
  have hlength := hmade.fetched.1
  obtain ⟨_, _, _, _⟩ := hmade.valid
  omega

/-- The address of a word has the line of that word. -/
theorem Made.lineIndex_of_hasWord {d : Disassembly} (hmade : d.Made) {address : Int}
    (hword : d.region.HasWord address) :
    ∃ index, ∃ h : index < d.lines.length, ∃ word,
      (index : Int) = (address - d.region.base) / 2 ∧ d.lineIndex address = .ok index ∧
        d.lines[index].address = address ∧ d.image.cells.readWord address = .ok word ∧
        d.lineAt address = .ok (Line.ofWord word address) := by
  obtain ⟨heven, hbase, hlimit⟩ := hword
  obtain ⟨hnot, _⟩ | ⟨_, _, index, h, hindex, hfound, hline⟩ := d.lineIndex_cases address
  · exact absurd ⟨hbase, heven, (hmade.lt_length_iff heven).mpr hlimit⟩ hnot
  · obtain ⟨word, hread, hshown⟩ := hmade.fetched.2 index h
    have hbase_even := hmade.valid.base_even
    have haddress : d.region.base + 2 * (index : Int) = address := by omega
    rw [haddress] at hread hshown
    rw [hshown] at hline
    exact ⟨index, h, word, hindex, hfound, by rw [hshown]; rfl, hread, hline⟩

/-- Every other address is refused as a bad one. -/
theorem Made.lineIndex_of_not_hasWord {d : Disassembly} (hmade : d.Made) {address : Int}
    (hword : ¬d.region.HasWord address) :
    ∃ cause, d.lineIndex address = .error (.address cause) ∧
      d.lineAt address = .error (.address cause) := by
  obtain ⟨_, hfault⟩ | ⟨hbase, heven, index, h, hindex, _⟩ := d.lineIndex_cases address
  · exact hfault
  · refine absurd ⟨heven, hbase, (hmade.lt_length_iff heven).mp ?_⟩ hword
    omega

/-- Lines are numbered from the base on, two addresses apart. -/
theorem Made.address_getElem {d : Disassembly} (hmade : d.Made) {i : Nat}
    (h : i < d.lines.length) : d.lines[i].address = d.region.base + 2 * i := by
  obtain ⟨word, _, hshown⟩ := hmade.fetched.2 i h
  rw [hshown]
  rfl

/-- A line is found again by its address. -/
theorem Made.lineIndex_address {d : Disassembly} (hmade : d.Made) {i : Nat}
    (h : i < d.lines.length) : d.lineIndex d.lines[i].address = .ok i := by
  have hlength := hmade.fetched.1
  obtain ⟨hbase_even, _, _, _⟩ := hmade.valid
  have hword : d.region.HasWord (d.region.base + 2 * i) :=
    ⟨by omega, by omega, by omega⟩
  obtain ⟨index, _, _, hindex, hfound, _⟩ := hmade.lineIndex_of_hasWord hword
  rw [hmade.address_getElem h, hfound, show index = i by omega]

/-- An address is found at the position of the line that has it, and nowhere else. -/
theorem Made.lineIndex_eq_ok_iff {d : Disassembly} (hmade : d.Made) (address : Int) (i : Nat) :
    d.lineIndex address = .ok i ↔ ∃ h : i < d.lines.length, d.lines[i].address = address := by
  constructor
  · intro hfound
    by_cases hword : d.region.HasWord address
    · obtain ⟨index, h, _, _, hindex, haddress, _⟩ := hmade.lineIndex_of_hasWord hword
      rw [hindex] at hfound
      cases hfound
      exact ⟨h, haddress⟩
    · obtain ⟨cause, hfault, _⟩ := hmade.lineIndex_of_not_hasWord hword
      rw [hfault] at hfound
      cases hfound
  · rintro ⟨h, rfl⟩
    exact hmade.lineIndex_address h

/-- **Addresses and lines correspond.** Any disassembly at all answers an address with a bad address
or with a line that exists. In one that was made, exactly the addresses of words are answered, each
with the line at half its distance from the base; that line has the address, and shows the word that
is fetched there. Looking up the address of a line gives its position. -/
theorem lineIndex_correlates (d : Disassembly) :
    (∀ address,
      (∃ cause, d.lineIndex address = .error (.address cause) ∧
        d.lineAt address = .error (.address cause)) ∨
      ∃ index, ∃ h : index < d.lines.length,
        d.lineIndex address = .ok index ∧ d.lineAt address = .ok d.lines[index]) ∧
    ∀ cells region, ofCells cells region = .ok d →
      (∀ address, region.HasWord address →
        ∃ index, ∃ h : index < d.lines.length, ∃ word,
          (index : Int) = (address - region.base) / 2 ∧ d.lineIndex address = .ok index ∧
            d.lines[index].address = address ∧ d.image.cells.readWord address = .ok word ∧
            d.lineAt address = .ok (Line.ofWord word address)) ∧
      (∀ address, ¬region.HasWord address →
        ∃ cause, d.lineIndex address = .error (.address cause) ∧
          d.lineAt address = .error (.address cause)) ∧
      ∀ i (h : i < d.lines.length), d.lineIndex d.lines[i].address = .ok i := by
  constructor
  · intro address
    obtain ⟨_, hfault⟩ | ⟨_, _, index, h, _, hfound⟩ := d.lineIndex_cases address
    · exact Or.inl hfault
    · exact Or.inr ⟨index, h, hfound⟩
  · intro cells region hd
    obtain ⟨_, rfl, hmade⟩ := made_of_ofCells hd
    exact ⟨fun _ hword => hmade.lineIndex_of_hasWord hword,
      fun _ hword => hmade.lineIndex_of_not_hasWord hword, fun _ h => hmade.lineIndex_address h⟩

/-- Two words at an offset: the second has the second line, and the end of the region has none. -/
theorem lineIndex_correlates_two_words :
    ∃ d, ofCells #[0x12, 0x00, 0x00, 0xE0, 0xFF, 0xFF, 0x01] ⟨2, 6⟩ = .ok d ∧
      d.lineIndex 4 = .ok 1 ∧ (∃ cause, d.lineIndex 6 = .error (.address cause)) ∧
      ∃ cause, d.lineIndex 3 = .error (.address cause) := by
  have hcells : Cells.AllBytes #[0x12, 0x00, 0x00, 0xE0, 0xFF, 0xFF, 0x01] := by
    unfold Cells.AllBytes
    decide
  obtain ⟨d, hd⟩ := exists_ofCells hcells (show Region.Valid ⟨2, 6⟩ by decide) (by decide)
  obtain ⟨_, hmade⟩ := lineIndex_correlates d
  obtain ⟨hfound, hrefused, _⟩ := hmade _ _ hd
  refine ⟨d, hd, ?_, ?_, ?_⟩
  · obtain ⟨index, _, _, hindex, hindexed, _⟩ := hfound 4 ⟨by decide, by decide, by decide⟩
    have hone : index = 1 := by
      change (index : Int) = (4 - 2) / 2 at hindex
      omega
    rw [hindexed, hone]
  · obtain ⟨cause, hfault, _⟩ := hrefused 6 (fun h => absurd h.2.2 (by decide))
    exact ⟨cause, hfault⟩
  · obtain ⟨cause, hfault, _⟩ := hrefused 3 (fun h => absurd h.1 (by decide))
    exact ⟨cause, hfault⟩

end Disassembly

end Chip8
