import Chip8.Disassembly
import Chip8.Proofs.ReadBack

/-!
# Stale disassemblies

A disassembly keeps the bytes from which its lines were made. `Disassembly.isStale` compares them
with the bytes of another image and never lists that image. This file shows that it answers as if it
did: an image is stale exactly if its listing is not the one that was kept.

The comparison is of two slices, and slices are clamped, so it says something about bytes only where
both images hold the region to its end (`Image.part_eq_part_iff`). For the kept image that follows
from how disassemblies are made (`Disassembly.made_of_ofCells`). For the other it is the check of the
size. From bytes to lines and back it is `Image.words_eq_words_iff` and that lines tell their words.

The main statement is `Disassembly.isStale_exact`.
-/

namespace Chip8

/-! ## Slices of bytes -/

namespace Image

/-- Inside both images, slices are the same if the bytes are. -/
theorem part_eq_part_iff {image other : Image} {region : Region} (hvalid : region.Valid)
    (hfits : region.limit ≤ image.size) (hfits' : region.limit ≤ other.size) :
    image.part region.base region.limit = other.part region.base region.limit ↔
      AgreeOn region image other := by
  obtain ⟨_, _, h0, hle⟩ := hvalid
  unfold Image.size at hfits hfits'
  rw [part, part, size, size, Slice.bound_of_le h0 (by omega), Slice.bound_of_le h0 (by omega),
    Slice.bound_of_le (by omega) hfits, Slice.bound_of_le (by omega) hfits']
  constructor
  · intro hpart address hbase hlimit
    -- a byte of the region stands in the slice at its distance from the base
    have hbyte := congrArg (fun bytes => bytes[address - region.base.toNat]?) hpart
    simp only [Array.getElem?_extract] at hbyte
    rw [if_pos (by omega), if_pos (by omega),
      show region.base.toNat + (address - region.base.toNat) = address by omega] at hbyte
    simp only [byteAt, Array.getD_eq_getD_getElem?, hbyte]
  · intro hbytes
    apply Array.ext
    · simp only [Array.size_extract]
      omega
    · intro i hi hi'
      simp only [Array.size_extract] at hi hi'
      have hbyte := hbytes (region.base.toNat + i) (by omega) (by omega)
      simp only [byteAt, UInt8.toNat_inj] at hbyte
      rw [Array.getElem_extract, Array.getElem_extract]
      simpa [Array.getD, show region.base.toNat + i < image.bytes.size by omega,
        show region.base.toNat + i < other.bytes.size by omega] using hbyte

end Image

/-! ## Lines and bytes -/

namespace Listing

/-- The texts of lines tell their words. -/
theorem words_eq_of_text_eq {base : Int} {words words' : List Word}
    (h : (ofWords base words).map Line.text = (ofWords base words').map Line.text) :
    words = words' := by
  apply words_eq_of_map_eq (fun line => line.text.toList)
  · intro word address
    have hread := readRow?_line word address []
    rwa [List.append_nil] at hread
  · have htexts := congrArg (List.map String.toList) h
    rwa [List.map_map, List.map_map] at htexts

end Listing

/-! ## Disassemblies and other images -/

namespace Disassembly

/-- What holds of a disassembly once it has been made: its image holds its region to the end, and its
lines are those of the words there. -/
structure Made (d : Disassembly) : Prop where
  valid : d.region.Valid
  fits : d.region.limit ≤ d.image.size
  lines_eq : d.lines = Listing.ofWords d.region.base (d.image.words d.region)

/-- Disassemblies are made of bytes that hold a valid region to its end. -/
theorem exists_ofCells {cells : Cells} {region : Region} (hbytes : cells.AllBytes)
    (hvalid : region.Valid) (hfits : region.limit ≤ cells.size) :
    ∃ d, ofCells cells region = .ok d := by
  obtain ⟨image, himage, hcells⟩ := Image.exists_ofCells hbytes
  have hsize : image.size = cells.size := by rw [← hcells, image.size_cells]
  refine ⟨⟨image, Listing.ofWords region.base (image.words region), region⟩, ?_⟩
  rw [ofCells, himage]
  show ofImage image region = _
  rw [ofImage, Listing.ofImage_eq_ok image hvalid (by omega)]
  rfl

/-- A disassembly keeps the image of its cells and the region it was asked for. -/
theorem made_of_ofCells {cells : Cells} {region : Region} {d : Disassembly}
    (h : ofCells cells region = .ok d) :
    Image.ofCells cells = .ok d.image ∧ d.region = region ∧ d.Made := by
  rw [ofCells] at h
  cases himage : Image.ofCells cells with
  | error fault =>
    rw [himage] at h
    cases h
  | ok image =>
    rw [himage] at h
    change ofImage image region = .ok d at h
    rw [ofImage] at h
    cases hlines : Listing.ofImage image region with
    | error fault =>
      rw [hlines] at h
      cases h
    | ok lines =>
      rw [hlines] at h
      cases h
      obtain ⟨hvalid, hfits, hwords⟩ := (Listing.ofImage_eq_ok_iff image region lines).mp hlines
      exact ⟨rfl, rfl, hvalid, hfits, hwords⟩

/-- Within a disassembly's own region, stale means cut short or changed. -/
theorem isStale_eq_false_iff {d : Disassembly} (hmade : d.Made) (image : Image) :
    d.isStale image = false ↔
      d.region.limit ≤ image.size ∧ Image.AgreeOn d.region image d.image := by
  rw [isStale, Bool.or_eq_false_iff, decide_eq_false_iff_not, bne_eq_false_iff_eq, Int.not_lt]
  constructor
  · rintro ⟨hsize, hpart⟩
    exact ⟨hsize, (Image.part_eq_part_iff hmade.valid hsize hmade.fits).mp hpart⟩
  · rintro ⟨hsize, hbytes⟩
    exact ⟨hsize, (Image.part_eq_part_iff hmade.valid hsize hmade.fits).mpr hbytes⟩

/-- An image is not stale exactly if it has the same lines in the region. -/
theorem isStale_eq_false_iff_lines {d : Disassembly} (hmade : d.Made) (image : Image) :
    d.isStale image = false ↔ Listing.ofImage image d.region = .ok d.lines := by
  rw [isStale_eq_false_iff hmade, Listing.ofImage_eq_ok_iff, and_iff_right hmade.valid]
  apply and_congr_right
  intro hsize
  rw [← Image.words_eq_words_iff hmade.valid hsize hmade.fits, hmade.lines_eq]
  constructor
  · intro hwords
    rw [hwords]
  · intro hsame
    exact (Listing.words_eq_of_text_eq (congrArg (List.map Line.text) hsame)).symm

/-- Lines of the same region with the same texts are the same lines. -/
theorem lines_eq_of_text_eq {d : Disassembly} (hmade : d.Made) {image : Image} {lines : List Line}
    (h : Listing.ofImage image d.region = .ok lines)
    (htexts : lines.map Line.text = d.lines.map Line.text) : lines = d.lines := by
  obtain ⟨_, _, hwords⟩ := (Listing.ofImage_eq_ok_iff image d.region lines).mp h
  rw [hwords, hmade.lines_eq] at htexts
  rw [hwords, hmade.lines_eq, Listing.words_eq_of_text_eq htexts]

/-- **Staleness is exact.** For a disassembly that was made and any cells that are bytes, the answer
is no exactly if listing the region of those cells succeeds with the lines that were kept, and
exactly if it succeeds with their texts. It is yes exactly if the cells end before the region does or
differ from the listed ones at an address of the region; nothing outside it counts. -/
theorem isStale_exact {cells : Cells} {region : Region} {d : Disassembly}
    (hd : ofCells cells region = .ok d) {memory : Cells} (hbytes : memory.AllBytes) :
    ∃ image, Image.ofCells memory = .ok image ∧
      (d.isStale image = false ↔ Listing.ofCells memory region = .ok d.lines) ∧
      (d.isStale image = false ↔
        ∃ lines, Listing.ofCells memory region = .ok lines ∧
          lines.map Line.text = d.lines.map Line.text) ∧
      (d.isStale image = true ↔
        (memory.size : Int) < region.limit ∨
          ∃ address : Nat, region.base ≤ address ∧ (address : Int) < region.limit ∧
            memory.getD address 0 ≠ cells.getD address 0) := by
  obtain ⟨hcells, rfl, hmade⟩ := made_of_ofCells hd
  obtain ⟨image, himage, hmemory⟩ := Image.exists_ofCells hbytes
  have hsame := isStale_eq_false_iff_lines hmade image
  refine ⟨image, himage, ?_, ?_, ?_⟩
  · rw [← Listing.ofImage_eq_ofCells himage]
    exact hsame
  · rw [← Listing.ofImage_eq_ofCells himage, hsame]
    constructor
    · exact fun h => ⟨d.lines, h, rfl⟩
    · rintro ⟨lines, h, htexts⟩
      rwa [lines_eq_of_text_eq hmade h htexts] at h
  · -- the cells of an image are the cells it was made from, so that bytes can be compared as cells
    rw [← hmemory, ← Image.cells_of_ofCells hcells, Image.size_cells,
      ← Bool.not_eq_false, isStale_eq_false_iff hmade]
    simp only [Image.getD_cells, Image.AgreeOn]
    grind

/-- A disassembly of one word, and an image that is shorter and differs in the word's last byte. -/
theorem isStale_exact_changed_byte :
    ∃ d, ofCells #[0x00, 0xE0, 0x12] ⟨0, 2⟩ = .ok d ∧
      Cells.AllBytes #[0x00, 0xEE] ∧
      ∃ image, Image.ofCells #[0x00, 0xEE] = .ok image ∧ d.isStale image = true := by
  have hcells : Cells.AllBytes #[0x00, 0xE0, 0x12] := by
    unfold Cells.AllBytes
    decide
  have hbytes : Cells.AllBytes #[0x00, 0xEE] := by
    unfold Cells.AllBytes
    decide
  obtain ⟨d, hd⟩ := exists_ofCells hcells (show Region.Valid ⟨0, 2⟩ by decide) (by decide)
  obtain ⟨image, himage, _, _, hstale⟩ := isStale_exact hd hbytes
  exact ⟨d, hd, hbytes, image, himage, hstale.mpr (Or.inr ⟨1, by decide, by decide, by decide⟩)⟩

end Disassembly

end Chip8
