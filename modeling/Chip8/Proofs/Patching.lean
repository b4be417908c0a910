import Chip8.Proofs.Loading
import Chip8.Proofs.ReadBack

/-!
# Listings of memory that is loaded over

A program can be loaded anywhere in memory, at odd addresses too, while a listing goes by words from
an even base. So the words of the listing meet the program in every way: outside of it, wholly inside,
or with one byte of two at either of its ends. This file says which lines of the listing change.

`Listing.ofImage_eq_map` makes a line a function of the two bytes of its word, `Image.lineOf`. From
there it goes by bytes: `Image.lineOf_eq_iff` and `Image.text_lineOf_eq_iff` say that a line tells its
bytes, as a whole and by its text alone, and `Image.load_of_fits` what the bytes are once the program
is loaded.

The main statement is `Listing.load_changes_lines`.
-/

namespace Chip8

/-- The text of a line tells its word. -/
theorem Line.word_eq_of_text_eq {word word' : Word} {address : Int}
    (h : (ofWord word address).text = (ofWord word' address).text) : word = word' := by
  have hread := Listing.readRow?_line word address []
  rw [h, Listing.readRow?_line, Option.some.injEq, Prod.mk.injEq] at hread
  exact Word.ext (Int.ofNat.inj hread.2).symm

namespace Image

/-- The line with the given number in the listing of a region. -/
def lineOf (image : Image) (region : Region) (i : Nat) : Line :=
  let address := region.base.toNat + 2 * i
  Line.ofWord (Word.pack (image.byteAt address) (image.byteAt (address + 1))) (region.base + 2 * i)

/-- A program at a base lies over an address. -/
def LiesOver (program : Image) (base address : Nat) : Prop :=
  base ≤ address ∧ address < base + program.size

/-- A program at a base has another byte for an address than memory has. -/
def Replaces (program image : Image) (base address : Nat) : Prop :=
  program.LiesOver base address ∧ program.byteAt (address - base) ≠ image.byteAt address

instance (program : Image) (base address : Nat) : Decidable (program.LiesOver base address) :=
  inferInstanceAs (Decidable (_ ∧ _))

/-! ## Lines and bytes -/

/-- Two images have the same word at an address exactly if both its bytes are the same. -/
theorem pack_byteAt_inj (image other : Image) (address : Nat) :
    Word.pack (image.byteAt address) (image.byteAt (address + 1)) =
        Word.pack (other.byteAt address) (other.byteAt (address + 1)) ↔
      image.byteAt address = other.byteAt address ∧
        image.byteAt (address + 1) = other.byteAt (address + 1) := by
  constructor
  · exact Word.pack_inj (image.byteAt_lt _) (image.byteAt_lt _) (other.byteAt_lt _)
      (other.byteAt_lt _)
  · rintro ⟨hhigh, hlow⟩
    rw [hhigh, hlow]

/-- Lines of the same place have the same text exactly if both bytes are the same. -/
theorem text_lineOf_eq_iff (image other : Image) (region : Region) (i : Nat) :
    (image.lineOf region i).text = (other.lineOf region i).text ↔
      image.byteAt (region.base.toNat + 2 * i) = other.byteAt (region.base.toNat + 2 * i) ∧
        image.byteAt (region.base.toNat + 2 * i + 1) =
          other.byteAt (region.base.toNat + 2 * i + 1) := by
  rw [← pack_byteAt_inj]
  constructor
  · exact Line.word_eq_of_text_eq
  · intro hword
    rw [lineOf, lineOf, hword]

/-- They are the same as a whole exactly then too, since the text leaves nothing of a line open. -/
theorem lineOf_eq_iff (image other : Image) (region : Region) (i : Nat) :
    image.lineOf region i = other.lineOf region i ↔
      image.byteAt (region.base.toNat + 2 * i) = other.byteAt (region.base.toNat + 2 * i) ∧
        image.byteAt (region.base.toNat + 2 * i + 1) =
          other.byteAt (region.base.toNat + 2 * i + 1) := by
  rw [← text_lineOf_eq_iff]
  constructor
  · exact congrArg Line.text
  · intro htext
    have hword := Line.word_eq_of_text_eq htext
    rw [lineOf, lineOf, hword]

end Image

namespace Listing

/-- A listing has a line for each word of the region, made of the two bytes of that word. -/
theorem ofImage_eq_map (image : Image) {region : Region} (hvalid : region.Valid)
    (hfits : region.limit ≤ image.size) :
    ofImage image region = .ok ((List.range region.wordCount).map (image.lineOf region)) := by
  rw [ofImage_eq_ok image hvalid hfits, image.words_eq hvalid hfits]
  congr 1
  apply List.ext_getElem
  · simp only [length_ofWords, List.length_map]
  · intro i _ _
    simp only [ofWords, List.getElem_mapIdx, List.getElem_map, List.getElem_range]
    rfl

/-! ## Loading over a listing -/

/-- **A load changes the lines whose bytes it changes**, and no others. For a program that fits at a
base that is not negative and a valid region that memory holds, of whatever parity the program's ends
are: it is loaded, there are as many lines as before, and a line differs, as a whole and in its text,
exactly if the program lies over one of its two bytes with another value. A line wholly under the
program shows two bytes of it, and one under either end shows one byte of it and one of memory. -/
theorem load_changes_lines (image program : Image) (base : Nat) (region : Region)
    (hfits : base + program.size ≤ image.size) (hvalid : region.Valid)
    (hregion : region.limit ≤ image.size) :
    ∃ out old new, image.load program.cells base = .ok out ∧ ofImage image region = .ok old ∧
      ofImage out region = .ok new ∧ new.length = old.length ∧
      ∀ i (h : i < old.length) (h' : i < new.length),
        let address := region.base.toNat + 2 * i
        (new[i] ≠ old[i] ↔
          program.Replaces image base address ∨ program.Replaces image base (address + 1)) ∧
        (new[i].text ≠ old[i].text ↔
          program.Replaces image base address ∨ program.Replaces image base (address + 1)) ∧
        (program.LiesOver base address → program.LiesOver base (address + 1) →
          new[i] = Line.ofWord
            (Word.pack (program.byteAt (address - base)) (program.byteAt (address + 1 - base)))
            (region.base + 2 * i)) ∧
        (program.LiesOver base address → ¬program.LiesOver base (address + 1) →
          new[i] = Line.ofWord
            (Word.pack (program.byteAt (address - base)) (image.byteAt (address + 1)))
            (region.base + 2 * i)) ∧
        (¬program.LiesOver base address → program.LiesOver base (address + 1) →
          new[i] = Line.ofWord
            (Word.pack (image.byteAt address) (program.byteAt (address + 1 - base)))
            (region.base + 2 * i)) := by
  obtain ⟨out, hload, hsize, hread⟩ :=
    image.load_of_fits program (Int.natCast_nonneg base) (by omega)
  have hbyte : ∀ address, out.byteAt address =
      if program.LiesOver base address then program.byteAt (address - base)
      else image.byteAt address := by
    intro address
    rw [hread, Int.toNat_natCast]
    rfl
  -- a byte stays what it is exactly if the program does not replace it
  have hsame : ∀ address, out.byteAt address = image.byteAt address ↔
      ¬program.Replaces image base address := by
    intro address
    rw [hbyte, Image.Replaces]
    split <;> grind
  refine ⟨out, _, _, hload, ofImage_eq_map image hvalid hregion,
    ofImage_eq_map out hvalid (by omega), by simp only [List.length_map], ?_⟩
  intro i _ _ address
  simp only [List.getElem_map, List.getElem_range]
  refine ⟨?_, ?_, ?_, ?_, ?_⟩
  · rw [ne_eq, Image.lineOf_eq_iff, hsame, hsame, ← not_or, Classical.not_not]
  · rw [ne_eq, Image.text_lineOf_eq_iff, hsame, hsame, ← not_or, Classical.not_not]
  · intro hhigh hlow
    rw [Image.lineOf, hbyte, hbyte, if_pos hhigh, if_pos hlow]
  · intro hhigh hlow
    rw [Image.lineOf, hbyte, hbyte, if_pos hhigh, if_neg hlow]
  · intro hhigh hlow
    rw [Image.lineOf, hbyte, hbyte, if_neg hhigh, if_pos hlow]

/-- Three bytes at an odd address of six: the first line gets one byte, the second two of which one is
as before, and the third none. -/
theorem load_changes_lines_odd_base :
    let image : Image := ⟨#[0, 0, 0, 0, 0, 0]⟩
    let program : Image := ⟨#[0xE0, 0x12, 0x00]⟩
    ∃ out old new, image.load program.cells 1 = .ok out ∧ ofImage image ⟨0, 6⟩ = .ok old ∧
      ofImage out ⟨0, 6⟩ = .ok new ∧ new.length = old.length ∧
      (new[0]? = some (Line.ofWord (Word.pack 0x00 0xE0) 0) ∧
        new[1]? = some (Line.ofWord (Word.pack 0x12 0x00) 2) ∧ new[2]? = old[2]?) := by
  intro image program
  obtain ⟨out, old, new, hload, hold, hnew, hlength, hlines⟩ :=
    load_changes_lines image program 1 ⟨0, 6⟩ (by decide) (by decide) (by decide)
  have hcount : old.length = 3 := by
    rw [ofImage_eq_map image (by decide) (by decide)] at hold
    cases hold
    rfl
  refine ⟨out, old, new, hload, hold, hnew, hlength, ?_, ?_, ?_⟩
  · rw [List.getElem?_eq_getElem (by omega)]
    exact congrArg some ((hlines 0 (by omega) (by omega)).2.2.2.2 (by decide) (by decide))
  · rw [List.getElem?_eq_getElem (by omega)]
    exact congrArg some ((hlines 1 (by omega) (by omega)).2.2.1 (by decide) (by decide))
  · rw [List.getElem?_eq_getElem (by omega), List.getElem?_eq_getElem (by omega)]
    have hchanged := (hlines 2 (by omega) (by omega)).1
    refine congrArg some (Classical.not_not.mp fun hne => ?_)
    rcases hchanged.mp hne with ⟨hover, _⟩ | ⟨hover, _⟩
    · exact absurd hover (by decide)
    · exact absurd hover (by decide)

end Listing

end Chip8
