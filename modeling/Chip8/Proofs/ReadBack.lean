import Chip8.Proofs.Characters
import Chip8.Proofs.Fetch

/-!
# Reading a listing back

A printed listing can be read: cut it at its line breaks, drop the marker column if there is one, and
take the two numbers at the front of each row. Addresses may need more than four digits and a row may
have any number of blanks behind it, so neither number is found by its column; each goes up to the
blank that ends it.

`Listing.readRow?_line` says that a row gives back its address and its word, whatever stands behind
them. `Listing.words_eq_of_map_eq` draws the consequence once for every way of showing lines that can
be read so: lines that look the same are lines of the same words.

The main statement is `Listing.print_loses_nothing`. A listing is made exactly if there is room for
the blanks of its rows; if so, it shows all bytes of the region and can be told from the listing of
any image that differs in one of them. `Listing.print_beyond_index` is a width for which there is no
room.
-/

namespace Chip8

namespace Listing

/-! ## The reader -/

/-- Cuts a text at its line breaks. -/
def cut (text : String) : List (List Char) :=
  text.toList.splitOn '\n'

/-- Drops the marker column of a row, which is there if an address is highlighted. -/
def unmark (highlight : Option Int) (row : List Char) : List Char :=
  if highlight.isSome then row.drop 1 else row

/-- Reads a hexadecimal number after its mark, up to the blank that ends it. What stands behind the
blank is left. -/
def readNumber? : List Char → Option (Int × List Char)
  | '0' :: 'x' :: rest =>
    match rest.dropWhile (· != ' ') with
    | [] => none
    | _ :: left =>
      (Numeral.read? .hexadecimal (rest.takeWhile (· != ' '))).map fun value => (value, left)
  | _ => none

/-- Reads the address and the word at the front of a row. -/
def readRow? (row : List Char) : Option (Int × Int) := do
  let (address, left) ← readNumber? row
  let (word, _) ← readNumber? left
  return (address, word)

/-- What a text shows of an image: a row for each word of the region, with its address and its two
bytes. -/
def Shows (text : String) (highlight : Option Int) (image : Image) (region : Region) : Prop :=
  ((cut text).length : Int) = (region.limit - region.base) / 2 ∧
    ∀ i (h : i < (cut text).length),
      readRow? (unmark highlight (cut text)[i]) =
        some (region.base + 2 * i,
          256 * (image.byteAt (region.base.toNat + 2 * i) : Int) +
            image.byteAt (region.base.toNat + 2 * i + 1))

/-! ## Single rows -/

/-- A number with its mark and a blank is read up to the blank. -/
theorem readNumber?_hex (width : Nat) (n : Int) (left : List Char) :
    readNumber? ((Numeral.hex width n ++ " ").toList ++ left) = some (n, left) := by
  have hblank : ' ' ∉ Numeral.chars .hexadecimal width n :=
    Numeral.not_mem_chars (by decide) (by decide) width n
  have hrun : ∀ c ∈ Numeral.chars .hexadecimal width n, (c != ' ') = true := by
    intro c hc
    rw [bne_iff_ne]
    rintro rfl
    exact hblank hc
  have htext : (Numeral.hex width n ++ " ").toList ++ left =
      '0' :: 'x' :: (Numeral.chars .hexadecimal width n ++ ' ' :: left) := by
    simp [Numeral.hex, Numeral.render]
  rw [htext, readNumber?, List.dropWhile_append_of_pos hrun, List.takeWhile_append_of_pos hrun]
  simp [Numeral.read?_chars]

/-- The line of a word reads as its address and the word, whatever is behind it. -/
theorem readRow?_line (word : Word) (address : Int) (left : List Char) :
    readRow? ((Line.ofWord word address).text.toList ++ left) = some (address, (word.raw : Int)) := by
  -- both numbers in front, and behind them what the reader never looks at
  have htext : (Line.ofWord word address).text.toList ++ left =
      (Numeral.hex 4 address ++ " ").toList ++ ((Numeral.hex 4 word.raw ++ " ").toList ++
        (' ' :: (Segment.joined word.instruction).toList ++ left)) := by
    simp [Line.text, Line.ofWord, Segment.joined_cons]
  rw [htext]
  simp only [readRow?, readNumber?_hex, Option.bind_eq_bind, Option.bind_some]
  rfl

/-- Without its marker a row is the text of the line and blanks. -/
theorem unmark_rowText (width highlight : Option Int) (line : Line) :
    unmark highlight (rowText width highlight line).toList =
      line.text.toList ++ (Text.blanks (Layout.shortfall width (line.row highlight))).toList := by
  rw [rowText, Line.row, Segment.joined_append, String.toList_append, String.toList_append]
  cases highlight with
  | none => simp [unmark, Line.marker, Line.text]
  | some address =>
    have hmarker : (Segment.joined (line.marker (some address))).toList.length = 1 := by
      simp only [Line.marker, Segment.joined_cons]
      split <;> rfl
    simp [unmark, Line.text, hmarker]

theorem readRow?_rowText (width highlight : Option Int) (word : Word) (address : Int) :
    readRow? (unmark highlight (rowText width highlight (Line.ofWord word address)).toList) =
      some (address, (word.raw : Int)) := by
  rw [unmark_rowText, readRow?_line]

/-! ## All rows -/

/-- Cutting rows that are joined gives them back, if there is one and none has a line break. -/
theorem cut_intercalate {texts : List String} (hne : texts ≠ [])
    (h : ∀ text ∈ texts, Text.clean text = true) :
    cut ("\n".intercalate texts) = texts.map String.toList := by
  rw [cut, String.toList_intercalate]
  apply List.splitOn_intercalate
  · rw [List.forall_mem_map]
    exact fun text htext => Text.newline_not_mem (h text htext)
  · rwa [ne_eq, List.map_eq_nil_iff]

/-- Cutting rows that are all ended gives them back, and nothing behind the last. -/
theorem cut_ended {texts : List String} (h : ∀ text ∈ texts, Text.clean text = true) :
    cut (Segment.ended texts) = texts.map String.toList ++ [[]] := by
  induction texts with
  | nil => rfl
  | cons text rest ih =>
    rw [List.forall_mem_cons] at h
    have hrest : (Segment.ended rest).toList.splitOn '\n' = rest.map String.toList ++ [[]] := ih h.2
    have hchars : (Segment.ended (text :: rest)).toList =
        text.toList ++ '\n' :: (Segment.ended rest).toList := by
      simp [Segment.ended_cons]
    rw [cut, hchars, List.splitOn_append_cons_self_of_not_mem (Text.newline_not_mem h.1), hrest]
    rfl

theorem mem_ofWords {base : Int} {words : List Word} {line : Line} (h : line ∈ ofWords base words) :
    ∃ word address, line = Line.ofWord word address := by
  obtain ⟨i, hi, rfl⟩ := List.mem_mapIdx.mp h
  exact ⟨_, _, rfl⟩

/-- Cutting the listing of a word or more gives the rows of its lines. -/
theorem cut_rows {base : Int} {words : List Word} (h : words ≠ []) (width highlight : Option Int) :
    cut ("\n".intercalate ((ofWords base words).map (rowText width highlight))) =
      (ofWords base words).map fun line => (rowText width highlight line).toList := by
  rw [cut_intercalate, List.map_map]
  · rfl
  · simpa [ofWords] using h
  · rw [List.forall_mem_map]
    intro line hline
    obtain ⟨word, address, rfl⟩ := mem_ofWords hline
    exact clean_rowText width highlight word address

/-- The rows of a region's words show its bytes. -/
theorem shows_rows (image : Image) {region : Region} (hvalid : region.Valid)
    (hfits : region.limit ≤ image.size) (hne : image.words region ≠ [])
    (width highlight : Option Int) :
    Shows
      ("\n".intercalate ((ofWords region.base (image.words region)).map (rowText width highlight)))
      highlight image region := by
  have hcount := hvalid.two_mul_wordCount
  rw [Shows, cut_rows hne]
  constructor
  · rw [List.length_map, length_ofWords, image.words_eq hvalid hfits, List.length_map,
      List.length_range]
    omega
  · intro i hi
    have hhigh := image.byteAt_lt (region.base.toNat + 2 * i)
    have hlow := image.byteAt_lt (region.base.toNat + 2 * i + 1)
    -- row `i` reads as the word of its two bytes, which are too small for packing to cut them
    simp only [List.getElem_map, ofWords, List.getElem_mapIdx, readRow?_rowText,
      image.words_eq hvalid hfits, List.getElem_range, Word.pack_raw]
    rw [Int.emod_eq_of_lt (by omega) (by omega), Int.emod_eq_of_lt (by omega) (by omega)]

/-- Lines that are shown so that they can be read tell their words. -/
theorem words_eq_of_map_eq (shown : Line → List Char)
    (hread : ∀ word address,
      readRow? (shown (Line.ofWord word address)) = some (address, (word.raw : Int)))
    {base : Int} {words words' : List Word}
    (h : (ofWords base words).map shown = (ofWords base words').map shown) : words = words' := by
  have hlength : words.length = words'.length := by
    have := congrArg List.length h
    rwa [List.length_map, List.length_map, length_ofWords, length_ofWords] at this
  refine List.ext_getElem hlength fun i hi hi' => ?_
  have hrow : shown (Line.ofWord words[i] (base + 2 * i)) =
      shown (Line.ofWord words'[i] (base + 2 * i)) := by
    have := congrArg (fun rows => rows[i]?) h
    simpa [ofWords, hi, hi'] using this
  have hentry := congrArg readRow? hrow
  rw [hread, hread, Option.some.injEq, Prod.mk.injEq] at hentry
  exact Word.ext (Int.ofNat.inj hentry.2)

/-! ## Printed listings -/

/-- The text of the listing of a region. -/
def print [Capacity] (image : Image) (region : Region) (width highlight : Option Int) :
    Except Fault String := do
  render (← ofImage image region) width highlight

/-- With room for its blanks a listing is made, and it is its rows. -/
theorem print_eq [Capacity] (image : Image) {region : Region} (hvalid : region.Valid)
    (hfits : region.limit ≤ image.size) {width highlight : Option Int}
    (hroom : HasRoom (ofWords region.base (image.words region)) width highlight) :
    print image region width highlight =
      .ok ("\n".intercalate
        ((ofWords region.base (image.words region)).map (rowText width highlight))) := by
  rw [print, ofImage_eq_ok image hvalid hfits]
  exact render_eq hroom

/-- Without room for its blanks it is not made. -/
theorem print_eq_error [Capacity] (image : Image) {region : Region} (hvalid : region.Valid)
    (hfits : region.limit ≤ image.size) {width highlight : Option Int}
    (hroom : ¬HasRoom (ofWords region.base (image.words region)) width highlight) :
    ∃ fault : Fault, fault.IsLength ∧ print image region width highlight = .error fault := by
  rw [print, ofImage_eq_ok image hvalid hfits]
  exact render_eq_error hroom

/-- A text that is a region's listing is cut into the rows of the region's words. -/
theorem cut_print [Capacity] {image : Image} {region : Region} (hvalid : region.Valid)
    (hwords : region.base < region.limit) (hfits : region.limit ≤ image.size)
    {width highlight : Option Int} {text : String}
    (h : print image region width highlight = .ok text) :
    cut text = (ofWords region.base (image.words region)).map fun line =>
      (rowText width highlight line).toList := by
  by_cases hroom : HasRoom (ofWords region.base (image.words region)) width highlight
  · rw [print_eq image hvalid hfits hroom] at h
    rw [← Except.ok.inj h]
    exact cut_rows (image.words_ne_nil hvalid hwords hfits) width highlight
  · obtain ⟨fault, _, hfault⟩ := print_eq_error image hvalid hfits hroom
    rw [hfault] at h
    cases h

/-- Two images are listed alike only if they have the same words. -/
theorem words_eq_of_print_eq [Capacity] {image other : Image} {region : Region}
    (hvalid : region.Valid) (hwords : region.base < region.limit)
    (hfits : region.limit ≤ image.size) (hfits' : region.limit ≤ other.size)
    {width highlight : Option Int} {text : String}
    (h : print image region width highlight = .ok text)
    (h' : print other region width highlight = .ok text) :
    image.words region = other.words region := by
  have hrows := (cut_print hvalid hwords hfits h).symm.trans (cut_print hvalid hwords hfits' h')
  have hunmarked := congrArg (List.map (unmark highlight)) hrows
  rw [List.map_map, List.map_map] at hunmarked
  exact words_eq_of_map_eq (unmark highlight ∘ fun line => (rowText width highlight line).toList)
    (readRow?_rowText width highlight) hunmarked

/-- **A listing loses nothing.** With room for the blanks of its rows, a region of a word or more has
a listing that shows all its bytes, and no other image has the same listing unless it has the same
bytes there. Without room the listing is refused as too long a text. There is room for every width
below the limit, and where no width is asked for. -/
theorem print_loses_nothing [Capacity] (image : Image) (region : Region) (hvalid : region.Valid)
    (hwords : region.base < region.limit) (hfits : region.limit ≤ image.size)
    (width highlight : Option Int) :
    ∃ lines, ofImage image region = .ok lines ∧
      (HasRoom lines width highlight →
        ∃ text, print image region width highlight = .ok text ∧
          Shows text highlight image region ∧
          ∀ other : Image, region.limit ≤ other.size →
            (print other region width highlight = .ok text ↔ Image.AgreeOn region image other)) ∧
      (¬HasRoom lines width highlight →
        ∃ length, print image region width highlight = .error (.textBeyondIndex length) ∨
          print image region width highlight = .error (.textTooLarge length)) ∧
      ((∀ columns, width = some columns → columns < Capacity.memoryLimit) →
        HasRoom lines width highlight) := by
  refine ⟨_, ofImage_eq_ok image hvalid hfits, ?_, ?_, fun h => hasRoom_of_lt h _ _⟩
  · intro hroom
    have hprint := print_eq image hvalid hfits hroom
    have hne := image.words_ne_nil hvalid hwords hfits
    refine ⟨_, hprint, shows_rows image hvalid hfits hne width highlight, fun other hfits' => ?_⟩
    rw [← Image.words_eq_words_iff hvalid hfits hfits']
    constructor
    · exact words_eq_of_print_eq hvalid hwords hfits hfits' hprint
    · -- the same words make the same lines, so that there is room for them as well
      intro h
      rw [h] at hroom ⊢
      exact print_eq other hvalid hfits' hroom
  · intro hroom
    obtain ⟨_, ⟨length, rfl | rfl⟩, hfault⟩ := print_eq_error image hvalid hfits hroom
    · exact ⟨length, Or.inl hfault⟩
    · exact ⟨length, Or.inr hfault⟩

/-- Two words with bytes on either side of them, the second highlighted. -/
theorem print_loses_nothing_two_words :
    letI : Capacity := .tebibyte
    let image : Image := ⟨#[0x12, 0x00, 0x00, 0xE0, 0xFF, 0xFF, 0x01]⟩
    (⟨2, 6⟩ : Region).Valid ∧ (6 : Int) ≤ image.size ∧
      ∃ text, print image ⟨2, 6⟩ (some 120) (some 4) = .ok text ∧
        Shows text (some 4) image ⟨2, 6⟩ := by
  let : Capacity := .tebibyte
  intro image
  refine ⟨by decide, by decide, ?_⟩
  obtain ⟨lines, _, hshown, _, hroom⟩ :=
    print_loses_nothing image ⟨2, 6⟩ (by decide) (by decide) (by decide) (some 120) (some 4)
  have hlow : ∀ columns : Int, some 120 = some columns → columns < Capacity.memoryLimit := by
    rintro columns ⟨⟩
    decide
  obtain ⟨text, hprint, hshows, _⟩ := hshown (hroom hlow)
  exact ⟨text, hprint, hshows⟩

/-- One word at a width that asks for more blanks than can be counted, whatever memory there is. -/
theorem print_beyond_index :
    (⟨0, 2⟩ : Region).Valid ∧ (2 : Int) ≤ (⟨#[0x00, 0xE0]⟩ : Image).size ∧
      ¬∃ (_ : Capacity) (text : String),
        print ⟨#[0x00, 0xE0]⟩ ⟨0, 2⟩ (some 9223372036854775842) none = .ok text := by
  refine ⟨by decide, by decide, ?_⟩
  rintro ⟨_, text, h⟩
  have hfault : print ⟨#[0x00, 0xE0]⟩ ⟨0, 2⟩ (some 9223372036854775842) none =
      .error (.textBeyondIndex 9223372036854775808) := by
    rfl
  rw [hfault] at h
  cases h

end Listing

end Chip8
