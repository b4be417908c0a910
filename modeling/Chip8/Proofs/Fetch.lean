import Chip8.Listing

/-!
# The pass over a region and the fetch of single words

A listing is made in one pass: two runs of alternate bytes are cut out of the image and put side by
side. `Cells.readWord` fetches one word at a time, with a check of its own and without asking
whether its two cells are bytes. This file shows that the two agree.

`Image.words_eq` turns the two runs into one word for each even offset, which is where alignment and
the last byte matter: on a valid region the runs have the same length, so that pairing them drops
nothing. `Image.readWord_cells` is the other side. `Listing.ofCells_cases` says once what the pass
can answer.

`Listing.Agrees` is the agreement: which fault comes out exactly when, how many lines there are
otherwise, and that each is the line of the word fetched at its address. The main statement is
`Listing.ofCells_agrees_iff`. The two agree but for refusals that have to name a limit of very many
digits, of which `Listing.disagrees_beyond_digits` has two.
-/

namespace Chip8

/-! ## Regions that a listing can have -/

/-- Both ends lie between words, and the base between zero and the limit. -/
structure Region.Valid (region : Region) : Prop where
  base_even : region.base % 2 = 0
  limit_even : region.limit % 2 = 0
  base_nonneg : 0 ≤ region.base
  base_le_limit : region.base ≤ region.limit

namespace Region

theorem valid_iff (region : Region) :
    region.Valid ↔ region.base % 2 = 0 ∧ region.limit % 2 = 0 ∧
      0 ≤ region.base ∧ region.base ≤ region.limit :=
  ⟨fun h => ⟨h.base_even, h.limit_even, h.base_nonneg, h.base_le_limit⟩,
    fun ⟨h1, h2, h3, h4⟩ => ⟨h1, h2, h3, h4⟩⟩

instance (region : Region) : Decidable region.Valid :=
  decidable_of_iff _ region.valid_iff.symm

/-- A valid region passes its check. -/
theorem Valid.check {region : Region} (h : region.Valid) : region.check = .ok () :=
  region.check_eq_ok_iff.mpr (region.valid_iff.mp h)

/-- Both ends lie between words. -/
def Aligned (region : Region) : Prop :=
  region.base % 2 = 0 ∧ region.limit % 2 = 0

/-- Any other region fails it. -/
theorem exists_check_error {region : Region} (h : ¬region.Valid) :
    ∃ fault, region.check = .error fault := by
  cases hcheck : region.check with
  | error fault => exact ⟨fault, rfl⟩
  | ok _ => exact absurd (region.valid_iff.mpr (region.check_eq_ok_iff.mp hcheck)) h

/-- It fails as a bad address, if that can be said: the limit of an aligned region is
named in decimal. -/
theorem check_of_not_valid {region : Region} (h : ¬region.Valid)
    (hsaid : region.Aligned → Capacity.IsShown region.limit) :
    ∃ cause, region.check = .error (.address cause) := by
  unfold Region.check
  split
  next => exact ⟨_, rfl⟩
  next haligned =>
    split
    next => exact ⟨_, by rw [Capacity.naming, if_pos (hsaid (by unfold Aligned; omega))]⟩
    next hrange => exact absurd (region.valid_iff.mpr (by omega)) h

/-- Where it cannot be said, that is the failure. -/
theorem check_of_not_isShown {region : Region} (h : ¬region.Valid) (haligned : region.Aligned)
    (hlong : ¬Capacity.IsShown region.limit) : region.check = .error .tooLongToShow := by
  have heven : ¬(region.base % 2 ≠ 0 ∨ region.limit % 2 ≠ 0) := by
    unfold Aligned at haligned
    omega
  have hrange : region.base < 0 ∨ region.limit < region.base := by
    rw [valid_iff] at h
    omega
  rw [check, if_neg heven, if_pos hrange, Capacity.naming, if_neg hlong]

/-- The words of a valid region fill it to its limit. -/
theorem Valid.two_mul_wordCount {region : Region} (h : region.Valid) :
    2 * (region.wordCount : Int) = region.limit - region.base := by
  obtain ⟨hbase, hlimit, h0, hle⟩ := h
  unfold wordCount
  omega

end Region

/-! ## Cells that are bytes -/

/-- Every cell is the value of a byte. -/
def Cells.AllBytes (cells : Cells) : Prop :=
  ∀ value ∈ cells, 0 ≤ value ∧ value ≤ 255

theorem isByte_iff (value : Int) : isByte value = true ↔ 0 ≤ value ∧ value ≤ 255 := by
  simp [isByte]

namespace Image

/-- Cells are accepted if all of them are bytes. -/
theorem ofCells_of_allBytes {cells : Cells} (h : cells.AllBytes) :
    ofCells cells = .ok ⟨cells.map fun value => UInt8.ofNat value.toNat⟩ := by
  have hnone : cells.find? (fun value => !isByte value) = none := by
    rw [Array.find?_eq_none]
    intro value hvalue
    simp [(isByte_iff value).mpr (h value hvalue)]
  unfold ofCells
  rw [hnone]

/-- Cells are refused if one of them is not a byte, wherever it stands. -/
theorem ofCells_of_not_allBytes {cells : Cells} (h : ¬cells.AllBytes) :
    ∃ value, ofCells cells = .error (.notAByte value) := by
  unfold ofCells
  split
  next value _ => exact ⟨value, rfl⟩
  next hnone =>
    refine absurd (fun value hvalue => ?_) h
    have hbyte := Array.find?_eq_none.mp hnone value hvalue
    exact (isByte_iff value).mp (by simpa using hbyte)

/-- The cells of an image are bytes. -/
theorem allBytes_cells (image : Image) : image.cells.AllBytes := by
  intro value hvalue
  obtain ⟨byte, _, rfl⟩ := Array.mem_map.mp hvalue
  have := byte.toNat_lt
  omega

/-- Turning cells into an image keeps every value. -/
theorem cells_of_ofCells {cells : Cells} {image : Image} (h : ofCells cells = .ok image) :
    image.cells = cells := by
  by_cases hbytes : cells.AllBytes
  · rw [ofCells_of_allBytes hbytes] at h
    cases h
    -- a value in range is not changed by its way through a byte
    apply Array.ext
    · simp [Image.cells]
    · intro i hi _
      have hvalue := hbytes cells[i] (Array.getElem_mem _)
      simp only [Image.cells, Array.getElem_map, UInt8.toNat_ofNat']
      omega
  · obtain ⟨value, hvalue⟩ := ofCells_of_not_allBytes hbytes
    rw [hvalue] at h
    cases h

/-- Cells that are bytes have an image, and it holds them. -/
theorem exists_ofCells {cells : Cells} (h : cells.AllBytes) :
    ∃ image, ofCells cells = .ok image ∧ image.cells = cells :=
  ⟨_, ofCells_of_allBytes h, cells_of_ofCells (ofCells_of_allBytes h)⟩

/-- An image handed over as cells comes back as it was. -/
theorem ofCells_cells (image : Image) : ofCells image.cells = .ok image := by
  rw [ofCells_of_allBytes image.allBytes_cells]
  simp [Image.cells, Function.comp_def]

theorem size_cells (image : Image) : image.cells.size = image.size := by
  simp [Image.cells, Image.size]

theorem getD_cells (image : Image) (address : Nat) :
    image.cells.getD address 0 = (image.byteAt address : Int) := by
  simp only [Image.cells, byteAt, Array.getD_eq_getD_getElem?, Array.getElem?_map]
  cases image.bytes[address]? <;> simp

/-- A word is fetched from an image wherever both its bytes exist. -/
theorem readWord_cells (image : Image) {address : Int} (h0 : 0 ≤ address)
    (h1 : address + 1 < image.size) :
    image.cells.readWord address =
      .ok (Word.pack (image.byteAt address.toNat) (image.byteAt (address.toNat + 1))) := by
  have hinside : ¬(address < 0 ∨ (image.cells.size : Int) ≤ address + 1) := by
    rw [size_cells]
    omega
  rw [Cells.readWord, if_neg hinside, getD_cells, getD_cells]

/-! ## The two runs of bytes -/

theorem byteAt_lt (image : Image) (address : Nat) : image.byteAt address < 256 :=
  (image.bytes.getD address 0).toNat_lt

/-- Alternate bytes inside the image: one for each two addresses, and for one left over. -/
theorem alternate_eq (image : Image) {start stop : Int} (h0 : 0 ≤ start) (hstop0 : 0 ≤ stop)
    (hstop : stop ≤ image.size) :
    image.alternate start stop =
      (List.range ((stop - start + 1) / 2).toNat).map fun i =>
        image.byteAt (start.toNat + 2 * i) := by
  have hlast : Slice.bound image.size stop = stop.toNat := Slice.bound_of_le hstop0 hstop
  by_cases hle : start ≤ stop
  · have hfirst : Slice.bound image.size start = start.toNat := Slice.bound_of_le h0 (by omega)
    rw [Image.alternate, Slice.alternate, hlast, hfirst]
    apply List.ext_getElem
    · simp only [List.length_map, List.length_range', List.length_range]
      omega
    · intro i _ _
      simp only [List.getElem_map, List.getElem_range', List.getElem_range]
  · -- a start behind the stop gives no bytes on either side, also where it is clamped
    have hfirst : stop.toNat ≤ Slice.bound image.size start := by
      unfold Slice.bound
      split <;> omega
    rw [Image.alternate, Slice.alternate, hlast,
      show (stop.toNat - Slice.bound image.size start + 1) / 2 = 0 by omega,
      show ((stop - start + 1) / 2).toNat = 0 by omega]
    rfl

/-- The words of a valid region that lies inside the image, one for each even offset. -/
theorem words_eq (image : Image) {region : Region} (hvalid : region.Valid)
    (hfits : region.limit ≤ image.size) :
    image.words region =
      (List.range region.wordCount).map fun i =>
        Word.pack (image.byteAt (region.base.toNat + 2 * i))
          (image.byteAt (region.base.toNat + 2 * i + 1)) := by
  have hcount := hvalid.two_mul_wordCount
  obtain ⟨hbase, hlimit, h0, hle⟩ := hvalid
  -- with both ends even, the run of high bytes is no longer than that of low ones
  have hhigh : ((region.limit - region.base + 1) / 2).toNat = region.wordCount := by omega
  have hlow : ((region.limit - (region.base + 1) + 1) / 2).toNat = region.wordCount := by omega
  rw [Image.words, alternate_eq image h0 (by omega) hfits,
    alternate_eq image (by omega) (by omega) hfits, hhigh, hlow, List.zipWith_map_left,
    List.zipWith_map_right, List.zipWith_self]
  apply List.map_congr_left
  intro i _
  rw [show (region.base + 1).toNat + 2 * i = region.base.toNat + 2 * i + 1 by omega]
  exact Word.join_eq_pack (image.byteAt_lt _) (image.byteAt_lt _)

end Image

/-! ## Words and bytes -/

/-- Packed bytes can be told from the word. -/
theorem Word.pack_inj {high low high' low' : Nat} (hhigh : high < 256) (hlow : low < 256)
    (hhigh' : high' < 256) (hlow' : low' < 256) (h : pack high low = pack high' low') :
    high = high' ∧ low = low' := by
  have hraw := pack_raw high low
  rw [h, pack_raw] at hraw
  omega

namespace Image

/-- A region of a word or more has a first word. -/
theorem words_ne_nil (image : Image) {region : Region} (hvalid : region.Valid)
    (hwords : region.base < region.limit) (hfits : region.limit ≤ image.size) :
    image.words region ≠ [] := by
  have hcount := hvalid.two_mul_wordCount
  intro hnil
  have hlength := congrArg List.length hnil
  rw [image.words_eq hvalid hfits, List.length_map, List.length_range, List.length_nil] at hlength
  omega

/-- Two images have the same byte at every address of a region. -/
def AgreeOn (region : Region) (image other : Image) : Prop :=
  ∀ address : Nat, region.base ≤ address → (address : Int) < region.limit →
    image.byteAt address = other.byteAt address

/-- Images that hold a valid region have the same words in it exactly if they have the same bytes. -/
theorem words_eq_words_iff {image other : Image} {region : Region} (hvalid : region.Valid)
    (hfits : region.limit ≤ image.size) (hfits' : region.limit ≤ other.size) :
    image.words region = other.words region ↔ AgreeOn region image other := by
  have hcount := hvalid.two_mul_wordCount
  have h0 := hvalid.base_nonneg
  rw [image.words_eq hvalid hfits, other.words_eq hvalid hfits', List.map_inj_left]
  constructor
  · intro hwords address hbase hlimit
    -- the word of an address is at half its distance from the base
    have hi : (address - region.base.toNat) / 2 ∈ List.range region.wordCount := by
      rw [List.mem_range]
      omega
    obtain ⟨hhigh, hlow⟩ := Word.pack_inj (image.byteAt_lt _) (image.byteAt_lt _)
      (other.byteAt_lt _) (other.byteAt_lt _) (hwords _ hi)
    rcases Nat.mod_two_eq_zero_or_one (address - region.base.toNat) with heven | hodd
    · rwa [show region.base.toNat + 2 * ((address - region.base.toNat) / 2) = address by omega]
        at hhigh
    · rwa [show region.base.toNat + 2 * ((address - region.base.toNat) / 2) + 1 = address by omega]
        at hlow
  · intro hbytes i hi
    rw [List.mem_range] at hi
    rw [hbytes _ (by omega) (by omega), hbytes _ (by omega) (by omega)]

end Image

/-! ## What the pass answers -/

namespace Listing

/-- The lines are those of the words fetched one at a time, to the end of the region. -/
def Fetched (cells : Cells) (region : Region) (lines : List Line) : Prop :=
  (lines.length : Int) = (region.limit - region.base) / 2 ∧
    ∀ i (h : i < lines.length), ∃ word, cells.readWord (region.base + 2 * i) = .ok word ∧
      lines[i] = Line.ofWord word (region.base + 2 * i)

/-- Where the checks pass, the lines are those of the region's words. -/
theorem ofImage_eq_ok (image : Image) {region : Region} (hvalid : region.Valid)
    (hfits : region.limit ≤ image.size) :
    ofImage image region = .ok (ofWords region.base (image.words region)) := by
  have hroom : ¬(image.size : Int) < region.limit := by omega
  simp only [ofImage, Image.programWords, Image.wordsWithin, hvalid.check, if_neg hroom]
  rfl

/-- An image that ends before the region does is refused, and the limit named. -/
theorem ofImage_eq_error (image : Image) {region : Region} (hvalid : region.Valid)
    (hshort : (image.size : Int) < region.limit) :
    ofImage image region = .error
      (Capacity.naming region.limit (.bounds (.imageTooShort image.size region.limit))) := by
  simp only [ofImage, Image.programWords, Image.wordsWithin, hvalid.check, if_pos hshort]
  rfl

/-- An image has a listing exactly if the region is valid and the image holds it to its end. -/
theorem ofImage_eq_ok_iff (image : Image) (region : Region) (lines : List Line) :
    ofImage image region = .ok lines ↔
      region.Valid ∧ region.limit ≤ image.size ∧
        lines = ofWords region.base (image.words region) := by
  by_cases hvalid : region.Valid
  · by_cases hfits : region.limit ≤ image.size
    · rw [ofImage_eq_ok image hvalid hfits, Except.ok.injEq, and_iff_right hvalid,
        and_iff_right hfits]
      exact eq_comm
    · rw [ofImage_eq_error image hvalid (by omega)]
      simp [hfits]
  · obtain ⟨fault, hfault⟩ := Region.exists_check_error hvalid
    simp only [ofImage, Image.programWords, hfault, hvalid, false_and, iff_false]
    exact fun h => by cases h

/-- Listing an image is listing its cells. -/
theorem ofImage_eq_ofCells {cells : Cells} {image : Image} (h : Image.ofCells cells = .ok image)
    (region : Region) : ofImage image region = ofCells cells region := by
  simp only [ofImage, ofCells, Image.programWords, Cells.programWords, h]
  rfl

theorem length_ofWords (base : Int) (words : List Word) :
    (ofWords base words).length = words.length := by
  simp [ofWords]

/-- The words of a region inside the image are those that are fetched. -/
theorem fetched_ofWords (image : Image) {region : Region} (hvalid : region.Valid)
    (hfits : region.limit ≤ image.size) :
    Fetched image.cells region (ofWords region.base (image.words region)) := by
  have hcount := hvalid.two_mul_wordCount
  have h0 := hvalid.base_nonneg
  rw [image.words_eq hvalid hfits]
  constructor
  · simp only [length_ofWords, List.length_map, List.length_range]
    omega
  · intro i hi
    simp only [length_ofWords, List.length_map, List.length_range] at hi
    refine ⟨_, image.readWord_cells (by omega) (by omega), ?_⟩
    simp only [ofWords, List.getElem_mapIdx, List.getElem_map, List.getElem_range]
    rw [show (region.base + 2 * (i : Int)).toNat = region.base.toNat + 2 * i by omega]

/-- The pass answers as the fetch of single words does: each fault comes out exactly when its check is
the first to fail, and where none fails there is a line for each word of the region. -/
structure Agrees (cells : Cells) (region : Region) : Prop where
  address : (∃ cause, ofCells cells region = .error (.address cause)) ↔ ¬region.Valid
  notAByte : (∃ value, ofCells cells region = .error (.notAByte value)) ↔
    region.Valid ∧ ¬cells.AllBytes
  bounds : (∃ cause, ofCells cells region = .error (.bounds cause)) ↔
    region.Valid ∧ cells.AllBytes ∧ (cells.size : Int) < region.limit
  lines : (∃ lines, ofCells cells region = .ok lines ∧ Fetched cells region lines) ↔
    region.Valid ∧ cells.AllBytes ∧ region.limit ≤ cells.size

/-- A refusal would name the limit of the region, which has too many digits: the base of an aligned
region is outside, or the cells end before the region does. -/
def Unsaid (cells : Cells) (region : Region) : Prop :=
  ¬Capacity.IsShown region.limit ∧
    (¬region.Valid ∧ region.Aligned ∨
      region.Valid ∧ cells.AllBytes ∧ (cells.size : Int) < region.limit)

/-- What the pass answers, in the order of its checks. -/
theorem ofCells_cases (cells : Cells) (region : Region) :
    (¬region.Valid ∧ (region.Aligned → Capacity.IsShown region.limit) ∧
      ∃ cause, ofCells cells region = .error (.address cause)) ∨
    (region.Valid ∧ ¬cells.AllBytes ∧ ∃ value, ofCells cells region = .error (.notAByte value)) ∨
    (region.Valid ∧ cells.AllBytes ∧ (cells.size : Int) < region.limit ∧
      Capacity.IsShown region.limit ∧ ∃ cause, ofCells cells region = .error (.bounds cause)) ∨
    (region.Valid ∧ cells.AllBytes ∧ region.limit ≤ cells.size ∧
      ∃ lines, ofCells cells region = .ok lines ∧ Fetched cells region lines) ∨
    (Unsaid cells region ∧ ofCells cells region = .error .tooLongToShow) := by
  by_cases hvalid : region.Valid
  · refine Or.inr ?_
    by_cases hbytes : cells.AllBytes
    · refine Or.inr ?_
      obtain ⟨image, himage, hcells⟩ := Image.exists_ofCells hbytes
      have hsize : image.size = cells.size := by rw [← hcells, image.size_cells]
      by_cases hfits : region.limit ≤ cells.size
      · refine Or.inr (Or.inl ⟨hvalid, hbytes, hfits,
          ofWords region.base (image.words region), ?_, ?_⟩)
        · rw [← ofImage_eq_ofCells himage]
          exact ofImage_eq_ok image hvalid (by omega)
        · rw [← hcells]
          exact fetched_ofWords image hvalid (by omega)
      · have hshort : (cells.size : Int) < region.limit := by omega
        have hrefused := ofImage_eq_error image hvalid (by omega)
        rw [ofImage_eq_ofCells himage, Capacity.naming] at hrefused
        by_cases hshown : Capacity.IsShown region.limit
        · rw [if_pos hshown] at hrefused
          exact Or.inl ⟨hvalid, hbytes, hshort, hshown, _, hrefused⟩
        · rw [if_neg hshown] at hrefused
          exact Or.inr (Or.inr ⟨⟨hshown, Or.inr ⟨hvalid, hbytes, hshort⟩⟩, hrefused⟩)
    · obtain ⟨value, hvalue⟩ := Image.ofCells_of_not_allBytes hbytes
      refine Or.inl ⟨hvalid, hbytes, value, ?_⟩
      simp only [ofCells, Cells.programWords, hvalid.check, hvalue]
      rfl
  · have hrefused : ∀ fault, region.check = .error fault → ofCells cells region = .error fault := by
      intro fault hfault
      simp only [ofCells, Cells.programWords, hfault]
      rfl
    by_cases hsaid : region.Aligned → Capacity.IsShown region.limit
    · obtain ⟨cause, hcause⟩ := Region.check_of_not_valid hvalid hsaid
      exact Or.inl ⟨hvalid, hsaid, cause, hrefused _ hcause⟩
    · obtain ⟨haligned, hlong⟩ := Classical.not_imp.mp hsaid
      exact Or.inr (Or.inr (Or.inr (Or.inr ⟨⟨hlong, Or.inl ⟨hvalid, haligned⟩⟩,
        hrefused _ (Region.check_of_not_isShown hvalid haligned hlong)⟩)))

/-- Where the limit cannot be named, that is what comes out. -/
theorem Unsaid.ofCells_eq {cells : Cells} {region : Region} (h : Unsaid cells region) :
    ofCells cells region = .error .tooLongToShow := by
  obtain ⟨hlong, hrefused⟩ := h
  rcases ofCells_cases cells region with ⟨hvalid, hsaid, _⟩ | ⟨hvalid, hbytes, _⟩ |
    ⟨_, _, _, hshown, _⟩ | ⟨hvalid, _, hfits, _⟩ | ⟨_, heq⟩
  · rcases hrefused with ⟨_, haligned⟩ | ⟨hvalid', _⟩
    · exact absurd (hsaid haligned) hlong
    · exact absurd hvalid' hvalid
  · rcases hrefused with ⟨hinvalid, _⟩ | ⟨_, hbytes', _⟩
    · exact absurd hvalid hinvalid
    · exact absurd hbytes' hbytes
  · exact absurd hshown hlong
  · rcases hrefused with ⟨hinvalid, _⟩ | ⟨_, _, hshort⟩
    · exact absurd hvalid hinvalid
    · omega
  · exact heq

/-- It is not the fault that should come out. -/
theorem Unsaid.not_agrees {cells : Cells} {region : Region} (h : Unsaid cells region) :
    ¬Agrees cells region := by
  intro hagrees
  have hfault := h.ofCells_eq
  rcases h.2 with ⟨hvalid, _⟩ | hshort
  · obtain ⟨cause, hcause⟩ := hagrees.address.mpr hvalid
    rw [hfault] at hcause
    cases hcause
  · obtain ⟨cause, hcause⟩ := hagrees.bounds.mpr hshort
    rw [hfault] at hcause
    cases hcause

/-- In all other cases the pass answers as it should. -/
theorem agrees_of_not_unsaid {cells : Cells} {region : Region} (h : ¬Unsaid cells region) :
    Agrees cells region := by
  rcases ofCells_cases cells region with ⟨hvalid, _, cause, heq⟩ | ⟨hvalid, hbytes, value, heq⟩ |
    ⟨hvalid, hbytes, hshort, _, cause, heq⟩ | ⟨hvalid, hbytes, hfits, lines, heq, hfetched⟩ |
    ⟨hunsaid, _⟩
  · constructor <;> simp [heq, hvalid]
  · constructor <;> simp [heq, hvalid, hbytes]
  · have hlong : ¬region.limit ≤ cells.size := by omega
    constructor <;> simp [heq, hvalid, hbytes, hshort, hlong]
  · have hshort : ¬(cells.size : Int) < region.limit := by omega
    constructor <;> simp [heq, hvalid, hbytes, hfits, hshort, hfetched]
  · exact absurd hunsaid h

/-- **The pass agrees with the fetch**, exactly unless a refusal has to name a limit of too many
digits; that is then what comes out. An image is listed as its cells are. -/
theorem ofCells_agrees_iff (cells : Cells) (region : Region) :
    (Agrees cells region ↔ ¬Unsaid cells region) ∧
    (ofCells cells region = .error .tooLongToShow ↔ Unsaid cells region) ∧
    ∀ image : Image, ofImage image region = ofCells image.cells region := by
  refine ⟨⟨fun hagrees hunsaid => hunsaid.not_agrees hagrees, agrees_of_not_unsaid⟩,
    ⟨?_, Unsaid.ofCells_eq⟩, fun image => ofImage_eq_ofCells image.ofCells_cells region⟩
  intro hfault
  rcases ofCells_cases cells region with ⟨_, _, _, heq⟩ | ⟨_, _, _, heq⟩ | ⟨_, _, _, _, _, heq⟩ |
    ⟨_, _, _, _, heq, _⟩ | ⟨hunsaid, _⟩
  · cases hfault.symm.trans heq
  · cases hfault.symm.trans heq
  · cases hfault.symm.trans heq
  · cases hfault.symm.trans heq
  · exact hunsaid

/-- One byte does not reach a limit of 4301 digits, and no base is below a limit as far under zero.
Neither is said. -/
theorem disagrees_beyond_digits :
    (ofCells #[0] ⟨0, Int.pow 10 4300⟩ = .error .tooLongToShow ∧
      ¬Agrees #[0] ⟨0, Int.pow 10 4300⟩) ∧
    (ofCells #[0] ⟨0, -Int.pow 10 4300⟩ = .error .tooLongToShow ∧
      ¬Agrees #[0] ⟨0, -Int.pow 10 4300⟩) := by
  have hlong : ¬Capacity.IsShown (Int.pow 10 4300) := Capacity.not_isShown_pow
  -- all that counts of the power is that it is even and has room for more than one byte
  have htenth : ∀ k, ∃ tenth : Int, Int.pow 10 (k + 1) = 10 * tenth ∧ 0 < tenth :=
    fun k => ⟨Int.pow 10 k, Int.pow_succ' 10 k, Int.pow_pos (by decide)⟩
  obtain ⟨tenth, htenth, hpositive⟩ := htenth 4299
  have hbytes : Cells.AllBytes #[0] := by simp [Cells.AllBytes]
  have hshort : Unsaid #[0] ⟨0, Int.pow 10 4300⟩ := by
    refine ⟨hlong, Or.inr ⟨(Region.valid_iff _).mpr ?_, hbytes, ?_⟩⟩
    · simp only [htenth]; omega
    · simp only [htenth]; show (1 : Int) < _; omega
  have hbelow : Unsaid #[0] ⟨0, -Int.pow 10 4300⟩ := by
    have hlong : ¬Capacity.IsShown (-Int.pow 10 4300) := by rwa [Capacity.isShown_neg]
    refine ⟨hlong, Or.inl ⟨fun hvalid => ?_, rfl, ?_⟩⟩
    · have hle := hvalid.base_le_limit
      simp only [htenth] at hle
      omega
    · simp only [htenth]; omega
  exact ⟨⟨hshort.ofCells_eq, hshort.not_agrees⟩, hbelow.ofCells_eq, hbelow.not_agrees⟩

end Listing

end Chip8
