import Chip8.Proofs.Presentation

/-!
# ROMs that look the same

Two ROMs that are rendered under the same settings look the same exactly if they are the same in
memory, that is, if they differ in nothing but zeros at the end. This holds of settings of every kind,
also of those that are hardly meant: a width with a fraction, a highlighted text.

What depends on the settings alone is gathered in a `Viewer.Frame`. `Viewer.renderRom_eq_ok` says that
a rendering is the listing of the ROM in the frame that its settings give, so that two renderings
under the same settings have everything in common but their listings. Without the escape sequences
they are plain texts with the same end; what is left of them are two listings, and those tell their
words (`Listing.words_eq_of_joined_eq`), which tell the bytes.

The main statement is `Viewer.renderRom_eq_iff_padded`.
-/

namespace Chip8

/-! ## Listings with every row ended -/

namespace Listing

/-- Listings of the same text are listings of the same words. -/
theorem words_eq_of_joined_eq [Capacity] {base : Int} {words words' : List Word}
    {width highlight : Option Int} {listing listing' : List Segment}
    (h : segments (ofWords base words) width highlight = .ok listing)
    (h' : segments (ofWords base words') width highlight = .ok listing')
    (htext : Segment.joined listing = Segment.joined listing') : words = words' := by
  obtain ⟨_, rfl⟩ := (Layout.stream?_eq_ok_iff _ _ _).mp h
  obtain ⟨_, rfl⟩ := (Layout.stream?_eq_ok_iff _ _ _).mp h'
  rw [Layout.joined_stream, Layout.joined_stream, List.map_map, List.map_map] at htext
  have hclean : ∀ words, ∀ text ∈ (ofWords base words).map (rowText width highlight),
      Text.clean text = true := by
    intro words text hmem
    obtain ⟨line, hline, rfl⟩ := List.mem_map.mp hmem
    obtain ⟨word, address, rfl⟩ := mem_ofWords hline
    exact clean_rowText width highlight word address
  have hcut := congrArg cut htext
  change cut (Segment.ended ((ofWords base words).map (rowText width highlight))) =
    cut (Segment.ended ((ofWords base words').map (rowText width highlight))) at hcut
  rw [cut_ended (hclean words), cut_ended (hclean words'), List.append_cancel_right_eq] at hcut
  have hunmarked := congrArg (List.map (unmark highlight)) hcut
  simp only [List.map_map] at hunmarked
  exact words_eq_of_map_eq (unmark highlight ∘ String.toList ∘ rowText width highlight)
    (readRow?_rowText width highlight) hunmarked

end Listing

/-! ## Frames -/

/-- The address that is pointed at. What is no address points at none, and so at one that no line
has. -/
def Pointer.target (pointer : Option Pointer) : Option Int :=
  pointer.map fun p => p.target?.getD (-1)

/-- A line is marked as if an address were highlighted. -/
theorem Pointer.row_eq (pointer : Option Pointer) {line : Line} (h : 0 ≤ line.address) :
    Pointer.row pointer line = line.row (Pointer.target pointer) := by
  cases pointer with
  | none => rfl
  | some p =>
    cases htarget : p.target? with
    | some target =>
      simp only [Pointer.row, Pointer.target, Option.map_some, htarget, Option.getD_some]
    | none =>
      simp only [Pointer.row, Pointer.target, Option.map_some, htarget, Option.getD_none, Line.row,
        Line.marker, if_neg (show ¬line.address = -1 by omega)]
      rfl

namespace Viewer

/-- What is shown of every ROM under the same settings: all but the listing. -/
structure Frame where
  region : Region
  scheme : Scheme
  width : Option Int
  highlight : Option Int
  report : List Segment

/-- The frame that settings give. -/
def frameOf [Capacity] (settings : Resolution) : Except Fault Frame := do
  let region ← regionOf settings
  let scheme ← Scheme.ofName (← settings.colourScheme)
  let width ← settings.listingWidth
  let highlight ← settings.highlight
  let report ← watch settings
  return ⟨region, scheme, width.columns?, Pointer.target highlight, report⟩

/-- In a valid region no line has a negative address. -/
theorem address_nonneg {rom : Image} {region : Region} (hvalid : region.Valid) {line : Line}
    (h : line ∈ romLines rom region) : 0 ≤ line.address := by
  obtain ⟨i, _, rfl⟩ := List.mem_mapIdx.mp h
  have h0 := hvalid.base_nonneg
  show 0 ≤ region.base + 2 * (i : Int)
  omega

/-- A rendering is the listing of the ROM in the frame that its settings give. -/
theorem renderRom_eq_ok [Capacity] {settings : Resolution} {files : FileSystem} {path : Path}
    {text : String} (h : renderRom settings files path = .ok text) :
    ∃ frame rom listing, frameOf settings = .ok frame ∧ regionOf settings = .ok frame.region ∧
      watch settings = .ok frame.report ∧ files.read path = .ok rom ∧ frame.region.Valid ∧
      frame.region.base + rom.size ≤ frame.region.limit ∧
      Listing.segments (romLines rom frame.region) frame.width frame.highlight = .ok listing ∧
      Terminal.render frame.scheme.palette (listing ++ frame.report) = .ok text := by
  obtain ⟨d, hd, h⟩ := Fault.bind_eq_ok_iff.mp h
  obtain ⟨region, rom, hregion, hrom, hvalid, hfits, hlines⟩ := disassemble_eq_ok hd
  obtain ⟨name, hname, h⟩ := Fault.bind_eq_ok_iff.mp h
  obtain ⟨scheme, hscheme, h⟩ := Fault.bind_eq_ok_iff.mp h
  obtain ⟨width, hwidth, h⟩ := Fault.bind_eq_ok_iff.mp h
  obtain ⟨pointer, hpointer, h⟩ := Fault.bind_eq_ok_iff.mp h
  obtain ⟨listing, hlisting, h⟩ := Fault.bind_eq_ok_iff.mp h
  obtain ⟨report, hreport, h⟩ := Fault.bind_eq_ok_iff.mp h
  refine ⟨⟨region, scheme, width.columns?, Pointer.target pointer, report⟩, rom, listing, ?_,
    hregion, hreport, hrom, hvalid, hfits, ?_, h⟩
  · rw [frameOf, hregion, hname, hwidth, hpointer, hreport]
    simp only [bind, Except.bind, hscheme]
    rfl
  · have hrows : d.lines.map (Pointer.row pointer) =
        (romLines rom region).map (Line.row (Pointer.target pointer)) := by
      rw [hlines]
      exact List.map_congr_left fun line hline =>
        Pointer.row_eq pointer (address_nonneg hvalid hline)
    rw [Listing.segments, ← hrows]
    exact Width.stream?_of_lay hlisting

/-- ROMs that are the same but for zeros at the end have the same lines. -/
theorem romLines_eq_of_padded_eq {region : Region} {rom rom' : Image}
    (h : rom.padded (region.limit - region.base).toNat =
      rom'.padded (region.limit - region.base).toNat) :
    romLines rom region = romLines rom' region := by
  rw [romLines, romLines, Image.placed, Image.placed, h]

/-- ROMs whose listings are the same text are the same but for zeros at the end. -/
theorem padded_eq_of_joined_eq [Capacity] {region : Region} {rom rom' : Image}
    {width highlight : Option Int} {listing listing' : List Segment} (hvalid : region.Valid)
    (hfits : region.base + rom.size ≤ region.limit)
    (hfits' : region.base + rom'.size ≤ region.limit)
    (h : Listing.segments (romLines rom region) width highlight = .ok listing)
    (h' : Listing.segments (romLines rom' region) width highlight = .ok listing')
    (htext : Segment.joined listing = Segment.joined listing') :
    rom.padded (region.limit - region.base).toNat =
      rom'.padded (region.limit - region.base).toNat := by
  have h0 := hvalid.base_nonneg
  have hsize := rom.size_placed h0 hfits
  have hsize' := rom'.size_placed h0 hfits'
  have hwords := Listing.words_eq_of_joined_eq h h' htext
  rw [Image.words_eq_words_iff hvalid (by omega) (by omega)] at hwords
  exact (Image.agreeOn_placed_iff h0 hfits hfits').mp hwords

/-- **A rendering tells its ROM, but for zeros at the end.** Under the same settings, whatever they
are, two ROMs that are rendered give the same text exactly if they are the same once zeros fill them
up to the end of memory. -/
theorem renderRom_eq_iff_padded [Capacity] {settings : Resolution} {files files' : FileSystem}
    {path path' : Path} {rom rom' : Image} {text text' : String}
    (hread : files.read path = .ok rom) (hread' : files'.read path' = .ok rom')
    (h : renderRom settings files path = .ok text)
    (h' : renderRom settings files' path' = .ok text') :
    ∃ region, regionOf settings = .ok region ∧
      (text = text' ↔
        rom.padded (region.limit - region.base).toNat =
          rom'.padded (region.limit - region.base).toNat) := by
  obtain ⟨frame, _, listing, hframe, hregion, hreport, hrom, hvalid, hfits, hlisting, htext⟩ :=
    renderRom_eq_ok h
  obtain ⟨_, _, listing', hframe', _, _, hrom', _, hfits', hlisting', htext'⟩ := renderRom_eq_ok h'
  -- both have the same frame, which the settings give
  rw [hframe, Except.ok.injEq] at hframe'
  subst hframe'
  rw [hread, Except.ok.injEq] at hrom
  subst hrom
  rw [hread', Except.ok.injEq] at hrom'
  subst hrom'
  refine ⟨frame.region, hregion, ?_⟩
  have hreports := legible_watch hreport
  have hescape : ∀ {listing}, (∀ segment ∈ listing, Terminal.Legible segment) →
      ∀ segment ∈ listing ++ frame.report, Terminal.escape ∉ segment.text.toList := by
    intro listing hlegible segment hsegment
    have hall := List.forall_mem_append.mpr ⟨hlegible, hreports⟩
    exact Terminal.escape_not_mem_of_legible (hall segment hsegment)
  constructor
  · -- without colours and without the report, the same texts are the same listings
    intro hsame
    have hplain := Terminal.strip_render htext (hescape (legible_listing hlisting))
    have hplain' := Terminal.strip_render htext' (hescape (legible_listing hlisting'))
    rw [← hsame, hplain, Segment.joined_append, Segment.joined_append] at hplain'
    have hlistings := String.append_left_inj _ |>.mp hplain'
    exact padded_eq_of_joined_eq hvalid hfits hfits' hlisting hlisting' hlistings
  · intro hpadded
    rw [romLines_eq_of_padded_eq hpadded, hlisting', Except.ok.injEq] at hlisting
    rw [← hlisting, htext', Except.ok.injEq] at htext
    exact htext.symm

/-- Three ROMs at the same place: two that differ in a zero at the end look the same, and a third that
differs in its last byte looks different. -/
theorem renderRom_eq_iff_padded_three_roms :
    letI : Capacity := .tebibyte
    let settings : Settings := { programBase := 2, memorySize := 8, highlight := some 4 }
    let only (rom : Image) : FileSystem := ⟨⟨"", []⟩, fun _ => .ok rom⟩
    ∃ text other,
      renderRom settings.resolution (only ⟨#[0x00, 0xE0, 0x12]⟩) ⟨"", ["a"]⟩ = .ok text ∧
      renderRom settings.resolution (only ⟨#[0x00, 0xE0, 0x12, 0x00]⟩) ⟨"", ["b"]⟩ = .ok text ∧
      renderRom settings.resolution (only ⟨#[0x00, 0xE0, 0x13]⟩) ⟨"", ["c"]⟩ = .ok other ∧
      text ≠ other := by
  let : Capacity := .tebibyte
  intro settings only
  have hroom : ∀ rom, HasRoom settings rom := by
    apply hasRoom_of_lt
    · rintro columns ⟨⟩
      decide
    · rintro columns ⟨⟩
      decide
  have hvalid : settings.region.Valid := by decide
  have hscheme : settings.colourScheme = Scheme.monokai.name := rfl
  have hrendered : ∀ (rom : Image) (path : Path), rom.size ≤ 6 →
      ∃ text, renderRom settings.resolution (only rom) path = .ok text := by
    intro rom path hsize
    have hfits : settings.programBase + rom.size ≤ settings.memorySize := by
      show (2 : Int) + rom.size ≤ 8
      omega
    have hread : (only rom).read path = .ok rom := rfl
    exact exists_renderRom hread hvalid hfits (by decide) hscheme (hroom rom)
  obtain ⟨text, h⟩ := hrendered ⟨#[0x00, 0xE0, 0x12]⟩ ⟨"", ["a"]⟩ (by decide)
  obtain ⟨text', h'⟩ := hrendered ⟨#[0x00, 0xE0, 0x12, 0x00]⟩ ⟨"", ["b"]⟩ (by decide)
  obtain ⟨other, hother⟩ := hrendered ⟨#[0x00, 0xE0, 0x13]⟩ ⟨"", ["c"]⟩ (by decide)
  obtain ⟨region, hregion, hsame⟩ := renderRom_eq_iff_padded rfl rfl h h'
  obtain ⟨region', hregion', hdiffer⟩ := renderRom_eq_iff_padded rfl rfl h hother
  rw [regionOf_resolution, Except.ok.injEq] at hregion hregion'
  subst hregion hregion'
  have htext : text = text' := hsame.mpr (by decide)
  subst htext
  exact ⟨text, other, h, h', hother, fun heq => absurd (hdiffer.mp heq) (by decide)⟩

end Viewer

end Chip8
