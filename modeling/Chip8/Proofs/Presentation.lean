import Chip8.Proofs.Loading
import Chip8.Proofs.ReportRows
import Chip8.Proofs.Signs
import Chip8.Viewer.Batch

/-!
# What a rendered ROM shows

A rendered ROM is a listing and, if wanted, a watch report, both in colour. This file takes the
rendering apart again, from the coloured text back to the bytes of the ROM.

`Viewer.disassemble_eq_ok` says what a listing is made of: a ROM that fits into memory behind an
aligned base, among zeros. `Viewer.legible_listing` and `Viewer.legible_watch` say that no text of
either part has a control character of its own, which is what the reader of coloured text asks for.
For settings that are plain values `Viewer.renderRom_eq_ok_iff` says what a rendering is put together
from, and `Viewer.exists_renderRom` when there is one.

The main statement is `Viewer.colour_is_presentation`: without its escape sequences a rendered ROM is
the listing and the report as plain text, whatever the colours are.
-/

namespace Chip8

/-! ## Legible streams -/

namespace Layout

/-- Rows without control characters are laid out without any, but for the line breaks that end them. -/
theorem legible_stream {rows : List (List Segment)}
    (h : ∀ row ∈ rows, ∀ segment ∈ row, Text.clean segment.text = true) (width : Option Int) :
    ∀ segment ∈ stream width rows, Terminal.Legible segment := by
  intro segment hsegment
  obtain ⟨row, hrow, hsegment⟩ := List.mem_flatMap.mp hsegment
  rw [finish, List.mem_append, List.mem_append, List.mem_singleton] at hsegment
  rcases hsegment with (htext | hblanks) | rfl
  · exact Or.inr (h row hrow segment htext)
  · unfold padding at hblanks
    split at hblanks
    next => exact absurd hblanks List.not_mem_nil
    next =>
      rw [List.mem_singleton.mp hblanks]
      exact Or.inr (Text.clean_blanks _)
  · exact Or.inl rfl

end Layout

/-- The rows of a listing have no control character. -/
theorem Listing.clean_rows (base : Int) (words : List Word) (highlight : Option Int) :
    ∀ row ∈ (ofWords base words).map (Line.row highlight), ∀ segment ∈ row,
      Text.clean segment.text = true := by
  intro row hrow segment hsegment
  obtain ⟨line, hline, rfl⟩ := List.mem_map.mp hrow
  obtain ⟨word, address, rfl⟩ := mem_ofWords hline
  rcases List.mem_append.mp hsegment with hmarker | htext
  · exact Line.clean_marker highlight _ segment hmarker
  · exact Line.clean_segments word address segment htext

/-! ## Settings of every kind -/

/-- The columns that rows are filled up to; a width that is no whole number fills none. -/
def Width.columns? : Width → Option Int
  | .columns n => some n
  | _ => none

/-- Rows that are laid out at all are laid out in columns. -/
theorem Width.stream?_of_lay [Capacity] {width : Width} {rows : List (List Segment)}
    {segments : List Segment} (h : width.lay rows = .ok segments) :
    Layout.stream? width.columns? rows = .ok segments := by
  cases width with
  | unlimited => exact h
  | columns n => exact h
  | number r =>
    rw [Width.lay] at h
    split at h
    next => cases h
    next => exact h
  | unsuited =>
    rw [Width.lay] at h
    split at h
    next hempty =>
      rw [List.isEmpty_iff.mp hempty]
      exact h
    next => cases h

/-- The base and the size are given as numbers, which are the ends of a region. -/
def Resolution.HasRegion (settings : Resolution) (region : Region) : Prop :=
  settings.programBase = .ok (.address region.base) ∧
    settings.memorySize = .ok (.bytes region.limit)

namespace Viewer

/-- The region that settings ask for, if they are plain enough to ask for one. -/
def regionOf (settings : Resolution) : Except Fault Region := do
  match ← settings.memorySize, ← settings.programBase with
  | .bytes size, .address base => return ⟨base, size⟩
  | .truth b, .address base => return ⟨base, if b then 1 else 0⟩
  | _, _ => throw (.unsuitable "memory_size")

/-- The lines of a ROM in zeroed memory. -/
def romLines (rom : Image) (region : Region) : List Line :=
  Listing.ofWords region.base ((rom.placed region).words region)

/-! ## The listing of a ROM -/

/-- Memory of several extents has no listing. -/
theorem loadExtents_ne_ok [Capacity] (settings : Resolution) (files : FileSystem) (path : Path)
    (sizes : List Int) (d : Disassembly) : loadExtents settings files path sizes ≠ .ok d := by
  intro h
  obtain ⟨extents, _, h⟩ := Fault.bind_eq_ok_iff.mp h
  obtain ⟨base, _, h⟩ := Fault.bind_eq_ok_iff.mp h
  obtain ⟨rom, _, h⟩ := Fault.bind_eq_ok_iff.mp h
  obtain ⟨_, _, h⟩ := Fault.bind_eq_ok_iff.mp h
  cases extents with
  | nil => cases h
  | cons rows shape =>
    obtain ⟨address, _, h⟩ := Fault.bind_eq_ok_iff.mp h
    obtain ⟨_, _, h⟩ := Fault.bind_eq_ok_iff.mp h
    cases h

/-- A disassembly is made of a ROM that fits into memory behind an aligned base. -/
theorem disassembleWithin_eq_ok [Capacity] {settings : Resolution} {files : FileSystem}
    {path : Path} {size : Int} {d : Disassembly}
    (h : disassembleWithin settings files path size = .ok d) :
    ∃ base rom, settings.programBase = .ok (.address base) ∧ files.read path = .ok rom ∧
      Region.Valid ⟨base, size⟩ ∧ base + rom.size ≤ size ∧ d.lines = romLines rom ⟨base, size⟩ := by
  obtain ⟨memory, hmemory, h⟩ := Fault.bind_eq_ok_iff.mp h
  obtain ⟨base, hbase, h⟩ := Fault.bind_eq_ok_iff.mp h
  obtain ⟨rom, hrom, h⟩ := Fault.bind_eq_ok_iff.mp h
  obtain ⟨address, haddress, h⟩ := Fault.bind_eq_ok_iff.mp h
  obtain ⟨image, himage, h⟩ := Fault.bind_eq_ok_iff.mp h
  obtain ⟨lines, hlines, h⟩ := Fault.bind_eq_ok_iff.mp h
  have hplain : base = .address address := by
    cases base with
    | address a => exact congrArg Base.address (Except.ok.inj haddress)
    | number r => cases haddress
    | unsuited fault => cases haddress
  obtain ⟨hvalid, _, hwords⟩ := (Listing.ofImage_eq_ok_iff image _ lines).mp hlines
  have hsize := Image.size_zeroed hmemory
  have hfits : address + rom.size ≤ size := by
    rw [Image.load_cells] at himage
    split at himage
    next => cases himage
    next hfits => omega
  have hplaced := rom.load_zeroed ⟨address, size⟩ hmemory hvalid.base_nonneg hfits
  rw [himage, Except.ok.injEq] at hplaced
  cases h
  refine ⟨address, rom, by rw [hbase, hplain], hrom, hvalid, hfits, ?_⟩
  rw [hwords, hplaced]
  rfl

/-- A disassembly is made in memory of one extent, which is where the region ends. -/
theorem within_of_disassemble [Capacity] {settings : Resolution} {files : FileSystem} {path : Path}
    {d : Disassembly} (h : disassemble settings files path = .ok d) :
    ∃ size, disassembleWithin settings files path size = .ok d ∧
      ∀ base, settings.programBase = .ok (.address base) → regionOf settings = .ok ⟨base, size⟩ := by
  obtain ⟨extent, hextent, h⟩ := Fault.bind_eq_ok_iff.mp h
  cases extent with
  | bytes size =>
    refine ⟨size, h, fun base hbase => ?_⟩
    rw [regionOf, hextent, hbase]
    rfl
  | truth b =>
    refine ⟨if b then 1 else 0, ?_, fun base hbase => ?_⟩
    · cases hcase : disassembleWithin settings files path (if b then 1 else 0) with
      | error fault =>
        simp only [hcase] at h
        cases h
      | ok found =>
        simp only [hcase] at h
        exact h
    · rw [regionOf, hextent, hbase]
      rfl
  | extents sizes => exact absurd h (loadExtents_ne_ok settings files path sizes d)

/-- What the disassembly of a ROM is made of, whatever kind the settings are. -/
theorem disassemble_eq_ok [Capacity] {settings : Resolution} {files : FileSystem} {path : Path}
    {d : Disassembly} (h : disassemble settings files path = .ok d) :
    ∃ region rom, regionOf settings = .ok region ∧ files.read path = .ok rom ∧ region.Valid ∧
      region.base + rom.size ≤ region.limit ∧ d.lines = romLines rom region := by
  obtain ⟨size, hwithin, hregion⟩ := within_of_disassemble h
  obtain ⟨base, rom, hbase, hrom, hvalid, hfits, hlines⟩ := disassembleWithin_eq_ok hwithin
  exact ⟨⟨base, size⟩, rom, hregion base hbase, hrom, hvalid, hfits, hlines⟩

/-- With numbers for base and size a ROM is loaded at the base and listed to the end of memory. -/
theorem disassemble_eq [Capacity] {settings : Resolution} {region : Region}
    (h : settings.HasRegion region) (files : FileSystem) (path : Path) :
    disassemble settings files path = (do
      let memory ← Image.zeroed region.limit
      let rom ← files.read path
      let image ← memory.load rom.cells region.base
      Disassembly.ofImage image region) := by
  rw [disassemble, h.2]
  show disassembleWithin settings files path region.limit = _
  rw [disassembleWithin, h.1]
  rfl

/-- Every ROM that fits behind an aligned base is listed, if there is memory. -/
theorem exists_disassemble [Capacity] {settings : Resolution} {region : Region}
    (hregion : settings.HasRegion region) {files : FileSystem} {path : Path} {rom : Image}
    (hread : files.read path = .ok rom) (hvalid : region.Valid)
    (hfits : region.base + rom.size ≤ region.limit) (hlimit : region.limit < Capacity.memoryLimit) :
    ∃ d, disassemble settings files path = .ok d ∧ d.lines = romLines rom region := by
  have h0 := hvalid.base_nonneg
  have hzeroed := (Image.zeroed_eq_ok_iff region.limit _).mpr ⟨by omega, hlimit, rfl⟩
  have hplaced := rom.load_zeroed region hzeroed h0 hfits
  have hsize : region.limit ≤ (rom.placed region).size :=
    Int.le_of_eq (rom.size_placed h0 hfits).symm
  refine ⟨⟨rom.placed region, romLines rom region, region⟩, ?_, rfl⟩
  rw [disassemble_eq hregion, hzeroed, hread]
  show (Image.load _ rom.cells region.base >>= fun image => Disassembly.ofImage image region) = _
  rw [hplaced]
  show Disassembly.ofImage (rom.placed region) region = _
  rw [Disassembly.ofImage, Listing.ofImage_eq_ok _ hvalid hsize]
  rfl

/-! ## Legible text -/

theorem legible_listing [Capacity] {rom : Image} {region : Region} {width highlight : Option Int}
    {listing : List Segment}
    (h : Listing.segments (romLines rom region) width highlight = .ok listing) :
    ∀ segment ∈ listing, Terminal.Legible segment := by
  obtain ⟨_, rfl⟩ := (Layout.stream?_eq_ok_iff _ _ _).mp h
  exact Layout.legible_stream (Listing.clean_rows _ _ _) width

theorem legible_watch [Capacity] {settings : Resolution} {report : List Segment}
    (h : watch settings = .ok report) : ∀ segment ∈ report, Terminal.Legible segment := by
  obtain ⟨wanted, _, h⟩ := Fault.bind_eq_ok_iff.mp h
  cases wanted with
  | false =>
    cases h
    exact fun _ hsegment => absurd hsegment List.not_mem_nil
  | true =>
    obtain ⟨pointer, _, h⟩ := Fault.bind_eq_ok_iff.mp h
    obtain ⟨width, _, h⟩ := Fault.bind_eq_ok_iff.mp h
    obtain ⟨counter, _, h⟩ := Fault.bind_eq_ok_iff.mp h
    obtain ⟨snapshot, _, h⟩ := Fault.bind_eq_ok_iff.mp h
    obtain ⟨rows, hrows, h⟩ := Fault.bind_eq_ok_iff.mp h
    obtain ⟨segments, hsegments, h⟩ := Fault.bind_eq_ok_iff.mp h
    cases h
    obtain rfl := Watch.eq_fullRows_of_make? hrows
    obtain ⟨_, rfl⟩ := (Layout.stream?_eq_ok_iff _ _ _).mp (Width.stream?_of_lay hsegments)
    rw [List.forall_mem_cons]
    exact ⟨Or.inl rfl, Layout.legible_stream (Watch.clean_rows snapshot) _⟩

/-! ## Plain settings -/

end Viewer

/-- The region that settings ask for. -/
def Settings.region (settings : Settings) : Region :=
  ⟨settings.programBase, settings.memorySize⟩

/-- Where the program counter of the watch report is. -/
def Settings.counter (settings : Settings) : Int :=
  settings.highlight.getD settings.programBase

/-- A scheme goes by its name, and by no other. -/
theorem Scheme.ofName_eq_ok_iff (name : String) (scheme : Scheme) :
    ofName name = .ok scheme ↔ name = scheme.name := by
  have hdiffer : Scheme.monokai.name ≠ Scheme.mono.name := by decide
  unfold ofName
  split
  next hname => cases scheme <;> simp [hname, hdiffer]
  next hname =>
    split
    next hname' => cases scheme <;> simp [hname', hdiffer.symm]
    next hname' => cases scheme <;> simp [hname, hname']

namespace Viewer

/-- There is room for the blanks of the listing and, if it is wanted, of the report. -/
def HasRoom [Capacity] (settings : Settings) (rom : Image) : Prop :=
  Listing.HasRoom (romLines rom settings.region) settings.listingWidth settings.highlight ∧
    (settings.showWatch = true →
      ∀ row ∈ Watch.fullRows (Snapshot.reset settings.counter),
        Layout.shortfall settings.watchWidth row < Capacity.memoryLimit)

/-- The report below a listing as plain text. -/
def plainReport [Capacity] (settings : Settings) : Except Fault String :=
  if settings.showWatch then do
    return "\n" ++ (← Watch.render (Snapshot.reset settings.counter) settings.watchWidth)
  else return ""

/-- What is shown of a ROM as plain text: the listing of its region in memory that is zero but for
the ROM, and the report. -/
def plainText [Capacity] (settings : Settings) (rom : Image) : Except Fault String := do
  let lines ← Listing.ofImage (rom.placed settings.region) settings.region
  let listing ← Listing.segments lines settings.listingWidth settings.highlight
  return Segment.joined listing ++ (← plainReport settings)

/-- With plain settings the report is that of the machine after a reset. -/
theorem watch_eq [Capacity] (settings : Settings) :
    watch settings.resolution =
      if settings.showWatch then
        (Watch.segments (Snapshot.reset settings.counter) settings.watchWidth).map
          (Segment.newline :: ·)
      else .ok [] := by
  split
  next hwanted =>
    rw [watch_resolution settings hwanted]
    show (Watch.segments (Snapshot.reset settings.counter) settings.watchWidth >>= _) = _
    cases Watch.segments (Snapshot.reset settings.counter) settings.watchWidth <;> rfl
  next hwanted =>
    rw [Bool.not_eq_true] at hwanted
    simp only [watch, Settings.resolution, hwanted]
    rfl

/-- The text of a report is the report as plain text. -/
theorem plainReport_eq [Capacity] {settings : Settings} {report : List Segment}
    (h : watch settings.resolution = .ok report) :
    plainReport settings = .ok (Segment.joined report) := by
  rw [watch_eq] at h
  unfold plainReport
  split at h
  next hwanted =>
    rw [if_pos hwanted, Watch.render]
    cases hsegments : Watch.segments (Snapshot.reset settings.counter) settings.watchWidth with
    | error fault =>
      rw [hsegments] at h
      cases h
    | ok segments =>
      rw [hsegments] at h
      cases h
      rw [Segment.joined_cons]
      rfl
  next hwanted =>
    cases h
    rw [if_neg hwanted]
    rfl

/-- With plain settings a rendering is put together from a disassembly, a scheme, a listing and a
report. -/
theorem renderRom_eq_ok_iff [Capacity] (settings : Settings) (files : FileSystem) (path : Path)
    (text : String) :
    renderRom settings.resolution files path = .ok text ↔
      ∃ d scheme listing report, disassemble settings.resolution files path = .ok d ∧
        Scheme.ofName settings.colourScheme = .ok scheme ∧
        Listing.segments d.lines settings.listingWidth settings.highlight = .ok listing ∧
        watch settings.resolution = .ok report ∧
        Terminal.render scheme.palette (listing ++ report) = .ok text := by
  rw [renderRom]
  simp only [present_resolution, Fault.bind_eq_ok_iff]
  grind

theorem regionOf_resolution (settings : Settings) :
    regionOf settings.resolution = .ok settings.region := rfl

theorem hasRegion_resolution (settings : Settings) :
    settings.resolution.HasRegion settings.region :=
  ⟨rfl, rfl⟩

/-- With room for all blanks the listing and the report are made. -/
theorem exists_segments [Capacity] {settings : Settings} {rom : Image}
    (hroom : HasRoom settings rom) :
    ∃ listing report,
      Listing.segments (romLines rom settings.region) settings.listingWidth settings.highlight =
        .ok listing ∧
      watch settings.resolution = .ok report := by
  have hlisting := (Listing.checkRoom_iff_hasRoom _ _ _).mpr hroom.1
  have hreport : ∃ report, watch settings.resolution = .ok report := by
    rw [watch_eq]
    split
    next hwanted =>
      have hchecked := (Layout.checkRoom_eq_ok_iff _ _).mpr (hroom.2 hwanted)
      rw [Watch.segments_reset, (Layout.stream?_eq_ok_iff _ _ _).mpr ⟨hchecked, rfl⟩]
      exact ⟨_, rfl⟩
    next => exact ⟨_, rfl⟩
  obtain ⟨report, hreport⟩ := hreport
  exact ⟨_, report, (Layout.stream?_eq_ok_iff _ _ _).mpr ⟨hlisting, rfl⟩, hreport⟩

/-- A ROM is rendered if it fits behind an aligned base, there is room for it and for all blanks, and
the scheme is known. -/
theorem exists_renderRom [Capacity] {settings : Settings} {files : FileSystem} {path : Path}
    {rom : Image} (hread : files.read path = .ok rom) (hvalid : settings.region.Valid)
    (hfits : settings.programBase + rom.size ≤ settings.memorySize)
    (hmemory : settings.memorySize < Capacity.memoryLimit) {scheme : Scheme}
    (hscheme : settings.colourScheme = scheme.name) (hroom : HasRoom settings rom) :
    ∃ text, renderRom settings.resolution files path = .ok text := by
  obtain ⟨d, hd, hlines⟩ :=
    exists_disassemble (hasRegion_resolution settings) hread hvalid hfits hmemory
  obtain ⟨listing, report, hlisting, hreport⟩ := exists_segments hroom
  obtain ⟨text, htext⟩ := Terminal.exists_render scheme (listing ++ report)
  rw [← hlines] at hlisting
  exact ⟨text, (renderRom_eq_ok_iff _ _ _ _).mpr ⟨d, scheme, listing, report, hd,
    (Scheme.ofName_eq_ok_iff _ _).mpr hscheme, hlisting, hreport, htext⟩⟩

/-- Widths below the limit leave room for all blanks, and so does no width at all. -/
theorem hasRoom_of_lt [Capacity] {settings : Settings}
    (hlisting : ∀ columns, settings.listingWidth = some columns → columns < Capacity.memoryLimit)
    (hwatch : ∀ columns, settings.watchWidth = some columns → columns < Capacity.memoryLimit)
    (rom : Image) : HasRoom settings rom := by
  exact ⟨Listing.hasRoom_of_lt hlisting _ _, fun _ row _ => Layout.shortfall_lt hwatch row⟩

/-! ## Colour -/

/-- **Colour is presentation only.** Without its escape sequences a rendered ROM is the listing and
the report as plain text. That is the same text in every scheme, and there is one in each of them. At
every line break all styles have ended: each line is made of complete blocks. -/
theorem colour_is_presentation [Capacity] {settings : Settings} {files : FileSystem} {path : Path}
    {text : String} (h : renderRom settings.resolution files path = .ok text) :
    (∃ rom, files.read path = .ok rom ∧ plainText settings rom = .ok (Terminal.strip text)) ∧
    (∀ scheme : Scheme, ∃ other,
      renderRom { settings with colourScheme := scheme.name }.resolution files path = .ok other ∧
        Terminal.strip other = Terminal.strip text) ∧
    Terminal.breaksBare false (Terminal.signs text.toList) = true ∧
    ∃ scheme : Scheme, settings.colourScheme = scheme.name ∧
      ∀ row ∈ Listing.cut text, Terminal.IsBlocks scheme.palette row := by
  obtain ⟨d, scheme, listing, report, hd, hscheme, hlisting, hreport, htext⟩ :=
    (renderRom_eq_ok_iff _ _ _ _).mp h
  obtain ⟨region, rom, hregion, hread, hvalid, hfits, hlines⟩ := disassemble_eq_ok hd
  rw [regionOf_resolution, Except.ok.injEq] at hregion
  subst hregion
  have hlegible : ∀ segment ∈ listing ++ report, Terminal.Legible segment := by
    rw [hlines] at hlisting
    exact List.forall_mem_append.mpr ⟨legible_listing hlisting, legible_watch hreport⟩
  have hescape := fun segment hsegment =>
    Terminal.escape_not_mem_of_legible (hlegible segment hsegment)
  have hstrip := Terminal.strip_render htext hescape
  refine ⟨⟨rom, hread, ?_⟩, ?_, Terminal.breaksBare_render htext hlegible, scheme,
    (Scheme.ofName_eq_ok_iff _ _).mp hscheme, Terminal.blocks_of_mem_cut htext hlegible⟩
  · have hsize : settings.region.limit ≤ (rom.placed settings.region).size :=
      Int.le_of_eq (rom.size_placed hvalid.base_nonneg hfits).symm
    rw [hlines] at hlisting
    rw [plainText, Listing.ofImage_eq_ok _ hvalid hsize]
    show (Listing.segments (romLines rom settings.region) _ _ >>= _) = _
    rw [hlisting, plainReport_eq hreport, hstrip, Segment.joined_append]
    rfl
  · -- the disassembly, the listing and the report do not ask for the scheme
    intro other
    obtain ⟨text', htext'⟩ := Terminal.exists_render other (listing ++ report)
    refine ⟨text', (renderRom_eq_ok_iff _ _ _ _).mpr ⟨d, other, listing, report, hd,
      (Scheme.ofName_eq_ok_iff _ _).mpr rfl, hlisting, hreport, htext'⟩, ?_⟩
    rw [hstrip, Terminal.strip_render htext' hescape]

/-- A ROM that ends inside a word, with its second word highlighted, a narrow listing and a report. -/
theorem colour_is_presentation_half_word :
    letI : Capacity := .tebibyte
    let settings : Settings :=
      { programBase := 2, memorySize := 8, listingWidth := some 30, highlight := some 4 }
    let files : FileSystem := ⟨⟨"", []⟩, fun _ => .ok ⟨#[0x00, 0xE0, 0x12]⟩⟩
    ∃ text, renderRom settings.resolution files ⟨"", ["a"]⟩ = .ok text ∧
      plainText settings ⟨#[0x00, 0xE0, 0x12]⟩ = .ok (Terminal.strip text) := by
  let : Capacity := .tebibyte
  intro settings files
  have hroom : HasRoom settings ⟨#[0x00, 0xE0, 0x12]⟩ := by
    apply hasRoom_of_lt
    · rintro columns ⟨⟩
      decide
    · rintro columns ⟨⟩
      decide
  have hread : files.read ⟨"", ["a"]⟩ = .ok ⟨#[0x00, 0xE0, 0x12]⟩ := rfl
  have hscheme : settings.colourScheme = Scheme.monokai.name := rfl
  obtain ⟨text, htext⟩ := exists_renderRom hread (show settings.region.Valid by decide) (by decide)
    (by decide) hscheme hroom
  obtain ⟨⟨rom, hread, hplain⟩, _⟩ := colour_is_presentation htext
  cases hread
  exact ⟨text, htext, hplain⟩

end Viewer

end Chip8
