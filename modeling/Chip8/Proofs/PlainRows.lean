import Chip8.Proofs.RowText

/-!
# Listings one row at a time

The plainest way to show lines is one row for each of them, with a line break between any two. It
needs no segments and no stream: `Listing.plainRow` puts the character of the marker column in front
of a line's text and fills what comes out with blanks, as a list is padded on the right.

Listings are not made that way. Their lines become one stream, the stream is cut into rows at its
`newline`s, and a line may have such a segment of its own. `Listing.rowText_eq_plainRow` compares the
two for a single line. From there on it is the detour through the stream, which `Listing.render_eq`
has settled for lines of any kind.

The main statement is `Listing.render_row_by_row`. `Listing.render_beyond_index` is a width at which
no listing is made, since its blanks cannot be counted.
-/

namespace Chip8

/-! ## Rows without segments -/

namespace Text

/-- A text with as many blanks behind it as it lacks of the width. -/
def filled (width : Option Int) (text : String) : String :=
  match width with
  | none => text
  | some columns => String.ofList (text.toList.rightpad columns.toNat ' ')

theorem length_filled (columns : Int) (text : String) :
    (filled (some columns) text).length = max columns.toNat text.length := by
  rw [filled, String.length_ofList, List.length_rightpad, String.length_toList]

end Text

/-- The character of the marker column, if there is one. -/
def Line.pointer (highlight : Option Int) (line : Line) : String :=
  match highlight with
  | none => ""
  | some address => if line.address = address then ">" else " "

theorem Line.length_pointer (highlight : Option Int) (line : Line) :
    (line.pointer highlight).length = if highlight.isSome then 1 else 0 := by
  cases highlight with
  | none => rfl
  | some address =>
    rw [pointer]
    split <;> rfl

theorem Line.joined_row (highlight : Option Int) (line : Line) :
    Segment.joined (line.row highlight) = line.pointer highlight ++ line.text := by
  rw [Line.row, Segment.joined_append]
  cases highlight with
  | none => rfl
  | some address =>
    rw [Line.marker, Segment.joined_cons, Segment.joined_nil, String.append_empty]
    rfl

theorem Layout.append_blanks_eq (width : Option Int) (row : List Segment) :
    Segment.joined row ++ Text.blanks (shortfall width row) =
      Text.filled width (Segment.joined row) := by
  cases width with
  | none => exact String.append_empty
  | some columns =>
    -- the difference is cut off at zero, whether it is taken of integers or of numbers
    have hlength : (columns - (Segment.joined row).length).toNat =
        columns.toNat - (Segment.joined row).toList.length := by
      rw [String.length_toList]
      omega
    apply String.toList_inj.mp
    rw [shortfall, Text.filled, Text.blanks, String.toList_append, String.toList_ofList,
      String.toList_ofList, List.rightpad, hlength]

namespace Listing

/-- A line shown by itself: the marker column, the text and the blanks. -/
def plainRow (width highlight : Option Int) (line : Line) : String :=
  Text.filled width (line.pointer highlight ++ line.text)

theorem rowText_eq_plainRow (width highlight : Option Int) :
    rowText width highlight = plainRow width highlight := by
  funext line
  rw [rowText, Layout.append_blanks_eq, Line.joined_row, plainRow]

/-- All rows, with a line break between any two. -/
def plainText (lines : List Line) (width highlight : Option Int) : String :=
  "\n".intercalate (lines.map (plainRow width highlight))

theorem segments_eq [Capacity] {lines : List Line} {width highlight : Option Int}
    (h : HasRoom lines width highlight) :
    segments lines width highlight =
      .ok (Layout.stream width (lines.map (Line.row highlight))) := by
  rw [segments, Layout.stream?, (checkRoom_iff_hasRoom lines width highlight).mpr h]
  rfl

/-- The stream has the text of the rows and ends the last one too. -/
theorem joined_rows (lines : List Line) (width highlight : Option Int) :
    Segment.joined (Layout.stream width (lines.map (Line.row highlight))) =
      if lines = [] then "" else plainText lines width highlight ++ "\n" := by
  have htexts : (lines.map (Line.row highlight)).map
      (fun row => Segment.joined row ++ Text.blanks (Layout.shortfall width row)) =
        lines.map (plainRow width highlight) := by
    rw [List.map_map, ← rowText_eq_plainRow]
    rfl
  rw [Layout.joined_stream, htexts]
  split
  next hnil =>
    rw [hnil]
    rfl
  next hne =>
    have hrows : lines.map (plainRow width highlight) ≠ [] := by
      intro hnil
      exact hne (List.map_eq_nil_iff.mp hnil)
    exact Segment.ended_eq hrows

/-! ## Listings that are refused -/

theorem segments_eq_error_iff [Capacity] (lines : List Line) (width highlight : Option Int)
    (fault : Fault) :
    segments lines width highlight = .error fault ↔
      Layout.checkRoom width (lines.map (Line.row highlight)) = .error fault := by
  rw [segments, Layout.stream?]
  cases Layout.checkRoom width (lines.map (Line.row highlight)) with
  | error other => simp only [bind, Except.bind, Except.error.injEq]
  | ok _ => simp only [bind, Except.bind, pure, Except.pure, reduceCtorEq]

theorem render_eq_error_iff [Capacity] (lines : List Line) (width highlight : Option Int)
    (fault : Fault) :
    render lines width highlight = .error fault ↔ segments lines width highlight = .error fault := by
  rw [render]
  cases segments lines width highlight with
  | error other => simp only [Except.map, Except.error.injEq]
  | ok stream => simp only [Except.map, reduceCtorEq]

/-- Without room for its blanks a listing has no stream and no text, for the same reason. -/
theorem refused_of_not_hasRoom [Capacity] {lines : List Line} {width highlight : Option Int}
    (h : ¬HasRoom lines width highlight) :
    ∃ fault, (∃ length, fault = .textBeyondIndex length ∨ fault = .textTooLarge length) ∧
      render lines width highlight = .error fault ∧
      segments lines width highlight = .error fault := by
  obtain ⟨fault, hlength, hfault⟩ := render_eq_error h
  exact ⟨fault, hlength, hfault, (render_eq_error_iff _ _ _ _).mp hfault⟩

/-! ## Listings row by row -/

/-- **A listing is its rows, one at a time.** For lines of any kind, with room for the blanks of every
row, its text is the plain rows with a line break between any two, and its stream is the same text
with one more at the end, or nothing if there are no lines. Without room neither of them is made; both
are refused as too long a text. There is room for every width below the limit, and where no width is
asked for. -/
theorem render_row_by_row [Capacity] (lines : List Line) (width highlight : Option Int) :
    (HasRoom lines width highlight →
      render lines width highlight = .ok (plainText lines width highlight) ∧
      ∃ stream, segments lines width highlight = .ok stream ∧
        Segment.joined stream =
          if lines = [] then "" else plainText lines width highlight ++ "\n") ∧
    (¬HasRoom lines width highlight →
      ∃ fault, (∃ length, fault = .textBeyondIndex length ∨ fault = .textTooLarge length) ∧
        render lines width highlight = .error fault ∧
        segments lines width highlight = .error fault) ∧
    ((∀ columns, width = some columns → columns < Capacity.memoryLimit) →
      HasRoom lines width highlight) := by
  refine ⟨?_, refused_of_not_hasRoom, fun h => hasRoom_of_lt h lines highlight⟩
  intro hroom
  refine ⟨?_, _, segments_eq hroom, joined_rows lines width highlight⟩
  rw [render_eq hroom, rowText_eq_plainRow]
  rfl

/-- A line with a row's end and a line break of its own, as wide as asked for with them, and a line
with nothing in it that is highlighted. -/
theorem render_row_by_row_broken_line :
    letI : Capacity := .tebibyte
    let lines : List Line :=
      [⟨0, default, [⟨"ab", .keyword⟩, Segment.newline, ⟨"c\n", .comment⟩], ""⟩,
        ⟨2, default, [], ""⟩]
    HasRoom lines (some 6) (some 2) ∧
      render lines (some 6) (some 2) = .ok " ab\nc\n\n>     " := by
  let : Capacity := .tebibyte
  intro lines
  obtain ⟨hmade, _, hlow⟩ := render_row_by_row lines (some 6) (some 2)
  have hroom : HasRoom lines (some 6) (some 2) := by
    apply hlow
    rintro columns ⟨⟩
    decide
  refine ⟨hroom, (hmade hroom).1.trans ?_⟩
  rfl

/-- One line without any text, at a width of more blanks than can be counted, whatever memory there
is. -/
theorem render_beyond_index :
    ¬∃ (_ : Capacity) (text : String),
      render [⟨0, default, [], ""⟩] (some 9223372036854775808) none = .ok text := by
  rintro ⟨_, text, h⟩
  have hfault : render [⟨0, default, [], ""⟩] (some 9223372036854775808) none =
      .error (.textBeyondIndex 9223372036854775808) := by
    rfl
  rw [hfault] at h
  cases h

end Listing

end Chip8
