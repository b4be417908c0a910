import Chip8.Listing
import Chip8.Proofs.RowCut

/-!
# The text of a listing, row by row

A listing is laid out as one stream of segments, cut at its `newline`s again and put together as
text. `Listing.render_eq` says what comes out of the detour: the texts of the rows with a line break
between any two. It holds for lines of any kind. A line may have a `newline` among its own segments,
so that the stream is cut inside it; the line break that joins the two parts is then the one that was
cut out.

The argument is on text that ends all its rows: `Segment.ended_rows` says that ending every row of a
stream with a line break gives the text of the stream, provided the stream ends with a `newline`. It
is what cutting and ending do to segments, read as text. Two sequences of rows with the same ended
text have the same joined text.

Padding can ask for more blanks than a text can have. `Layout.checkRoom_eq_ok_iff` and
`Layout.checkRoom_eq_error` say when it does and what is reported; `Layout.stream?_eq_ok_iff` and
`Layout.stream?_eq_error` say the same of whole streams.
-/

namespace Chip8

namespace Segment

/-! ## Rows and their text -/

/-- The text of rows, each ended by a line break. -/
def ended (texts : List String) : String :=
  String.join (texts.map fun text => text ++ "\n")

theorem ended_cons (text : String) (rest : List String) :
    ended (text :: rest) = text ++ "\n" ++ ended rest := by
  simp [ended]

/-- Ending every row is joining them and ending the last. -/
theorem ended_eq {texts : List String} (h : texts ≠ []) :
    ended texts = "\n".intercalate texts ++ "\n" := by
  induction texts with
  | nil => exact absurd rfl h
  | cons text rest ih =>
    cases rest with
    | nil => simp [ended]
    | cons next more =>
      rw [ended_cons, ih (List.cons_ne_nil _ _), String.intercalate_cons_cons]
      simp only [String.append_assoc]

/-- Rows with the same ended text have the same joined text. -/
theorem intercalate_eq_of_ended_eq {left right : List String} (hleft : left ≠ [])
    (hright : right ≠ []) (h : ended left = ended right) :
    "\n".intercalate left = "\n".intercalate right := by
  rw [ended_eq hleft, ended_eq hright] at h
  exact String.append_left_inj _ |>.mp h

/-- The text of rows put together is their texts, each ended. -/
theorem joined_terminated (rows : List (List Segment)) :
    joined (terminated rows) = ended (rows.map joined) := by
  induction rows with
  | nil => rfl
  | cons row rest ih =>
    rw [terminated_cons, joined_append, joined_cons, ih, List.map_cons, ended_cons,
      String.append_assoc]
    rfl

/-- Cutting a stream into rows and ending them again gives its text, if a `newline` ends it. -/
theorem ended_rows {stream : List Segment} (h : stream.getLast? = some newline) :
    ended ((rows stream).map joined) = joined stream := by
  rw [← joined_terminated, terminated_rows, completed, if_pos (.inr h)]

end Segment

/-- A text was refused for its length. -/
def Fault.IsLength (fault : Fault) : Prop :=
  ∃ length, fault = .textBeyondIndex length ∨ fault = .textTooLarge length

namespace Layout

/-! ## Rows laid out -/

theorem joined_padding (width : Option Int) (row : List Segment) :
    Segment.joined (padding width row) = Text.blanks (shortfall width row) := by
  unfold padding
  split
  next hzero =>
    rw [hzero]
    rfl
  next => rw [Segment.joined_cons, Segment.joined_nil, String.append_empty]

theorem joined_finish (width : Option Int) (row : List Segment) :
    Segment.joined (finish width row) =
      Segment.joined row ++ Text.blanks (shortfall width row) ++ "\n" := by
  rw [finish, Segment.joined_append, Segment.joined_append, joined_padding]
  rfl

/-- The text of a layout: each row, its blanks and a line break. -/
theorem joined_stream (width : Option Int) (rows : List (List Segment)) :
    Segment.joined (stream width rows) =
      Segment.ended (rows.map fun row =>
        Segment.joined row ++ Text.blanks (shortfall width row)) := by
  induction rows with
  | nil => rfl
  | cons row rest ih =>
    rw [stream, List.flatMap_cons, Segment.joined_append, joined_finish, List.map_cons,
      Segment.ended_cons]
    exact congrArg _ ih

/-- A layout ends with the end of its last row. -/
theorem getLast?_stream (width : Option Int) {rows : List (List Segment)} (h : rows ≠ []) :
    (stream width rows).getLast? = some Segment.newline := by
  induction rows with
  | nil => exact absurd rfl h
  | cons row rest ih =>
    rw [stream, List.flatMap_cons, List.getLast?_append]
    -- the last segment is that of the rest, unless this row is the last one
    cases rest with
    | nil => simp [finish]
    | cons next more =>
      have hrest : (List.flatMap (finish width) (next :: more)).getLast? = some Segment.newline :=
        ih (List.cons_ne_nil _ _)
      rw [hrest]
      rfl

/-! ## Room for the blanks -/

/-- Widths below the limit always leave room, and so does no width at all. -/
theorem shortfall_lt [Capacity] {width : Option Int}
    (h : ∀ columns, width = some columns → columns < Capacity.memoryLimit) (row : List Segment) :
    shortfall width row < Capacity.memoryLimit := by
  have hpositive := Capacity.memoryLimit_pos
  cases width with
  | none => exact hpositive
  | some columns =>
    have hcolumns := h columns rfl
    show (columns - (Segment.joined row).length).toNat < Capacity.memoryLimit
    omega

/-- There is room for a layout if there is room for the blanks of each row. -/
theorem checkRoom_eq_ok_iff [Capacity] (width : Option Int) (rows : List (List Segment)) :
    checkRoom width rows = .ok () ↔ ∀ row ∈ rows, shortfall width row < Capacity.memoryLimit := by
  induction rows with
  | nil => simp [checkRoom]
  | cons row rest ih =>
    rw [checkRoom, List.forall_mem_cons, ← ih, ← Capacity.checkText_eq_ok_iff]
    cases Capacity.checkText (shortfall width row) with
    | error fault => simp [bind, Except.bind]
    | ok _ => simp [bind, Except.bind]

/-- Blanks are refused as a text that is too long to be made. -/
theorem checkText_eq_error [Capacity] {length : Nat} (h : ¬length < Capacity.memoryLimit) :
    ∃ fault : Fault, fault.IsLength ∧ Capacity.checkText length = .error fault := by
  unfold Capacity.checkText
  split
  · exact ⟨_, ⟨length, Or.inl rfl⟩, rfl⟩
  · exact ⟨_, ⟨length, Or.inr rfl⟩, if_pos (by omega)⟩

/-- Without room the first row that lacks it is reported. -/
theorem checkRoom_eq_error [Capacity] {width : Option Int} {rows : List (List Segment)}
    (h : ¬∀ row ∈ rows, shortfall width row < Capacity.memoryLimit) :
    ∃ fault : Fault, fault.IsLength ∧ checkRoom width rows = .error fault := by
  induction rows with
  | nil => exact absurd (fun _ hrow => absurd hrow List.not_mem_nil) h
  | cons row rest ih =>
    rw [checkRoom]
    by_cases hrow : shortfall width row < Capacity.memoryLimit
    · -- there is room for this row, so one behind it lacks it
      rw [(Capacity.checkText_eq_ok_iff _).mpr hrow]
      exact ih fun hrest => h (List.forall_mem_cons.mpr ⟨hrow, hrest⟩)
    · obtain ⟨fault, hlength, hfault⟩ := checkText_eq_error hrow
      refine ⟨fault, hlength, ?_⟩
      rw [hfault]
      rfl

/-- A stream is made of rows for whose blanks there is room. -/
theorem stream?_eq_ok_iff [Capacity] (width : Option Int) (rows : List (List Segment))
    (segments : List Segment) :
    stream? width rows = .ok segments ↔
      checkRoom width rows = .ok () ∧ segments = stream width rows := by
  rw [stream?, Fault.bind_eq_ok_iff]
  constructor
  · rintro ⟨⟨⟩, hroom, hstream⟩
    exact ⟨hroom, (Except.ok.inj hstream).symm⟩
  · rintro ⟨hroom, rfl⟩
    exact ⟨(), hroom, rfl⟩

/-- Rows for whose blanks there is no room are not laid out. -/
theorem stream?_eq_error [Capacity] {width : Option Int} {rows : List (List Segment)}
    (h : ¬∀ row ∈ rows, shortfall width row < Capacity.memoryLimit) :
    ∃ fault : Fault, fault.IsLength ∧ stream? width rows = .error fault := by
  obtain ⟨fault, hlength, hfault⟩ := checkRoom_eq_error h
  refine ⟨fault, hlength, ?_⟩
  rw [stream?, hfault]
  rfl

end Layout

namespace Listing

/-! ## The text of a listing -/

/-- A line as it is shown: its marker, its text and its blanks. -/
def rowText (width highlight : Option Int) (line : Line) : String :=
  Segment.joined (line.row highlight) ++ Text.blanks (Layout.shortfall width (line.row highlight))

/-- There is room for the blanks of every line. -/
def HasRoom [Capacity] (lines : List Line) (width highlight : Option Int) : Prop :=
  ∀ line ∈ lines, Layout.shortfall width (line.row highlight) < Capacity.memoryLimit

theorem checkRoom_iff_hasRoom [Capacity] (lines : List Line) (width highlight : Option Int) :
    Layout.checkRoom width (lines.map (Line.row highlight)) = .ok () ↔
      HasRoom lines width highlight := by
  rw [Layout.checkRoom_eq_ok_iff, List.forall_mem_map]
  rfl

theorem hasRoom_of_lt [Capacity] {width : Option Int}
    (h : ∀ columns, width = some columns → columns < Capacity.memoryLimit) (lines : List Line)
    (highlight : Option Int) : HasRoom lines width highlight :=
  fun line _ => Layout.shortfall_lt h (line.row highlight)

/-- **The listing is its rows**, with a line break between any two, whatever the lines are. -/
theorem render_eq [Capacity] {lines : List Line} {width highlight : Option Int}
    (h : HasRoom lines width highlight) :
    render lines width highlight =
      .ok ("\n".intercalate (lines.map (rowText width highlight))) := by
  have hroom := (checkRoom_iff_hasRoom lines width highlight).mpr h
  rw [render, segments, Layout.stream?, hroom]
  show Except.ok ("\n".intercalate _) = Except.ok _
  congr 1
  cases lines with
  | nil => rfl
  | cons line rest =>
    have hne : (line :: rest).map (Line.row highlight) ≠ [] := by simp
    have hlast := Layout.getLast?_stream width hne
    -- cut into rows or laid out from lines, the stream has one text, and it ends every row
    apply Segment.intercalate_eq_of_ended_eq
    · intro hnil
      rw [List.map_eq_nil_iff] at hnil
      refine Segment.rows_ne_nil (fun hstream => ?_) hnil
      rw [hstream] at hlast
      cases hlast
    · simp
    · rw [Segment.ended_rows hlast, Layout.joined_stream, List.map_map]
      rfl

/-- Without room for its blanks a listing is refused as too long a text. -/
theorem render_eq_error [Capacity] {lines : List Line} {width highlight : Option Int}
    (h : ¬HasRoom lines width highlight) :
    ∃ fault : Fault, fault.IsLength ∧ render lines width highlight = .error fault := by
  have hrows : ¬∀ row ∈ lines.map (Line.row highlight),
      Layout.shortfall width row < Capacity.memoryLimit := by
    rw [List.forall_mem_map]
    exact h
  obtain ⟨fault, hlength, hfault⟩ := Layout.stream?_eq_error hrows
  refine ⟨fault, hlength, ?_⟩
  rw [render, segments, hfault]
  rfl

end Listing

end Chip8
