import Chip8.Segment

/-!
# Cutting a stream into rows

`Segment.rows` cuts a stream at its `newline`s, and `Segment.terminated` is the way back: rows one
after the other, each ended by a `newline`. `Segment.rows_inverse` says how far the two undo each
other. Cutting forgets only whether the last row was ended, so a stream comes back with that end
supplied (`Segment.completed`); empty rows, in the middle or at the end, are kept. Rows come back as
they were exactly if none of them has a `newline` of its own.

Only the segment `newline` ends a row. A line break under another tag, or inside a longer text,
stays in the row in which it stands.

Both directions follow the stream from its front. What `Segment.prepend` does to one more segment is
said first (`newline_not_mem_prepend`, `terminated_prepend`), and whole streams by induction.
-/

namespace Chip8

namespace Segment

/-! ## One segment in front -/

theorem rows_cons (segment : Segment) (rest : List Segment) :
    rows (segment :: rest) = prepend segment (rows rest) := rfl

theorem prepend_ne_nil (segment : Segment) (rows : List (List Segment)) :
    prepend segment rows ≠ [] := by
  unfold prepend
  split
  · exact List.cons_ne_nil _ _
  · split <;> exact List.cons_ne_nil _ _

theorem rows_ne_nil {stream : List Segment} (h : stream ≠ []) : rows stream ≠ [] := by
  cases stream with
  | nil => exact absurd rfl h
  | cons segment rest => exact prepend_ne_nil segment (rows rest)

/-- Whatever is put in front, no row gets a `newline`. -/
theorem newline_not_mem_prepend (segment : Segment) {rows : List (List Segment)}
    (h : ∀ row ∈ rows, newline ∉ row) : ∀ row ∈ prepend segment rows, newline ∉ row := by
  unfold prepend
  split
  next => exact List.forall_mem_cons.mpr ⟨List.not_mem_nil, h⟩
  next hsegment =>
    have hfront {row : List Segment} (hrow : newline ∉ row) : newline ∉ segment :: row :=
      List.not_mem_cons_of_ne_of_not_mem (Ne.symm hsegment) hrow
    cases rows with
    | nil => exact List.forall_mem_singleton.mpr (hfront List.not_mem_nil)
    | cons row rest =>
      rw [List.forall_mem_cons] at h
      exact List.forall_mem_cons.mpr ⟨hfront h.1, h.2⟩

/-- No row of a stream has a `newline`. -/
theorem newline_not_mem_rows (stream : List Segment) : ∀ row ∈ rows stream, newline ∉ row := by
  induction stream with
  | nil => exact fun _ hrow => absurd hrow List.not_mem_nil
  | cons segment rest ih => exact newline_not_mem_prepend segment ih

/-! ## Rows put together again -/

/-- Rows one after the other, each ended by a `newline`. -/
def terminated (groups : List (List Segment)) : List Segment :=
  groups.flatMap fun row => row ++ [newline]

theorem terminated_cons (row : List Segment) (rest : List (List Segment)) :
    terminated (row :: rest) = row ++ newline :: terminated rest := by
  rw [terminated, List.flatMap_cons, List.append_assoc, List.singleton_append]
  rfl

/-- A stream whose last row is ended, if it has one. -/
def completed (stream : List Segment) : List Segment :=
  if stream = [] ∨ stream.getLast? = some newline then stream else stream ++ [newline]

/-- What completes a stream depends on its last segment, so not on one that stands further ahead. -/
theorem completed_cons (segment : Segment) {rest : List Segment} (h : rest ≠ []) :
    completed (segment :: rest) = segment :: completed rest := by
  cases rest with
  | nil => exact absurd rfl h
  | cons next more =>
    unfold completed
    rw [List.getLast?_cons_cons]
    by_cases hlast : (next :: more).getLast? = some newline
    · rw [if_pos (.inr hlast), if_pos (.inr hlast)]
    · simp [hlast]

/-- A segment put in front of rows comes in front of their stream, whether it ends a row or not. -/
theorem terminated_prepend (segment : Segment) {rows : List (List Segment)} (h : rows ≠ []) :
    terminated (prepend segment rows) = segment :: terminated rows := by
  cases rows with
  | nil => exact absurd rfl h
  | cons row rest =>
    unfold prepend
    split
    next hnewline =>
      -- the row that opens is empty, and ended it is the segment that was taken out
      rw [hnewline, terminated_cons, List.nil_append]
    next => rw [terminated_cons, terminated_cons, List.cons_append]

/-- A single segment is its own row, or the end of an empty one. -/
theorem terminated_prepend_nil (segment : Segment) :
    terminated (prepend segment []) = completed [segment] := by
  unfold prepend
  split
  next hnewline =>
    rw [hnewline]
    rfl
  next hsegment => simp [completed, terminated, hsegment]

/-- Cutting a stream and ending its rows again completes it. -/
theorem terminated_rows (stream : List Segment) : terminated (rows stream) = completed stream := by
  induction stream with
  | nil => rfl
  | cons segment rest ih =>
    rw [rows_cons]
    cases rest with
    | nil => exact terminated_prepend_nil segment
    | cons next more =>
      have hrest : next :: more ≠ [] := List.cons_ne_nil _ _
      rw [terminated_prepend segment (rows_ne_nil hrest), ih, completed_cons segment hrest]

/-- Rows are cut off one by one, if none of them has a `newline` of its own. -/
theorem rows_append_newline {row : List Segment} (h : newline ∉ row) (rest : List Segment) :
    rows (row ++ newline :: rest) = row :: rows rest := by
  induction row with
  | nil =>
    rw [List.nil_append, rows_cons]
    unfold prepend
    exact if_pos rfl
  | cons segment more ih =>
    rw [List.mem_cons, not_or] at h
    rw [List.cons_append, rows_cons, ih h.2]
    unfold prepend
    exact if_neg (Ne.symm h.1)

/-- Rows that were ended one after the other are cut off again as they were. -/
theorem rows_terminated {groups : List (List Segment)} (h : ∀ row ∈ groups, newline ∉ row) :
    rows (terminated groups) = groups := by
  induction groups with
  | nil => rfl
  | cons row rest ih =>
    rw [List.forall_mem_cons] at h
    rw [terminated_cons, rows_append_newline h.1, ih h.2]

/-- Cutting at `newline`s and ending rows with them are inverse to each other. No row that is cut
off has a `newline`. Ended again, the rows are the stream, with the end of the last row supplied if
that one had none. Any rows whatever come back from their stream if and only if none has a
`newline`. -/
theorem rows_inverse (stream : List Segment) (groups : List (List Segment)) :
    (∀ row ∈ rows stream, newline ∉ row) ∧
    terminated (rows stream) =
      (if stream = [] ∨ stream.getLast? = some newline then stream else stream ++ [newline]) ∧
    (rows (terminated groups) = groups ↔ ∀ row ∈ groups, newline ∉ row) := by
  refine ⟨newline_not_mem_rows stream, terminated_rows stream, fun h => ?_, rows_terminated⟩
  have hrows : ∀ row ∈ rows (terminated groups), newline ∉ row := newline_not_mem_rows _
  rwa [h] at hrows

/-- Line breaks under another tag or inside a longer text end no row, and empty rows before and
between theirs are kept. -/
theorem rows_inverse_look_alikes :
    rows (terminated [[], [⟨"\n", .comment⟩], [], [⟨"a\nb", .plain⟩]]) =
      [[], [⟨"\n", .comment⟩], [], [⟨"a\nb", .plain⟩]] :=
  (rows_inverse [] _).2.2.mpr (by decide)

end Segment

end Chip8
