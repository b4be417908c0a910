import Chip8.Proofs.ReadBack
import Chip8.Terminal.Escape

/-!
# Reading coloured text

A terminal reads a text as signs: characters to show, and escape sequences to obey. This file reads
coloured text so and finds the segments it was made from.

`Terminal.signs` is the reader. It knows nothing of styles or segments; a sequence is whatever stands
between an escape with its bracket and the next `m`. `Terminal.signs_block` says what it makes of one
segment in colour: a sequence, the characters of the segment and the sequence that ends every style.
It holds with anything behind the segment, so that a stream is read one segment after the other.

From it follow `Terminal.strip_render`, that colour adds nothing but sequences, and what is known of
the line breaks of coloured text: `Terminal.breaksBare_render`, that no style is in force at any of
them, and `Terminal.blocks_of_mem_cut`, that between them stand complete blocks.
-/

namespace Chip8

namespace Terminal

/-! ## The reader -/

/-- What a terminal reads: a character to show, or an escape sequence by what stands between its
bracket and its `m`. -/
inductive Sign where
  | shown (c : Char)
  | sequence (codes : List Char)
deriving DecidableEq

/-- The escape sequence at the front of a text, and what is left behind it. Without an `m` to end it
there is none. -/
def sequence? : List Char → Option (List Char × List Char)
  | c :: '[' :: rest =>
    if c = escape then
      match rest.dropWhile (· != 'm') with
      | [] => none
      | _ :: left => some (rest.takeWhile (· != 'm'), left)
    else none
  | _ => none

theorem length_of_sequence? {cs codes left : List Char} (h : sequence? cs = some (codes, left)) :
    left.length < cs.length := by
  unfold sequence? at h
  split at h
  next c rest =>
    split at h
    next =>
      have hdrop := (List.dropWhile_sublist (l := rest) (· != 'm')).length_le
      split at h
      next => cases h
      next _ _ hleft =>
        cases h
        rw [hleft, List.length_cons] at hdrop
        simp only [List.length_cons]
        omega
    next => cases h
  next => cases h

/-- The signs of a text. -/
def signs : List Char → List Sign
  | [] => []
  | c :: rest =>
    match _found : sequence? (c :: rest) with
    | some (codes, left) => .sequence codes :: signs left
    | none => .shown c :: signs rest
termination_by cs => cs.length
decreasing_by
  · exact length_of_sequence? _found
  · simp

/-- The character that a sign shows. -/
def Sign.char? : Sign → Option Char
  | .shown c => some c
  | .sequence _ => none

/-- The text without its escape sequences. -/
def strip (text : String) : String :=
  String.ofList ((signs text.toList).filterMap Sign.char?)

/-- Whether no line break is shown while a style is in force. At the start one is if `styled`. -/
def breaksBare (styled : Bool) : List Sign → Bool
  | [] => true
  | .shown c :: rest => !(styled && c == '\n') && breaksBare styled rest
  | .sequence codes :: rest => breaksBare (codes != ['0']) rest

/-- A complete block: a style of the palette, text without control characters, and the end of every
style. -/
def IsBlock (palette : Palette) (cs : List Char) : Prop :=
  ∃ tag style front shown, palette tag = some style ∧ styleSequence style = .ok front ∧
    Text.clean shown = true ∧ cs = (front ++ shown ++ reset).toList

/-- A row of complete blocks. -/
def IsBlocks (palette : Palette) (cs : List Char) : Prop :=
  ∃ blocks : List (List Char), cs = blocks.flatten ∧ ∀ block ∈ blocks, IsBlock palette block

/-! ## Characters and sequences -/

theorem signs_of_ne_escape {c : Char} (h : c ≠ escape) (rest : List Char) :
    signs (c :: rest) = .shown c :: signs rest := by
  have hnone : sequence? (c :: rest) = none := by
    unfold sequence?
    split
    next heq =>
      cases heq
      exact if_neg h
    next => rfl
  rw [signs]
  split
  next hsome =>
    rw [hnone] at hsome
    cases hsome
  next => rfl

/-- Text without an escape is shown as it is. -/
theorem signs_append {cs : List Char} (h : escape ∉ cs) (rest : List Char) :
    signs (cs ++ rest) = cs.map .shown ++ signs rest := by
  induction cs with
  | nil => rfl
  | cons c more ih =>
    rw [List.mem_cons, not_or] at h
    rw [List.cons_append, signs_of_ne_escape (Ne.symm h.1), ih h.2]
    rfl

/-- Whether a character can stand in a sequence: a digit, a sign or a semicolon. -/
def isCode (c : Char) : Bool :=
  c == ';' || c == '-' || c.isDigit

/-- Whether a text can stand in a sequence. -/
def codeLike (text : String) : Bool :=
  text.toList.all isCode

theorem codeLike_decimal (n : Int) : codeLike (Numeral.decimal n) = true := by
  have hdigit : ∀ k : Fin 10, isCode (k : Nat).digitChar = true := by decide
  rw [codeLike, Numeral.decimal, Numeral.render, String.toList_ofList, List.all_eq_true]
  intro c hc
  rcases Numeral.mem_chars hc with rfl | ⟨k, hk, rfl⟩
  · decide
  · exact hdigit ⟨k, hk⟩

theorem codeLike_append {left right : String} (hleft : codeLike left = true)
    (hright : codeLike right = true) : codeLike (left ++ right) = true := by
  rw [codeLike, String.toList_append, List.all_append, Bool.and_eq_true]
  exact ⟨hleft, hright⟩

theorem codeLike_intercalate {codes : List String} (h : ∀ code ∈ codes, codeLike code = true) :
    codeLike (";".intercalate codes) = true := by
  induction codes with
  | nil => rfl
  | cons code rest ih =>
    rw [List.forall_mem_cons] at h
    cases rest with
    | nil =>
      rw [String.intercalate_singleton]
      exact h.1
    | cons next more =>
      rw [String.intercalate_cons_cons]
      exact codeLike_append (codeLike_append h.1 (by decide)) (ih h.2)

/-- What can stand in a sequence does not hold a character that cannot. -/
theorem not_mem_of_codeLike {text : String} (h : codeLike text = true) {c : Char}
    (hc : isCode c = false) : c ∉ text.toList := by
  intro hmem
  have hcode := List.all_eq_true.mp h c hmem
  rw [hc] at hcode
  cases hcode

theorem toList_sequence (codes : List String) :
    (sequence codes).toList = escape :: '[' :: ((";".intercalate codes).toList ++ ['m']) := by
  simp [sequence]

/-- A sequence is read as one, whatever is behind it. -/
theorem signs_sequence {codes : List String} (h : codeLike (";".intercalate codes) = true)
    (rest : List Char) :
    signs ((sequence codes).toList ++ rest) =
      .sequence (";".intercalate codes).toList :: signs rest := by
  have hrun : ∀ c ∈ (";".intercalate codes).toList, (c != 'm') = true := by
    intro c hc
    rw [bne_iff_ne]
    rintro rfl
    exact not_mem_of_codeLike h (by decide) hc
  have hsome : sequence? (escape :: '[' :: ((";".intercalate codes).toList ++ 'm' :: rest)) =
      some ((";".intercalate codes).toList, rest) := by
    rw [sequence?, if_pos rfl, List.dropWhile_append_of_pos hrun, List.takeWhile_append_of_pos hrun]
    simp
  have htext : (sequence codes).toList ++ rest =
      escape :: '[' :: ((";".intercalate codes).toList ++ 'm' :: rest) := by
    simp [toList_sequence]
  rw [htext, signs]
  split
  next codes' left hfound =>
    rw [hsome] at hfound
    cases hfound
    rfl
  next hnone =>
    rw [hsome] at hnone
    cases hnone

/-! ## Styles -/

theorem codeLike_of_colourCode {layer code : String} {colour : Colour}
    (hlayer : codeLike layer = true) (h : colourCode layer colour = .ok code) :
    codeLike code = true := by
  unfold colourCode at h
  obtain ⟨codes, hcodes, h⟩ := Fault.bind_eq_ok_iff.mp h
  rw [Capacity.mapM_decimal] at hcodes
  split at hcodes
  next =>
    cases hcodes
    split at h
    next => cases h
    next =>
      cases h
      apply codeLike_intercalate
      rw [List.forall_mem_cons, List.forall_mem_cons, List.forall_mem_map]
      exact ⟨hlayer, by decide, fun channel _ => codeLike_decimal channel⟩
  next => cases hcodes

/-- A style is put in force by one sequence of numbers. -/
theorem exists_codes_of_styleSequence {style : Style} {front : String}
    (h : styleSequence style = .ok front) :
    ∃ codes, front = sequence codes ∧ codeLike (";".intercalate codes) = true := by
  obtain ⟨foreground, hforeground, h⟩ := Fault.bind_eq_ok_iff.mp h
  have hfront := codeLike_of_colourCode (by decide) hforeground
  have hback : ∃ background : List String, (∀ code ∈ background, codeLike code = true) ∧
      front = sequence ((if style.bold then ["1"] else []) ++
        (if style.italic then ["3"] else []) ++ [foreground] ++ background) := by
    cases hstyle : style.background with
    | none =>
      simp only [hstyle] at h
      exact ⟨[], fun _ hcode => absurd hcode List.not_mem_nil, (Except.ok.inj h).symm⟩
    | some colour =>
      simp only [hstyle] at h
      obtain ⟨code, hcode, h⟩ := Fault.bind_eq_ok_iff.mp h
      refine ⟨[code], fun other hother => ?_, (Except.ok.inj h).symm⟩
      rw [List.mem_singleton.mp hother]
      exact codeLike_of_colourCode (by decide) hcode
  obtain ⟨background, hback, rfl⟩ := hback
  have hweight : ∀ code ∈ (if style.bold then ["1"] else []) ++ (if style.italic then ["3"] else []),
      codeLike code = true := by
    cases style.bold <;> cases style.italic <;> decide
  refine ⟨_, rfl, codeLike_intercalate ?_⟩
  intro code hcode
  rw [List.mem_append, List.mem_append, List.mem_singleton] at hcode
  rcases hcode with (hcode | rfl) | hcode
  · exact hweight code hcode
  · exact hfront
  · exact hback code hcode

/-! ## Single segments -/

/-- A segment in colour is a line break, or its text between a style and the end of every style. -/
theorem block_cases {palette : Palette} {segment : Segment} {out : String}
    (h : block palette segment = .ok out) :
    (segment.text = "\n" ∧ out = "\n") ∨
    (segment.text ≠ "\n" ∧ ∃ style front, palette segment.tag = some style ∧
      styleSequence style = .ok front ∧ out = front ++ segment.text ++ reset) := by
  unfold block at h
  split at h
  next hbreak =>
    cases h
    exact Or.inl ⟨hbreak, rfl⟩
  next hbreak =>
    refine Or.inr ⟨hbreak, ?_⟩
    split at h
    next => cases h
    next style hstyle =>
      obtain ⟨front, hfront, hout⟩ := Fault.bind_eq_ok_iff.mp h
      exact ⟨style, front, hstyle, hfront, (Except.ok.inj hout).symm⟩

/-- **One segment as it is read**: a line break, or the sequence of its style, the characters of the
segment, and the sequence that ends every style. -/
theorem signs_block {palette : Palette} {segment : Segment} {out : String}
    (h : block palette segment = .ok out) (hescape : escape ∉ segment.text.toList)
    (rest : List Char) :
    (segment.text = "\n" ∧ signs (out.toList ++ rest) = .shown '\n' :: signs rest) ∨
    (segment.text ≠ "\n" ∧ ∃ style codes, palette segment.tag = some style ∧
      styleSequence style = .ok (sequence codes) ∧
      signs (out.toList ++ rest) =
        .sequence (";".intercalate codes).toList ::
          (segment.text.toList.map .shown ++ .sequence ['0'] :: signs rest)) := by
  rcases block_cases h with ⟨hbreak, rfl⟩ | ⟨hbreak, style, front, hstyle, hfront, rfl⟩
  · exact Or.inl ⟨hbreak, signs_of_ne_escape (by decide) rest⟩
  · obtain ⟨codes, rfl, hcodes⟩ := exists_codes_of_styleSequence hfront
    refine Or.inr ⟨hbreak, style, codes, hstyle, hfront, ?_⟩
    rw [String.toList_append, String.toList_append, List.append_assoc, List.append_assoc,
      signs_sequence hcodes, signs_append hescape, reset, signs_sequence (by decide)]
    rfl

/-! ## Streams -/

/-- A stream in colour is its first segment in colour and the rest of it. -/
theorem render_cons_eq_ok_iff {palette : Palette} {segment : Segment} {rest : List Segment}
    {text : String} :
    render palette (segment :: rest) = .ok text ↔
      ∃ out later, block palette segment = .ok out ∧ render palette rest = .ok later ∧
        text = out ++ later := by
  rw [render, render, List.mapM_cons]
  cases block palette segment with
  | error fault => simp [bind, Except.bind, Except.map]
  | ok out =>
    cases rest.mapM (block palette) with
    | error fault => simp [bind, Except.bind, Except.map]
    | ok outs =>
      have hjoin : String.join (out :: outs) = out ++ String.join outs := by
        apply String.toList_inj.mp
        simp
      simp [bind, Except.bind, Except.map, pure, Except.pure, hjoin, eq_comm]

/-- A segment can be written if its tag has a style that can. -/
theorem exists_block {palette : Palette} {segment : Segment} {style : Style} {front : String}
    (hstyle : palette segment.tag = some style) (hfront : styleSequence style = .ok front) :
    ∃ out, block palette segment = .ok out := by
  unfold block
  split
  next => exact ⟨_, rfl⟩
  next =>
    simp only [hstyle, hfront]
    exact ⟨_, rfl⟩

/-- A stream can be written if each of its segments can. -/
theorem exists_render_of_blocks {palette : Palette} {segments : List Segment}
    (h : ∀ segment ∈ segments, ∃ out, block palette segment = .ok out) :
    ∃ text, render palette segments = .ok text := by
  induction segments with
  | nil => exact ⟨_, rfl⟩
  | cons segment rest ih =>
    rw [List.forall_mem_cons] at h
    obtain ⟨out, hout⟩ := h.1
    obtain ⟨later, hlater⟩ := ih h.2
    exact ⟨_, render_cons_eq_ok_iff.mpr ⟨out, later, hout, hlater, rfl⟩⟩

/-- A stream in which every segment can be written or fails in one way fails in that way, as soon as
one of them does. -/
theorem render_eq_error {palette : Palette} {segments : List Segment} {fault : Fault}
    (h : ∀ segment ∈ segments,
      (∃ out, block palette segment = .ok out) ∨ block palette segment = .error fault)
    (hfails : ∃ segment ∈ segments, block palette segment = .error fault) :
    render palette segments = .error fault := by
  induction segments with
  | nil =>
    obtain ⟨segment, hsegment, _⟩ := hfails
    exact absurd hsegment List.not_mem_nil
  | cons segment rest ih =>
    rw [List.forall_mem_cons] at h
    rcases h.1 with ⟨out, hout⟩ | hfault
    · obtain ⟨other, hother, hfault⟩ := hfails
      have hrest : ∃ segment ∈ rest, block palette segment = .error fault := by
        rcases List.mem_cons.mp hother with rfl | hother
        · rw [hout] at hfault
          cases hfault
        · exact ⟨other, hother, hfault⟩
      have hlater := ih h.2 hrest
      unfold render at hlater ⊢
      rw [List.mapM_cons, hout]
      cases hblocks : rest.mapM (block palette) with
      | error other =>
        rw [hblocks] at hlater
        exact hlater
      | ok outs =>
        rw [hblocks] at hlater
        cases hlater
    · rw [render, List.mapM_cons, hfault]
      rfl

/-- The named schemes have a style for every tag, and so every stream can be written in them. -/
theorem exists_render (scheme : Scheme) (segments : List Segment) :
    ∃ text, render scheme.palette segments = .ok text := by
  have hstyle : ∀ tag, ∃ front, styleSequence (scheme.style tag) = .ok front := by
    intro tag
    cases scheme <;> cases tag <;> exact ⟨_, rfl⟩
  apply exists_render_of_blocks
  intro segment _
  obtain ⟨front, hfront⟩ := hstyle segment.tag
  exact exists_block rfl hfront

/-- **Colour adds only sequences**: without them a stream in colour is its text. -/
theorem strip_render {palette : Palette} {segments : List Segment} {text : String}
    (h : render palette segments = .ok text)
    (hescape : ∀ segment ∈ segments, escape ∉ segment.text.toList) :
    strip text = Segment.joined segments := by
  apply String.toList_inj.mp
  rw [strip, String.toList_ofList]
  induction segments generalizing text with
  | nil =>
    cases h
    simp [signs]
  | cons segment rest ih =>
    rw [List.forall_mem_cons] at hescape
    obtain ⟨out, later, hout, hlater, rfl⟩ := render_cons_eq_ok_iff.mp h
    rw [String.toList_append, Segment.joined_cons, String.toList_append, ← ih hlater hescape.2]
    rcases signs_block hout hescape.1 later.toList with
      ⟨hbreak, hsigns⟩ | ⟨_, _, codes, _, _, hsigns⟩
    · rw [hsigns, hbreak]
      rfl
    · rw [hsigns]
      simp [List.filterMap_cons, Sign.char?, List.filterMap_map, Function.comp_def]

/-! ## Line breaks -/

/-- A segment is a line break, or text without control characters. -/
def Legible (segment : Segment) : Prop :=
  segment.text = "\n" ∨ Text.clean segment.text = true

/-- An escape is a control character. -/
theorem escape_not_mem {text : String} (h : Text.clean text = true) : escape ∉ text.toList :=
  fun hmem => absurd (List.all_eq_true.mp h escape hmem) (by decide)

theorem escape_not_mem_of_legible {segment : Segment} (h : Legible segment) :
    escape ∉ segment.text.toList := by
  rcases h with hbreak | hclean
  · rw [hbreak]
    decide
  · exact escape_not_mem hclean

/-- Text without line breaks can be shown in every style. -/
theorem breaksBare_append {cs : List Char} (h : '\n' ∉ cs) (styled : Bool) (rest : List Sign) :
    breaksBare styled (cs.map .shown ++ rest) = breaksBare styled rest := by
  induction cs with
  | nil => rfl
  | cons c more ih =>
    rw [List.mem_cons, not_or] at h
    have hc : (c == '\n') = false := beq_eq_false_iff_ne.mpr (Ne.symm h.1)
    rw [List.map_cons, List.cons_append, breaksBare, hc, Bool.and_false, Bool.not_false,
      Bool.true_and]
    exact ih h.2

/-- At every line break of legible text all styles have ended. -/
theorem breaksBare_render {palette : Palette} {segments : List Segment} {text : String}
    (h : render palette segments = .ok text) (hlegible : ∀ segment ∈ segments, Legible segment) :
    breaksBare false (signs text.toList) = true := by
  induction segments generalizing text with
  | nil =>
    cases h
    simp [signs, breaksBare]
  | cons segment rest ih =>
    rw [List.forall_mem_cons] at hlegible
    obtain ⟨out, later, hout, hlater, rfl⟩ := render_cons_eq_ok_iff.mp h
    have hrest := ih hlater hlegible.2
    rw [String.toList_append]
    rcases signs_block hout (escape_not_mem_of_legible hlegible.1) later.toList with
      ⟨_, hsigns⟩ | ⟨hbreak, _, codes, _, _, hsigns⟩
    · rw [hsigns]
      exact hrest
    · -- whatever the style, the text has no line break and what follows it starts bare again
      have hclean := Text.newline_not_mem (hlegible.1.resolve_left hbreak)
      rw [hsigns, breaksBare, breaksBare_append hclean]
      exact hrest

theorem newline_not_mem_of_isBlock {palette : Palette} {cs : List Char}
    (h : IsBlock palette cs) : '\n' ∉ cs := by
  obtain ⟨tag, style, front, shown, _, hfront, hclean, rfl⟩ := h
  obtain ⟨codes, rfl, hcodes⟩ := exists_codes_of_styleSequence hfront
  have hcode := not_mem_of_codeLike hcodes (show isCode '\n' = false by decide)
  have htext := Text.newline_not_mem hclean
  have hreset : '\n' ∉ reset.toList := by decide
  rw [String.toList_append, String.toList_append, List.mem_append, List.mem_append, toList_sequence]
  simp only [List.mem_cons, List.mem_append, List.not_mem_nil, or_false, not_or]
  exact ⟨⟨⟨by decide, by decide, hcode, by decide⟩, htext⟩, hreset⟩

/-- Text without a line break only makes the first row of what follows longer. -/
theorem splitOn_append {cs : List Char} (h : '\n' ∉ cs) (rest : List Char) :
    (cs ++ rest).splitOn '\n' = (rest.splitOn '\n').modifyHead (cs ++ ·) := by
  induction cs with
  | nil => cases hrows : rest.splitOn '\n' <;> simp [hrows]
  | cons c more ih =>
    rw [List.mem_cons, not_or] at h
    have hc : (c == '\n') = false := beq_eq_false_iff_ne.mpr (Ne.symm h.1)
    rw [List.cons_append, List.splitOn_cons_eq_if_modifyHead, hc, ih h.2]
    cases hrows : rest.splitOn '\n' <;> simp

/-- Between its line breaks legible text in colour is made of complete blocks. -/
theorem blocks_of_mem_cut {palette : Palette} {segments : List Segment} {text : String}
    (h : render palette segments = .ok text) (hlegible : ∀ segment ∈ segments, Legible segment) :
    ∀ row ∈ Listing.cut text, IsBlocks palette row := by
  have hempty : IsBlocks palette [] := ⟨[], rfl, fun _ hblock => absurd hblock List.not_mem_nil⟩
  induction segments generalizing text with
  | nil =>
    cases h
    intro row hrow
    rw [List.mem_singleton.mp hrow]
    exact hempty
  | cons segment rest ih =>
    rw [List.forall_mem_cons] at hlegible
    obtain ⟨out, later, hout, hlater, rfl⟩ := render_cons_eq_ok_iff.mp h
    have hrest := ih hlater hlegible.2
    rw [Listing.cut] at hrest ⊢
    rw [String.toList_append]
    rcases block_cases hout with ⟨_, rfl⟩ | ⟨hbreak, style, front, hstyle, hfront, rfl⟩
    · -- a line break ends an empty row in front of the others
      have hrows : ("\n".toList ++ later.toList).splitOn '\n' =
          [] :: later.toList.splitOn '\n' :=
        List.splitOn_append_cons_self [] later.toList
      rw [hrows, List.forall_mem_cons]
      exact ⟨hempty, hrest⟩
    · -- a block stands in front of the first row
      have hblock : IsBlock palette (front ++ segment.text ++ reset).toList :=
        ⟨segment.tag, style, front, segment.text, hstyle, hfront,
          hlegible.1.resolve_left hbreak, rfl⟩
      rw [splitOn_append (newline_not_mem_of_isBlock hblock)]
      cases hrows : later.toList.splitOn '\n' with
      | nil => exact absurd hrows (List.splitOn_ne_nil _ _)
      | cons row more =>
        rw [hrows, List.forall_mem_cons] at hrest
        rw [List.modifyHead_cons, List.forall_mem_cons]
        obtain ⟨blocks, rfl, hblocks⟩ := hrest.1
        exact ⟨⟨_ :: blocks, rfl, List.forall_mem_cons.mpr ⟨hblock, hblocks⟩⟩, hrest.2⟩

end Terminal

end Chip8
