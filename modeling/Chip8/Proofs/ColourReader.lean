import Chip8.Proofs.Signs

/-!
# From coloured text back to segments

A stream in colour is one run of characters. Where a segment ends, which tag it has and whether
there are empty ones among them is not written anywhere; it has to be told from the styles. This
file has a reader that does so.

A style is read off the numbers of its sequence (`Terminal.readStyle?`). They are cut at the
semicolons: the weights come first and are told from a colour by their number, a colour takes five
numbers, and what is left behind the first colour is the second. `Terminal.readStyle?_numbers` says
that nothing of a style is lost, whatever integers its channels are.

`Terminal.recover` goes through the signs of a text with the segment that is begun as its state. It
needs a palette that tells its tags apart. `Terminal.recover_render` is the run of it over a whole
stream, by one lemma for the characters of a segment and one for the sequence in front of them.

The main statement is `Terminal.render_can_be_read`. `Terminal.render_beyond_digits` is a colour that
cannot be written.
-/

namespace Chip8

/-! ## Styles of red, green and blue -/

/-- A colour of three channels, no more and no less. -/
def Colour.IsRgb (colour : Colour) : Prop :=
  colour.channels.length = 3

/-- A style whose colours have three channels. -/
def Style.IsRgb (style : Style) : Prop :=
  style.foreground.IsRgb ∧ ∀ colour, style.background = some colour → colour.IsRgb

/-- A colour whose channels are short enough to be shown. -/
def Colour.IsShown (colour : Colour) : Prop :=
  ∀ channel ∈ colour.channels, Capacity.IsShown channel

/-- A style whose colours can be shown. -/
def Style.IsShown (style : Style) : Prop :=
  style.foreground.IsShown ∧ ∀ colour, style.background = some colour → colour.IsShown

namespace Palette

/-- Every tag in use has a style, and the style three channels in each colour. -/
def Covers (palette : Palette) (segments : List Segment) : Prop :=
  ∀ segment ∈ segments, ∃ style, palette segment.tag = some style ∧ style.IsRgb

/-- Every style that is written can be shown. A segment that is just a line break has none written. -/
def IsShown (palette : Palette) (segments : List Segment) : Prop :=
  ∀ segment ∈ segments, segment.text ≠ "\n" →
    ∀ style, palette segment.tag = some style → style.IsShown

/-- No two tags have the same style. -/
def Distinct (palette : Palette) : Prop :=
  ∀ tag other style, palette tag = some style → palette other = some style → tag = other

end Palette

theorem Colour.IsRgb.exists_rgb {colour : Colour} (h : colour.IsRgb) :
    ∃ red green blue, colour = .rgb red green blue := by
  obtain ⟨channels⟩ := colour
  match channels, h with
  | [red, green, blue], _ => exact ⟨red, green, blue, rfl⟩

/-- None of its channels is left out. -/
theorem Colour.IsRgb.take_channels {colour : Colour} (h : colour.IsRgb) :
    colour.channels.take 3 = colour.channels :=
  List.take_of_length_le (Nat.le_of_eq h)

namespace Terminal

/-! ## The numbers of a style -/

/-- The numbers that tell a colour, behind the one that says what it colours. -/
def colourNumbers (layer : String) (colour : Colour) : List String :=
  layer :: "2" :: colour.channels.map Numeral.decimal

/-- The numbers of the weights. -/
def weightNumbers (style : Style) : List String :=
  (if style.bold then ["1"] else []) ++ (if style.italic then ["3"] else [])

/-- The numbers that tell a style. -/
def numbers (style : Style) : List String :=
  weightNumbers style ++ colourNumbers "38" style.foreground ++
    (style.background.map (colourNumbers "48")).getD []

theorem colourCode_eq (layer : String) {colour : Colour} (h : colour.IsRgb)
    (hshown : colour.IsShown) :
    colourCode layer colour = .ok (";".intercalate (colourNumbers layer colour)) := by
  obtain ⟨red, green, blue, rfl⟩ := h.exists_rgb
  unfold colourCode
  rw [h.take_channels, Capacity.mapM_decimal, if_pos (show ∀ channel ∈ _, _ from hshown)]
  rfl

theorem colourCode_of_not_isShown (layer : String) {colour : Colour} (h : colour.IsRgb)
    (hlong : ¬colour.IsShown) : colourCode layer colour = .error .tooLongToShow := by
  unfold colourCode
  rw [h.take_channels, Capacity.mapM_decimal, if_neg (show ¬∀ channel ∈ _, _ from hlong)]
  rfl

/-- Runs of numbers are joined alike, at once or one after the other. -/
theorem intercalate_intercalate (front : List String) {run : List String} (hrun : run ≠ [])
    (rest : List String) :
    ";".intercalate (front ++ ";".intercalate run :: rest) =
      ";".intercalate (front ++ run ++ rest) := by
  have hback : ";".intercalate (";".intercalate run :: rest) = ";".intercalate (run ++ rest) := by
    by_cases hrest : rest = []
    · rw [hrest, List.append_nil, String.intercalate_singleton]
    · rw [String.intercalate_cons_of_ne_nil hrest, String.intercalate_append_of_ne_nil hrun hrest]
  rw [List.append_assoc]
  by_cases hfront : front = []
  · rw [hfront, List.nil_append, List.nil_append, hback]
  · rw [String.intercalate_append_of_ne_nil hfront (List.cons_ne_nil _ _),
      String.intercalate_append_of_ne_nil hfront (List.append_ne_nil_of_left_ne_nil hrun _), hback]

/-- A style is put in force by the sequence of its numbers. -/
theorem styleSequence_eq {style : Style} (h : style.IsRgb) (hshown : style.IsShown) :
    styleSequence style = .ok (sequence (numbers style)) := by
  have hne : ∀ layer colour, colourNumbers layer colour ≠ [] := fun _ _ => List.cons_ne_nil _ _
  unfold styleSequence numbers
  rw [colourCode_eq "38" h.1 hshown.1]
  cases hback : style.background with
  | none =>
    show Except.ok (sequence (weightNumbers style ++ [_] ++ [])) = _
    rw [List.append_assoc, List.singleton_append, sequence, intercalate_intercalate _ (hne _ _)]
    rfl
  | some colour =>
    simp only [colourCode_eq "48" (h.2 colour hback) (hshown.2 colour hback)]
    show Except.ok (sequence (weightNumbers style ++ [_] ++ [_])) = _
    -- the second colour is opened behind the numbers of the first
    rw [List.append_assoc, List.singleton_append, sequence, intercalate_intercalate _ (hne _ _),
      intercalate_intercalate _ (hne _ _), List.append_nil]
    rfl

/-- A style with a number that is too long is not put in force. -/
theorem styleSequence_of_not_isShown {style : Style} (h : style.IsRgb) (hlong : ¬style.IsShown) :
    styleSequence style = .error .tooLongToShow := by
  unfold styleSequence
  by_cases hforeground : style.foreground.IsShown
  · rw [colourCode_eq "38" h.1 hforeground]
    -- the first colour is written, so that it is the second that cannot be
    cases hback : style.background with
    | none =>
      refine absurd ⟨hforeground, fun colour hcolour => ?_⟩ hlong
      rw [hback] at hcolour
      cases hcolour
    | some colour =>
      have hbackground : ¬colour.IsShown := by
        intro hshown
        refine hlong ⟨hforeground, fun other hother => ?_⟩
        rw [hback, Option.some.injEq] at hother
        rwa [← hother]
      simp only [colourCode_of_not_isShown "48" (h.2 colour hback) hbackground]
      rfl
  · rw [colourCode_of_not_isShown "38" h.1 hforeground]
    rfl

/-- A style that is put in force can be shown. -/
theorem isShown_of_styleSequence {style : Style} (h : style.IsRgb) {front : String}
    (hfront : styleSequence style = .ok front) : style.IsShown := by
  apply Classical.byContradiction
  intro hlong
  rw [styleSequence_of_not_isShown h hlong] at hfront
  cases hfront

/-- A sequence holds its numbers, joined. -/
theorem intercalate_eq_of_sequence_eq {codes codes' : List String}
    (h : sequence codes = sequence codes') : ";".intercalate codes = ";".intercalate codes' := by
  unfold sequence at h
  rw [String.append_left_inj, String.append_right_inj] at h
  exact h

/-! ## Reading a style -/

/-- Takes a number off the front, if it is there. -/
def takeOff (number : String) (left : List (List Char)) : Bool × List (List Char) :=
  if left.head? = some number.toList then (true, left.drop 1) else (false, left)

/-- Reads a colour off the front: what it colours, the mode of three channels, and the channels. -/
def readColour? (layer : String) : List (List Char) → Option (Colour × List (List Char))
  | what :: mode :: red :: green :: blue :: left =>
    if what = layer.toList ∧ mode = ['2'] then do
      let red ← Numeral.read? .decimal red
      let green ← Numeral.read? .decimal green
      let blue ← Numeral.read? .decimal blue
      return (.rgb red green blue, left)
    else none
  | _ => none

/-- The style that a sequence puts in force. -/
def readStyle? (codes : List Char) : Option Style := do
  let (bold, left) := takeOff "1" (codes.splitOn ';')
  let (italic, left) := takeOff "3" left
  let (foreground, left) ← readColour? "38" left
  if left.isEmpty then return { foreground, bold, italic }
  else
    let (background, _) ← readColour? "48" left
    return { foreground, background := some background, bold, italic }

theorem semicolon_not_mem_decimal (n : Int) : ';' ∉ (Numeral.decimal n).toList := by
  rw [Numeral.decimal, Numeral.render, String.toList_ofList]
  exact Numeral.not_mem_chars (by decide) (by decide) 0 n

theorem read?_decimal (n : Int) : Numeral.read? .decimal (Numeral.decimal n).toList = some n := by
  rw [Numeral.decimal, Numeral.render, String.toList_ofList]
  exact Numeral.read?_chars .decimal 0 n

theorem semicolon_not_mem_numbers {style : Style} {number : String} (h : number ∈ numbers style) :
    ';' ∉ number.toList := by
  have hcolour : ∀ layer colour, ';' ∉ layer.toList → number ∈ colourNumbers layer colour →
      ';' ∉ number.toList := by
    intro layer colour hlayer hnumber
    rcases List.mem_cons.mp hnumber with rfl | hnumber
    · exact hlayer
    · rcases List.mem_cons.mp hnumber with rfl | hnumber
      · decide
      · obtain ⟨n, _, rfl⟩ := List.mem_map.mp hnumber
        exact semicolon_not_mem_decimal n
  have hweight : ∀ (on : Bool) (weight : String), ';' ∉ weight.toList →
      number ∈ (if on then [weight] else []) → ';' ∉ number.toList := by
    intro on weight hfree hnumber
    cases on with
    | false => exact absurd hnumber List.not_mem_nil
    | true => rwa [List.mem_singleton.mp hnumber]
  unfold numbers weightNumbers at h
  rw [List.mem_append, List.mem_append, List.mem_append] at h
  rcases h with ((hbold | hitalic) | hforeground) | hbackground
  · exact hweight _ _ (by decide) hbold
  · exact hweight _ _ (by decide) hitalic
  · exact hcolour _ _ (by decide) hforeground
  · cases hback : style.background with
    | none =>
      rw [hback] at hbackground
      exact absurd hbackground List.not_mem_nil
    | some colour =>
      rw [hback] at hbackground
      exact hcolour _ _ (by decide) hbackground

/-- Cutting the numbers of a style at the semicolons gives them back. -/
theorem splitOn_numbers (style : Style) :
    (";".intercalate (numbers style)).toList.splitOn ';' = (numbers style).map String.toList := by
  rw [String.toList_intercalate]
  apply List.splitOn_intercalate
  · rw [List.forall_mem_map]
    exact fun number hnumber => semicolon_not_mem_numbers hnumber
  · unfold numbers colourNumbers
    simp

theorem readColour?_numbers (layer : String) {colour : Colour} (h : colour.IsRgb)
    (left : List (List Char)) :
    readColour? layer ((colourNumbers layer colour).map String.toList ++ left) =
      some (colour, left) := by
  obtain ⟨red, green, blue, rfl⟩ := h.exists_rgb
  simp [colourNumbers, Colour.rgb, readColour?, read?_decimal]

/-- A weight is taken off if it is there, as long as nothing else begins with its number. -/
theorem takeOff_weight (on : Bool) {weight : String} {left : List (List Char)}
    (hleft : left.head? ≠ some weight.toList) :
    takeOff weight ((if on then [weight] else []).map String.toList ++ left) = (on, left) := by
  cases on with
  | false => exact if_neg hleft
  | true => exact if_pos rfl

/-- **Styles lose nothing**: the numbers of a style read as the style, with channels of any size. -/
theorem readStyle?_numbers {style : Style} (h : style.IsRgb) :
    readStyle? (";".intercalate (numbers style)).toList = some style := by
  -- what is left once the weights are off, and in front of it the two weights
  let left := (colourNumbers "38" style.foreground).map String.toList ++
    ((style.background.map (colourNumbers "48")).getD []).map String.toList
  have hparts : (numbers style).map String.toList =
      (if style.bold then ["1"] else []).map String.toList ++
        ((if style.italic then ["3"] else []).map String.toList ++ left) := by
    simp only [numbers, weightNumbers, List.map_append, List.append_assoc, left]
  have hitalic : takeOff "3" ((if style.italic then ["3"] else []).map String.toList ++ left) =
      (style.italic, left) := by
    apply takeOff_weight
    show some "38".toList ≠ some "3".toList
    decide
  have hbold : takeOff "1" ((if style.bold then ["1"] else []).map String.toList ++
      ((if style.italic then ["3"] else []).map String.toList ++ left)) =
        (style.bold, (if style.italic then ["3"] else []).map String.toList ++ left) := by
    apply takeOff_weight
    cases style.italic with
    | false =>
      show some "38".toList ≠ some "1".toList
      decide
    | true =>
      show some "3".toList ≠ some "1".toList
      decide
  rw [readStyle?, splitOn_numbers, hparts]
  simp only [hbold, hitalic, left, readColour?_numbers "38" h.1]
  cases hback : style.background with
  | none =>
    show some (Style.mk style.foreground none style.bold style.italic) = some style
    rw [← hback]
  | some colour =>
    have hbackground := readColour?_numbers "48" (h.2 colour hback) []
    rw [List.append_nil] at hbackground
    have hmore : ((colourNumbers "48" colour).map String.toList).isEmpty = false := rfl
    simp only [Option.map_some, Option.getD_some, Option.bind_eq_bind, Option.bind_some, hmore,
      hbackground]
    show some (Style.mk style.foreground (some colour) style.bold style.italic) = some style
    rw [← hback]

/-! ## Reading a stream -/

/-- The tag that a palette shows in a style. -/
def tagOf? (palette : Palette) (style : Style) : Option Tag :=
  Tag.all.find? fun tag => palette tag = some style

/-- The segments that signs were made from. Between a style and its end a segment is `begun`: its
tag is known and its text up to here. Outside of them there is nothing but line breaks. -/
def recover (palette : Palette) :
    Option (Tag × List Char) → List Sign → Option (List Segment)
  | none, [] => some []
  | some _, [] => none
  | none, .shown c :: rest =>
    if c = '\n' then (recover palette none rest).map (Segment.newline :: ·) else none
  | none, .sequence codes :: rest =>
    match (readStyle? codes).bind (tagOf? palette) with
    | some tag => recover palette (some (tag, [])) rest
    | none => none
  | some (tag, begun), .shown c :: rest => recover palette (some (tag, begun ++ [c])) rest
  | some (tag, begun), .sequence _ :: rest =>
    (recover palette none rest).map (⟨String.ofList begun, tag⟩ :: ·)

theorem tagOf?_eq {palette : Palette} (hdistinct : palette.Distinct) {tag : Tag} {style : Style}
    (h : palette tag = some style) : tagOf? palette style = some tag := by
  cases hfound : tagOf? palette style with
  | none => exact absurd (decide_eq_true h) (List.find?_eq_none.mp hfound tag tag.mem_all)
  | some other =>
    have hother := List.find?_some hfound
    rw [hdistinct other tag style (of_decide_eq_true hother) h]

/-- The characters of a segment are collected one by one. -/
theorem recover_shown (palette : Palette) (tag : Tag) (begun cs : List Char) (rest : List Sign) :
    recover palette (some (tag, begun)) (cs.map .shown ++ rest) =
      recover palette (some (tag, begun ++ cs)) rest := by
  induction cs generalizing begun with
  | nil => rw [List.append_nil]; rfl
  | cons c more ih =>
    rw [List.map_cons, List.cons_append, recover, ih, List.append_assoc, List.singleton_append]

/-- From the sequence of its style to the end of every style, a segment is read as it was. -/
theorem recover_block {palette : Palette} (hdistinct : palette.Distinct) {segment : Segment}
    {style : Style} (hstyle : palette segment.tag = some style) (hrgb : style.IsRgb)
    (rest : List Sign) :
    recover palette none (.sequence (";".intercalate (numbers style)).toList ::
        (segment.text.toList.map .shown ++ .sequence ['0'] :: rest)) =
      (recover palette none rest).map (segment :: ·) := by
  rw [recover, readStyle?_numbers hrgb, Option.bind_some, tagOf?_eq hdistinct hstyle]
  show recover palette (some (segment.tag, [])) _ = _
  rw [recover_shown, List.nil_append, recover, String.ofList_toList]

/-- No text has an escape of its own. -/
def Unescaped (segments : List Segment) : Prop :=
  ∀ segment ∈ segments, escape ∉ segment.text.toList

/-- A segment that is just a line break ends a row. -/
def BreaksPlain (segments : List Segment) : Prop :=
  ∀ segment ∈ segments, segment.text = "\n" → segment.tag = .plain

/-- **A stream is read back from its coloured text**, segment by segment, empty ones included. -/
theorem recover_render {palette : Palette} (hdistinct : palette.Distinct) {segments : List Segment}
    (hescape : Unescaped segments) (hcovers : palette.Covers segments)
    (hbreaks : BreaksPlain segments) {text : String} (h : render palette segments = .ok text) :
    recover palette none (signs text.toList) = some segments := by
  induction segments generalizing text with
  | nil =>
    cases h
    simp [signs, recover]
  | cons segment rest ih =>
    unfold Unescaped at hescape
    unfold Palette.Covers at hcovers
    unfold BreaksPlain at hbreaks
    rw [List.forall_mem_cons] at hescape hcovers hbreaks
    obtain ⟨out, later, hout, hlater, rfl⟩ := render_cons_eq_ok_iff.mp h
    have hrest := ih hescape.2 hcovers.2 hbreaks.2 hlater
    rw [String.toList_append]
    rcases signs_block hout hescape.1 later.toList with
      ⟨hbreak, hsigns⟩ | ⟨_, style, codes, hstyle, hsequence, hsigns⟩
    · have hnewline : segment = Segment.newline := by
        obtain ⟨shown, tag⟩ := segment
        rw [Segment.newline, Segment.mk.injEq]
        exact ⟨hbreak, hbreaks.1 hbreak⟩
      rw [hsigns, hnewline, recover, if_pos rfl, hrest]
      rfl
    · obtain ⟨style', hstyle', hrgb⟩ := hcovers.1
      rw [hstyle, Option.some.injEq] at hstyle'
      subst hstyle'
      rw [styleSequence_eq hrgb (isShown_of_styleSequence hrgb hsequence), Except.ok.injEq]
        at hsequence
      rw [hsigns, ← intercalate_eq_of_sequence_eq hsequence, recover_block hdistinct hstyle hrgb,
        hrest]
      rfl

/-! ## Coloured text -/

/-- A segment of a style of red, green and blue can be written, or the style is too long. -/
theorem block_cases_of_isRgb {palette : Palette} {segment : Segment} {style : Style}
    (hstyle : palette segment.tag = some style) (hrgb : style.IsRgb) :
    ((segment.text ≠ "\n" → style.IsShown) ∧ ∃ out, block palette segment = .ok out) ∨
      (segment.text ≠ "\n" ∧ ¬style.IsShown ∧ block palette segment = .error .tooLongToShow) := by
  unfold block
  by_cases hbreak : segment.text = "\n"
  · exact Or.inl ⟨fun h => absurd hbreak h, _, if_pos hbreak⟩
  · simp only [if_neg hbreak, hstyle]
    by_cases hshown : style.IsShown
    · refine Or.inl ⟨fun _ => hshown, ?_⟩
      rw [styleSequence_eq hrgb hshown]
      exact ⟨_, rfl⟩
    · refine Or.inr ⟨hbreak, hshown, ?_⟩
      rw [styleSequence_of_not_isShown hrgb hshown]
      rfl

theorem exists_render_of_covers {palette : Palette} {segments : List Segment}
    (h : palette.Covers segments) (hshown : palette.IsShown segments) :
    ∃ text, render palette segments = .ok text := by
  apply exists_render_of_blocks
  intro segment hsegment
  obtain ⟨style, hstyle, hrgb⟩ := h segment hsegment
  rcases block_cases_of_isRgb hstyle hrgb with ⟨_, hout⟩ | ⟨hbreak, hlong, _⟩
  · exact hout
  · exact absurd (hshown segment hsegment hbreak style hstyle) hlong

theorem render_of_not_isShown {palette : Palette} {segments : List Segment}
    (h : palette.Covers segments) (hlong : ¬palette.IsShown segments) :
    render palette segments = .error .tooLongToShow := by
  apply render_eq_error
  · intro segment hsegment
    obtain ⟨style, hstyle, hrgb⟩ := h segment hsegment
    rcases block_cases_of_isRgb hstyle hrgb with ⟨_, hout⟩ | ⟨_, _, hfault⟩
    · exact Or.inl hout
    · exact Or.inr hfault
  · -- if no segment failed, every style that is written could be shown
    apply Classical.byContradiction
    intro hnone
    refine hlong fun segment hsegment hbreak style hstyle => ?_
    obtain ⟨style', hstyle', hrgb⟩ := h segment hsegment
    rw [hstyle, Option.some.injEq] at hstyle'
    subst hstyle'
    rcases block_cases_of_isRgb hstyle hrgb with ⟨hshown, _⟩ | ⟨_, _, hfault⟩
    · exact hshown hbreak
    · exact absurd ⟨segment, hsegment, hfault⟩ hnone

/-- The styles of the scheme with colours differ in their foreground. -/
theorem distinct_monokai : Scheme.monokai.palette.Distinct := by
  have hforeground : ∀ tag other, (Scheme.monokai.style tag).foreground =
      (Scheme.monokai.style other).foreground → tag = other := by
    intro tag other
    cases tag <;> cases other <;> decide
  intro tag other style htag hother
  apply hforeground
  rw [Option.some.inj htag, Option.some.inj hother]

/-- **Coloured text can be read back.** Segments without an escape, each with a tag that has a style
of red, green and blue, are written in colour if the channels of every style that is written can be
shown, and are refused otherwise. Without its escape sequences what is written is their text. If no
two tags have the same style, which holds for the scheme with colours, and every segment that is just
a line break ends a row, then no other such stream is written alike: the text tells the segments,
their texts, tags and ends, also the empty ones. -/
theorem render_can_be_read :
    Scheme.monokai.palette.Distinct ∧
    ∀ (palette : Palette) (segments : List Segment), Unescaped segments → palette.Covers segments →
      (palette.IsShown segments →
        ∃ text, render palette segments = .ok text ∧ strip text = Segment.joined segments ∧
          (palette.Distinct → BreaksPlain segments →
            ∀ others, Unescaped others → palette.Covers others → BreaksPlain others →
              render palette others = .ok text → others = segments)) ∧
      (¬palette.IsShown segments → render palette segments = .error .tooLongToShow) := by
  refine ⟨distinct_monokai, ?_⟩
  intro palette segments hescape hcovers
  refine ⟨?_, render_of_not_isShown hcovers⟩
  intro hshown
  obtain ⟨text, htext⟩ := exists_render_of_covers hcovers hshown
  refine ⟨text, htext, strip_render htext hescape, ?_⟩
  intro hdistinct hbreaks others hescape' hcovers' hbreaks' htext'
  have hfirst := recover_render hdistinct hescape hcovers hbreaks htext
  have hsecond := recover_render hdistinct hescape' hcovers' hbreaks' htext'
  exact Option.some.inj (hsecond.symm.trans hfirst)

/-- Two styles that differ in their weight alone, with a negative channel and one that is no byte.
The stream has empty segments side by side, a row's end, and a line break inside a text. -/
theorem render_can_be_read_weights :
    let palette : Palette := fun tag =>
      match tag with
      | .keyword => some { foreground := .rgb (-1) 0 300, bold := true }
      | .plain => some { foreground := .rgb (-1) 0 300, italic := true }
      | _ => none
    let segments : List Segment :=
      [⟨"", .plain⟩, ⟨"", .keyword⟩, Segment.newline, ⟨"a\nb", .keyword⟩]
    Unescaped segments ∧ palette.Covers segments ∧ palette.IsShown segments ∧ palette.Distinct ∧
      BreaksPlain segments ∧
      ∃ text, render palette segments = .ok text ∧ strip text = "\na\nb" ∧
        ∀ others, Unescaped others → palette.Covers others → BreaksPlain others →
          render palette others = .ok text → others = segments := by
  intro palette segments
  have hescape : Unescaped segments := by
    unfold Unescaped
    decide
  have hcovers : palette.Covers segments := by
    have hbare : ∀ colour, (none : Option Colour) = some colour → colour.IsRgb := nofun
    intro segment hsegment
    simp only [segments, List.mem_cons, List.not_mem_nil, or_false] at hsegment
    rcases hsegment with rfl | rfl | rfl | rfl
    · exact ⟨_, rfl, rfl, hbare⟩
    · exact ⟨_, rfl, rfl, hbare⟩
    · exact ⟨_, rfl, rfl, hbare⟩
    · exact ⟨_, rfl, rfl, hbare⟩
  have hshown : palette.IsShown segments := by
    have hchannels : Colour.IsShown (.rgb (-1) 0 300) := by
      unfold Colour.IsShown
      decide
    intro segment _ _ style hstyle
    cases htag : segment.tag <;> rw [htag] at hstyle <;> cases hstyle
    all_goals exact ⟨hchannels, nofun⟩
  have hdistinct : palette.Distinct := by
    have hweight : ∀ tag style, palette tag = some style →
        tag = if style.bold then .keyword else .plain := by
      intro tag style h
      cases tag <;> cases h <;> rfl
    intro tag other style htag hother
    rw [hweight tag style htag, hweight other style hother]
  have hbreaks : BreaksPlain segments := by
    unfold BreaksPlain
    decide
  obtain ⟨hread, _⟩ := render_can_be_read.2 palette segments hescape hcovers
  obtain ⟨text, htext, hstrip, hread⟩ := hread hshown
  exact ⟨hescape, hcovers, hshown, hdistinct, hbreaks, text, htext, hstrip, hread hdistinct hbreaks⟩

/-- One letter in a colour with a channel of 4301 digits. -/
theorem render_beyond_digits :
    let palette : Palette := fun _ => some { foreground := .rgb (Int.pow 10 4300) 0 0 }
    Unescaped [⟨"a", .plain⟩] ∧ palette.Covers [⟨"a", .plain⟩] ∧
      ¬∃ text, render palette [⟨"a", .plain⟩] = .ok text := by
  intro palette
  have hcovers : palette.Covers [⟨"a", .plain⟩] := by
    intro segment _
    exact ⟨_, rfl, rfl, nofun⟩
  have hlong : ¬palette.IsShown [⟨"a", .plain⟩] := by
    intro hshown
    have hstyle := hshown _ List.mem_cons_self (by decide) _ rfl
    exact Capacity.not_isShown_pow (hstyle.1 _ List.mem_cons_self)
  refine ⟨?_, hcovers, ?_⟩
  · unfold Unescaped
    decide
  · rw [render_of_not_isShown hcovers hlong]
    rintro ⟨text, h⟩
    cases h

end Terminal

end Chip8
