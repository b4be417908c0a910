import Chip8.Proofs.LogSteps
import Chip8.Proofs.Signs

/-!
# Loggers in colour

On a terminal a logger colours the severity of every message. Colour is decided when a logger is made,
and after that it shows in the badge alone, so that a logger in colour and one without go through the
same states side by side. This file says that they also write the same text, but for the sequences of
the colours.

`Logger.uncoloured` takes the colours from a logger. It commutes with what a step leaves behind
(`Logger.step_snd_uncoloured`) and, once the sequences are taken out, with what a step writes
(`Logger.step_uncoloured`). For that nothing written may hold an escape of its own. Names, levels and
messages are the caller's; a stamp is digits and signs (`Stamp.clean_render`).

A badge is coloured after it is padded, and it is reset whether or not its level has a colour. That is
all that is known about it in `Logger.strip_line`, where `RESET` is a level like any other.

The main statement is `Logger.colours_add_sequences_only`.
-/

namespace Chip8

/-! ## Stripping text piece by piece -/

namespace Terminal

/-- The characters that a terminal shows of a text. -/
def shown (cs : List Char) : List Char :=
  (signs cs).filterMap Sign.char?

theorem shown_append {cs : List Char} (h : escape ∉ cs) (rest : List Char) :
    shown (cs ++ rest) = cs ++ shown rest := by
  unfold shown
  rw [signs_append h, List.filterMap_append, List.filterMap_map]
  have hshown : cs.filterMap (Sign.char? ∘ Sign.shown) = cs := List.filterMap_some
  rw [hshown]

theorem shown_sequence {codes : List String} (h : codeLike (";".intercalate codes) = true)
    (rest : List Char) : shown ((sequence codes).toList ++ rest) = shown rest := by
  unfold shown
  rw [signs_sequence h]
  rfl

theorem strip_of_not_mem {text : String} (h : escape ∉ text.toList) : strip text = text := by
  have hshown : shown text.toList = text.toList := by
    rw [← List.append_nil text.toList, shown_append h]
    simp [shown, signs]
  show String.ofList (shown text.toList) = text
  rw [hshown, String.ofList_toList]

end Terminal

/-! ## Stamps -/

theorem Text.clean_alignRight (width : Nat) {text : String} (h : clean text = true) :
    clean (alignRight width text) = true :=
  clean_append (clean_blanks _) h

namespace Stamp

theorem clean_magnitude (ticks : Int) : Text.clean (magnitude ticks) = true := by
  unfold magnitude
  split
  · exact Text.clean_append (Text.clean_append (Text.clean_numeral _ _ _) (by decide))
      (Text.clean_numeral _ _ _)
  · decide

theorem clean_seconds (ticks : Int) : Text.clean (seconds ticks) = true := by
  have hsign : Text.clean (String.ofList (Numeral.sign ticks)) = true := by
    unfold Numeral.sign
    split
    · decide
    · decide
  exact Text.clean_append hsign (clean_magnitude ticks)

theorem clean_render (start now : Int) : Text.clean (render start now) = true :=
  Text.clean_append
    (Text.clean_append (by decide) (Text.clean_alignRight 8 (clean_seconds (elapsed start now))))
    (by decide)

end Stamp

namespace Logger

/-- The logger with its colours taken from it. -/
def uncoloured (logger : Logger) : Logger :=
  { logger with colours := false }

/-- What came of a step, with the sequences taken out of the text. -/
def Entry.stripped (entry : Entry) : Entry :=
  { entry with out := Terminal.strip entry.out }

/-- Nothing that the step has a logger write holds an escape. The level of a threshold is never
written. -/
def Step.Escapeless : Step → Prop
  | .log level message => Terminal.escape ∉ level.toList ∧ Terminal.escape ∉ message.toList
  | .setLevel _ => True

/-! ## Lines -/

/-- A tint is nothing, or a sequence. -/
theorem tint_cases (level : String) :
    tint level = "" ∨
      ∃ code, Terminal.codeLike code = true ∧ tint level = Terminal.sequence [code] := by
  unfold tint
  split
  · exact Or.inr ⟨"36", by decide, rfl⟩
  · exact Or.inr ⟨"32", by decide, rfl⟩
  · exact Or.inr ⟨"33", by decide, rfl⟩
  · exact Or.inr ⟨"31", by decide, rfl⟩
  · exact Or.inr ⟨"35", by decide, rfl⟩
  · exact Or.inr ⟨"0", by decide, rfl⟩
  · exact Or.inl rfl

theorem shown_tint (level : String) (rest : List Char) :
    Terminal.shown ((tint level).toList ++ rest) = Terminal.shown rest := by
  rcases tint_cases level with hnone | ⟨code, hcode, htint⟩
  · rw [hnone]
    rfl
  · rw [htint]
    apply Terminal.shown_sequence
    rw [String.intercalate_singleton]
    exact hcode

theorem escape_not_mem_badge {level : String} (h : Terminal.escape ∉ level.toList) :
    Terminal.escape ∉ ("[" ++ Text.alignRight 8 level ++ "]").toList := by
  have hblanks := Terminal.escape_not_mem (Text.clean_blanks (8 - level.length))
  simp only [Text.alignRight, String.toList_append, List.mem_append, not_or]
  exact ⟨⟨by decide, hblanks, h⟩, by decide⟩

/-- Of a badge the terminal shows what is there without colours. -/
theorem shown_badge (logger : Logger) {level : String} (h : Terminal.escape ∉ level.toList)
    (rest : List Char) :
    Terminal.shown ((logger.badge level).toList ++ rest) =
      (logger.uncoloured.badge level).toList ++ Terminal.shown rest := by
  have hplain := escape_not_mem_badge h
  show _ = ("[" ++ Text.alignRight 8 level ++ "]").toList ++ Terminal.shown rest
  unfold badge
  split
  · have hreset : Terminal.shown (Terminal.reset.toList ++ rest) = Terminal.shown rest :=
      Terminal.shown_sequence (by decide) rest
    rw [String.toList_append, List.append_assoc, String.toList_append, List.append_assoc, shown_tint,
      Terminal.shown_append hplain, hreset]
  · exact Terminal.shown_append hplain rest

theorem strip_line (logger : Logger) {stamp level message : String}
    (hname : Terminal.escape ∉ logger.name.toList) (hstamp : Terminal.escape ∉ stamp.toList)
    (hlevel : Terminal.escape ∉ level.toList) (hmessage : Terminal.escape ∉ message.toList) :
    Terminal.strip (logger.line stamp level message) = logger.uncoloured.line stamp level message ∧
      Terminal.escape ∉ (logger.uncoloured.line stamp level message).toList := by
  have hrest : Terminal.escape ∉ ("[" ++ logger.name ++ "] " ++ message ++ "\n").toList := by
    simp only [String.toList_append, List.mem_append, not_or]
    exact ⟨⟨⟨⟨by decide, hname⟩, by decide⟩, hmessage⟩, by decide⟩
  have hshape : ∀ other : Logger, (other.line stamp level message).toList =
      stamp.toList ++ ((other.badge level).toList ++
        ("[" ++ other.name ++ "] " ++ message ++ "\n").toList) := by
    intro other
    simp only [line, String.toList_append, List.append_assoc]
  constructor
  · apply String.toList_inj.mp
    rw [hshape logger.uncoloured]
    show (String.ofList (Terminal.shown _)).toList = _
    rw [String.toList_ofList, hshape logger, Terminal.shown_append hstamp, shown_badge logger hlevel,
      ← List.append_nil ("[" ++ logger.name ++ "] " ++ message ++ "\n").toList,
      Terminal.shown_append hrest]
    simp [Terminal.shown, Terminal.signs, uncoloured]
  · rw [hshape logger.uncoloured, List.mem_append, List.mem_append, not_or, not_or]
    exact ⟨hstamp, escape_not_mem_badge hlevel, hrest⟩

/-! ## Steps -/

theorem stamp_uncoloured (logger : Logger) :
    logger.uncoloured.stamp = (logger.stamp.1, logger.stamp.2.uncoloured) := by
  cases h : logger.stamps with
  | false => rw [logger.stamp_of_bare h, logger.uncoloured.stamp_of_bare h]
  | true =>
    rw [logger.stamp_of_stamps h, logger.uncoloured.stamp_of_stamps h]
    simp only [uncoloured]

theorem escape_not_mem_stamp {logger : Logger} {stamp : String} (h : logger.stamp.1 = .ok stamp) :
    Terminal.escape ∉ stamp.toList := by
  cases hstamps : logger.stamps with
  | false =>
    rw [logger.stamp_of_bare hstamps] at h
    cases h
    decide
  | true =>
    rw [logger.stamp_of_stamps hstamps] at h
    cases hread : logger.clock.read.1 with
    | error fault =>
      rw [hread] at h
      cases h
    | ok now =>
      rw [hread] at h
      cases h
      exact Terminal.escape_not_mem (Stamp.clean_render logger.start now)

/-- Without its colours a logger writes the same in a step, without the sequences, and no escape. -/
theorem step_uncoloured {logger : Logger} (hname : Terminal.escape ∉ logger.name.toList) {s : Step}
    (hs : s.Escapeless) :
    (logger.uncoloured.step s).1 = (logger.step s).1.map Entry.stripped ∧
      ∀ entry, (logger.uncoloured.step s).1 = .ok entry → Terminal.escape ∉ entry.out.toList := by
  have hempty : Terminal.strip "" = "" := Terminal.strip_of_not_mem (by decide)
  have hnothing : ∀ (level : String) (entry : Entry),
      (.ok ⟨"", level⟩ : Except Fault Entry) = .ok entry → Terminal.escape ∉ entry.out.toList := by
    intro level entry hentry
    cases hentry
    show Terminal.escape ∉ "".toList
    decide
  cases s with
  | log level message =>
    by_cases h : logger.admits level = true
    · rw [logger.step_log_of_admits h, logger.uncoloured.step_log_of_admits h, stamp_uncoloured]
      cases hstamp : logger.stamp.1 with
      | error fault =>
        refine ⟨rfl, fun entry hentry => ?_⟩
        cases hentry
      | ok stamp =>
        obtain ⟨hline, hplain⟩ :=
          logger.strip_line hname (escape_not_mem_stamp hstamp) hs.1 hs.2
        refine ⟨?_, fun entry hentry => ?_⟩
        · simp only [Except.map, Entry.stripped, hline]
          rfl
        · cases hentry
          exact hplain
    · rw [logger.step_log_of_not_admits h, logger.uncoloured.step_log_of_not_admits h]
      refine ⟨?_, hnothing _⟩
      simp only [Except.map, Entry.stripped, hempty]
      rfl
  | setLevel level =>
    by_cases h : Text.uppercase level ∈ Severity.all.map Severity.name
    · rw [step_setLevel_of_mem h, step_setLevel_of_mem h]
      refine ⟨?_, hnothing _⟩
      simp only [Except.map, Entry.stripped, hempty]
    · rw [step_setLevel_of_not_mem h, step_setLevel_of_not_mem h]
      refine ⟨rfl, fun entry hentry => ?_⟩
      cases hentry

theorem reads_uncoloured (logger : Logger) (s : Step) :
    logger.uncoloured.reads s = logger.reads s := by
  cases s with
  | log level message => rfl
  | setLevel level => rfl

/-- Whatever is written, with and without colours a step leaves the same behind. -/
theorem step_snd_uncoloured (logger : Logger) (s : Step) :
    (logger.uncoloured.step s).2 = (logger.step s).2.uncoloured := by
  rw [step_snd, step_snd, reads_uncoloured]
  rfl

/-! ## Runs -/

theorem after_uncoloured (logger : Logger) (steps : List Step) :
    logger.uncoloured.after steps = (logger.after steps).uncoloured := by
  induction steps generalizing logger with
  | nil => rfl
  | cons s rest ih =>
    show (logger.uncoloured.step s).2.after rest = _
    rw [step_snd_uncoloured]
    exact ih _

theorem readings_uncoloured (logger : Logger) (steps : List Step) :
    logger.uncoloured.readings steps = logger.readings steps := by
  induction steps generalizing logger with
  | nil => rfl
  | cons s rest ih => rw [readings, readings, reads_uncoloured, step_snd_uncoloured, ih]

theorem run_uncoloured {logger : Logger} (hname : Terminal.escape ∉ logger.name.toList)
    {steps : List Step} (hsteps : ∀ s ∈ steps, s.Escapeless) :
    logger.uncoloured.run steps = (logger.run steps).map (Except.map Entry.stripped) ∧
      ∀ entry, .ok entry ∈ logger.uncoloured.run steps → Terminal.escape ∉ entry.out.toList := by
  induction steps generalizing logger with
  | nil => exact ⟨rfl, fun entry hentry => absurd hentry List.not_mem_nil⟩
  | cons s rest ih =>
    rw [List.forall_mem_cons] at hsteps
    obtain ⟨hstep, hplain⟩ := step_uncoloured hname hsteps.1
    -- the name is not among what a step changes
    have hnext : Terminal.escape ∉ (logger.step s).2.name.toList := by
      rw [step_snd]
      exact hname
    obtain ⟨hrun, hclean⟩ := ih hnext hsteps.2
    constructor
    · rw [run, step_snd_uncoloured, hrun, hstep]
      rfl
    · intro entry hentry
      rw [run, step_snd_uncoloured, List.mem_cons] at hentry
      rcases hentry with hfirst | hlater
      · exact hplain entry hfirst.symm
      · exact hclean entry hlater

/-- Loggers made alike but for their colours: both are refused, or one is the other without colours. -/
theorem create_uncoloured (options : Options) {colours : Bool} {sink : Sink}
    (hplain : (colours && sink.isTerminal) = false) :
    (∃ fault, create { options with colours := true, sink := .terminal } = .error fault ∧
      create { options with colours := colours, sink := sink } = .error fault) ∨
    ∃ coloured, create { options with colours := true, sink := .terminal } = .ok coloured ∧
      create { options with colours := colours, sink := sink } = .ok coloured.uncoloured ∧
      coloured.colours = true ∧ coloured.name = options.name ∧
      coloured.clock = options.clock.next := by
  by_cases hread : Precision.inRange Clock.ticksPerSecond options.clock.now = true
  · have hmade := create_eq_ok { options with colours := true, sink := .terminal } hread
    refine Or.inr ⟨_, hmade, ?_, rfl, rfl, rfl⟩
    rw [create_eq_ok { options with colours := colours, sink := sink } hread]
    simp only [hplain, uncoloured]
  · exact Or.inl ⟨_, create_eq_error { options with colours := true, sink := .terminal } hread,
      create_eq_error { options with colours := colours, sink := sink } hread⟩

/-- **Colours add sequences and nothing else.** Two loggers are made alike, but one for a terminal and
with colours, and the other without colours, for a terminal or not. Names and messages hold no escape,
and neither do the levels that messages are given. Then both are refused for the same reason, or both
are made. In every step the same fault comes of both, or the same level and the same text, once the
sequences are taken out; the plain text never holds an escape. After any steps whatever both are at the
same level, and they have read their clocks equally often. -/
theorem colours_add_sequences_only (options : Options)
    (hname : Terminal.escape ∉ options.name.toList) {colours : Bool} {sink : Sink}
    (hplain : (colours && sink.isTerminal) = false) {steps : List Step}
    (hsteps : ∀ s ∈ steps, s.Escapeless) :
    (∃ fault, create { options with colours := true, sink := .terminal } = .error fault ∧
      create { options with colours := colours, sink := sink } = .error fault) ∨
    ∃ coloured plain, create { options with colours := true, sink := .terminal } = .ok coloured ∧
      create { options with colours := colours, sink := sink } = .ok plain ∧
      coloured.colours = true ∧ plain.colours = false ∧
      plain.run steps = (coloured.run steps).map (Except.map Entry.stripped) ∧
      (∀ entry, .ok entry ∈ plain.run steps → Terminal.escape ∉ entry.out.toList) ∧
      ∀ taken : List Step,
        (plain.after taken).level = (coloured.after taken).level ∧
        plain.readings taken = coloured.readings taken ∧
        (plain.after taken).clock = Clock.next^[plain.readings taken] options.clock.next ∧
        (coloured.after taken).clock = Clock.next^[coloured.readings taken] options.clock.next := by
  rcases create_uncoloured options hplain with hfault | ⟨coloured, hmade, hbare, hon, hnamed, hclock⟩
  · exact Or.inl hfault
  rw [← hnamed] at hname
  obtain ⟨hrun, hclean⟩ := run_uncoloured hname hsteps
  refine Or.inr ⟨coloured, coloured.uncoloured, hmade, hbare, hon, rfl, hrun, hclean, ?_⟩
  intro taken
  refine ⟨?_, coloured.readings_uncoloured taken, ?_, ?_⟩
  · rw [after_uncoloured]
    rfl
  · rw [clock_after, ← hclock]
    rfl
  · rw [clock_after, ← hclock]

/-- One level is the name of the reset and the other has no colour. A message looks like the rest of a
sequence, and a threshold with an escape in it is refused. The clock goes on with each message. -/
theorem colours_add_sequences_only_reset :
    let options : Options := { name := "m", clock := ⟨[0, 1024, 2048]⟩ }
    let steps : List Step := [.log "reset" "[0m", .setLevel "\x1b[0m", .log "odd" "m"]
    ∃ coloured plain, create { options with colours := true, sink := .terminal } = .ok coloured ∧
      create { options with colours := true, sink := .bare } = .ok plain ∧
      plain.run steps = (coloured.run steps).map (Except.map Entry.stripped) ∧
      (∀ entry, .ok entry ∈ plain.run steps → Terminal.escape ∉ entry.out.toList) ∧
      plain.readings steps = coloured.readings steps := by
  intro options steps
  have hread : Precision.inRange Clock.ticksPerSecond 0 = true := by decide +kernel
  have hsteps : ∀ s ∈ steps, s.Escapeless := by
    intro s hs
    simp only [steps, List.mem_cons, List.not_mem_nil, or_false] at hs
    rcases hs with rfl | rfl | rfl
    · exact ⟨by decide, by decide⟩
    · trivial
    · exact ⟨by decide, by decide⟩
  have hplain : (true && Sink.bare.isTerminal) = false := rfl
  rcases colours_add_sequences_only options (by decide) hplain hsteps with
    ⟨fault, hfault, _⟩ | ⟨coloured, plain, hmade, hbare, _, _, hrun, hclean, hstates⟩
  · cases hfault.symm.trans (create_eq_ok { options with colours := true, sink := .terminal } hread)
  · exact ⟨coloured, plain, hmade, hbare, hrun, hclean, (hstates steps).2.1⟩

end Logger

end Chip8
