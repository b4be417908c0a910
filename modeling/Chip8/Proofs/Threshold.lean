import Chip8.Proofs.LogSteps

/-!
# Higher and lower thresholds

Two loggers are made alike but for their levels, and then asked the same things. The levels can be any
text, since a new logger takes all of them and ranks those it does not know with `INFO`; a threshold
that is set later has to be the name of a severity. This file compares what the two write.

`Logger.Above` is the relation between them, and `Logger.Above.step` and `Logger.Above.after` say that
it is kept: they never differ in anything but their levels, the one of the first not ranking lower. So
in a step the first writes what the second does, or nothing (`Logger.Above.out_eq_or`). Once both have
taken a threshold they are the same logger (`Logger.Above.after_eq`), for good.

It matters that they write no stamps. With stamps a message that only one of them writes moves its
clock on, and later messages are stamped differently.

The main statement is `Logger.higher_threshold_only_silences`.
-/

namespace Chip8

namespace Logger

/-- Two loggers without stamps that differ in their levels alone, where the level of the first does
not rank lower. -/
structure Above (high low : Logger) : Prop where
  bare : low.stamps = false
  same : high = { low with level := high.level }
  rank : Severity.rankOf low.level ≤ Severity.rankOf high.level

/-- Without stamps a message changes nothing in a logger. -/
theorem step_log_of_bare {logger : Logger} (h : logger.stamps = false) (level message : String) :
    logger.step (.log level message) =
      (.ok ⟨if logger.admits level then logger.line "" level message else "", logger.level⟩,
        logger) := by
  by_cases hadmits : logger.admits level = true
  · rw [logger.step_log_of_admits hadmits, logger.stamp_of_bare h, if_pos hadmits]
    rfl
  · rw [logger.step_log_of_not_admits hadmits, if_neg hadmits]

theorem line_ne_empty (logger : Logger) (stamp level message : String) :
    logger.line stamp level message ≠ "" := by
  intro h
  have hlast := congrArg (fun text => text.toList.getLast?) h
  simp [line] at hlast

/-- A message is left out exactly if it ranks below the threshold. -/
theorem out_eq_empty_iff {logger : Logger} (h : logger.stamps = false) (level message : String) :
    (logger.step (.log level message)).1.map Entry.out = .ok "" ↔
      Severity.rankOf (Text.uppercase level) < Severity.rankOf logger.level := by
  rw [step_log_of_bare h, ← Nat.not_le]
  by_cases hadmits : logger.admits level = true
  · rw [if_pos hadmits]
    refine iff_of_false ?_ (not_not_intro (of_decide_eq_true hadmits))
    intro hempty
    exact logger.line_ne_empty "" level message (Except.ok.inj hempty)
  · rw [if_neg hadmits]
    exact iff_of_true rfl fun hle => hadmits (decide_eq_true hle)

namespace Above

variable {high low : Logger}

theorem bare_high (h : Above high low) : high.stamps = false := by
  rw [h.same]
  exact h.bare

/-- The line of a message does not show the threshold. -/
theorem line_eq (h : Above high low) (stamp level message : String) :
    high.line stamp level message = low.line stamp level message := by
  rw [h.same]
  rfl

theorem admits_of_admits (h : Above high low) {level : String} (hhigh : high.admits level = true) :
    low.admits level = true := by
  unfold admits at hhigh ⊢
  rw [decide_eq_true_iff] at hhigh ⊢
  exact Nat.le_trans h.rank hhigh

/-- A new threshold makes the two loggers one, and one that is refused changes neither. -/
theorem step_setLevel (h : Above high low) (level : String) :
    (high.step (.setLevel level)).1 = (low.step (.setLevel level)).1 ∧
      Above (high.step (.setLevel level)).2 (low.step (.setLevel level)).2 := by
  by_cases hname : Text.uppercase level ∈ Severity.all.map Severity.name
  · rw [step_setLevel_of_mem hname, step_setLevel_of_mem hname]
    refine ⟨rfl, h.bare, ?_, Nat.le_refl _⟩
    show { high with level := Text.uppercase level } = { low with level := Text.uppercase level }
    rw [h.same]
  · rw [step_setLevel_of_not_mem hname, step_setLevel_of_not_mem hname]
    exact ⟨rfl, h⟩

theorem step (h : Above high low) (s : Step) : Above (high.step s).2 (low.step s).2 := by
  cases s with
  | log level message =>
    rw [step_log_of_bare h.bare_high, step_log_of_bare h.bare]
    exact h
  | setLevel level => exact (h.step_setLevel level).2

/-- In a step the first logger writes what the second does, or nothing. -/
theorem out_eq_or (h : Above high low) (s : Step) :
    (high.step s).1.map Entry.out = (low.step s).1.map Entry.out ∨
      (high.step s).1.map Entry.out = .ok "" := by
  cases s with
  | log level message =>
    rw [step_log_of_bare h.bare_high, step_log_of_bare h.bare]
    by_cases hhigh : high.admits level = true
    · refine Or.inl ?_
      rw [if_pos hhigh, if_pos (h.admits_of_admits hhigh), h.line_eq]
      rfl
    · refine Or.inr ?_
      rw [if_neg hhigh]
      rfl
  | setLevel level =>
    refine Or.inl ?_
    rw [(h.step_setLevel level).1]

theorem after (h : Above high low) (steps : List Step) :
    Above (high.after steps) (low.after steps) := by
  induction steps generalizing high low with
  | nil => exact h
  | cons s rest ih => exact ih (h.step s)

/-- Behind a threshold that was taken there is only one logger left. -/
theorem after_eq (h : Above high low) {steps : List Step} (hset : lastThreshold? steps ≠ none) :
    high.after steps = low.after steps := by
  obtain ⟨capitals, hcapitals⟩ := Option.ne_none_iff_exists'.mp hset
  have hlevel : (high.after steps).level = (low.after steps).level := by
    rw [level_after, level_after, hcapitals]
    rfl
  rw [(h.after steps).same, hlevel]

/-- From the first threshold on that is taken, the same comes of every step. -/
theorem step_eq (h : Above high low) {earlier : List Step} {s : Step}
    (hset : lastThreshold? (earlier ++ [s]) ≠ none) :
    ((high.after earlier).step s).1 = ((low.after earlier).step s).1 := by
  by_cases hearlier : lastThreshold? earlier = none
  · -- nothing was taken before, so that this is the step that sets it
    cases s with
    | log level message =>
      rw [lastThreshold?_concat, hearlier] at hset
      exact absurd rfl hset
    | setLevel level => exact ((h.after earlier).step_setLevel level).1
  · rw [h.after_eq hearlier]

end Above

/-- Loggers made alike but for their levels. -/
theorem above_of_create (options : Options) (hstamps : options.stamps = false) {above below : String}
    (hrank : Severity.rankOf (Text.uppercase below) ≤ Severity.rankOf (Text.uppercase above))
    {high low : Logger} (hhigh : create { options with level := above } = .ok high)
    (hlow : create { options with level := below } = .ok low) :
    high.level = Text.uppercase above ∧ low.level = Text.uppercase below ∧ Above high low := by
  by_cases hread : Precision.inRange Clock.ticksPerSecond options.clock.now = true
  · rw [create_eq_ok { options with level := above } hread] at hhigh
    rw [create_eq_ok { options with level := below } hread] at hlow
    cases hhigh
    cases hlow
    exact ⟨rfl, rfl, hstamps, rfl, hrank⟩
  · rw [create_eq_error { options with level := above } hread] at hhigh
    cases hhigh

/-- **A higher threshold only leaves messages out.** Two loggers without stamps are made alike but for
their levels, and the level of the first does not rank lower. In every step up to the first threshold
that is taken, the first writes what the second writes or nothing, and nothing exactly for messages
that rank below its level. From that threshold on the same comes of every step, and both have the same
level. A threshold is taken if in capitals it is the name of a severity; otherwise both refuse it and
stay as they were. The level is always that of the last threshold that was taken, or else the one that
the logger was made with. -/
theorem higher_threshold_only_silences (options : Options) (hstamps : options.stamps = false)
    {above below : String}
    (hrank : Severity.rankOf (Text.uppercase below) ≤ Severity.rankOf (Text.uppercase above))
    {high low : Logger} (hhigh : create { options with level := above } = .ok high)
    (hlow : create { options with level := below } = .ok low) (steps : List Step) :
    (∀ earlier step later, steps = earlier ++ step :: later →
      ∃ ofHigh ofLow : Except Fault Entry,
        (high.run steps)[earlier.length]? = some ofHigh ∧
        (low.run steps)[earlier.length]? = some ofLow ∧
        (lastThreshold? (earlier ++ [step]) = none →
          (ofHigh.map Entry.out = ofLow.map Entry.out ∨ ofHigh.map Entry.out = .ok "") ∧
          ∀ level message, step = .log level message →
            (ofHigh.map Entry.out = .ok "" ↔
              Severity.rankOf (Text.uppercase level) < Severity.rankOf (Text.uppercase above))) ∧
        (lastThreshold? (earlier ++ [step]) ≠ none →
          ofHigh = ofLow ∧
            (high.after (earlier ++ [step])).level = (low.after (earlier ++ [step])).level) ∧
        ∀ level, step = .setLevel level →
          (Text.uppercase level ∈ Severity.all.map Severity.name →
            ofHigh = .ok ⟨"", Text.uppercase level⟩ ∧ ofLow = .ok ⟨"", Text.uppercase level⟩) ∧
          (Text.uppercase level ∉ Severity.all.map Severity.name →
            ofHigh = .error (.unknownLevel level) ∧ ofLow = .error (.unknownLevel level) ∧
              high.after (earlier ++ [step]) = high.after earlier ∧
              low.after (earlier ++ [step]) = low.after earlier)) ∧
    (high.after steps).level = (lastThreshold? steps).getD (Text.uppercase above) ∧
    (low.after steps).level = (lastThreshold? steps).getD (Text.uppercase below) := by
  obtain ⟨hhighLevel, hlowLevel, habove⟩ := above_of_create options hstamps hrank hhigh hlow
  refine ⟨?_, hhighLevel ▸ high.level_after steps, hlowLevel ▸ low.level_after steps⟩
  intro earlier step later hsteps
  subst hsteps
  refine ⟨_, _, high.getElem?_run earlier step later, low.getElem?_run earlier step later, ?_, ?_, ?_⟩
  · intro hnone
    refine ⟨(habove.after earlier).out_eq_or step, fun level message hlog => ?_⟩
    subst hlog
    have hlevel : (high.after earlier).level = Text.uppercase above := by
      rw [lastThreshold?_concat, Option.or_eq_none_iff] at hnone
      rw [level_after, hnone.2, hhighLevel]
      rfl
    rw [out_eq_empty_iff (habove.after earlier).bare_high, hlevel]
  · intro hset
    exact ⟨habove.step_eq hset, by rw [habove.after_eq hset]⟩
  · intro level hlevel
    subst hlevel
    refine ⟨fun hname => ?_, fun hname => ?_⟩
    · rw [step_setLevel_of_mem hname, step_setLevel_of_mem hname]
      exact ⟨rfl, rfl⟩
    · have hstay : ∀ logger : Logger,
          logger.after (earlier ++ [.setLevel level]) = logger.after earlier := by
        intro logger
        rw [after_append]
        show ((logger.after earlier).step (.setLevel level)).2 = _
        rw [step_setLevel_of_not_mem hname]
      rw [step_setLevel_of_not_mem hname, step_setLevel_of_not_mem hname]
      exact ⟨rfl, rfl, hstay high, hstay low⟩

/-- Both levels are written in small letters, one of them with a dotless `i`. A warning is left out by
the first logger alone, a threshold that is no severity is refused, and behind one that is taken both
are at the same level. -/
theorem higher_threshold_only_silences_dotless :
    ∃ high low, create { stamps := false, level := "error" } = .ok high ∧
      create { stamps := false, level := "ınfo" } = .ok low ∧
      (∃ ofHigh ofLow : Except Fault Entry,
        (high.run [.log "warning" "a", .setLevel "loud", .setLevel "debug"])[0]? = some ofHigh ∧
        (low.run [.log "warning" "a", .setLevel "loud", .setLevel "debug"])[0]? = some ofLow ∧
        (ofHigh.map Entry.out = ofLow.map Entry.out ∨ ofHigh.map Entry.out = .ok "")) ∧
      (∃ ofHigh : Except Fault Entry,
        (high.run [.log "warning" "a", .setLevel "loud", .setLevel "debug"])[1]? = some ofHigh ∧
        ofHigh = .error (.unknownLevel "loud")) ∧
      (high.after [.log "warning" "a", .setLevel "loud", .setLevel "debug"]).level = "DEBUG" ∧
      (low.after [.log "warning" "a", .setLevel "loud", .setLevel "debug"]).level = "DEBUG" := by
  have hread : Precision.inRange Clock.ticksPerSecond 0 = true := by decide +kernel
  have hhigh := create_eq_ok { stamps := false, level := "error" } hread
  have hlow := create_eq_ok { stamps := false, level := "ınfo" } hread
  have hrank : Severity.rankOf (Text.uppercase "ınfo") ≤ Severity.rankOf (Text.uppercase "error") := by
    decide +kernel
  have hlast : lastThreshold? [.log "warning" "a", .setLevel "loud", .setLevel "debug"] =
      some "DEBUG" := by decide +kernel
  obtain ⟨hrun, hhighLevel, hlowLevel⟩ :=
    higher_threshold_only_silences { stamps := false } rfl hrank hhigh hlow
      [.log "warning" "a", .setLevel "loud", .setLevel "debug"]
  rw [hlast] at hhighLevel hlowLevel
  refine ⟨_, _, hhigh, hlow, ?_, ?_, hhighLevel, hlowLevel⟩
  · obtain ⟨ofHigh, ofLow, hofHigh, hofLow, hsilent, _⟩ := hrun [] _ _ rfl
    exact ⟨ofHigh, ofLow, hofHigh, hofLow, (hsilent (by decide)).1⟩
  · obtain ⟨ofHigh, _, hofHigh, _, _, _, hset⟩ := hrun [.log "warning" "a"] _ _ rfl
    exact ⟨ofHigh, hofHigh, ((hset "loud" rfl).2 (by decide)).1⟩

end Logger

end Chip8
