import Mathlib.Logic.Function.Iterate
import Chip8.Console.Logger

/-!
# The steps of a logger

A logger takes messages and new thresholds in any order. This file says once what a single step does,
so that nothing below has to look into it again: a new threshold is taken or refused by its name
(`Logger.step_setLevel_of_mem`, `Logger.step_setLevel_of_not_mem`), and a message is written or not
(`Logger.step_log_of_admits`, `Logger.step_log_of_not_admits`).

`Logger.step_snd` sums up what a step leaves behind. Only the level and the clock of a logger ever
change: after a run the level is that of the last threshold that was taken (`Logger.level_after`), and
the clock has gone on once for each reading (`Logger.clock_after`).
-/

namespace Chip8

theorem Severity.isSome_ofName?_iff (text : String) :
    (ofName? text).isSome = true ↔ text ∈ all.map name := by
  unfold ofName?
  rw [List.find?_isSome, List.mem_map]
  constructor
  · rintro ⟨severity, hmem, hname⟩
    exact ⟨severity, hmem, eq_of_beq hname⟩
  · rintro ⟨severity, hmem, hname⟩
    exact ⟨severity, hmem, beq_iff_eq.mpr hname⟩

namespace Logger

/-- The threshold that a step sets: its level in capitals, if that is the name of a severity. -/
def Step.threshold? : Step → Option String
  | .log _ _ => none
  | .setLevel level =>
    if Text.uppercase level ∈ Severity.all.map Severity.name then some (Text.uppercase level)
    else none

/-- Whether a step reads the clock: its message is written, and under a stamp. -/
def reads (logger : Logger) : Step → Bool
  | .log level _ => logger.admits level && logger.stamps
  | .setLevel _ => false

/-- The threshold that is set last. -/
def lastThreshold? (steps : List Step) : Option String :=
  (steps.filterMap Step.threshold?).getLast?

/-! ## New loggers -/

/-- A logger is made if the instant that its clock stands at can be read, and that alone can fail. -/
theorem create_eq_ok (options : Options)
    (h : Precision.inRange Clock.ticksPerSecond options.clock.now = true) :
    create options = .ok {
      name := options.name
      level := Text.uppercase options.level
      colours := options.colours && options.sink.isTerminal
      stamps := options.stamps
      start := options.clock.now
      clock := options.clock.next } := by
  have hread : options.clock.read = (.ok options.clock.now, options.clock.next) := by
    rw [Clock.read, if_pos h]
  simp only [create, hread]
  rfl

theorem create_eq_error (options : Options)
    (h : ¬Precision.inRange Clock.ticksPerSecond options.clock.now = true) :
    create options = .error (.instantOutOfRange options.clock.now) := by
  have hread : options.clock.read =
      (.error (.instantOutOfRange options.clock.now), options.clock.next) := by
    rw [Clock.read, if_neg h]
  simp only [create, hread]
  rfl

/-! ## A single step -/

theorem step_setLevel_of_mem {level : String}
    (h : Text.uppercase level ∈ Severity.all.map Severity.name) (logger : Logger) :
    logger.step (.setLevel level) =
      (.ok ⟨"", Text.uppercase level⟩, { logger with level := Text.uppercase level }) := by
  obtain ⟨severity, hseverity⟩ :=
    Option.isSome_iff_exists.mp ((Severity.isSome_ofName?_iff _).mpr h)
  have hset : logger.setLevel level = .ok { logger with level := Text.uppercase level } := by
    simp only [setLevel, hseverity]
  simp only [step, perform, hset]
  rfl

theorem step_setLevel_of_not_mem {level : String}
    (h : Text.uppercase level ∉ Severity.all.map Severity.name) (logger : Logger) :
    logger.step (.setLevel level) = (.error (.unknownLevel level), logger) := by
  have hnone : Severity.ofName? (Text.uppercase level) = none := by
    rw [← Option.not_isSome_iff_eq_none, Severity.isSome_ofName?_iff]
    exact h
  have hset : logger.setLevel level = .error (.unknownLevel level) := by
    simp only [setLevel, hnone]
  simp only [step, perform, hset]
  rfl

/-- A stamp takes one reading of the clock. -/
theorem stamp_of_stamps (logger : Logger) (h : logger.stamps = true) :
    logger.stamp =
      (logger.clock.read.1.map (Stamp.render logger.start),
        { logger with clock := logger.clock.next }) := by
  have hnext : logger.clock.read.2 = logger.clock.next := rfl
  unfold stamp
  rw [if_pos h, ← hnext]

theorem stamp_of_bare (logger : Logger) (h : logger.stamps = false) :
    logger.stamp = (.ok "", logger) := by
  unfold stamp
  rw [h]
  exact if_neg Bool.false_ne_true

theorem level_stamp (logger : Logger) : logger.stamp.2.level = logger.level := by
  cases h : logger.stamps with
  | false => rw [logger.stamp_of_bare h]
  | true => rw [logger.stamp_of_stamps h]

theorem step_log_of_admits (logger : Logger) {level : String} (h : logger.admits level = true)
    (message : String) :
    logger.step (.log level message) =
      (logger.stamp.1.map fun stamp => ⟨logger.line stamp level message, logger.level⟩,
        logger.stamp.2) := by
  have hlevel := logger.level_stamp
  simp only [step, perform, log, if_pos h, hlevel]
  cases logger.stamp.1 with
  | error fault => rfl
  | ok stamp => rfl

theorem step_log_of_not_admits (logger : Logger) {level : String}
    (h : ¬logger.admits level = true) (message : String) :
    logger.step (.log level message) = (.ok ⟨"", logger.level⟩, logger) := by
  simp only [step, perform, log, if_neg h]
  rfl

/-- What a step leaves behind: another level if it sets one, and another clock if it reads it. -/
theorem step_snd (logger : Logger) (s : Step) :
    (logger.step s).2 = { logger with
      level := s.threshold?.getD logger.level
      clock := Clock.next^[(logger.reads s).toNat] logger.clock } := by
  cases s with
  | log level message =>
    by_cases h : logger.admits level = true
    · have hreads : logger.reads (.log level message) = logger.stamps := by
        rw [reads, h, Bool.true_and]
      rw [logger.step_log_of_admits h]
      by_cases hstamps : logger.stamps = true
      · rw [logger.stamp_of_stamps hstamps, hreads.trans hstamps]
        rfl
      · rw [Bool.not_eq_true] at hstamps
        rw [logger.stamp_of_bare hstamps, hreads.trans hstamps]
        rfl
    · have hreads : logger.reads (.log level message) = false := by
        rw [Bool.not_eq_true] at h
        rw [reads, h, Bool.false_and]
      rw [logger.step_log_of_not_admits h, hreads]
      rfl
  | setLevel level =>
    by_cases h : Text.uppercase level ∈ Severity.all.map Severity.name
    · rw [step_setLevel_of_mem h, Step.threshold?, if_pos h]
      rfl
    · rw [step_setLevel_of_not_mem h, Step.threshold?, if_neg h]
      rfl

/-! ## Steps one after the other -/

/-- How often the clock is read in steps. -/
def readings (logger : Logger) : List Step → Nat
  | [] => 0
  | s :: rest => (logger.reads s).toNat + (logger.step s).2.readings rest

theorem after_append (logger : Logger) (earlier later : List Step) :
    logger.after (earlier ++ later) = (logger.after earlier).after later := by
  unfold after
  exact List.foldl_append

/-- What comes of a step is known from the logger that the steps before it have left. -/
theorem getElem?_run (logger : Logger) (earlier : List Step) (s : Step) (later : List Step) :
    (logger.run (earlier ++ s :: later))[earlier.length]? =
      some ((logger.after earlier).step s).1 := by
  induction earlier generalizing logger with
  | nil => rfl
  | cons first rest ih => exact ih (logger.step first).2

theorem lastThreshold?_cons (s : Step) (rest : List Step) :
    lastThreshold? (s :: rest) = (lastThreshold? rest).or s.threshold? := by
  unfold lastThreshold?
  cases h : s.threshold? with
  | none => rw [List.filterMap_cons_none h, Option.or_none]
  | some capitals =>
    rw [List.filterMap_cons_some h, List.getLast?_cons]
    cases (rest.filterMap Step.threshold?).getLast? <;> rfl

theorem lastThreshold?_concat (earlier : List Step) (s : Step) :
    lastThreshold? (earlier ++ [s]) = s.threshold?.or (lastThreshold? earlier) := by
  unfold lastThreshold?
  rw [List.filterMap_append, List.getLast?_append]
  cases h : s.threshold? <;> simp [h]

/-- The level is that of the last threshold that was taken, whatever was refused or written. -/
theorem level_after (logger : Logger) (steps : List Step) :
    (logger.after steps).level = (lastThreshold? steps).getD logger.level := by
  induction steps generalizing logger with
  | nil => rfl
  | cons s rest ih =>
    show ((logger.step s).2.after rest).level = _
    rw [ih, step_snd, lastThreshold?_cons]
    cases lastThreshold? rest <;> rfl

theorem clock_after (logger : Logger) (steps : List Step) :
    (logger.after steps).clock = Clock.next^[logger.readings steps] logger.clock := by
  induction steps generalizing logger with
  | nil => rfl
  | cons s rest ih =>
    have hclock : (logger.step s).2.clock = Clock.next^[(logger.reads s).toNat] logger.clock := by
      rw [step_snd]
    show ((logger.step s).2.after rest).clock = _
    rw [ih, hclock, readings, ← Function.iterate_add_apply, Nat.add_comm]

end Logger

end Chip8
