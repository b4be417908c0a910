import Chip8.Proofs.Correlation
import Chip8.Proofs.RomFaults

/-!
# What a run writes

A run shows one ROM after the other and has one logger for all of them, whose clock goes on with
every message. What is written comes from two sides, messages and renderings, and it stays written
when a later part of the same ROM fails.

`Viewer.Item` is one thing that is written, and `Viewer.written` the text of many, each message under
the stamp of its turn. A `Viewer.account` says what is written of a ROM, from the ROM alone. That no
state but the clock is carried from one ROM to the next is the step lemma, `Viewer.showRom_eq`: the
account of a ROM is the same under every logger of the level. `Viewer.showRoms_eq` is by induction
along the list, and a run stops behind the account of the first ROM that fails.

The main statement is `Viewer.run_transcript`.
-/

namespace Chip8

/-! ## Levels -/

namespace Severity

theorem uppercase_name (severity : Severity) : Text.uppercase severity.name = severity.name := by
  cases severity <;> rfl

theorem rankOf_name (severity : Severity) : rankOf severity.name = severity.rank := by
  cases severity <;> rfl

theorem eq_name_of_ofName? {text : String} {severity : Severity}
    (h : ofName? text = some severity) : text = severity.name := by
  rw [ofName?] at h
  have hname := List.find?_some h
  exact (eq_of_beq hname).symm

end Severity

/-! ## Clocks that can be read -/

namespace Clock

/-- Every instant that the clock has yet to yield can be read. -/
def Readable (clock : Clock) : Prop :=
  ∀ instant ∈ clock.ticks, Precision.inRange ticksPerSecond instant = true

instance (clock : Clock) : Decidable clock.Readable :=
  inferInstanceAs (Decidable (∀ _ ∈ _, _))

theorem Readable.read {clock : Clock} (h : clock.Readable) :
    clock.read = (.ok clock.now, clock.next) := by
  have hnow : Precision.inRange ticksPerSecond clock.now = true := by
    obtain ⟨ticks⟩ := clock
    cases ticks with
    | nil =>
      -- such a clock stands at zero
      decide +kernel
    | cons instant later => exact h instant List.mem_cons_self
  rw [Clock.read, if_pos hnow]

theorem Readable.next {clock : Clock} (h : clock.Readable) : clock.next.Readable := by
  unfold Clock.next
  split
  next instant later rest hticks =>
    intro other hother
    exact h other (hticks ▸ List.mem_cons_of_mem instant hother)
  next => exact h

end Clock

namespace Logger

/-- The stamp of the next message. -/
def nextStamp (logger : Logger) : String :=
  if logger.stamps then Stamp.render logger.start logger.clock.now else ""

/-- The logger once a message has been stamped. -/
def stamped (logger : Logger) : Logger :=
  if logger.stamps then { logger with clock := logger.clock.next } else logger

/-- The logger writes what has the given level or a higher one, and it can always be stamped. -/
structure Ready (logger : Logger) (level : Severity) : Prop where
  level_eq : logger.level = level.name
  readable : logger.clock.Readable

namespace Ready

variable {logger : Logger} {level : Severity}

theorem stamped (h : logger.Ready level) : logger.stamped.Ready level := by
  unfold Logger.stamped
  split
  next => exact ⟨h.level_eq, h.readable.next⟩
  next => exact h

theorem stamp_eq (h : logger.Ready level) : logger.stamp = (.ok logger.nextStamp, logger.stamped) := by
  unfold stamp nextStamp Logger.stamped
  split
  next =>
    rw [h.readable.read]
    rfl
  next => rfl

theorem admits_iff (h : logger.Ready level) (severity : Severity) :
    logger.admits severity.name = true ↔ level.rank ≤ severity.rank := by
  rw [admits, h.level_eq, severity.uppercase_name, level.rankOf_name, severity.rankOf_name,
    decide_eq_true_iff]

end Ready

/-- A threshold is accepted if it is the name of a severity, and nothing else changes. -/
theorem setLevel_eq_ok {logger ready : Logger} {text : String}
    (h : logger.setLevel text = .ok ready) :
    ∃ level : Severity, Text.uppercase text = level.name ∧
      ready = { logger with level := level.name } := by
  unfold setLevel at h
  cases hlevel : Severity.ofName? (Text.uppercase text) with
  | none =>
    simp only [hlevel] at h
    cases h
  | some level =>
    simp only [hlevel] at h
    have hname := Severity.eq_name_of_ofName? hlevel
    exact ⟨level, hname, by rw [← hname, Except.ok.inj h]⟩

end Logger

namespace Viewer

/-! ## What is written -/

/-- One thing that is written: a message, or a text on a line of its own. -/
inductive Item where
  | record (severity : Severity) (message : String)
  | print (text : String)
deriving DecidableEq

namespace Item

/-- What an item is written as. -/
def out (logger : Logger) : Item → String
  | .record severity message => logger.line logger.nextStamp severity.name message
  | .print text => text ++ "\n"

/-- The logger once an item has been written. -/
def after (logger : Logger) : Item → Logger
  | .record _ _ => logger.stamped
  | .print _ => logger

end Item

/-- What items are written as, one after the other. -/
def written (logger : Logger) : List Item → String
  | [] => ""
  | item :: rest => item.out logger ++ written (item.after logger) rest

/-- The logger once all items have been written. -/
def past (logger : Logger) (items : List Item) : Logger :=
  items.foldl Item.after logger

theorem written_append (logger : Logger) (items later : List Item) :
    written logger (items ++ later) = written logger items ++ written (past logger items) later := by
  induction items generalizing logger with
  | nil => exact (String.empty_append).symm
  | cons item rest ih =>
    rw [List.cons_append, written, ih, ← String.append_assoc]
    rfl

theorem past_append (logger : Logger) (items later : List Item) :
    past logger (items ++ later) = past (past logger items) later :=
  List.foldl_append

/-- Writing changes nothing of a logger but its clock. -/
theorem ready_past {logger : Logger} {level : Severity} (h : logger.Ready level)
    (items : List Item) : (past logger items).Ready level := by
  induction items generalizing logger with
  | nil => exact h
  | cons item rest ih =>
    cases item with
    | record severity message => exact ih h.stamped
    | print text => exact ih h

namespace Outcome

/-- What has come of a run that wrote the given items and nothing else. -/
def ofItems (logger : Logger) (items : List Item) (ended : Except Fault Unit) : Outcome :=
  ⟨written logger items, past logger items, ended⟩

/-- A run that can go on writes what it has written and what comes then. -/
theorem andThen_ofItems {logger : Logger} {items later : List Item} {ended : Except Fault Unit}
    {next : Logger → Outcome}
    (h : next (past logger items) = ofItems (past logger items) later ended) :
    (ofItems logger items (.ok ())).andThen next = ofItems logger (items ++ later) ended := by
  show Outcome.mk (written logger items ++ (next (past logger items)).out)
    (next (past logger items)).logger (next (past logger items)).ended = _
  rw [h, ofItems, ofItems, written_append, past_append]

/-- A run that fails then has written what it had. -/
theorem andThen_fail {logger : Logger} {items : List Item} {fault : Fault} {next : Logger → Outcome}
    (h : next (past logger items) = fail (past logger items) fault) :
    (ofItems logger items (.ok ())).andThen next = ofItems logger items (.error fault) := by
  have hnothing : next (past logger items) = ofItems (past logger items) [] (.error fault) := h
  rw [andThen_ofItems hnothing, List.append_nil]

/-- A run that has ended writes no more. -/
theorem andThen_of_fault (logger : Logger) (items : List Item) (fault : Fault)
    (next : Logger → Outcome) :
    (ofItems logger items (.error fault)).andThen next = ofItems logger items (.error fault) :=
  rfl

/-- A message is written if it is severe enough, and it never ends a run. -/
theorem say_eq {logger : Logger} {level : Severity} (h : logger.Ready level) (severity : Severity)
    (message : String) :
    say logger severity message =
      ofItems logger (if level.rank ≤ severity.rank then [.record severity message] else [])
        (.ok ()) := by
  by_cases hrank : level.rank ≤ severity.rank
  · rw [say, Logger.log, if_pos ((h.admits_iff severity).mpr hrank), if_pos hrank, h.stamp_eq,
      ofItems, written, written, String.append_empty]
    rfl
  · rw [say, Logger.log, if_neg (mt (h.admits_iff severity).mp hrank), if_neg hrank]
    rfl

end Outcome

/-! ## One ROM -/

/-- The message that names a ROM, if the level lets it through. -/
def announcement (level : Severity) (path : Path) : List Item :=
  if level = .debug ∨ level = .info then [.record .info ("Disassembling " ++ path.text)] else []

/-- The message about a disassembly, if the level lets it through. -/
def report (level : Severity) (d : Disassembly) : List Item :=
  if level = .debug then [.record .debug (Listing.record d.lines d.region)] else []

/-- What is written of a ROM: the message that names it, the one about its disassembly if there is
one, and its rendering if there is one. -/
def account [Capacity] (level : Severity) (settings : Resolution) (files : FileSystem)
    (rom : String) : List Item :=
  let path := files.resolve rom
  announcement level path ++
    (disassemble settings files path).toOption.toList.flatMap (report level) ++
    (renderRom settings files path).toOption.toList.map .print

section
variable {settings : Resolution} {files : FileSystem} {logger : Logger} {level : Severity}

theorem say_announcement (h : logger.Ready level) (path : Path) :
    Outcome.say logger .info ("Disassembling " ++ path.text) =
      .ofItems logger (announcement level path) (.ok ()) := by
  rw [Outcome.say_eq h]
  cases level <;> rfl

theorem say_report (h : logger.Ready level) (d : Disassembly) :
    Outcome.say logger .debug (Listing.record d.lines d.region) =
      .ofItems logger (report level d) (.ok ()) := by
  rw [Outcome.say_eq h]
  cases level <;> rfl

/-- Without a disassembly a ROM is only named. -/
theorem account_of_fault [Capacity] {rom : String} {fault : Fault}
    (h : disassemble settings files (files.resolve rom) = .error fault) :
    account level settings files rom = announcement level (files.resolve rom) := by
  simp only [account, h, renderRom_of_fault h]
  exact (List.append_nil _).trans (List.append_nil _)

/-- With a disassembly a ROM is named and reported, and then it is shown if it can be. -/
theorem account_of_listed [Capacity] {rom : String} {d : Disassembly}
    (h : disassemble settings files (files.resolve rom) = .ok d) :
    account level settings files rom = announcement level (files.resolve rom) ++ report level d ++
      (renderRom settings files (files.resolve rom)).toOption.toList.map .print := by
  simp only [account, h, Except.toOption, Option.toList_some, List.flatMap_cons, List.flatMap_nil,
    List.append_nil]

/-- What comes of a ROM is its account, under every logger of the level. -/
theorem showRom_eq [Capacity] (h : logger.Ready level) (rom : String) :
    showRom settings files rom logger =
      .ofItems logger (account level settings files rom)
        ((renderRom settings files (files.resolve rom)).map fun _ => ()) := by
  rw [showRom, say_announcement h]
  cases hd : disassemble settings files (files.resolve rom) with
  | error fault =>
    rw [account_of_fault hd, renderRom_of_fault hd]
    exact Outcome.andThen_fail rfl
  | ok d =>
    -- the report is out before the rendering is tried, so it is part of both ends
    rw [account_of_listed hd, renderRom_of_listed hd, List.append_assoc]
    apply Outcome.andThen_ofItems
    simp only [say_report (ready_past h _)]
    apply Outcome.andThen_ofItems
    cases present settings d with
    | error fault => rfl
    | ok text =>
      have hline : text ++ "\n" = text ++ "\n" ++ "" := String.append_empty.symm
      exact congrArg (Outcome.mk · _ _) hline

end

/-! ## One ROM after the other -/

/-- A ROM can be rendered. -/
def renders [Capacity] (settings : Resolution) (files : FileSystem) (rom : String) : Bool :=
  (renderRom settings files (files.resolve rom)).isOk

/-- The first ROM that cannot be rendered. -/
def failing [Capacity] (settings : Resolution) (files : FileSystem) (roms : List String) :
    Option String :=
  roms.find? fun rom => !renders settings files rom

/-- How a run on ROMs ends: as the first of them that cannot be rendered does. -/
def verdict [Capacity] (settings : Resolution) (files : FileSystem) (roms : List String) :
    Except Fault Unit :=
  match failing settings files roms with
  | none => .ok ()
  | some rom => (renderRom settings files (files.resolve rom)).map fun _ => ()

/-- All that is written of ROMs: the accounts of those that can be rendered, up to the first that
cannot, and its own. -/
def transcript [Capacity] (level : Severity) (settings : Resolution) (files : FileSystem)
    (roms : List String) : List Item :=
  (roms.takeWhile (renders settings files)).flatMap (account level settings files) ++
    (failing settings files roms).toList.flatMap (account level settings files)

section
variable {settings : Resolution} {files : FileSystem} {logger : Logger} {level : Severity}

theorem renders_of_ok [Capacity] {rom text : String}
    (h : renderRom settings files (files.resolve rom) = .ok text) :
    renders settings files rom = true := by
  rw [renders, h]
  rfl

theorem renders_of_fault [Capacity] {rom : String} {fault : Fault}
    (h : renderRom settings files (files.resolve rom) = .error fault) :
    renders settings files rom = false := by
  rw [renders, h]
  rfl

/-- A ROM that is rendered goes before what comes of the others. -/
theorem transcript_cons_of_ok [Capacity] (level : Severity) {rom text : String}
    (h : renderRom settings files (files.resolve rom) = .ok text) (rest : List String) :
    transcript level settings files (rom :: rest) =
        account level settings files rom ++ transcript level settings files rest ∧
      verdict settings files (rom :: rest) = verdict settings files rest := by
  have hrenders := renders_of_ok h
  have hfailing : failing settings files (rom :: rest) = failing settings files rest :=
    List.find?_cons_of_neg (by simp [hrenders])
  constructor
  · rw [transcript, transcript, hfailing, List.takeWhile_cons_of_pos hrenders, List.flatMap_cons,
      List.append_assoc]
  · rw [verdict, verdict, hfailing]

/-- A ROM that is not rendered is the last that anything comes of. -/
theorem transcript_cons_of_fault [Capacity] (level : Severity) {rom : String} {fault : Fault}
    (h : renderRom settings files (files.resolve rom) = .error fault) (rest : List String) :
    transcript level settings files (rom :: rest) = account level settings files rom ∧
      verdict settings files (rom :: rest) = .error fault := by
  have hrenders := renders_of_fault h
  have hfailing : failing settings files (rom :: rest) = some rom :=
    List.find?_cons_of_pos (by simp [hrenders])
  constructor
  · rw [transcript, hfailing, List.takeWhile_cons_of_neg (by simp [hrenders])]
    exact List.append_nil _
  · simp only [verdict, hfailing, h]
    rfl

/-- What comes of ROMs is their transcript, under every logger of the level. -/
theorem showRoms_eq [Capacity] (h : logger.Ready level) (roms : List String) :
    showRoms settings files roms logger =
      .ofItems logger (transcript level settings files roms) (verdict settings files roms) := by
  induction roms generalizing logger with
  | nil => rfl
  | cons rom rest ih =>
    rw [showRoms, showRom_eq h]
    cases hrender : renderRom settings files (files.resolve rom) with
    | error fault =>
      obtain ⟨hitems, hended⟩ := transcript_cons_of_fault level hrender rest
      rw [hitems, hended]
      exact Outcome.andThen_of_fault logger _ fault _
    | ok text =>
      obtain ⟨hitems, hended⟩ := transcript_cons_of_ok level hrender rest
      rw [hitems, hended]
      -- the logger is another one by now, but still one of the level
      exact Outcome.andThen_ofItems (ih (ready_past h _))

/-- With a level that is accepted and some ROM to show, what comes of a run is the transcript of its
ROMs. -/
theorem run_eq [Capacity] {text : String} {ready : Logger} {roms : List String}
    (hroms : settings.roms = .ok roms) (hsome : roms ≠ []) (htext : settings.logLevel = .ok text)
    (hlevel : logger.setLevel text = .ok ready) (hready : ready.Ready level) (files : FileSystem) :
    run settings files logger =
      .ofItems ready (transcript level settings files roms) (verdict settings files roms) := by
  obtain ⟨rom, rest, rfl⟩ := List.exists_cons_of_ne_nil hsome
  have hset : setLevel settings logger = .ofItems ready [] (.ok ()) := by
    have haccepted : (settings.logLevel >>= logger.setLevel) = .ok ready := by
      rw [htext]
      exact hlevel
    rw [setLevel, haccepted]
    rfl
  have hstart : start settings logger = .ofItems ready [] (.ok ()) := by
    rw [start, hset]
    apply Outcome.andThen_ofItems
    rw [hroms]
    rfl
  -- nothing has been written when the first ROM is taken up
  rw [run, hstart]
  apply Outcome.andThen_ofItems
  rw [hroms]
  exact showRoms_eq hready _

/-- A ROM that is rendered is named, reported and shown. -/
theorem account_of_renders [Capacity] {rom : String} (h : renders settings files rom = true) :
    ∃ d text, disassemble settings files (files.resolve rom) = .ok d ∧
      renderRom settings files (files.resolve rom) = .ok text ∧
      account level settings files rom =
        announcement level (files.resolve rom) ++ report level d ++ [.print text] := by
  cases hrender : renderRom settings files (files.resolve rom) with
  | error fault =>
    rw [renders, hrender] at h
    cases h
  | ok text =>
    obtain ⟨d, hd, _⟩ := Fault.bind_eq_ok_iff.mp hrender
    refine ⟨d, text, hd, rfl, ?_⟩
    rw [account_of_listed hd, hrender]
    rfl

/-- A ROM that is not rendered is named, and reported if there is something to report. -/
theorem account_of_not_renders [Capacity] {rom : String} {fault : Fault}
    (h : renderRom settings files (files.resolve rom) = .error fault) :
    (disassemble settings files (files.resolve rom) = .error fault ∧
      account level settings files rom = announcement level (files.resolve rom)) ∨
    ∃ d, disassemble settings files (files.resolve rom) = .ok d ∧ present settings d = .error fault ∧
      account level settings files rom =
        announcement level (files.resolve rom) ++ report level d := by
  cases hd : disassemble settings files (files.resolve rom) with
  | error cause =>
    rw [renderRom_of_fault hd] at h
    cases h
    exact Or.inl ⟨rfl, account_of_fault hd⟩
  | ok d =>
    refine Or.inr ⟨d, rfl, by rw [← renderRom_of_listed hd, h], ?_⟩
    rw [account_of_listed hd, h]
    exact List.append_nil _

/-- A run ends well if all ROMs are rendered. -/
theorem verdict_eq_ok_iff [Capacity] (roms : List String) :
    verdict settings files roms = .ok () ↔
      ∀ rom ∈ roms, ∃ text, renderRom settings files (files.resolve rom) = .ok text := by
  induction roms with
  | nil => exact iff_of_true rfl fun _ hrom => absurd hrom List.not_mem_nil
  | cons rom rest ih =>
    rw [List.forall_mem_cons]
    cases hrender : renderRom settings files (files.resolve rom) with
    | error fault =>
      rw [(transcript_cons_of_fault .info hrender rest).2]
      simp
    | ok text =>
      rw [(transcript_cons_of_ok .info hrender rest).2, ih]
      simp

end

/-! ## What is reported -/

/-- A disassembly of a ROM has the region that the settings ask for. -/
theorem made_of_disassemble [Capacity] {settings : Resolution} {files : FileSystem} {path : Path}
    {d : Disassembly} (h : disassemble settings files path = .ok d) :
    regionOf settings = .ok d.region ∧ d.Made := by
  obtain ⟨size, hwithin, hregion⟩ := within_of_disassemble h
  obtain ⟨base, _, hbase, _⟩ := disassembleWithin_eq_ok hwithin
  obtain ⟨_, _, hwithin⟩ := Fault.bind_eq_ok_iff.mp hwithin
  obtain ⟨_, hplace, hwithin⟩ := Fault.bind_eq_ok_iff.mp hwithin
  -- the base is an address, and a program is put right there
  cases hbase.symm.trans hplace
  obtain ⟨_, _, hwithin⟩ := Fault.bind_eq_ok_iff.mp hwithin
  obtain ⟨_, haddress, hwithin⟩ := Fault.bind_eq_ok_iff.mp hwithin
  cases haddress
  obtain ⟨image, _, himage⟩ := Fault.bind_eq_ok_iff.mp hwithin
  have hcells : Disassembly.ofCells image.cells ⟨base, size⟩ = .ok d := by
    rw [Disassembly.ofCells, image.ofCells_cells]
    exact himage
  obtain ⟨_, hd, hmade⟩ := Disassembly.made_of_ofCells hcells
  exact ⟨by rw [hd, hregion base hbase], hmade⟩

/-- The report of a disassembly is about the ROM in the region that the settings ask for. -/
theorem record_of_read [Capacity] {settings : Resolution} {files : FileSystem} {path : Path}
    {d : Disassembly} {rom : Image} {region : Region} (h : disassemble settings files path = .ok d)
    (hread : files.read path = .ok rom) (hregion : regionOf settings = .ok region) :
    Listing.record d.lines d.region = Listing.record (romLines rom region) region := by
  obtain ⟨_, _, hasked, hfound, _, _, hlines⟩ := disassemble_eq_ok h
  cases hread.symm.trans hfound
  cases hregion.symm.trans hasked
  cases hregion.symm.trans (made_of_disassemble h).1
  rw [hlines]

/-- The report of a disassembly counts the words of the region that the settings ask for, and the
lines without a mnemonic. -/
theorem record_eq [Capacity] {settings : Resolution} {files : FileSystem} {path : Path}
    {d : Disassembly} (h : disassemble settings files path = .ok d) :
    ∃ region, regionOf settings = .ok region ∧
      Listing.record d.lines d.region =
        "Disassembled " ++ Numeral.decimal ((region.limit - region.base) / 2) ++ " words at " ++
          Numeral.hex 4 region.base ++ "-" ++ Numeral.hex 4 region.limit ++ " (" ++
          Numeral.decimal (d.lines.countP fun line => line.mnemonic == "") ++ " unrecognised)" := by
  obtain ⟨hregion, hmade⟩ := made_of_disassemble h
  refine ⟨d.region, hregion, ?_⟩
  rw [← hmade.fetched.1]
  rfl

/-! ## A whole run -/

/-- **What a run writes, and how it ends**, for any ROMs, files and settings with a level that is
accepted. The ROMs that are rendered, up to the first that is not, are named, reported and shown, each
as it would be alone; the levels that let the two messages through are those of `announcement` and
`report`. Of the first ROM that is not rendered there is its name, and the report of its disassembly
exactly if that was made; nothing is written of the ROMs after it. The run ends well if all ROMs are
rendered, and otherwise with the fault of the first that is not. A report counts the words of the
region that the settings ask for, and the lines without a mnemonic. -/
theorem run_transcript [Capacity] {settings : Resolution} {logger ready : Logger}
    {roms : List String} {text : String} (hroms : settings.roms = .ok roms) (hsome : roms ≠ [])
    (htext : settings.logLevel = .ok text) (hlevel : logger.setLevel text = .ok ready)
    (hclock : logger.clock.Readable) (files : FileSystem) :
    let outcome := run settings files logger
    let render rom := renderRom settings files (files.resolve rom)
    let listed rom := disassemble settings files (files.resolve rom)
    ∃ level : Severity, Text.uppercase text = level.name ∧
      ready = { logger with level := level.name } ∧
      outcome.out = written ready
        ((roms.takeWhile (renders settings files)).flatMap (account level settings files) ++
          (failing settings files roms).toList.flatMap (account level settings files)) ∧
      (∀ rom, renders settings files rom = true →
        ∃ d text, listed rom = .ok d ∧ render rom = .ok text ∧
          account level settings files rom =
            announcement level (files.resolve rom) ++ report level d ++ [.print text]) ∧
      (∀ rom, failing settings files roms = some rom →
        ∃ fault, render rom = .error fault ∧ outcome.ended = .error fault ∧
          ((listed rom = .error fault ∧
            account level settings files rom = announcement level (files.resolve rom)) ∨
          ∃ d, listed rom = .ok d ∧ present settings d = .error fault ∧
            account level settings files rom =
              announcement level (files.resolve rom) ++ report level d)) ∧
      (outcome.ended = .ok () ↔ ∀ rom ∈ roms, ∃ text, render rom = .ok text) ∧
      ∀ path d, disassemble settings files path = .ok d →
        ∃ region, regionOf settings = .ok region ∧
          Listing.record d.lines d.region =
            "Disassembled " ++ Numeral.decimal ((region.limit - region.base) / 2) ++ " words at " ++
              Numeral.hex 4 region.base ++ "-" ++ Numeral.hex 4 region.limit ++ " (" ++
              Numeral.decimal (d.lines.countP fun line => line.mnemonic == "") ++
              " unrecognised)" := by
  intro outcome render listed
  obtain ⟨level, hname, hready⟩ := Logger.setLevel_eq_ok hlevel
  have houtcome : outcome = .ofItems ready (transcript level settings files roms)
      (verdict settings files roms) :=
    run_eq hroms hsome htext hlevel (hready ▸ ⟨rfl, hclock⟩) files
  refine ⟨level, hname, hready, by rw [houtcome]; rfl, fun _ => account_of_renders, ?_, ?_,
    fun _ _ => record_eq⟩
  · intro rom hfailing
    have hnot : (renderRom settings files (files.resolve rom)).isOk = false := by
      simpa [renders] using List.find?_some hfailing
    cases hrender : renderRom settings files (files.resolve rom) with
    | ok text =>
      rw [hrender] at hnot
      cases hnot
    | error fault =>
      refine ⟨fault, hrender, ?_, account_of_not_renders hrender⟩
      rw [houtcome]
      show verdict settings files roms = _
      simp only [verdict, hfailing, hrender]
      rfl
  · rw [houtcome]
    exact verdict_eq_ok_iff roms

/-- A ROM, one that is missing, and the first again, with all messages let through. -/
theorem run_transcript_missing_rom :
    letI : Capacity := .tebibyte
    let files : FileSystem := (⟨⟨"/", []⟩, [("a.ch8", ⟨#[0x00, 0xE0]⟩)]⟩ : Folder).fileSystem
    let settings : Settings :=
      { roms := ["a.ch8", "b.ch8", "a.ch8"], programBase := 0, memorySize := 4, logLevel := "debug" }
    let outcome := run settings.resolution files ⟨"chipdis", "INFO", false, true, 0, {}⟩
    ∃ text, renderRom settings.resolution files ⟨"/", ["a.ch8"]⟩ = .ok text ∧
      outcome.out = written ⟨"chipdis", "DEBUG", false, true, 0, {}⟩
        [.record .info "Disassembling /a.ch8",
          .record .debug "Disassembled 2 words at 0x0000-0x0004 (1 unrecognised)", .print text,
          .record .info "Disassembling /b.ch8"] ∧
      outcome.ended = .error (.fileNotFound "/b.ch8") := by
  let : Capacity := .tebibyte
  intro files settings outcome
  have hfirst : files.resolve "a.ch8" = ⟨"/", ["a.ch8"]⟩ := rfl
  have hsecond : files.resolve "b.ch8" = ⟨"/", ["b.ch8"]⟩ := rfl
  have hread : files.read ⟨"/", ["a.ch8"]⟩ = .ok ⟨#[0x00, 0xE0]⟩ := rfl
  have hmissing : disassemble settings.resolution files ⟨"/", ["b.ch8"]⟩ =
      .error (.fileNotFound "/b.ch8") := rfl
  have hroom : HasRoom settings ⟨#[0x00, 0xE0]⟩ := by
    apply hasRoom_of_lt
    · rintro columns ⟨⟩
      decide
    · rintro columns ⟨⟩
      decide
  have hscheme : settings.colourScheme = Scheme.monokai.name := rfl
  obtain ⟨text, htext⟩ := exists_renderRom hread (by decide) (by decide) (by decide) hscheme hroom
  refine ⟨text, htext, ?_⟩
  rw [← hfirst] at hread htext
  rw [← hsecond] at hmissing
  have hroms : settings.resolution.roms = .ok ["a.ch8", "b.ch8", "a.ch8"] := rfl
  have hlevel : Logger.setLevel ⟨"chipdis", "INFO", false, true, 0, {}⟩ "debug" =
      .ok ⟨"chipdis", "DEBUG", false, true, 0, {}⟩ := rfl
  obtain ⟨level, hname, _, hout, hrendered, hfailed, _⟩ :=
    run_transcript hroms (by decide) rfl hlevel (by decide) files
  obtain rfl : level = .debug := by
    cases level <;> first | rfl | exact absurd hname (by decide)
  constructor
  · obtain ⟨d, _, hd, hrender, haccount⟩ := hrendered "a.ch8" (renders_of_ok htext)
    cases htext.symm.trans hrender
    have hrecord : Listing.record d.lines d.region =
        "Disassembled 2 words at 0x0000-0x0004 (1 unrecognised)" := by
      rw [record_of_read hd hread rfl]
      decide
    have hitems := (transcript_cons_of_ok .debug htext ["b.ch8", "a.ch8"]).1
    rw [(transcript_cons_of_fault .debug (renderRom_of_fault hmissing) ["a.ch8"]).1, haccount,
      account_of_fault hmissing, report, hrecord] at hitems
    exact hout.trans (congrArg (written _) hitems)
  · have hfailing : failing settings.resolution files ["a.ch8", "b.ch8", "a.ch8"] = some "b.ch8" := by
      rw [failing, List.find?_cons_of_neg (by simp [renders_of_ok htext]),
        List.find?_cons_of_pos (by simp [renders_of_fault (renderRom_of_fault hmissing)])]
    obtain ⟨_, hfault, hended, _⟩ := hfailed "b.ch8" hfailing
    cases (renderRom_of_fault hmissing).symm.trans hfault
    exact hended

/-- A ROM is reported and then fails, though not on its scheme: a row would need more blanks than can
be counted. -/
theorem run_reports_beyond_scheme :
    letI : Capacity := .tebibyte
    let files : FileSystem := (⟨⟨"/", []⟩, [("a.ch8", ⟨#[0x00, 0xE0]⟩)]⟩ : Folder).fileSystem
    let settings : Settings :=
      { roms := ["a.ch8"], programBase := 0, memorySize := 2,
        listingWidth := some 9223372036854775842, logLevel := "DEBUG" }
    let outcome := run settings.resolution files ⟨"chipdis", "INFO", false, true, 0, {}⟩
    outcome.out =
        "[    0.00s][    INFO][chipdis] Disassembling /a.ch8\n" ++
        "[    0.00s][   DEBUG][chipdis] Disassembled 1 words at 0x0000-0x0002 (0 unrecognised)\n" ∧
      outcome.ended = .error (.textBeyondIndex 9223372036854775808) ∧
      settings.colourScheme = Scheme.monokai.name ∧
      ∀ name, outcome.ended ≠ .error (.unknownPalette name) := by
  let : Capacity := .tebibyte
  intro files settings outcome
  have hpath : files.resolve "a.ch8" = ⟨"/", ["a.ch8"]⟩ := rfl
  have hread : files.read (files.resolve "a.ch8") = .ok ⟨#[0x00, 0xE0]⟩ := by
    rw [hpath]
    rfl
  obtain ⟨d, hd, hlines⟩ := exists_disassemble (hasRegion_resolution settings) hread (by decide)
    (by decide) (by decide)
  have hfault : renderRom settings.resolution files (files.resolve "a.ch8") =
      .error (.textBeyondIndex 9223372036854775808) := by
    have hline : romLines ⟨#[0x00, 0xE0]⟩ settings.region = [Line.ofWord (Word.pack 0 0xE0) 0] := by
      decide
    have hshown : shown settings.resolution [Line.ofWord (Word.pack 0 0xE0) 0] =
        .error (.textBeyondIndex 9223372036854775808) := by
      rw [shown_resolution]
      show (Listing.segments _ (some 9223372036854775842) none >>= _) = _
      rfl
    rw [renderRom_of_listed hd, present_eq, hlines, hline, hshown]
    rfl
  have hrecord : Listing.record d.lines d.region =
      "Disassembled 1 words at 0x0000-0x0002 (0 unrecognised)" := by
    rw [record_of_read hd hread rfl]
    decide
  have hroms : settings.resolution.roms = .ok ["a.ch8"] := rfl
  have hlevel : Logger.setLevel ⟨"chipdis", "INFO", false, true, 0, {}⟩ "DEBUG" =
      .ok ⟨"chipdis", "DEBUG", false, true, 0, {}⟩ := rfl
  obtain ⟨hitems, hended⟩ := transcript_cons_of_fault .debug hfault []
  rw [account_of_listed hd, hfault, report, hrecord] at hitems
  have houtcome : outcome = .ofItems ⟨"chipdis", "DEBUG", false, true, 0, {}⟩
      [.record .info "Disassembling /a.ch8",
        .record .debug "Disassembled 1 words at 0x0000-0x0002 (0 unrecognised)"]
      (.error (.textBeyondIndex 9223372036854775808)) := by
    rw [← hended]
    have hready : Logger.Ready ⟨"chipdis", "DEBUG", false, true, 0, {}⟩ .debug := ⟨rfl, by decide⟩
    refine (run_eq hroms (by decide) rfl hlevel hready files).trans ?_
    rw [hitems]
    rfl
  rw [houtcome]
  refine ⟨?_, rfl, rfl, fun name h => by cases h⟩
  have hstamp : Stamp.render 0 0 = "[    0.00s]" := by decide +kernel
  show Logger.line _ (Stamp.render 0 0) _ _ ++ (Logger.line _ (Stamp.render 0 0) _ _ ++ "") = _
  rw [hstamp, String.append_empty]
  rfl

end Viewer

end Chip8
