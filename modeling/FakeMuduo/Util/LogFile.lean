import FakeMuduo.Base.Disk
import FakeMuduo.Base.Text
import FakeMuduo.Util.LogLineRoundTrip
import Mathlib.Data.List.Induction

/-! The files a logger writes its lines to, one after another. -/

namespace FakeMuduo.Util

open FakeMuduo.Base

namespace LogFile

def kRollPerSeconds : Int := 60 * 60 * 24

/-- A formatted log line; none is empty. -/
structure Line where
  text : Text
  nonempty : text ≠ []

/-- What a `LogLine` prints. -/
def Line.ofOutput {memory : LogLine.Memory} {printer : LogLine.Printer}
    {line : LogLine} {errno : Int} {output : LogLine.Output}
    (printed : line.stringify memory printer errno = .ok output) : Line :=
  ⟨output.text, LogLine.stringify_nonempty printed⟩

/-- What a log file is made with, and what it is told from outside: the host's name, the
readings of the clock in the order in which they are asked for, and how
`localtime_r` and `strftime` write one of them. -/
structure Setting where
  logFileName : Text
  logFileMaxSize : Nat
  checkLines : Nat
  flushInterval : Nat
  hostName : Text
  clock : Nat → Int
  timeToString : Int → Text

end LogFile

/-- `readings` counts the calls of `time()`; an open stream and the file
behind it are not told apart. -/
structure LogFile where
  disk : Disk Text UInt8
  writenBytes : Nat
  lineCounts : Nat
  startLogTime : Int
  lastFlushTime : Int
  readings : Nat

namespace LogFile

variable (setting : Setting)

def day (now : Int) : Int := now.tdiv kRollPerSeconds * kRollPerSeconds

def getLogFileName (now : Int) : Text :=
  setting.logFileName ++ setting.timeToString now ++ setting.hostName ++ ascii ".log"

/-- The constructor's `rollFile()`, on a disk with the given files. -/
def create (files : Text → Text) : LogFile :=
  let now := setting.clock 0
  { disk := .create files (getLogFileName setting now)
    writenBytes := 0
    lineCounts := 0
    startLogTime := day now
    lastFlushTime := now
    readings := 1 }

def rollFile (file : LogFile) : LogFile :=
  let now := setting.clock file.readings
  { disk := file.disk.truncate (getLogFileName setting now)
    writenBytes := 0
    lineCounts := 0
    startLogTime := day now
    lastFlushTime := now
    readings := file.readings + 1 }

/-- The line goes to the open stream. -/
def put (file : LogFile) (line : Line) : LogFile :=
  { file with disk := file.disk.append line.text, writenBytes := file.writenBytes +
    line.text.length }

def write (file : LogFile) (line : Line) : LogFile :=
  let file := file.put line
  if setting.logFileMaxSize ≤ file.writenBytes then
    file.rollFile setting
  else
    let file := { file with lineCounts := file.lineCounts + 1 }
    if setting.checkLines ≤ file.lineCounts then
      let now := setting.clock file.readings
      let file := { file with lineCounts := 0, readings := file.readings + 1 }
      if day now ≠ file.startLogTime then
        file.rollFile setting
      else if setting.flushInterval < now - file.lastFlushTime then
        { file with lastFlushTime := now }
      else
        file
    else
      file

def writeAll (files : Text → Text) (lines : List Line) : LogFile :=
  lines.foldl (write setting) (create setting files)

/-- The reading of the clock from which a write names the file it rolls to, if it rolls. -/
def rollReading (file : LogFile) (line : Line) : Option Int :=
  if setting.logFileMaxSize ≤ file.writenBytes + line.text.length then
    some (setting.clock file.readings)
  else if setting.checkLines ≤ file.lineCounts + 1 ∧ day (setting.clock file.readings) ≠
    file.startLogTime then
    some (setting.clock (file.readings + 1))
  else
    none

theorem write_disk (file : LogFile) (line : Line) :
    (write setting file line).disk =
      match rollReading setting file line with
      | some now => (file.disk.append line.text).truncate (getLogFileName setting now)
      | none => file.disk.append line.text := by
  simp only [write, put, rollReading]
  by_cases full : setting.logFileMaxSize ≤ file.writenBytes + line.text.length
  · simp only [full, if_true]
    rfl
  · simp only [full, if_false]
    by_cases due : setting.checkLines ≤ file.lineCounts + 1
    · by_cases today : day (setting.clock file.readings) = file.startLogTime
      · by_cases stale : (setting.flushInterval : Int) <
          setting.clock file.readings - file.lastFlushTime
        · simp only [due, today, stale, if_true, ne_eq, not_true, if_false, and_false]
        · simp only [due, today, stale, if_true, ne_eq, not_true, if_false, and_false]
      · simp only [due, today, if_true, ne_eq, not_false_eq_true, and_self]
        rfl
    · simp only [due, if_false, false_and]

/-- The write does not roll to a file that was opened before. -/
def RollsToNew (file : LogFile) (line : Line) : Prop :=
  ∀ now, rollReading setting file line = some now → getLogFileName setting now ∉ file.disk.order

/-- No write of the lines rolls to a file that was opened before. -/
def AlwaysRollsToNew (files : Text → Text) (lines : List Line) : Prop :=
  ∀ before line after, lines = before ++ line :: after →
    RollsToNew setting (writeAll setting files before) line

variable {setting} {files : Text → Text} {file : LogFile}

theorem alwaysRollsToNew_concat (lines : List Line) (line : Line) :
    AlwaysRollsToNew setting files (lines ++ [line]) ↔
      AlwaysRollsToNew setting files lines ∧
        RollsToNew setting (writeAll setting files lines) line := by
  constructor
  · intro always
    refine ⟨?_, always lines line [] rfl⟩
    rintro before earlier after rfl
    exact always before earlier (after ++ [line]) (by simp)
  · rintro ⟨earlier, now⟩ before other after split
    rcases List.eq_nil_or_concat after with rfl | ⟨rest, last, rfl⟩
    · obtain ⟨rfl, same⟩ := List.append_inj' split rfl
      cases same
      exact now
    · have shape : lines ++ [line] = (before ++ other :: rest) ++ [last] := by simpa using split
      obtain ⟨whole, _⟩ := List.append_inj' shape rfl
      exact earlier before other rest whole

/-- The texts of the lines, as they are to be found in the files. -/
def texts (lines : List Line) : List Text := lines.map Line.text

theorem texts_concat (lines : List Line) (line : Line) :
    texts (lines ++ [line]) = texts lines ++ [line.text] := by
  simp [texts]

theorem writeAll_concat (lines : List Line) (line : Line) :
    writeAll setting files (lines ++ [line]) = write setting
      (writeAll setting files lines) line := by
  simp [writeAll]

theorem write_grows {pieces : List Text} {line : Line} (grows : file.disk.Grows pieces)
    (rollsToNew : RollsToNew setting file line) :
    (write setting file line).disk.Grows (pieces ++ [line.text]) := by
  have grown := grows.append line.text
  rw [write_disk]
  cases rolls : rollReading setting file line with
  | none => exact grown
  | some now =>
    have filled := grows.append_filled line.nonempty grows.stored.current
    exact grown.truncate filled (rollsToNew now rolls)

theorem write_short {pieces : List Text} {line : Line} (short : file.disk.Short pieces)
    (stored : file.disk.Stored) : (write setting file line).disk.Short (pieces ++ [line.text]) := by
  have shorter := short.append stored line.text
  rw [write_disk]
  cases rollReading setting file line with
  | none => exact shorter
  | some now => exact shorter.truncate (stored.append line.text) _

theorem write_stored {line : Line} (stored : file.disk.Stored) :
    (write setting file line).disk.Stored := by
  rw [write_disk]
  cases rollReading setting file line with
  | none => exact stored.append line.text
  | some now => exact (stored.append line.text).truncate _

/-- A write that rolls to a file opened before loses what that file held. -/
theorem write_loses {pieces : List Text} {line : Line} (grows : file.disk.Grows pieces)
    (reopens : ¬ RollsToNew setting file line) :
    (write setting file line).disk.Short (pieces ++ [line.text]) := by
  simp only [RollsToNew, not_forall, not_not] at reopens
  obtain ⟨now, rolls, used⟩ := reopens
  rw [write_disk, rolls]
  exact (grows.append line.text).truncate_short used (grows.append_filled line.nonempty used)

/-- As long as rolls go to new files the disk grows, and after one that does not it stays short. -/
theorem writeAll_outcome (setting : Setting) (files : Text → Text) (lines : List Line) :
    (AlwaysRollsToNew setting files lines →
      (writeAll setting files lines).disk.Grows (texts lines)) ∧
      (¬ AlwaysRollsToNew setting files lines →
        (writeAll setting files lines).disk.Stored ∧
          (writeAll setting files lines).disk.Short (texts lines)) := by
  induction lines using List.reverseRecOn with
  | nil =>
    refine ⟨fun _ => Disk.create_grows _ _, ?_⟩
    intro reopens
    refine absurd ?_ reopens
    intro before line after split
    cases before <;> cases split
  | append_singleton lines line ih =>
    rw [alwaysRollsToNew_concat, writeAll_concat, texts_concat]
    obtain ⟨grows, short⟩ := ih
    refine ⟨?_, ?_⟩
    · rintro ⟨always, rollsToNew⟩
      exact write_grows (grows always) rollsToNew
    · intro reopens
      by_cases always : AlwaysRollsToNew setting files lines
      · have current : ¬ RollsToNew setting (writeAll setting files lines) line :=
          fun rollsToNew => reopens ⟨always, rollsToNew⟩
        exact ⟨write_stored (grows always).stored, write_loses (grows always) current⟩
      · obtain ⟨stored, lost⟩ := short always
        exact ⟨write_stored stored, write_short lost stored⟩

/-- The files hold all the lines in order and whole exactly if no roll opens a file again. -/
theorem retains_iff_rollsToNew (setting : Setting) (files : Text → Text) (lines : List Line) :
    (writeAll setting files lines).disk.Holds (texts lines) ↔
      AlwaysRollsToNew setting files lines := by
  obtain ⟨grows, short⟩ := writeAll_outcome setting files lines
  constructor
  · intro holds
    by_contra reopens
    exact (short reopens).2.not_holds holds
  · intro always
    exact (grows always).holds

/-- A log file of one byte in the second from which it is named. -/
def oneByteFile : Setting where
  logFileName := ascii "./LogFile_test"
  logFileMaxSize := 1
  checkLines := 1000
  flushInterval := 3
  hostName := ascii "host"
  clock := fun _ => 1628308800
  timeToString := fun _ => ascii ".20210807-040000."

/-- Of two lines written within a second both are lost: each fills its file, and the
rolls open the same one. -/
theorem reopens_within_second (first second : Line) :
    ¬ (writeAll oneByteFile (fun _ => []) [first, second]).disk.Holds
      [first.text, second.text] := by
  refine (((writeAll_outcome oneByteFile (fun _ => []) [first, second]).2) ?_).2.not_holds
  intro always
  have unused := always [first] second [] rfl 1628308800
  have filled : 1 ≤ first.text.length := List.length_pos_iff.mpr first.nonempty
  have full : 1 ≤ second.text.length := List.length_pos_iff.mpr second.nonempty
  refine unused (if_pos (Nat.le_trans full (Nat.le_add_left _ _))) ?_
  simp [writeAll, write, put, create, rollFile, Disk.create, Disk.truncate, Disk.append,
    oneByteFile, filled]

theorem loses_within_second :
    (∀ earlier later, earlier ≤ later → oneByteFile.clock earlier ≤ oneByteFile.clock later) ∧
      ∃ (line : LogLine) (output : LogLine.Output)
        (printed : line.stringify LogLine.noStrings LogLine.epochPrinter 0 = .ok output),
        output.text = ascii "1970-01-01 00:00:00.000000 1 [INFO] <> hello - :25\n" ∧
        ¬ (writeAll oneByteFile (fun _ => []) [.ofOutput printed, .ofOutput printed]).disk.Holds
          [output.text, output.text] := by
  refine ⟨fun _ _ _ => Int.le_refl _, ?_⟩
  obtain ⟨line, _, holds⟩ :=
    LogLine.build_holds (fun _ _ => 0) LogLine.epochHeader [.string (ascii "hello")]
  have printed := holds.stringify LogLine.epochPrinter LogLine.epochHeader _ 0
  exact ⟨line, _, printed, by
    decide +kernel, reopens_within_second (.ofOutput printed) (.ofOutput printed)⟩

/-- What is known of the sizes while no line is longer than `longest`. -/
structure Sized (setting : Setting) (longest : Nat) (file : LogFile) : Prop where
  current : (file.disk.files file.disk.current).length = file.writenBytes
  room : file.writenBytes = 0 ∨ file.writenBytes < setting.logFileMaxSize
  opened : ∀ name ∈ file.disk.order, (file.disk.files name).length ≤
    setting.logFileMaxSize - 1 + longest

theorem create_sized (setting : Setting) (longest : Nat) (files : Text → Text) :
    Sized setting longest (create setting files) := by
  refine ⟨?_, .inl rfl, ?_⟩
  · simp [create, Disk.create]
  · intro name member
    rw [List.mem_singleton.mp member]
    simp [create, Disk.create]

/-- The line fits into the file, whatever is decided after it. -/
theorem put_opened {longest : Nat} (sized : Sized setting longest file) {line : Line}
    (short : line.text.length ≤ longest) {name : Text} (member : name ∈ file.disk.order) :
    ((file.put line).disk.files name).length ≤ setting.logFileMaxSize - 1 + longest := by
  by_cases here : name = file.disk.current
  · subst here
    have current := sized.current
    have room := sized.room
    simp only [put, Disk.append, Function.update_self, List.length_append, current]
    omega
  · simpa only [put, Disk.append, Function.update_of_ne here] using sized.opened name member

theorem rollFile_sized {longest : Nat} {written : LogFile}
    (opened : ∀ name ∈ written.disk.order,
      (written.disk.files name).length ≤ setting.logFileMaxSize - 1 + longest) :
    Sized setting longest (written.rollFile setting) := by
  refine ⟨?_, .inl rfl, ?_⟩
  · simp [rollFile, Disk.truncate]
  · intro name member
    by_cases here : name = getLogFileName setting (setting.clock written.readings)
    · subst here
      simp [rollFile, Disk.truncate]
    · have kept : name ∈ written.disk.order := by
        simp only [rollFile, Disk.truncate] at member
        split at member
        · exact member
        · exact (List.mem_append.mp member).resolve_right (here ∘ List.mem_singleton.mp)
      simpa only [rollFile, Disk.truncate, Function.update_of_ne here] using opened name kept

theorem write_sized {longest : Nat} (sized : Sized setting longest file) {line : Line}
    (short : line.text.length ≤ longest) : Sized setting longest (write setting file line) := by
  have opened : ∀ name ∈ (file.put line).disk.order,
      ((file.put line).disk.files name).length ≤ setting.logFileMaxSize - 1 + longest :=
    fun name member => put_opened sized short member
  have current : ((file.put line).disk.files (file.put line).disk.current).length =
      (file.put line).writenBytes := by
    simp only [put, Disk.append, Function.update_self, List.length_append, sized.current]
  simp only [write]
  split
  · exact rollFile_sized opened
  · rename_i notFull
    have room : (file.put line).writenBytes = 0 ∨ (file.put line).writenBytes <
        setting.logFileMaxSize :=
      .inr (Nat.lt_of_not_le notFull)
    split
    · split
      · exact rollFile_sized opened
      · split
        · exact ⟨current, room, opened⟩
        · exact ⟨current, room, opened⟩
    · exact ⟨current, room, opened⟩

/-- No file that the logger opens outgrows its maximum by more than its last line, and the one being
written is below it. -/
theorem files_bounded (setting : Setting) (files : Text → Text) (longest : Nat) (lines : List Line)
    (short : ∀ line ∈ lines, line.text.length ≤ longest) :
    (∀ name ∈ (writeAll setting files lines).disk.order,
      ((writeAll setting files lines).disk.files name).length ≤
        setting.logFileMaxSize - 1 + longest) ∧
    (0 < setting.logFileMaxSize →
      ((writeAll setting files lines).disk.files
        (writeAll setting files lines).disk.current).length <
        setting.logFileMaxSize) := by
  have sized : Sized setting longest (writeAll setting files lines) := by
    induction lines using List.reverseRecOn with
    | nil => exact create_sized setting longest files
    | append_singleton lines line ih =>
      rw [writeAll_concat]
      apply write_sized
      · exact ih fun earlier member => short earlier (List.mem_append_left _ member)
      · exact short line (by simp)
  refine ⟨sized.opened, ?_⟩
  intro positive
  rw [sized.current]
  have room := sized.room
  omega

/-- Files of four bytes, each named by another reading of the clock. -/
def fourByteFiles : Setting :=
  { oneByteFile with
    logFileMaxSize := 4
    clock := fun reading => reading
    timeToString := fun now => [now.toNat.toUInt8] }

/-- Lines of two and of three bytes. -/
def shortLines : List Line :=
  [⟨[98, 10], List.cons_ne_nil _ _⟩, ⟨[99, 99, 10], List.cons_ne_nil _ _⟩,
    ⟨[100, 10], List.cons_ne_nil _ _⟩]

theorem files_bounded_fourByte :
    let file := writeAll fourByteFiles (fun _ => []) shortLines
    file.disk.order.map file.disk.files = [[98, 10, 99, 99, 10], [100, 10]] ∧
      (∀ name ∈ file.disk.order, (file.disk.files name).length ≤ 6) ∧
      (file.disk.files file.disk.current).length < 4 := by
  have bounded := files_bounded fourByteFiles (fun _ => []) 3 shortLines (by decide)
  exact ⟨by decide +kernel, bounded.1, bounded.2 (by decide)⟩

end LogFile

end FakeMuduo.Util
