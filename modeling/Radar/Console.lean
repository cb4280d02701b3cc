import Radar.Base.Scan
import Radar.Outcomes

/-!
# What the program prints

`radar_display_show` prints one line for a report, `handler_plate_infraction` one for a plate, and
`camera_thread` one when it starts and one for everything that goes wrong. `console` is the firmware with
all these calls of `printk`, each in one step. Every line can be read with the format it was printed with,
so the text says which reports were shown, which plates got which verdict and what `camera_thread` met, in
this order (`console_read_back`). What the logging macros write is no part of it.

The display cuts a line after 64 bytes, but what it keeps still tells the reports apart if type, axles,
speed and limit take at most 20 bytes (`display_identifies`).
-/

namespace Radar

open Printk

variable {gpio : GpioDriver} {driver : DisplayDriver} {cfg : Config} {tables : PlateTables}
  {s s' : System} {o : List SystemOutput} {m : SystemMove} (data data' : RadarDisplayData)

/-! ### The line of a report -/

theorem delimited_line (status : List UInt8) : Delimited (bytes lineFormat) (lineArgsWith data status) := by
  rw [lineFormat_pieces, lineArgsWith, delimited_text (by decide)]
  refine delimited_conversion (by decide) ?_ ?_
  · intro b hb
    obtain rfl : b = 32 := (Option.mem_some.mp hb).symm
    cases data.type <;> decide
  rw [delimited_text (by decide)]
  refine delimited_conversion (by decide) (by simp [Arg.EndsAt]; decide) ?_
  rw [delimited_text (by decide)]
  refine delimited_conversion (by decide) (by simp [Arg.EndsAt]; decide) ?_
  rw [delimited_text (by decide)]
  refine delimited_conversion (by decide) (by simp [Arg.EndsAt]; decide) ?_
  rw [delimited_text (by decide)]
  exact delimited_conversion (by decide) (by simp [Arg.EndsAt]) rfl

theorem scan_line (status : List UInt8) :
    scan (bytes lineFormat) (lineHead data ++ status) = some (lineArgsWith data status) :=
  scan_format (format_lineWith data status) (delimited_line data status)

/-! ### The display -/

/-- The bytes that the fields before the status take. -/
def headWidth (data : RadarDisplayData) : ℕ :=
  (bytes (vehicleTypeStr data.type)).length + digits data.axleCount.toNat +
    width data.measuredSpeedKmh.toInt + width data.limitKmh.toInt

theorem length_lineHead : (lineHead data).length = 43 + headWidth data := by
  have hline := length_lineText data
  rw [lineText_eq, List.length_append, reportWidth] at hline
  rw [headWidth]
  omega

/-- The display shows the line with a cut status. -/
theorem take_lineText (h : headWidth data ≤ 21) :
    (lineText data).take 64 =
      lineHead data ++ (bytes (statusStr data.status)).take (21 - headWidth data) := by
  have hlen := length_lineHead data
  have hrest : 64 - (lineHead data).length = 21 - headWidth data := by omega
  rw [lineText_eq, List.take_append, List.take_of_length_le (by omega), hrest]

/-- The texts of the statuses differ in their first bytes. -/
theorem statusStr_of_head (st st' : RadarInfractionStatus) {k : ℕ} (hk : k ≠ 0)
    (h : (bytes (statusStr st)).take k = (bytes (statusStr st')).take k) : statusStr st = statusStr st' := by
  have hhead : (bytes (statusStr st)).head? = (bytes (statusStr st')).head? := by
    have htake : ∀ l : List UInt8, (l.take k).head? = l.head? := fun l => by
      rw [List.head?_take, if_neg hk]
    rw [← htake, h, htake]
  cases st <;> cases st' <;> first
    | rfl
    | simp only [statusStr] at hhead
      exact absurd hhead (by decide)

/-- **The display tells reports apart.** If two reports leave room for the status and look alike on the
display, their lines are the same, whatever was cut off. -/
theorem display_identifies (hwidth : headWidth data ≤ 20) (hwidth' : headWidth data' ≤ 20)
    (h : displayWrite data = displayWrite data') : lineArgs data = lineArgs data' := by
  have htext : (lineText data).take 64 = (lineText data').take 64 := by
    simp only [displayWrite, Output.displayWrite.injEq] at h
    exact h.2
  rw [take_lineText data (by omega), take_lineText data' (by omega)] at htext
  have hargs : some (lineArgsWith data ((bytes (statusStr data.status)).take (21 - headWidth data))) =
      some (lineArgsWith data' ((bytes (statusStr data'.status)).take (21 - headWidth data'))) := by
    rw [← scan_line, ← scan_line, htext]
  simp only [lineArgsWith, Option.some.injEq, List.cons.injEq, Arg.str.injEq, Arg.uint.injEq,
    Arg.int.injEq, and_true] at hargs
  obtain ⟨htype, haxles, hspeed, hlimit, hstatus⟩ := hargs
  have haxles' : data.axleCount.toNat = data'.axleCount.toNat := by
    rw [← UInt8.toNat_toUInt32, haxles, UInt8.toNat_toUInt32]
  have hsame : headWidth data = headWidth data' := by
    rw [headWidth, headWidth, htype, haxles', hspeed, hlimit]
  rw [hsame] at hstatus
  have hstatus' := statusStr_of_head data.status data'.status (by omega) hstatus
  simp only [lineArgs, htype, haxles, hspeed, hlimit, hstatus']

/-- Ten axles at 100 km/h, whose line is cut: the display does not tell the elapsed time, but it does tell
an infraction from a warning. -/
theorem long_truck_identified :
    lineArgs longTruck = lineArgs { longTruck with deltaMs := 35 } ∧
      displayWrite longTruck ≠ displayWrite { longTruck with status := .warning } := by
  refine ⟨display_identifies _ _ (by decide) (by decide) rfl, fun h => ?_⟩
  have hargs := display_identifies longTruck { longTruck with status := .warning } (by decide) (by decide) h
  exact absurd hargs (by decide)

/-! ### Entries -/

/-- What a printed line says. -/
inductive Entry where
  | report (colour : UInt32) (args : List Arg)
  | plate (text : List UInt8) (isValid : Bool)
  /-- `camera_thread` is at its loop. -/
  | started
  | errorCode (err line : Int32)
  | notSupported
deriving DecidableEq

def colour : RadarInfractionStatus → UInt32
  | .normal => 32
  | .warning => 33
  | .infraction => 31
  | .other _ => 0

def consoleFormat : String := "\x1b[%um[RADAR] %s\x1b[0m"

def verdictStr (isValid : Bool) : String := if isValid then "VALIDA" else "INVÁLIDA"

def startedStr : String := "Camera service started...[ok]"

def notSupportedStr : String := "Command not suported"

def errorFormat : String := "Error code %d in %s (line:%d)"

/-- The arguments of an error line; `__FUNCTION__` is `camera_thread`. -/
def errorArgs (err line : Int32) : List Arg := [.int err, .str (bytes "camera_thread"), .int line]

/-- The line of an entry, without its newline. -/
def Entry.line : Entry → List UInt8
  | .report colour args =>
    (do let text ← format (bytes lineFormat) args
        format (bytes consoleFormat) [.uint colour, .str text]).getD []
  | .plate text isValid => bytes "A placa " ++ (text ++ (bytes " é " ++ bytes (verdictStr isValid)))
  | .started => bytes startedStr
  | .errorCode err line => (format (bytes errorFormat) (errorArgs err line)).getD []
  | .notSupported => bytes notSupportedStr

/-- The entry of a report. -/
def Entry.ofReport (data : RadarDisplayData) : Entry := .report (colour data.status) (lineArgs data)

def stripPrefix (pre text : List UInt8) : Option (List UInt8) :=
  if pre <+: text then some (text.drop pre.length) else none

def stripSuffix (suf text : List UInt8) : Option (List UInt8) :=
  if suf <:+ text then some (text.take (text.length - suf.length)) else none

def readReport (line : List UInt8) : Option Entry := do
  match ← scan (bytes consoleFormat) line with
  | [.uint colour, .str text] => (scan (bytes lineFormat) text).map (.report colour)
  | _ => none

def readPlate (line : List UInt8) : Option Entry := do
  let rest ← stripPrefix (bytes "A placa ") line
  ((stripSuffix (bytes " é VALIDA") rest).map (.plate · true)) <|>
    (stripSuffix (bytes " é INVÁLIDA") rest).map (.plate · false)

/-- The lines of `camera_thread`. -/
def readService (line : List UInt8) : Option Entry :=
  if line = bytes startedStr then some .started
  else if line = bytes notSupportedStr then some .notSupported
  else do
    match ← scan (bytes errorFormat) line with
    | [.int err, .str function, .int number] =>
      if function = bytes "camera_thread" then some (.errorCode err number) else none
    | _ => none

/-- A line that begins with an escape byte is one of a report, and one with an `A` that of a plate. -/
def readLine (line : List UInt8) : Option Entry :=
  if line.head? = some 27 then readReport line
  else if line.head? = some 65 then readPlate line
  else readService line

def readLog (text : List UInt8) : Option (List Entry) := (splitLines text).mapM readLine

/-! ### Reading lines back -/

theorem consoleFormat_pieces :
    bytes consoleFormat = bytes "\x1b[" ++ 37 :: 117 :: (bytes "m[RADAR] " ++ 37 :: 115 ::
      bytes "\x1b[0m") := by
  decide

theorem format_entry (colour : UInt32) (text : List UInt8) :
    format (bytes consoleFormat) [.uint colour, .str text] =
      some (bytes "\x1b[" ++ (decimal colour.toNat ++ (bytes "m[RADAR] " ++ (text ++ bytes "\x1b[0m")))) := by
  rw [consoleFormat_pieces, format_text (by decide), format_conversion (convert_uint _),
    format_text (by decide), format_conversion (convert_str _), format_end (by decide)]
  rfl

theorem line_report :
    (Entry.ofReport data).line = bytes "\x1b[" ++ (decimal (colour data.status).toNat ++
      (bytes "m[RADAR] " ++ (lineText data ++ bytes "\x1b[0m"))) := by
  simp only [Entry.ofReport, Entry.line, format_line, format_entry, Option.bind_eq_bind, Option.bind_some,
    Option.getD_some]

/-- A report is printed as its entry. -/
theorem consoleText_eq : consoleText data.status (lineText data) = (Entry.ofReport data).line ++ [10] := by
  have hcolour : bytes (statusColor data.status) ++ bytes "[RADAR] " =
      bytes "\x1b[" ++ (decimal (colour data.status).toNat ++ bytes "m[RADAR] ") := by
    cases data.status with
    | other raw => exact (by decide : bytes ansiReset ++ bytes "[RADAR] " =
        bytes "\x1b[" ++ (decimal 0 ++ bytes "m[RADAR] "))
    | _ => decide
  rw [line_report, consoleText, ← List.append_assoc, hcolour]
  simp only [List.append_assoc]
  rfl

theorem notMem_line {b : UInt8} (hdigit : isDigit b = false) (hminus : b ≠ 45)
    (hfmt : b ∉ bytes lineFormat) (htype : ∀ type, b ∉ bytes (vehicleTypeStr type))
    (hstatus : ∀ status, b ∉ bytes (statusStr status)) : b ∉ lineText data := by
  refine notMem_format (format_line data) hdigit hminus hfmt fun s hs => ?_
  have hs' : s = bytes (vehicleTypeStr data.type) ∨ s = bytes (statusStr data.status) := by
    simpa [lineArgs] using hs
  rcases hs' with rfl | rfl
  · exact htype data.type
  · exact hstatus data.status

theorem escape_notMem_line : 27 ∉ lineText data := by
  refine notMem_line data (by decide) (by decide) (by decide) (fun type => ?_) fun status => ?_
  · cases type <;> decide
  · cases status with
    | other raw => exact (by decide : 27 ∉ bytes "DESCONHECIDO")
    | _ => decide

theorem newline_notMem_line : 10 ∉ lineText data := by
  refine notMem_line data (by decide) (by decide) (by decide) (fun type => ?_) fun status => ?_
  · cases type <;> decide
  · cases status with
    | other raw => exact (by decide : 10 ∉ bytes "DESCONHECIDO")
    | _ => decide

theorem readLine_report : readLine (Entry.ofReport data).line = some (.ofReport data) := by
  have hline := line_report data
  have hdelimited : Delimited (bytes consoleFormat) [.uint (colour data.status), .str (lineText data)] := by
    rw [consoleFormat_pieces, delimited_text (by decide)]
    refine delimited_conversion (by decide) ?_ ?_
    · intro b hb
      rw [← Option.mem_some.mp hb]
      decide
    rw [delimited_text (by decide)]
    refine delimited_conversion (by decide) ?_ (delimited_end (by decide))
    intro b hb
    rw [← Option.mem_some.mp hb]
    exact escape_notMem_line data
  have hconsole : scan (bytes consoleFormat) (Entry.ofReport data).line =
      some [.uint (colour data.status), .str (lineText data)] := by
    rw [hline]
    exact scan_format (format_entry _ _) hdelimited
  have hescape : (Entry.ofReport data).line.head? = some 27 := by
    rw [hline]
    rfl
  rw [readLine, if_pos hescape, readReport, hconsole, Option.bind_eq_bind, Option.bind_some]
  show (scan (bytes lineFormat) (lineText data)).map (Entry.report (colour data.status)) = _
  rw [lineText_eq, scan_line]
  rfl

theorem newline_notMem_report : 10 ∉ (Entry.ofReport data).line := by
  have hnumber : 10 ∉ decimal (colour data.status).toNat := fun hmem =>
    absurd (isDigit_decimal _ _ hmem) (by decide)
  simp only [line_report, List.mem_append, not_or]
  exact ⟨by decide, hnumber, by decide, newline_notMem_line data, by decide⟩

theorem stripPrefix_append (pre text : List UInt8) : stripPrefix pre (pre ++ text) = some text := by
  rw [stripPrefix, if_pos (List.prefix_append pre text), List.drop_left]

theorem stripSuffix_append (text suf : List UInt8) : stripSuffix suf (text ++ suf) = some text := by
  rw [stripSuffix, if_pos (List.suffix_append text suf), List.length_append, Nat.add_sub_cancel,
    List.take_left]

theorem stripSuffix_of_not {suf end_ : List UInt8} (text : List UInt8) (hlen : suf.length ≤ end_.length)
    (h : ¬ suf <:+ end_) : stripSuffix suf (text ++ end_) = none :=
  if_neg fun hsuf => h (List.suffix_of_suffix_length_le hsuf (List.suffix_append text end_) hlen)

theorem readLine_plate (text : List UInt8) (isValid : Bool) :
    readLine (Entry.plate text isValid).line = some (.plate text isValid) := by
  have hhead : (Entry.plate text isValid).line.head? = some 65 := rfl
  rw [readLine, hhead, if_neg (by decide), if_pos rfl, readPlate, Entry.line, stripPrefix_append,
    Option.bind_eq_bind, Option.bind_some]
  cases isValid with
  | true =>
    have hsuf : bytes " é " ++ bytes (verdictStr true) = bytes " é VALIDA" := by decide
    rw [hsuf, stripSuffix_append]
    rfl
  | false =>
    have hsuf : bytes " é " ++ bytes (verdictStr false) = bytes " é INVÁLIDA" := by decide
    rw [hsuf, stripSuffix_append, stripSuffix_of_not text (by decide) (by decide)]
    rfl

theorem newline_notMem_plate {text : List UInt8} (h : 10 ∉ text) (isValid : Bool) :
    10 ∉ (Entry.plate text isValid).line := by
  have hverdict : 10 ∉ bytes (verdictStr isValid) := by cases isValid <;> decide
  simp only [Entry.line, List.mem_append, not_or]
  exact ⟨by decide, h, by decide, hverdict⟩

theorem errorFormat_pieces :
    bytes errorFormat = bytes "Error code " ++ 37 :: 100 :: (bytes " in " ++ 37 :: 115 ::
      (bytes " (line:" ++ 37 :: 100 :: bytes ")")) := by
  decide

theorem format_error (err line : Int32) :
    format (bytes errorFormat) (errorArgs err line) = some (Entry.errorCode err line).line := by
  have hformat : ∃ text, format (bytes errorFormat) (errorArgs err line) = some text := by
    rw [errorFormat_pieces, errorArgs, format_text (by decide), format_conversion (convert_int _),
      format_text (by decide), format_conversion (convert_str _), format_text (by decide),
      format_conversion (convert_int _), format_end (by decide)]
    exact ⟨_, rfl⟩
  obtain ⟨text, htext⟩ := hformat
  rw [Entry.line, htext, Option.getD_some]

theorem delimited_error (err line : Int32) : Delimited (bytes errorFormat) (errorArgs err line) := by
  rw [errorFormat_pieces, errorArgs, delimited_text (by decide)]
  refine delimited_conversion (by decide) (by simp [Arg.EndsAt]; decide) ?_
  rw [delimited_text (by decide)]
  refine delimited_conversion (by decide) ?_ ?_
  · intro b hb
    rw [← Option.mem_some.mp hb]
    decide
  rw [delimited_text (by decide)]
  refine delimited_conversion (by decide) ?_ (delimited_end (by decide))
  intro b hb
  have hparen : (bytes ")").head? = some 41 := rfl
  rw [hparen, Option.mem_some] at hb
  rw [← hb]
  decide

theorem head_error (err line : Int32) : (Entry.errorCode err line).line.head? = some 69 := by
  have hfmt : (bytes errorFormat).head? = some 69 := rfl
  have hstop : (bytes errorFormat).head? ≠ some 37 := by
    rw [hfmt]
    decide
  exact (head_format (format_error err line) hstop).trans hfmt

theorem newline_notMem_error (err line : Int32) : 10 ∉ (Entry.errorCode err line).line := by
  refine notMem_format (format_error err line) (by decide) (by decide) (by decide) fun s hs => ?_
  obtain rfl : s = bytes "camera_thread" := by simpa [errorArgs] using hs
  decide

theorem readLine_error (err line : Int32) :
    readLine (Entry.errorCode err line).line = some (.errorCode err line) := by
  have hhead := head_error err line
  have hne : ∀ text : List UInt8, text.head? ≠ some 69 → (Entry.errorCode err line).line ≠ text := by
    rintro text htext rfl
    exact htext hhead
  rw [readLine, hhead, if_neg (by decide), if_neg (by decide), readService,
    if_neg (hne (bytes startedStr) (by decide)), if_neg (hne (bytes notSupportedStr) (by decide)),
    scan_format (format_error err line) (delimited_error err line)]
  rfl

/-! ### The program with its lines -/

/-- `printk("A placa %s é %s\n", ...)` of the handler. -/
def plateText (plate : CString) (isValid : Bool) : Option (List UInt8) :=
  format (bytes "A placa %s é %s\n") [.str plate.bytes, .str (bytes (verdictStr isValid))]

/-- `printk("Error code %d in %s (line:%d)\n", ...)` of `camera_thread`. -/
def errorText (err line : Int32) : Option (List UInt8) :=
  format (bytes "Error code %d in %s (line:%d)\n") (errorArgs err line)

/-- `__LINE__` where `camera_thread` prints an error: after its wait, after the publication of what a
picture gave, or after that of the answer to a command it does not know. -/
def errorLine {τ : Type} : Server τ → Int32
  | .waiting => 50
  | .publishing _ (.error .eNotSup) => 91
  | _ => 79

/-- The firmware, and whether `camera_thread` has come to its loop. -/
structure Console where
  system : System
  started : Bool

inductive ConsoleMove where
  /-- `camera_thread` prints its first line. -/
  | start
  | system (m : SystemMove)

/-- What an observer sees: the first line of `camera_thread`, and what is seen of the firmware, with the
place where `camera_thread` stood. -/
inductive ConsoleOutput where
  | started
  | seen (server : Server RadarDisplayData) (o : SystemOutput)

/-- What is seen of a step of the firmware. -/
def seenAt (server : Server RadarDisplayData) (o : List SystemOutput) : List ConsoleOutput :=
  o.map (.seen server)

/-- A step of `camera_thread`. -/
def SystemMove.ofService : SystemMove → Bool
  | .camera (.subWait _) => true
  | .camera (.serve _) => true
  | .camera (.pubEvt _) => true
  | _ => false

namespace Console

def boot (uptime : UInt32) : Console := ⟨.boot uptime, false⟩

/-- What the firmware does in a step: `camera_thread` waits for no command before its first line. -/
def systemMoves (s : Console) : ConsoleMove → List SystemMove
  | .start => []
  | .system m => if m.ofService = true ∧ s.started = false then [] else [m]

def step (gpio : GpioDriver) (driver : DisplayDriver) (cfg : Config) (tables : PlateTables) (s : Console) :
    ConsoleMove → Option (Console × List ConsoleOutput)
  | .start => if s.started = false then some ({ s with started := true }, [.started]) else some (s, [])
  | .system m =>
    if m.ofService = true ∧ s.started = false then some (s, [])
    else ((Radar.system gpio driver cfg tables).step s.system m).map fun r =>
      ({ s with system := r.1 }, seenAt s.system.camera.server r.2)

end Console

/-- The firmware and the first line of `camera_thread`, in every interleaving. -/
def console (gpio : GpioDriver) (driver : DisplayDriver) (cfg : Config) (tables : PlateTables) :
    StepMachine Console ConsoleMove ConsoleOutput :=
  ⟨Console.step gpio driver cfg tables⟩

@[simp] def ConsoleOutput.system? : ConsoleOutput → Option SystemOutput
  | .started => none
  | .seen _ o => some o

/-- All that `printk` prints. -/
def printed (o : List ConsoleOutput) : List UInt8 :=
  o.flatMap fun
    | .started => bytes "Camera service started...[ok]\n"
    | .seen _ (.display (.printk text)) => text
    | .seen _ (.camera (.plate plate isValid)) => (plateText plate isValid).getD []
    | .seen server (.camera (.errorCode err)) => (errorText err (errorLine server)).getD []
    | .seen _ (.camera .notSupported) => bytes "Command not suported\n"
    | _ => []

/-- The reports shown, the verdicts given and what `camera_thread` met. -/
def entries (o : List ConsoleOutput) : List Entry :=
  o.filterMap fun
    | .started => some .started
    | .seen _ (.call (.display data)) => some (.ofReport data)
    | .seen _ (.camera (.plate plate isValid)) => some (.plate plate.bytes isValid)
    | .seen server (.camera (.errorCode err)) => some (.errorCode err (errorLine server))
    | .seen _ (.camera .notSupported) => some .notSupported
    | _ => none

/-- The text with all lines of some entries. -/
def entriesText (es : List Entry) : List UInt8 := es.flatMap fun e => e.line ++ [10]

variable {server : Server RadarDisplayData}

theorem plateText_eq (plate : CString) (isValid : Bool) :
    plateText plate isValid = some ((Entry.plate plate.bytes isValid).line ++ [10]) := by
  have hpieces : bytes "A placa %s é %s\n" =
      bytes "A placa " ++ 37 :: 115 :: (bytes " é " ++ 37 :: 115 :: bytes "\n") := by decide
  rw [plateText, hpieces, format_text (by decide), format_conversion (convert_str _),
    format_text (by decide), format_conversion (convert_str _), format_end (by decide)]
  simp only [Option.map_some, Entry.line, List.append_assoc]
  rfl

theorem errorText_eq (err line : Int32) :
    errorText err line = some ((Entry.errorCode err line).line ++ [10]) := by
  have hpieces : bytes "Error code %d in %s (line:%d)\n" = bytes "Error code " ++ 37 :: 100 :: (bytes " in " ++
      37 :: 115 :: (bytes " (line:" ++ 37 :: 100 :: (bytes ")" ++ bytes "\n"))) := by decide
  rw [errorText, Entry.line, hpieces, errorFormat_pieces, errorArgs]
  simp only [format_text (show 37 ∉ bytes "Error code " by decide), format_text (show 37 ∉ bytes " in " by decide),
    format_text (show 37 ∉ bytes " (line:" by decide), format_conversion (convert_int _),
    format_conversion (convert_str _), format_end (show 37 ∉ bytes ")" by decide),
    format_end (show 37 ∉ bytes ")" ++ bytes "\n" by decide), Option.map_some, Option.getD_some,
    List.append_assoc]
  rfl

theorem seenAt_append (o o' : List SystemOutput) :
    seenAt server (o ++ o') = seenAt server o ++ seenAt server o' := List.map_append

theorem printed_append (o o' : List ConsoleOutput) : printed (o ++ o') = printed o ++ printed o' :=
  List.flatMap_append

theorem entries_append (o o' : List ConsoleOutput) : entries (o ++ o') = entries o ++ entries o' :=
  List.filterMap_append

theorem entriesText_append (es es' : List Entry) :
    entriesText (es ++ es') = entriesText es ++ entriesText es' := List.flatMap_append

/-! ### Every line can be read -/

/-- The plates of both tables. -/
def PlateTables.Lists (tables : PlateTables) (plate : CString) : Prop :=
  ∃ d, (d ∈ tables.validCarLicensePlates ∨ d ∈ tables.invalidCarLicensePlates) ∧ d.plate = plate

theorem serve_lists {rand : UInt16} {d : CameraData} (h : tables.serve .capture rand = .data d) :
    tables.Lists d.plate := by
  simp only [PlateTables.serve] at h
  split_ifs at h
  · cases h
    exact ⟨_, .inl (Array.getElem_mem _), rfl⟩
  · cases h
    exact ⟨_, .inr (Array.getElem_mem _), rfl⟩

/-- The line of the entry can be read back. -/
def Entry.Readable (e : Entry) : Prop := 10 ∉ e.line ∧ readLine e.line = some e

theorem readable_report : (Entry.ofReport data).Readable :=
  ⟨newline_notMem_report data, readLine_report data⟩

theorem readable_plate {text : List UInt8} (h : 10 ∉ text) (isValid : Bool) :
    (Entry.plate text isValid).Readable :=
  ⟨newline_notMem_plate h isValid, readLine_plate text isValid⟩

theorem readable_error (err line : Int32) : (Entry.errorCode err line).Readable :=
  ⟨newline_notMem_error err line, readLine_error err line⟩

/-- What a step prints are the lines of its entries, and they can be read back. -/
def Legible (o : List ConsoleOutput) : Prop :=
  printed o = entriesText (entries o) ∧ ∀ e ∈ entries o, e.Readable

theorem legible_append {o o' : List ConsoleOutput} (h : Legible o) (h' : Legible o') : Legible (o ++ o') := by
  refine ⟨?_, fun e he => ?_⟩
  · rw [printed_append, entries_append, entriesText_append, h.1, h'.1]
  · rw [entries_append, List.mem_append] at he
    exact he.elim (h.2 e) (h'.2 e)

theorem legible_nil : Legible [] := ⟨rfl, fun _ he => absurd he List.not_mem_nil⟩

/-- Outputs one of which is legible after the other. -/
theorem legible_of_forall {o : List ConsoleOutput} (h : ∀ a ∈ o, Legible [a]) : Legible o := by
  induction o with
  | nil => exact legible_nil
  | cons a o ih =>
    rw [← List.singleton_append]
    exact legible_append (h a List.mem_cons_self) (ih fun a' ha' => h a' (List.mem_cons_of_mem a ha'))

/-- An output that prints nothing and says nothing. -/
theorem legible_silent {a : ConsoleOutput} (hprinted : printed [a] = []) (hentries : entries [a] = []) :
    Legible [a] := by
  refine ⟨?_, fun e he => ?_⟩
  · rw [hprinted, hentries]
    rfl
  · rw [hentries] at he
    cases he

/-- An output that prints the line of what it says. -/
theorem legible_entry {a : ConsoleOutput} {e : Entry} (hprinted : printed [a] = e.line ++ [10])
    (hentries : entries [a] = [e]) (hread : e.Readable) : Legible [a] := by
  refine ⟨?_, fun e' he' => ?_⟩
  · rw [hprinted, hentries, entriesText, List.flatMap_singleton]
  · rw [hentries, List.mem_singleton] at he'
    rw [he']
    exact hread

theorem legible_started : Legible [.started] :=
  legible_entry (e := .started) (by decide) rfl ⟨by decide, by decide⟩

theorem legible_call {a : Action} (h : ∀ d, a ≠ .display d) : Legible [.seen server (.call a)] := by
  refine legible_silent rfl ?_
  cases a with
  | display d => exact absurd rfl (h d)
  | _ => rfl

theorem legible_camera {a : CameraAction RadarDisplayData}
    (h : ∀ plate isValid, a = .plate plate isValid → 10 ∉ plate.bytes) :
    Legible [.seen server (.camera a)] := by
  cases a with
  | plate plate isValid =>
    refine legible_entry ?_ rfl (readable_plate (h plate isValid rfl) isValid)
    simp [printed, plateText_eq]
  | errorCode err =>
    refine legible_entry ?_ rfl (readable_error err (errorLine server))
    simp [printed, errorText_eq]
  | notSupported =>
    have hline : bytes "Command not suported\n" = Entry.notSupported.line ++ [10] := by decide
    refine legible_entry ?_ rfl ⟨by decide, by decide⟩
    rw [printed, List.flatMap_singleton]
    exact hline
  | _ => exact legible_silent rfl rfl

/-- A report is said where `radar_display_show` is called, and printed at its end. -/
theorem legible_shown (dispDev : Bool) :
    Legible (seenAt server ([Action.display data].map .call ++ (shownText dispDev data).map .display)) := by
  have hprinted : printed (seenAt server ([Action.display data].map .call ++
      (shownText dispDev data).map .display)) = consoleText data.status (lineText data) := by
    cases dispDev <;> simp [seenAt, printed, shownText, displayWrite]
  have hentries : entries (seenAt server ([Action.display data].map .call ++
      (shownText dispDev data).map .display)) = [.ofReport data] := by
    cases dispDev <;> simp [seenAt, entries, shownText]
  refine ⟨?_, fun e he => ?_⟩
  · rw [hprinted, hentries, consoleText_eq, entriesText, List.flatMap_singleton]
  · rw [hentries, List.mem_singleton] at he
    rw [he]
    exact readable_report data

/-- Calls that show no report. -/
theorem legible_calls {acts : List Action} (h : reports acts = []) :
    Legible (seenAt server (acts.map .call)) := by
  refine legible_of_forall fun a ha => ?_
  simp only [seenAt, List.map_map, List.mem_map, Function.comp_apply] at ha
  obtain ⟨act, hact, rfl⟩ := ha
  refine legible_call ?_
  rintro d rfl
  have hmem : d ∈ reports acts := List.mem_filterMap.mpr ⟨_, hact, rfl⟩
  rw [h] at hmem
  cases hmem

theorem legible_firmware {x : Exchange RadarDisplayData}
    (hplates : ∀ plate, tables.Lists plate → 10 ∉ plate.bytes) (hstaged : Staged s x)
    (hserved : x.Served tables) (hstep : (system gpio driver cfg tables).step s m = some (s', o)) :
    Legible (seenAt server o) := by
  cases m with
  | sensors m undef =>
    obtain ⟨f, acts, hfirmware, rfl, rfl⟩ := stepSensors_eq hstep
    rw [seenAt_append]
    refine legible_append (legible_of_forall fun a ha => ?_) (legible_calls (sensors_silent hfirmware).1)
    simp only [seenAt, List.map_map, List.mem_map, Function.comp_apply] at ha
    obtain ⟨out, -, rfl⟩ := ha
    exact legible_silent rfl rfl
  | report disp undef =>
    cases stepReport_cases hstep with
    | nothing hno => exact legible_nil
    | judged g d shown text hgo hreport hjudged =>
      rw [seenAt_append]
      refine legible_append ?_ (legible_calls (reports_captureOf d))
      rcases hjudged with ⟨-, -, -, rfl, rfl⟩ | ⟨-, -, -, rfl, rfl⟩
      · exact legible_nil
      · exact legible_shown d s.dispDev
  | camera m =>
    obtain ⟨c, log, heq, hcamera⟩ := stepCamera_eq tables s m
    obtain ⟨rfl, rfl⟩ := Prod.mk.inj (heq.symm.trans (Option.some.inj hstep))
    refine legible_of_forall fun a ha => ?_
    simp only [seenAt, List.map_map, List.mem_map, Function.comp_apply] at ha
    obtain ⟨act, hact, rfl⟩ := ha
    refine legible_camera ?_
    rintro plate isValid rfl
    rcases hcamera with ⟨-, -, rfl⟩ | ⟨-, hmove⟩
    · cases hact
    · rw [hstaged.camera, system_move] at hmove
      obtain ⟨-, rfl⟩ := Prod.mk.inj hmove
      obtain ⟨rand, d, hserve, rfl, -⟩ := move_plate hserved hact
      exact hplates d.plate (serve_lists hserve)
  | _ =>
    obtain ⟨-, rfl⟩ := Prod.mk.inj (Option.some.inj hstep)
    exact legible_nil

theorem served_step {x x' : Exchange RadarDisplayData} (hserved : x.Served tables)
    (heffect : StageEffect tables s x o m x') : x'.Served tables := by
  cases heffect with
  | stays m hm hreports hlog => exact hserved
  | judged disp d undef hidle hgo hlog hjudged => split_ifs <;> trivial
  | camera m hm hreports hlog => exact (move_outcome hserved hm).1

/-! ### The log of a run -/

variable {c c' : Console} {out : List ConsoleOutput} {move : ConsoleMove}

/-- A step of the console does nothing to the firmware, or one step of it. -/
theorem console_step (hstep : (console gpio driver cfg tables).step c move = some (c', out)) :
    (c.systemMoves move = [] ∧ c'.system = c.system ∧ (out = [] ∨ out = [.started])) ∨
      ∃ m o, c.systemMoves move = [m] ∧ (system gpio driver cfg tables).step c.system m = some (c'.system, o) ∧
        out = seenAt c.system.camera.server o := by
  cases move with
  | start =>
    left
    simp only [console, Console.step] at hstep
    split_ifs at hstep <;> obtain ⟨rfl, rfl⟩ := Prod.mk.inj (Option.some.inj hstep)
    · exact ⟨rfl, rfl, .inr rfl⟩
    · exact ⟨rfl, rfl, .inl rfl⟩
  | system m =>
    simp only [console, Console.step] at hstep
    by_cases hwaits : m.ofService = true ∧ c.started = false
    · rw [if_pos hwaits] at hstep
      obtain ⟨rfl, rfl⟩ := Prod.mk.inj (Option.some.inj hstep)
      exact .inl ⟨if_pos hwaits, rfl, .inl rfl⟩
    · rw [if_neg hwaits, Option.map_eq_some_iff] at hstep
      obtain ⟨⟨s', o⟩, hsystem, heq⟩ := hstep
      obtain ⟨rfl, rfl⟩ := Prod.mk.inj heq
      exact .inr ⟨m, o, if_neg hwaits, hsystem, rfl⟩

theorem seen_system (server : Server RadarDisplayData) (o : List SystemOutput) :
    (seenAt server o).filterMap ConsoleOutput.system? = o := by
  simp [seenAt, List.filterMap_map, Function.comp_def]

/-- A run of the console is one of the firmware. -/
theorem console_system {uptime : UInt32} {moves : List ConsoleMove}
    (hrun : (console gpio driver cfg tables).run (.boot uptime) moves = some (c, out)) :
    (system gpio driver cfg tables).run (.boot uptime)
        ((console gpio driver cfg tables).reads Console.systemMoves (.boot uptime) moves) =
      some (c.system, out.filterMap ConsoleOutput.system?) := by
  have hstep : ∀ c s move c' out, s = c.system → True →
      (console gpio driver cfg tables).step c move = some (c', out) →
      ∃ s', (system gpio driver cfg tables).run s (c.systemMoves move) =
        some (s', out.filterMap ConsoleOutput.system?) ∧ s' = c'.system := by
    rintro c s move c' out rfl - hstep
    rcases console_step hstep with ⟨hnone, hsame, rfl | rfl⟩ | ⟨m, o, hone, hsystem, rfl⟩
    · exact ⟨_, by rw [hnone]; rfl, hsame.symm⟩
    · exact ⟨_, by rw [hnone]; rfl, hsame.symm⟩
    · exact ⟨_, by rw [hone, StepMachine.run_singleton, hsystem, seen_system], rfl⟩
  obtain ⟨s, hsystem, rfl⟩ := (console gpio driver cfg tables).run_simulate (system gpio driver cfg tables)
    (P := fun _ _ _ _ => True) hstep rfl (fun _ _ _ _ _ _ => trivial) hrun
  exact hsystem

/-- **What the program prints can be read back.** Every run with the lines of `camera_thread` is one of the
firmware, and if no plate of the tables has a newline in it, the text it prints says exactly which reports
were shown, in their colours, which verdicts were given and what `camera_thread` met. -/
theorem console_read_back {uptime : UInt32} {moves : List ConsoleMove}
    (hplates : ∀ plate, tables.Lists plate → 10 ∉ plate.bytes)
    (hrun : (console gpio driver cfg tables).run (.boot uptime) moves = some (c, out)) :
    (system gpio driver cfg tables).run (.boot uptime)
        ((console gpio driver cfg tables).reads Console.systemMoves (.boot uptime) moves) =
      some (c.system, out.filterMap ConsoleOutput.system?) ∧
    readLog (printed out) = some (entries out) := by
  refine ⟨console_system hrun, ?_⟩
  have hstep : ∀ c h move c' out, (∃ x, Staged c.system x ∧ x.Served tables ∧ Legible h) → True →
      (console gpio driver cfg tables).step c move = some (c', out) →
      ∃ x, Staged c'.system x ∧ x.Served tables ∧ Legible (h ++ out) := by
    rintro c h move c' out ⟨x, hstaged, hserved, hlegible⟩ - hstep
    rcases console_step hstep with ⟨-, hsame, rfl | rfl⟩ | ⟨m, o, -, hsystem, rfl⟩
    · exact ⟨x, hsame ▸ hstaged, hserved, legible_append hlegible legible_nil⟩
    · exact ⟨x, hsame ▸ hstaged, hserved, legible_append hlegible legible_started⟩
    · obtain ⟨x', hstaged', heffect⟩ := stage_step hstaged hsystem
      exact ⟨x', hstaged', served_step hserved heffect,
        legible_append hlegible (legible_firmware hplates hstaged hserved hsystem)⟩
  obtain ⟨x, -, -, hprinted, hreadable⟩ := (console gpio driver cfg tables).run_history
    (P := fun _ _ _ _ => True) (h := []) hstep ⟨.idle, staged_boot uptime, trivial, legible_nil⟩
    (fun _ _ _ _ _ _ => trivial) hrun
  rw [List.nil_append] at hprinted hreadable
  rw [hprinted, readLog]
  exact mapM_splitLines hreadable

theorem twoPlates_lists {plate : CString} (h : twoPlates.Lists plate) : 10 ∉ plate.bytes := by
  obtain ⟨d, hd, rfl⟩ := h
  rcases hd with hd | hd
  · simp only [twoPlates, List.mem_toArray, List.mem_singleton] at hd
    rw [hd]
    exact (by decide : 10 ∉ bytes "EGG3D02")
  · simp only [twoPlates, List.mem_toArray, List.mem_singleton] at hd
    rw [hd]
    exact (by decide : 10 ∉ bytes "EGG3D0")

/-- The start of `camera_thread` and an error in its wait, then an infraction with its plate. -/
def printedMoves : List ConsoleMove :=
  .start :: .system (.camera (.subWait (-11))) :: answeredMoves.map .system

theorem console_read_back_answered :
    ∃ c out, (console readyGpio readyDisplay .kconfig twoPlates).run (.boot 0) printedMoves = some (c, out) ∧
      (entries out).length = 4 ∧ .errorCode (-11) 50 ∈ entries out ∧
      (∃ ms, (system readyGpio readyDisplay .kconfig twoPlates).run (.boot 0) ms =
        some (c.system, out.filterMap ConsoleOutput.system?)) ∧
      readLog (printed out) = some (entries out) := by
  obtain ⟨c, out, hrun, hlen, herror⟩ : ∃ c out, (console readyGpio readyDisplay .kconfig twoPlates).run
      (.boot 0) printedMoves = some (c, out) ∧ (entries out).length = 4 ∧
        .errorCode (-11) 50 ∈ entries out := ⟨_, _, rfl, by decide, by decide⟩
  obtain ⟨hsystem, hread⟩ := console_read_back (fun _ h => twoPlates_lists h) hrun
  exact ⟨c, out, hrun, hlen, herror, ⟨_, hsystem⟩, hread⟩

end Radar
