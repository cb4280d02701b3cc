import Radar.Base.Printk
import Radar.Verdict

/-!
# `radar_display.c`

`radar_display_show` formats one line into `line[128]`, hands it to the display through the 64-byte
buffer of `update_dummy_display`, and prints it on the console between a colour and a reset code. The
line always fits `line` (`snprintk_line`), so the console shows all of it; the display shows all of it
exactly when it is at most 64 bytes long, and 43 of these are fixed text (`display_agrees_iff`).
-/

namespace Radar

open Printk

def ansiGreen : String := "\x1b[32m"

def ansiYellow : String := "\x1b[33m"

def ansiRed : String := "\x1b[31m"

def ansiReset : String := "\x1b[0m"

def vehicleTypeStr (type : VehicleType) : String := if type = .heavy then "PESADO" else "LEVE"

def statusStr : RadarInfractionStatus → String
  | .normal => "NORMAL"
  | .warning => "ATENÇÃO"
  | .infraction => "INFRAÇÃO"
  | .other _ => "DESCONHECIDO"

def statusColor : RadarInfractionStatus → String
  | .normal => ansiGreen
  | .warning => ansiYellow
  | .infraction => ansiRed
  | .other _ => ansiReset

/-- `struct display_buffer_descriptor`. -/
structure DisplayBufferDescriptor where
  bufSize : UInt32
  width : UInt16
  height : UInt16
  pitch : UInt16
deriving DecidableEq, Repr

/-- What leaves the file: `display_write(disp_dev, 0, 0, &desc, buf)`, with the bytes of `buf` that were
written, and the text `printk` prints. -/
inductive Output where
  | displayWrite (desc : DisplayBufferDescriptor) (buf : List UInt8)
  | printk (text : List UInt8)
deriving DecidableEq, Repr

/-- `update_dummy_display`; `dispDev` tells whether a device is bound. -/
def updateDummyDisplay (dispDev : Bool) (line : List UInt8) : List Output :=
  if dispDev then
    let n := if strlen line > 64 then 64 else strlen line
    [.displayWrite ⟨UInt32.ofNat n, UInt16.ofNat n, 1, UInt16.ofNat n⟩ (line.take n)]
  else []

def lineFormat : String := "Veiculo=%s eixos=%u velocidade=%d limite=%d status=%s"

def lineArgs (data : RadarDisplayData) : List Arg :=
  [.str (bytes (vehicleTypeStr data.type)), .uint data.axleCount.toUInt32, .int data.measuredSpeedKmh,
    .int data.limitKmh, .str (bytes (statusStr data.status))]

/-- `radar_display_show`; `data` is `none` for a null pointer. -/
def radarDisplayShow (dispDev : Bool) (data : Option RadarDisplayData) : Option (List Output) :=
  match data with
  | none => some []
  | some data => do
    let line ← snprintk 128 (bytes lineFormat) (lineArgs data)
    let text ← format (bytes "%s[RADAR] %s%s\n")
      [.str (bytes (statusColor data.status)), .str (cstr line), .str (bytes ansiReset)]
    return updateDummyDisplay dispDev line ++ [.printk text]

/-! ### The line -/

/-- The line, field by field. -/
def lineText (data : RadarDisplayData) : List UInt8 :=
  bytes "Veiculo=" ++ (bytes (vehicleTypeStr data.type) ++ (bytes " eixos=" ++
    (decimal data.axleCount.toNat ++ (bytes " velocidade=" ++ (signed data.measuredSpeedKmh.toInt ++
      (bytes " limite=" ++ (signed data.limitKmh.toInt ++ (bytes " status=" ++
        bytes (statusStr data.status)))))))))

/-- The bytes of the line that depend on the report. -/
def reportWidth (data : RadarDisplayData) : ℕ :=
  (bytes (vehicleTypeStr data.type)).length + digits data.axleCount.toNat +
    width data.measuredSpeedKmh.toInt + width data.limitKmh.toInt + (bytes (statusStr data.status)).length

variable (data : RadarDisplayData)

theorem lineFormat_pieces :
    bytes lineFormat = bytes "Veiculo=" ++ 37 :: 115 :: (bytes " eixos=" ++ 37 :: 117 ::
      (bytes " velocidade=" ++ 37 :: 100 :: (bytes " limite=" ++ 37 :: 100 ::
        (bytes " status=" ++ 37 :: 115 :: [])))) := by
  decide

/-- The arguments of the line with another text for the status. -/
def lineArgsWith (data : RadarDisplayData) (status : List UInt8) : List Arg :=
  [.str (bytes (vehicleTypeStr data.type)), .uint data.axleCount.toUInt32, .int data.measuredSpeedKmh,
    .int data.limitKmh, .str status]

/-- The line up to its status. -/
def lineHead (data : RadarDisplayData) : List UInt8 :=
  bytes "Veiculo=" ++ (bytes (vehicleTypeStr data.type) ++ (bytes " eixos=" ++
    (decimal data.axleCount.toNat ++ (bytes " velocidade=" ++ (signed data.measuredSpeedKmh.toInt ++
      (bytes " limite=" ++ (signed data.limitKmh.toInt ++ bytes " status=")))))))

theorem format_lineWith (status : List UInt8) :
    format (bytes lineFormat) (lineArgsWith data status) = some (lineHead data ++ status) := by
  rw [lineFormat_pieces, lineArgsWith, format_text (by decide), format_conversion (convert_str _),
    format_text (by decide), format_conversion (convert_uint _), format_text (by decide),
    format_conversion (convert_int _), format_text (by decide), format_conversion (convert_int _),
    format_text (by decide), format_conversion (convert_str _), format_end (by decide)]
  simp only [Option.map_some, List.append_nil, UInt8.toNat_toUInt32, lineHead, List.append_assoc]

theorem lineText_eq : lineText data = lineHead data ++ bytes (statusStr data.status) := by
  simp only [lineText, lineHead, List.append_assoc]

theorem format_line : format (bytes lineFormat) (lineArgs data) = some (lineText data) := by
  rw [lineText_eq]
  exact format_lineWith data (bytes (statusStr data.status))

/-- 43 bytes of the line are fixed. -/
theorem length_lineText : (lineText data).length = 43 + reportWidth data := by
  have h1 : (bytes "Veiculo=").length = 8 := by decide
  have h2 : (bytes " eixos=").length = 7 := by decide
  have h3 : (bytes " velocidade=").length = 12 := by decide
  have h4 : (bytes " limite=").length = 8 := by decide
  have h5 : (bytes " status=").length = 8 := by decide
  simp only [lineText, reportWidth, List.length_append, length_decimal, length_signed, h1, h2, h3, h4,
    h5]
  omega

theorem zero_notMem_lineText : 0 ∉ lineText data := by
  apply zero_notMem_format (format_line data) (by decide)
  intro s hs
  have hs' : s = bytes (vehicleTypeStr data.type) ∨ s = bytes (statusStr data.status) := by
    simpa [lineArgs] using hs
  rcases hs' with rfl | rfl
  · cases data.type <;> decide
  · cases data.status with
    | other raw => exact (by decide : 0 ∉ bytes "DESCONHECIDO")
    | _ => decide

theorem length_vehicleTypeStr_le (type : VehicleType) : (bytes (vehicleTypeStr type)).length ≤ 6 := by
  cases type <;> decide

theorem length_statusStr_le (status : RadarInfractionStatus) : (bytes (statusStr status)).length ≤ 12 := by
  cases status with
  | other raw => exact (by decide : (bytes "DESCONHECIDO").length ≤ 12)
  | _ => decide

theorem width_toInt_le (v : Int32) : width v.toInt ≤ 11 := by
  have hlow := v.le_toInt
  have hhigh := v.toInt_lt
  have hdigits : digits v.toInt.natAbs ≤ 10 := digits_le (by decide) (by omega)
  unfold width
  split_ifs <;> omega

/-- The longest line has 86 bytes, so `line[128]` holds every line. -/
theorem reportWidth_le : reportWidth data ≤ 43 := by
  have htype := length_vehicleTypeStr_le data.type
  have hstatus := length_statusStr_le data.status
  have hspeed := width_toInt_le data.measuredSpeedKmh
  have hlimit := width_toInt_le data.limitKmh
  have haxles : digits data.axleCount.toNat ≤ 3 := by
    have hlt := data.axleCount.toNat_lt
    exact digits_le (by decide) (by omega)
  unfold reportWidth
  omega

theorem snprintk_line :
    snprintk 128 (bytes lineFormat) (lineArgs data) = some (lineText data ++ [0]) ∧
      cstr (lineText data ++ [0]) = lineText data := by
  have hlen := length_lineText data
  have hwidth := reportWidth_le data
  exact snprintk_fits (format_line data) (zero_notMem_lineText data) (by omega)

/-! ### Display and console -/

def consoleText (status : RadarInfractionStatus) (line : List UInt8) : List UInt8 :=
  bytes (statusColor status) ++ (bytes "[RADAR] " ++ (line ++ (bytes ansiReset ++ bytes "\n")))

theorem format_console (status : RadarInfractionStatus) (line : List UInt8) :
    format (bytes "%s[RADAR] %s%s\n")
      [.str (bytes (statusColor status)), .str line, .str (bytes ansiReset)] =
      some (consoleText status line) := by
  have hpieces : bytes "%s[RADAR] %s%s\n" =
      37 :: 115 :: (bytes "[RADAR] " ++ 37 :: 115 :: 37 :: 115 :: bytes "\n") := by decide
  rw [hpieces, format_conversion (convert_str _), format_text (by decide),
    format_conversion (convert_str _), format_conversion (convert_str _), format_end (by decide)]
  rfl

/-- The display gets the line up to its 64th byte. -/
theorem updateDummyDisplay_bound {line : List UInt8} (hnul : 0 ∉ line) :
    updateDummyDisplay true (line ++ [0]) =
      [.displayWrite ⟨UInt32.ofNat (line.take 64).length, UInt16.ofNat (line.take 64).length, 1,
        UInt16.ofNat (line.take 64).length⟩ (line.take 64)] := by
  have hlen : strlen (line ++ [0]) = line.length := by
    rw [strlen, cstr_terminated hnul]
  unfold updateDummyDisplay
  rw [if_pos rfl, hlen]
  by_cases hlong : line.length > 64
  · have htake : (line.take 64).length = 64 := by
      rw [List.length_take]
      omega
    simp only [if_pos hlong, htake, List.take_append_of_le_length (Nat.le_of_lt hlong)]
  · have htake : line.take 64 = line := List.take_of_length_le (by omega)
    simp only [if_neg hlong, htake, List.take_left]

theorem radarDisplayShow_bound :
    radarDisplayShow true (some data) =
      some [.displayWrite ⟨UInt32.ofNat ((lineText data).take 64).length,
          UInt16.ofNat ((lineText data).take 64).length, 1,
          UInt16.ofNat ((lineText data).take 64).length⟩ ((lineText data).take 64),
        .printk (consoleText data.status (lineText data))] := by
  obtain ⟨hprint, hcstr⟩ := snprintk_line data
  unfold radarDisplayShow
  simp only [hprint, hcstr, format_console, Option.bind_eq_bind, Option.bind_some,
    updateDummyDisplay_bound (zero_notMem_lineText data)]
  rfl

/-- With a device bound, `display_write` gets exactly the formatted line that the console shows between
the colour and the reset code. -/
def DisplayAgrees (data : RadarDisplayData) : Prop :=
  ∃ line desc, format (bytes lineFormat) (lineArgs data) = some line ∧
    desc.bufSize.toNat = line.length ∧
    radarDisplayShow true (some data) =
      some [.displayWrite desc line, .printk (bytes (statusColor data.status) ++
        (bytes "[RADAR] " ++ (line ++ (bytes ansiReset ++ bytes "\n"))))]

theorem displayAgrees_iff_length : DisplayAgrees data ↔ (lineText data).length ≤ 64 := by
  constructor
  · rintro ⟨line, desc, hformat, -, hshow⟩
    obtain rfl : lineText data = line := Option.some.inj ((format_line data).symm.trans hformat)
    rw [radarDisplayShow_bound, Option.some.injEq, List.cons.injEq, Output.displayWrite.injEq] at hshow
    have hlen := congrArg List.length hshow.1.2
    rw [List.length_take] at hlen
    omega
  · intro hlen
    have htake : (lineText data).take 64 = lineText data := List.take_of_length_le hlen
    have hshow := radarDisplayShow_bound data
    rw [htake] at hshow
    refine ⟨lineText data, _, format_line data, ?_, hshow⟩
    exact UInt32.toNat_ofNat_of_lt' (by rw [UInt32.size]; omega)

/-- **Display and console agree** on the reports whose type, axle count, speed, limit and status take at
most 21 bytes. -/
theorem display_agrees_iff : DisplayAgrees data ↔ reportWidth data ≤ 21 := by
  rw [displayAgrees_iff_length, length_lineText]
  omega

/-- The report of ten axles at 100 km/h: the display ends within the `Ã` of the status. -/
def longTruck : RadarDisplayData := ⟨.heavy, 10, 36, 100, 60, .infraction⟩

example : computeVehicleStatus .kconfig none (measuredContext 10 0 36) ⟨.light, 0, 0, 0, 0, .normal⟩ =
    some (measuredContext 10 0 36, 0, longTruck) := by
  decide

theorem long_truck_cut :
    ¬ ∀ data : RadarDisplayData,
      data.status = .normal ∨ data.status = .warning ∨ data.status = .infraction →
      DisplayAgrees data := by
  intro h
  have hagrees := h longTruck (.inr (.inr rfl))
  rw [displayAgrees_iff_length] at hagrees
  exact absurd hagrees (by decide)

end Radar
