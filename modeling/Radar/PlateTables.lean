import Mathlib.Data.List.TakeWhile
import Radar.Base.Printk
import Radar.Console

/-!
# The tables of `camera_service_priv.h`

Three hundred plates with a hash each that every validator of its country accepts, and three hundred
misread ones that none accepts. The key of an invalid plate is between 900 and 999, and the table has 300
entries: the camera serves only the first hundred of them, Brazilian plates with one character wrong, and
no misread plate of Argentina or Paraguay ever gets to the handler. `printed_plates_iff` says which plates
some run prints, and with which verdict.
-/

namespace Radar

open Printk

variable {τ : Type}

/-- Brazilian plates, the first hundred of `valid_car_license_plates`. -/
def brPlates : List String :=
  ["EGG3D02", "CBJ6G17", "HCO7H89", "HFX1B53", "JOT5F76", "MPC4E46", "ZUQ1B71", "DYK6G81", "MJL1B37",
    "SOU8I24", "PWP4E07", "PTK1B55", "DKH0A13", "PUK2C30", "LWA1B81", "AIV9J27", "TUL4E01", "CNP9J54",
    "BZG2C29", "MYW6G49", "ZFM3D18", "RUP0A62", "TLO1B60", "EPK3D03", "JYE7H03", "VWH0A08", "YKC7H14",
    "SCL1B36", "PEI9J37", "DFR5F91", "OAP5F19", "EBD5F51", "ZUK8I42", "NHC9J68", "AVC9J79", "GCW0A60",
    "CTY7H48", "QYD2C62", "VDX2C03", "TEP9J01", "ONO3D09", "UEN4E11", "JZA0A63", "BTL5F56", "LTN6G70",
    "QJA8I89", "IFF2C48", "AYR1B52", "VUK1B99", "DGQ5F17", "EYI7H12", "OTN6G45", "DHR7H28", "YRN2C83",
    "ZHN9J12", "YMK1B10", "TMJ5F78", "ETK1B73", "JSZ4E65", "FGL0A90", "ECB6G45", "ENX6G08", "CTN3D98",
    "XUK4E55", "SHJ5F86", "ZJT9J04", "HGJ2C42", "EMI8I74", "PYE0A78", "HFE9J26", "BZV4E00", "YWL6G47",
    "LBO6G77", "YTC3D54", "IOQ2C75", "UHO5F44", "ELS5F80", "NVS7H57", "SMZ5F72", "CQU9J11", "VQU9J71",
    "ZVA3D56", "YSO8I59", "LPH7H72", "OPT1B40", "BNK3D37", "JEX0A46", "HZH7H63", "LVJ2C62", "YKE1B79",
    "LOZ8I54", "HIY5F48", "RSV6G34", "QVK0A89", "OUE5F46", "MOQ2C19", "EHT8I98", "MYR8I22", "AAD4E38",
    "VZD4E72"]

/-- Argentine plates, the next hundred. -/
def arPlates : List String :=
  ["TO 054 ZP", "MZ 329 UV", "IP 120 EE", "XC 825 YK", "LR 319 AB", "DA 768 NC", "AY 717 GV", "PX 371 JO",
    "WJ 969 CI", "XF 105 RI", "MJ 869 ZP", "XB 204 AH", "XR 821 MN", "QK 964 JQ", "GU 151 JF",
    "HM 393 UF", "KR 378 DM", "EV 734 DM", "GZ 184 TB", "KE 423 EN", "ZO 822 TE", "QC 731 AE",
    "CB 848 YJ", "FD 614 EZ", "DS 971 YK", "BH 584 XO", "BS 820 PZ", "TV 289 AE", "GK 239 HS",
    "YY 315 JM", "TP 652 XS", "PJ 947 HA", "RI 557 PV", "BV 005 XZ", "YH 569 KI", "XY 727 CC",
    "WS 873 PM", "ZJ 569 KU", "IL 665 DS", "SI 726 NS", "IM 689 LY", "BC 927 KY", "YK 871 OV",
    "WY 586 PX", "YR 931 KQ", "EQ 133 UE", "KT 187 PE", "DH 473 NE", "TF 168 YO", "LE 314 EB",
    "GB 269 QB", "VB 022 YO", "BT 035 LF", "NA 928 NQ", "VU 825 XZ", "VC 835 GU", "AQ 703 TO",
    "FO 636 UV", "TQ 780 YB", "ST 178 MR", "LM 310 IJ", "AQ 965 ET", "XY 018 VF", "XR 258 ZF",
    "DJ 780 IB", "PW 650 TK", "AE 620 OQ", "AO 643 KH", "CU 367 QG", "GR 977 PR", "OG 294 PV",
    "RA 419 AB", "NF 694 OH", "MM 937 SE", "TC 944 GW", "LQ 796 SC", "MG 407 PC", "OU 417 QS",
    "QR 375 JZ", "HF 879 NZ", "QN 361 WU", "EB 566 QL", "OJ 964 ZV", "GE 878 SX", "RZ 071 JN",
    "BO 157 BW", "EL 568 FU", "SS 097 RH", "SB 868 AF", "LU 019 AR", "UW 213 FD", "QV 003 WE",
    "ZB 142 VH", "WF 399 ZM", "KH 174 BS", "XP 712 UM", "ZH 994 BQ", "MI 264 GI", "LT 462 VH",
    "HP 131 RG"]

/-- Paraguayan plates, the last hundred. -/
def prPlates : List String :=
  ["JJVU 814", "VWTK 217", "QPOK 039", "HTGO 881", "WARN 364", "IHQC 555", "NBFO 024", "AHXJ 786",
    "UREW 724", "UEXQ 629", "OZYA 414", "GYKS 165", "ZVID 376", "JIOO 382", "WBAN 307", "ZITS 420",
    "FASI 592", "KQFP 001", "RAVK 394", "ISBS 628", "BSGB 456", "EGYO 690", "YLUS 273", "IADF 570",
    "OLCM 665", "CCSG 180", "LTWL 839", "VWSB 863", "FUSW 040", "BSYD 487", "ODKS 833", "YIVM 472",
    "UYXW 750", "EAUX 093", "OWUJ 673", "NITW 786", "PVVC 288", "OTJY 364", "EVDN 636", "KXDG 460",
    "SSGW 103", "VYCR 196", "KCVE 990", "OAKR 665", "EVBY 667", "EPYY 174", "YWTL 595", "WYCF 830",
    "UIWT 149", "LHQX 283", "379 WWJW", "338 KFQQ", "176 QOUZ", "837 GEDF", "808 EAFZ", "204 KWUV",
    "976 QRHE", "776 EZFE", "514 BOGT", "917 EEIL", "712 YTQI", "878 ZDUJ", "961 UJVJ", "051 XEYZ",
    "726 FDOV", "881 ZBPR", "586 SJKB", "162 EUDN", "919 LKZM", "659 MWWP", "873 XNCQ", "829 OVJO",
    "764 FDIO", "541 XATC", "293 GRDW", "533 JLLA", "719 RCEE", "137 ECTP", "581 LXQV", "417 WCXS",
    "463 HTXD", "538 AATE", "125 BCVX", "298 VYKK", "454 FAIN", "547 ADCZ", "627 WMHP", "397 BPFG",
    "177 PBAK", "664 RWOV", "870 VYZH", "524 NWKR", "573 BVGW", "675 LNRV", "414 KDPC", "134 NJFG",
    "711 TOYR", "652 KSDZ", "793 PMSB", "590 VBEA"]

/-- The first hundred of `invalid_car_license_plates`. -/
def brMisread : List String :=
  ["KHI7Y3E", "B7E1X46", "MCB8G3R", "FNG9T7M", "0BN3I94", "E8F1D17", "QBQ1TC5", "Z3T1C11", "DC83L36",
    "9FK8G94", "U8Q9Q25", "J5Y8V79", "QRS9Q5G", "GCW3A6P", "G9A5S07", "QIYXQ35", "SNW4F1V", "SR78J55",
    "ZDP9O4N", "JDMVV93", "D4W3B38", "WFM0UZ1", "FA24B02", "P8N0O95", "SBCBC27", "XO44M60", "L2W9N10",
    "OK96D68", "B2M8M15", "FNY0AB6", "Z7W4L07", "9PW2L98", "ZV07Z98", "MWT0NS7", "XDT6W2R", "4XB4R29",
    "HY27N54", "6HT0L40", "F6Y6N21", "CNY5GM8", "TVK5R1C", "TZ98F43", "IUADQ77", "3UO6V71", "HDC0757",
    "PIT6SJ1", "RHJJX30", "FQN1875", "7NC1Y11", "RGD9VW7", "GZ70H08", "HHA1240", "QLZ2311", "CGOGG17",
    "5OX5S05", "EG88H14", "RQ66X53", "T6M7C51", "E0W1X48", "HVH6QG3", "MEF9YJ6", "XTL5116", "DCFEW27",
    "5US7K92", "MJZHM62", "QKQ4GG9", "7KH6I46", "BBU1W6E", "7KS7C22", "6OT9C74", "D8U1E12", "9XH7L49",
    "TCJSR58", "AIAPH73", "BUH9Q8S", "CH78R58", "GFX5920", "5RG3U05", "YV66F28", "YUEGI26", "2MN6M63",
    "OIG5K7C", "FSESH70", "AUA9RI5", "EST3VL6", "U5K1D15", "VBA5V8F", "SES5G1M", "GXB0JY1", "AGG5279",
    "EY79X83", "I0K4S63", "AZ46D93", "MGF0637", "VWK8UI0", "M1V8L20", "ZMRRT28", "3WJ4L77", "SMW7844",
    "ZIBOD87"]

/-- The next hundred. -/
def arMisread : List String :=
  ["LQ 3H2 ZV", "JJ 09O DZ", "DA 74Q AN", "JG O40 UZ", "OX 71O VN", "DM 6E0 DY", "KQ 97I QS", "AP H56 CX",
    "MD S40 ZX", "C0 0S7 PY", "EU U28 CW", "Q1 7X0 ON", "V3 G66 MA", "S6 27W YP", "BW 4C4 U9", "RY K02BK",
    "LB0N7 LH", "UZ@48G FT", "VX O%1 QC", "XM 8E1 LQ", "VF DSK47 OG", "RA F70 XH", "JI Y38 YO",
    "NE 8B2 RB", "LL 1G8 LA", "DH 95B UM", "MK 9S6 WF", "AJ 6S1 MY", "FH T75 IQ", "KL 3W6 IU",
    "WC 9V0 PF", "OH 1Q7 MV", "QJ 7G9 QE", "GZ 94M VS", "IH S53 YW", "LN 85J GY", "VV K87 YK",
    "YD S51 EX", "QI 0P6 YK", "MZ 7R1 TD", "JK 9F1 XT", "GX 05M UK", "BO S81 FA", "LF 8B3 ZO",
    "JR I92 FQ", "DQ X43 AK", "WG X43 CD", "ZF E23 DS", "CQ 5F7 VD", "TJ 40N CA", "TS E26 HB",
    "WV 8C7 RA", "ZP 54P PH", "GT E43 TH", "TT 73P KT", "SE 44R SX", "DL 45S LB", "IZ 90Q ZE",
    "KW F24 UW", "WD 9X1 EC", "FQ 7C9 CO", "ZJ 2Z8 RU", "WK C59 YU", "JT 2V8 OD", "QP 6J2 BI",
    "GT F04 PN", "LG 9I6 AN", "UB 0O1 KD", "BA 67Q PE", "AX F77 GF", "RI B82 MO", "SP 1U2 KQ",
    "PG 7H3 XT", "NV 14U BP", "DT 83I NK", "BH 1L1 US", "ZS 1S3 AE", "WJ 46L IY", "XE 7B1 TE",
    "BI 68P TR", "SI J64 KE", "TT 19F NH", "AK 0S8 UA", "IY 3L0 VA", "CA 76I IW", "XX 08F VY",
    "ZQ 8Z8 UI", "EO 5L3 OC", "KM 8B4 DT", "ZZ E72 AA", "GC 19K JQ", "HG 67Z TV", "PU 27Y NO",
    "RK B01 RJ", "FC S37 DN", "HD 8D4 AR", "AG 62D PS", "BL F51 WM", "YY U38 IJ", "AX H18 KH"]

/-- The last hundred. -/
def prMisread : List String :=
  ["CC1C 888", "I2II 111", "F0FF 111", "BB9B 666", "2OOO 111", "VVV7 888", "QQQ0 444", "XXX5 555",
    "2QQQ 111", "P7PP 333", "RR9R 999", "UUU3 888", "8CCC 444", "KKK4 444", "OOO4 111", "AA4A 222",
    "GGG7 000", "0PPP 4R4", "CCC5 2&2", "XX7X 22F", "V7VV 111", "Z8ZZ 222", "0NNN 555", "EE6E 111",
    "ZZ0Z 111", "6HHH 666", "3III 222", "CCC2 888", "9XXX 999", "DD0D 111", "B3BB 111", "6GGG 111",
    "DDD@ 111", "UU9U 000", "VVV0 555", "7ZZZ 333", "8JJJ 000", "WW8W 666", "R9RR 444", "ZZ6Z 000",
    "RR0R 666", "LLL1 666", "FF0F 222", "N4NN 000", "HH9H 777", "JJ6J 999", "HHH1 333", "4MMM 333",
    "RRR3 111", "0III 666", "999 L8LL", "000 III5", "666 N8NN", "333 HH9H", "000 4YYY", "555 5AAA",
    "999 C3CC", "666 Y1YY", "999 QQ8Q", "222 HH4H", "444 GG9G", "!11 4TTT", "222 MMM3", "777 RRR7",
    "&33 3III", "*66 0UUU", "222 8BBB", "666 NNN8", "000 XXX8", "000D9DD", "666LL6L", "555V6VV",
    "555 CCC5", "888 U6UU", "999 YYY3", "66 VVV4", "444 JJJ6", "7 3BBB", "000 DD", "333 RR4", "777 HH2",
    "111 VVV", "222 D9DD", "333 QQQ3", "000 UUU8", "888Z", "444 2JJJ", "999 9RRR", "000 5HHH", "999GG",
    "JJ", "888 4CCC", "888 DDD6", "111 II5I", "888 EEE5", "777 YYY1", "000 QQQ4", "333 RRR5", "222 8PPP",
    "888 PPP2"]

/-- A string literal: its UTF-8 bytes, up to the first NUL. -/
def literal (s : String) : CString where
  bytes := cstr s.toUTF8.data.toList
  noNul h := by simpa using List.mem_takeWhile_imp h

/-- An entry of a table. Nothing reads the hashes; they are a parameter. -/
def entryOf (hash : CString → CString) (s : String) : CameraData := ⟨literal s, hash (literal s)⟩

def validPlates : List String := brPlates ++ arPlates ++ prPlates

def invalidPlates : List String := brMisread ++ arMisread ++ prMisread

theorem length_validPlates : validPlates.length = 300 := by decide +kernel

theorem length_invalidPlates : invalidPlates.length = 300 := by decide +kernel

def cameraTables (hash : CString → CString) : PlateTables where
  validCarLicensePlates := (validPlates.map (entryOf hash)).toArray
  invalidCarLicensePlates := (invalidPlates.map (entryOf hash)).toArray
  valid_pos := by simp [length_validPlates]
  invalid_pos := by simp [length_invalidPlates]

/-! ### The entries -/

instance : DecidableRel Kind.Accepts := fun k b =>
  match k with
  | .L => inferInstanceAs (Decidable (65 ≤ b ∧ b ≤ 90))
  | .D => inferInstanceAs (Decidable (48 ≤ b ∧ b ≤ 57))
  | .sp => inferInstanceAs (Decidable (b = 32))

instance (kinds : List Kind) (s : CString) : Decidable (Shape kinds s) :=
  inferInstanceAs (Decidable (List.Forall₂ _ _ _))

/-- The string has the length of the shape and one byte of another kind. -/
def OneOff (kinds : List Kind) (s : CString) : Prop :=
  s.bytes.length = kinds.length ∧ ((kinds.zip s.bytes).countP fun p => decide ¬ p.1.Accepts p.2) = 1

instance (kinds : List Kind) (s : CString) : Decidable (OneOff kinds s) :=
  inferInstanceAs (Decidable (_ ∧ _))

def shapes : List (List Kind) := [shapeBr, shapeAr, shapePr, shapePrMotorcycle, shapeUr, shapeBo]

theorem valid_iff_shape (s : CString) : plateIsValidMercosul s = true ↔ ∃ p ∈ shapes, Shape p s := by
  simp only [plateIsValidMercosul, Bool.or_eq_true, plateIsBr_iff, plateIsAr_iff, plateIsPr_iff,
    plateIsUr_iff, plateIsBo_iff, shapes, List.mem_cons, List.not_mem_nil, or_false, exists_eq_or_imp,
    exists_eq_left]
  tauto

theorem shape_brPlates : ∀ s ∈ brPlates, Shape shapeBr (literal s) := by decide +kernel

theorem shape_arPlates : ∀ s ∈ arPlates, Shape shapeAr (literal s) := by decide +kernel

theorem shape_prPlates : ∀ s ∈ prPlates, Shape shapePr (literal s) ∨ Shape shapePrMotorcycle (literal s) := by
  decide +kernel

theorem shape_misread : ∀ s ∈ invalidPlates, ∀ p ∈ shapes, ¬ Shape p (literal s) := by decide +kernel

theorem oneOff_misread :
    (∀ s ∈ brMisread, OneOff shapeBr (literal s)) ∧
      ∀ s ∈ arMisread ++ prMisread, ¬ OneOff shapeBr (literal s) := by
  decide +kernel

theorem valid_plate {s : String} (h : s ∈ validPlates) : plateIsValidMercosul (literal s) = true := by
  rw [valid_iff_shape]
  rcases List.mem_append.mp h with h | h
  · rcases List.mem_append.mp h with h | h
    · exact ⟨shapeBr, by decide, shape_brPlates s h⟩
    · exact ⟨shapeAr, by decide, shape_arPlates s h⟩
  · rcases shape_prPlates s h with h | h
    · exact ⟨shapePr, by decide, h⟩
    · exact ⟨shapePrMotorcycle, by decide, h⟩

theorem invalid_plate {s : String} (h : s ∈ invalidPlates) : plateIsValidMercosul (literal s) = false := by
  rw [Bool.eq_false_iff, ne_eq, valid_iff_shape]
  rintro ⟨p, hp, hshape⟩
  exact shape_misread s h p hp hshape

/-- No entry has a newline, so the printed text of the firmware with these tables can be read back. -/
theorem lists_cameraTables {hash : CString → CString} {plate : CString}
    (h : (cameraTables hash).Lists plate) : 10 ∉ plate.bytes := by
  have hnewline : ∀ s ∈ validPlates ++ invalidPlates, 10 ∉ (literal s).bytes := by decide +kernel
  obtain ⟨d, hd, rfl⟩ := h
  simp only [cameraTables, List.mem_toArray, List.mem_map] at hd
  rcases hd with ⟨s, hs, rfl⟩ | ⟨s, hs, rfl⟩
  · exact hnewline s (List.mem_append_left _ hs)
  · exact hnewline s (List.mem_append_right _ hs)

/-! ### What is served -/

variable {tables : PlateTables} {rand : UInt16}

theorem serve_valid (h : rand.toNat % 1100 < 900) :
    ∃ d, tables.validCarLicensePlates[rand.toNat % 1100 % tables.validCarLicensePlates.size]? = some d ∧
      tables.serve .capture rand = .data d := by
  have hi := Nat.mod_lt (rand.toNat % 1100) tables.valid_pos
  refine ⟨_, Array.getElem?_eq_getElem hi, ?_⟩
  simp only [PlateTables.serve, if_pos h]
  rfl

theorem serve_invalid (hlow : 900 ≤ rand.toNat % 1100) (hhigh : rand.toNat % 1100 < 1000) :
    ∃ d, tables.invalidCarLicensePlates[rand.toNat % 1100 % tables.invalidCarLicensePlates.size]? = some d ∧
      tables.serve .capture rand = .data d := by
  have hi := Nat.mod_lt (rand.toNat % 1100) tables.invalid_pos
  refine ⟨_, Array.getElem?_eq_getElem hi, ?_⟩
  simp only [PlateTables.serve, if_neg (Nat.not_lt.mpr hlow), if_pos (And.intro hlow hhigh)]
  rfl

theorem serve_busy (h : 1000 ≤ rand.toNat % 1100) : tables.serve .capture rand = .error .eBusy := by
  simp only [PlateTables.serve, if_neg (show ¬ rand.toNat % 1100 < 900 by omega),
    if_neg (show ¬ (900 ≤ rand.toNat % 1100 ∧ rand.toNat % 1100 < 1000) by omega)]

variable {hash : CString → CString}

theorem validCarLicensePlates_get {d : CameraData} {i : ℕ}
    (h : (cameraTables hash).validCarLicensePlates[i % (cameraTables hash).validCarLicensePlates.size]? =
      some d) :
    ∃ s, validPlates[i % 300]? = some s ∧ entryOf hash s = d := by
  simpa [cameraTables, length_validPlates] using h

theorem invalidCarLicensePlates_get {d : CameraData} {i : ℕ}
    (h : (cameraTables hash).invalidCarLicensePlates[i % (cameraTables hash).invalidCarLicensePlates.size]? =
      some d) :
    ∃ s, invalidPlates[i % 300]? = some s ∧ entryOf hash s = d := by
  simpa [cameraTables, length_invalidPlates] using h

/-- The misread plates that a key can reach. -/
theorem invalidPlates_front {i : ℕ} (h : i < 100) : invalidPlates[i]? = brMisread[i]? := by
  have hlength : brMisread.length = 100 := by decide +kernel
  rw [invalidPlates, List.append_assoc]
  exact List.getElem?_append_left (by omega)

/-- An answer with data has an entry of the first table or one of the first hundred of the second. -/
theorem serve_data {d : CameraData} (h : (cameraTables hash).serve .capture rand = .data d) :
    (∃ s ∈ validPlates, entryOf hash s = d) ∨ ∃ s ∈ brMisread, entryOf hash s = d := by
  by_cases hvalid : rand.toNat % 1100 < 900
  · obtain ⟨d', hget, hserve⟩ := @serve_valid (cameraTables hash) rand hvalid
    obtain rfl := MsgCameraEvt.data.inj (hserve.symm.trans h)
    obtain ⟨s, hs, hentry⟩ := validCarLicensePlates_get hget
    exact .inl ⟨s, List.mem_of_getElem? hs, hentry⟩
  · by_cases hinvalid : rand.toNat % 1100 < 1000
    · have hlow : 900 ≤ rand.toNat % 1100 := by omega
      obtain ⟨d', hget, hserve⟩ := @serve_invalid (cameraTables hash) rand hlow hinvalid
      obtain rfl := MsgCameraEvt.data.inj (hserve.symm.trans h)
      obtain ⟨s, hs, hentry⟩ := invalidCarLicensePlates_get hget
      rw [invalidPlates_front (by omega)] at hs
      exact .inr ⟨s, List.mem_of_getElem? hs, hentry⟩
    · rw [serve_busy (by omega)] at h
      cases h

/-- Some key serves each valid plate. -/
theorem serves_valid (hash : CString → CString) {s : String} (hs : s ∈ validPlates) :
    ∃ rand, (cameraTables hash).serve .capture rand = .data (entryOf hash s) := by
  obtain ⟨i, hi, rfl⟩ := List.mem_iff_getElem.mp hs
  rw [length_validPlates] at hi
  have hkey : (UInt16.ofNat i).toNat = i := UInt16.toNat_ofNat_of_lt (show i < 65536 by omega)
  obtain ⟨d, hget, hserve⟩ := @serve_valid (cameraTables hash) (UInt16.ofNat i) (by omega)
  obtain ⟨s, hs', rfl⟩ := validCarLicensePlates_get hget
  have hindex : (UInt16.ofNat i).toNat % 1100 % 300 = i := by omega
  rw [hindex, List.getElem?_eq_getElem (by rwa [length_validPlates])] at hs'
  exact ⟨_, by rw [hserve, Option.some.inj hs']⟩

/-- Some key serves each misread Brazilian plate. -/
theorem serves_misread (hash : CString → CString) {s : String} (hs : s ∈ brMisread) :
    ∃ rand, (cameraTables hash).serve .capture rand = .data (entryOf hash s) := by
  have hlength : brMisread.length = 100 := by decide +kernel
  obtain ⟨i, hi, rfl⟩ := List.mem_iff_getElem.mp hs
  have hkey : (UInt16.ofNat (900 + i)).toNat = 900 + i :=
    UInt16.toNat_ofNat_of_lt (show 900 + i < 65536 by omega)
  obtain ⟨d, hget, hserve⟩ :=
    @serve_invalid (cameraTables hash) (UInt16.ofNat (900 + i)) (by omega) (by omega)
  obtain ⟨s, hs', rfl⟩ := invalidCarLicensePlates_get hget
  have hindex : (UInt16.ofNat (900 + i)).toNat % 1100 % 300 = i := by omega
  rw [hindex, invalidPlates_front (by omega), List.getElem?_eq_getElem hi] at hs'
  exact ⟨_, by rw [hserve, Option.some.inj hs']⟩

/-! ### What is printed -/

/-- A plate printed by a run was served, and has its verdict. -/
theorem plate_served {moves : List (CameraMove τ)} {s : CameraSystem τ} {acts : List (CameraAction τ)}
    {plate : CString} {isValid : Bool} (hrun : (camera tables).run .start moves = some (s, acts))
    (hmem : .plate plate isValid ∈ acts) :
    ∃ rand d, tables.serve .capture rand = .data d ∧ d.plate = plate ∧
      isValid = plateIsValidMercosul plate := by
  have hstep : ∀ s m s' acts, (∃ x : Exchange τ, s = x.system ∧ x.Served tables) →
      (camera tables).step s m = some (s', acts) →
      (∃ x : Exchange τ, s' = x.system ∧ x.Served tables) ∧
        ∀ a ∈ acts, ∀ plate isValid, a = .plate plate isValid →
          ∃ rand d, tables.serve .capture rand = .data d ∧ d.plate = plate ∧
            isValid = plateIsValidMercosul plate := by
    rintro s m s' acts ⟨x, rfl, hserved⟩ hstep
    obtain ⟨rfl, rfl⟩ := step_system hstep
    refine ⟨⟨_, rfl, served_move hserved m⟩, ?_⟩
    rintro a ha plate isValid rfl
    exact move_plate hserved ha
  obtain ⟨-, houtputs⟩ := (camera tables).run_outputs hstep ⟨.idle, rfl, trivial⟩ hrun
  exact houtputs _ hmem plate isValid rfl

/-- An exchange without failures. -/
theorem run_answered (tables : PlateTables) (vehicle : τ) (rand : UInt16) :
    (camera tables).run .start
        [.infraction vehicle, .apiCapture 0, .subWait 0, .serve rand, .pubEvt 0, .answer] =
      some (.start, .consumed vehicle vehicle (tables.serve .capture rand) ::
        reportPlate (tables.serve .capture rand)) := by
  show some (CameraSystem.start, .consumed vehicle vehicle _ :: (reportPlate _ ++ [])) = _
  rw [List.append_nil]

theorem prints_served (vehicle : τ) {rand : UInt16} {d : CameraData}
    (hserve : tables.serve .capture rand = .data d) :
    ∃ moves s acts, (camera tables).run (.start : CameraSystem τ) moves = some (s, acts) ∧
      .plate d.plate (plateIsValidMercosul d.plate) ∈ acts := by
  refine ⟨_, _, _, run_answered tables vehicle rand, ?_⟩
  rw [hserve]
  simp [reportPlate]

/-- **Exactly these plates can be printed.** With the tables of the camera service, a run of the two threads
can print a plate as valid exactly if it is one of the valid table, and as invalid exactly if it is one of
the misread table with one character off the Brazilian format. -/
theorem printed_plates_iff (hash : CString → CString) (vehicle : τ) (plate : CString) (isValid : Bool) :
    (∃ moves s acts, (camera (cameraTables hash)).run (.start : CameraSystem τ) moves = some (s, acts) ∧
        .plate plate isValid ∈ acts) ↔
      (isValid = true ∧ ∃ s ∈ validPlates, literal s = plate) ∨
        (isValid = false ∧ ∃ s ∈ invalidPlates, literal s = plate ∧ OneOff shapeBr plate) := by
  constructor
  · rintro ⟨moves, s, acts, hrun, hmem⟩
    obtain ⟨rand, d, hserve, rfl, rfl⟩ := plate_served hrun hmem
    rcases serve_data hserve with ⟨s, hs, rfl⟩ | ⟨s, hs, rfl⟩
    · exact .inl ⟨valid_plate hs, s, hs, rfl⟩
    · have hs' : s ∈ invalidPlates := List.mem_append_left _ (List.mem_append_left _ hs)
      exact .inr ⟨invalid_plate hs', s, hs', rfl, oneOff_misread.1 s hs⟩
  · rintro (⟨rfl, s, hs, rfl⟩ | ⟨rfl, s, hs, rfl, hoff⟩)
    · obtain ⟨rand, hserve⟩ := serves_valid hash hs
      have hprints := prints_served vehicle hserve
      rwa [show (entryOf hash s).plate = literal s from rfl, valid_plate hs] at hprints
    · have hfront : s ∈ brMisread := by
        rw [invalidPlates, List.append_assoc] at hs
        rcases List.mem_append.mp hs with hs | hs
        · exact hs
        · exact absurd hoff (oneOff_misread.2 s hs)
      obtain ⟨rand, hserve⟩ := serves_misread hash hfront
      have hprints := prints_served vehicle hserve
      rwa [show (entryOf hash s).plate = literal s from rfl, invalid_plate hs] at hprints

end Radar
