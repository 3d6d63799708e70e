import Anyserial.Windows.Discovery

/-! The IDs of a device are read back from the formats that Windows prints them in. -/
set_option autoImplicit false

namespace Anyserial.Windows

open Kit

section Digits

variable {value : BitVec 16} {digits : List Char}

/-- The value printed as four hex digits, each in either case. -/
def HexOf (value : BitVec 16) (digits : List Char) : Prop := digits.map Char.toLower = hexDigits 4 (value.toNat : Int)

instance : Decidable (HexOf value digits) := inferInstanceAs (Decidable (_ = _))

abbrev FourHex (digits : List Char) : Prop := Pattern.Fits (List.replicate 4 isHexDigit) digits

theorem hexOf_iff : HexOf value digits ↔ ∃ a b c d i j k l, digits = [a, b, c, d] ∧ hexDigit a = some i ∧ hexDigit b = some j ∧
    hexDigit c = some k ∧ hexDigit d = some l ∧ value.toNat = ofHexDigits i j k l := by
  have bound := value.isLt
  constructor
  · intro printed
    have parts : value.toNat =
        ofHexDigits (value.toNat / 4096) (value.toNat / 256 % 16) (value.toNat / 16 % 16) (value.toNat % 16) := by
      rw [ofHexDigits]
      omega
    rw [HexOf, parts, hexDigits_four (by omega) (by omega) (by omega) (by omega)] at printed
    obtain ⟨a, rest, rfl, first, printed⟩ := List.map_eq_cons_iff.mp printed
    obtain ⟨b, rest, rfl, second, printed⟩ := List.map_eq_cons_iff.mp printed
    obtain ⟨c, rest, rfl, third, printed⟩ := List.map_eq_cons_iff.mp printed
    obtain ⟨d, rest, rfl, fourth, printed⟩ := List.map_eq_cons_iff.mp printed
    cases List.map_eq_nil_iff.mp printed
    exact ⟨a, b, c, d, _, _, _, _, rfl, hexDigit_eq_some.mpr ⟨by omega, first⟩, hexDigit_eq_some.mpr ⟨by omega, second⟩,
      hexDigit_eq_some.mpr ⟨by omega, third⟩, hexDigit_eq_some.mpr ⟨by omega, fourth⟩, parts⟩
  · rintro ⟨a, b, c, d, i, j, k, l, rfl, first, second, third, fourth, same⟩
    obtain ⟨smallA, lowA⟩ := hexDigit_eq_some.mp first
    obtain ⟨smallB, lowB⟩ := hexDigit_eq_some.mp second
    obtain ⟨smallC, lowC⟩ := hexDigit_eq_some.mp third
    obtain ⟨smallD, lowD⟩ := hexDigit_eq_some.mp fourth
    rw [HexOf, same, hexDigits_four smallA smallB smallC smallD]
    simp [lowA, lowB, lowC, lowD]

theorem HexOf.intBase16 (printed : HexOf value digits) : intBase16 (String.ofList digits) = some (value.toNat : Int) := by
  obtain ⟨a, b, c, d, i, j, k, l, rfl, first, second, third, fourth, same⟩ := hexOf_iff.mp printed
  rw [same]
  exact intBase16_four first second third fourth

theorem HexOf.fits (printed : HexOf value digits) : FourHex digits := by
  obtain ⟨a, b, c, d, i, j, k, l, rfl, first, second, third, fourth, _⟩ := hexOf_iff.mp printed
  have hex {c : Char} {digit : Nat} (known : hexDigit c = some digit) : isHexDigit c = true := by simp [isHexDigit, known]
  exact .cons (hex first) (.cons (hex second) (.cons (hex third) (.cons (hex fourth) .nil)))

theorem hexOf_of_fits (fits : FourHex digits) : ∃ value, HexOf value digits := by
  match fits with
  | .cons first (.cons second (.cons third (.cons fourth .nil))) =>
    obtain ⟨i, first⟩ := Option.isSome_iff_exists.mp first
    obtain ⟨j, second⟩ := Option.isSome_iff_exists.mp second
    obtain ⟨k, third⟩ := Option.isSome_iff_exists.mp third
    obtain ⟨l, fourth⟩ := Option.isSome_iff_exists.mp fourth
    have smallA := (hexDigit_eq_some.mp first).1
    have smallB := (hexDigit_eq_some.mp second).1
    have smallC := (hexDigit_eq_some.mp third).1
    have smallD := (hexDigit_eq_some.mp fourth).1
    refine ⟨BitVec.ofNat 16 (ofHexDigits i j k l), hexOf_iff.mpr ⟨_, _, _, _, i, j, k, l, rfl, first, second, third, fourth, ?_⟩⟩
    rw [BitVec.toNat_ofNat, ofHexDigits]
    omega

end Digits

section Instances

variable {word mark : String} {vid pid : BitVec 16} {text rest : List Char} {tail : List Pattern} {found after : Found}

/-- The keyword, each letter in either case. -/
def Spells (word : String) (spelling : List Char) : Prop := Pattern.Fits (word.toList.map sameLetter) spelling

/-- The text begins with the two IDs, in the form of one bus. -/
def Names (word mark : String) (vid pid : BitVec 16) (text rest : List Char) : Prop :=
  ∃ bus v sep p, Spells word bus ∧ HexOf vid v ∧ Spells mark sep ∧ HexOf pid p ∧ text = bus ++ (v ++ (sep ++ (p ++ rest)))

/-- The shape that the patterns of both buses share. -/
def device (word mark : String) (tail : List Pattern) : Pattern :=
  .chain (literal word :: .group (hexRun 4) :: literal mark :: .group (hexRun 4) :: tail)

theorem names_of_preferred (matched : (device word mark tail).preferred text = some found) :
    ∃ vid pid rest, Names word mark vid pid text rest := by
  obtain ⟨bus, _, spelled, rfl, atVid⟩ := Pattern.preferred_chain_classes.mp matched
  obtain ⟨v, _, _, hex, rfl, atSep, _⟩ := Pattern.preferred_chain_group.mp atVid
  obtain ⟨sep, _, marked, rfl, atPid⟩ := Pattern.preferred_chain_classes.mp atSep
  obtain ⟨p, rest, _, hex', rfl, _, _⟩ := Pattern.preferred_chain_group.mp atPid
  obtain ⟨vid, printed⟩ := hexOf_of_fits hex
  obtain ⟨pid, printed'⟩ := hexOf_of_fits hex'
  exact ⟨vid, pid, rest, bus, v, sep, p, spelled, printed, marked, printed', rfl⟩

/-- What a match is used for: the numbers of its first two groups, and its third group. -/
structure Reads (m : Found) (vid pid : BitVec 16) (third : Option String) : Prop where
  vid : intGroup m 1 = some (vid.toNat : Int)
  pid : intGroup m 2 = some (pid.toNat : Int)
  third : groupText m 3 = third

theorem reads_of_groups {v p : List Char} (after : Found) (printed : HexOf vid v) (printed' : HexOf pid p) :
    Reads ⟨some v :: some p :: after.groups, rest⟩ vid pid (groupText after 1) := by
  have first : groupText ⟨some v :: some p :: after.groups, rest⟩ 1 = some (String.ofList v) := rfl
  have second : groupText ⟨some v :: some p :: after.groups, rest⟩ 2 = some (String.ofList p) := rfl
  constructor
  case vid => rw [intGroup, first, Option.bind_some, printed.intBase16]
  case pid => rw [intGroup, second, Option.bind_some, printed'.intBase16]
  case third => rfl

theorem preferred_of_names (names : Names word mark vid pid text rest) (onward : (Pattern.chain tail).preferred rest = some after) :
    ∃ m, (device word mark tail).preferred text = some m ∧ Reads m vid pid (groupText after 1) := by
  obtain ⟨bus, v, sep, p, spelled, printed, marked, printed', rfl⟩ := names
  refine ⟨⟨some v :: some p :: after.groups, after.rest⟩, ?_, reads_of_groups after printed printed'⟩
  refine Pattern.preferred_chain_classes.mpr ⟨bus, _, spelled, rfl, ?_⟩
  refine Pattern.preferred_chain_group.mpr ⟨v, _, ⟨some p :: after.groups, after.rest⟩, printed.fits, rfl, ?_, rfl⟩
  refine Pattern.preferred_chain_classes.mpr ⟨sep, _, marked, rfl, ?_⟩
  exact Pattern.preferred_chain_group.mpr ⟨p, rest, after, printed'.fits, rfl, onward, rfl⟩

/-- What a backslash does not divide. -/
structure Segment (run : List Char) : Prop where
  nonempty : run ≠ []
  whole : '\\' ∉ run

theorem preferred_segment {key run : List Char} (marked : Spells mark key) (seg : Segment run) (ends : ∀ c ∈ rest.head?, c = '\\') :
    (segment mark).preferred (key ++ (run ++ rest)) = some ⟨[some run], rest⟩ := by
  refine Pattern.preferred_optional_of_some (Pattern.preferred_chain_classes.mpr ⟨key, run ++ rest, marked, rfl, ?_⟩)
  rw [Pattern.preferred_chain_one]
  have apart (c : Char) (member : c ∈ run) : notBackslash c = true := decide_eq_true fun same => seg.whole (same ▸ member)
  refine Pattern.preferred_group.mpr ⟨⟨[], rest⟩, Pattern.preferred_plus seg.nonempty apart ?_, by simp⟩
  intro c first
  simp [notBackslash, ends c first]

theorem spells_mark {c : Char} (shape : mark.toList = [c]) : Spells mark [c] := by
  rw [Spells, shape]
  exact .cons (by simp [sameLetter]) .nil

theorem spells_self (word : String) : Spells word word.toList := by
  rw [Spells, Pattern.Fits]
  induction word.toList with
  | nil => exact .nil
  | cons c letters ih => exact .cons (by simp [sameLetter]) ih

/-- A spelling begins with the first letter of the keyword. -/
theorem Spells.head {spelling letters : List Char} {letter : Char} (shape : word.toList = letter :: letters)
    (spelled : Spells word spelling) : ∃ c more, spelling = c :: more ∧ sameLetter letter c = true := by
  rw [Spells, shape, List.map_cons] at spelled
  cases spelled with
  | @cons _ c _ more same => exact ⟨c, more, rfl, same⟩

/-- The suffix of one interface of a composite device, or nothing. -/
def Interface (suffix : List Char) : Prop :=
  suffix = [] ∨ ∃ key digits, Spells "&MI_" key ∧ Pattern.Fits (List.replicate 2 isHexDigit) digits ∧ suffix = key ++ digits

theorem preferred_usb_tail {interface run : List Char} (seg : Segment run) (named : Interface interface) :
    (Pattern.chain [.optional (.chain [literal "&MI_", hexRun 2]), segment "\\"]).preferred (interface ++ '\\' :: run) =
      some ⟨[some run], []⟩ := by
  have ends : (segment "\\").preferred (['\\'] ++ (run ++ [])) = some ⟨[some run], []⟩ :=
    preferred_segment (spells_mark (by decide +kernel)) seg nofun
  have sure : (Pattern.chain [segment "\\"]).Sure := Pattern.sure_chain fun part member => by
    cases List.mem_singleton.mp member
    exact Pattern.sure_optional
  refine (Pattern.preferred_chain_sure sure).mpr ⟨⟨[], '\\' :: run⟩, ⟨[some run], []⟩, ?_, ?_, rfl⟩
  · rcases named with rfl | ⟨key, digits, spelled, hex, rfl⟩
    · refine Pattern.preferred_optional_of_none (Option.eq_none_iff_forall_ne_some.mpr fun found matched => ?_)
      obtain ⟨key, _, fits, whole, _⟩ := Pattern.preferred_chain_classes.mp matched
      have shape : "&MI_".toList = ['&', 'M', 'I', '_'] := by decide +kernel
      obtain ⟨c, more, rfl, same⟩ := Spells.head shape fits
      obtain ⟨rfl, _⟩ := List.cons.inj whole
      exact absurd same (by decide)
    · refine Pattern.preferred_optional_of_some (Pattern.preferred_chain_classes.mpr ⟨key, digits ++ '\\' :: run, spelled, by simp, ?_⟩)
      rw [Pattern.preferred_chain_one]
      exact Pattern.preferred_classes.mpr ⟨digits, hex, rfl, rfl⟩
  · rw [Pattern.preferred_chain_one]
    simpa using ends

theorem preferred_ftdi_tail {run : List Char} (seg : Segment run) (ends : ∀ c ∈ rest.head?, c = '\\') :
    (Pattern.chain [segment "+"]).preferred ('+' :: (run ++ rest)) = some ⟨[some run], rest⟩ := by
  rw [Pattern.preferred_chain_one]
  have found : (segment "+").preferred (['+'] ++ (run ++ rest)) = some ⟨[some run], rest⟩ :=
    preferred_segment (spells_mark (by decide +kernel)) seg ends
  exact found

/-- No ID is of both buses. -/
theorem not_usb_of_ftdi (names : Names "FTDIBUS\\VID_" "+PID_" vid pid text rest) : usbInstanceIdRe.preferred text = none := by
  refine Option.eq_none_iff_forall_ne_some.mpr fun found matched => ?_
  obtain ⟨bus, _, _, _, spelled, _, _, _, rfl⟩ := names
  obtain ⟨bus', _, spelled', whole, _⟩ := Pattern.preferred_chain_classes.mp matched
  have ftdi : "FTDIBUS\\VID_".toList = 'F' :: "TDIBUS\\VID_".toList := by decide +kernel
  have usb : "USB\\VID_".toList = 'U' :: "SB\\VID_".toList := by decide +kernel
  obtain ⟨c, more, rfl, isF⟩ := spelled.head ftdi
  obtain ⟨d, more', rfl, isU⟩ := Spells.head usb spelled'
  obtain ⟨rfl, _⟩ := List.cons.inj whole
  have lowerF : c.toLower = 'f' := by simpa [sameLetter] using isF
  simp [sameLetter, lowerF] at isU

end Instances

section Serials

variable {run : List Char} {letter : Char}

theorem usbSerialNumber_run (nonempty : run ≠ []) (given : '&' ∉ run) :
    usbSerialNumber (some (String.ofList run)) = some (String.ofList run) := by
  simp [usbSerialNumber, nonempty, given]

theorem usbSerialNumber_generated (generated : '&' ∈ run) : usbSerialNumber (some (String.ofList run)) = none := by
  simp [usbSerialNumber, generated]

/-- The port letter comes off again. -/
theorem ftdiSerialNumber_snoc (nonempty : run ≠ []) (given : '&' ∉ run) (isLetter : 'A' ≤ letter ∧ letter ≤ 'Z') :
    ftdiSerialNumber (some (String.ofList (run ++ [letter]))) = some (String.ofList run) := by
  have apart : letter ≠ '&' := by
    rintro rfl
    exact absurd isLetter.1 (by decide)
  have long : 1 < run.length + 1 := Nat.succ_lt_succ (List.length_pos_iff.mpr nonempty)
  simp [ftdiSerialNumber, given, apart.symm, isLetter, long]

end Serials

section Parsing

variable {vid pid : BitVec 16} {text rest : List Char} {after : Found} {instanceId hardwareId : Option String}

theorem parse_usb (names : Names "USB\\VID_" "&PID_" vid pid text rest)
    (onward : (Pattern.chain [.optional (.chain [literal "&MI_", hexRun 2]), segment "\\"]).preferred rest = some after) :
    parseDeviceIds (some (String.ofList text)) hardwareId =
      (some (vid.toNat : Int), some (pid.toNat : Int), usbSerialNumber (groupText after 1)) := by
  obtain ⟨m, matched, reads⟩ := preferred_of_names names onward
  have usb : usbInstanceIdRe.preferred text = some m := matched
  simp only [parseDeviceIds, parseInstanceId, String.toList_ofList, usb, reads.vid, reads.pid, reads.third, Option.isSome_some, if_true]

theorem parse_ftdi (names : Names "FTDIBUS\\VID_" "+PID_" vid pid text rest)
    (onward : (Pattern.chain [segment "+"]).preferred rest = some after) :
    parseDeviceIds (some (String.ofList text)) hardwareId =
      (some (vid.toNat : Int), some (pid.toNat : Int), ftdiSerialNumber (groupText after 1)) := by
  obtain ⟨m, matched, reads⟩ := preferred_of_names names onward
  have ftdi : ftdibusInstanceIdRe.preferred text = some m := matched
  simp only [parseDeviceIds, parseInstanceId, String.toList_ofList, not_usb_of_ftdi names, ftdi, reads.vid, reads.pid, reads.third,
    Option.isSome_some, if_true]

/-- No device of either bus is named. -/
def NamesNoDevice (instanceId : Option String) : Prop :=
  ∀ id ∈ instanceId, ∀ vid pid rest,
    ¬Names "USB\\VID_" "&PID_" vid pid id.toList rest ∧ ¬Names "FTDIBUS\\VID_" "+PID_" vid pid id.toList rest

theorem parse_fallback (nameless : NamesNoDevice instanceId) :
    parseDeviceIds instanceId hardwareId = ((parseHardwareId hardwareId).1, (parseHardwareId hardwareId).2, none) := by
  have nothing : parseInstanceId instanceId = (none, none, none) := by
    cases instanceId with
    | none => rfl
    | some id =>
      have usb : usbInstanceIdRe.preferred id.toList = none :=
        Option.eq_none_iff_forall_ne_some.mpr fun found matched => by
          obtain ⟨vid, pid, rest, names⟩ := names_of_preferred matched
          exact (nameless id rfl vid pid rest).1 names
      have ftdi : ftdibusInstanceIdRe.preferred id.toList = none :=
        Option.eq_none_iff_forall_ne_some.mpr fun found matched => by
          obtain ⟨vid, pid, rest, names⟩ := names_of_preferred matched
          exact (nameless id rfl vid pid rest).2 names
      simp only [parseInstanceId, usb, ftdi]
  simp only [parseDeviceIds, nothing]
  rfl

/-- The text begins with a VID and a PID, in the form that hardware IDs have. -/
def Pair (vid pid : BitVec 16) (text : List Char) : Prop :=
  ∃ key v mark key' p rest, Spells "VID_" key ∧ HexOf vid v ∧ isPairMark mark = true ∧ Spells "PID_" key' ∧ HexOf pid p ∧
    text = key ++ (v ++ mark :: (key' ++ (p ++ rest)))

/-- The first pair in the text: none begins before it. -/
def FirstPair (vid pid : BitVec 16) (text : List Char) : Prop :=
  ∃ before rest, text = before ++ rest ∧ Pair vid pid rest ∧
    ∀ earlier later, text = earlier ++ later → earlier.length < before.length → ∀ vid pid, ¬Pair vid pid later

theorem preferred_of_pair (pair : Pair vid pid text) :
    ∃ m, hwidVidPidRe.preferred text = some m ∧ intGroup m 1 = some (vid.toNat : Int) ∧ intGroup m 2 = some (pid.toNat : Int) := by
  obtain ⟨key, v, mark, key', p, rest, spelled, printed, marked, spelled', printed', rfl⟩ := pair
  have reads : Reads ⟨[some v, some p], rest⟩ vid pid _ := reads_of_groups ⟨[], rest⟩ printed printed'
  refine ⟨⟨[some v, some p], rest⟩, ?_, reads.vid, reads.pid⟩
  refine Pattern.preferred_chain_classes.mpr ⟨key, _, spelled, rfl, ?_⟩
  refine Pattern.preferred_chain_group.mpr ⟨v, _, ⟨[some p], rest⟩, printed.fits, rfl, ?_, rfl⟩
  refine Pattern.preferred_chain_char.mpr ⟨mark, _, marked, rfl, ?_⟩
  refine Pattern.preferred_chain_classes.mpr ⟨key', _, spelled', rfl, ?_⟩
  exact Pattern.preferred_chain_group.mpr ⟨p, rest, ⟨[], rest⟩, printed'.fits, rfl, Pattern.preferred_chain_nil.mpr rfl, rfl⟩

theorem pair_of_preferred {found : Found} (matched : hwidVidPidRe.preferred text = some found) : ∃ vid pid, Pair vid pid text := by
  obtain ⟨key, _, spelled, rfl, atVid⟩ := Pattern.preferred_chain_classes.mp matched
  obtain ⟨v, _, _, hex, rfl, atMark, _⟩ := Pattern.preferred_chain_group.mp atVid
  obtain ⟨mark, _, marked, rfl, atKey⟩ := Pattern.preferred_chain_char.mp atMark
  obtain ⟨key', _, spelled', rfl, atPid⟩ := Pattern.preferred_chain_classes.mp atKey
  obtain ⟨p, rest, _, hex', rfl, _, _⟩ := Pattern.preferred_chain_group.mp atPid
  obtain ⟨vid, printed⟩ := hexOf_of_fits hex
  obtain ⟨pid, printed'⟩ := hexOf_of_fits hex'
  exact ⟨vid, pid, key, v, mark, key', p, rest, spelled, printed, marked, spelled', printed', rfl⟩

theorem preferred_eq_none_iff : hwidVidPidRe.preferred text = none ↔ ∀ vid pid, ¬Pair vid pid text := by
  constructor
  · intro unmatched vid pid pair
    obtain ⟨m, matched, _⟩ := preferred_of_pair pair
    cases unmatched.symm.trans matched
  · intro nowhere
    refine Option.eq_none_iff_forall_ne_some.mpr fun found matched => ?_
    obtain ⟨vid, pid, pair⟩ := pair_of_preferred matched
    exact nowhere vid pid pair

theorem parseHardwareId_of_firstPair {hwid : String} (first : FirstPair vid pid hwid.toList) :
    parseHardwareId (some hwid) = (some (vid.toNat : Int), some (pid.toNat : Int)) := by
  obtain ⟨before, rest, whole, pair, nowhere⟩ := first
  obtain ⟨m, matched, readsVid, readsPid⟩ := preferred_of_pair pair
  have found : hwidVidPidRe.search hwid.toList = some m :=
    Pattern.search_eq_some.mpr ⟨before, rest, whole, matched, fun earlier later same shorter =>
      preferred_eq_none_iff.mpr (nowhere earlier later same shorter)⟩
  simp only [parseHardwareId, found, readsVid, readsPid]

theorem parseHardwareId_of_no_pair (nowhere : ∀ hwid ∈ hardwareId, ∀ vid pid, ¬FirstPair vid pid hwid.toList) :
    parseHardwareId hardwareId = (none, none) := by
  cases hardwareId with
  | none => rfl
  | some hwid =>
    have unfound : hwidVidPidRe.search hwid.toList = none := by
      refine Option.eq_none_iff_forall_ne_some.mpr fun found matched => ?_
      obtain ⟨before, rest, whole, here, earlier⟩ := Pattern.search_eq_some.mp matched
      obtain ⟨vid, pid, pair⟩ := pair_of_preferred here
      exact nowhere hwid rfl vid pid ⟨before, rest, whole, pair, fun first later same shorter =>
        preferred_eq_none_iff.mp (earlier first later same shorter)⟩
    simp only [parseHardwareId, unfound]

/-- The formats that `_parse_device_ids` reads back. -/
structure ParsesDeviceIds : Prop where
  ftdibus : ∀ (vid pid : BitVec 16) (id serial rest : List Char) (letter : Char) (hardwareId : Option String),
    Names "FTDIBUS\\VID_" "+PID_" vid pid id ('+' :: (serial ++ letter :: '\\' :: rest)) → Segment serial → '&' ∉ serial →
      'A' ≤ letter ∧ letter ≤ 'Z' →
        parseDeviceIds (some (String.ofList id)) hardwareId =
          (some (vid.toNat : Int), some (pid.toNat : Int), some (String.ofList serial))
  usb : ∀ (vid pid : BitVec 16) (id interface serial : List Char) (hardwareId : Option String),
    Names "USB\\VID_" "&PID_" vid pid id (interface ++ '\\' :: serial) → Interface interface → Segment serial → '&' ∉ serial →
      parseDeviceIds (some (String.ofList id)) hardwareId =
        (some (vid.toNat : Int), some (pid.toNat : Int), some (String.ofList serial))
  generated : ∀ (vid pid : BitVec 16) (id interface last : List Char) (hardwareId : Option String),
    Names "USB\\VID_" "&PID_" vid pid id (interface ++ '\\' :: last) → Interface interface → Segment last → '&' ∈ last →
      parseDeviceIds (some (String.ofList id)) hardwareId = (some (vid.toNat : Int), some (pid.toNat : Int), none)
  hardware : ∀ (vid pid : BitVec 16) (instanceId : Option String) (hwid : String), NamesNoDevice instanceId →
    FirstPair vid pid hwid.toList →
      parseDeviceIds instanceId (some hwid) = (some (vid.toNat : Int), some (pid.toNat : Int), none)
  nothing : ∀ instanceId hardwareId, NamesNoDevice instanceId →
    (∀ hwid ∈ hardwareId, ∀ vid pid, ¬FirstPair vid pid hwid.toList) →
      parseDeviceIds instanceId hardwareId = (none, none, none)

/-- The IDs are read back from every ID in one of the formats, in any case of the letters. -/
theorem parses_device_ids : ParsesDeviceIds := by
  constructor
  case ftdibus =>
    intro vid pid id serial rest letter hardwareId names seg given isLetter
    have run : Segment (serial ++ [letter]) := by
      refine ⟨by simp, fun backslash => ?_⟩
      rcases List.mem_append.mp backslash with inside | last
      · exact seg.whole inside
      · cases List.mem_singleton.mp last
        exact absurd isLetter.2 (by decide)
    have tail : (Pattern.chain [segment "+"]).preferred ('+' :: ((serial ++ [letter]) ++ '\\' :: rest)) =
        some ⟨[some (serial ++ [letter])], '\\' :: rest⟩ := preferred_ftdi_tail run (by simp)
    rw [List.append_assoc] at tail
    rw [parse_ftdi names tail]
    exact congrArg _ (congrArg _ (ftdiSerialNumber_snoc seg.nonempty given isLetter))
  case usb =>
    intro vid pid id interface serial hardwareId names suffix seg given
    rw [parse_usb names (preferred_usb_tail seg suffix)]
    exact congrArg _ (congrArg _ (usbSerialNumber_run seg.nonempty given))
  case generated =>
    intro vid pid id interface last hardwareId names suffix seg mark
    rw [parse_usb names (preferred_usb_tail seg suffix)]
    exact congrArg _ (congrArg _ (usbSerialNumber_generated mark))
  case hardware =>
    intro vid pid instanceId hwid nameless first
    rw [parse_fallback nameless, parseHardwareId_of_firstPair first]
  case nothing =>
    intro instanceId hardwareId nameless nowhere
    rw [parse_fallback nameless, parseHardwareId_of_no_pair nowhere]

/-- The ID of FTDI's driver in the header of the source, and one of a composite device without a serial number. -/
theorem parses_device_ids_of_headers :
    parseDeviceIds (some "FTDIBUS\\VID_0403+PID_6001+BG00VBZSA\\0000") none =
        (some 0x403, some 0x6001, some "BG00VBZS") ∧
      parseDeviceIds (some "USB\\VID_2341&PID_8036&MI_00\\7&2A4F6E1&0&0000") none = (some 0x2341, some 0x8036, none) := by
  have ftdi : Names "FTDIBUS\\VID_" "+PID_" 0x403 0x6001 "FTDIBUS\\VID_0403+PID_6001+BG00VBZSA\\0000".toList
      ('+' :: ("BG00VBZS".toList ++ 'A' :: '\\' :: "0000".toList)) :=
    ⟨"FTDIBUS\\VID_".toList, "0403".toList, "+PID_".toList, "6001".toList, spells_self _, by decide +kernel, spells_self _,
      by decide +kernel, by decide +kernel⟩
  have usb : Names "USB\\VID_" "&PID_" 0x2341 0x8036 "USB\\VID_2341&PID_8036&MI_00\\7&2A4F6E1&0&0000".toList
      ("&MI_00".toList ++ '\\' :: "7&2A4F6E1&0&0000".toList) :=
    ⟨"USB\\VID_".toList, "2341".toList, "&PID_".toList, "8036".toList, spells_self _, by decide +kernel, spells_self _,
      by decide +kernel, by decide +kernel⟩
  have composite : Interface "&MI_00".toList :=
    .inr ⟨"&MI_".toList, "00".toList, spells_self _, .cons (by decide) (.cons (by decide) .nil), by decide +kernel⟩
  constructor
  · simpa using parses_device_ids.ftdibus 0x403 0x6001 _ "BG00VBZS".toList _ 'A' none ftdi
      ⟨by decide +kernel, by decide +kernel⟩ (by decide +kernel) (by decide)
  · simpa using parses_device_ids.generated 0x2341 0x8036 _ _ _ none usb composite
      ⟨by decide +kernel, by decide +kernel⟩ (by decide +kernel)

example : parseDeviceIds (some "ftdibus\\VID_0403+pid_AC3f+PID_0403B\\0000") none = (some 0x403, some 0xAC3F, some "PID_0403") := by
  decide +kernel

end Parsing

end Anyserial.Windows
