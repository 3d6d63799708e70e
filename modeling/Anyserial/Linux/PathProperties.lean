import Anyserial.Linux.CustomBaudProperties
import Anyserial.Linux.ReconfigurationProperties

/-! An open followed by reconfigurations, against an open with the last configuration
alone. Every part of the device forgets its history but the low-latency mode. -/
set_option autoImplicit false

namespace Anyserial.Linux

open Kit Posix

variable {config other : SerialConfig}

section Termios

/-- The code of a rate in the baud slot. -/
def baudSlot (rate : Nat) : Nat := (linuxTermios.standardBaudRates.lookup rate).getD bother

/-- What either path writes to `cflag`. -/
def slotWrites (config : SerialConfig) : List (Nat × Nat) :=
  linuxTermios.controlWrites config ++ [(cbaud, baudSlot config.baudrate)]

def nextTermios (config : SerialConfig) (termios : KernelTermios) : KernelTermios where
  iflag := BitVec.ofNat 32 (assignAll (linuxTermios.inputWrites config) termios.iflag.toNat)
  oflag := BitVec.ofNat 32 (assign termios.oflag.toNat linuxTermios.opost 0)
  cflag := BitVec.ofNat 32 (assignAll (slotWrites config) termios.cflag.toNat)
  lflag := BitVec.ofNat 32 (assign termios.lflag.toNat linuxTermios.localModes 0)
  line := termios.line
  cc := Vector.ofFn (committedByte termios)
  ispeed := BitVec.ofNat 32 config.baudrate
  ospeed := BitVec.ofNat 32 config.baudrate

theorem baudSlot_of_known {rate speed : Nat} (known : linuxTermios.baudrateToSpeed rate = .ok speed) :
    baudSlot rate = speed := by
  unfold TermiosModule.baudrateToSpeed at known
  cases found : linuxTermios.standardBaudRates.lookup rate with
  | none => simp [found] at known
  | some code =>
    simp only [found] at known
    cases known
    simp [baudSlot, found]

theorem baudSlot_within (rate : Nat) : baudSlot rate &&& cbaud = baudSlot rate := by
  cases found : linuxTermios.standardBaudRates.lookup rate with
  | none =>
    have custom : baudSlot rate = bother := by simp [baudSlot, found]
    rw [custom]
    decide
  | some code =>
    have known : linuxTermios.baudrateToSpeed rate = .ok code := by simp only [TermiosModule.baudrateToSpeed, found]
    rw [baudSlot_of_known known]
    exact (speed_within known).1

/-- The rate of a standard code is the rate that was asked for. -/
theorem legacyRate_assign {rate speed : Nat} (known : linuxTermios.baudrateToSpeed rate = .ok speed) (cflag : Nat) :
    legacyRate (assign cflag cbaud speed) = some rate := by
  have table : ∀ entry ∈ linuxTermios.standardBaudRates,
      (linuxTermios.standardBaudRates.find? fun other => other.2 = entry.2).map Prod.fst = some entry.1 := by decide
  have slot : assign cflag cbaud speed &&& cbaud = speed := by
    rw [assign_and_within (Nat.and_self _), (speed_within known).1]
  cases found : linuxTermios.standardBaudRates.lookup rate with
  | none => simp [TermiosModule.baudrateToSpeed, found] at known
  | some code =>
    obtain ⟨first, last, split, _⟩ := List.lookup_eq_some_iff.mp found
    simp only [TermiosModule.baudrateToSpeed, found] at known
    cases known
    rw [legacyRate, slot]
    exact table (rate, speed) (by simp [split])

theorem assignAll_slotWrites (cflag : Nat) : assignAll (slotWrites config) cflag =
    assign (assignAll (linuxTermios.controlWrites config) cflag) cbaud (baudSlot config.baudrate) :=
  assignAll_append ..

/-- Whatever the path, an accepted request is the next state of the attributes. -/
theorem requestedTermios_eq {device : Device} {termios : KernelTermios} (fine : linuxTermios.Representable config)
    (requested : requestedTermios config device = .ok termios) : termios = nextTermios config device.termios := by
  unfold requestedTermios at requested
  by_cases standard : linuxTermios.isStandardBaud config.baudrate = true
  · obtain ⟨speed, found⟩ := Option.isSome_iff_exists.mp standard
    have known : linuxTermios.baudrateToSpeed config.baudrate = .ok speed := by
      simp only [TermiosModule.baudrateToSpeed, found]
    rw [if_pos standard, TermiosModule.requested, known] at requested
    simp only [bind, Except.bind, TermiosModule.applyAll_eq fine, pure, Except.pure] at requested
    cases requested
    have rate := legacyRate_assign known (assignAll (linuxTermios.controlWrites config) device.termios.cflag.toNat)
    have slot : assign (assignAll (linuxTermios.controlWrites config) device.termios.cflag.toNat) cbaud speed =
        assignAll (slotWrites config) device.termios.cflag.toNat := by
      rw [assignAll_slotWrites, baudSlot_of_known known]
    have bytes : (Vector.ofFn fun index : Fin nccs2 => (((linuxTermios.built config
          { TermiosDevice.tcgetattr device with ispeed := speed, ospeed := speed }).cc[index.val]?).map
            CcValue.toByte).getD 0) = Vector.ofFn (committedByte device.termios) :=
      congrArg Vector.ofFn (funext fun index => committed_standard device speed index)
    change KernelTermios.mk _ _ (BitVec.ofNat 32 (assign _ cbaud speed)) _ _ (Vector.ofFn _)
      (((legacyRate (assign _ cbaud speed)).map (BitVec.ofNat 32)).getD _)
      (((legacyRate (assign _ cbaud speed)).map (BitVec.ofNat 32)).getD _) = _
    rw [bytes]
    change KernelTermios.mk _ _ (BitVec.ofNat 32 (assign (assignAll _ device.termios.cflag.toNat) cbaud speed)) _ _ _
      (((legacyRate (assign (assignAll _ device.termios.cflag.toNat) cbaud speed)).map (BitVec.ofNat 32)).getD _)
      (((legacyRate (assign (assignAll _ device.termios.cflag.toNat) cbaud speed)).map (BitVec.ofNat 32)).getD _) = _
    rw [rate, slot]
    rfl
  · rw [if_neg standard, requestedTermios2_eq, TermiosModule.applyAll_eq fine] at requested
    have custom : baudSlot config.baudrate = bother := by
      cases found : linuxTermios.standardBaudRates.lookup config.baudrate with
      | none => simp [baudSlot, found]
      | some code => simp [TermiosModule.isStandardBaud, found] at standard
    cases packed : (customTermios2 device.termios config (linuxTermios.built config (customStart device.termios))).pack with
    | error exc => simp [Functor.map, Except.map, bind, Except.bind, packed] at requested
    | ok payload =>
      have kernel := ofPayload_pack packed (length_ccBytes _)
      simp only [Functor.map, Except.map, bind, Except.bind, packed] at requested
      cases requested
      have bytes : (Vector.ofFn fun index : Fin nccs2 => ((ccBytes (linuxTermios.built config
            (customStart device.termios)).cc)[index.val]?).getD 0) = Vector.ofFn (committedByte device.termios) :=
        congrArg Vector.ofFn (funext fun index => committed_custom device.termios index)
      rw [kernel, nextTermios, assignAll_slotWrites, custom, ← bytes]
      change KernelTermios.mk _ _ _ _ (BitVec.ofNat 8 device.termios.line.toNat) _ _ _ = _
      rw [BitVec.ofNat_toNat, BitVec.setWidth_eq]
      rfl

theorem owned_slotWrites (config : SerialConfig) : owned (slotWrites config) = linuxTermios.ownedControl ||| cbaud := by
  rw [slotWrites, owned_append, TermiosModule.owned_controlWrites config linuxTermios_disjointFields]
  rfl

theorem within_slotWrites (config : SerialConfig) : Within (slotWrites config) := by
  intro write member
  rcases List.mem_append.mp member with builder | slot
  · exact TermiosModule.within_controlWrites linuxTermios_disjointFields write builder
  · cases List.mem_singleton.mp slot
    exact baudSlot_within config.baudrate

theorem assignAll_lt {writes : List (Nat × Nat)} {word : Nat} (within : Within writes) (small : owned writes < 2 ^ 32)
    (fits : word < 2 ^ 32) : assignAll writes word < 2 ^ 32 := by
  apply Nat.lt_pow_two_of_testBit
  intro i high
  have outside : (owned writes).testBit i = false :=
    Nat.testBit_lt_two_pow (Nat.lt_of_lt_of_le small (Nat.pow_le_pow_right (by decide) high))
  rw [testBit_assignAll within outside]
  exact Nat.testBit_lt_two_pow (Nat.lt_of_lt_of_le fits (Nat.pow_le_pow_right (by decide) high))

/-- A word of the kernel that was written before forgets it when the same bits are written. -/
theorem rewritten (word : BitVec 32) {writes others : List (Nat × Nat)} (within : Within others)
    (same : owned others = owned writes) (small : owned others < 2 ^ 32) :
    assignAll writes (BitVec.ofNat 32 (assignAll others word.toNat)).toNat = assignAll writes word.toNat := by
  rw [BitVec.toNat_ofNat, Nat.mod_eq_of_lt (assignAll_lt within small word.isLt)]
  exact assignAll_assignAll within same

theorem recleared (word : BitVec 32) {mask : Nat} (small : mask < 2 ^ 32) :
    assign (BitVec.ofNat 32 (assign word.toNat mask 0)).toNat mask 0 = assign word.toNat mask 0 := by
  have within : Within [(mask, 0)] := by simp [Within]
  have fits : owned [(mask, 0)] < 2 ^ 32 := by simpa [owned] using small
  have forgotten : assignAll [(mask, 0)] (BitVec.ofNat 32 (assignAll [(mask, 0)] word.toNat)).toNat =
      assignAll [(mask, 0)] word.toNat := rewritten word within rfl fits
  simpa only [assignAll] using forgotten

theorem committedByte_nextTermios (termios : KernelTermios) (index : Fin nccs2) :
    committedByte (nextTermios other termios) index = committedByte termios index := by
  have read : (nextTermios other termios).cc.get index = committedByte termios index :=
    Vector.getElem_ofFn index.isLt
  have slots : linuxTermios.vmin ≠ linuxTermios.vtime := by decide
  by_cases isVtime : index.val = linuxTermios.vtime
  · simp [committedByte, isVtime]
  · by_cases isVmin : index.val = linuxTermios.vmin
    · simp [committedByte, isVmin, slots]
    · rw [committedByte, if_neg isVtime, if_neg isVmin, read]

/-- The attributes forget every configuration but the last one. -/
theorem nextTermios_nextTermios (termios : KernelTermios) :
    nextTermios config (nextTermios other termios) = nextTermios config termios := by
  have inputs : ∀ config, owned (linuxTermios.inputWrites config) = linuxTermios.ownedInput :=
    TermiosModule.owned_inputWrites linuxTermios
  have inputSmall : owned (linuxTermios.inputWrites other) < 2 ^ 32 := by
    rw [inputs]
    decide
  have slotSmall : owned (slotWrites other) < 2 ^ 32 := by
    rw [owned_slotWrites]
    decide
  have iflag : assignAll (linuxTermios.inputWrites config) (nextTermios other termios).iflag.toNat =
      assignAll (linuxTermios.inputWrites config) termios.iflag.toNat :=
    rewritten termios.iflag (TermiosModule.within_inputWrites linuxTermios_disjointFields) (by rw [inputs, inputs]) inputSmall
  have cflag : assignAll (slotWrites config) (nextTermios other termios).cflag.toNat =
      assignAll (slotWrites config) termios.cflag.toNat :=
    rewritten termios.cflag (within_slotWrites other) (by rw [owned_slotWrites, owned_slotWrites]) slotSmall
  have oflag : assign (nextTermios other termios).oflag.toNat linuxTermios.opost 0 =
      assign termios.oflag.toNat linuxTermios.opost 0 := recleared termios.oflag (by decide)
  have lflag : assign (nextTermios other termios).lflag.toNat linuxTermios.localModes 0 =
      assign termios.lflag.toNat linuxTermios.localModes 0 := recleared termios.lflag (by decide)
  have cc : committedByte (nextTermios other termios) = committedByte termios :=
    funext (committedByte_nextTermios termios)
  rw [nextTermios, iflag, cflag, oflag, lflag, cc]
  rfl

end Termios

variable {world after : LinuxWorld} {path : String}

section LowLatency

def tunedSysfs (sysfs : Sysfs) (devicePath : String) : Sysfs :=
  match ftdiTimerText sysfs devicePath with
  | some (.number _) => setTimer (ttyName devicePath) ftdiLatencyTimerTargetMs sysfs
  | _ => sysfs

/-- `int()` accepts what the timer file holds. -/
def TimerReadable (sysfs : Sysfs) (devicePath : String) : Prop :=
  ∀ text, ftdiTimerText sysfs devicePath = some text → ∃ value, text = .number value

/-- The timer that the tuning saves. -/
def foundTimer (sysfs : Sysfs) (devicePath : String) : Option FtdiLatencyTimer :=
  match ftdiTimerText sysfs devicePath with
  | some (.number value) => some ⟨ttyName devicePath, value⟩
  | _ => none

def serialFlags (serial : Vector (BitVec 32) 32) : BitVec 32 := serial.get ⟨flagsIndex, flagsIndex_lt⟩

def isFast (serial : Vector (BitVec 32) 32) : Bool := serialFlags serial &&& asyncLowLatency ≠ 0

def fastSerial (serial : Vector (BitVec 32) 32) : Vector (BitVec 32) 32 :=
  serialRegister.write (serialFlags serial ||| asyncLowLatency) serial

/-- Low-latency mode would change nothing. -/
def AlreadyFast (devicePath : String) (device : Device) : Prop :=
  isFast device.serial = true ∧ ∀ text, ftdiTimerText device.sysfs devicePath = some text → text = .number ftdiLatencyTimerTargetMs

/-- The timer looks the same after the tuning when it was at its target before. -/
theorem timerText_tunedSysfs {sysfs : Sysfs} (readable : TimerReadable sysfs path) :
    timerText (tunedSysfs sysfs path) (ttyName path) = timerText sysfs (ttyName path) ↔
      ∀ text, ftdiTimerText sysfs path = some text → text = .number ftdiLatencyTimerTargetMs := by
  cases found : ftdiTimerText sysfs path with
  | none => simp [tunedSysfs, found]
  | some text =>
    obtain ⟨value, rfl⟩ := readable text found
    have before := timerText_of_ftdi found
    have tuned : timerText (tunedSysfs sysfs path) (ttyName path) = some (.number ftdiLatencyTimerTargetMs) := by
      rw [tunedSysfs, found]
      exact timerText_setTimer _ (by simp [before])
    rw [tuned, before]
    simp [eq_comm]

/-- Without refusals the tuning ends as the timer file says. -/
theorem tuneFtdiLatencyTimer_unrefused (unrefused : world.host.faults = noFaults) :
    Ends (tuneFtdiLatencyTimer path) world
      (fun saved after => TimerReadable world.host.device.sysfs path ∧ saved = foundTimer world.host.device.sysfs path ∧
        after.host.device.sysfs = tunedSysfs world.host.device.sysfs path ∧
          after.host.device.serial = world.host.device.serial ∧ after.backend = world.backend)
      (fun exc _ => ¬TimerReadable world.host.device.sysfs path ∧ exc.isOSError = false) := by
  have accepts : ∀ call phase, world.host.faults call phase = none := fun call phase => by rw [unrefused]; rfl
  have absent : ftdiTimerText world.host.device.sysfs path = none →
      TimerReadable world.host.device.sysfs path ∧ none = foundTimer world.host.device.sysfs path ∧
        world.host.device.sysfs = tunedSysfs world.host.device.sysfs path := by
    intro missing
    exact ⟨fun text found => by simp [missing] at found, by simp [foundTimer, missing], by simp [tunedSysfs, missing]⟩
  simp only [tuneFtdiLatencyTimer, ftdiLatencyTimerPath, ends_bind, ends_getHost, accepts]
  cases entered : world.host.device.sysfs (ttyName path) with
  | none =>
    obtain ⟨readable, unsaved, same⟩ := absent (by simp [ftdiTimerText, entered])
    exact ⟨readable, unsaved, same, rfl, rfl⟩
  | some entry =>
    rw [ends_ite]
    constructor
    · rintro ⟨driver, present⟩
      obtain ⟨text, timer⟩ := Option.isSome_iff_exists.mp present
      have found : ftdiTimerText world.host.device.sysfs path = some text := by
        simp [ftdiTimerText, entered, driver, timer]
      have held := timerText_of_ftdi found
      simp only [ends_pure, ends_bind, readLatencyTimer, writeLatencyTimer, ends_getHost, ends_refuse, accepts, held]
      refine ⟨nofun, fun _ => ?_⟩
      cases text with
      | garbage text =>
        refine ⟨fun readable => ?_, rfl⟩
        obtain ⟨value, same⟩ := readable _ found
        cases same
      | number value =>
        have readable : TimerReadable world.host.device.sysfs path := by
          intro text same
          cases found.symm.trans same
          exact ⟨value, rfl⟩
        simp only [ends_pure, ends_whenever, ends_bind, ends_getHost, ends_refuse, ends_ite, ends_modifyDevice, accepts, held]
        refine ⟨fun _ => ⟨nofun, fun _ => ⟨fun _ => ?_, fun missing => absurd rfl missing⟩⟩, fun atTarget => ?_⟩
        · exact ⟨readable, by simp [foundTimer, found], by simp [tunedSysfs, found], trivial, trivial⟩
        · refine ⟨readable, by simp [foundTimer, found], ?_, trivial, trivial⟩
          have same : value = ftdiLatencyTimerTargetMs := by simpa using atTarget
          have read : (timerRegister (ttyName path)).read world.host.device.sysfs = some ftdiLatencyTimerTargetMs := by
            simp [timerRegister, held, same]
          rw [tunedSysfs, found]
          exact ((timerRegister (ttyName path)).write_read _ _ read).symm
    · intro other
      have missing : ftdiTimerText world.host.device.sysfs path = none := by
        by_cases driver : entry.driver = some ftdiDriverName
        · simpa [ftdiTimerText, entered, driver] using fun present : entry.latencyTimer.isSome = true => other ⟨driver, present⟩
        · simp [ftdiTimerText, entered, driver]
      obtain ⟨readable, unsaved, same⟩ := absent missing
      exact ⟨readable, unsaved, same, rfl, rfl⟩

theorem serialFlags_write (flags : BitVec 32) (serial : Vector (BitVec 32) 32) :
    serialFlags (serialRegister.write flags serial) = flags := Vector.getElem_set_self flagsIndex_lt

theorem write_serialFlags (serial : Vector (BitVec 32) 32) : serialRegister.write (serialFlags serial) serial = serial :=
  serialRegister.write_read _ _ rfl

theorem isFast_fastSerial (serial : Vector (BitVec 32) 32) : isFast (fastSerial serial) = true := by
  have bit : (serialFlags serial ||| asyncLowLatency) &&& asyncLowLatency = asyncLowLatency := by
    ext i inside
    simpa using Or.inr
  rw [isFast, fastSerial, serialFlags_write, bit]
  decide

/-- The flag is a single bit, so a word that has it does not change. -/
theorem or_asyncLowLatency {flags : BitVec 32} (fast : flags &&& asyncLowLatency ≠ 0) : flags ||| asyncLowLatency = flags := by
  have single : asyncLowLatency = BitVec.twoPow 32 13 := by decide
  have set : flags.getLsbD 13 = true := by
    refine Classical.byContradiction fun unset => fast ?_
    rw [single, BitVec.and_twoPow, if_neg unset]
    rfl
  ext i inside
  rw [single, BitVec.getElem_or, BitVec.getElem_twoPow]
  by_cases here : i = 13
  · subst here
    simpa [BitVec.getLsbD_eq_getElem inside] using set
  · simp [here]

theorem fastSerial_of_isFast {serial : Vector (BitVec 32) 32} (fast : isFast serial = true) : fastSerial serial = serial := by
  rw [fastSerial, or_asyncLowLatency (of_decide_eq_true fast), write_serialFlags]

theorem enableLowLatency_unrefused {fd : Int} (held : world.host.Holds fd) (unrefused : world.host.faults = noFaults) :
    Ends (enableLowLatency fd) world
      (fun original after => original = serialFlags world.host.device.serial ∧
        after.host.device.serial = fastSerial world.host.device.serial ∧
          after.host.device.sysfs = world.host.device.sysfs ∧ after.host.faults = noFaults ∧ after.backend = world.backend)
      (fun _ _ => False) := by
  have accepts : ∀ call phase, world.host.faults call phase = none := fun call phase => by rw [unrefused]; rfl
  simp only [enableLowLatency, ends_bind, ends_readSerialFlags held, ends_ite, ends_pure, ends_writeSerialFlags held, accepts]
  refine ⟨by simp, fun _ => ⟨fun already => ?_, fun _ => ⟨by simp, fun _ => ⟨by simp, fun _ => ?_⟩⟩⟩⟩
  · exact ⟨rfl, (fastSerial_of_isFast (decide_eq_true already)).symm, trivial, unrefused, trivial⟩
  · exact ⟨rfl, rfl, rfl, unrefused, rfl⟩

/-- Without refusals low-latency mode is in force afterwards, unless the timer file is unreadable. -/
theorem enableLowLatencyMode_unrefused {policy : UnsupportedPolicy} (held : world.host.Holds world.backend.fd)
    (unrefused : world.host.faults = noFaults) :
    Ends (enableLowLatencyMode policy) world
      (fun _ after => TimerReadable world.host.device.sysfs world.backend.path ∧
        after.host.device.serial = fastSerial world.host.device.serial ∧
          after.host.device.sysfs = tunedSysfs world.host.device.sysfs world.backend.path ∧
            after.backend.slots.savedAsyncFlags = some (serialFlags world.host.device.serial) ∧
              after.backend.slots.ftdiTimer = foundTimer world.host.device.sysfs world.backend.path)
      (fun _ _ => ¬TimerReadable world.host.device.sysfs world.backend.path) := by
  simp only [enableLowLatencyMode, enableFlags, tuneTimer, ends_bind, ends_getBackend, ends_exceptOSError, ends_modifySlots]
  refine (enableLowLatency_unrefused held unrefused).mono (fun original middle enabled => ?_) (fun _ _ never => never.elim)
  obtain ⟨rfl, fast, sysfs, faults, backend⟩ := enabled
  let saved : LinuxWorld := { middle with backend := { middle.backend with slots :=
    { middle.backend.slots with savedAsyncFlags := some (serialFlags world.host.device.serial) } } }
  have tunable : saved.host.faults = noFaults := faults
  rw [← sysfs, ← backend]
  refine (tuneFtdiLatencyTimer_unrefused tunable).mono (fun _ after tuned => ?_) (fun exc _ failed => ?_)
  · obtain ⟨readable, found, timer, serial, slots⟩ := tuned
    exact ⟨readable, serial.trans fast, timer, by rw [slots], found⟩
  · obtain ⟨unreadable, kind⟩ := failed
    exact ⟨fun isOSError => by simp [kind] at isOSError, fun _ => unreadable⟩

/-- Low latency as an open left it on a device that it found as `device`. -/
structure FastOf (path : String) (device : Device) (opener : Bool) (world : LinuxWorld) : Prop where
  serial : world.host.device.serial = if opener then fastSerial device.serial else device.serial
  sysfs : world.host.device.sysfs = if opener then tunedSysfs device.sysfs path else device.sysfs
  flags : world.backend.slots.savedAsyncFlags = if opener then some (serialFlags device.serial) else none
  timer : world.backend.slots.ftdiTimer = if opener then foundTimer device.sysfs path else none

theorem FastOf.of_same {device : Device} {opener : Bool} (holds : FastOf path device opener world)
    (same : SameLowLatency world after) : FastOf path device opener after where
  serial := same.serial.trans holds.serial
  sysfs := same.sysfs.trans holds.sysfs
  flags := same.flags.trans holds.flags
  timer := same.timer.trans holds.timer

end LowLatency

section RS485

variable {origin state merged : RS485State} {rs485 earlier : RS485Config}

/-- Both delays have an encoding. -/
def Encodable (rs485 : Option RS485Config) : Prop := ∀ config, rs485 = some config → ∃ encoded, fromConfig config = .ok encoded

/-- The device is `origin` under the RS-485 configuration in force, and the snapshot is `origin`. -/
structure Rs485Of (origin : RS485State) (rs485 : Option RS485Config) (world : LinuxWorld) : Prop where
  saved : world.backend.slots.savedRs485 = rs485.map fun _ => origin
  plain : rs485 = none → .decode world.host.device.rs485 = origin
  merged : ∀ config, rs485 = some config → origin.withFlagsFrom config = .ok (.decode world.host.device.rs485)
  size : world.host.device.rs485.length = serRs485Size

theorem Rs485Of.encodable {chosen : Option RS485Config} (holds : Rs485Of origin chosen world) : Encodable chosen :=
  fun config same => encoded_of_withFlagsFrom (holds.merged config same)

variable (rs485) in
/-- The snapshot that an apply keeps or takes is the origin, and so is what it merges into. -/
theorem Rs485Of.apply {prior : Option RS485Config} (holds : Rs485Of origin prior world) :
    world.backend.slots.savedRs485.or (some (.decode world.host.device.rs485)) = some origin ∧
      (RS485State.decode world.host.device.rs485).withFlagsFrom rs485 = origin.withFlagsFrom rs485 := by
  cases prior with
  | none => simp [holds.saved, holds.plain rfl]
  | some config => exact ⟨by simp [holds.saved], withFlagsFrom_withFlagsFrom (holds.merged config rfl)⟩

theorem rs485Of_written {payload : Bytes} (fits : merged.Fits) (packed : merged.toBytes = .ok payload)
    (saved : world.backend.slots.savedRs485 = some origin) (accepted : origin.withFlagsFrom rs485 = .ok merged) :
    Rs485Of origin (some rs485) (withRs485 world payload) := by
  constructor
  case saved => exact saved
  case plain => exact nofun
  case merged =>
    intro config same
    cases same
    rw [accepted]
    exact congrArg Except.ok (RS485State.decode_toBytes fits packed).symm
  case size => exact (RS485State.toBytes_zeroPadded packed).size

theorem applyRs485_unrefused {policy : UnsupportedPolicy} {prior : Option RS485Config}
    (held : world.host.Holds world.backend.fd) (unrefused : world.host.faults = noFaults) (holds : Rs485Of origin prior world) :
    Ends (applyRs485 rs485 policy) world (fun _ after => Rs485Of origin (some rs485) after)
      (fun _ _ => ¬Encodable (some rs485)) := by
  have accepts : ∀ call phase, world.host.faults call phase = none := fun call phase => by rw [unrefused]; rfl
  have read : RS485State.fromBytes world.host.device.rs485 = .ok (.decode world.host.device.rs485) := by
    simp only [RS485State.fromBytes, holds.size, Nat.lt_irrefl, if_false]
  obtain ⟨saved, forgets⟩ := Rs485Of.apply rs485 holds
  have fits := RS485State.decode_fits world.host.device.rs485
  simp only [applyRs485, ends_bind, ends_getBackend, ends_exceptOSError, ends_map, ends_readRs485 held, read, accepts]
  refine ⟨by simp, fun _ => ⟨fun current same => ?_, by simp⟩⟩
  cases same
  have heldAfter : (withSnapshot world (.decode world.host.device.rs485)).host.Holds world.backend.fd := held
  simp only [ends_modifySlots, ends_liftExcept]
  refine ⟨fun merged built => ?_, fun exc failed encodable => ?_⟩
  · have size := RS485State.withFlagsFrom_fits fits built
    refine (ends_writeRs485 heldAfter).mpr ⟨fun payload packed => ⟨fun err refused => ?_, fun _ => ?_⟩, fun exc broken => ?_⟩
    · cases (accepts .tiocsrs485 .apply).symm.trans refused
    · exact rs485Of_written size packed saved (forgets ▸ built)
    · exact absurd broken size.toBytes_ne_error
  · obtain ⟨encoded, built⟩ := encodable rs485 rfl
    obtain ⟨merged, kept⟩ := withFlagsFrom_of_ok (.decode world.host.device.rs485) built
    cases kept.symm.trans failed

theorem configureRs485_unrefused {prior : Option RS485Config} (held : world.host.Holds world.backend.fd)
    (unrefused : world.host.faults = noFaults) (fits : origin.Fits) (holds : Rs485Of origin prior world) :
    Ends (configureRs485 config) world (fun _ after => Rs485Of origin config.rs485 after)
      (fun _ _ => ¬Encodable config.rs485) := by
  have accepts : world.host.faults .tiocsrs485 .apply = none := by rw [unrefused]; rfl
  rw [configureRs485, ends_bind, ends_getBackend]
  cases chosen : config.rs485 with
  | some rs485 => exact applyRs485_unrefused held unrefused holds
  | none =>
    cases prior with
    | none =>
      have saved : world.backend.slots.savedRs485 = none := holds.saved
      simp only [saved, ends_pure]
      exact holds
    | some earlier =>
      have saved : world.backend.slots.savedRs485 = some origin := holds.saved
      simp only [saved, ends_bind, ends_suppressOSError, ends_writeRs485 held, ends_modifySlots]
      refine ⟨fun payload packed => ⟨fun err refused => ?_, fun _ => ?_⟩, fun exc broken => ?_⟩
      · cases accepts.symm.trans refused
      · constructor
        case saved => rfl
        case plain => exact fun _ => RS485State.decode_toBytes fits packed
        case merged => simp
        case size => exact (RS485State.toBytes_zeroPadded packed).size
      · exact absurd broken fits.toBytes_ne_error

end RS485

section Paths

def configureAll : List SerialConfig → Py LinuxWorld Unit
  | [] => pure ()
  | config :: rest => do
      configure config
      configureAll rest

/-- An open, then the reconfigurations in their order. -/
def applyPath (path : String) (first : SerialConfig) (rest : List SerialConfig) : Py LinuxWorld Unit := do
  openPort path first
  configureAll rest

/-- The last configuration on the path. -/
def lastConfig (first : SerialConfig) (rest : List SerialConfig) : SerialConfig := rest.getLastD first

/-- What a path leaves on the device. -/
structure Outcome where
  termios : KernelTermios
  lowLatency : Bool
  latencyTimer : Option TimerText
  rs485 : RS485State
  deriving DecidableEq

def outcome (path : String) (device : Device) : Outcome :=
  ⟨device.termios, isFast device.serial, timerText device.sysfs (ttyName path), .decode device.rs485⟩

/-- The device after `config` was applied to an open port: it remembers how it was
opened in its low-latency mode only. -/
structure Applied (path : String) (device : Device) (opener : Bool) (config : SerialConfig) (world : LinuxWorld) : Prop where
  held : world.host.Holds world.backend.fd
  unrefused : world.host.faults = noFaults
  accepted : TermiosAccepts config noFaults
  termios : world.host.device.termios = nextTermios config device.termios
  readable : opener = true → TimerReadable device.sysfs path
  lowLatency : FastOf path device opener world
  rs485 : Rs485Of (.decode device.rs485) config.rs485 world

variable {device : Device} {host : Host Device} {opener : Bool} {first : SerialConfig} {rest : List SerialConfig}

theorem Applied.fast (applied : Applied path device opener config world) :
    isFast world.host.device.serial = (opener || isFast device.serial) := by
  rw [applied.lowLatency.serial]
  cases opener with
  | true => exact isFast_fastSerial device.serial
  | false => rfl

theorem configure_applied (applied : Applied path device opener other world) :
    Ends (configure config) world (fun _ after => Applied path device opener config after)
      (fun _ _ => ¬(TermiosAccepts config noFaults ∧ Encodable config.rs485)) := by
  rw [configure, ends_bind]
  refine (posixConfigure_spec applied.held).mono (fun _ middle moved => ?_) (fun _ _ refused accepts => ?_)
  · obtain ⟨accepts, termios, requested, rfl⟩ := moved
    rw [applied.unrefused] at accepts
    have held : (reconfigured world config termios).host.Holds (reconfigured world config termios).backend.fd := applied.held
    have unrefused : (reconfigured world config termios).host.faults = noFaults := applied.unrefused
    have prior : Rs485Of (.decode device.rs485) other.rs485 (reconfigured world config termios) :=
      ⟨applied.rs485.saved, applied.rs485.plain, applied.rs485.merged, applied.rs485.size⟩
    have next : termios = nextTermios config device.termios := by
      rw [requestedTermios_eq accepts.1 requested, applied.termios, nextTermios_nextTermios]
    refine ((configureRs485_unrefused held unrefused (RS485State.decode_fits _) prior).and
      (keepsButRs485_configureRs485 _)).mono (fun _ after ended => ?_) (fun _ _ ended both => ended.1 both.2)
    obtain ⟨rs485, frame⟩ := ended
    obtain ⟨descriptor, lowLatency⟩ := frames_of_eraseRs485 frame
    have committed : after.host.device.termios = termios := congrArg (fun erased => erased.host.device.termios) frame
    constructor
    case held => exact descriptor.holds held
    case unrefused => exact descriptor.faults.trans unrefused
    case accepted => exact accepts
    case termios => exact committed.trans next
    case readable => exact applied.readable
    case lowLatency =>
      have before : FastOf path device opener (reconfigured world config termios) :=
        ⟨applied.lowLatency.serial, applied.lowLatency.sysfs, applied.lowLatency.flags, applied.lowLatency.timer⟩
      exact before.of_same lowLatency
    case rs485 => exact rs485
  · exact refused.1 (applied.unrefused ▸ accepts.1)

theorem configureAll_applied (applied : Applied path device opener other world) :
    Ends (configureAll rest) world (fun _ after => Applied path device opener (lastConfig other rest) after)
      (fun _ _ => True) := by
  induction rest generalizing other world with
  | nil => exact applied
  | cons config rest ih =>
    rw [configureAll, ends_bind]
    refine (configure_applied applied).mono (fun _ middle moved => ?_) (fun _ _ _ => trivial)
    rw [lastConfig, List.getLastD_cons]
    exact ih moved

/-- What an open that meets no refusal asks of its arguments. -/
structure Openable (path : String) (host : Host Device) (config : SerialConfig) : Prop where
  clean : host.pathError path = none
  accepted : TermiosAccepts config noFaults
  readable : config.lowLatency = true → TimerReadable host.device.sysfs path
  encodable : Encodable config.rs485

theorem posixOpenPort_unrefused (closed : world.backend.isOpen = false) (unrefused : world.host.faults = noFaults) :
    Ends (Posix.openPort "LinuxBackend" applyConfigToFd path config) world
      (fun _ after => world.host.pathError path = none ∧ TermiosAccepts config noFaults ∧
        after = opened (withTermios world (nextTermios config world.host.device.termios)) path config)
      (fun _ _ => world.host.pathError path ≠ none ∨ ¬TermiosAccepts config noFaults) := by
  have accepts : ∀ call phase, world.host.faults call phase = none := fun call phase => by rw [unrefused]; rfl
  have held : (withDescriptor world).host.Holds (lowestUnused world.host.openFds) :=
    ⟨lowestUnused_nonneg _, List.mem_cons_self ..⟩
  simp only [Posix.openPort, setUp, acquireExclusiveLock, ends_bind, ends_getBackend, closed, Bool.false_eq_true, if_false,
    ends_osOpen, ends_tryCatch, ends_whenever, ends_throw, ends_modifyBackend]
  refine ⟨fun exc failed => .inl (by simp [failed]), fun clean => ⟨fun err refused => ?_, fun _ => ?_⟩⟩
  · cases (accepts _ _).symm.trans refused
  have applies : Ends (applyConfigToFd (lowestUnused world.host.openFds) config) (withDescriptor world)
      (fun _ after => world.host.pathError path = none ∧ TermiosAccepts config noFaults ∧
        { after with backend := ⟨lowestUnused world.host.openFds, path, some config, after.backend.slots⟩ } =
          opened (withTermios world (nextTermios config world.host.device.termios)) path config)
      (fun _ after => Ends (osClose (lowestUnused world.host.openFds)) after
        (fun _ _ => world.host.pathError path ≠ none ∨ ¬TermiosAccepts config noFaults)
        (fun _ _ => world.host.pathError path ≠ none ∨ ¬TermiosAccepts config noFaults)) := by
    refine (applyConfigToFd_spec held).mono (fun _ after moved => ?_) (fun exc after refused => ?_)
    · obtain ⟨accepted, termios, requested, rfl⟩ := moved
      have fine : TermiosAccepts config noFaults := unrefused ▸ accepted
      refine ⟨clean, fine, ?_⟩
      rw [requestedTermios_eq fine.1 requested]
      rfl
    · have bad : ¬TermiosAccepts config noFaults := fun fine => refused.1 (unrefused.symm ▸ fine)
      exact ends_of_forall (fun _ _ => .inr bad) fun _ _ => .inr bad
  constructor
  · intro exclusive
    refine (ends_fcntlCall held).mpr ⟨fun err refused => ?_, fun _ => applies⟩
    cases (accepts _ _).symm.trans refused
  · intro shared
    exact applies

/-- Tuning a port that was just opened. -/
theorem tune_applied {device : Device} (path_eq : world.backend.path = path) (held : world.host.Holds world.backend.fd)
    (unrefused : world.host.faults = noFaults) (accepted : TermiosAccepts config noFaults)
    (termios : world.host.device.termios = nextTermios config device.termios)
    (plain : FastOf path device false world) (fresh : Rs485Of (.decode device.rs485) none world) :
    Ends (tune config) world (fun _ after => Applied path device config.lowLatency config after)
      (fun _ _ => ¬((config.lowLatency = true → TimerReadable device.sysfs path) ∧ Encodable config.rs485)) := by
  subst path_eq
  -- The low-latency half leaves everything but its own part as it was.
  have rest : ∀ middle : LinuxWorld, SameDescriptor world middle → SameRs485 world middle →
      middle.host.device.termios = world.host.device.termios →
      (config.lowLatency = true → TimerReadable device.sysfs world.backend.path) →
      FastOf world.backend.path device config.lowLatency middle →
      Ends (tuneRs485 config) middle (fun _ after => Applied world.backend.path device config.lowLatency config after)
        (fun _ _ => ¬((config.lowLatency = true → TimerReadable device.sysfs world.backend.path) ∧ Encodable config.rs485)) := by
    intro middle descriptor rs485 attributes readable tuned
    have heldMiddle := descriptor.holds held
    have unrefusedMiddle : middle.host.faults = noFaults := descriptor.faults.trans unrefused
    have prior : Rs485Of (.decode device.rs485) none middle :=
      ⟨rs485.saved.trans fresh.saved, fun plain => rs485.device ▸ fresh.plain plain, by simp, rs485.device ▸ fresh.size⟩
    cases chosen : config.rs485 with
    | none =>
      rw [tuneRs485_none chosen]
      exact ⟨heldMiddle, unrefusedMiddle, accepted, attributes.trans termios, readable, tuned, chosen ▸ prior⟩
    | some settings =>
      rw [tuneRs485_some chosen]
      refine ((applyRs485_unrefused heldMiddle unrefusedMiddle prior).and (keepsButRs485_applyRs485 middle)).mono
        (fun _ after ended => ?_) (fun _ _ ended both => ended.1 both.2)
      obtain ⟨applied, frame⟩ := ended
      obtain ⟨descriptorAfter, lowLatency⟩ := frames_of_eraseRs485 frame
      have committed : after.host.device.termios = middle.host.device.termios :=
        congrArg (fun erased => erased.host.device.termios) frame
      constructor
      case held => exact descriptorAfter.holds heldMiddle
      case unrefused => exact descriptorAfter.faults.trans unrefusedMiddle
      case accepted => exact accepted
      case termios => exact committed.trans (attributes.trans termios)
      case readable => exact readable
      case lowLatency => exact tuned.of_same lowLatency
      case rs485 => exact chosen ▸ applied
  rw [tune, ends_bind, ends_whenever]
  constructor
  · intro asked
    refine ((enableLowLatencyMode_unrefused held unrefused).and (keeps_enableLowLatencyMode lowLatencyMoves_erase world)).mono
      (fun _ middle ended => ?_) (fun _ _ ended both => ?_)
    · obtain ⟨⟨readable, serial, tuned, flags, timer⟩, frame⟩ := ended
      obtain ⟨descriptor, rs485⟩ := frames_of_eraseLowLatency frame
      have attributes : middle.host.device.termios = world.host.device.termios :=
        congrArg (fun erased => erased.host.device.termios) frame
      rw [plain.sysfs] at readable tuned timer
      rw [plain.serial] at serial flags
      exact rest middle descriptor rs485 attributes (fun _ => readable)
        ⟨by rw [serial, asked]; rfl, by rw [tuned, asked]; rfl, by rw [flags, asked]; rfl, by rw [timer, asked]; rfl⟩
    · have unreadable := ended.1
      rw [plain.sysfs] at unreadable
      exact unreadable (both.1 asked)
  · intro unasked
    have slow : config.lowLatency = false := by simpa using unasked
    exact rest world ⟨rfl, rfl, rfl, rfl⟩ ⟨rfl, rfl⟩ rfl (by simp [slow]) (by rw [slow]; exact plain)

variable (config world path) in
theorem openPort_applied (closed : world.backend.isOpen = false) (empty : world.backend.slots = {})
    (unrefused : world.host.faults = noFaults) (size : world.host.device.rs485.length = serRs485Size) :
    Ends (openPort path config) world
      (fun _ after => world.host.pathError path = none ∧ Applied path world.host.device config.lowLatency config after)
      (fun _ _ => ¬Openable path world.host config) := by
  rw [openPort, ends_bind]
  refine (posixOpenPort_unrefused closed unrefused).mono (fun _ middle moved => ?_) (fun _ _ refused openable => ?_)
  · obtain ⟨clean, accepted, rfl⟩ := moved
    let middle := opened (withTermios world (nextTermios config world.host.device.termios)) path config
    have held : middle.host.Holds middle.backend.fd := ⟨lowestUnused_nonneg _, List.mem_cons_self ..⟩
    have slots : middle.backend.slots = {} := empty
    have plain : FastOf path world.host.device false middle := ⟨rfl, rfl, by rw [slots]; rfl, by rw [slots]; rfl⟩
    have fresh : Rs485Of (.decode world.host.device.rs485) none middle := ⟨by rw [slots]; rfl, fun _ => rfl, by simp, size⟩
    have path_eq : middle.backend.path = path := rfl
    have termios : middle.host.device.termios = nextTermios config world.host.device.termios := rfl
    rw [ends_tryCatch]
    refine (tune_applied path_eq held unrefused accepted termios plain fresh).mono (fun _ after applied => ⟨clean, applied⟩)
      (fun exc failed refused => ?_)
    have closed : ¬Openable path world.host config := fun openable => refused ⟨openable.readable, openable.encodable⟩
    rw [ends_bind]
    exact ends_of_forall (fun _ _ => closed) fun _ _ => closed
  · rcases refused with null | bad
    · exact null openable.clean
    · exact bad openable.accepted

/-- A path that meets no refusal is an open that only remembers the first low-latency mode. -/
theorem applyPath_applied (unrefused : host.faults = noFaults) (size : host.device.rs485.length = serRs485Size) :
    Ends (applyPath path first rest) (start host)
      (fun _ after => host.pathError path = none ∧
        Applied path host.device first.lowLatency (lastConfig first rest) after)
      (fun _ _ => True) := by
  rw [applyPath, ends_bind]
  refine (openPort_applied first (start host) path rfl rfl unrefused size).mono (fun _ middle moved => ?_) (fun _ _ _ => trivial)
  obtain ⟨clean, applied⟩ := moved
  exact (configureAll_applied applied).mono (fun _ _ last => ⟨clean, last⟩) (fun _ _ _ => trivial)

/-- Two applications of one configuration agree in everything but the low-latency mode. -/
theorem outcome_eq_iff {second : Bool} {direct : LinuxWorld} (applied : Applied path device opener config after)
    (directly : Applied path device second config direct) :
    outcome path direct.host.device = outcome path after.host.device ↔
      isFast direct.host.device.serial = isFast after.host.device.serial ∧
        timerText direct.host.device.sysfs (ttyName path) = timerText after.host.device.sysfs (ttyName path) := by
  have rs485 : RS485State.decode direct.host.device.rs485 = .decode after.host.device.rs485 := by
    cases chosen : config.rs485 with
    | none => rw [directly.rs485.plain chosen, applied.rs485.plain chosen]
    | some settings =>
      exact Except.ok.inj ((directly.rs485.merged settings chosen).symm.trans (applied.rs485.merged settings chosen))
  simp [outcome, directly.termios, applied.termios, rs485]

/-- The tuning of an open is visible unless the device was tuned before. -/
theorem tuning_invisible_iff (readable : TimerReadable device.sysfs path) :
    (isFast device.serial = true ∧
        timerText (tunedSysfs device.sysfs path) (ttyName path) = timerText device.sysfs (ttyName path)) ↔
      AlreadyFast path device := by
  rw [timerText_tunedSysfs readable, AlreadyFast]

theorem AlreadyFast.readable (already : AlreadyFast path device) : TimerReadable device.sysfs path :=
  fun text found => ⟨_, already.2 text found⟩

/-- A path ends where an open with its last configuration alone ends, exactly when both
opens ask for the same low-latency mode or the device has it anyway. -/
theorem path_independent_iff (unrefused : host.faults = noFaults) (size : host.device.rs485.length = serRs485Size)
    (ran : applyPath path first rest (start host) = .ok () after) :
    Ends (openPort path (lastConfig first rest)) (start host)
        (fun _ direct => outcome path direct.host.device = outcome path after.host.device) (fun _ _ => False) ↔
      first.lowLatency = (lastConfig first rest).lowLatency ∨ AlreadyFast path host.device := by
  obtain ⟨clean, applied⟩ := (ends_of_ok ran).mp (applyPath_applied unrefused size)
  have opens := openPort_applied (lastConfig first rest) (start host) path rfl rfl unrefused size
  have shown : ∀ direct, Applied path host.device (lastConfig first rest).lowLatency (lastConfig first rest) direct →
      (outcome path direct.host.device = outcome path after.host.device ↔
        first.lowLatency = (lastConfig first rest).lowLatency ∨ AlreadyFast path host.device) := by
    intro direct directly
    rw [outcome_eq_iff applied directly, directly.fast, directly.lowLatency.sysfs, applied.fast, applied.lowLatency.sysfs]
    have early := applied.readable
    have late := directly.readable
    cases opener : first.lowLatency with
    | true =>
      cases final : (lastConfig first rest).lowLatency with
      | true => simp
      | false =>
        have invisible := tuning_invisible_iff (early opener)
        simp only [Bool.true_or, Bool.false_or, if_true, Bool.false_eq_true, if_false, reduceCtorEq, false_or, ← invisible]
        exact and_congr_right fun _ => eq_comm
    | false =>
      cases final : (lastConfig first rest).lowLatency with
      | true =>
        have invisible := tuning_invisible_iff (late final)
        simp only [Bool.true_or, Bool.false_or, if_true, Bool.false_eq_true, if_false, false_or, ← invisible]
        exact and_congr_left fun _ => eq_comm
      | false => simp
  constructor
  · intro same
    refine Classical.byContradiction fun differs =>
      not_ends_nowhere ((same.and opens).mono (fun _ direct ended => ?_) fun _ _ ended => ended.1)
    exact differs ((shown direct ended.2.2).mp ended.1)
  · intro kept
    refine opens.mono (fun _ direct ended => (shown direct ended.2).mpr kept) fun _ _ refused => refused ?_
    constructor
    case clean => exact clean
    case accepted => exact applied.accepted
    case readable =>
      intro asked
      rcases kept with same | already
      · exact applied.readable (same.trans asked)
      · exact already.readable
    case encodable => exact applied.rs485.encodable

/-- Two custom rates and a round trip through RS-485, opened and left in low-latency mode. -/
def winding : List SerialConfig :=
  [{ SerialConfig.defaults with baudrate := 250000, rs485 := some .defaults, parity := .even, baudratePositive := by decide },
    { SerialConfig.defaults with baudrate := 9600, flowControl := { rtsCts := true }, baudratePositive := by decide },
    { SerialConfig.defaults with
      baudrate := 31250, rs485 := some { RS485Config.defaults with rxDuringTx := true }, lowLatency := true,
      baudratePositive := by decide }]

theorem path_independent_over_winding :
    let after := finalState (applyPath "/dev/ttyUSB0" { lowLatency := true } winding) (start ftdiHost)
    Ends (openPort "/dev/ttyUSB0" (lastConfig { lowLatency := true } winding)) (start ftdiHost)
        (fun _ direct => outcome "/dev/ttyUSB0" direct.host.device = outcome "/dev/ttyUSB0" after.host.device)
        (fun _ _ => False) ↔
      true = (lastConfig { lowLatency := true } winding).lowLatency ∨ AlreadyFast "/dev/ttyUSB0" ftdiHost.device :=
  path_independent_iff rfl rfl (eq_ok_of_returns (by decide +kernel))

/-- What a body that returns leaves on the device. -/
def outcomeAfter (path : String) (host : Host Device) (body : Py LinuxWorld Unit) : Option Outcome :=
  match body (start host) with
  | .ok _ after => some (outcome path after.host.device)
  | .error _ _ => none

/-- A reconfiguration that asks for low latency returns without giving it, and an open does. -/
theorem low_latency_ignored_by_configure :
    let onPath := outcomeAfter "/dev/ttyUSB0" ftdiHost (applyPath "/dev/ttyUSB0" {} [{ lowLatency := true }])
    let direct := outcomeAfter "/dev/ttyUSB0" ftdiHost (openPort "/dev/ttyUSB0" { lowLatency := true })
    onPath.map (fun left => (left.lowLatency, left.latencyTimer)) = some (false, some (.number 16)) ∧
      direct.map (fun left => (left.lowLatency, left.latencyTimer)) = some (true, some (.number 1)) := by decide +kernel

end Paths

end Anyserial.Linux
