import Anyserial.Linux.Frames
import Anyserial.Kit.Register

/-! What low-latency mode saves and gives back: the flags slot of the serial
struct and the FTDI timer, each as a register of its store. -/
set_option autoImplicit false

namespace Anyserial.Linux

open Kit Posix

/-- The flags slot of `struct serial_struct`. -/
def serialRegister : Register (Vector (BitVec 32) 32) (BitVec 32) where
  read serial := some (serial.get ⟨flagsIndex, flagsIndex_lt⟩)
  write flags serial := serial.set flagsIndex flags flagsIndex_lt
  write_write first second serial := Vector.set_set ..
  write_read flags serial found := by
    cases found
    exact Vector.set_getElem_self ..

/-- The timer of one terminal in sysfs. -/
def timerRegister (path : String) : Register Sysfs Int where
  read sysfs :=
    match timerText sysfs path with
    | some (.number value) => some value
    | _ => none
  write := setTimer path
  write_write first second sysfs := by
    funext name
    by_cases same : name = path
    · simp [setTimer, same, Function.comp_def]
    · simp [setTimer, same]
  write_read value sysfs found := by
    funext name
    by_cases same : name = path
    · subst same
      cases entry : sysfs name with
      | none => simp [setTimer, entry]
      | some entry' =>
        have number : entry'.latencyTimer = some (.number value) := by
          simp only [timerText, entry, Option.bind_some] at found
          split at found
          · rename_i shape
            cases found
            exact shape
          · cases found
        simp [setTimer, entry, ← number]
    · simp [setTimer, same]

theorem timerText_setTimer_isSome {path name : String} {value : Int} {sysfs : Sysfs}
    (present : (timerText sysfs name).isSome = true) : (timerText (setTimer path value sysfs) name).isSome = true := by
  by_cases same : name = path
  · subst same
    cases entry : sysfs name with
    | none => simp [timerText, entry] at present
    | some entry' => simp [timerText, setTimer, entry]
  · simpa [timerText, setTimer, same] using present

/-- The terminal is served by the FTDI driver, and this is what its timer file holds. -/
def ftdiTimerText (sysfs : Sysfs) (devicePath : String) : Option TimerText :=
  (sysfs (ttyName devicePath)).bind fun entry =>
    if entry.driver = some ftdiDriverName then entry.latencyTimer else none

theorem timerText_of_ftdi {sysfs : Sysfs} {path : String} {text : TimerText} (found : ftdiTimerText sysfs path = some text) :
    timerText sysfs (ttyName path) = some text := by
  obtain ⟨entry, entered, chosen⟩ := Option.bind_eq_some_iff.mp found
  by_cases driver : entry.driver = some ftdiDriverName
  · simpa [timerText, entered, driver] using chosen
  · simp [driver] at chosen

theorem timerText_setTimer {sysfs : Sysfs} {name : String} (value : Int) (present : (timerText sysfs name).isSome = true) :
    timerText (setTimer name value sysfs) name = some (.number value) := by
  cases entry : sysfs name with
  | none => simp [timerText, entry] at present
  | some found => simp [timerText, setTimer, entry]

def owedSerial (world : LinuxWorld) : Vector (BitVec 32) 32 :=
  serialRegister.owed world.backend.slots.savedAsyncFlags world.host.device.serial

def owedSysfs (world : LinuxWorld) : Sysfs :=
  match world.backend.slots.ftdiTimer with
  | none => world.host.device.sysfs
  | some timer => (timerRegister timer.path).write timer.originalMs world.host.device.sysfs

/-- Giving everything back would leave `serial` and `sysfs`, and the timer file is there to write to. -/
structure OwesLowLatency (serial : Vector (BitVec 32) 32) (sysfs : Sysfs) (world : LinuxWorld) : Prop where
  serial : owedSerial world = serial
  sysfs : owedSysfs world = sysfs
  timer : ∀ timer, world.backend.slots.ftdiTimer = some timer →
    (timerText world.host.device.sysfs timer.path).isSome = true

variable {world : LinuxWorld} {fd : Int}

theorem ends_readSerialFlags {returned : BitVec 32 → LinuxWorld → Prop} {raised : PyExc → LinuxWorld → Prop}
    (held : world.host.Holds fd) :
    Ends (readSerialFlags fd) world returned raised ↔
      (∀ err, world.host.faults .tiocgserial .probe = some err → raised (.osError err) world) ∧
        (world.host.faults .tiocgserial .probe = none →
          returned (world.host.device.serial.get ⟨flagsIndex, by decide⟩) world) := by
  simp only [readSerialFlags, ends_bind, ends_fcntlCall held, ends_getDevice, ends_pure]

theorem ends_writeSerialFlags {flags : BitVec 32} {phase : Phase} {returned : Unit → LinuxWorld → Prop}
    {raised : PyExc → LinuxWorld → Prop} (held : world.host.Holds fd) :
    Ends (writeSerialFlags fd flags phase) world returned raised ↔
      (∀ err, world.host.faults .tiocgserial phase = some err → raised (.osError err) world) ∧
        (world.host.faults .tiocgserial phase = none →
          (∀ err, world.host.faults .tiocsserial phase = some err → raised (.osError err) world) ∧
          (world.host.faults .tiocsserial phase = none →
            returned () (withFlags world flags))) := by
  simp only [writeSerialFlags, ends_bind, ends_fcntlCall held, ends_getDevice, ends_modifyDevice]
  rfl

/-- Enabling low latency returns flags that give the struct back, and refuses
without touching it. -/
theorem enableLowLatency_spec (held : world.host.Holds fd) :
    Ends (enableLowLatency fd) world
      (fun original after => serialRegister.owed (some original) after.host.device.serial = world.host.device.serial ∧
        after.host.device.sysfs = world.host.device.sysfs ∧ after.backend = world.backend)
      (fun exc after => exc.isOSError = true ∧ after = world) := by
  have saved : serialRegister.read world.host.device.serial =
      some (world.host.device.serial.get ⟨flagsIndex, by decide⟩) := rfl
  simp only [enableLowLatency, ends_bind, ends_readSerialFlags held, ends_ite, ends_pure, ends_writeSerialFlags held]
  refine ⟨fun err _ => ⟨rfl, trivial⟩, fun _ => ⟨fun _ => ?_, fun _ => ?_⟩⟩
  · exact ⟨serialRegister.owed_read saved, trivial, trivial⟩
  · refine ⟨fun err _ => ⟨rfl, trivial⟩, fun _ => ⟨fun err _ => ⟨rfl, trivial⟩, fun _ => ?_⟩⟩
    exact ⟨(serialRegister.owed_write ..).trans (serialRegister.owed_read saved), rfl, rfl⟩

/-- What tuning the timer saves gives sysfs back, and a failure leaves it alone. -/
theorem tuneFtdiLatencyTimer_spec {devicePath : String} :
    Ends (tuneFtdiLatencyTimer devicePath) world
      (fun saved after => after.host.device.serial = world.host.device.serial ∧ after.backend = world.backend ∧
        match saved with
        | none => after.host.device.sysfs = world.host.device.sysfs
        | some timer => setTimer timer.path timer.originalMs after.host.device.sysfs = world.host.device.sysfs ∧
            (timerText after.host.device.sysfs timer.path).isSome = true)
      (fun _ after => after = world) := by
  simp only [tuneFtdiLatencyTimer, ftdiLatencyTimerPath, ends_bind, ends_getHost]
  split
  · rename_i entry accepted found
    rw [ends_ite]
    refine ⟨fun _ => ?_, fun _ => ⟨rfl, rfl, rfl⟩⟩
    simp only [readLatencyTimer, writeLatencyTimer, ends_pure, ends_bind, ends_getHost, ends_refuse]
    refine ⟨fun _ _ => trivial, fun _ => ?_⟩
    split
    · rename_i value number
      have present : (timerText world.host.device.sysfs (ttyName devicePath)).isSome = true := by simp [number]
      have read : (timerRegister (ttyName devicePath)).read world.host.device.sysfs = some value := by
        simp [timerRegister, number]
      simp only [ends_pure, ends_whenever, ends_bind, ends_getHost, ends_refuse, ends_ite, ends_modifyDevice,
        ends_throw]
      refine ⟨fun _ => ⟨fun _ _ => trivial, fun _ => ⟨fun _ => ?_, fun missing => absurd present missing⟩⟩, fun _ => ?_⟩
      · refine ⟨trivial, trivial, ?_, timerText_setTimer_isSome present⟩
        exact ((timerRegister (ttyName devicePath)).owed_write value _ _).trans
          ((timerRegister (ttyName devicePath)).owed_read read)
      · exact ⟨trivial, trivial, (timerRegister (ttyName devicePath)).owed_read read, present⟩
    · rw [ends_throw]
    · rw [ends_throw]
  · exact ⟨rfl, rfl, rfl⟩

def withWarnings (world : LinuxWorld) (warnings : List String) : LinuxWorld :=
  { world with host := { world.host with warnings := warnings } }

theorem ends_handleUnsupported {exc : PyExc} {policy : UnsupportedPolicy} {feature : String}
    {returned : Unit → LinuxWorld → Prop} {raised : PyExc → LinuxWorld → Prop} :
    Ends (handleUnsupported exc policy feature) world returned raised ↔
      (policy = .raise → raised (unsupportedError exc feature) world) ∧
      (policy = .warn →
        returned () (withWarnings world (world.host.warnings ++ [unsupportedWarning exc feature]))) ∧
      (policy = .ignore → returned () world) := by
  cases policy with
  | raise => simp [handleUnsupported]
  | warn =>
    simp only [handleUnsupported, ends_warn, reduceCtorEq, false_implies, true_and, and_true, forall_const]
    rfl
  | ignore => simp [handleUnsupported]

@[simp] theorem ends_modifySlots {f : Slots → Slots} {returned : Unit → LinuxWorld → Prop}
    {raised : PyExc → LinuxWorld → Prop} :
    Ends (modifySlots f) world returned raised ↔
      returned () { world with backend := { world.backend with slots := f world.backend.slots } } := Iff.rfl

/-- The flags owe what was there, and the timer is still as it was found. -/
structure FlagsSettled (before after : LinuxWorld) : Prop where
  serial : owedSerial after = before.host.device.serial
  sysfs : after.host.device.sysfs = before.host.device.sysfs
  timer : after.backend.slots.ftdiTimer = none

theorem FlagsSettled.owes {before after : LinuxWorld} (settled : FlagsSettled before after) :
    OwesLowLatency before.host.device.serial before.host.device.sysfs after :=
  ⟨settled.serial, by simp [owedSysfs, settled.timer, settled.sysfs], by simp [settled.timer]⟩

theorem enableFlags_settles {policy : UnsupportedPolicy} (held : world.host.Holds world.backend.fd)
    (noFlags : world.backend.slots.savedAsyncFlags = none) (noTimer : world.backend.slots.ftdiTimer = none) :
    Ends (enableFlags policy) world (fun _ after => FlagsSettled world after)
      (fun _ after => FlagsSettled world after) := by
  have untouched : FlagsSettled world world := ⟨by simp [owedSerial, noFlags], rfl, noTimer⟩
  simp only [enableFlags, ends_bind, ends_getBackend, ends_exceptOSError, ends_modifySlots]
  refine (enableLowLatency_spec held).mono (fun original after enabled => ?_) (fun exc after refused => ?_)
  · obtain ⟨serial, sysfs, backend⟩ := enabled
    exact ⟨serial, sysfs, by simpa only [backend] using noTimer⟩
  · obtain ⟨isOSError, rfl⟩ := refused
    refine ⟨fun _ => ?_, fun notOSError => absurd isOSError (by simp [notOSError])⟩
    rw [ends_handleUnsupported]
    exact ⟨fun _ => untouched, fun _ => ⟨rfl, rfl, noTimer⟩, fun _ => ⟨rfl, rfl, noTimer⟩⟩

theorem tuneTimer_owes {before : LinuxWorld} {policy : UnsupportedPolicy} (settled : FlagsSettled before world) :
    Ends (tuneTimer policy) world
      (fun _ after => OwesLowLatency before.host.device.serial before.host.device.sysfs after)
      (fun _ after => OwesLowLatency before.host.device.serial before.host.device.sysfs after) := by
  simp only [tuneTimer, ends_bind, ends_getBackend, ends_exceptOSError, ends_modifySlots]
  refine tuneFtdiLatencyTimer_spec.mono (fun saved after tuned => ?_) (fun exc after failed => ?_)
  · obtain ⟨serial, backend, saves⟩ := tuned
    have owedSerial : owedSerial after = before.host.device.serial := by
      simpa only [Linux.owedSerial, backend, serial] using settled.serial
    cases saved with
    | none => exact ⟨owedSerial, saves.trans settled.sysfs, by simp⟩
    | some timer =>
      refine ⟨owedSerial, saves.1.trans settled.sysfs, ?_⟩
      rintro found same
      cases same
      exact saves.2
  · subst failed
    refine ⟨fun _ => ?_, fun _ => settled.owes⟩
    rw [ends_handleUnsupported]
    exact ⟨fun _ => settled.owes, fun _ => ⟨settled.serial, settled.sysfs, by simp⟩,
      fun _ => ⟨settled.serial, settled.sysfs, by simp⟩⟩

/-- From empty slots, enabling low latency owes exactly what was there, however it ends. -/
theorem enableLowLatencyMode_owes {policy : UnsupportedPolicy} (held : world.host.Holds world.backend.fd)
    (noFlags : world.backend.slots.savedAsyncFlags = none) (noTimer : world.backend.slots.ftdiTimer = none) :
    Ends (enableLowLatencyMode policy) world
      (fun _ after => OwesLowLatency world.host.device.serial world.host.device.sysfs after)
      (fun _ after => OwesLowLatency world.host.device.serial world.host.device.sysfs after) := by
  rw [enableLowLatencyMode, ends_bind]
  exact (enableFlags_settles held noFlags noTimer).mono (fun _ _ settled => tuneTimer_owes settled)
    (fun _ _ settled => settled.owes)

/-- No call that gives a low-latency original back is refused. -/
structure RestoresLowLatency (faults : Faults) : Prop where
  tiocgserial : faults .tiocgserial .restore = none
  tiocsserial : faults .tiocsserial .restore = none
  sysfsWrite : faults .sysfsWrite .restore = none

/-- What teardown has given back: the slots are empty and the device is as it was. -/
structure LowLatencyRestored (serial : Vector (BitVec 32) 32) (sysfs : Sysfs) (world : LinuxWorld) : Prop where
  noFlags : world.backend.slots.savedAsyncFlags = none
  noTimer : world.backend.slots.ftdiTimer = none
  serial : world.host.device.serial = serial
  sysfs : world.host.device.sysfs = sysfs

theorem LowLatencyRestored.owes {serial : Vector (BitVec 32) 32} {sysfs : Sysfs}
    (restored : LowLatencyRestored serial sysfs world) : OwesLowLatency serial sysfs world :=
  ⟨by simpa [owedSerial, restored.noFlags] using restored.serial,
    by simpa [owedSysfs, restored.noTimer] using restored.sysfs, by simp [restored.noTimer]⟩

theorem OwesLowLatency.restored {serial : Vector (BitVec 32) 32} {sysfs : Sysfs} (owes : OwesLowLatency serial sysfs world)
    (noFlags : world.backend.slots.savedAsyncFlags = none) (noTimer : world.backend.slots.ftdiTimer = none) :
    LowLatencyRestored serial sysfs world :=
  ⟨noFlags, noTimer, by simpa [owedSerial, noFlags] using owes.serial, by simpa [owedSysfs, noTimer] using owes.sysfs⟩

/-- Putting the flags back never raises while the descriptor is held. -/
theorem restoreFlags_spec (held : world.host.Holds fd) :
    Ends (restoreFlags fd) world
      (fun _ after => after.backend.slots.savedAsyncFlags = none ∧
        (RestoresLowLatency world.host.faults → ∀ serial sysfs, OwesLowLatency serial sysfs world →
          OwesLowLatency serial sysfs after))
      (fun _ _ => False) := by
  simp only [restoreFlags, ends_bind, ends_getBackend]
  cases saved : world.backend.slots.savedAsyncFlags with
  | none => exact ⟨saved, fun _ _ _ owes => owes⟩
  | some flags =>
    have heldAfter : { world with backend := { world.backend with slots :=
        { world.backend.slots with savedAsyncFlags := none } } }.host.Holds fd := held
    simp only [ends_bind, ends_modifySlots, ends_suppressOSError, restoreSerialFlags, ends_writeSerialFlags heldAfter]
    refine ⟨fun err refused => ⟨fun _ => ?_, by simp [PyExc.isOSError]⟩,
      fun _ => ⟨fun err refused => ⟨fun _ => ?_, by simp [PyExc.isOSError]⟩, fun _ => ?_⟩⟩
    · exact ⟨trivial, fun restores => absurd refused (by simp [restores.tiocgserial])⟩
    · exact ⟨trivial, fun restores => absurd refused (by simp [restores.tiocsserial])⟩
    · refine ⟨rfl, fun _ serial sysfs owes => ?_⟩
      have given : serialRegister.write flags world.host.device.serial = serial := by
        simpa [owedSerial, saved] using owes.serial
      exact ⟨given, owes.sysfs, owes.timer⟩

/-- Putting the timer back never raises. -/
theorem restoreTimer_spec (noFlags : world.backend.slots.savedAsyncFlags = none) :
    Ends restoreTimer world
      (fun _ after => after.backend.slots.savedAsyncFlags = none ∧ after.backend.slots.ftdiTimer = none ∧
        (RestoresLowLatency world.host.faults → ∀ serial sysfs, OwesLowLatency serial sysfs world →
          LowLatencyRestored serial sysfs after))
      (fun _ _ => False) := by
  simp only [restoreTimer, ends_bind, ends_getBackend]
  cases saved : world.backend.slots.ftdiTimer with
  | none => exact ⟨noFlags, saved, fun _ _ _ owes => owes.restored noFlags saved⟩
  | some timer =>
    simp only [ends_bind, ends_modifySlots, ends_suppressOSError, restoreFtdiLatencyTimer, writeLatencyTimer,
      ends_getHost, ends_refuse, ends_ite, ends_modifyDevice, ends_throw]
    refine ⟨fun err refused => ⟨fun _ => ?_, by simp [PyExc.isOSError]⟩,
      fun _ => ⟨fun _ => ?_, fun missing => ⟨fun _ => ?_, by simp [PyExc.isOSError]⟩⟩⟩
    · exact ⟨noFlags, trivial, fun restores => absurd refused (by simp [restores.sysfsWrite])⟩
    · refine ⟨noFlags, trivial, fun _ serial sysfs owes => ?_⟩
      have given : setTimer timer.path timer.originalMs world.host.device.sysfs = sysfs := by
        have owed := owes.sysfs
        simp only [owedSysfs, saved] at owed
        exact owed
      exact ⟨noFlags, rfl, by simpa [owedSerial, noFlags] using owes.serial, given⟩
    · exact ⟨noFlags, trivial, fun _ _ _ owes => absurd (owes.timer timer saved) missing⟩

/-- Teardown never raises while the descriptor is held, and empties both slots. It
gives both originals back when none of its calls is refused. -/
theorem restoreLowLatency_spec (held : world.host.Holds fd) :
    Ends (restoreLowLatency fd) world
      (fun _ after => after.backend.slots.savedAsyncFlags = none ∧ after.backend.slots.ftdiTimer = none ∧
        (RestoresLowLatency world.host.faults → ∀ serial sysfs, OwesLowLatency serial sysfs world →
          LowLatencyRestored serial sysfs after))
      (fun _ _ => False) := by
  rw [restoreLowLatency, ends_bind]
  refine ((restoreFlags_spec held).and (keeps_restoreFlags lowLatencyMoves_erase world)).mono (fun _ after flags => ?_)
    (fun _ _ never => never.1)
  obtain ⟨⟨noFlags, owesAfter⟩, rest⟩ := flags
  refine (restoreTimer_spec noFlags).mono (fun _ final timer => ?_) (fun _ _ never => never)
  refine ⟨timer.1, timer.2.1, fun restores serial sysfs owes => ?_⟩
  have faults : after.host.faults = world.host.faults := congrArg (fun erased => erased.host.faults) rest
  exact timer.2.2 (faults ▸ restores) serial sysfs (owesAfter restores serial sysfs owes)

end Anyserial.Linux
