import Anyserial.Linux.ReconfigurationProperties
import Anyserial.Linux.RS485CodecProperties
import Anyserial.Platforms
import Anyserial.Posix.ConfigContainment

/-! What the Linux backend may raise when it is opened, reconfigured and closed. -/
set_option autoImplicit false

namespace Anyserial.Linux

open Kit Posix

variable {world : LinuxWorld} {fd : Int} {config : SerialConfig} {policy : UnsupportedPolicy}

/-- No `termios` call is refused, and a custom rate fits the struct it is packed into. -/
def TermiosFine (config : SerialConfig) (device : Device) (faults : Faults) : Prop :=
  if linuxTermios.isStandardBaud config.baudrate then RequestFine (linuxTermios.requested · config) device faults
  else faults .tcgets2 .apply = none → linuxTermios.Representable config → config.baudrate < 2 ^ 32

/-- The file of the timer does not hold text that `int` rejects. -/
def TimerFine (path : String) (device : Device) (faults : Faults) : Prop :=
  faults .sysfsResolve .probe = none → faults .sysfsRead .probe = none →
    ∀ text, ftdiTimerText device.sysfs path ≠ some (.garbage text)

/-- The delays can be encoded, once the state they go into has been read. -/
def Rs485Fine (config : SerialConfig) (faults : Faults) : Prop :=
  faults .tiocgrs485 .probe = none → ∀ rs485, config.rs485 = some rs485 → DelaysEncodable rs485

/-- What the state of the backend and the size of the struct have to be. -/
structure Restorable (world : LinuxWorld) : Prop where
  fits : SavedFits world
  empty : world.backend.isOpen = false → world.backend.slots = {}
  size : world.host.device.rs485.length = serRs485Size

section Steps

theorem contains_applyConfigToFd (held : world.host.Holds fd) (fine : TermiosFine config world.host.device world.host.faults) :
    Contains Translatable (applyConfigToFd fd config) world := by
  unfold TermiosFine at fine
  unfold Contains
  rw [applyConfigToFd, ends_ite]
  constructor
  · intro standard
    rw [if_pos standard] at fine
    exact contains_commit held (Posix.requested_rejects linuxTermios config) fine
  · intro custom
    rw [if_neg custom] at fine
    simp only [applyCustomBaudConfig, readTermios2, writeTermios2, Termios2Attrs.unpack_toPayload, ends_bind,
      ends_fcntlCall held, ends_getDevice, ends_liftExcept, ends_modifyDevice]
    refine ⟨fun err _ => .inl ⟨err, rfl⟩, fun read => ⟨fun current same => ?_, nofun⟩⟩
    cases same
    rcases requestedTermios2_rejects world.host.device.termios config with ⟨fineConfig, updated, built⟩ | ⟨_, message, rejected⟩
    · obtain ⟨payload, packed⟩ := Termios2Attrs.pack_fits ((requestedTermios2_fits_iff built).mpr (fine read fineConfig))
      refine ⟨fun value same => ?_, fun exc failed => absurd (built.symm.trans failed) (by simp)⟩
      cases built.symm.trans same
      exact ⟨fun bytes _ => ⟨fun err _ => .inl ⟨err, rfl⟩, fun _ => trivial⟩, fun exc failed => absurd (packed.symm.trans failed) (by simp)⟩
    · refine ⟨fun value same => absurd (rejected.symm.trans same) (by simp), fun exc failed => ?_⟩
      cases rejected.symm.trans failed
      exact .inr ⟨_, _, rfl⟩

theorem contains_handleUnsupported (exc : PyExc) (feature : String) :
    Contains Translatable (handleUnsupported exc policy feature : Py LinuxWorld Unit) world := by
  cases policy with
  | raise => exact .inr ⟨_, _, rfl⟩
  | warn => trivial
  | ignore => trivial

/-- A step whose system errors are handed to the policy. -/
theorem contains_unsupported {body : Py LinuxWorld Unit} {after : Py LinuxWorld Unit} {feature : String}
    (raises : Ends body world (fun _ _ => True) fun exc _ => exc.isOSError = true)
    (resets : ∀ world, Contains Translatable after world) :
    Contains Translatable (exceptOSError body fun exc => do
      handleUnsupported exc policy feature
      after) world := by
  unfold Contains
  rw [ends_exceptOSError]
  refine raises.mono (fun _ _ _ => trivial) fun exc middle isOSError => ⟨fun _ => ?_, fun never => ?_⟩
  · rw [ends_bind]
    exact Ends.mono (contains_handleUnsupported exc feature) (fun _ settled _ => resets settled) fun _ _ translatable => translatable
  · exact absurd (isOSError.symm.trans never) (by decide)

theorem contains_enableFlags (held : world.host.Holds world.backend.fd) : Contains Translatable (enableFlags policy) world := by
  unfold Contains
  rw [enableFlags, ends_bind, ends_getBackend]
  refine contains_unsupported ?_ fun _ => trivial
  simp only [ends_bind, ends_modifySlots]
  exact (enableLowLatency_spec held).mono (fun _ _ _ => trivial) fun _ _ refused => refused.1

theorem tuneFtdiLatencyTimer_raises {path : String} (fine : TimerFine path world.host.device world.host.faults) :
    Ends (tuneFtdiLatencyTimer path) world (fun _ _ => True) fun exc _ => exc.isOSError = true := by
  simp only [tuneFtdiLatencyTimer, ftdiLatencyTimerPath, ends_bind, ends_getHost]
  split
  · rename_i entry resolved found
    rw [ends_ite]
    refine ⟨fun served => ?_, fun _ => trivial⟩
    simp only [readLatencyTimer, writeLatencyTimer, ends_pure, ends_bind, ends_getHost, ends_refuse]
    refine ⟨fun _ _ => rfl, fun readable => ?_⟩
    split
    · simp only [ends_pure, ends_whenever, ends_bind, ends_getHost, ends_refuse, ends_ite, ends_modifyDevice, ends_throw]
      exact ⟨fun _ => ⟨fun _ _ => rfl, fun _ => ⟨fun _ => trivial, fun _ => rfl⟩⟩, fun _ => trivial⟩
    · rename_i text garbage
      have held : ftdiTimerText world.host.device.sysfs path = some (.garbage text) := by
        simp only [timerText, found, Option.bind_some] at garbage
        simp [ftdiTimerText, found, served.1, garbage]
      exact absurd held (fine resolved readable text)
    · rw [ends_throw]
      rfl
  · trivial

theorem contains_tuneTimer (fine : TimerFine world.backend.path world.host.device world.host.faults) :
    Contains Translatable (tuneTimer policy) world := by
  unfold Contains
  rw [tuneTimer, ends_bind, ends_getBackend]
  refine contains_unsupported ?_ fun _ => trivial
  simp only [ends_bind, ends_modifySlots]
  exact (tuneFtdiLatencyTimer_raises fine).mono (fun _ _ _ => trivial) fun _ _ isOSError => isOSError

theorem contains_applyRs485 {rs485 : RS485Config} (held : world.host.Holds world.backend.fd)
    (size : world.host.device.rs485.length = serRs485Size)
    (fine : world.host.faults .tiocgrs485 .probe = none → DelaysEncodable rs485) :
    Contains Translatable (applyRs485 rs485 policy) world := by
  have read : RS485State.fromBytes world.host.device.rs485 = .ok (.decode world.host.device.rs485) := by
    simp only [RS485State.fromBytes, size, Nat.lt_irrefl, if_false]
  have unsupported : ∀ exc world, Contains Translatable (handleUnsupported exc policy "TIOCSRS485" : Py LinuxWorld Unit) world :=
    fun exc _ => contains_handleUnsupported exc _
  unfold Contains at unsupported ⊢
  simp only [applyRs485, ends_bind, ends_getBackend, ends_exceptOSError, ends_map, ends_readRs485 held, read]
  refine ⟨fun err _ => ⟨fun _ => unsupported _ _, by simp [PyExc.isOSError]⟩, fun accepted => ⟨fun current same => ?_, by simp⟩⟩
  cases same
  obtain ⟨encoded, built⟩ := fromConfig_of_encodable (fine accepted)
  obtain ⟨merged, kept⟩ := withFlagsFrom_of_ok (.decode world.host.device.rs485) built
  have heldAfter : (withSnapshot world (.decode world.host.device.rs485)).host.Holds world.backend.fd := held
  have fits := RS485State.withFlagsFrom_fits (RS485State.decode_fits _) kept
  simp only [ends_modifySlots, ends_liftExcept]
  refine ⟨fun other same => ?_, fun exc never => absurd (kept.symm.trans never) (by simp)⟩
  cases kept.symm.trans same
  refine (ends_writeRs485 heldAfter).mpr ⟨fun payload packed =>
    ⟨fun err _ => ⟨fun _ => unsupported _ _, by simp [PyExc.isOSError]⟩, fun _ => trivial⟩,
    fun exc broken => ?_⟩
  exact absurd broken fits.toBytes_ne_error

theorem contains_configureRs485 (held : world.host.Holds world.backend.fd) (restorable : Restorable world)
    (fine : Rs485Fine config world.host.faults) : Contains Translatable (configureRs485 config) world := by
  unfold Contains
  rw [configureRs485, ends_bind, ends_getBackend]
  cases chosen : config.rs485 with
  | some rs485 => exact contains_applyRs485 held restorable.size fun accepted => fine accepted rs485 chosen
  | none =>
    cases saved : world.backend.slots.savedRs485 with
    | none => trivial
    | some state =>
      simp only [ends_bind, ends_suppressOSError, ends_writeRs485 held, ends_modifySlots]
      refine ⟨fun payload packed => ⟨fun err _ => ⟨fun _ => trivial, by simp [PyExc.isOSError]⟩, fun _ => trivial⟩, fun exc broken => ?_⟩
      exact absurd broken (restorable.fits state saved).toBytes_ne_error

/-- Tuning a new descriptor, from empty slots. -/
theorem contains_tune (held : world.host.Holds world.backend.fd) (empty : world.backend.slots = {})
    (size : world.host.device.rs485.length = serRs485Size)
    (timer : config.lowLatency = true → TimerFine world.backend.path world.host.device world.host.faults)
    (rs485 : Rs485Fine config world.host.faults) : Contains Translatable (tune config) world := by
  have applies : ∀ after : LinuxWorld, SameDescriptor world after → after.host.device.rs485 = world.host.device.rs485 →
      Contains Translatable (tuneRs485 config) after := by
    intro after same device
    cases chosen : config.rs485 with
    | none =>
      rw [tuneRs485_none chosen]
      trivial
    | some asked =>
      rw [tuneRs485_some chosen]
      refine contains_applyRs485 (same.holds held) (device ▸ size) fun accepted => rs485 ?_ asked chosen
      rwa [← same.faults]
  unfold Contains
  rw [tune, ends_bind, ends_whenever]
  refine ⟨fun asked => ?_, fun _ => applies world ⟨rfl, rfl, rfl, rfl⟩ rfl⟩
  have settles : Ends (enableFlags config.unsupportedPolicy) world (fun _ after => FlagsSettled world after)
      fun _ after => FlagsSettled world after := enableFlags_settles held (by rw [empty]) (by rw [empty])
  have flags := ((contains_enableFlags held).and settles).and (keeps_enableFlags lowLatencyMoves_erase world)
  rw [enableLowLatencyMode, ends_bind]
  refine flags.mono (fun _ middle settled => ?_) fun _ _ raised => raised.1.1
  obtain ⟨⟨_, settled⟩, frame⟩ := settled
  obtain ⟨descriptor, kept⟩ := frames_of_eraseLowLatency frame
  have fine : TimerFine middle.backend.path middle.host.device middle.host.faults := by
    unfold TimerFine
    rw [descriptor.path, descriptor.faults, settled.sysfs]
    exact timer asked
  refine ((contains_tuneTimer fine).and (keeps_tuneTimer lowLatencyMoves_erase middle)).mono (fun _ after tuned => ?_)
    fun _ _ raised => raised.1
  obtain ⟨descriptorAgain, keptAgain⟩ := frames_of_eraseLowLatency tuned.2
  exact applies after (descriptor.trans descriptorAgain) (keptAgain.device.trans kept.device)

end Steps

section Size

/-- The payload of the device has the size of the struct, before and after. -/
def SizeKept (before after : LinuxWorld) : Prop :=
  before.host.device.rs485.length = serRs485Size → after.host.device.rs485.length = serRs485Size

instance : Std.Refl SizeKept := ⟨fun _ => id⟩

instance : IsTrans LinuxWorld SizeKept := ⟨fun _ _ _ first second => second ∘ first⟩

theorem sizeKept_writeRs485 {state : RS485State} {phase : Phase} : Keeps SizeKept (writeRs485 fd state phase) := by
  intro world
  simp only [writeRs485, ends_bind, ends_liftExcept, ends_modifyDevice]
  refine ⟨fun payload packed => ?_, fun _ _ => id⟩
  exact ends_fcntlCall_any (fun _ => (RS485State.toBytes_zeroPadded packed).size) fun _ => id

theorem sizeKept_applyRs485 {rs485 : RS485Config} : Keeps SizeKept (applyRs485 rs485 policy) := by
  have unsupported : ∀ exc feature, Keeps SizeKept (handleUnsupported exc policy feature) :=
    fun exc feature => keeps_handleUnsupported (fun _ _ => id) exc policy feature
  refine keeps_getBackend.bind fun backend => .bind (keeps_exceptOSError ?_ ?_) fun current => ?_
  · exact Keeps.map _ (keeps_fcntlCall.bind fun _ => keeps_getDevice.bind fun _ => .liftExcept _)
  · exact fun exc => (unsupported exc _).bind fun _ => .pure none
  · cases current with
    | none => exact .pure ()
    | some current =>
      refine .bind (Keeps.modify fun _ => id) fun _ => Keeps.bind (.liftExcept _) fun merged => ?_
      exact keeps_exceptOSError sizeKept_writeRs485 fun exc => unsupported exc _

theorem sizeKept_configureRs485 : Keeps SizeKept (configureRs485 config) := by
  refine keeps_getBackend.bind fun backend => ?_
  split
  · exact sizeKept_applyRs485
  · exact (keeps_suppressOSError sizeKept_writeRs485).bind fun _ => Keeps.modify fun _ => id
  · exact .pure ()

end Size

section Lifecycle

theorem configure_contained (held : world.host.Holds world.backend.fd) (restorable : Restorable world)
    (termios : TermiosFine config world.host.device world.host.faults)
    (rs485 : TermiosAccepts config world.host.faults → Rs485Fine config world.host.faults) :
    Ends (configure config) world (fun _ after => Restorable after) fun exc after => Restorable after ∧ Translatable exc := by
  have contained : Contains Translatable (Posix.configure applyConfigToFd config) world :=
    contains_configure (contains_applyConfigToFd held termios)
  have sized : Ends (configure config) world (fun _ after => after.host.device.rs485.length = serRs485Size)
      fun exc after => after.host.device.rs485.length = serRs485Size ∧ Translatable exc := by
    rw [configure, ends_bind]
    refine (contained.and (posixConfigure_spec held)).mono (fun _ middle applied => ?_) fun exc after refused => ?_
    · obtain ⟨_, accepts, attrs, _, rfl⟩ := applied
      have heldAfter : (reconfigured world config attrs).host.Holds (reconfigured world config attrs).backend.fd := held
      have still : Restorable (reconfigured world config attrs) := ⟨restorable.fits, restorable.empty, restorable.size⟩
      refine ((contains_configureRs485 heldAfter still (rs485 accepts)).and (sizeKept_configureRs485 _)).mono
        (fun _ after kept => kept.2 still.size) fun _ after kept => ⟨kept.2 still.size, kept.1⟩
    · obtain ⟨translatable, _, rfl⟩ := refused
      exact ⟨restorable.size, translatable⟩
  have isOpen : ∀ after, Reconfigured config world after → after.backend.isOpen = false → after.backend.slots = {} := by
    intro after moved closed
    rw [PosixBackend.isOpen, moved.descriptor.fd] at closed
    exact absurd held.1 (by simpa using closed)
  refine (sized.and (configure_spec held restorable.fits)).mono (fun _ after kept => ?_) fun _ after kept => ?_
  · exact ⟨kept.2.fits, isOpen after kept.2, kept.1⟩
  · exact ⟨⟨kept.2.fits, isOpen after kept.2, kept.1.1⟩, kept.1.2⟩

theorem linux_close_returns (held : world.host.Holds world.backend.fd) (fits : SavedFits world)
    (accepted : world.host.faults .close .restore = none) : Ends close world (fun _ _ => True) fun _ _ => False := by
  have notNegative : 0 ≤ world.backend.fd := held.1
  simp only [close, ends_bind, ends_getBackend, notNegative, if_true]
  refine ((restoreLowLatency_spec held).and (keeps_restoreLowLatency lowLatencyMoves_erase world)).mono
    (fun _ first restored => ?_) fun _ _ never => never.1
  obtain ⟨descriptor, rs485⟩ := frames_of_eraseLowLatency restored.2
  have heldFirst : first.host.Holds world.backend.fd := descriptor.fd ▸ descriptor.holds held
  refine ((restoreRs485_spec heldFirst (rs485.keeps.1 fits)).and (keepsButRs485_restoreRs485 first)).mono
    (fun _ second given => ?_) fun _ _ never => never.1
  have descriptors := descriptor.trans (frames_of_eraseRs485 given.2).1
  exact close_returns (descriptors.holds held) (descriptors.faults ▸ accepted)

/-- The kernel and the arguments leave an open no way to an error that is not translated. -/
def OpenFine (path : String) (config : SerialConfig) (world : LinuxWorld) : Prop :=
  world.host.pathError path = none ∧ (ReachesConfig config world.host.faults →
    TermiosFine config world.host.device world.host.faults ∧ (TermiosAccepts config world.host.faults →
      (config.lowLatency = true → TimerFine path world.host.device world.host.faults) ∧ Rs485Fine config world.host.faults))

theorem sizeKept_tune : Keeps SizeKept (tune config) := by
  have moves : LowLatencyMoves SizeKept := ⟨fun _ _ => id, fun _ _ => id, fun _ _ => id, fun _ _ => id, fun _ _ => id⟩
  refine (keeps_whenever (keeps_enableLowLatencyMode moves)).bind fun _ => ?_
  unfold tuneRs485
  split
  · exact sizeKept_applyRs485
  · exact .pure ()

theorem linux_openPort_contained {path : String} (closed : world.backend.isOpen = false) (restorable : Restorable world)
    (fine : OpenFine path config world) :
    Ends (openPort path config) world (fun _ after => after.host.Holds after.backend.fd ∧ Restorable after)
      fun exc _ => Translatable exc := by
  obtain ⟨plain, tunes⟩ := fine
  have applies : ReachesConfig config world.host.faults →
      Ends (applyConfigToFd (lowestUnused world.host.openFds) config) (withDescriptor world)
        (fun _ _ => TermiosAccepts config world.host.faults) fun exc _ => Translatable exc := by
    intro reaches
    have held : (withDescriptor world).host.Holds (lowestUnused world.host.openFds) :=
      ⟨lowestUnused_nonneg _, List.mem_cons_self ..⟩
    exact ((contains_applyConfigToFd held (tunes reaches).1).and (applyConfigToFd_spec held)).mono
      (fun _ _ applied => applied.2.1) fun _ _ raised => raised.1
  rw [openPort, ends_bind]
  refine ((openPort_contained closed plain applies).and (Posix.openPort_spec closed fun _ => keepsButTermios_applyConfigToFd)).mono
    (fun _ middle opened => ?_) fun _ _ raised => raised.1
  obtain ⟨⟨reaches, accepts⟩, same⟩ := opened
  obtain ⟨timer, rs485⟩ := (tunes reaches).2 accepts
  obtain ⟨descriptor, lowLatency, kept⟩ := frames_of_eraseTermios same
  have held : middle.host.Holds middle.backend.fd :=
    descriptor.holds ⟨lowestUnused_nonneg _, List.mem_cons_self ..⟩
  have slots : middle.backend.slots = world.backend.slots := congrArg (fun erased => erased.backend.slots) same
  have empty : middle.backend.slots = {} := slots.trans (restorable.empty closed)
  have path' : middle.backend.path = path := descriptor.path
  have sysfs : middle.host.device.sysfs = world.host.device.sysfs := lowLatency.sysfs
  have faults : middle.host.faults = world.host.faults := descriptor.faults
  have size : middle.host.device.rs485.length = serRs485Size := by
    have device : middle.host.device.rs485 = world.host.device.rs485 := kept.device
    rw [device]
    exact restorable.size
  have contained : Contains Translatable (tune config) middle := by
    refine contains_tune held empty size (fun asked => ?_) (faults ▸ rs485)
    unfold TimerFine
    rw [path', faults, sysfs]
    exact timer asked
  have fits : SavedFits middle := by simp [SavedFits, empty]
  rw [ends_tryCatch]
  refine ((contained.and (tune_spec held (by rw [empty]) (by rw [empty]))).and (sizeKept_tune middle)).mono
    (fun _ after tuned => ?_) fun exc failed raised => ?_
  · have heldAfter := tuned.1.2.descriptor.holds held
    refine ⟨heldAfter, tuned.1.2.snapshot.1 fits, fun closed => ?_, tuned.2 size⟩
    exact absurd heldAfter.1 (by simpa [PosixBackend.isOpen] using closed)
  · obtain ⟨⟨translatable, tuned⟩, _⟩ := raised
    simp only [ends_bind, ends_suppressException, ends_throw]
    refine (close_spec (tuned.descriptor.holds held) (tuned.snapshot.1 fits)).mono (fun _ _ _ => translatable)
      fun closing _ reported => ⟨fun _ => translatable, fun never => ?_⟩
    exact absurd (PyExc.isException_of_isOSError reported.1) (by simp [never])

/-- What keeps the errors of the Linux backend to those that are translated. -/
def containment : Containment linuxSubclass where
  Ready := Restorable
  ConfigureFine config world := TermiosFine config world.host.device world.host.faults ∧
    (TermiosAccepts config world.host.faults → Rs485Fine config world.host.faults)
  OpenFine := OpenFine
  stable before after backend device ready := by
    refine ⟨?_, ?_, ?_⟩
    · unfold SavedFits
      rw [backend]
      exact ready.fits
    · rw [backend]
      exact ready.empty
    · rw [device]
      exact ready.size
  configure _ _ held ready fine := configure_contained held ready fine.1 fine.2
  close _ held ready accepted := linux_close_returns held ready.fits accepted
  openPort _ _ _ closed ready fine := linux_openPort_contained closed ready fine

end Lifecycle

end Anyserial.Linux
