import Anyserial.Platforms
import Anyserial.Posix.UnsupportedProperties

/-! A speed that the kernel rejects, on the three platforms and through both entry points:
what is raised, and what is left of the old configuration. -/
set_option autoImplicit false

namespace Anyserial

open Kit Posix

variable {ε δ : Type}

/-- How a platform hands the speed of a custom rate to the kernel. -/
structure SpeedRoute (ε δ : Type) where
  subclass : Subclass ε δ
  /-- What is checked ahead of every call. -/
  tolerates : SerialConfig → Prop
  /-- The calls that come before the one with the speed. -/
  earlier : List Syscall
  carrier : Syscall
  /-- From this rate on, the interpreter raises instead of making the call. -/
  limit : Nat
  /-- How the interpreter reports that the call was refused. -/
  refusal : OSErr → PyExc

/-- The kernel accepts all of the request but the speed, which it rejects with `EINVAL`. -/
structure SpeedRoute.Rejected (route : SpeedRoute ε δ) (config : SerialConfig) (host : Host δ) (err : OSErr) : Prop where
  custom : route.subclass.termios.isStandardBaud config.baudrate = false
  fine : route.subclass.termios.Representable config
  tolerated : route.tolerates config
  fits : config.baudrate < route.limit
  earlier : ∀ call ∈ route.earlier, host.faults call .apply = none
  refused : host.faults route.carrier .apply = some err
  invalid : err.errno = .einval

/-- The open gets as far as the configuration of the new descriptor. -/
structure Openable (path : String) (config : SerialConfig) (world : World ε δ) : Prop where
  closed : world.backend.isOpen = false
  plain : world.host.pathError path = none
  opens : world.host.faults .openCall .apply = none
  locks : config.exclusive = true → world.host.faults .flock .apply = none

/-- The one meaning that the documentation gives to a rejected speed. -/
def Surfaces (err : OSErr) (path : String) (exc : PyExc) : Prop :=
  ∃ text, exc = .serialError .unsupportedConfigurationError ⟨some err.errno, text, some path⟩

section Commit

variable {world : World ε δ} {fd : Int} {config : SerialConfig} {err : OSErr}

/-- The body raises `exc`, with the backend and the calls to come as they were. -/
def Raises (body : Py (World ε δ) Unit) (world : World ε δ) (exc : PyExc) : Prop :=
  Ends body world (fun _ _ => False) fun raised after =>
    raised = exc ∧ after.backend = world.backend ∧ after.host.faults = world.host.faults

theorem raises_commit [TermiosDevice δ] {request : TermiosAttrs → Except PyExc TermiosAttrs} {attrs : TermiosAttrs}
    (held : world.host.Holds fd) (read : world.host.faults .tcgetattr .apply = none)
    (built : request (TermiosDevice.tcgetattr world.host.device) = .ok attrs)
    (ispeed : attrs.ispeed < 2 ^ 63) (ospeed : attrs.ospeed < 2 ^ 63)
    (refused : world.host.faults .tcsetattr .apply = some err) : Raises (commit fd request) world (.termiosError err) := by
  simp only [Raises, commit, tcgetattr, tcsetattr, ends_bind, ends_map, ends_termiosCall held, ends_getDevice,
    ends_liftExcept, ends_ite, ends_throw, read, built, refused]
  refine ⟨by simp, fun _ => ⟨fun value same => ?_, by simp⟩⟩
  cases same
  refine ⟨fun negative => absurd held.1 (Int.not_le.mpr negative), fun _ => ⟨fun large => by omega, fun _ => ⟨fun _ same => ?_, by simp⟩⟩⟩
  cases same
  exact ⟨rfl, trivial, trivial⟩

/-- The open raises what the configuration of the descriptor raises, or what `os.close` reports. -/
theorem openPort_raises {className path : String} {applyConfig : Int → SerialConfig → Py (World ε δ) Unit} {exc : PyExc}
    (openable : Openable path config world)
    (applies : ∀ fd (current : World ε δ), current.host.Holds fd → current.host.faults = world.host.faults →
      Raises (applyConfig fd config) current exc) :
    Ends (Posix.openPort className applyConfig path config) world (fun _ _ => False)
      fun raised _ => raised = exc ∨ ∃ reported, raised = .osError reported := by
  let fd := lowestUnused world.host.openFds
  let opened : World ε δ := { world with host := { world.host with openFds := fd :: world.host.openFds } }
  have held : opened.host.Holds fd := ⟨lowestUnused_nonneg _, .head _⟩
  have sets : Ends (setUp applyConfig fd path config) opened (fun _ _ => False) fun raised _ => raised = exc := by
    have ran := applies fd opened held rfl
    unfold setUp
    rw [ends_bind, ends_whenever]
    constructor
    · intro exclusive
      have unlocked : opened.host.faults .flock .apply = none := openable.locks exclusive
      simp only [acquireExclusiveLock, ends_tryCatch, ends_fcntlCall held, unlocked]
      exact ⟨by simp, fun _ => ran.mono (fun _ _ never => never) fun _ _ raised => raised.1⟩
    · intro _
      exact ran.mono (fun _ _ never => never) fun _ _ raised => raised.1
  simp only [Posix.openPort, ends_bind, ends_getBackend, openable.closed, Bool.false_eq_true, if_false, ends_osOpen,
    openable.plain, openable.opens, ends_tryCatch, ends_throw]
  refine ⟨by simp, fun _ => ⟨by simp, fun _ => ?_⟩⟩
  refine sets.mono (fun _ _ never => never.elim) fun raised after same => ?_
  exact ends_osClose (.inl same) fun reported => .inr ⟨reported, rfl⟩

theorem configure_raises {applyConfig : Int → SerialConfig → Py (World ε δ) Unit} {exc : PyExc}
    (applies : Raises (applyConfig world.backend.fd config) world exc) :
    Raises (Posix.configure applyConfig config) world exc := by
  simp only [Raises, Posix.configure, ends_bind, ends_getBackend]
  exact applies.mono (fun _ _ never => never.elim) fun _ _ raised => raised

/-- A tolerated configuration changes at most the warnings before the first call. -/
theorem rejectUnsupported_passes {platform : String} {next : Py (World ε δ) Unit} {returned : Unit → World ε δ → Prop}
    {raised : PyExc → World ε δ → Prop} (tolerated : Tolerates config)
    (runs : ∀ messages, Ends next (Posix.withWarnings world messages) returned raised) :
    Ends (do rejectUnsupported platform config; next) world returned raised := by
  rw [ends_bind]
  exact ends_rejectUnsupported (fun _ refused => absurd tolerated refused) fun messages _ => runs messages

end Commit

section Routes

variable {config : SerialConfig} {err : OSErr} {fd : Int}

/-- What both entry points raise before anything is translated. -/
structure SpeedRoute.Stops (route : SpeedRoute ε δ) : Prop where
  openPort : ∀ path config (world : World ε δ) err, Openable path config world → route.Rejected config world.host err →
    Ends (route.subclass.openPort path config) world (fun _ _ => False)
      fun raised _ => raised = route.refusal err ∨ ∃ reported, raised = .osError reported
  configure : ∀ config (world : World ε δ) err, world.host.Holds world.backend.fd → route.Rejected config world.host err →
    Ends (route.subclass.configure config) world (fun _ _ => False)
      fun raised after => raised = route.refusal err ∧ after.backend = world.backend

def linuxRoute : SpeedRoute Linux.Slots Linux.Device where
  subclass := linuxSubclass
  tolerates _ := True
  earlier := [.tcgets2]
  carrier := .tcsets2
  limit := 2 ^ 32
  refusal := .osError

theorem linux_raises {world : Linux.LinuxWorld} (held : world.host.Holds fd) (rejected : linuxRoute.Rejected config world.host err) :
    Raises (Linux.applyConfigToFd fd config) world (.osError err) := by
  have custom : Linux.linuxTermios.isStandardBaud config.baudrate = false := rejected.custom
  have read : world.host.faults .tcgets2 .apply = none := rejected.earlier _ (.head _)
  have refused : world.host.faults .tcsets2 .apply = some err := rejected.refused
  obtain ⟨_, updated, built⟩ | ⟨bad, _⟩ := Linux.requestedTermios2_rejects world.host.device.termios config
  · obtain ⟨payload, packed⟩ := Linux.Termios2Attrs.pack_fits ((Linux.requestedTermios2_fits_iff built).mpr rejected.fits)
    simp only [Raises, Linux.applyConfigToFd, custom, Bool.false_eq_true, if_false, Linux.applyCustomBaudConfig,
      Linux.readTermios2, Linux.writeTermios2, Linux.Termios2Attrs.unpack_toPayload, ends_bind, ends_fcntlCall held,
      ends_getDevice, ends_liftExcept, ends_modifyDevice, read, refused]
    refine ⟨nofun, fun _ => ⟨fun current same => ?_, nofun⟩⟩
    cases same
    refine ⟨fun value same => ?_, fun exc failed => nomatch built.symm.trans failed⟩
    cases built.symm.trans same
    refine ⟨fun bytes _ => ⟨fun reported same => ?_, nofun⟩, fun exc failed => nomatch packed.symm.trans failed⟩
    cases same
    exact ⟨rfl, trivial, trivial⟩
  · exact absurd rejected.fine bad

theorem linuxRoute_stops : linuxRoute.Stops := by
  constructor
  case openPort =>
    intro path config world err openable rejected
    change Ends (Linux.openPort path config) world _ _
    rw [Linux.openPort, ends_bind]
    refine (openPort_raises openable fun fd current held same => ?_).mono (fun _ _ never => never.elim) fun _ _ raised => raised
    exact linux_raises held { rejected with earlier := same ▸ rejected.earlier, refused := same ▸ rejected.refused }
  case configure =>
    intro config world err held rejected
    change Ends (Linux.configure config) world _ _
    rw [Linux.configure, ends_bind]
    refine (configure_raises (linux_raises held rejected)).mono (fun _ _ never => never.elim) fun _ _ raised => ?_
    exact ⟨raised.1, raised.2.1⟩

def darwinRoute : SpeedRoute Unit Darwin.Device where
  subclass := darwinSubclass
  tolerates := Tolerates
  earlier := [.tcgetattr, .tcsetattr]
  carrier := .iossiospeed
  limit := 2 ^ 64
  refusal := .osError

theorem darwin_raises {world : Darwin.DarwinWorld} (held : world.host.Holds fd)
    (rejected : darwinRoute.Rejected config world.host err) : Raises (Darwin.applyConfigToFd fd config) world (.osError err) := by
  have custom : Darwin.darwinTermios.isStandardBaud config.baudrate = false := rejected.custom
  have rate : ¬2 ^ 64 ≤ config.baudrate := Nat.not_le.mpr rejected.fits
  have refused : world.host.faults .iossiospeed .apply = some err := rejected.refused
  have commits : atSpeed Darwin.darwinTermios Darwin.placeholderSpeed config world.host.device.termios = .ok _ :=
    TermiosModule.applyAll_eq rejected.fine
  have small : Darwin.placeholderSpeed < 2 ^ 63 := by decide
  rw [Raises, Darwin.applyConfigToFd, custom, if_neg Bool.false_ne_true, Darwin.applyCustomBaudConfig_eq_commit, ends_bind]
  refine commit_spec.mono (fun _ middle committed => ?_) fun _ after failed => ?_
  · obtain ⟨attrs, _, rfl⟩ := committed
    have heldAfter : (withAttrs world attrs).host.Holds fd := held
    simp only [Darwin.setIossiospeed, rate, if_false, ends_bind, ends_fcntlCall heldAfter]
    refine ⟨fun reported same => ?_, fun accepted => absurd (refused.symm.trans accepted) (by simp)⟩
    cases refused.symm.trans same
    exact ⟨rfl, rfl, rfl⟩
  · exact absurd ⟨held.admits (rejected.earlier _ (.head _)), commits, small, small,
      held.admits (rejected.earlier _ (.tail _ (.head _)))⟩ (failed.1 _)

/-- The two platforms that check the optional features first. -/
theorem SpeedRoute.stops_of_rejection {route : SpeedRoute Unit δ} {platform className : String}
    {applyConfig : Int → SerialConfig → Py (World Unit δ) Unit}
    (tolerates : ∀ config, route.tolerates config → Tolerates config)
    (openPort : ∀ path config, route.subclass.openPort path config =
      do rejectUnsupported platform config; Posix.openPort className applyConfig path config)
    (configure : ∀ config, route.subclass.configure config =
      do rejectUnsupported platform config; Posix.configure applyConfig config)
    (raises : ∀ fd config (world : World Unit δ) err, world.host.Holds fd → route.Rejected config world.host err →
      Raises (applyConfig fd config) world (route.refusal err)) : route.Stops := by
  constructor
  case openPort =>
    intro path config world err openable rejected
    rw [openPort]
    refine rejectUnsupported_passes (tolerates config rejected.tolerated) fun messages => ?_
    have still : Openable path config (Posix.withWarnings world messages) :=
      ⟨openable.closed, openable.plain, openable.opens, openable.locks⟩
    refine openPort_raises still fun fd current held same => raises fd config current err held ?_
    have faults : current.host.faults = world.host.faults := same
    exact { rejected with earlier := faults ▸ rejected.earlier, refused := faults ▸ rejected.refused }
  case configure =>
    intro config world err held rejected
    rw [configure]
    refine rejectUnsupported_passes (tolerates config rejected.tolerated) fun messages => ?_
    have reached : Raises (applyConfig world.backend.fd config) (Posix.withWarnings world messages) (route.refusal err) :=
      raises _ config _ err held { rejected with }
    refine (configure_raises reached).mono (fun _ _ never => never) fun _ _ raised => ?_
    exact ⟨raised.1, raised.2.1⟩

theorem darwinRoute_stops : darwinRoute.Stops :=
  SpeedRoute.stops_of_rejection (fun _ tolerated => tolerated) (fun _ _ => rfl) (fun _ => rfl) fun _ _ _ _ => darwin_raises

def bsdRoute [TermiosDevice δ] (termios : TermiosModule) : SpeedRoute Unit δ where
  subclass := bsdSubclass termios
  tolerates := Tolerates
  earlier := [.tcgetattr]
  carrier := .tcsetattr
  limit := 2 ^ 63
  refusal := .termiosError

theorem bsd_raises [TermiosDevice δ] {termios : TermiosModule} {world : World Unit δ} (held : world.host.Holds fd)
    (rejected : (bsdRoute termios).Rejected config world.host err) :
    Raises (Bsd.applyConfigToFd termios fd config) world (.termiosError err) := by
  have custom : termios.isStandardBaud config.baudrate = false := rejected.custom
  have rate : config.baudrate < 2 ^ 63 := rejected.fits
  unfold Bsd.applyConfigToFd
  rw [custom, if_neg Bool.false_ne_true, Bsd.applyCustomBaudConfig_eq_commit]
  have built : atSpeed termios config.baudrate config (TermiosDevice.tcgetattr world.host.device) = .ok _ :=
    TermiosModule.applyAll_eq rejected.fine
  exact raises_commit held (rejected.earlier _ (.head _)) built rate rate rejected.refused

theorem bsdRoute_stops [TermiosDevice δ] (termios : TermiosModule) : (bsdRoute termios : SpeedRoute Unit δ).Stops :=
  SpeedRoute.stops_of_rejection (fun _ tolerated => tolerated) (fun _ _ => rfl) (fun _ => rfl) fun _ _ _ _ => bsd_raises

end Routes

section Translation

variable {err : OSErr} {path : String} {exc : PyExc} {context : Context}

/-- No errno is translated to the documented class, and `termios.error` is not translated. -/
theorem not_surfaces {raw : PyExc} (kind : (∃ reported, raw = .osError reported) ∨ ∃ reported, raw = .termiosError reported) :
    ¬Surfaces err path (errnoToException raw context path) := by
  intro surfaces
  obtain ⟨text, same⟩ := surfaces
  rcases kind with ⟨reported, rfl⟩ | ⟨reported, rfl⟩
  · simp only [errnoToException, PyExc.serialError.injEq] at same
    have class_ne : ∀ errno, errnoClass context errno ≠ .unsupportedConfigurationError := by
      intro errno
      unfold errnoClass
      split_ifs <;> nofun
    exact class_ne _ same.1
  · cases same

theorem errnoToException_of_other {raw : PyExc} (other : raw.isOSError = false) : errnoToException raw context path = raw := by
  cases raw with
  | osError err => cases other
  | _ => rfl

end Translation

/-- A rejected speed reaches the caller as the translation of the errno for the context at hand,
which is never the documented error; a reconfiguration leaves the stored configurations alone. -/
structure SpeedRoute.NeverSurfaces (route : SpeedRoute ε δ) : Prop where
  openSerialPort : ∀ path config (world : World ε δ) err, Openable path config world → route.Rejected config world.host err →
    Ends (openSerialPort route.subclass.backend path config) world (fun _ _ => False) fun exc _ =>
      (∃ raw, (raw = route.refusal err ∨ ∃ reported, raw = .osError reported) ∧ exc = errnoToException raw .openPort path) ∧
        ¬Surfaces err path exc
  configure : ∀ me config (port : Port (World ε δ)) err, port.closed = false →
    port.backend.host.Holds port.backend.backend.fd → route.Rejected config port.backend.host err →
    Ends (Port.configure route.subclass.backend me .ready config) port (fun _ _ => False) fun exc after =>
      exc = errnoToException (route.refusal err) .ioctl port.backend.backend.path ∧
        ¬Surfaces err port.backend.backend.path exc ∧ after.config = port.config ∧
        after.backend.backend.config = port.backend.backend.config

theorem SpeedRoute.Stops.neverSurfaces {route : SpeedRoute ε δ} (stops : route.Stops)
    (kind : ∀ err, (∃ reported, route.refusal err = .osError reported) ∨ ∃ reported, route.refusal err = .termiosError reported) :
    route.NeverSurfaces := by
  constructor
  case openSerialPort =>
    intro path config world err openable rejected
    rw [openSerialPort, ends_bind, ends_translating]
    refine (stops.openPort path config world err openable rejected).mono (fun _ _ never => never.elim) fun raw _ raised => ?_
    have shape : (∃ reported, raw = .osError reported) ∨ ∃ reported, raw = .termiosError reported := by
      rcases raised with rfl | reported
      · exact kind err
      · exact .inl reported
    have translated : (∃ raw', (raw' = route.refusal err ∨ ∃ reported, raw' = .osError reported) ∧
        errnoToException raw .openPort path = errnoToException raw' .openPort path) ∧
        ¬Surfaces err path (errnoToException raw .openPort path) := ⟨⟨raw, raised, rfl⟩, not_surfaces shape⟩
    constructor
    · exact fun _ => translated
    · intro other
      rwa [errnoToException_of_other other] at translated
  case configure =>
    intro me config port err isOpen held rejected
    unfold Port.configure Port.releaseConfigure Port.applyConfig
    simp only [ends_bind, ends_tryCatch, Port.ends_arrive, Port.ends_raiseIfClosed, Port.ends_ioctl, isOpen, ends_modify,
      ends_throw, ends_pure]
    refine ⟨fun _ => ⟨by simp, fun _ => ?_⟩, by simp, by simp⟩
    refine Ends.mono (stops.configure config port.backend err held rejected) (fun _ _ never => never.elim) fun raw after raised => ?_
    obtain ⟨rfl, same⟩ := raised
    have path : after.backend.path = port.backend.backend.path := congrArg PosixBackend.path same
    have stored : after.backend.config = port.backend.backend.config := congrArg PosixBackend.config same
    constructor
    · intro _
      have shown : route.subclass.backend.path after = port.backend.backend.path := path
      rw [shown]
      exact ⟨rfl, not_surfaces (kind err), trivial, stored⟩
    · intro other
      have plain : errnoToException (route.refusal err) .ioctl port.backend.backend.path = route.refusal err :=
        errnoToException_of_other other
      exact ⟨plain.symm, plain ▸ not_surfaces (kind err), trivial, stored⟩

/-- On no platform and through no entry point does a rejected speed surface as documented. -/
theorem rejected_speed_never_surfaces (termios : TermiosModule) [TermiosDevice δ] :
    linuxRoute.NeverSurfaces ∧ darwinRoute.NeverSurfaces ∧ (bsdRoute termios : SpeedRoute Unit δ).NeverSurfaces :=
  ⟨linuxRoute_stops.neverSurfaces fun err => .inl ⟨err, rfl⟩, darwinRoute_stops.neverSurfaces fun err => .inl ⟨err, rfl⟩,
    (bsdRoute_stops termios).neverSurfaces fun err => .inr ⟨err, rfl⟩⟩

/-- A fresh Linux backend, and a rate that `TCSETS2` rejects. -/
theorem rejected_speed_is_a_plain_error :
    let err : OSErr := ⟨.einval, "Invalid argument", none⟩
    let config : SerialConfig := { baudrate := 250000 }
    let world := Linux.start { Linux.ftdiHost with faults := fun call _ => if call = .tcsets2 then some err else none }
    Openable "/dev/ttyUSB0" config world ∧ linuxRoute.Rejected config world.host err ∧
      ¬Ends (openSerialPort linuxSubclass.backend "/dev/ttyUSB0" config) world (fun _ _ => False)
        fun exc _ => Surfaces err "/dev/ttyUSB0" exc := by
  intro err config world
  have openable : Openable "/dev/ttyUSB0" config world := ⟨rfl, by decide, rfl, nofun⟩
  have rejected : linuxRoute.Rejected config world.host err := by
    constructor
    case custom => decide +kernel
    case fine => exact ⟨by decide, by decide, by decide, rfl⟩
    case tolerated => trivial
    case fits => exact (by decide : 250000 < 2 ^ 32)
    case earlier =>
      intro call member
      cases List.mem_singleton.mp member
      rfl
    case refused | invalid => rfl
  refine ⟨openable, rejected, fun surfaces => ?_⟩
  have never := (linuxRoute_stops.neverSurfaces fun err => .inl ⟨err, rfl⟩).openSerialPort _ _ _ _ openable rejected
  exact not_ends_nowhere ((surfaces.and never).mono (fun _ _ both => both.1) fun _ _ both => both.2.2 both.1)

end Anyserial
