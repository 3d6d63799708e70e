import Anyserial.Linux.LifecycleProperties
import Anyserial.Stream.PortProperties

/-! Reconfiguring an open port on Linux: the terminal attributes are committed before
the RS-485 half, which may still raise. -/
set_option autoImplicit false

namespace Anyserial.Linux

open Kit Posix

variable {world : LinuxWorld} {config : SerialConfig} {port : Port LinuxWorld}

/-- The RS-485 half of a reconfiguration raises: a call of it is refused and the policy
says so, or a delay has no encoding. -/
def Rs485Rejected (config : SerialConfig) (world : LinuxWorld) : Prop :=
  ∃ rs485, config.rs485 = some rs485 ∧
    if world.host.faults .tiocgrs485 .probe = none then
      (∃ exc, fromConfig rs485 = .error exc) ∨
        (world.host.faults .tiocsrs485 .apply ≠ none ∧ config.unsupportedPolicy = .raise)
    else config.unsupportedPolicy = .raise

theorem withFlagsFrom_of_ok (state : RS485State) {encoded : RS485State} {rs485 : RS485Config} (built : fromConfig rs485 = .ok encoded) :
    ∃ merged, state.withFlagsFrom rs485 = .ok merged := by
  rw [RS485State.withFlagsFrom, built]
  exact ⟨_, rfl⟩

theorem withFlagsFrom_of_error (state : RS485State) {rs485 : RS485Config} {exc : PyExc}
    (failed : fromConfig rs485 = .error exc) : state.withFlagsFrom rs485 = .error exc := by
  rw [RS485State.withFlagsFrom, failed]
  rfl

theorem applyRs485_rejects {rs485 : RS485Config} (chosen : config.rs485 = some rs485)
    (held : world.host.Holds world.backend.fd) (size : world.host.device.rs485.length = serRs485Size) :
    Ends (applyRs485 rs485 config.unsupportedPolicy) world (fun _ _ => ¬Rs485Rejected config world)
      (fun _ after => Rs485Rejected config world ∧ after.host.device.rs485 = world.host.device.rs485) := by
  have read : RS485State.fromBytes world.host.device.rs485 = .ok (.decode world.host.device.rs485) := by
    simp only [RS485State.fromBytes, size, Nat.lt_irrefl, if_false]
  have fits := RS485State.decode_fits world.host.device.rs485
  have rejected : Rs485Rejected config world ↔
      if world.host.faults .tiocgrs485 .probe = none then
        (∃ exc, fromConfig rs485 = .error exc) ∨
          (world.host.faults .tiocsrs485 .apply ≠ none ∧ config.unsupportedPolicy = .raise)
      else config.unsupportedPolicy = .raise := by
    constructor
    · rintro ⟨other, same, cause⟩
      cases chosen.symm.trans same
      exact cause
    · exact fun cause => ⟨rs485, chosen, cause⟩
  simp only [applyRs485, ends_bind, ends_getBackend, ends_exceptOSError, ends_map, ends_readRs485 held, read, rejected]
  refine ⟨fun err refused => ⟨fun _ => ?_, by simp [PyExc.isOSError]⟩, fun accepted => ⟨fun current same => ?_, by simp⟩⟩
  · simp only [refused, reduceCtorEq, if_false, ends_handleUnsupported]
    exact ⟨fun raises => ⟨raises, trivial⟩, fun warns raises => by simp [warns] at raises,
      fun ignores raises => by simp [ignores] at raises⟩
  · cases same
    have heldAfter : (withSnapshot world (.decode world.host.device.rs485)).host.Holds world.backend.fd := held
    simp only [accepted, if_true, ends_modifySlots, ends_liftExcept]
    cases built : fromConfig rs485 with
    | error exc =>
      have failed := withFlagsFrom_of_error (.decode world.host.device.rs485) built
      exact ⟨fun merged never => absurd (failed.symm.trans never) (by simp), fun _ _ => ⟨.inl ⟨exc, rfl⟩, trivial⟩⟩
    | ok encoded =>
      obtain ⟨merged, kept⟩ := withFlagsFrom_of_ok (.decode world.host.device.rs485) built
      refine ⟨fun other same => ?_, fun exc never => absurd (kept.symm.trans never) (by simp)⟩
      cases kept.symm.trans same
      refine (ends_writeRs485 heldAfter).mpr ⟨fun payload packed =>
        ⟨fun err refused => ⟨fun _ => ?_, by simp [PyExc.isOSError]⟩, fun written => ?_⟩,
        fun exc broken => ?_⟩
      · have cause : world.host.faults .tiocsrs485 .apply ≠ none := by
          rw [show world.host.faults .tiocsrs485 .apply = some err from refused]
          simp
        rw [ends_handleUnsupported]
        refine ⟨fun raises => ⟨.inr ⟨cause, raises⟩, rfl⟩, fun warns => ?_, fun ignores => ?_⟩
        · simp [warns]
        · simp [ignores]
      · have unrefused : world.host.faults .tiocsrs485 .apply = none := written
        simp [unrefused]
      · exact absurd broken (RS485State.withFlagsFrom_fits fits kept).toBytes_ne_error

theorem configureRs485_rejects (held : world.host.Holds world.backend.fd) (fits : SavedFits world)
    (size : world.host.device.rs485.length = serRs485Size) :
    Ends (configureRs485 config) world (fun _ _ => ¬Rs485Rejected config world)
      (fun _ after => Rs485Rejected config world ∧ after.host.device.rs485 = world.host.device.rs485) := by
  rw [configureRs485, ends_bind, ends_getBackend]
  cases chosen : config.rs485 with
  | some rs485 => exact applyRs485_rejects chosen held size
  | none =>
    have accepted : ¬Rs485Rejected config world := by
      rintro ⟨rs485, same, _⟩
      cases chosen.symm.trans same
    cases saved : world.backend.slots.savedRs485 with
    | none => exact accepted
    | some state =>
      simp only [ends_bind, ends_suppressOSError, ends_writeRs485 held, ends_modifySlots]
      refine ⟨fun payload packed => ⟨fun err _ => ⟨fun _ => accepted, by simp [PyExc.isOSError]⟩, fun _ => accepted⟩, fun exc broken => ?_⟩
      exact absurd broken (fits state saved).toBytes_ne_error

variable (config) in
/-- A reconfiguration raises where the termios half raises, and then nothing has
changed, or where the RS-485 half raises, and then the termios half stays. -/
theorem configure_rejects (held : world.host.Holds world.backend.fd) (fits : SavedFits world)
    (size : world.host.device.rs485.length = serRs485Size) :
    Ends (configure config) world
      (fun _ after => after.backend.config = some config ∧
        ¬(TermiosAccepts config world.host.faults ∧ Rs485Rejected config world))
      (fun _ after => after.host.device.rs485 = world.host.device.rs485 ∧
        ((¬TermiosAccepts config world.host.faults ∧ after = world) ∨
          (TermiosAccepts config world.host.faults ∧ Rs485Rejected config world ∧ after.backend.config = some config ∧
            requestedTermios config world.host.device = .ok after.host.device.termios))) := by
  rw [configure, ends_bind]
  refine (posixConfigure_spec held).mono (fun _ middle applied => ?_) (fun _ after refused => ?_)
  · obtain ⟨accepts, termios, requested, rfl⟩ := applied
    have heldAfter : (reconfigured world config termios).host.Holds (reconfigured world config termios).backend.fd := held
    have same : ∀ after, eraseRs485 after = eraseRs485 (reconfigured world config termios) →
        after.backend.config = some config ∧ after.host.device.termios = termios := by
      intro after frame
      have backend := congrArg World.backend frame
      have host := congrArg World.host frame
      simp only [eraseRs485, reconfigured, withTermios, Host.mk.injEq, Device.mk.injEq, PosixBackend.mk.injEq] at backend host
      exact ⟨backend.2.2.1, host.1.1⟩
    refine ((configureRs485_rejects heldAfter fits size).and (keepsButRs485_configureRs485 _)).mono
      (fun _ after ended => ?_) (fun _ after ended => ?_)
    · exact ⟨(same after ended.2).1, fun rejected => ended.1 rejected.2⟩
    · obtain ⟨⟨rejected, device⟩, frame⟩ := ended
      obtain ⟨stored, committed⟩ := same after frame
      exact ⟨device, .inr ⟨accepts, rejected, stored, committed.symm ▸ requested⟩⟩
  · obtain ⟨rejected, rfl⟩ := refused
    exact ⟨rfl, .inl ⟨rejected, rfl⟩⟩

/-- A port whose backend owns an open descriptor. -/
structure OnOpenDescriptor (port : Port LinuxWorld) : Prop where
  isOpen : port.closed = false
  held : port.backend.host.Holds port.backend.backend.fd
  fits : SavedFits port.backend
  size : port.backend.host.device.rs485.length = serRs485Size

/-- What a reconfiguration that raises must leave as it was. -/
structure SameConfiguration (before after : Port LinuxWorld) : Prop where
  termios : after.backend.host.device.termios = before.backend.host.device.termios
  rs485 : after.backend.host.device.rs485 = before.backend.host.device.rs485
  backendConfig : after.backend.backend.config = before.backend.backend.config
  portConfig : after.config = before.config

def AllOrNothing (me : Nat) (wake : Wake) (config : SerialConfig) (port : Port LinuxWorld) : Prop :=
  Ends (Port.configure linuxBackend me wake config) port
    (fun _ after => after.config = config ∧ after.backend.backend.config = some config)
    (fun _ after => SameConfiguration port after)

/-- The RS-485 half raises after a termios half that made a difference. -/
def HalfApplied (config : SerialConfig) (world : LinuxWorld) : Prop :=
  TermiosAccepts config world.host.faults ∧ Rs485Rejected config world ∧
    ¬(world.backend.config = some config ∧ requestedTermios config world.host.device = .ok world.host.device.termios)

theorem allOrNothing_of_wake {me : Nat} {wake : Wake} (other : wake ≠ .ready) : AllOrNothing me wake config port := by
  have same : SameConfiguration port { port with configureLock := port.configureLock.leave me } := ⟨rfl, rfl, rfl, rfl⟩
  unfold AllOrNothing Port.configure Port.releaseConfigure
  simp only [ends_bind, ends_tryCatch, Port.ends_arrive, ends_modify, ends_throw]
  exact ⟨fun ready => absurd ready other, fun _ => same, fun _ => same⟩

/-- The body under the configure lock comes down to the reconfiguration of the backend. -/
theorem allOrNothing_ready {me : Nat} (isOpen : port.closed = false) :
    AllOrNothing me .ready config port ↔
      Ends (Linux.configure config) port.backend (fun _ after => after.backend.config = some config) fun _ after =>
        after.host.device.termios = port.backend.host.device.termios ∧
          after.host.device.rs485 = port.backend.host.device.rs485 ∧
          after.backend.config = port.backend.backend.config := by
  unfold AllOrNothing Port.configure Port.releaseConfigure Port.applyConfig
  simp only [ends_bind, ends_tryCatch, Port.ends_arrive, Port.ends_raiseIfClosed, Port.ends_ioctl, isOpen, ends_modify,
    ends_throw, ends_pure, linuxBackend, syncBackend]
  constructor
  · intro ends
    refine ((ends.1 trivial).2 trivial).mono (fun _ after stored => stored.2) fun exc after same => ?_
    cases kind : exc.isOSError with
    | true => exact ⟨(same.1 kind).termios, (same.1 kind).rs485, (same.1 kind).backendConfig⟩
    | false => exact ⟨(same.2 kind).termios, (same.2 kind).rs485, (same.2 kind).backendConfig⟩
  · intro ends
    refine ⟨fun _ => ⟨by simp, fun _ => ?_⟩, by simp, by simp⟩
    refine ends.mono (fun _ after stored => ⟨trivial, stored⟩) fun exc after same => ?_
    exact ⟨fun _ => ⟨same.1, same.2.1, same.2.2, rfl⟩, fun _ => ⟨same.1, same.2.1, same.2.2, rfl⟩⟩

/-- `configure` is all-or-nothing exactly where it does not raise half-way. -/
theorem configure_allOrNothing_iff (me : Nat) (wake : Wake) (config : SerialConfig) (onOpen : OnOpenDescriptor port) :
    AllOrNothing me wake config port ↔ ¬(wake = .ready ∧ HalfApplied config port.backend) := by
  have rejects := configure_rejects config onOpen.held onOpen.fits onOpen.size
  by_cases ready : wake = .ready
  · subst ready
    rw [allOrNothing_ready onOpen.isOpen]
    constructor
    · rintro kept ⟨_, accepts, rejected, differs⟩
      refine not_ends_nowhere ((kept.and rejects).mono (fun _ after ended => ?_) fun _ after ended => ?_)
      · exact ended.2.2 ⟨accepts, rejected⟩
      · obtain ⟨⟨termios, _, stored⟩, _, ⟨refused, _⟩ | ⟨_, _, committed, requested⟩⟩ := ended
        · exact refused accepts
        · exact differs ⟨stored ▸ committed, termios ▸ requested⟩
    · intro kept
      refine rejects.mono (fun _ after ended => ended.1) fun _ after ended => ?_
      obtain ⟨device, ⟨_, rfl⟩ | ⟨accepts, rejected, committed, requested⟩⟩ := ended
      · exact ⟨rfl, rfl, rfl⟩
      · obtain ⟨stored, same⟩ := not_not.mp fun differs => kept ⟨rfl, accepts, rejected, differs⟩
        exact ⟨Except.ok.inj (requested.symm.trans same), device, committed.trans stored.symm⟩
  · exact ⟨fun _ half => ready half.1, fun _ => allOrNothing_of_wake ready⟩

/-- A port on an open FTDI adapter, with the calls that the kernel refuses from now on. -/
def openedPort (faults : Faults) : Port LinuxWorld :=
  .opened { polledTerminal with host := { polledTerminal.host with faults := faults } } .defaults

theorem openedPort_onOpenDescriptor (faults : Faults) : OnOpenDescriptor (openedPort faults) := by
  have slots : polledTerminal.backend.slots = {} := by decide +kernel
  have held : 0 ≤ polledTerminal.backend.fd ∧ polledTerminal.backend.fd ∈ polledTerminal.host.openFds := by decide +kernel
  have size : polledTerminal.host.device.rs485.length = serRs485Size := by decide +kernel
  refine ⟨rfl, held, fun state saved => ?_, size⟩
  have empty : polledTerminal.backend.slots.savedRs485 = some state := saved
  rw [slots] at empty
  cases empty

/-- Enabling RS-485 with another rate is all-or-nothing when no call is refused. -/
theorem configure_allOrNothing_when_accepted :
    AllOrNothing 0 .ready { baudrate := 9600, rs485 := some {} } (openedPort noFaults) := by
  refine (configure_allOrNothing_iff 0 .ready _ (openedPort_onOpenDescriptor noFaults)).mpr ?_
  rintro ⟨_, _, ⟨rs485, same, cause⟩, _⟩
  cases same
  have encoded : fromConfig {} = .ok { flags := 3 } := by decide +kernel
  rw [if_pos (show (openedPort noFaults).backend.host.faults .tiocgrs485 .probe = none from rfl)] at cause
  rcases cause with ⟨exc, failed⟩ | ⟨refused, _⟩
  · cases encoded.symm.trans failed
  · exact refused rfl

/-- `TIOCSRS485` is refused: `configure` raises, with the new rate on the device and in
the backend and the old configuration in the port. -/
theorem refused_rs485_leaves_new_termios :
    let config : SerialConfig := { baudrate := 9600, rs485 := some {} }
    let before := openedPort refusesRs485
    let settled := settle (Port.configure linuxBackend 0 .ready config before)
    settled.1 = .raised (.serialError .unsupportedFeatureError
        ⟨some .eio, "TIOCSRS485 is not supported on this device: Input/output error", none⟩) ∧
      settled.2.backend.host.device.termios ≠ before.backend.host.device.termios ∧
      settled.2.backend.backend.config = some config ∧ settled.2.config = before.config := by decide +kernel

end Anyserial.Linux
