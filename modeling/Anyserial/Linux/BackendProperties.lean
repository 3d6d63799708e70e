import Anyserial.Linux.RS485Properties
import Anyserial.Linux.TermiosProperties
import Anyserial.Posix.IoctlProperties

/-! What one open, configure or close of the Linux backend does to the originals
it holds: they are owed while the backend is open, and given back on the way out. -/
set_option autoImplicit false

namespace Anyserial.Linux

open Kit Posix

variable {world before middle after : LinuxWorld}

/-- Two worlds that differ in the slots, the warnings and the device only. -/
structure SameDescriptor (before after : LinuxWorld) : Prop where
  fd : after.backend.fd = before.backend.fd
  path : after.backend.path = before.backend.path
  openFds : after.host.openFds = before.host.openFds
  faults : after.host.faults = before.host.faults

theorem SameDescriptor.trans (first : SameDescriptor before middle) (second : SameDescriptor middle after) :
    SameDescriptor before after :=
  ⟨second.fd.trans first.fd, second.path.trans first.path, second.openFds.trans first.openFds,
    second.faults.trans first.faults⟩

theorem SameDescriptor.holds (same : SameDescriptor before after) (held : before.host.Holds before.backend.fd) :
    after.host.Holds after.backend.fd :=
  ⟨same.fd ▸ held.1, by rw [same.openFds, same.fd]; exact held.2⟩

/-- What the RS-485 steps leave alone. -/
structure SameLowLatency (before after : LinuxWorld) : Prop where
  flags : after.backend.slots.savedAsyncFlags = before.backend.slots.savedAsyncFlags
  timer : after.backend.slots.ftdiTimer = before.backend.slots.ftdiTimer
  serial : after.host.device.serial = before.host.device.serial
  serialWrites : after.host.device.serialWrites = before.host.device.serialWrites
  sysfs : after.host.device.sysfs = before.host.device.sysfs

/-- What the low-latency steps leave alone. -/
structure SameRs485 (before after : LinuxWorld) : Prop where
  saved : after.backend.slots.savedRs485 = before.backend.slots.savedRs485
  device : after.host.device.rs485 = before.host.device.rs485

section Views

theorem frames_of_eraseTermios (same : eraseTermios after = eraseTermios before) :
    SameDescriptor before after ∧ SameLowLatency before after ∧ SameRs485 before after := by
  have backend := congrArg World.backend same
  have host := congrArg World.host same
  simp only [eraseTermios, eraseDevice, Host.mk.injEq, Device.mk.injEq] at backend host
  obtain ⟨⟨_, serial, writes, rs485, sysfs⟩, openFds, _, _, _, faults, _⟩ := host
  have slots := congrArg PosixBackend.slots backend
  exact ⟨⟨congrArg PosixBackend.fd backend, congrArg PosixBackend.path backend, openFds, faults⟩,
    ⟨congrArg Slots.savedAsyncFlags slots, congrArg Slots.ftdiTimer slots, serial, writes, sysfs⟩,
    congrArg Slots.savedRs485 slots, rs485⟩

theorem frames_of_eraseRs485 (same : eraseRs485 after = eraseRs485 before) :
    SameDescriptor before after ∧ SameLowLatency before after := by
  have backend := congrArg World.backend same
  have host := congrArg World.host same
  simp only [eraseRs485, Host.mk.injEq, Device.mk.injEq, PosixBackend.mk.injEq, Slots.mk.injEq] at backend host
  obtain ⟨⟨_, serial, writes, _, sysfs⟩, openFds, _, _, _, faults, _⟩ := host
  obtain ⟨fd, path, _, flags, timer, _⟩ := backend
  exact ⟨⟨fd, path, openFds, faults⟩, flags, timer, serial, writes, sysfs⟩

theorem frames_of_eraseLowLatency (same : eraseLowLatency after = eraseLowLatency before) :
    SameDescriptor before after ∧ SameRs485 before after := by
  have backend := congrArg World.backend same
  have host := congrArg World.host same
  simp only [eraseLowLatency, Host.mk.injEq, Device.mk.injEq, PosixBackend.mk.injEq, Slots.mk.injEq] at backend host
  obtain ⟨⟨_, _, _, rs485, _⟩, openFds, _, _, _, faults, _⟩ := host
  obtain ⟨fd, path, _, _, _, saved⟩ := backend
  exact ⟨⟨fd, path, openFds, faults⟩, saved, rs485⟩

end Views

theorem SameLowLatency.owes {serial : Vector (BitVec 32) 32} {sysfs : Sysfs} (same : SameLowLatency before after)
    (owes : OwesLowLatency serial sysfs before) : OwesLowLatency serial sysfs after := by
  refine ⟨?_, ?_, ?_⟩
  · simpa only [owedSerial, same.flags, same.serial] using owes.serial
  · simpa only [owedSysfs, same.timer, same.sysfs] using owes.sysfs
  · simpa only [same.timer, same.sysfs] using owes.timer

theorem SameRs485.keeps (same : SameRs485 before after) : KeepsSnapshot before after :=
  .of_same same.saved same.device

/-- What a step on an open backend keeps: the descriptor, and every original it owes. -/
structure Tuned (before after : LinuxWorld) : Prop where
  descriptor : SameDescriptor before after
  owes : ∀ serial sysfs, OwesLowLatency serial sysfs before → OwesLowLatency serial sysfs after
  snapshot : KeepsSnapshot before after

theorem Tuned.trans (first : Tuned before middle) (second : Tuned middle after) : Tuned before after :=
  ⟨first.descriptor.trans second.descriptor,
    fun serial sysfs owed => second.owes serial sysfs (first.owes serial sysfs owed),
    first.snapshot.trans second.snapshot⟩

theorem tuned_of_termios (same : eraseTermios after = eraseTermios before) : Tuned before after := by
  obtain ⟨descriptor, lowLatency, rs485⟩ := frames_of_eraseTermios same
  exact ⟨descriptor, fun _ _ => lowLatency.owes, rs485.keeps⟩

theorem tuned_of_rs485 (same : eraseRs485 after = eraseRs485 before) (snapshot : KeepsSnapshot before after) :
    Tuned before after := by
  obtain ⟨descriptor, lowLatency⟩ := frames_of_eraseRs485 same
  exact ⟨descriptor, fun _ _ => lowLatency.owes, snapshot⟩

/-- From empty slots, enabling low latency keeps what is owed however it ends. -/
theorem enableLowLatencyMode_tuned {policy : UnsupportedPolicy} (held : world.host.Holds world.backend.fd)
    (noFlags : world.backend.slots.savedAsyncFlags = none) (noTimer : world.backend.slots.ftdiTimer = none) :
    Ends (enableLowLatencyMode policy) world (fun _ after => Tuned world after) (fun _ after => Tuned world after) := by
  have tuned : ∀ after, OwesLowLatency world.host.device.serial world.host.device.sysfs after ∧
      SameView eraseLowLatency world after → Tuned world after := by
    rintro after ⟨owes, same⟩
    obtain ⟨descriptor, rs485⟩ := frames_of_eraseLowLatency same
    refine ⟨descriptor, fun serial sysfs start => ?_, rs485.keeps⟩
    have restored := start.restored noFlags noTimer
    rwa [restored.serial, restored.sysfs] at owes
  exact ((enableLowLatencyMode_owes held noFlags noTimer).and (keeps_enableLowLatencyMode lowLatencyMoves_erase world)).mono
    (fun _ => tuned) (fun _ => tuned)

theorem applyRs485_tuned {config : RS485Config} {policy : UnsupportedPolicy}
    (held : world.host.Holds world.backend.fd) :
    Ends (applyRs485 config policy) world (fun _ after => Tuned world after) (fun _ after => Tuned world after) :=
  ((applyRs485_keeps held).and (keepsButRs485_applyRs485 world)).mono
    (fun _ _ ended => tuned_of_rs485 ended.2 ended.1) (fun _ _ ended => tuned_of_rs485 ended.2 ended.1)

/-- A reconfiguration stays on the descriptor. -/
theorem steady_linuxBackend : linuxBackend.Steady := by
  refine steady_syncBackend fun config => ?_
  refine .bind (Posix.keeps_configureWith (fun fd => ?_) fun _ _ => rfl) fun _ => ?_
  · exact keepsButTermios_applyConfigToFd.mono fun _ _ same => congrArg (fun world => world.backend.fd) same
  · exact keepsButRs485_configureRs485.mono fun _ _ same => congrArg (fun world => world.backend.fd) same

theorem tuneRs485_none {config : SerialConfig} (absent : config.rs485 = none) : tuneRs485 config = pure () := by
  simp only [tuneRs485, absent]

theorem tuneRs485_some {config : SerialConfig} {rs485 : RS485Config} (asked : config.rs485 = some rs485) :
    tuneRs485 config = applyRs485 rs485 config.unsupportedPolicy := by
  simp only [tuneRs485, asked]

/-- Tuning a fresh open, however it ends. -/
theorem tune_spec {config : SerialConfig} (held : world.host.Holds world.backend.fd)
    (noFlags : world.backend.slots.savedAsyncFlags = none) (noTimer : world.backend.slots.ftdiTimer = none) :
    Ends (tune config) world (fun _ after => Tuned world after) (fun _ after => Tuned world after) := by
  have untouched : Tuned world world := tuned_of_termios rfl
  rw [tune, ends_bind, ends_whenever]
  have rs485 : ∀ middle, Tuned world middle →
      Ends (tuneRs485 config) middle (fun _ after => Tuned world after) (fun _ after => Tuned world after) := by
    intro middle first
    cases chosen : config.rs485 with
    | none =>
      rw [tuneRs485_none chosen]
      exact first
    | some rs485 =>
      rw [tuneRs485_some chosen]
      exact (applyRs485_tuned (first.descriptor.holds held)).mono (fun _ _ => first.trans) (fun _ _ => first.trans)
  refine ⟨fun _ => ?_, fun _ => rs485 world untouched⟩
  exact (enableLowLatencyMode_tuned held noFlags noTimer).mono (fun _ => rs485) (fun _ _ first => first)

/-- What a close leaves: the descriptor is released and the slots are empty, and
each original is back unless one of the calls that give it back was refused. -/
structure TornDown (before after : LinuxWorld) : Prop where
  fd : after.backend.fd = -1
  slots : after.backend.slots = {}
  openFds : after.host.openFds = before.host.openFds.erase before.backend.fd
  lowLatency : RestoresLowLatency before.host.faults → ∀ serial sysfs, OwesLowLatency serial sysfs before →
    after.host.device.serial = serial ∧ after.host.device.sysfs = sysfs
  rs485 : before.host.faults .tiocsrs485 .restore = none → ∀ payload, OwesRs485 payload before →
    after.host.device.rs485 = payload

/-- A close releases the descriptor and empties the slots whichever way it ends. -/
theorem close_spec (held : world.host.Holds world.backend.fd) (fits : SavedFits world) :
    Ends close world (fun _ after => TornDown world after)
      (fun exc after => exc.isOSError = true ∧ TornDown world after) := by
  have notNegative : 0 ≤ world.backend.fd := held.1
  simp only [close, ends_bind, ends_getBackend, notNegative, if_true]
  refine ((restoreLowLatency_spec held).and (keeps_restoreLowLatency lowLatencyMoves_erase world)).mono (fun _ first restored => ?_)
    (fun _ _ never => never.1.elim)
  obtain ⟨⟨noFlags, noTimer, lowLatency⟩, same⟩ := restored
  obtain ⟨descriptor, rs485⟩ := frames_of_eraseLowLatency same
  have heldFirst : first.host.Holds world.backend.fd := descriptor.fd ▸ descriptor.holds held
  refine ((restoreRs485_spec heldFirst (rs485.keeps.1 fits)).and (keepsButRs485_restoreRs485 first)).mono
    (fun _ second given => ?_) (fun _ _ never => never.1.elim)
  obtain ⟨⟨noSnapshot, payload⟩, sameAgain⟩ := given
  obtain ⟨descriptorAgain, sameLowLatency⟩ := frames_of_eraseRs485 sameAgain
  have descriptors := descriptor.trans descriptorAgain
  have isOpen : second.backend.isOpen = true := by
    simpa only [PosixBackend.isOpen, descriptors.fd] using decide_eq_true notNegative
  have tornDown : TornDown world (released second) := by
    refine ⟨rfl, ?_, ?_, ?_, ?_⟩
    · have noFlagsAgain := sameLowLatency.flags.trans noFlags
      have noTimerAgain := sameLowLatency.timer.trans noTimer
      show second.backend.slots = {}
      cases slots : second.backend.slots
      simp only [slots] at noFlagsAgain noTimerAgain noSnapshot
      simp only [noFlagsAgain, noTimerAgain, noSnapshot]
    · simp only [released, descriptors.openFds, descriptors.fd]
    · intro restores serial sysfs owes
      have restored := lowLatency restores serial sysfs owes
      exact ⟨sameLowLatency.serial.trans restored.serial, sameLowLatency.sysfs.trans restored.sysfs⟩
    · intro accepted target owes
      exact payload (descriptor.faults ▸ accepted) target (rs485.keeps.2 target owes)
  refine (Posix.close_spec isOpen).mono ?_ ?_
  · rintro _ _ rfl
    exact tornDown
  · rintro exc _ ⟨isOSError, rfl⟩
    exact ⟨isOSError, tornDown⟩

/-- What an open on a closed backend leaves when it returns. -/
structure Opened (before after : LinuxWorld) : Prop where
  fd : after.backend.fd = lowestUnused before.host.openFds
  openFds : after.host.openFds = lowestUnused before.host.openFds :: before.host.openFds
  owes : ∀ serial sysfs, OwesLowLatency serial sysfs before → OwesLowLatency serial sysfs after
  snapshot : KeepsSnapshot before after

/-- What an open on a closed backend leaves when it raises: the backend is closed
again, and each original is back unless one of the calls that give it back was refused. -/
structure OpenFailed (before after : LinuxWorld) : Prop where
  closed : after.backend.isOpen = false
  slots : after.backend.slots = {}
  openFds : after.host.openFds = before.host.openFds
  lowLatency : RestoresLowLatency before.host.faults → ∀ serial sysfs, OwesLowLatency serial sysfs before →
    after.host.device.serial = serial ∧ after.host.device.sysfs = sysfs
  rs485 : before.host.faults .tiocsrs485 .restore = none → ∀ payload, OwesRs485 payload before →
    after.host.device.rs485 = payload

theorem openFailed_of_termios (closed : before.backend.isOpen = false) (empty : before.backend.slots = {})
    (same : eraseTermios after = eraseTermios before) : OpenFailed before after := by
  obtain ⟨descriptor, lowLatency, rs485⟩ := frames_of_eraseTermios same
  have backend := congrArg World.backend same
  simp only [eraseTermios, eraseDevice] at backend
  refine ⟨by rwa [backend], by rwa [backend], descriptor.openFds, fun _ serial sysfs owes => ?_, fun _ payload owes => ?_⟩
  · have restored := (lowLatency.owes owes).restored (by rw [backend, empty]) (by rw [backend, empty])
    exact ⟨restored.serial, restored.sysfs⟩
  · exact (rs485.keeps.2 payload owes).unsaved (by rw [backend, empty])

/-- Opening a closed backend: the descriptor is owned and everything owed when it
returns, and nothing is left behind when it raises at any step. -/
theorem openPort_spec {path : String} {config : SerialConfig} (closed : world.backend.isOpen = false)
    (empty : world.backend.slots = {}) (fits : SavedFits world) :
    Ends (openPort path config) world (fun _ after => Opened world after) (fun _ after => OpenFailed world after) := by
  rw [openPort, ends_bind]
  refine (Posix.openPort_spec closed fun _ => keepsButTermios_applyConfigToFd).mono (fun _ middle same => ?_)
    (fun _ _ => openFailed_of_termios closed empty)
  obtain ⟨descriptor, lowLatency, rs485⟩ := frames_of_eraseTermios same
  have sameLowLatency : SameLowLatency world middle :=
    ⟨lowLatency.flags, lowLatency.timer, lowLatency.serial, lowLatency.serialWrites, lowLatency.sysfs⟩
  have sameRs485 : SameRs485 world middle := ⟨rs485.saved, rs485.device⟩
  have held : middle.host.Holds middle.backend.fd :=
    descriptor.holds ⟨lowestUnused_nonneg _, List.mem_cons_self ..⟩
  have noFlags : middle.backend.slots.savedAsyncFlags = none := by rw [sameLowLatency.flags, empty]
  have noTimer : middle.backend.slots.ftdiTimer = none := by rw [sameLowLatency.timer, empty]
  rw [ends_tryCatch]
  refine (tune_spec held noFlags noTimer).mono (fun _ after tuned => ?_) (fun exc failed tuned => ?_)
  · refine ⟨tuned.descriptor.fd.trans descriptor.fd, tuned.descriptor.openFds.trans descriptor.openFds, ?_, ?_⟩
    · exact fun serial sysfs owes => tuned.owes serial sysfs (sameLowLatency.owes owes)
    · exact sameRs485.keeps.trans tuned.snapshot
  · have faults : failed.host.faults = world.host.faults := tuned.descriptor.faults.trans descriptor.faults
    have openFailed : ∀ after, TornDown failed after → OpenFailed world after := by
      intro after tornDown
      refine ⟨by rw [PosixBackend.isOpen, tornDown.fd]; rfl, tornDown.slots, ?_, ?_, ?_⟩
      · rw [tornDown.openFds, tuned.descriptor.openFds, tuned.descriptor.fd, descriptor.openFds, descriptor.fd]
        exact List.erase_cons_head ..
      · exact fun restores serial sysfs owes =>
          tornDown.lowLatency (faults ▸ restores) serial sysfs (tuned.owes serial sysfs (sameLowLatency.owes owes))
      · exact fun accepted payload owes =>
          tornDown.rs485 (faults ▸ accepted) payload ((sameRs485.keeps.trans tuned.snapshot).2 payload owes)
    simp only [ends_bind, ends_suppressException, ends_throw]
    refine (close_spec (tuned.descriptor.holds held) ((sameRs485.keeps.trans tuned.snapshot).1 fits)).mono
      (fun _ after => openFailed after) (fun exc after raised => ⟨fun _ => openFailed after raised.2, fun never => ?_⟩)
    exact absurd (PyExc.isException_of_isOSError raised.1) (by simp [never])

/-- The RS-485 half of a reconfiguration gives the snapshot back, and the device refuses it. -/
def DropRefused (config : SerialConfig) (world : LinuxWorld) : Prop :=
  config.rs485 = none ∧ world.backend.slots.savedRs485 ≠ none ∧ world.host.faults .tiocsrs485 .apply ≠ none

/-- Reconfiguring RS-485 keeps the snapshot leading where it led, except that a
refused drop loses the way back. -/
theorem configureRs485_spec {config : SerialConfig} (held : world.host.Holds world.backend.fd)
    (fits : SavedFits world) :
    Ends (configureRs485 config) world
      (fun _ after => SavedFits after ∧
        (∀ payload, OwesRs485 payload world → ¬DropRefused config world → OwesRs485 payload after) ∧
          (DropRefused config world → after.backend.slots.savedRs485 = none ∧
            after.host.device.rs485 = world.host.device.rs485))
      (fun _ after => ¬DropRefused config world ∧ KeepsSnapshot world after) := by
  rw [configureRs485, ends_bind, ends_getBackend]
  cases chosen : config.rs485 with
  | some rs485 =>
    have kept : ¬DropRefused config world := fun drop => absurd (chosen.symm.trans drop.1) (by simp)
    refine (applyRs485_keeps held).mono (fun _ after snapshot => ?_) (fun _ after snapshot => ⟨kept, snapshot⟩)
    exact ⟨snapshot.1 fits, fun payload owes _ => snapshot.2 payload owes, fun drop => absurd drop kept⟩
  | none =>
    cases saved : world.backend.slots.savedRs485 with
    | none => exact ⟨fits, fun _ owes _ => owes, fun drop => absurd saved drop.2.1⟩
    | some state =>
      simp only [ends_bind, ends_suppressOSError, ends_writeRs485 held, ends_modifySlots]
      refine ⟨fun payload packed => ⟨fun err refused => ⟨fun _ => ?_, by simp [PyExc.isOSError]⟩, fun accepted => ?_⟩, fun exc broken => ?_⟩
      · refine ⟨by simp [SavedFits], fun target owes kept => ?_, fun _ => ⟨trivial, trivial⟩⟩
        exact absurd ⟨chosen, by simp [saved], by simp [refused]⟩ kept
      · refine ⟨by simp [SavedFits], fun target owes _ => ⟨by simp, fun _ => ?_, ?_⟩, fun drop => absurd accepted drop.2.2⟩
        · exact Except.ok.inj (packed.symm.trans (owes.saved state saved))
        · exact RS485State.toBytes_zeroPadded packed
      · exact absurd broken (fits state saved).toBytes_ne_error

/-- The world after the POSIX half of a reconfiguration. -/
def reconfigured (world : LinuxWorld) (config : SerialConfig) (termios : KernelTermios) : LinuxWorld :=
  { withTermios world termios with backend := { world.backend with config := some config } }

theorem posixConfigure_spec {config : SerialConfig} (held : world.host.Holds world.backend.fd) :
    Ends (Posix.configure applyConfigToFd config) world
      (fun _ after => TermiosAccepts config world.host.faults ∧
        ∃ termios, requestedTermios config world.host.device = .ok termios ∧ after = reconfigured world config termios)
      (fun _ after => ¬TermiosAccepts config world.host.faults ∧ after = world) := by
  rw [Posix.configure, ends_bind, ends_getBackend, ends_bind]
  refine (applyConfigToFd_spec held).mono (fun _ after applied => ?_) (fun _ _ refused => refused)
  obtain ⟨accepts, termios, requested, rfl⟩ := applied
  exact ⟨accepts, termios, requested, rfl⟩

/-- A reconfiguration of an open backend keeps the descriptor and what is owed of
low latency. It keeps what is owed of RS-485 unless a drop is refused. -/
structure Reconfigured (config : SerialConfig) (before after : LinuxWorld) : Prop where
  descriptor : SameDescriptor before after
  lowLatency : SameLowLatency before after
  fits : SavedFits after
  rs485 : ∀ payload, OwesRs485 payload before →
    ¬(TermiosAccepts config before.host.faults ∧ DropRefused config before) → OwesRs485 payload after
  dropped : TermiosAccepts config before.host.faults ∧ DropRefused config before →
    after.backend.slots.savedRs485 = none ∧ after.host.device.rs485 = before.host.device.rs485

theorem configure_spec {config : SerialConfig} (held : world.host.Holds world.backend.fd) (fits : SavedFits world) :
    Ends (configure config) world (fun _ after => Reconfigured config world after)
      (fun _ after => Reconfigured config world after) := by
  rw [configure, ends_bind]
  refine (posixConfigure_spec held).mono (fun _ middle applied => ?_) (fun _ after refused => ?_)
  · obtain ⟨accepts, termios, requested, rfl⟩ := applied
    have same : SameRs485 world (reconfigured world config termios) := ⟨rfl, rfl⟩
    have heldAfter : (reconfigured world config termios).host.Holds (reconfigured world config termios).backend.fd := held
    have settled : ∀ after, eraseRs485 after = eraseRs485 (reconfigured world config termios) → SavedFits after →
        (∀ payload, OwesRs485 payload world → (¬DropRefused config world → OwesRs485 payload after)) →
        (DropRefused config world → after.backend.slots.savedRs485 = none ∧
          after.host.device.rs485 = world.host.device.rs485) → Reconfigured config world after := by
      intro after frame fitsAfter owes dropped
      obtain ⟨descriptor, lowLatency⟩ := frames_of_eraseRs485 frame
      exact ⟨⟨descriptor.fd, descriptor.path, descriptor.openFds, descriptor.faults⟩,
        ⟨lowLatency.flags, lowLatency.timer, lowLatency.serial, lowLatency.serialWrites, lowLatency.sysfs⟩, fitsAfter,
        fun payload owed kept => owes payload owed fun drop => kept ⟨accepts, drop⟩, fun drop => dropped drop.2⟩
    refine ((configureRs485_spec heldAfter (same.keeps.1 fits)).and (keepsButRs485_configureRs485 _)).mono
      (fun _ after ended => ?_) (fun _ after ended => ?_)
    · obtain ⟨⟨fitsAfter, owes, dropped⟩, frame⟩ := ended
      exact settled after frame fitsAfter (fun payload owed => owes payload (same.keeps.2 payload owed)) dropped
    · obtain ⟨⟨kept, snapshot⟩, frame⟩ := ended
      exact settled after frame (snapshot.1 (same.keeps.1 fits))
        (fun payload owed _ => snapshot.2 payload (same.keeps.2 payload owed)) fun drop => absurd drop kept
  · obtain ⟨rejected, rfl⟩ := refused
    exact ⟨⟨rfl, rfl, rfl, rfl⟩, ⟨rfl, rfl, rfl, rfl, rfl⟩, fits, fun _ owes _ => owes, fun drop => absurd drop.1 rejected⟩

/-- A closed backend has no descriptor to configure. -/
theorem configure_of_closed {config : SerialConfig} (closed : world.backend.isOpen = false) :
    Ends (configure config) world (fun _ _ => False) (fun _ after => after = world) := by
  have negative : world.backend.fd < 0 := by simpa [PosixBackend.isOpen] using closed
  rw [configure, ends_bind, Posix.configure, ends_bind, ends_getBackend, ends_bind, applyConfigToFd, ends_ite]
  refine ⟨fun _ => ?_, fun _ => ?_⟩
  · simp [Posix.applyConfigToFd, tcgetattr, termiosCall, negative]
  · simp [applyCustomBaudConfig, readTermios2, fcntlCall, negative]

theorem openPort_of_open {path : String} {config : SerialConfig} (isOpen : world.backend.isOpen = true) :
    Ends (openPort path config) world (fun _ _ => False) (fun _ after => after = world) := by
  rw [openPort, ends_bind, Posix.openPort_of_open isOpen]

theorem close_of_closed (closed : world.backend.isOpen = false) {returned : Unit → LinuxWorld → Prop}
    {raised : PyExc → LinuxWorld → Prop} : Ends close world returned raised ↔ returned () world := by
  have negative : ¬0 ≤ world.backend.fd := by simpa [PosixBackend.isOpen] using closed
  rw [close, ends_bind, ends_getBackend, if_neg negative, Posix.close_of_closed closed]

section Lifecycle

/-- The relation holds of every change that an open, a reconfiguration or a close is made of. -/
structure LifecycleMoves (related : LinuxWorld → LinuxWorld → Prop) : Prop where
  descriptor : DescriptorMoves related
  lowLatency : LowLatencyMoves related
  termios : ∀ before after, SameView eraseTermios before after → related before after
  rs485 : ∀ before after, SameView eraseRs485 before after → related before after

theorem lifecycleMoves_onlyFlagsWritten : LifecycleMoves OnlyFlagsWritten where
  descriptor := ⟨fun _ _ => onlyFlagsWritten_of_same rfl rfl, fun _ _ _ _ => onlyFlagsWritten_of_same rfl rfl⟩
  lowLatency := lowLatencyMoves_onlyFlagsWritten
  termios _ _ same := onlyFlagsWritten_of_same (frames_of_eraseTermios same).2.1.serial (frames_of_eraseTermios same).2.1.serialWrites
  rs485 _ _ same := onlyFlagsWritten_of_same (frames_of_eraseRs485 same).2.serial (frames_of_eraseRs485 same).2.serialWrites

/-- The names that the operating system encodes are nobody's to change. -/
theorem lifecycleMoves_fsEncodes : LifecycleMoves (SameView fun world => world.host.fsEncodes) where
  descriptor := ⟨fun _ _ => rfl, fun _ _ _ _ => rfl⟩
  lowLatency := ⟨fun _ _ => rfl, fun _ _ => rfl, fun _ _ => rfl, fun _ _ => rfl, fun _ _ => rfl⟩
  termios before after same := by
    have host : (eraseTermios after).host.fsEncodes = (eraseTermios before).host.fsEncodes :=
      congrArg (fun world => world.host.fsEncodes) same
    exact host
  rs485 before after same := by
    have host : (eraseRs485 after).host.fsEncodes = (eraseRs485 before).host.fsEncodes := congrArg (fun world => world.host.fsEncodes) same
    exact host

variable {related : LinuxWorld → LinuxWorld → Prop} [Std.Refl related] [IsTrans LinuxWorld related]

theorem keeps_close (moves : LifecycleMoves related) : Keeps related close := by
  refine keeps_getBackend.bind fun _ => .ite (fun _ => ?_) fun _ => Posix.keeps_close moves.descriptor
  exact (keeps_restoreLowLatency moves.lowLatency).bind fun _ =>
    (keepsButRs485_restoreRs485.mono moves.rs485).bind fun _ => Posix.keeps_close moves.descriptor

theorem keeps_tune (moves : LifecycleMoves related) {config : SerialConfig} : Keeps related (tune config) := by
  refine (keeps_whenever (keeps_enableLowLatencyMode moves.lowLatency)).bind fun _ => ?_
  unfold tuneRs485
  split
  · exact keepsButRs485_applyRs485.mono moves.rs485
  · exact .pure ()

theorem keeps_openPort (moves : LifecycleMoves related) {path : String} {config : SerialConfig} :
    Keeps related (openPort path config) :=
  .bind (Posix.keeps_openPort moves.descriptor fun _ => keepsButTermios_applyConfigToFd.mono moves.termios) fun _ =>
    .tryCatch (keeps_tune moves) fun exc => (keeps_suppressException (keeps_close moves)).bind fun _ => .throw exc

theorem keeps_configure (moves : LifecycleMoves related) {config : SerialConfig} : Keeps related (configure config) :=
  .bind (Posix.keeps_configure moves.descriptor fun _ => keepsButTermios_applyConfigToFd.mono moves.termios) fun _ =>
    keepsButRs485_configureRs485.mono moves.rs485

end Lifecycle

end Anyserial.Linux
