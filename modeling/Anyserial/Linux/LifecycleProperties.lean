import Anyserial.Linux.BackendProperties
import Anyserial.Linux.Lifecycle
import Mathlib.Data.List.Induction

/-! Over every run of one Linux backend, teardown gives back what low-latency mode
and RS-485 found. A refused drop of the RS-485 snapshot is the one step that loses it. -/
set_option autoImplicit false

namespace Anyserial.Linux

open Kit Posix

variable {host : Host Device} {world after : LinuxWorld} {step : Step}

/-- The backend holds one descriptor while it is open, and nothing else ever. -/
structure Balanced (host : Host Device) (world : LinuxWorld) : Prop where
  fits : SavedFits world
  closed : world.backend.isOpen = false → world.backend.slots = {} ∧ world.host.openFds = host.openFds
  opened : world.backend.isOpen = true → world.host.openFds = world.backend.fd :: host.openFds

theorem Balanced.held (balanced : Balanced host world) (isOpen : world.backend.isOpen = true) :
    world.host.Holds world.backend.fd :=
  ⟨by simpa [PosixBackend.isOpen] using isOpen, by simp [balanced.opened isOpen]⟩

/-- Everything that a step can do. -/
inductive Moved (step : Step) (before after : LinuxWorld) : Prop where
  | opened (closed : before.backend.isOpen = false) (moved : Opened (step.prepare before) after)
  | openFailed (closed : before.backend.isOpen = false) (moved : OpenFailed (step.prepare before) after)
  | reconfigured (config : SerialConfig) (operation : step.operation = .configure config)
      (isOpen : before.backend.isOpen = true) (moved : Reconfigured config (step.prepare before) after)
  | tornDown (isOpen : before.backend.isOpen = true) (moved : TornDown (step.prepare before) after)
  | idle (same : after = step.prepare before)

theorem exec_moved (balanced : Balanced host world) (step : Step) : Moved step world (exec world step) := by
  have fits : SavedFits (step.prepare world) := balanced.fits
  have runs : ∀ operation : Operation, step.operation = operation →
      Ends operation.perform (step.prepare world) (fun _ => Moved step world) (fun _ => Moved step world) →
      Moved step world (exec world step) := by
    rintro operation rfl ends
    exact ends.finalState
  cases isOpen : world.backend.isOpen with
  | true =>
    have prepared : (step.prepare world).backend.isOpen = true := isOpen
    have held : (step.prepare world).host.Holds (step.prepare world).backend.fd := balanced.held isOpen
    cases operation : step.operation with
    | openPort path config =>
      exact runs _ operation ((openPort_of_open prepared).mono (fun _ _ never => never.elim) (fun _ _ same => .idle same))
    | configure config =>
      exact runs _ operation ((configure_spec held fits).mono
        (fun _ _ moved => .reconfigured config operation isOpen moved)
        (fun _ _ moved => .reconfigured config operation isOpen moved))
    | close =>
      exact runs _ operation ((close_spec held fits).mono (fun _ _ moved => .tornDown isOpen moved)
        (fun _ _ raised => .tornDown isOpen raised.2))
  | false =>
    have prepared : (step.prepare world).backend.isOpen = false := isOpen
    have empty : (step.prepare world).backend.slots = {} := (balanced.closed isOpen).1
    cases operation : step.operation with
    | openPort path config =>
      exact runs _ operation ((openPort_spec prepared empty fits).mono (fun _ _ moved => .opened isOpen moved)
        (fun _ _ moved => .openFailed isOpen moved))
    | configure config =>
      exact runs _ operation ((configure_of_closed prepared).mono (fun _ _ never => never.elim)
        (fun _ _ same => .idle same))
    | close => exact runs _ operation ((close_of_closed prepared).mpr (Moved.idle rfl))

theorem balanced_start : Balanced host (start host) :=
  ⟨nofun, fun _ => ⟨rfl, rfl⟩, nofun⟩

theorem Balanced.exec (balanced : Balanced host world) (step : Step) : Balanced host (exec world step) := by
  generalize reached : Linux.exec world step = after
  cases reached ▸ exec_moved balanced step with
  | opened closed moved =>
    have isOpen : after.backend.isOpen = true := by
      simpa [PosixBackend.isOpen, moved.fd] using lowestUnused_nonneg _
    refine ⟨moved.snapshot.1 balanced.fits, fun no => by simp [isOpen] at no, fun _ => ?_⟩
    rw [moved.openFds, moved.fd]
    exact congrArg _ (balanced.closed closed).2
  | openFailed closed moved =>
    refine ⟨by simp [SavedFits, moved.slots], fun _ => ⟨moved.slots, ?_⟩, fun yes => by simp [moved.closed] at yes⟩
    exact moved.openFds.trans (balanced.closed closed).2
  | reconfigured config operation isOpen moved =>
    have same : after.backend.isOpen = world.backend.isOpen := by
      simp only [PosixBackend.isOpen, moved.descriptor.fd]
      rfl
    refine ⟨moved.fits, fun no => by simp [same, isOpen] at no, fun _ => ?_⟩
    rw [moved.descriptor.openFds, moved.descriptor.fd]
    exact balanced.opened isOpen
  | tornDown isOpen moved =>
    have closed : after.backend.isOpen = false := by
      rw [PosixBackend.isOpen, moved.fd]
      rfl
    refine ⟨by simp [SavedFits, moved.slots], fun _ => ⟨moved.slots, ?_⟩, fun yes => by simp [closed] at yes⟩
    rw [moved.openFds]
    exact (congrArg (·.erase world.backend.fd) (balanced.opened isOpen)).trans (List.erase_cons_head ..)
  | idle same =>
    subst same
    exact ⟨balanced.fits, balanced.closed, balanced.opened⟩

theorem execAll_concat (host : Host Device) (steps : List Step) (step : Step) :
    execAll host (steps ++ [step]) = exec (execAll host steps) step := by
  simp [execAll]

/-- A fact about the first world that every admitted step keeps holds after every
run of admitted steps. -/
theorem execAll_invariant (admitted : Step → Prop) (holds : LinuxWorld → Prop) (begins : holds (start host))
    (next : ∀ world step, admitted step → Balanced host world → holds world → holds (exec world step))
    {steps : List Step} (all : ∀ step ∈ steps, admitted step) :
    Balanced host (execAll host steps) ∧ holds (execAll host steps) := by
  induction steps using List.reverseRecOn with
  | nil => exact ⟨balanced_start, begins⟩
  | append_singleton taken step ih =>
    rw [execAll_concat]
    obtain ⟨balanced, reached⟩ := ih fun earlier member => all earlier (List.mem_append_left _ member)
    exact ⟨balanced.exec step, next _ step (all step (by simp)) balanced reached⟩

theorem execAll_balanced (host : Host Device) (steps : List Step) : Balanced host (execAll host steps) :=
  (execAll_invariant (fun _ => True) (fun _ => True) trivial (fun _ _ _ _ _ => trivial) fun _ _ => trivial).1

/-- A step that tears down leaves the backend closed, whichever way it ends. -/
theorem closed_of_tearsDown (balanced : Balanced host world) (tearsDown : step.TearsDown world) :
    (exec world step).backend.isOpen = false := by
  unfold Step.TearsDown at tearsDown
  unfold exec
  have fits : SavedFits (step.prepare world) := balanced.fits
  cases operation : step.operation with
  | openPort path config =>
    rw [operation] at tearsDown
    obtain ⟨closed, raises⟩ := tearsDown
    have prepared : (step.prepare world).backend.isOpen = false := closed
    have empty : (step.prepare world).backend.slots = {} := (balanced.closed closed).1
    exact ((openPort_spec prepared empty fits).mono (fun _ _ moved => moved)
      (fun _ _ moved => moved.closed)).finalState_of_raises raises
  | configure config =>
    rw [operation] at tearsDown
    exact tearsDown.elim
  | close =>
    have closes : ∀ after, TornDown (step.prepare world) after → after.backend.isOpen = false := by
      intro after moved
      rw [PosixBackend.isOpen, moved.fd]
      rfl
    cases isOpen : world.backend.isOpen with
    | true =>
      have held : (step.prepare world).host.Holds (step.prepare world).backend.fd := balanced.held isOpen
      exact ((close_spec held fits).mono (fun _ => closes) (fun _ after raised => closes after raised.2)).finalState
    | false =>
      have prepared : (step.prepare world).backend.isOpen = false := isOpen
      have ends : Ends Linux.close (step.prepare world) (fun _ after => after.backend.isOpen = false)
          (fun _ after => after.backend.isOpen = false) := (close_of_closed prepared).mpr prepared
      exact ends.finalState

section LowLatency

theorem exec_owesLowLatency (balanced : Balanced host world) (restores : RestoresLowLatency step.faults)
    {serial : Vector (BitVec 32) 32} {sysfs : Sysfs} (owes : OwesLowLatency serial sysfs world) :
    OwesLowLatency serial sysfs (exec world step) := by
  have prepared : OwesLowLatency serial sysfs (step.prepare world) := ⟨owes.serial, owes.sysfs, owes.timer⟩
  have reset : ∀ after : LinuxWorld, after.backend.slots = {} →
      after.host.device.serial = serial ∧ after.host.device.sysfs = sysfs → OwesLowLatency serial sysfs after := by
    intro after empty restored
    exact LowLatencyRestored.owes ⟨by rw [empty], by rw [empty], restored.1, restored.2⟩
  cases exec_moved balanced step with
  | opened _ moved => exact moved.owes serial sysfs prepared
  | openFailed _ moved => exact reset _ moved.slots (moved.lowLatency restores serial sysfs prepared)
  | reconfigured _ _ _ moved => exact moved.lowLatency.owes prepared
  | tornDown _ moved => exact reset _ moved.slots (moved.lowLatency restores serial sysfs prepared)
  | idle same => exact same ▸ prepared

theorem exec_onlyFlagsWritten (world : LinuxWorld) (step : Step) : OnlyFlagsWritten world (exec world step) := by
  have same : OnlyFlagsWritten world (step.prepare world) := onlyFlagsWritten_of_same rfl rfl
  have kept : Keeps OnlyFlagsWritten step.operation.perform := by
    cases step.operation with
    | openPort path config => exact keeps_openPort lifecycleMoves_onlyFlagsWritten
    | configure config => exact keeps_configure lifecycleMoves_onlyFlagsWritten
    | close => exact keeps_close lifecycleMoves_onlyFlagsWritten
  exact IsTrans.trans _ _ _ same (kept (step.prepare world)).finalState

/-- No run ever changes a slot of the serial struct other than the flags. -/
theorem execAll_onlyFlagsWritten (host : Host Device) (steps : List Step) :
    OnlyFlagsWritten (start host) (execAll host steps) :=
  (execAll_invariant (fun _ => True) (OnlyFlagsWritten (start host)) (Std.Refl.refl _)
    (fun world step _ _ reached => IsTrans.trans _ _ _ reached (exec_onlyFlagsWritten world step)) fun _ _ => trivial).2

/-- What a device and a process look like once the backend has let go of them. -/
structure LetGo (host : Host Device) (world : LinuxWorld) : Prop where
  isClosed : world.backend.isOpen = false
  slots : world.backend.slots = {}
  openFds : world.host.openFds = host.openFds
  serial : world.host.device.serial = host.device.serial
  sysfs : world.host.device.sysfs = host.device.sysfs

/-- Whatever was opened, reconfigured, refused and closed before: after a close,
or an open that fails at any step, the flags word and the FTDI timers are what
they were at first and every descriptor is closed. -/
theorem lowLatency_restored_after_teardown (host : Host Device) (steps : List Step) (last : Step)
    (restoring : ∀ step ∈ steps ++ [last], RestoresLowLatency step.faults)
    (tearsDown : last.TearsDown (execAll host steps)) :
    LetGo host (execAll host (steps ++ [last])) ∧ OnlyFlagsWritten (start host) (execAll host (steps ++ [last])) := by
  have begins : OwesLowLatency host.device.serial host.device.sysfs (start host) := ⟨rfl, rfl, nofun⟩
  obtain ⟨balanced, owes⟩ := execAll_invariant (fun step => RestoresLowLatency step.faults)
    (OwesLowLatency host.device.serial host.device.sysfs) begins
    (fun _ _ restores balanced owes => exec_owesLowLatency balanced restores owes) restoring
  have isClosed : (execAll host (steps ++ [last])).backend.isOpen = false := by
    rw [execAll_concat]
    exact closed_of_tearsDown (execAll_balanced host steps) tearsDown
  obtain ⟨slots, openFds⟩ := balanced.closed isClosed
  have restored := owes.restored (by rw [slots]) (by rw [slots])
  exact ⟨⟨isClosed, slots, openFds, restored.serial, restored.sysfs⟩, execAll_onlyFlagsWritten host _⟩

/-- The FTDI timer is tuned by the open and back at 16 ms after the close. -/
theorem lowLatency_restored_on_ftdi :
    LetGo ftdiHost (execAll ftdiHost
        ([⟨.openPort "/dev/ttyUSB0" { lowLatency := true }, noFaults⟩] ++ [⟨.close, noFaults⟩])) ∧
      OnlyFlagsWritten (start ftdiHost) (execAll ftdiHost
        ([⟨.openPort "/dev/ttyUSB0" { lowLatency := true }, noFaults⟩] ++ [⟨.close, noFaults⟩])) := by
  refine lowLatency_restored_after_teardown ftdiHost _ ⟨.close, noFaults⟩ (fun step member => ?_) trivial
  have unrefused : step.faults = noFaults := by
    rcases List.mem_append.mp member with opens | closes
    · rw [List.mem_singleton.mp opens]
    · rw [List.mem_singleton.mp closes]
  rw [unrefused]
  exact ⟨rfl, rfl, rfl⟩

end LowLatency

section RS485

/-- A reconfiguration drops the snapshot although the device keeps the state that
replaced the original. -/
def RefusedDrop (payload : Bytes) (world : LinuxWorld) (step : Step) : Prop :=
  ∃ config, step.operation = .configure config ∧ world.backend.isOpen = true ∧ TermiosAccepts config step.faults ∧
    DropRefused config (step.prepare world) ∧ world.host.device.rs485 ≠ payload

theorem exec_owesRs485 (balanced : Balanced host world) {payload : Bytes} (padded : ZeroPadded payload)
    (accepted : step.faults .tiocsrs485 .restore = none) (owes : OwesRs485 payload world)
    (kept : ¬RefusedDrop payload world step) : OwesRs485 payload (exec world step) := by
  have prepared : OwesRs485 payload (step.prepare world) := ⟨owes.saved, owes.unsaved, owes.padded⟩
  have reset : ∀ after : LinuxWorld, after.backend.slots = {} → after.host.device.rs485 = payload →
      OwesRs485 payload after := by
    intro after empty restored
    exact ⟨by simp [empty], fun _ => restored, restored ▸ padded⟩
  cases exec_moved balanced step with
  | opened _ moved => exact moved.snapshot.2 payload prepared
  | openFailed _ moved => exact reset _ moved.slots (moved.rs485 accepted payload prepared)
  | reconfigured config operation isOpen moved =>
    by_cases drop : TermiosAccepts config step.faults ∧ DropRefused config (step.prepare world)
    · have restored : world.host.device.rs485 = payload :=
        Decidable.byContradiction fun differs => kept ⟨config, operation, isOpen, drop.1, drop.2, differs⟩
      obtain ⟨unsaved, device⟩ := moved.dropped drop
      refine ⟨by simp [unsaved], fun _ => device.trans restored, ?_⟩
      rw [device]
      exact owes.padded
    · exact moved.rs485 payload prepared drop
  | tornDown _ moved => exact reset _ moved.slots (moved.rs485 accepted payload prepared)
  | idle same => exact same ▸ prepared

/-- A refused drop leaves no way back to the original. -/
theorem not_owesRs485_of_refusedDrop (balanced : Balanced host world) {payload : Bytes}
    (drop : RefusedDrop payload world step) : ¬OwesRs485 payload (exec world step) := by
  obtain ⟨config, operation, isOpen, accepts, refused, differs⟩ := drop
  have held : (step.prepare world).host.Holds (step.prepare world).backend.fd := balanced.held isOpen
  have fits : SavedFits (step.prepare world) := balanced.fits
  have moved : Reconfigured config (step.prepare world) (exec world step) := by
    unfold exec
    rw [operation]
    exact (configure_spec held fits).finalState
  obtain ⟨unsaved, device⟩ := moved.dropped ⟨accepts, refused⟩
  exact fun owes => differs (device.symm.trans (owes.unsaved unsaved))

/-- The original RS-485 state over a run: in every state reached the snapshot leads
back to it, and every teardown brings it back. -/
structure Rs485KeptOver (host : Host Device) (steps : List Step) : Prop where
  snapshot : ∀ taken rest, steps = taken ++ rest → OwesRs485 host.device.rs485 (execAll host taken)
  teardown : ∀ taken step rest, steps = taken ++ step :: rest → step.TearsDown (execAll host taken) →
    (execAll host (taken ++ [step])).host.device.rs485 = host.device.rs485

/-- The original is kept over exactly the runs in which no drop of the snapshot is
refused while the device differs from the original. -/
theorem rs485_kept_iff_no_refused_drop (host : Host Device) (padded : ZeroPadded host.device.rs485) (steps : List Step)
    (restoring : ∀ step ∈ steps, step.faults .tiocsrs485 .restore = none) :
    Rs485KeptOver host steps ↔
      ∀ taken step rest, steps = taken ++ step :: rest → ¬RefusedDrop host.device.rs485 (execAll host taken) step := by
  constructor
  · rintro kept taken step rest split drop
    refine not_owesRs485_of_refusedDrop (execAll_balanced host taken) drop ?_
    rw [← execAll_concat]
    exact kept.snapshot (taken ++ [step]) rest (by simp [split])
  · intro kept
    have owes : ∀ taken rest, steps = taken ++ rest → OwesRs485 host.device.rs485 (execAll host taken) := by
      intro taken
      induction taken using List.reverseRecOn with
      | nil => exact fun _ _ => ⟨nofun, fun _ => rfl, padded⟩
      | append_singleton taken step ih =>
        intro rest split
        have split' : steps = taken ++ step :: rest := by simpa using split
        rw [execAll_concat]
        exact exec_owesRs485 (execAll_balanced host taken) padded (restoring step (by simp [split']))
          (ih _ split') (kept taken step rest split')
    refine ⟨owes, fun taken step rest split tearsDown => ?_⟩
    have isClosed : (execAll host (taken ++ [step])).backend.isOpen = false := by
      rw [execAll_concat]
      exact closed_of_tearsDown (execAll_balanced host taken) tearsDown
    obtain ⟨empty, _⟩ := (execAll_balanced host (taken ++ [step])).closed isClosed
    exact (owes (taken ++ [step]) rest (by simp [split])).unsaved (by rw [empty])

/-- Enabling RS-485 and dropping it again keeps the original, when no call is refused. -/
theorem rs485_kept_when_accepted :
    Rs485KeptOver ftdiHost
      [⟨.openPort "/dev/ttyUSB0" { rs485 := some {} }, noFaults⟩, ⟨.configure {}, noFaults⟩, ⟨.close, noFaults⟩] := by
  have padded : ZeroPadded ftdiHost.device.rs485 := ⟨rfl, rfl⟩
  have unrefused : ∀ step ∈ [(⟨.openPort "/dev/ttyUSB0" { rs485 := some {} }, noFaults⟩ : Step),
      ⟨.configure {}, noFaults⟩, ⟨.close, noFaults⟩], step.faults = noFaults := by simp
  refine (rs485_kept_iff_no_refused_drop ftdiHost padded _ fun step member => ?_).mpr fun taken step rest split drop => ?_
  · rw [unrefused step member]
    rfl
  · obtain ⟨_, _, _, _, refused, _⟩ := drop
    have clean := unrefused step (by simp [split])
    exact refused.2.2 (congrFun (congrFun clean .tiocsrs485) .apply)

/-- `TIOCSRS485` is refused while it gives the snapshot back. -/
def refusesRs485 : Faults := fun call phase =>
  if call = .tiocsrs485 ∧ phase = .apply then some ⟨.eio, "Input/output error", none⟩ else none

def refusedDropRun : List Step :=
  [⟨.openPort "/dev/ttyUSB0" { SerialConfig.defaults with rs485 := some .defaults }, noFaults⟩,
    ⟨.configure .defaults, refusesRs485⟩, ⟨.close, noFaults⟩]

/-- The drop is refused once and every call of the close is accepted, yet the device
stays in RS-485 mode. -/
theorem refused_drop_loses_original :
    ZeroPadded ftdiHost.device.rs485 ∧ (∀ step ∈ refusedDropRun, step.faults .tiocsrs485 .restore = none) ∧
      (execAll ftdiHost refusedDropRun).backend.isOpen = false ∧
      (execAll ftdiHost refusedDropRun).host.device.rs485 ≠ ftdiHost.device.rs485 :=
  ⟨⟨rfl, rfl⟩, by decide +kernel, by decide +kernel, by decide +kernel⟩

end RS485

end Anyserial.Linux
