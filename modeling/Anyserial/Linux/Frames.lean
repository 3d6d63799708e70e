import Anyserial.Linux.Backend
import Anyserial.Posix.BackendProperties

/-! What each helper of the Linux backend leaves alone. A world with one part
erased is a view of everything else, and a helper keeps the view without its part. -/
set_option autoImplicit false

namespace Anyserial.Linux

open Kit Posix

/-- Everything but the warnings, the low-latency slots, the serial struct and sysfs. -/
def eraseLowLatency (world : LinuxWorld) : LinuxWorld where
  backend := { world.backend with slots := { world.backend.slots with savedAsyncFlags := none, ftdiTimer := none } }
  host := { world.host with
    warnings := []
    device := { world.host.device with serial := .replicate 32 0, serialWrites := [], sysfs := fun _ => none } }

/-- Everything but the warnings, the RS-485 slot and the RS-485 state of the device. -/
def eraseRs485 (world : LinuxWorld) : LinuxWorld where
  backend := { world.backend with slots := { world.backend.slots with savedRs485 := none } }
  host := { world.host with warnings := [], device := { world.host.device with rs485 := [] } }

/-- Everything but the terminal attributes of the device. -/
def eraseTermios (world : LinuxWorld) : LinuxWorld :=
  eraseDevice (fun device => { device with termios := .zero }) world

theorem keeps_handleUnsupported {related : LinuxWorld → LinuxWorld → Prop} [Std.Refl related]
    (step : ∀ (world : LinuxWorld) warnings, related world { world with host := { world.host with warnings := warnings } })
    (exc : PyExc) (policy : UnsupportedPolicy) (feature : String) :
    Keeps related (handleUnsupported exc policy feature) := by
  cases policy with
  | raise => exact .throw _
  | warn => exact Keeps.modify fun world => step world _
  | ignore => exact .pure ()

section LowLatency

/-- The world after `TIOCSSERIAL` accepted the struct it shows with another flags word. -/
def withFlags (world : LinuxWorld) (flags : BitVec 32) : LinuxWorld :=
  let buf := world.host.device.serial.set flagsIndex flags flagsIndex_lt
  { world with
    host := { world.host with
      device := { world.host.device with serial := buf, serialWrites := buf :: world.host.device.serialWrites } } }

/-- The moves that the low-latency helpers are made of. -/
structure LowLatencyMoves (related : LinuxWorld → LinuxWorld → Prop) : Prop where
  flagsSlot : ∀ (world : LinuxWorld) saved, related world
    { world with backend := { world.backend with slots := { world.backend.slots with savedAsyncFlags := saved } } }
  timerSlot : ∀ (world : LinuxWorld) saved, related world
    { world with backend := { world.backend with slots := { world.backend.slots with ftdiTimer := saved } } }
  warnings : ∀ (world : LinuxWorld) warnings, related world { world with host := { world.host with warnings := warnings } }
  serial : ∀ (world : LinuxWorld) flags, related world (withFlags world flags)
  sysfs : ∀ (world : LinuxWorld) sysfs, related world
    { world with host := { world.host with device := { world.host.device with sysfs := sysfs } } }

variable {related : LinuxWorld → LinuxWorld → Prop} [Std.Refl related]

theorem keeps_writeSerialFlags (moves : LowLatencyMoves related) {fd : Int} {flags : BitVec 32} {phase : Phase} :
    Keeps related (writeSerialFlags fd flags phase) := by
  intro world
  have same : related world world := Std.Refl.refl world
  simp only [writeSerialFlags, ends_bind, ends_getDevice, ends_modifyDevice]
  refine ends_fcntlCall_any (ends_fcntlCall_any ?_ fun _ => same) fun _ => same
  exact moves.serial world flags

variable [IsTrans LinuxWorld related]

theorem keeps_enableLowLatency (moves : LowLatencyMoves related) {fd : Int} : Keeps related (enableLowLatency fd) :=
  .bind (keeps_fcntlCall.bind fun _ => keeps_getDevice.bind fun _ => .pure _) fun original =>
    .ite (fun _ => .pure original) fun _ => (keeps_writeSerialFlags moves).bind fun _ => .pure original

theorem keeps_writeLatencyTimer (moves : LowLatencyMoves related) {path : String} {valueMs : Int} {phase : Phase} :
    Keeps related (writeLatencyTimer path valueMs phase) :=
  keeps_getHost.bind fun _ => (keeps_refuse _).bind fun _ =>
    .ite (fun _ => Keeps.modify fun world => moves.sysfs world _) fun _ => .throw _

theorem keeps_tuneFtdiLatencyTimer (moves : LowLatencyMoves related) {devicePath : String} :
    Keeps related (tuneFtdiLatencyTimer devicePath) := by
  refine .bind (keeps_getHost.bind fun host => ?_) fun path => ?_
  · dsimp only
    split
    · exact .ite (fun _ => .pure _) fun _ => .pure _
    · exact .pure _
  · cases path with
    | none => exact .pure none
    | some path =>
      refine .bind (keeps_getHost.bind fun _ => (keeps_refuse _).bind fun _ => ?_) fun original => ?_
      · split
        · exact .pure _
        · exact .throw _
        · exact .throw _
      · exact (keeps_whenever (keeps_writeLatencyTimer moves)).bind fun _ => .pure _

theorem keeps_enableFlags (moves : LowLatencyMoves related) {policy : UnsupportedPolicy} :
    Keeps related (enableFlags policy) := by
  have slot : ∀ saved, Keeps related (modifySlots fun slots => { slots with savedAsyncFlags := saved }) :=
    fun saved => Keeps.modify fun world => moves.flagsSlot world saved
  refine keeps_getBackend.bind fun backend => keeps_exceptOSError ?_ fun exc => ?_
  · exact (keeps_enableLowLatency moves).bind fun original => slot (some original)
  · exact (keeps_handleUnsupported moves.warnings exc policy _).bind fun _ => slot none

theorem keeps_tuneTimer (moves : LowLatencyMoves related) {policy : UnsupportedPolicy} :
    Keeps related (tuneTimer policy) := by
  have slot : ∀ saved, Keeps related (modifySlots fun slots => { slots with ftdiTimer := saved }) :=
    fun saved => Keeps.modify fun world => moves.timerSlot world saved
  refine keeps_getBackend.bind fun backend => keeps_exceptOSError ?_ fun exc => ?_
  · exact (keeps_tuneFtdiLatencyTimer moves).bind slot
  · exact (keeps_handleUnsupported moves.warnings exc policy _).bind fun _ => slot none

theorem keeps_enableLowLatencyMode (moves : LowLatencyMoves related) {policy : UnsupportedPolicy} :
    Keeps related (enableLowLatencyMode policy) :=
  (keeps_enableFlags moves).bind fun _ => keeps_tuneTimer moves

theorem keeps_restoreFlags (moves : LowLatencyMoves related) {fd : Int} : Keeps related (restoreFlags fd) := by
  refine keeps_getBackend.bind fun backend => ?_
  split
  · refine .bind (Keeps.modify fun world => moves.flagsSlot world none) fun _ => ?_
    exact keeps_suppressOSError (keeps_writeSerialFlags moves)
  · exact .pure ()

theorem keeps_restoreTimer (moves : LowLatencyMoves related) : Keeps related restoreTimer := by
  refine keeps_getBackend.bind fun backend => ?_
  split
  · refine .bind (Keeps.modify fun world => moves.timerSlot world none) fun _ => ?_
    exact keeps_suppressOSError (keeps_writeLatencyTimer moves)
  · exact .pure ()

theorem keeps_restoreLowLatency (moves : LowLatencyMoves related) {fd : Int} : Keeps related (restoreLowLatency fd) :=
  (keeps_restoreFlags moves).bind fun _ => keeps_restoreTimer moves

theorem lowLatencyMoves_erase : LowLatencyMoves (SameView eraseLowLatency) :=
  ⟨fun _ _ => rfl, fun _ _ => rfl, fun _ _ => rfl, fun _ _ => rfl, fun _ _ => rfl⟩

/-- Two device states agree on every slot of the serial struct but the flags. -/
def SameButFlags (before after : Vector (BitVec 32) 32) : Prop :=
  ∀ index (inside : index < 32), index ≠ flagsIndex → after.get ⟨index, inside⟩ = before.get ⟨index, inside⟩

/-- Nothing but the flags slot of the serial struct changes: not in the device,
and not in any buffer that `TIOCSSERIAL` accepts on the way. -/
structure OnlyFlagsWritten (before after : LinuxWorld) : Prop where
  serial : SameButFlags before.host.device.serial after.host.device.serial
  writes : ∀ buffer ∈ after.host.device.serialWrites,
    buffer ∈ before.host.device.serialWrites ∨ SameButFlags before.host.device.serial buffer

instance : Std.Refl OnlyFlagsWritten := ⟨fun _ => ⟨fun _ _ _ => rfl, fun _ => .inl⟩⟩

instance : IsTrans LinuxWorld OnlyFlagsWritten where
  trans before middle after first second := by
    refine ⟨fun index inside other => ?_, fun buffer member => ?_⟩
    · exact (second.serial index inside other).trans (first.serial index inside other)
    · rcases second.writes buffer member with earlier | fresh
      · exact first.writes buffer earlier
      · exact .inr fun index inside other => (fresh index inside other).trans (first.serial index inside other)

theorem onlyFlagsWritten_of_same {before after : LinuxWorld}
    (serial : after.host.device.serial = before.host.device.serial)
    (writes : after.host.device.serialWrites = before.host.device.serialWrites) : OnlyFlagsWritten before after :=
  ⟨fun _ _ _ => by rw [serial], fun _ member => .inl (writes ▸ member)⟩

theorem sameButFlags_set (serial : Vector (BitVec 32) 32) (flags : BitVec 32) :
    SameButFlags serial (serial.set flagsIndex flags) := by
  intro index inside other
  exact Vector.getElem_set_ne (by decide) inside (Ne.symm other)

theorem lowLatencyMoves_onlyFlagsWritten : LowLatencyMoves OnlyFlagsWritten where
  flagsSlot _ _ := onlyFlagsWritten_of_same rfl rfl
  timerSlot _ _ := onlyFlagsWritten_of_same rfl rfl
  warnings _ _ := onlyFlagsWritten_of_same rfl rfl
  serial world flags := by
    have changed := sameButFlags_set world.host.device.serial flags
    refine ⟨changed, fun buffer member => ?_⟩
    rcases List.mem_cons.mp member with rfl | earlier
    · exact .inr changed
    · exact .inl earlier
  sysfs _ _ := onlyFlagsWritten_of_same rfl rfl

end LowLatency

section RS485

abbrev KeepsButRs485 {α : Type} (body : Py LinuxWorld α) : Prop := Keeps (SameView eraseRs485) body

theorem keepsButRs485_modifySlots {f : Slots → Slots}
    (step : ∀ slots : Slots, { f slots with savedRs485 := none } = { slots with savedRs485 := none }) :
    KeepsButRs485 (modifySlots f) :=
  Keeps.modify fun world => by simp only [SameView, eraseRs485, step]

theorem keepsButRs485_writeRs485 {fd : Int} {state : RS485State} {phase : Phase} :
    KeepsButRs485 (writeRs485 fd state phase) :=
  Keeps.bind (.liftExcept _) fun _ => keeps_fcntlCall.bind fun _ => Keeps.modify fun _ => rfl

theorem keepsButRs485_applyRs485 {config : RS485Config} {policy : UnsupportedPolicy} :
    KeepsButRs485 (applyRs485 config policy) := by
  have unsupported : ∀ exc feature, KeepsButRs485 (handleUnsupported exc policy feature) :=
    fun exc feature => keeps_handleUnsupported (fun _ _ => rfl) exc policy feature
  refine keeps_getBackend.bind fun backend => .bind (keeps_exceptOSError ?_ ?_) fun current => ?_
  · exact Keeps.map _ (keeps_fcntlCall.bind fun _ => keeps_getDevice.bind fun _ => .liftExcept _)
  · exact fun exc => (unsupported exc _).bind fun _ => .pure none
  · cases current with
    | none => exact .pure ()
    | some current =>
      refine .bind (keepsButRs485_modifySlots ?_) fun _ => Keeps.bind (.liftExcept _) fun merged => ?_
      · exact fun _ => rfl
      · exact keeps_exceptOSError keepsButRs485_writeRs485 fun exc => unsupported exc _

theorem keepsButRs485_restoreRs485 {fd : Int} : KeepsButRs485 (restoreRs485 fd) := by
  refine keeps_getBackend.bind fun backend => ?_
  split
  · exact .pure ()
  · refine .bind (keepsButRs485_modifySlots ?_) fun _ => keeps_suppressOSError keepsButRs485_writeRs485
    exact fun _ => rfl

theorem keepsButRs485_configureRs485 {config : SerialConfig} : KeepsButRs485 (configureRs485 config) := by
  refine keeps_getBackend.bind fun backend => ?_
  split
  · exact keepsButRs485_applyRs485
  · exact (keeps_suppressOSError keepsButRs485_writeRs485).bind fun _ => keepsButRs485_modifySlots fun _ => rfl
  · exact .pure ()

end RS485

section Termios

abbrev KeepsButTermios {α : Type} (body : Py LinuxWorld α) : Prop := Keeps (SameView eraseTermios) body

theorem keepsButTermios_applyConfigToFd {fd : Int} {config : SerialConfig} :
    KeepsButTermios (applyConfigToFd fd config) := by
  refine .ite (fun _ => ?_) fun _ => ?_
  · refine .bind (keeps_termiosCall.bind fun _ => keeps_getDevice.map _) fun current => ?_
    refine Keeps.bind (.liftExcept _) fun attrs => ?_
    exact .ite (fun _ => .throw _) fun _ => .ite (fun _ => .throw _) fun _ =>
      keeps_termiosCall.bind fun _ => Keeps.modify fun _ => rfl
  · refine .bind (keeps_fcntlCall.bind fun _ => keeps_getDevice.bind fun _ => .liftExcept _) fun current => ?_
    refine Keeps.bind (.liftExcept _) fun attrs => Keeps.bind (.liftExcept _) fun payload => ?_
    exact keeps_fcntlCall.bind fun _ => Keeps.modify fun _ => rfl

end Termios

end Anyserial.Linux
