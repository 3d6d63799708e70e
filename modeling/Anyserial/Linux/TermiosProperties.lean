import Anyserial.Linux.Backend
import Anyserial.Posix.HostProperties
import Anyserial.Posix.TermiosApplyProperties

/-! When the Linux backend can replace the terminal attributes of an open device,
on the standard path and on the custom-rate path. -/
set_option autoImplicit false

namespace Anyserial.Linux

open Kit Posix

/-- The world with other terminal attributes on the device. -/
def withTermios (world : LinuxWorld) (termios : KernelTermios) : LinuxWorld :=
  { world with host := { world.host with device := { world.host.device with termios := termios } } }

/-- The configuration is representable and neither call of its path is refused. -/
def TermiosAccepts (config : SerialConfig) (faults : Faults) : Prop :=
  linuxTermios.Representable config ∧
    if linuxTermios.isStandardBaud config.baudrate then faults .tcgetattr .apply = none ∧ faults .tcsetattr .apply = none
    else faults .tcgets2 .apply = none ∧ faults .tcsets2 .apply = none ∧ config.baudrate < 2 ^ 32

/-- What `TCGETS2` reports of the device. -/
def currentTermios2 (termios : KernelTermios) : Termios2Attrs where
  iflag := termios.iflag.toNat
  oflag := termios.oflag.toNat
  cflag := termios.cflag.toNat
  lflag := termios.lflag.toNat
  line := termios.line.toNat
  cc := termios.cc.toList
  ispeed := termios.ispeed.toNat
  ospeed := termios.ospeed.toNat

/-- The attributes that `config` asks for in place of those the device has. -/
def requestedTermios (config : SerialConfig) (device : Device) : Except PyExc KernelTermios :=
  if linuxTermios.isStandardBaud config.baudrate then do
    let attrs ← linuxTermios.requested (TermiosDevice.tcgetattr device) config
    pure (TermiosDevice.tcsetattr attrs device).termios
  else do
    let attrs ← requestedTermios2 (currentTermios2 device.termios) config
    .ofPayload <$> attrs.pack

theorem Termios2Attrs.unpack_toPayload (termios : KernelTermios) :
    unpack termios.toPayload = .ok (currentTermios2 termios) := by
  have size : termios.toPayload.length = termios2Size := by
    simp [KernelTermios.toPayload, termios2Size, nccs2]
  have word : ∀ value : BitVec 32, unpackU32 (packU32 value.toNat) = value.toNat :=
    fun value => unpackU32_packU32 value.isLt
  have take : ∀ value, (packU32 value).take 4 = packU32 value := fun _ => rfl
  have drop : ∀ value n, 4 ≤ n → (packU32 value).drop n = [] := fun _ _ long => List.drop_eq_nil_of_le long
  have rest : termios.cc.toList.drop 23 = [] := List.drop_eq_nil_of_le (by simp [nccs2])
  rw [unpack, if_neg (by simp [size])]
  simp [KernelTermios.toPayload, currentTermios2, List.drop_append, List.take_append, nccs2, word, take, drop, rest]

theorem Termios2Attrs.pack_fits {attrs : Termios2Attrs} (fits : attrs.Fits) : ∃ payload, attrs.pack = .ok payload :=
  ⟨_, if_pos fits⟩

/-- The chain of the custom path is the one of the standard path. -/
theorem requestedTermios2_eq_applyAll (current : Termios2Attrs) (config : SerialConfig) :
    requestedTermios2 current config = (do
      let attrs ← linuxTermios.applyAll
        { iflag := current.iflag
          oflag := current.oflag
          cflag := current.cflag
          lflag := current.lflag
          ispeed := 0
          ospeed := 0
          cc := current.cc.map fun byte => CcValue.int byte.toNat } config
      pure
        { iflag := attrs.iflag
          oflag := attrs.oflag
          cflag := markBother attrs.cflag
          lflag := attrs.lflag
          line := current.line
          cc := ccBytes attrs.cc
          ispeed := config.baudrate
          ospeed := config.baudrate }) := by
  simp only [requestedTermios2, TermiosModule.applyAll, bind_assoc, pure_bind]

/-- The flag words of an accepted request fit the struct, so only the rate can be too large. -/
theorem requestedTermios2_fits_iff {termios : KernelTermios} {config : SerialConfig} {updated : Termios2Attrs}
    (built : requestedTermios2 (currentTermios2 termios) config = .ok updated) :
    updated.Fits ↔ config.baudrate < 2 ^ 32 := by
  have masks : ∀ mask ∈ linuxTermios.settable, mask < 2 ^ 32 := by decide
  rw [requestedTermios2_eq_applyAll] at built
  simp only [bind, Except.bind] at built
  split at built
  · cases built
  · rename_i attrs accepted
    cases built
    have fits := (TermiosModule.applyAll_builds accepted).wordsFit 32 masks
      ⟨BitVec.isLt _, BitVec.isLt _, BitVec.isLt _, BitVec.isLt _⟩
    have bothered : markBother attrs.cflag < 2 ^ 32 := Nat.or_lt_two_pow (clearBits_lt fits.cflag) (by decide)
    have line : termios.line.toNat < 2 ^ 8 := BitVec.isLt _
    exact ⟨fun all => all.2.2.2.2.2.2, fun rate => ⟨fits.iflag, fits.oflag, bothered, fits.lflag, line, rate, rate⟩⟩

theorem requestedTermios2_rejects (termios : KernelTermios) (config : SerialConfig) :
    (linuxTermios.Representable config ∧ ∃ updated, requestedTermios2 (currentTermios2 termios) config = .ok updated) ∨
      (¬linuxTermios.Representable config ∧
        ∃ message, requestedTermios2 (currentTermios2 termios) config = .error (unsupportedFeature message)) := by
  rw [requestedTermios2_eq_applyAll]
  rcases linuxTermios.applyAll_rejects _ config with ⟨fine, attrs, built⟩ | ⟨bad, message, error⟩
  · exact .inl ⟨fine, _, by rw [built]; rfl⟩
  · exact .inr ⟨bad, message, by rw [error]; rfl⟩

theorem requested_rejects (attrs : TermiosAttrs) {config : SerialConfig}
    (standard : linuxTermios.isStandardBaud config.baudrate = true) :
    (linuxTermios.Representable config ∧
        ∃ updated, linuxTermios.requested attrs config = .ok updated ∧ updated.ispeed < 2 ^ 63 ∧ updated.ospeed < 2 ^ 63) ∨
      (¬linuxTermios.Representable config ∧
        ∃ message, linuxTermios.requested attrs config = .error (unsupportedFeature message)) := by
  have small : ∀ entry ∈ linuxTermios.standardBaudRates, entry.2 < 2 ^ 63 := by decide
  cases found : linuxTermios.standardBaudRates.lookup config.baudrate with
  | none => simp [TermiosModule.isStandardBaud, found] at standard
  | some speed =>
    have speedFits : speed < 2 ^ 63 := by
      obtain ⟨first, last, split, _⟩ := List.lookup_eq_some_iff.mp found
      exact small (config.baudrate, speed) (by simp [split])
    have known : linuxTermios.baudrateToSpeed config.baudrate = .ok speed := by
      simp only [TermiosModule.baudrateToSpeed, found]
    unfold TermiosModule.requested
    rw [known]
    rcases linuxTermios.applyAll_rejects { attrs with ispeed := speed, ospeed := speed }
      config with ⟨fine, updated, built⟩ | ⟨bad, message, error⟩
    · have builds := TermiosModule.applyAll_builds built
      exact .inl ⟨fine, updated, built, by rwa [builds.ispeed], by rwa [builds.ospeed]⟩
    · exact .inr ⟨bad, message, error⟩

variable {world : LinuxWorld} {fd : Int} {config : SerialConfig}

/-- A standard rate: the attributes are replaced as a whole or not at all. -/
theorem applyStandard_spec (held : world.host.Holds fd)
    (standard : linuxTermios.isStandardBaud config.baudrate = true) :
    Ends (Posix.applyConfigToFd linuxTermios fd config) world
      (fun _ after => TermiosAccepts config world.host.faults ∧
        ∃ termios, requestedTermios config world.host.device = .ok termios ∧ after = withTermios world termios)
      (fun _ after => ¬TermiosAccepts config world.host.faults ∧ after = world) := by
  simp only [TermiosAccepts, requestedTermios, standard, if_true, Posix.applyConfigToFd, tcgetattr, tcsetattr,
    Int.not_lt.mpr held.1, if_false, ends_bind, ends_map, ends_termiosCall held, ends_getDevice, ends_liftExcept,
    ends_ite, ends_throw, ends_modifyDevice]
  refine ⟨fun err refused => ⟨fun accepts => ?_, trivial⟩, fun read => ?_⟩
  · exact absurd accepts.2.1 (by simp [refused])
  rcases requested_rejects (TermiosDevice.tcgetattr world.host.device) standard with
    ⟨fine, updated, built, ispeed, ospeed⟩ | ⟨bad, message, error⟩
  · refine ⟨fun value same => ?_, fun exc failed => absurd (built.symm.trans failed) (by simp)⟩
    cases built.symm.trans same
    refine ⟨fun large => by omega, fun _ => ⟨fun err refused => ⟨fun accepts => ?_, trivial⟩, fun written => ?_⟩⟩
    · exact absurd accepts.2.2 (by simp [refused])
    · exact ⟨⟨fine, read, written⟩, _, by rw [built]; rfl, rfl⟩
  · exact ⟨fun value same => absurd (error.symm.trans same) (by simp), fun exc _ => ⟨fun accepts => bad accepts.1, trivial⟩⟩

/-- A custom rate: the attributes are replaced as a whole or not at all. -/
theorem applyCustomBaudConfig_spec (held : world.host.Holds fd)
    (custom : linuxTermios.isStandardBaud config.baudrate = false) :
    Ends (applyCustomBaudConfig fd config) world
      (fun _ after => TermiosAccepts config world.host.faults ∧
        ∃ termios, requestedTermios config world.host.device = .ok termios ∧ after = withTermios world termios)
      (fun _ after => ¬TermiosAccepts config world.host.faults ∧ after = world) := by
  simp only [TermiosAccepts, requestedTermios, custom, Bool.false_eq_true, if_false, applyCustomBaudConfig,
    readTermios2, writeTermios2, Termios2Attrs.unpack_toPayload, ends_bind, ends_fcntlCall held, ends_getDevice,
    ends_liftExcept, ends_modifyDevice]
  refine ⟨fun err refused => ⟨fun accepts => ?_, trivial⟩, fun read => ⟨fun current same => ?_, by simp⟩⟩
  · exact absurd accepts.2.1 (by simp [refused])
  cases same
  rcases requestedTermios2_rejects world.host.device.termios config with
    ⟨fine, updated, built⟩ | ⟨bad, message, error⟩
  · have fits := requestedTermios2_fits_iff built
    refine ⟨fun value same => ?_, fun exc failed => absurd (built.symm.trans failed) (by simp)⟩
    cases built.symm.trans same
    refine ⟨fun payload packed => ⟨fun err refused => ⟨fun accepts => ?_, trivial⟩, fun written => ?_⟩,
      fun exc tooLarge => ⟨fun accepts => ?_, trivial⟩⟩
    · exact absurd accepts.2.2.1 (by simp [refused])
    · have rate : config.baudrate < 2 ^ 32 := by
        refine fits.mp (Decidable.byContradiction fun wide => ?_)
        rw [Termios2Attrs.pack, if_neg wide] at packed
        cases packed
      exact ⟨⟨fine, read, written, rate⟩, _, by rw [built]; simp [bind, Except.bind, packed, Functor.map, Except.map], rfl⟩
    · obtain ⟨payload, packed⟩ := Termios2Attrs.pack_fits (fits.mpr accepts.2.2.2)
      cases packed.symm.trans tooLarge
  · exact ⟨fun value same => absurd (error.symm.trans same) (by simp), fun exc _ => ⟨fun accepts => bad accepts.1, trivial⟩⟩

/-- The attributes are replaced as a whole or not at all, whatever the rate. -/
theorem applyConfigToFd_spec (held : world.host.Holds fd) :
    Ends (applyConfigToFd fd config) world
      (fun _ after => TermiosAccepts config world.host.faults ∧
        ∃ termios, requestedTermios config world.host.device = .ok termios ∧ after = withTermios world termios)
      (fun _ after => ¬TermiosAccepts config world.host.faults ∧ after = world) := by
  rw [applyConfigToFd, ends_ite]
  exact ⟨applyStandard_spec held, fun custom => applyCustomBaudConfig_spec held (by simpa using custom)⟩

end Anyserial.Linux
