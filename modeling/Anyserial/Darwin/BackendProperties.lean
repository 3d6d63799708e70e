import Anyserial.Darwin.Backend
import Anyserial.Posix.CommitProperties
import Anyserial.Posix.PipelineProperties
import Anyserial.Posix.UnsupportedProperties

/-! Reconfiguring on Darwin: a custom rate commits the placeholder speed before the
ioctl that may still be refused. -/
set_option autoImplicit false

namespace Anyserial.Darwin

open Kit Posix

variable {world : DarwinWorld} {fd : Int} {config : SerialConfig}

theorem darwinTermios_disjointFields : darwinTermios.DisjointFields := by
  constructor
  case control => intro first second; cases first <;> cases second <;> decide
  case input => intro first second; cases first <;> cases second <;> decide
  case sizeWithin => intro size; cases size <;> decide
  case sizesDiffer => intro first second; cases first <;> cases second <;> decide
  all_goals decide

/-- The attributes that `config` asks for in place of `current`. -/
def requestedAttrs (config : SerialConfig) (current : TermiosAttrs) : Except PyExc TermiosAttrs :=
  if darwinTermios.isStandardBaud config.baudrate then darwinTermios.requested current config
  else atSpeed darwinTermios placeholderSpeed config current

theorem applyCustomBaudConfig_eq_commit : applyCustomBaudConfig fd config = (do
    commit fd (atSpeed darwinTermios placeholderSpeed config)
    setIossiospeed fd config.baudrate) := by
  have request : atSpeed darwinTermios placeholderSpeed config = fun current =>
      darwinTermios.applyAll { current with ispeed := placeholderSpeed, ospeed := placeholderSpeed } config := rfl
  simp only [commit, bind_assoc, request, ← liftExcept_applyAll]
  rfl

theorem standard_speed {rate : Nat} (standard : darwinTermios.isStandardBaud rate = true) :
    darwinTermios.baudrateToSpeed rate = .ok rate ∧ rate < 2 ^ 63 := by
  have same : ∀ entry ∈ darwinTermios.standardBaudRates, entry.2 = entry.1 ∧ entry.1 < 2 ^ 63 := by decide
  cases found : darwinTermios.standardBaudRates.lookup rate with
  | none => simp [TermiosModule.isStandardBaud, found] at standard
  | some speed =>
    obtain ⟨first, last, split, _⟩ := List.lookup_eq_some_iff.mp found
    obtain ⟨equal, small⟩ := same (rate, speed) (by simp [split])
    simp only [TermiosModule.baudrateToSpeed, found]
    exact ⟨congrArg Except.ok equal, small⟩

/-- What is asked for decodes to the configuration, and its speed is the standard
rate or the placeholder. -/
theorem requestedAttrs_decodes {current attrs : TermiosAttrs} (built : requestedAttrs config current = .ok attrs) :
    darwinTermios.decode attrs = some (lineSettings config) ∧
      attrs.ospeed = if darwinTermios.isStandardBaud config.baudrate then config.baudrate else placeholderSpeed := by
  have decodes : ∀ {start}, darwinTermios.applyAll start config = .ok attrs →
      darwinTermios.decode attrs = some (lineSettings config) ∧ attrs.ospeed = start.ospeed := by
    intro start accepted
    rcases TermiosModule.applyAll_rejects darwinTermios start config with ⟨fine, _⟩ | ⟨_, message, rejected⟩
    · cases (TermiosModule.applyAll_eq fine).symm.trans accepted
      exact ⟨TermiosModule.decode_built darwinTermios_disjointFields fine, rfl⟩
    · cases rejected.symm.trans accepted
  unfold requestedAttrs at built
  cases standard : darwinTermios.isStandardBaud config.baudrate with
  | false =>
    simp only [standard, Bool.false_eq_true, if_false] at built ⊢
    exact decodes built
  | true =>
    simp only [standard, if_true, TermiosModule.requested, (standard_speed standard).1] at built ⊢
    exact decodes built

/-- The override is issued and accepted. -/
def Overrides (world : DarwinWorld) (fd : Int) (config : SerialConfig) : Prop :=
  world.host.Admits fd .iossiospeed ∧ config.baudrate < 2 ^ 64

theorem setIossiospeed_spec : Ends (setIossiospeed fd config.baudrate) world
    (fun _ after => Overrides world fd config ∧
      after = { world with host := { world.host with
        device := { world.host.device with lineSpeed := config.baudrate } } })
    (fun _ after => ¬Overrides world fd config ∧ after = world) := by
  rw [setIossiospeed, ends_ite]
  constructor
  · intro large
    exact ⟨fun overrides => absurd overrides.2 (Nat.not_lt.mpr large), rfl⟩
  · intro small
    rw [ends_bind]
    refine ends_fcntlCall_admits (fun admits => ?_) fun refused exc => ⟨fun overrides => refused overrides.1, rfl⟩
    exact ⟨⟨admits, Nat.lt_of_not_le small⟩, rfl⟩

/-- The placeholder is committed and the override that follows fails. -/
structure HalfWay (world : DarwinWorld) (fd : Int) (config : SerialConfig) (attrs : TermiosAttrs) : Prop where
  custom : darwinTermios.isStandardBaud config.baudrate = false
  commits : Commits world fd (requestedAttrs config) attrs
  refused : ¬Overrides world fd config

/-- The world with other attributes, running at the rate of the configuration. -/
def configured (world : DarwinWorld) (config : SerialConfig) (attrs : TermiosAttrs) : DarwinWorld :=
  { world with host := { world.host with device := ⟨attrs, config.baudrate⟩ } }

theorem applyConfigToFd_spec : Ends (applyConfigToFd fd config) world
    (fun _ after => (∀ attrs, ¬HalfWay world fd config attrs) ∧
      ∃ attrs, Commits world fd (requestedAttrs config) attrs ∧ after = configured world config attrs)
    (fun _ after => ((∀ attrs, ¬HalfWay world fd config attrs) ∧ after = world) ∨
      ∃ attrs, HalfWay world fd config attrs ∧ after = withAttrs world attrs) := by
  cases standard : darwinTermios.isStandardBaud config.baudrate with
  | true =>
    have notHalf : ∀ attrs, ¬HalfWay world fd config attrs := fun attrs half => by simp [half.custom] at standard
    have request : requestedAttrs config = (darwinTermios.requested · config) := by
      funext current
      simp only [requestedAttrs, standard, if_true]
    simp only [applyConfigToFd, standard, if_true, applyConfigToFd_eq_commit, ← request]
    refine commit_spec.mono (fun _ after committed => ?_) fun exc after ended => ?_
    · obtain ⟨attrs, commits, reached⟩ := committed
      have speed := (requestedAttrs_decodes commits.built).2
      simp only [standard, if_true] at speed
      refine ⟨notHalf, attrs, commits, ?_⟩
      rw [reached, configured, ← speed]
      rfl
    · exact .inl ⟨notHalf, ended.2⟩
  | false =>
    have request : requestedAttrs config = atSpeed darwinTermios placeholderSpeed config := by
      funext current
      simp only [requestedAttrs, standard, Bool.false_eq_true, if_false]
    simp only [applyConfigToFd, standard, Bool.false_eq_true, if_false, applyCustomBaudConfig_eq_commit, ← request, ends_bind]
    refine commit_spec.mono (fun _ middle committed => ?_) fun exc after ended => ?_
    · obtain ⟨attrs, commits, rfl⟩ := committed
      refine setIossiospeed_spec.mono (fun _ after overridden => ?_) fun exc after ended => ?_
      · exact ⟨fun other half => half.refused overridden.1, attrs, commits, overridden.2⟩
      · exact .inr ⟨attrs, ⟨standard, commits, ended.1⟩, ended.2⟩
    · exact .inl ⟨fun attrs half => ended.1 attrs half.commits, ended.2⟩

/-- All-or-nothing: a reconfiguration that raises leaves the line as it was. -/
def AllOrNothing (config : SerialConfig) (world : DarwinWorld) : Prop :=
  Ends (configure config) world
    (fun _ after => after.host.device.lineSpeed = config.baudrate ∧
      requestedAttrs config world.host.device.termios = .ok after.host.device.termios ∧
      darwinTermios.decode after.host.device.termios = some (lineSettings config) ∧
      after.backend.config = some config)
    (fun _ after => after.host.device = world.host.device ∧ after.backend.config = world.backend.config)

/-- The override fails after a commit that made a difference. -/
def HalfApplied (config : SerialConfig) (world : DarwinWorld) : Prop :=
  Tolerates config ∧ ∃ attrs, HalfWay world world.backend.fd config attrs ∧
    world.host.device ≠ ⟨attrs, placeholderSpeed⟩

/-- The warnings play no part in what is committed. -/
theorem halfWay_withWarnings {messages : List String} {attrs : TermiosAttrs} :
    HalfWay (withWarnings world messages) fd config attrs ↔ HalfWay world fd config attrs := by
  constructor
  · intro half
    exact ⟨half.custom, ⟨half.commits.read, half.commits.built, half.commits.ispeed, half.commits.ospeed,
      half.commits.written⟩, half.refused⟩
  · intro half
    exact ⟨half.custom, ⟨half.commits.read, half.commits.built, half.commits.ispeed, half.commits.ospeed,
      half.commits.written⟩, half.refused⟩

/-- How a reconfiguration ends, exactly. -/
theorem configure_spec : Ends (configure config) world
    (fun _ after => (∀ attrs, ¬HalfWay world world.backend.fd config attrs) ∧ after.backend.config = some config ∧
      ∃ attrs, requestedAttrs config world.host.device.termios = .ok attrs ∧
        after.host.device = ⟨attrs, config.baudrate⟩)
    (fun _ after => after.backend.config = world.backend.config ∧
      ((¬Tolerates config ∧ after.host.device = world.host.device) ∨
        ((∀ attrs, ¬HalfWay world world.backend.fd config attrs) ∧ after.host.device = world.host.device) ∨
        (Tolerates config ∧ ∃ attrs, HalfWay world world.backend.fd config attrs ∧
          after.host.device = ⟨attrs, placeholderSpeed⟩))) := by
  rw [configure, ends_bind]
  refine ends_rejectUnsupported (fun exc refused => ⟨rfl, .inl ⟨refused, rfl⟩⟩) fun messages tolerates => ?_
  simp only [Posix.configure, ends_bind, ends_getBackend, ends_modifyBackend]
  refine applyConfigToFd_spec.mono (fun _ after applied => ?_) fun exc after ended => ?_
  · obtain ⟨notHalf, attrs, commits, rfl⟩ := applied
    exact ⟨fun other half => notHalf other (halfWay_withWarnings.mpr half), trivial, attrs, commits.built, rfl⟩
  · rcases ended with ⟨notHalf, rfl⟩ | ⟨attrs, half, rfl⟩
    · exact ⟨rfl, .inr (.inl ⟨fun other half => notHalf other (halfWay_withWarnings.mpr half), rfl⟩)⟩
    · have speed := (requestedAttrs_decodes half.commits.built).2
      simp only [half.custom, Bool.false_eq_true, if_false] at speed
      refine ⟨rfl, .inr (.inr ⟨tolerates, attrs, halfWay_withWarnings.mp half, ?_⟩)⟩
      rw [← speed]
      rfl

/-- `configure` is all-or-nothing exactly where no override fails after a commit
that made a difference. -/
theorem reconfiguration_allOrNothing_iff (config : SerialConfig) (world : DarwinWorld) :
    AllOrNothing config world ↔ ¬HalfApplied config world := by
  constructor
  · rintro kept ⟨tolerates, attrs, half, differs⟩
    refine not_ends_nowhere ((kept.and configure_spec).mono (fun _ after ended => ?_) fun _ after ended => ?_)
    · exact ended.2.1 attrs half
    · obtain ⟨⟨same, _⟩, _, ⟨refused, _⟩ | ⟨notHalf, _⟩ | ⟨_, other, otherHalf, placeholder⟩⟩ := ended
      · exact refused tolerates
      · exact notHalf attrs half
      · cases otherHalf.commits.unique half.commits
        exact differs (same.symm.trans placeholder)
  · intro kept
    refine configure_spec.mono (fun _ after ended => ?_) fun _ after ended => ?_
    · obtain ⟨_, stored, attrs, built, device⟩ := ended
      have speed : after.host.device.lineSpeed = config.baudrate := by rw [device]
      have termios : after.host.device.termios = attrs := by rw [device]
      exact ⟨speed, termios ▸ built, termios ▸ (requestedAttrs_decodes built).1, stored⟩
    · obtain ⟨stored, ⟨_, same⟩ | ⟨_, same⟩ | ⟨tolerates, attrs, half, placeholder⟩⟩ := ended
      · exact ⟨same, stored⟩
      · exact ⟨same, stored⟩
      · refine ⟨Decidable.byContradiction fun differs => kept ⟨tolerates, attrs, half, fun already => differs ?_⟩, stored⟩
        exact placeholder.trans already.symm

def invalidArgument : OSErr := ⟨.einval, "Invalid argument", none⟩

/-- An open port at 115200 baud on an adapter that refuses the override. -/
def overrideRefused : DarwinWorld where
  backend := ⟨3, "/dev/cu.usbserial", some .defaults, ()⟩
  host :=
    { device :=
        { termios := ⟨0, 0, 0xcb00, 0, 115200, 115200, List.replicate 20 (.int 0)⟩
          lineSpeed := 115200 }
      openFds := [3]
      faults := fun call _ => if call = .iossiospeed then some invalidArgument else none }

/-- A custom rate that the adapter refuses: `configure` raises and the line runs at the
placeholder speed. -/
theorem refused_override_leaves_placeholder :
    ¬AllOrNothing { baudrate := 12345 } overrideRefused ∧
      (finalState (configure { baudrate := 12345 }) overrideRefused).host.device.lineSpeed = placeholderSpeed := by
  constructor
  · intro kept
    have raised : ∃ after, configure { baudrate := 12345 } overrideRefused = .error (.osError invalidArgument) after ∧
        after.host.device.lineSpeed = placeholderSpeed := ⟨_, rfl, rfl⟩
    obtain ⟨after, ran, speed⟩ := raised
    rw [AllOrNothing, ends_of_error ran] at kept
    have prior : overrideRefused.host.device.lineSpeed = 115200 := rfl
    rw [kept.1, prior] at speed
    exact absurd speed (by decide)
  · rfl

end Anyserial.Darwin
