import Anyserial.Bsd.Backend
import Anyserial.Darwin.BackendProperties
import Anyserial.Linux.CustomBaudProperties

/-! The custom-rate path of each platform against the standard path: the builders are
spelled out once for each backend, and the copies agree. -/
set_option autoImplicit false

namespace Anyserial

open Kit Posix

variable {ε δ : Type}

/-- From the same device, the custom path leaves what the standard path would commit,
up to `same`, and with no call refused it raises for the same configurations, before
it has written anything. `fits` says that the rate itself can be encoded. -/
structure AgreesWithStandard (same : δ → δ → δ → Prop) (fits : Prop) (custom standard : Int → Py (World ε δ) Unit) :
    Prop where
  commits : ∀ fd (world reference : World ε δ), reference.host.device = world.host.device →
    Ends (standard fd) reference
      (fun _ committed => Ends (custom fd) world
        (fun _ after => same world.host.device committed.host.device after.host.device)
        fun _ after => after.host.device = world.host.device ∨
          same world.host.device committed.host.device after.host.device)
      fun _ _ => True
  rejects : fits → ∀ fd world, world.host.Holds fd → world.host.faults = noFaults →
    (Raises (custom fd) world ↔ Raises (standard fd) world)
  commitsNothing : fits → ∀ fd world, world.host.Holds fd → world.host.faults = noFaults →
    Ends (custom fd) world (fun _ _ => True) (fun _ after => after = world) ∧
      Ends (standard fd) world (fun _ _ => True) fun _ after => after = world

/-- The attributes that were committed differ in the speeds at most. -/
def SameAttributes [TermiosDevice δ] (prior committed after : δ) : Prop :=
  ∃ custom standard, SameButSpeeds custom standard ∧ committed = TermiosDevice.tcsetattr standard prior ∧
    after = TermiosDevice.tcsetattr custom prior

section Standard

variable [TermiosDevice δ] {termios : TermiosModule} {config : SerialConfig} {world : World ε δ} {fd : Int}

/-- With no call refused, committing depends on the request alone. -/
theorem commits_iff {request : TermiosAttrs → Except PyExc TermiosAttrs} (held : world.host.Holds fd)
    (accepted : world.host.faults = noFaults) :
    (∃ attrs, Commits world fd request attrs) ↔
      ∃ attrs, request (TermiosDevice.tcgetattr world.host.device) = .ok attrs ∧ attrs.ispeed < 2 ^ 63 ∧
        attrs.ospeed < 2 ^ 63 := by
  have admits : ∀ call, world.host.Admits fd call := fun call => held.admits (by simp [accepted, noFaults])
  constructor
  · rintro ⟨attrs, commits⟩
    exact ⟨attrs, commits.built, commits.ispeed, commits.ospeed⟩
  · rintro ⟨attrs, built, ispeed, ospeed⟩
    exact ⟨attrs, admits _, built, ispeed, ospeed, admits _⟩

theorem commit_unchanged {request : TermiosAttrs → Except PyExc TermiosAttrs} :
    Ends (commit fd request) world (fun _ _ => True) fun _ after => after = world :=
  commit_spec.mono (fun _ _ _ => trivial) fun _ _ ended => ended.2

theorem commit_raises_iff {request : TermiosAttrs → Except PyExc TermiosAttrs} :
    Raises (commit fd request) world ↔ ¬∃ attrs, Commits world fd request attrs :=
  raises_iff (commit_spec.mono (fun _ _ ⟨attrs, commits, _⟩ => ⟨attrs, commits⟩) fun _ _ ended => not_exists.mpr ended.1)

theorem requested_eq_atSpeed {speed : Nat} (known : termios.baudrateToSpeed config.baudrate = .ok speed) :
    (termios.requested · config) = atSpeed termios speed config := by
  funext current
  simp only [TermiosModule.requested, known, bind, Except.bind, atSpeed]

/-- Two requests that differ in the rate build the same attributes but the speeds. -/
theorem atSpeed_agree (termios : TermiosModule) (config : SerialConfig) (speed other : Nat) {rate : Nat}
    (positive : 0 < rate) (current : TermiosAttrs) :
    (termios.Representable config ∧ ∃ custom standard, atSpeed termios speed config current = .ok custom ∧
        atSpeed termios other (atRate config rate positive) current = .ok standard ∧ SameButSpeeds custom standard ∧
        (custom.ispeed = speed ∧ custom.ospeed = speed) ∧ standard.ispeed = other ∧ standard.ospeed = other) ∨
      (¬termios.Representable config ∧ ∃ message, atSpeed termios speed config current = .error (unsupportedFeature message) ∧
        ∃ message, atSpeed termios other (atRate config rate positive) current = .error (unsupportedFeature message)) :=
  TermiosModule.applyAll_sameButSpeeds ⟨rfl, rfl, rfl, rfl, rfl⟩

/-- With no call refused and speeds that fit, a path raises for what the platform cannot represent. -/
theorem commits_atSpeed_iff {speed : Nat} (held : world.host.Holds fd) (accepted : world.host.faults = noFaults)
    (fits : speed < 2 ^ 63) :
    (∃ attrs, Commits world fd (atSpeed termios speed config) attrs) ↔ termios.Representable config := by
  rw [commits_iff held accepted]
  constructor
  · rintro ⟨attrs, built, _⟩
    rcases termios.applyAll_rejects _ config with ⟨fine, _⟩ | ⟨_, message, rejected⟩
    · exact fine
    · cases rejected.symm.trans built
  · intro fine
    exact ⟨_, TermiosModule.applyAll_eq fine, fits, fits⟩

end Standard

section Bsd

variable [TermiosDevice δ] {termios : TermiosModule} {config : SerialConfig} {fd : Int}

theorem Bsd.applyCustomBaudConfig_eq_commit : (Bsd.applyCustomBaudConfig termios fd config : Py (World Unit δ) Unit) =
    commit fd (atSpeed termios config.baudrate config) := by
  have request : atSpeed termios config.baudrate config = fun current =>
      termios.applyAll { current with ispeed := config.baudrate, ospeed := config.baudrate } config := rfl
  simp only [commit, request, ← liftExcept_applyAll]
  rfl

/-- The standard path commits the request at the speed of its rate. -/
theorem applyConfigToFd_eq_atSpeed {rate speed : Nat} {positive : 0 < rate}
    (known : termios.baudrateToSpeed rate = .ok speed) :
    (Posix.applyConfigToFd termios fd (atRate config rate positive) : Py (World ε δ) Unit) =
      commit fd (atSpeed termios speed (atRate config rate positive)) := by
  have same : termios.baudrateToSpeed (atRate config rate positive).baudrate = .ok speed := known
  rw [applyConfigToFd_eq_commit, requested_eq_atSpeed same]

theorem bsd_agrees {rate speed : Nat} (positive : 0 < rate) (known : termios.baudrateToSpeed rate = .ok speed) :
    AgreesWithStandard SameAttributes (config.baudrate < 2 ^ 63 ∧ speed < 2 ^ 63)
      (fun fd => (Bsd.applyCustomBaudConfig termios fd config : Py (World Unit δ) Unit))
      fun fd => Posix.applyConfigToFd termios fd (atRate config rate positive) := by
  simp only [Bsd.applyCustomBaudConfig_eq_commit, applyConfigToFd_eq_atSpeed known]
  constructor
  case commits =>
    intro fd world reference same
    refine commit_spec.mono (fun _ committed ⟨standard, standardCommits, standardReached⟩ => ?_) fun _ _ _ => trivial
    refine commit_spec.mono (fun _ after ⟨custom, customCommits, customReached⟩ => ?_) fun _ after ended => .inl (by rw [ended.2])
    subst standardReached customReached
    have standardBuilt := standardCommits.built
    rw [same] at standardBuilt
    rcases atSpeed_agree termios config config.baudrate speed positive (TermiosDevice.tcgetattr world.host.device) with
      ⟨_, first, second, builtFirst, builtSecond, agree, _⟩ | ⟨_, message, rejected, _⟩
    · cases builtFirst.symm.trans customCommits.built
      cases builtSecond.symm.trans standardBuilt
      exact ⟨custom, standard, agree, congrArg (TermiosDevice.tcsetattr standard) same, rfl⟩
    · cases rejected.symm.trans customCommits.built
  case rejects =>
    intro fits fd world held accepted
    rw [commit_raises_iff, commit_raises_iff, commits_atSpeed_iff held accepted fits.1,
      commits_atSpeed_iff held accepted fits.2, TermiosModule.representable_atRate]
  case commitsNothing =>
    intro fits fd world held accepted
    exact ⟨commit_unchanged, commit_unchanged⟩

end Bsd

section Darwin

variable {config : SerialConfig}

/-- The override moves the line speed only. -/
def SameDarwin (_ committed after : Darwin.Device) : Prop := SameButSpeeds after.termios committed.termios

/-- With no call refused, the custom path raises where the commit does. -/
theorem darwin_custom_spec {fd : Int} {world : Darwin.DarwinWorld} (fits : config.baudrate < 2 ^ 64)
    (held : world.host.Holds fd) (accepted : world.host.faults = noFaults) :
    Ends (Darwin.applyCustomBaudConfig fd config) world (fun _ _ => Darwin.darwinTermios.Representable config)
      fun _ after => ¬Darwin.darwinTermios.Representable config ∧ after = world := by
  have placeholder : Darwin.placeholderSpeed < 2 ^ 63 := by decide
  have commits : (∃ attrs, Commits world fd (atSpeed Darwin.darwinTermios Darwin.placeholderSpeed config) attrs) ↔ _ :=
    commits_atSpeed_iff held accepted placeholder
  rw [Darwin.applyCustomBaudConfig_eq_commit, ends_bind]
  refine commit_spec.mono (fun _ middle ⟨attrs, committed, reached⟩ => ?_) fun _ after ended => ?_
  · subst reached
    refine Darwin.setIossiospeed_spec.mono (fun _ _ _ => commits.mp ⟨attrs, committed⟩) fun _ _ ⟨refused, _⟩ => ?_
    have admits : world.host.Admits fd .iossiospeed := held.admits (by simp [accepted, noFaults])
    exact absurd ⟨admits, fits⟩ refused
  · exact ⟨fun fine => not_exists.mpr ended.1 (commits.mpr fine), ended.2⟩

theorem darwin_agrees {rate : Nat} (positive : 0 < rate) (standard : Darwin.darwinTermios.isStandardBaud rate = true) :
    AgreesWithStandard SameDarwin (config.baudrate < 2 ^ 64) (Darwin.applyCustomBaudConfig · config)
      (Posix.applyConfigToFd Darwin.darwinTermios · (atRate config rate positive)) := by
  have known : Darwin.darwinTermios.baudrateToSpeed rate = .ok rate ∧ rate < 2 ^ 63 := Darwin.standard_speed standard
  simp only [applyConfigToFd_eq_atSpeed known.1]
  constructor
  case commits =>
    intro fd world reference same
    refine commit_spec.mono (fun _ committed ⟨standard, standardCommits, standardReached⟩ => ?_) fun _ _ _ => trivial
    rw [Darwin.applyCustomBaudConfig_eq_commit, ends_bind]
    refine commit_spec.mono (fun _ middle ⟨custom, customCommits, customReached⟩ => ?_) fun _ after ended => .inl (by rw [ended.2])
    subst standardReached customReached
    have standardBuilt := standardCommits.built
    rw [same] at standardBuilt
    rcases atSpeed_agree Darwin.darwinTermios config Darwin.placeholderSpeed rate positive world.host.device.termios with
      ⟨_, first, second, builtFirst, builtSecond, agree, _⟩ | ⟨_, message, rejected, _⟩
    · cases builtFirst.symm.trans customCommits.built
      cases builtSecond.symm.trans standardBuilt
      refine Darwin.setIossiospeed_spec.mono (fun _ after ⟨_, reached⟩ => ?_) fun _ after ⟨_, reached⟩ => ?_
      · subst reached
        exact agree
      · subst reached
        exact .inr agree
    · cases rejected.symm.trans customCommits.built
  case rejects =>
    intro fits fd world held accepted
    rw [commit_raises_iff, commits_atSpeed_iff held accepted known.2, TermiosModule.representable_atRate]
    exact raises_iff ((darwin_custom_spec fits held accepted).mono (fun _ _ fine => fine) fun _ _ ended => ended.1)
  case commitsNothing =>
    intro fits fd world held accepted
    exact ⟨(darwin_custom_spec fits held accepted).mono (fun _ _ _ => trivial) fun _ _ ended => ended.2, commit_unchanged⟩

end Darwin

section Linux

open Linux

variable {config : SerialConfig}

theorem linux_agrees {rate : Nat} (positive : 0 < rate) (standard : linuxTermios.isStandardBaud rate = true) :
    AgreesWithStandard SameButRate (config.baudrate < 2 ^ 32)
      (fun fd => (applyCustomBaudConfig fd config : Py LinuxWorld Unit))
      fun fd => Posix.applyConfigToFd linuxTermios fd (atRate config rate positive) := by
  obtain ⟨speed, known⟩ : ∃ speed, linuxTermios.baudrateToSpeed rate = .ok speed := by
    cases found : linuxTermios.standardBaudRates.lookup rate with
    | none => simp [TermiosModule.isStandardBaud, found] at standard
    | some speed => exact ⟨speed, by simp only [TermiosModule.baudrateToSpeed, found]⟩
  have small : speed < 2 ^ 63 := Nat.lt_trans (speed_within known).2 (by decide)
  simp only [applyConfigToFd_eq_atSpeed known]
  constructor
  case commits =>
    intro fd world reference same
    refine commit_spec.mono (fun _ committed ended => ?_) fun _ _ _ => trivial
    obtain ⟨attrs, commits, standardReached⟩ := ended
    refine applyCustomBaudConfig_commits.mono (fun _ after ended => ?_) fun _ after ended => .inl (by rw [ended.1])
    obtain ⟨_, fine, customReached⟩ := ended
    have built := commits.built
    rw [atSpeed, TermiosModule.applyAll_eq (TermiosModule.representable_atRate.mpr fine)] at built
    cases built
    subst standardReached customReached
    rw [withAttrs, same]
    exact sameButRate known fine world.host.device
  case rejects =>
    intro fits fd world held accepted
    rw [commit_raises_iff, commits_atSpeed_iff held accepted small, TermiosModule.representable_atRate]
    have admits : ∀ call, world.host.Admits fd call := fun call => held.admits (by simp [accepted, noFaults])
    exact raises_iff (applyCustomBaudConfig_commits.mono (fun _ _ ended => ended.2.1) fun _ _ ended =>
      ended.2 (admits _) (admits _) fits)
  case commitsNothing =>
    intro fits fd world held accepted
    exact ⟨applyCustomBaudConfig_commits.mono (fun _ _ _ => trivial) fun _ _ ended => ended.1, commit_unchanged⟩

end Linux

/-- The three copies of the builder pipeline agree with the standard path. -/
theorem customBaud_agrees (config : SerialConfig) (rate : Nat) (positive : 0 < rate) :
    (Linux.linuxTermios.isStandardBaud rate = true →
      AgreesWithStandard Linux.SameButRate (config.baudrate < 2 ^ 32)
        (fun fd => (Linux.applyCustomBaudConfig fd config : Py Linux.LinuxWorld Unit))
        fun fd => Posix.applyConfigToFd Linux.linuxTermios fd (atRate config rate positive)) ∧
    (Darwin.darwinTermios.isStandardBaud rate = true →
      AgreesWithStandard SameDarwin (config.baudrate < 2 ^ 64) (Darwin.applyCustomBaudConfig · config)
        (Posix.applyConfigToFd Darwin.darwinTermios · (atRate config rate positive))) ∧
    ∀ (δ : Type) [TermiosDevice δ] (termios : TermiosModule) (speed : Nat), termios.baudrateToSpeed rate = .ok speed →
      AgreesWithStandard SameAttributes (config.baudrate < 2 ^ 63 ∧ speed < 2 ^ 63)
        (fun fd => (Bsd.applyCustomBaudConfig termios fd config : Py (World Unit δ) Unit))
        fun fd => Posix.applyConfigToFd termios fd (atRate config rate positive) :=
  ⟨linux_agrees positive, darwin_agrees positive, fun _ _ _ _ known => bsd_agrees positive known⟩

/-- A custom rate compared with 9600 baud on the three platforms. -/
theorem customBaud_agrees_at_9600 :
    AgreesWithStandard Linux.SameButRate (12345 < 2 ^ 32)
      (fun fd => (Linux.applyCustomBaudConfig fd { baudrate := 12345 } : Py Linux.LinuxWorld Unit))
      (fun fd => Posix.applyConfigToFd Linux.linuxTermios fd (atRate { baudrate := 12345 } 9600 (by decide))) ∧
    AgreesWithStandard SameDarwin (12345 < 2 ^ 64) (Darwin.applyCustomBaudConfig · { baudrate := 12345 })
      (Posix.applyConfigToFd Darwin.darwinTermios · (atRate { baudrate := 12345 } 9600 (by decide))) ∧
    AgreesWithStandard SameAttributes (12345 < 2 ^ 63 ∧ 9600 < 2 ^ 63)
      (fun fd => (Bsd.applyCustomBaudConfig Darwin.darwinTermios fd { baudrate := 12345 } : Py (World Unit Darwin.Device) Unit))
      fun fd => Posix.applyConfigToFd Darwin.darwinTermios fd (atRate { baudrate := 12345 } 9600 (by decide)) := by
  obtain ⟨linux, darwin, bsd⟩ := customBaud_agrees { baudrate := 12345 } 9600 (by decide)
  exact ⟨linux (by decide), darwin (by decide), bsd Darwin.Device Darwin.darwinTermios 9600 rfl⟩

end Anyserial
