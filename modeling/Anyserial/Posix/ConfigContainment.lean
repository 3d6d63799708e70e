import Anyserial.Posix.Containment
import Anyserial.Posix.CommitProperties
import Anyserial.Posix.UnsupportedProperties

/-! What an open and a reconfiguration of a POSIX backend may raise: the calls of the
`termios` module are the ones whose errors are not translated. -/
set_option autoImplicit false

namespace Anyserial.Posix

open Kit

variable {ε δ : Type} {world : World ε δ} {fd : Int} {config : SerialConfig} {path className platform : String}

/-- The open gets as far as the configuration of the new descriptor. -/
def ReachesConfig (config : SerialConfig) (faults : Faults) : Prop :=
  faults .openCall .apply = none ∧ (config.exclusive = true → faults .flock .apply = none)

section Commit

variable [TermiosDevice δ] {request : TermiosAttrs → Except PyExc TermiosAttrs}

/-- Neither `termios` call is refused, and the speeds are integers the interpreter can pass on. -/
def RequestFine (request : TermiosAttrs → Except PyExc TermiosAttrs) (device : δ) (faults : Faults) : Prop :=
  faults .tcgetattr .apply = none ∧
    ∀ attrs, request (TermiosDevice.tcgetattr device) = .ok attrs →
      attrs.ispeed < 2 ^ 63 ∧ attrs.ospeed < 2 ^ 63 ∧ faults .tcsetattr .apply = none

/-- The builders reject a configuration with errors of the package only. -/
def RejectsAsPackage (request : TermiosAttrs → Except PyExc TermiosAttrs) : Prop :=
  ∀ current exc, request current = .error exc → Translatable exc

theorem atSpeed_rejects (termios : TermiosModule) (speed : Nat) (config : SerialConfig) :
    RejectsAsPackage (atSpeed termios speed config) := by
  intro current exc failed
  rcases termios.applyAll_rejects { current with ispeed := speed, ospeed := speed } config with
    ⟨_, after, built⟩ | ⟨_, message, rejected⟩
  · cases built.symm.trans failed
  · cases rejected.symm.trans failed
    exact .inr ⟨_, _, rfl⟩

theorem requested_rejects (termios : TermiosModule) (config : SerialConfig) :
    RejectsAsPackage (termios.requested · config) := by
  intro current exc failed
  cases known : termios.standardBaudRates.lookup config.baudrate with
  | none =>
    simp only [TermiosModule.requested, TermiosModule.baudrateToSpeed, known, bind, Except.bind, Except.error.injEq] at failed
    exact .inr ⟨_, _, failed.symm⟩
  | some speed =>
    simp only [TermiosModule.requested, TermiosModule.baudrateToSpeed, known, bind, Except.bind] at failed
    exact atSpeed_rejects termios speed config current exc failed

/-- A commit whose calls are accepted raises what the builders raise. -/
theorem commit_contained (held : world.host.Holds fd) (rejects : RejectsAsPackage request)
    (fine : RequestFine request world.host.device world.host.faults) :
    Ends (commit fd request) world
      (fun _ after => ∃ attrs, request (TermiosDevice.tcgetattr world.host.device) = .ok attrs ∧ after = withAttrs world attrs)
      fun exc _ => Translatable exc := by
  obtain ⟨read, written⟩ := fine
  simp only [commit, tcgetattr, tcsetattr, ends_bind, ends_map, ends_termiosCall held, ends_getDevice, ends_liftExcept,
    ends_ite, ends_throw, ends_modifyDevice, read]
  refine ⟨by simp, fun _ => ⟨fun attrs built => ?_, fun exc failed => rejects _ exc failed⟩⟩
  obtain ⟨ispeed, ospeed, accepted⟩ := written attrs built
  refine ⟨fun negative => absurd held.1 (Int.not_le.mpr negative), fun _ => ⟨fun large => by omega, fun _ => ?_⟩⟩
  rw [accepted]
  exact ⟨by simp, fun _ => ⟨attrs, built, rfl⟩⟩

theorem contains_commit (held : world.host.Holds fd) (rejects : RejectsAsPackage request)
    (fine : RequestFine request world.host.device world.host.faults) : Contains Translatable (commit fd request) world :=
  (commit_contained held rejects fine).mono (fun _ _ _ => trivial) fun _ _ translatable => translatable

end Commit

section Routes

variable {applyConfig : Int → SerialConfig → Py (World ε δ) Unit}

theorem contains_configure (applies : Contains Translatable (applyConfig world.backend.fd config) world) :
    Contains Translatable (configure applyConfig config) world := by
  unfold Contains
  simp only [configure, ends_bind, ends_getBackend]
  exact Ends.mono applies (fun _ _ _ => trivial) fun _ _ translatable => translatable

theorem contains_acquireExclusiveLock (held : world.host.Holds fd) :
    Ends (acquireExclusiveLock fd path) world (fun _ after => after = world ∧ world.host.faults .flock .apply = none)
      fun exc _ => Translatable exc := by
  simp only [acquireExclusiveLock, ends_tryCatch, ends_fcntlCall held, ends_ite, ends_throw]
  refine ⟨fun err _ => ⟨fun _ => .inl ⟨_, rfl⟩, fun _ => .inl ⟨err, rfl⟩⟩, fun accepted => ⟨trivial, accepted⟩⟩

/-- Everything that an open raises comes from the system or from the configuration, and an
open that returns has applied the configuration. -/
theorem openPort_contained {applied : Prop} (closed : world.backend.isOpen = false) (plain : world.host.pathError path = none)
    (applies : ReachesConfig config world.host.faults →
      Ends (applyConfig (lowestUnused world.host.openFds) config) (withDescriptor world) (fun _ _ => applied)
        fun exc _ => Translatable exc) :
    Ends (openPort className applyConfig path config) world
      (fun _ _ => ReachesConfig config world.host.faults ∧ applied) fun exc _ => Translatable exc := by
  have held : (withDescriptor world).host.Holds (lowestUnused world.host.openFds) :=
    ⟨lowestUnused_nonneg _, List.mem_cons_self ..⟩
  have sets : world.host.faults .openCall .apply = none →
      Ends (setUp applyConfig (lowestUnused world.host.openFds) path config) (withDescriptor world)
        (fun _ _ => ReachesConfig config world.host.faults ∧ applied) fun exc _ => Translatable exc := by
    intro opens
    rw [setUp, ends_bind, ends_whenever]
    constructor
    · intro exclusive
      refine (contains_acquireExclusiveLock held).mono (fun _ after locked => ?_) fun _ _ translatable => translatable
      obtain ⟨rfl, locks⟩ := locked
      have reaches : ReachesConfig config world.host.faults := ⟨opens, fun _ => locks⟩
      exact (applies reaches).mono (fun _ _ applied => ⟨reaches, applied⟩) fun _ _ translatable => translatable
    · intro shared
      have reaches : ReachesConfig config world.host.faults := ⟨opens, fun exclusive => by simp [exclusive] at shared⟩
      exact (applies reaches).mono (fun _ _ applied => ⟨reaches, applied⟩) fun _ _ translatable => translatable
  simp only [openPort, ends_bind, ends_getBackend, closed, Bool.false_eq_true, if_false, ends_osOpen, plain, ends_tryCatch,
    ends_throw, ends_modifyBackend]
  refine ⟨by simp, fun _ => ⟨fun err _ => .inl ⟨err, rfl⟩, fun opens => ?_⟩⟩
  refine (sets opens).mono (fun _ _ applied => applied) fun exc after translatable => ?_
  exact ends_osClose translatable fun err => .inl ⟨err, rfl⟩

/-- A close that the system reports no error of returns. -/
theorem close_returns (held : world.host.Holds world.backend.fd) (accepted : world.host.faults .close .restore = none) :
    Ends close world (fun _ _ => True) fun _ _ => False := by
  have notNegative : ¬world.backend.fd < 0 := Int.not_lt.mpr held.1
  simp only [close, ends_bind, ends_getBackend, notNegative, if_false, ends_modifyBackend, osClose, ends_getHost,
    ends_modifyHost, ends_refuse]
  refine ⟨fun err refused => ?_, fun _ => trivial⟩
  simp [Host.refusal, held.2, accepted] at refused

end Routes

end Anyserial.Posix
