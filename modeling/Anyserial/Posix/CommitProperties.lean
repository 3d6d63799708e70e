import Anyserial.Posix.BackendProperties
import Anyserial.Posix.TermiosApplyProperties

/-! Reading the attributes, building the new ones and writing them back: the three
steps that the paths to the terminal have in common, on any descriptor. -/
set_option autoImplicit false

namespace Anyserial.Posix

open Kit

variable {ε δ : Type} {world : World ε δ} {fd : Int} {call : Syscall}

/-- The interpreter issues the call and the kernel accepts it. -/
def Host.Admits (host : Host δ) (fd : Int) (call : Syscall) : Prop :=
  0 ≤ fd ∧ host.refusal fd call .apply = none

theorem Host.Holds.admits {host : Host δ} (held : host.Holds fd) (accepted : host.faults call .apply = none) :
    host.Admits fd call :=
  ⟨held.1, by simp [Host.refusal, held.2, accepted]⟩

section Calls

variable {returned : Unit → World ε δ → Prop} {raised : PyExc → World ε δ → Prop}

theorem ends_termiosCall_admits (accepted : world.host.Admits fd call → returned () world)
    (refused : ¬world.host.Admits fd call → ∀ exc, raised exc world) :
    Ends (termiosCall fd call) world returned raised := by
  by_cases negative : fd < 0
  · have closed : ¬world.host.Admits fd call := fun admits => by have := admits.1; omega
    simp only [termiosCall, ends_bind, ends_get, negative, if_true, ends_throw]
    exact refused closed _
  · simp only [termiosCall, ends_bind, ends_get, negative, if_false, ends_refuse]
    constructor
    · intro err answer
      exact refused (fun admits => by simp [admits.2] at answer) _
    · intro answer
      exact accepted ⟨by omega, answer⟩

theorem ends_fcntlCall_admits (accepted : world.host.Admits fd call → returned () world)
    (refused : ¬world.host.Admits fd call → ∀ exc, raised exc world) :
    Ends (fcntlCall fd call .apply) world returned raised := by
  by_cases negative : fd < 0
  · have closed : ¬world.host.Admits fd call := fun admits => by have := admits.1; omega
    simp only [fcntlCall, ends_bind, ends_get, negative, if_true, ends_throw]
    exact refused closed _
  · simp only [fcntlCall, ends_bind, ends_get, negative, if_false, ends_refuse]
    constructor
    · intro err answer
      exact refused (fun admits => by simp [admits.2] at answer) _
    · intro answer
      exact accepted ⟨by omega, answer⟩

end Calls

section Commit

variable [TermiosDevice δ] {request : TermiosAttrs → Except PyExc TermiosAttrs} {attrs : TermiosAttrs}

def commit (fd : Int) (request : TermiosAttrs → Except PyExc TermiosAttrs) : Py (World ε δ) Unit := do
  let current ← tcgetattr fd
  let attrs ← liftExcept (request current)
  tcsetattr fd attrs

/-- The world after an accepted `tcsetattr`. -/
def withAttrs (world : World ε δ) (attrs : TermiosAttrs) : World ε δ :=
  { world with host := { world.host with device := TermiosDevice.tcsetattr attrs world.host.device } }

/-- The three steps go through and `attrs` is what they write. -/
structure Commits (world : World ε δ) (fd : Int) (request : TermiosAttrs → Except PyExc TermiosAttrs)
    (attrs : TermiosAttrs) : Prop where
  read : world.host.Admits fd .tcgetattr
  built : request (TermiosDevice.tcgetattr world.host.device) = .ok attrs
  ispeed : attrs.ispeed < 2 ^ 63
  ospeed : attrs.ospeed < 2 ^ 63
  written : world.host.Admits fd .tcsetattr

theorem commit_spec : Ends (commit fd request) world
    (fun _ after => ∃ attrs, Commits world fd request attrs ∧ after = withAttrs world attrs)
    (fun _ after => (∀ attrs, ¬Commits world fd request attrs) ∧ after = world) := by
  simp only [commit, tcgetattr, tcsetattr, ends_bind, ends_map, ends_getDevice, ends_liftExcept, ends_ite, ends_throw]
  refine ends_termiosCall_admits (fun read => ⟨fun attrs built => ⟨fun negative => ?_, fun _ => ⟨fun large => ?_, fun small => ?_⟩⟩,
    fun exc failed => ⟨fun attrs commits => ?_, rfl⟩⟩) fun refused exc => ⟨fun attrs commits => refused commits.read, rfl⟩
  · exact absurd read.1 (Int.not_le.mpr negative)
  · refine ⟨fun other commits => ?_, rfl⟩
    cases built.symm.trans commits.built
    have ispeed := commits.ispeed
    have ospeed := commits.ospeed
    omega
  · refine ends_termiosCall_admits (fun written => ?_) fun refused exc => ⟨fun attrs commits => refused commits.written, rfl⟩
    exact ⟨attrs, ⟨read, built, by omega, by omega, written⟩, rfl⟩
  · cases failed.symm.trans commits.built

theorem Commits.unique {other : TermiosAttrs} (commits : Commits world fd request attrs)
    (others : Commits world fd request other) : other = attrs :=
  Except.ok.inj (others.built.symm.trans commits.built)

theorem applyConfigToFd_eq_commit (termios : TermiosModule) (config : SerialConfig) :
    (applyConfigToFd termios fd config : Py (World ε δ) Unit) = commit fd (termios.requested · config) := rfl

end Commit

/-- The builders run step by step come down to the pipeline run at once. -/
theorem liftExcept_applyAll (termios : TermiosModule) (attrs : TermiosAttrs) (config : SerialConfig)
    (next : TermiosAttrs → Py (World ε δ) Unit) :
    (do
      let attrs := termios.applyRawMode attrs
      let attrs := termios.applyByteSize attrs config.byteSize
      let attrs ← liftExcept (termios.applyParity attrs config.parity)
      let attrs ← liftExcept (termios.applyStopBits attrs config.stopBits)
      let attrs ← liftExcept (termios.applyFlowControl attrs config.flowControl)
      next (termios.applyHangup attrs config.hangupOnClose)) =
      (liftExcept (termios.applyAll attrs config) >>= next) := by
  simp only [TermiosModule.applyAll, liftExcept_bind, liftExcept_pure, bind_assoc, pure_bind]

/-- A request at a given speed, whatever the rate of the configuration. -/
def atSpeed (termios : TermiosModule) (speed : Nat) (config : SerialConfig) (current : TermiosAttrs) :
    Except PyExc TermiosAttrs :=
  termios.applyAll { current with ispeed := speed, ospeed := speed } config

/-- The attributes differ in the speeds at most. -/
structure SameButSpeeds (before after : TermiosAttrs) : Prop where
  iflag : after.iflag = before.iflag
  oflag : after.oflag = before.oflag
  cflag : after.cflag = before.cflag
  lflag : after.lflag = before.lflag
  cc : after.cc = before.cc

/-- The same configuration at another rate. -/
def atRate (config : SerialConfig) (rate : Nat) (positive : 0 < rate) : SerialConfig :=
  { config with baudrate := rate, baudratePositive := positive }

end Anyserial.Posix
