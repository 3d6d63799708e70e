import Anyserial.Posix.TermiosApply
import Anyserial.Kit.BitField

/-! What the termios builders can do: which configurations they reject, and what
an accepted one leaves of the attributes it starts from. -/
set_option autoImplicit false

namespace Anyserial.Posix

theorem clearBits_lt {word mask bound : Nat} (small : word < 2 ^ bound) : clearBits word mask < 2 ^ bound :=
  Nat.xor_lt_two_pow small (Nat.lt_of_le_of_lt Nat.and_le_left small)

theorem clearBits_eq_assign (word mask : Nat) : clearBits word mask = Kit.assign word mask 0 :=
  (Nat.or_zero _).symm

/-- The four flag words fit a field of that many bits. -/
structure TermiosAttrs.WordsFit (attrs : TermiosAttrs) (bound : Nat) : Prop where
  iflag : attrs.iflag < 2 ^ bound
  oflag : attrs.oflag < 2 ^ bound
  cflag : attrs.cflag < 2 ^ bound
  lflag : attrs.lflag < 2 ^ bound

namespace TermiosModule

variable {termios : TermiosModule} {attrs before middle after : TermiosAttrs} {config : SerialConfig}

/-- The masks that a builder may set. -/
def settable (termios : TermiosModule) : List Nat :=
  [termios.ixon, termios.ixoff, termios.cs5, termios.cs6, termios.cs7, termios.cs8, termios.cread, termios.clocal,
    termios.parenb, termios.parodd, termios.cmspar, termios.cstopb, termios.rtsCtsMask, termios.hupcl]

/-- A builder keeps the speeds, and the flag words stay as wide as they were. -/
structure Builds (termios : TermiosModule) (before after : TermiosAttrs) : Prop where
  ispeed : after.ispeed = before.ispeed
  ospeed : after.ospeed = before.ospeed
  wordsFit : ∀ bound, (∀ mask ∈ termios.settable, mask < 2 ^ bound) → before.WordsFit bound → after.WordsFit bound

theorem Builds.trans (first : termios.Builds before middle) (second : termios.Builds middle after) :
    termios.Builds before after :=
  ⟨second.ispeed.trans first.ispeed, second.ospeed.trans first.ospeed,
    fun bound masks fits => second.wordsFit bound masks (first.wordsFit bound masks fits)⟩

theorem applyRawMode_builds : termios.Builds attrs (termios.applyRawMode attrs) := by
  refine ⟨rfl, rfl, fun bound masks fits => ?_⟩
  have raw : termios.cs8 ||| termios.cread ||| termios.clocal < 2 ^ bound :=
    Nat.or_lt_two_pow (Nat.or_lt_two_pow (masks _ (by simp [settable])) (masks _ (by simp [settable])))
      (masks _ (by simp [settable]))
  exact ⟨clearBits_lt fits.iflag, clearBits_lt fits.oflag, Nat.or_lt_two_pow (clearBits_lt fits.cflag) raw,
    clearBits_lt fits.lflag⟩

theorem applyByteSize_builds {byteSize : ByteSize} : termios.Builds attrs (termios.applyByteSize attrs byteSize) := by
  refine ⟨rfl, rfl, fun bound masks fits => ⟨fits.iflag, fits.oflag, ?_, fits.lflag⟩⟩
  have bits : termios.byteSizeBits byteSize < 2 ^ bound := by
    cases byteSize <;> exact masks _ (by simp [settable, byteSizeBits])
  exact Nat.or_lt_two_pow (clearBits_lt fits.cflag) bits

/-- Setting some of the settable control flags over a cleared word. -/
theorem builds_cflag {cflag : Nat}
    (fits : ∀ bound, (∀ mask ∈ termios.settable, mask < 2 ^ bound) → attrs.cflag < 2 ^ bound → cflag < 2 ^ bound) :
    termios.Builds attrs { attrs with cflag := cflag } :=
  ⟨rfl, rfl, fun bound masks words => ⟨words.iflag, words.oflag, fits bound masks words.cflag, words.lflag⟩⟩

theorem applyParity_builds {parity : Parity} (built : termios.applyParity attrs parity = .ok after) :
    termios.Builds attrs after := by
  let cleared := clearBits attrs.cflag (termios.parenb ||| termios.parodd)
  let base := if termios.cmspar ≠ 0 then clearBits cleared termios.cmspar else cleared
  have small : ∀ bound, attrs.cflag < 2 ^ bound → base < 2 ^ bound := by
    intro bound word
    dsimp only [base]
    split
    · exact clearBits_lt (clearBits_lt word)
    · exact clearBits_lt word
  have enable : ∀ mask, (∀ bound, (∀ mask ∈ termios.settable, mask < 2 ^ bound) → mask < 2 ^ bound) →
      termios.Builds attrs { attrs with cflag := base ||| mask } :=
    fun mask masked => builds_cflag fun bound masks word => Nat.or_lt_two_pow (small bound word) (masked bound masks)
  have parenb : ∀ bound, (∀ mask ∈ termios.settable, mask < 2 ^ bound) → termios.parenb < 2 ^ bound :=
    fun _ masks => masks _ (by simp [settable])
  have parodd : ∀ bound, (∀ mask ∈ termios.settable, mask < 2 ^ bound) → termios.parodd < 2 ^ bound :=
    fun _ masks => masks _ (by simp [settable])
  have cmspar : ∀ bound, (∀ mask ∈ termios.settable, mask < 2 ^ bound) → termios.cmspar < 2 ^ bound :=
    fun _ masks => masks _ (by simp [settable])
  cases parity with
  | none =>
    cases built
    exact builds_cflag fun bound _ => small bound
  | even =>
    cases built
    exact enable _ parenb
  | odd =>
    cases built
    exact enable _ fun bound masks => Nat.or_lt_two_pow (parenb bound masks) (parodd bound masks)
  | mark =>
    by_cases supported : termios.cmspar = 0
    · simp [applyParity, supported] at built
    · simp only [applyParity, supported, if_false, Except.ok.injEq] at built
      subst built
      exact enable _ fun bound masks =>
        Nat.or_lt_two_pow (Nat.or_lt_two_pow (parenb bound masks) (parodd bound masks)) (cmspar bound masks)
  | space =>
    by_cases supported : termios.cmspar = 0
    · simp [applyParity, supported] at built
    · simp only [applyParity, supported, if_false, Except.ok.injEq] at built
      subst built
      exact enable _ fun bound masks => Nat.or_lt_two_pow (parenb bound masks) (cmspar bound masks)

theorem applyStopBits_builds {stopBits : StopBits} (built : termios.applyStopBits attrs stopBits = .ok after) :
    termios.Builds attrs after := by
  cases stopBits with
  | one =>
    cases built
    exact builds_cflag fun _ _ word => clearBits_lt word
  | onePointFive => cases built
  | two =>
    cases built
    exact builds_cflag fun _ masks word => Nat.or_lt_two_pow word (masks _ (by simp [settable]))

theorem applyHangup_builds {hangupOnClose : Bool} : termios.Builds attrs (termios.applyHangup attrs hangupOnClose) := by
  cases hangupOnClose with
  | true => exact builds_cflag fun _ masks word => Nat.or_lt_two_pow word (masks _ (by simp [settable]))
  | false => exact builds_cflag fun _ _ word => clearBits_lt word

theorem applyFlowControl_builds {flow : FlowControl} (built : termios.applyFlowControl attrs flow = .ok after) :
    termios.Builds attrs after := by
  simp only [applyFlowControl] at built
  split at built
  · cases built
  · split at built
    · cases built
    · cases built
      refine ⟨rfl, rfl, fun bound masks fits => ⟨?_, fits.oflag, ?_, fits.lflag⟩⟩
      · have xonXoff : termios.ixon ||| termios.ixoff < 2 ^ bound :=
          Nat.or_lt_two_pow (masks _ (by simp [settable])) (masks _ (by simp [settable]))
        dsimp only
        split
        · exact Nat.or_lt_two_pow (clearBits_lt fits.iflag) xonXoff
        · exact clearBits_lt fits.iflag
      · have mask : termios.rtsCtsMask < 2 ^ bound := masks _ (by simp [settable])
        have cleared : (if termios.rtsCtsMask ≠ 0 then clearBits attrs.cflag termios.rtsCtsMask else attrs.cflag) <
            2 ^ bound := by
          split
          · exact clearBits_lt fits.cflag
          · exact fits.cflag
        dsimp only
        split
        · exact Nat.or_lt_two_pow cleared mask
        · exact cleared

/-- The configurations that the termios of a platform can express. -/
structure Representable (termios : TermiosModule) (config : SerialConfig) : Prop where
  parity : config.parity = .mark ∨ config.parity = .space → termios.cmspar ≠ 0
  stopBits : config.stopBits ≠ .onePointFive
  rtsCts : config.flowControl.rtsCts = true → termios.rtsCtsMask ≠ 0
  dtrDsr : config.flowControl.dtrDsr = false

/-- The result of a builder that accepts its inputs exactly when they are `fine`. -/
def Rejects (fine : Prop) (result : Except PyExc TermiosAttrs) : Prop :=
  (fine ∧ ∃ after, result = .ok after) ∨ (¬fine ∧ ∃ message, result = .error (unsupportedFeature message))

theorem applyParity_rejects (termios : TermiosModule) (attrs : TermiosAttrs) (parity : Parity) :
    Rejects (parity = .mark ∨ parity = .space → termios.cmspar ≠ 0) (termios.applyParity attrs parity) := by
  cases parity with
  | none => exact .inl ⟨by simp, _, rfl⟩
  | even => exact .inl ⟨by simp, _, rfl⟩
  | odd => exact .inl ⟨by simp, _, rfl⟩
  | mark =>
    by_cases unsupported : termios.cmspar = 0
    · exact .inr ⟨by simp [unsupported], _, if_pos unsupported⟩
    · exact .inl ⟨fun _ => unsupported, _, if_neg unsupported⟩
  | space =>
    by_cases unsupported : termios.cmspar = 0
    · exact .inr ⟨by simp [unsupported], _, if_pos unsupported⟩
    · exact .inl ⟨fun _ => unsupported, _, if_neg unsupported⟩

theorem applyStopBits_rejects (termios : TermiosModule) (attrs : TermiosAttrs) (stopBits : StopBits) :
    Rejects (stopBits ≠ .onePointFive) (termios.applyStopBits attrs stopBits) := by
  cases stopBits with
  | one => exact .inl ⟨nofun, _, rfl⟩
  | onePointFive => exact .inr ⟨by simp, _, rfl⟩
  | two => exact .inl ⟨nofun, _, rfl⟩

theorem applyFlowControl_rejects (termios : TermiosModule) (attrs : TermiosAttrs) (flow : FlowControl) :
    Rejects ((flow.rtsCts = true → termios.rtsCtsMask ≠ 0) ∧ flow.dtrDsr = false)
      (termios.applyFlowControl attrs flow) := by
  by_cases missing : flow.rtsCts = true ∧ termios.rtsCtsMask = 0
  · exact .inr ⟨fun fine => fine.1 missing.1 missing.2, _, if_pos missing⟩
  · have supported : flow.rtsCts = true → termios.rtsCtsMask ≠ 0 := fun wanted none => missing ⟨wanted, none⟩
    by_cases dtrDsr : flow.dtrDsr = true
    · exact .inr ⟨by simp [dtrDsr], _, (if_neg missing).trans (if_pos dtrDsr)⟩
    · exact .inl ⟨⟨supported, by simpa using dtrDsr⟩, _, (if_neg missing).trans (if_neg dtrDsr)⟩

/-- The builders accept exactly the representable configurations. Everything else
is reported as an unsupported feature. -/
theorem applyAll_rejects (termios : TermiosModule) (attrs : TermiosAttrs) (config : SerialConfig) :
    Rejects (termios.Representable config) (termios.applyAll attrs config) := by
  rcases applyParity_rejects termios (termios.applyByteSize (termios.applyRawMode attrs) config.byteSize)
      config.parity with ⟨parity, first, builtFirst⟩ | ⟨parity, message, error⟩
  · rcases applyStopBits_rejects termios first config.stopBits with
      ⟨stopBits, second, builtSecond⟩ | ⟨stopBits, message, error⟩
    · rcases applyFlowControl_rejects termios second config.flowControl with
      ⟨flow, third, builtThird⟩ | ⟨flow, message, error⟩
      · refine .inl ⟨⟨parity, stopBits, flow.1, flow.2⟩, termios.applyHangup third config.hangupOnClose, ?_⟩
        simp only [applyAll, builtFirst, builtSecond, builtThird, bind, Except.bind, pure, Except.pure]
      · refine .inr ⟨fun fine => flow ⟨fine.rtsCts, fine.dtrDsr⟩, message, ?_⟩
        simp only [applyAll, builtFirst, builtSecond, error, bind, Except.bind]
    · refine .inr ⟨fun fine => stopBits fine.stopBits, message, ?_⟩
      simp only [applyAll, builtFirst, error, bind, Except.bind]
  · refine .inr ⟨fun fine => parity fine.parity, message, ?_⟩
    simp only [applyAll, error, bind, Except.bind]

theorem applyAll_builds (built : termios.applyAll attrs config = .ok after) : termios.Builds attrs after := by
  simp only [applyAll, bind, Except.bind, pure, Except.pure] at built
  split at built
  · cases built
  · rename_i first builtFirst
    split at built
    · cases built
    · rename_i second builtSecond
      split at built
      · cases built
      · rename_i third builtThird
        cases built
        have start : termios.Builds attrs (termios.applyByteSize (termios.applyRawMode attrs) config.byteSize) :=
          applyRawMode_builds.trans applyByteSize_builds
        exact (((start.trans (applyParity_builds builtFirst)).trans (applyStopBits_builds builtSecond)).trans
          (applyFlowControl_builds builtThird)).trans applyHangup_builds

end TermiosModule

end Anyserial.Posix
