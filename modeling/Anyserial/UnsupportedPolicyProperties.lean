import Anyserial.Posix.UnsupportedProperties
import Anyserial.Darwin.Backend
import Anyserial.Bsd.Backend
import Anyserial.Windows.BackendProperties

/-! How the platforms without low latency and RS-485 treat a configuration that asks for
them: an open or a reconfiguration is compared with the same call without the request. -/
set_option autoImplicit false

namespace Anyserial

open Kit

variable {κ σ : Type}

/-- What a platform calls a warning, a stored configuration and an unsupported feature. -/
structure PlatformView (κ σ : Type) where
  warned : List String → σ → σ
  forgetConfig : σ → σ
  isUnsupported : κ → Prop

/-- The call treats the requests as the policy says: it refuses them before it does anything,
or it proceeds as if they were unset, with a warning for each or without. -/
structure Honours (view : PlatformView κ σ) (call : SerialConfig → EStateM κ σ Unit) (config : SerialConfig) (world : σ) :
    Prop where
  raise : config.unsupportedPolicy = .raise → ∃ exc, view.isUnsupported exc ∧ call config world = .error exc world
  warn : config.unsupportedPolicy = .warn → ∃ messages, messages.length = config.requestedFeatures.length ∧
    SameUpTo view.forgetConfig (call config world) (call config.plain (view.warned messages world))
  ignore : config.unsupportedPolicy = .ignore →
    SameUpTo view.forgetConfig (call config world) (call config.plain world)

variable {config : SerialConfig}

namespace Posix

variable {ε δ : Type} {world : World ε δ} {platform className path : String}

def view (ε δ : Type) : PlatformView PyExc (World ε δ) where
  warned messages world := withWarnings world messages
  forgetConfig world := { world with backend := { world.backend with config := none } }
  isUnsupported exc := ∃ err, exc = .serialError .unsupportedFeatureError err

theorem rejectUnsupported_plain : (rejectUnsupported platform config.plain : Py (World ε δ) Unit) = pure () := by
  rw [rejectUnsupported_eq]
  unfold rejection
  cases config.plain.unsupportedPolicy with
  | raise => rfl
  | warn =>
    funext world
    exact congrArg (EStateM.Result.ok ()) (withWarnings_nil world)
  | ignore => rfl

/-- A body that ignores the two fields honours the policy once the rejection runs first. -/
theorem honours_of_rejection {body : SerialConfig → Py (World ε δ) Unit} (requested : config.requestedFeatures ≠ [])
    (same : ∀ world, SameUpTo (view ε δ).forgetConfig (body config world) (body config.plain world)) :
    Honours (view ε δ) (fun config => do rejectUnsupported platform config; body config) config world := by
  obtain ⟨feature, rest, features⟩ := List.exists_cons_of_ne_nil requested
  have unset : (do rejectUnsupported platform config.plain; body config.plain : Py (World ε δ) Unit) = body config.plain := by
    rw [rejectUnsupported_plain, pure_bind]
  constructor
  case raise =>
    intro policy
    refine ⟨unsupportedOn platform feature, ⟨_, rfl⟩, ?_⟩
    simp only [rejectUnsupported_eq, rejection, policy, features]
    rfl
  case warn =>
    intro policy
    refine ⟨config.requestedFeatures.map (ignoredOn platform), List.length_map .., ?_⟩
    simp only [unset]
    simp only [rejectUnsupported_eq, rejection, policy]
    exact same _
  case ignore =>
    intro policy
    simp only [unset]
    simp only [rejectUnsupported_eq, rejection, policy]
    exact same world

theorem openPort_sameUpTo {applyConfig : Int → SerialConfig → Py (World ε δ) Unit}
    (plain : ∀ fd, applyConfig fd config.plain = applyConfig fd config) (world : World ε δ) :
    SameUpTo (view ε δ).forgetConfig (openPort className applyConfig path config world)
      (openPort className applyConfig path config.plain world) := by
  have sets : ∀ fd, setUp applyConfig fd path config.plain = setUp applyConfig fd path config := by
    intro fd
    rw [setUp, setUp, plain]
    rfl
  unfold openPort
  refine SameUpTo.bind fun backend before => ?_
  by_cases isOpen : backend.isOpen = true
  · rw [if_pos isOpen, if_pos isOpen]
    exact SameUpTo.refl _
  · rw [if_neg isOpen, if_neg isOpen]
    refine SameUpTo.bind fun fd opened => ?_
    rw [sets]
    exact SameUpTo.bind fun _ ready => SameUpTo.modify rfl

theorem configure_sameUpTo {applyConfig : Int → SerialConfig → Py (World ε δ) Unit}
    (plain : ∀ fd, applyConfig fd config.plain = applyConfig fd config) (world : World ε δ) :
    SameUpTo (view ε δ).forgetConfig (configure applyConfig config world) (configure applyConfig config.plain world) := by
  unfold configure
  refine SameUpTo.bind fun backend before => ?_
  rw [plain]
  exact SameUpTo.bind fun _ applied => SameUpTo.modify rfl

end Posix

namespace Windows

variable {world : WindowsWorld} {path : String}

def view : PlatformView WinExc WindowsWorld where
  warned messages world := { world with host := { world.host with warnings := world.host.warnings ++ messages } }
  forgetConfig world := { world with backend := { world.backend with config := none } }
  isUnsupported exc := ∃ err, exc = .raised (.serialError .unsupportedFeatureError err)

/-- No warning is given, and no call is taken back. -/
structure Quiet (before after : WindowsWorld) : Prop where
  warnings : after.host.warnings = before.host.warnings
  trace : before.host.trace.length ≤ after.host.trace.length

instance : Std.Refl Quiet := ⟨fun _ => ⟨rfl, Nat.le_refl _⟩⟩

instance : IsTrans WindowsWorld Quiet where
  trans _ _ _ first second := ⟨second.warnings.trans first.warnings, Nat.le_trans first.trace second.trace⟩

theorem quiet_kernelCall {call : Kernel32Call} {handle : Handle} : Keeps Quiet (kernelCall call handle) := by
  intro world
  have quiet : Quiet world (logged world call handle) := ⟨rfl, Nat.le_succ _⟩
  rw [ends_kernelCall]
  exact ⟨fun _ _ => quiet, fun _ => quiet⟩

theorem quiet_modifyBackend {f : WindowsBackend → WindowsBackend} : Keeps Quiet (modifyBackend f) :=
  Keeps.modify fun _ => ⟨rfl, Nat.le_refl _⟩

theorem quiet_modifyDevice {f : CommDevice → CommDevice} : Keeps Quiet (modifyDevice f) :=
  Keeps.modify fun _ => ⟨rfl, Nat.le_refl _⟩

theorem quiet_exceptOSError {α : Type} {body : Win α} {handler : WinExc → Win α} (quiet : Keeps Quiet body)
    (handled : ∀ exc, Keeps Quiet (handler exc)) : Keeps Quiet (exceptOSError body handler) :=
  quiet.tryCatch fun exc => .ite (fun _ => handled exc) fun _ => .throw exc

theorem quiet_closeHandle {handle : Handle} : Keeps Quiet (closeHandle handle) := by
  intro world
  have quiet : Quiet world { (logged world .closeHandle handle) with
      host := { (logged world .closeHandle handle).host with live := world.host.live.erase handle } } := ⟨rfl, Nat.le_succ _⟩
  simp only [closeHandle, ends_bind, ends_getHost, ends_record, ends_modifyHost, ends_refuse]
  exact ⟨fun _ _ => quiet, fun _ => quiet⟩

theorem quiet_applyDcb : Keeps Quiet (applyDcb config) :=
  Keeps.bind (Keeps.get.map _) fun _ => quiet_kernelCall.bind fun _ => Keeps.bind (Keeps.get.map _) fun _ =>
    quiet_kernelCall.bind fun _ => quiet_modifyDevice

theorem quiet_setUpComm {handle : Handle} : Keeps Quiet (setUpComm handle config) :=
  quiet_kernelCall.bind fun _ => quiet_modifyDevice.bind fun _ => quiet_applyDcb.bind fun _ =>
    quiet_kernelCall.bind fun _ => quiet_modifyDevice

theorem quiet_attach {handle : Handle} : Keeps Quiet (attach handle) := by
  have registers : Keeps Quiet (registerIocp handle) :=
    quiet_kernelCall.bind fun _ => Keeps.bind (Keeps.get.map _) fun _ => .ite (fun _ => .throw _) fun _ => .pure ()
  have masks : Keeps Quiet (setCommMask handle evAllModem) := quiet_kernelCall.bind fun _ => quiet_modifyDevice
  exact Keeps.bind (Keeps.get.map _) fun _ => .ite (fun _ => registers.bind fun _ => masks) fun _ =>
    quiet_modifyBackend.bind fun _ => registers.bind fun _ => masks

/-- The steps of an open that run on the new handle. -/
theorem quiet_takeOver {handle : Handle} : Keeps Quiet (do
    exceptOSError (setUpComm handle config) fun exc => do
      suppressOSError (closeHandle handle)
      modifyBackend fun backend => { backend with handle := 0, isOpen := false }
      throw (winerrorToException exc .openPort path)
    attach handle
    modifyBackend fun backend => { backend with config := some config, isOpen := true }) := by
  refine .bind (quiet_exceptOSError quiet_setUpComm fun exc => ?_) fun _ => quiet_attach.bind fun _ => quiet_modifyBackend
  exact (quiet_exceptOSError quiet_closeHandle fun _ => .pure ()).bind fun _ => quiet_modifyBackend.bind fun _ => .throw _

/-- An open warns of nothing, and an error that it raises is not about a feature or comes after a call. -/
theorem openPort_quiet : Ends (openPort path config) world (fun _ after => Quiet world after)
    (fun exc after => Quiet world after ∧ (view.isUnsupported exc → world.host.trace.length < after.host.trace.length)) := by
  rw [openPort, ends_bind, ends_getBackend, ends_ite]
  refine ⟨fun _ => ⟨Std.Refl.refl world, by rintro ⟨err, same⟩; cases same⟩, fun _ => ?_⟩
  rw [ends_bind, ends_modifyBackend, ends_bind, ends_getHost]
  cases detected : detectRuntime world.host.eventLoop with
  | error exc =>
    refine ⟨⟨rfl, Nat.le_refl _⟩, fun unsupported => ?_⟩
    obtain ⟨err, same⟩ := unsupported
    cases loop : world.host.eventLoop <;> simp [loop, detectRuntime, noRuntime, notProactor] at detected <;>
      simp [← detected] at same
  | ok flavour =>
    dsimp only
    rw [ends_bind, ends_modifyBackend, ends_bind, ends_translating, ends_createFile]
    refine ⟨fun err _ => ?_, fun _ => ?_⟩
    · exact ⟨fun _ => ⟨⟨rfl, Nat.le_succ _⟩, fun _ => Nat.lt_succ_self _⟩, by simp [WinExc.isOSError]⟩
    · rw [ends_bind, ends_modifyBackend]
      refine (quiet_takeOver _).mono (fun _ after quiet => ?_) fun exc after quiet => ?_
      · exact ⟨quiet.warnings, Nat.le_of_succ_le quiet.trace⟩
      · exact ⟨⟨quiet.warnings, Nat.le_of_succ_le quiet.trace⟩, fun _ => quiet.trace⟩

theorem configure_quiet : Ends (configure config) world (fun _ after => Quiet world after)
    (fun exc after => Quiet world after ∧ (view.isUnsupported exc → world.host.trace.length < after.host.trace.length)) := by
  rw [configure, raiseIfClosed, ends_bind, ends_bind, ends_getBackend, ends_ite]
  constructor
  · intro isOpen
    rw [ends_pure, ends_bind, ends_getBackend, ends_bind, ends_translating, applyDcb, ends_bind, ends_getBackend, ends_bind,
      ends_kernelCall]
    have logs : Quiet world (logged world .getCommState world.backend.handle) := ⟨rfl, Nat.le_succ _⟩
    have rest : ∀ handle, Keeps Quiet (do
        let host ← getHost
        kernelCall .setCommState handle
        modifyDevice fun device => { device with dcb := host.device.dcb.applyConfig config }) :=
      fun handle => Keeps.bind (Keeps.get.map _) fun _ => quiet_kernelCall.bind fun _ => quiet_modifyDevice
    refine ⟨fun err _ => ⟨fun _ => ⟨logs, fun _ => Nat.lt_succ_self _⟩, by simp [WinExc.isOSError]⟩, fun _ => ?_⟩
    refine (rest world.backend.handle _).mono (fun _ after quiet => ?_) fun exc after quiet => ?_
    · exact ⟨quiet.warnings, Nat.le_of_succ_le quiet.trace⟩
    · have longer : world.host.trace.length < after.host.trace.length := quiet.trace
      have same : Quiet world after := ⟨quiet.warnings, Nat.le_of_lt longer⟩
      exact ⟨fun _ => ⟨same, fun _ => longer⟩, fun _ => ⟨same, fun _ => longer⟩⟩
  · intro closed
    exact ⟨Std.Refl.refl world, by rintro ⟨err, same⟩; cases same⟩

theorem openPort_sameUpTo (world : WindowsWorld) :
    SameUpTo view.forgetConfig (openPort path config world) (openPort path config.plain world) := by
  unfold openPort
  refine SameUpTo.bind fun backend before => ?_
  by_cases isOpen : backend.isOpen = true
  · rw [if_pos isOpen, if_pos isOpen]
    exact SameUpTo.refl _
  · rw [if_neg isOpen, if_neg isOpen]
    refine SameUpTo.bind fun _ named => SameUpTo.bind fun host t => ?_
    cases detectRuntime host.eventLoop with
    | error exc => exact SameUpTo.refl _
    | ok flavour =>
      refine SameUpTo.bind fun _ _ => SameUpTo.bind fun handle _ => SameUpTo.bind fun _ owner => ?_
      exact SameUpTo.bind fun _ _ => SameUpTo.bind fun _ attached => SameUpTo.modify rfl

theorem configure_sameUpTo (world : WindowsWorld) :
    SameUpTo view.forgetConfig (configure config world) (configure config.plain world) := by
  unfold configure
  exact SameUpTo.bind fun _ _ => SameUpTo.bind fun backend _ => SameUpTo.bind fun _ applied => SameUpTo.modify rfl

/-- A call that warns of nothing and refuses nothing honours the policy that asks for neither. -/
theorem honours_iff_ignore {call : SerialConfig → Win Unit} (requested : config.requestedFeatures ≠ [])
    (quiet : ∀ config world, Ends (call config) world (fun _ after => Quiet world after) (fun exc after => Quiet world after ∧
      (view.isUnsupported exc → world.host.trace.length < after.host.trace.length)))
    (same : SameUpTo view.forgetConfig (call config world) (call config.plain world)) :
    Honours view call config world ↔ config.unsupportedPolicy = .ignore := by
  have silent : ∀ config world, (finalState (call config) world).host.warnings = world.host.warnings :=
    fun config world => ((quiet config world).mono (fun _ _ quiet => quiet.warnings) fun _ _ quiet => quiet.1.warnings).finalState
  constructor
  · intro honours
    cases policy : config.unsupportedPolicy with
    | raise =>
      obtain ⟨exc, unsupported, ran⟩ := honours.raise policy
      have longer := ((ends_of_error ran).mp (quiet config world)).2 unsupported
      exact absurd longer (Nat.lt_irrefl _)
    | warn =>
      obtain ⟨messages, count, agree⟩ := honours.warn policy
      have final := congrArg (fun world => world.host.warnings) agree.finalState
      have warned : world.host.warnings = world.host.warnings ++ messages :=
        (silent config world).symm.trans (final.trans (silent config.plain _))
      have unset : messages = [] := by simpa using warned
      exact absurd (List.length_eq_zero_iff.mp (by simpa [unset] using count.symm)) requested
    | ignore => rfl
  · intro policy
    exact ⟨fun raises => by simp [policy] at raises, fun warns => by simp [policy] at warns, fun _ => same⟩

end Windows

section Platforms

variable {δ : Type} [Posix.TermiosDevice δ]

/-- Darwin and the BSDs treat every request as the policy says, on both entry points and in
any state. Windows does exactly when the policy is to ignore the request. -/
theorem unsupported_features_honoured (requested : config.requestedFeatures ≠ []) :
    (∀ world, (∀ path, Honours (Posix.view Unit Darwin.Device) (Darwin.openPort path) config world) ∧
        Honours (Posix.view Unit Darwin.Device) Darwin.configure config world) ∧
      (∀ (termios : Posix.TermiosModule) world,
        (∀ path, Honours (Posix.view Unit δ) (Bsd.openPort termios path) config world) ∧
          Honours (Posix.view Unit δ) (Bsd.configure termios) config world) ∧
      ∀ world, (∀ path, Honours Windows.view (Windows.openPort path) config world ↔ config.unsupportedPolicy = .ignore) ∧
        (Honours Windows.view Windows.configure config world ↔ config.unsupportedPolicy = .ignore) := by
  refine ⟨fun world => ⟨fun path => ?_, ?_⟩, fun termios world => ⟨fun path => ?_, ?_⟩, fun world => ⟨fun path => ?_, ?_⟩⟩
  · exact Posix.honours_of_rejection requested (Posix.openPort_sameUpTo fun _ => rfl)
  · exact Posix.honours_of_rejection requested (Posix.configure_sameUpTo fun _ => rfl)
  · exact Posix.honours_of_rejection requested (Posix.openPort_sameUpTo fun _ => rfl)
  · exact Posix.honours_of_rejection requested (Posix.configure_sameUpTo fun _ => rfl)
  · exact Windows.honours_iff_ignore requested (fun _ _ => Windows.openPort_quiet) (Windows.openPort_sameUpTo world)
  · exact Windows.honours_iff_ignore requested (fun _ _ => Windows.configure_quiet) (Windows.configure_sameUpTo world)

/-- Both features, to be warned of. -/
def warned : SerialConfig := { SerialConfig.defaults with lowLatency := true, rs485 := some .defaults, unsupportedPolicy := .warn }

theorem unsupported_features_honoured_when_warned :
    (∀ world, (∀ path, Honours (Posix.view Unit Darwin.Device) (Darwin.openPort path) warned world) ∧
        Honours (Posix.view Unit Darwin.Device) Darwin.configure warned world) ∧
      (∀ (termios : Posix.TermiosModule) world,
        (∀ path, Honours (Posix.view Unit Darwin.Device) (Bsd.openPort termios path) warned world) ∧
          Honours (Posix.view Unit Darwin.Device) (Bsd.configure termios) warned world) ∧
      ∀ world, (∀ path, Honours Windows.view (Windows.openPort path) warned world ↔ warned.unsupportedPolicy = .ignore) ∧
        (Honours Windows.view Windows.configure warned world ↔ warned.unsupportedPolicy = .ignore) :=
  unsupported_features_honoured (by decide)

/-- Under the default policy an open on Windows returns, with the request in its configuration. -/
theorem low_latency_passes_on_windows :
    Windows.settle (Windows.openPort "COM3" { lowLatency := true }) ⟨{}, Windows.comHost .proactor {}⟩ =
      (none, ⟨"COM3", 2, some 2, true, some .asyncio, some { lowLatency := true }⟩, [2, 1]) := by decide +kernel

end Platforms

end Anyserial
