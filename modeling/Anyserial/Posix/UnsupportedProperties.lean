import Anyserial.Posix.Backend
import Anyserial.Posix.Unsupported
import Anyserial.Posix.HostProperties

/-! The rejection of features that a platform has no mechanism for, ahead of any
call on the device. -/
set_option autoImplicit false

namespace Anyserial

open Kit

/-- The configuration with the optional features unset. -/
def SerialConfig.plain (config : SerialConfig) : SerialConfig := { config with lowLatency := false, rs485 := none }

/-- The optional features that are requested, in the order of the checks. -/
def SerialConfig.requestedFeatures (config : SerialConfig) : List String :=
  (if config.rs485.isSome then ["RS-485"] else []) ++ if config.lowLatency then ["low_latency"] else []

namespace Posix

variable {ε δ : Type} {platform : String} {config : SerialConfig} {world : World ε δ}

/-- The policy lets the requests of the configuration through. -/
def Tolerates (config : SerialConfig) : Prop :=
  config.unsupportedPolicy = .raise → config.requestedFeatures = []

def withWarnings (world : World ε δ) (messages : List String) : World ε δ :=
  { world with host := { world.host with warnings := world.host.warnings ++ messages } }

/-- What the two checks come down to. -/
def rejection (platform : String) (config : SerialConfig) : Py (World ε δ) Unit :=
  match config.unsupportedPolicy, config.requestedFeatures with
  | .raise, feature :: _ => throw (unsupportedOn platform feature)
  | .raise, [] => pure ()
  | .warn, features => modify fun world => withWarnings world (features.map (ignoredOn platform))
  | .ignore, _ => pure ()

theorem rejectUnsupported_eq : (rejectUnsupported platform config : Py (World ε δ) Unit) = rejection platform config := by
  funext world
  unfold rejectUnsupported rejection SerialConfig.requestedFeatures
  have silent : withWarnings world [] = world := by simp [withWarnings]
  have twice (first second : String) :
      withWarnings world [first, second] = withWarnings (withWarnings world [first]) [second] := by
    simp [withWarnings]
  cases config.rs485.isSome <;> cases config.lowLatency <;> cases config.unsupportedPolicy <;> first
    | rfl
    | exact congrArg (EStateM.Result.ok PUnit.unit) silent.symm
    | exact congrArg (EStateM.Result.ok PUnit.unit) (twice _ _).symm

theorem withWarnings_nil (world : World ε δ) : withWarnings world [] = world := by
  simp [withWarnings]

theorem ends_rejectUnsupported {returned : Unit → World ε δ → Prop} {raised : PyExc → World ε δ → Prop}
    (refused : ∀ exc, ¬Tolerates config → raised exc world)
    (accepted : ∀ messages, Tolerates config → returned () (withWarnings world messages)) :
    Ends (rejectUnsupported platform config) world returned raised := by
  rw [rejectUnsupported_eq]
  unfold rejection
  cases policy : config.unsupportedPolicy with
  | raise =>
    cases features : config.requestedFeatures with
    | nil => exact withWarnings_nil world ▸ accepted [] fun _ => features
    | cons feature rest => exact refused _ fun tolerates => List.cons_ne_nil _ _ (features.symm.trans (tolerates policy))
  | warn => exact accepted _ fun raises => by simp [policy] at raises
  | ignore => exact withWarnings_nil world ▸ accepted [] fun raises => by simp [policy] at raises

end Posix

end Anyserial
