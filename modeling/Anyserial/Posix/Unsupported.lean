import Anyserial.Posix.Host
import Anyserial.Posix.TermiosApply

/-! Requests that a platform has no mechanism for. Darwin and the BSDs reject the
same two fields, each under the name of its own platform. -/
set_option autoImplicit false

namespace Anyserial.Posix

variable {ε δ : Type} (platform : String)

def unsupportedOn (feature : String) : PyExc :=
  unsupportedFeature (feature ++ " is not supported on " ++ platform)

def ignoredOn (feature : String) : String :=
  feature ++ " request ignored: not supported on " ++ platform

/-- `_reject_feature`. -/
def rejectFeature (feature : String) (policy : UnsupportedPolicy) : Py (World ε δ) Unit :=
  match policy with
  | .raise => throw (unsupportedOn platform feature)
  | .warn => warn (ignoredOn platform feature)
  | .ignore => pure ()

/-- The two independent checks. Under `RAISE` only the first rejection is reported. -/
def rejectUnsupported (config : SerialConfig) : Py (World ε δ) Unit := do
  whenever config.rs485.isSome (rejectFeature platform "RS-485" config.unsupportedPolicy)
  whenever config.lowLatency (rejectFeature platform "low_latency" config.unsupportedPolicy)

end Anyserial.Posix
