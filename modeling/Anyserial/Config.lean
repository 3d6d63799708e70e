import Anyserial.Types
import Anyserial.Kit.Number

/-! The validated configuration. What `__post_init__` rejects cannot be built:
the checks are fields of the records. -/
set_option autoImplicit false

namespace Anyserial

open Kit

def minReadChunkSize : Nat := 64

/-- 16 MiB. -/
def maxReadChunkSize : Nat := 1 <<< 24

structure FlowControl where
  xonXoff : Bool := false
  rtsCts : Bool := false
  dtrDsr : Bool := false
  deriving DecidableEq

/-- Kernel-level RS-485 configuration. The delays are in seconds, and the check
`delay < 0` lets a delay that compares with nothing through. -/
structure RS485Config where
  enabled : Bool := true
  rtsOnSend : Bool := true
  rtsAfterSend : Bool := false
  delayBeforeSend : Number := .float (.finite 0)
  delayAfterSend : Number := .float (.finite 0)
  rxDuringTx : Bool := false
  beforeAccepted : delayBeforeSend.value.lt (.finite 0) = false := by decide
  afterAccepted : delayAfterSend.value.lt (.finite 0) = false := by decide
  deriving DecidableEq

structure SerialConfig where
  baudrate : Nat := 115200
  byteSize : ByteSize := .eight
  parity : Parity := .none
  stopBits : StopBits := .one
  flowControl : FlowControl := {}
  exclusive : Bool := false
  hangupOnClose : Bool := true
  lowLatency : Bool := false
  readChunkSize : Nat := 65536
  rs485 : Option RS485Config := none
  unsupportedPolicy : UnsupportedPolicy := .raise
  baudratePositive : 0 < baudrate := by decide
  readChunkSizeMin : minReadChunkSize ≤ readChunkSize := by decide
  readChunkSizeMax : readChunkSize ≤ maxReadChunkSize := by decide
  deriving DecidableEq

def RS485Config.defaults : RS485Config := {}

def SerialConfig.defaults : SerialConfig := {}

end Anyserial
