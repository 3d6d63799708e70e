import Anyserial.Linux.Device
import Anyserial.Kit.LittleEndian

/-! Kernel-level RS-485: `struct serial_rs485` and the pair of ioctls that carry it. -/
set_option autoImplicit false

namespace Anyserial.Linux

open Kit Posix

def serRs485Enabled : Nat := 1 <<< 0

def serRs485RtsOnSend : Nat := 1 <<< 1

def serRs485RtsAfterSend : Nat := 1 <<< 2

def serRs485RxDuringTx : Nat := 1 <<< 4

def serRs485Size : Nat := 32

/-- The largest delay a field of the struct holds. -/
def delayMsMax : Nat := 0xFFFFFFFF

/-- Mirror of `struct serial_rs485`; the integers are unbounded. -/
structure RS485State where
  flags : Nat := 0
  delayRtsBeforeSend : Nat := 0
  delayRtsAfterSend : Nat := 0
  addrRecv : Nat := 0
  addrDest : Nat := 0
  deriving DecidableEq

namespace RS485State

/-- Every integer fits its field of the struct. -/
def Fits (state : RS485State) : Prop :=
  state.flags < 2 ^ 32 ∧ state.delayRtsBeforeSend < 2 ^ 32 ∧ state.delayRtsAfterSend < 2 ^ 32 ∧
    state.addrRecv < 2 ^ 8 ∧ state.addrDest < 2 ^ 8

instance (state : RS485State) : Decidable state.Fits := inferInstanceAs (Decidable (_ ∧ _))

/-- The two padding bytes and the four padding words. -/
def padding : Bytes := List.replicate 18 0

def toBytes (state : RS485State) : Except PyExc Bytes :=
  if state.Fits then
    .ok (packU32 state.flags ++ packU32 state.delayRtsBeforeSend ++ packU32 state.delayRtsAfterSend ++
      [BitVec.ofNat 8 state.addrRecv, BitVec.ofNat 8 state.addrDest] ++ padding)
  else .error .structError

def shortPayload (size : Nat) : PyExc :=
  .valueError ("payload is " ++ toString size ++ " bytes; expected at least " ++ toString serRs485Size)

/-- The fields of a payload that is long enough. -/
def decode (payload : Bytes) : RS485State where
  flags := unpackU32 (payload.take 4)
  delayRtsBeforeSend := unpackU32 ((payload.drop 4).take 4)
  delayRtsAfterSend := unpackU32 ((payload.drop 8).take 4)
  addrRecv := ((payload.drop 12).head?.getD 0).toNat
  addrDest := ((payload.drop 13).head?.getD 0).toNat

def fromBytes (payload : Bytes) : Except PyExc RS485State :=
  if payload.length < serRs485Size then .error (shortPayload payload.length)
  else .ok (decode payload)

end RS485State

/-- `round`: there is no integer for an infinity or for a value that is not a number. -/
def roundNumber : Number → Except PyExc Int
  | .int n => .ok n
  | .float (.finite value) => .ok (roundHalfEven value)
  | .float .nan => .error (.valueError "cannot convert float NaN to integer")
  | .float .posInf | .float .negInf => .error .overflowError

/-- `_seconds_to_ms` -/
def secondsToMs (seconds : Number) : Except PyExc Nat :=
  if seconds.value.le (.finite 0) then .ok 0
  else do
    let ms ← roundNumber (seconds.scale 1000)
    if ms < 0 then pure 0
    else if (delayMsMax : Int) < ms then pure delayMsMax
    else pure ms.toNat

def flagWhen (condition : Bool) (flag : Nat) : Nat := if condition then flag else 0

/-- `from_config` encodes the four flags of the configuration and the two delays. -/
def fromConfig (config : RS485Config) : Except PyExc RS485State := do
  let flags := flagWhen config.enabled serRs485Enabled ||| flagWhen config.rtsOnSend serRs485RtsOnSend |||
    flagWhen config.rtsAfterSend serRs485RtsAfterSend ||| flagWhen config.rxDuringTx serRs485RxDuringTx
  let before ← secondsToMs config.delayBeforeSend
  let after ← secondsToMs config.delayAfterSend
  pure { flags := flags, delayRtsBeforeSend := before, delayRtsAfterSend := after }

def ownedMask : Nat :=
  serRs485Enabled ||| serRs485RtsOnSend ||| serRs485RtsAfterSend ||| serRs485RxDuringTx

/-- Replaces the flag bits the configuration owns and the delays; the other flag
bits and the addresses are the state's own. -/
def RS485State.withFlagsFrom (state : RS485State) (config : RS485Config) : Except PyExc RS485State := do
  let encoded ← fromConfig config
  pure
    { flags := clearBits state.flags ownedMask ||| (encoded.flags &&& ownedMask)
      delayRtsBeforeSend := encoded.delayRtsBeforeSend
      delayRtsAfterSend := encoded.delayRtsAfterSend
      addrRecv := state.addrRecv
      addrDest := state.addrDest }

section Calls

variable {ε : Type}

def readRs485 (fd : Int) : Py (World ε Device) RS485State := do
  fcntlCall fd .tiocgrs485 .probe
  let device ← getDevice
  liftExcept (RS485State.fromBytes device.rs485)

def writeRs485 (fd : Int) (state : RS485State) (phase : Phase) : Py (World ε Device) Unit := do
  let payload ← liftExcept state.toBytes
  fcntlCall fd .tiocsrs485 phase
  modifyDevice fun device => { device with rs485 := payload }

end Calls

end Anyserial.Linux
