import Anyserial.Config
import Anyserial.Exceptions

/-! The `DCB` of a serial handle and the overlay of a configuration on it. -/
set_option autoImplicit false

namespace Anyserial.Windows

/-- `sizeof(DCB)`. -/
def dcbSize : Nat := 28

/-- The fields in the order of the header, each of its own width. -/
structure Dcb where
  dcbLength : BitVec 32
  baudRate : BitVec 32
  fBinary : BitVec 1
  fParity : BitVec 1
  fOutxCtsFlow : BitVec 1
  fOutxDsrFlow : BitVec 1
  fDtrControl : BitVec 2
  fDsrSensitivity : BitVec 1
  fTXContinueOnXoff : BitVec 1
  fOutX : BitVec 1
  fInX : BitVec 1
  fErrorChar : BitVec 1
  fNull : BitVec 1
  fRtsControl : BitVec 2
  fAbortOnError : BitVec 1
  fDummy2 : BitVec 17
  wReserved : BitVec 16
  xonLim : BitVec 16
  xoffLim : BitVec 16
  byteSize : BitVec 8
  parity : BitVec 8
  stopBits : BitVec 8
  xonChar : Byte
  xoffChar : Byte
  errorChar : Byte
  eofChar : Byte
  evtChar : Byte
  wReserved1 : BitVec 16
  deriving DecidableEq, Repr

def Dcb.zero : Dcb := ⟨0, 0, 0, 0, 0, 0, 0, 0, 0, 0, 0, 0, 0, 0, 0, 0, 0, 0, 0, 0, 0, 0, 0, 0, 0, 0, 0, 0⟩

def parityToWin32 : Parity → BitVec 8
  | .none => 0
  | .odd => 1
  | .even => 2
  | .mark => 3
  | .space => 4

def stopBitsToWin32 : StopBits → BitVec 8
  | .one => 0
  | .onePointFive => 1
  | .two => 2

def byteSizeToWin32 : ByteSize → BitVec 8
  | .five => 5
  | .six => 6
  | .seven => 7
  | .eight => 8

def rtsControlEnable : BitVec 2 := 1

def rtsControlHandshake : BitVec 2 := 2

def dtrControlEnable : BitVec 2 := 1

def dtrControlHandshake : BitVec 2 := 2

def xonChar : Byte := 0x11

def xoffChar : Byte := 0x13

/-- `apply_config`. The rate goes into a `c_uint32`, which keeps it modulo `2 ^ 32`;
without software flow control its characters and limits stay as they are. -/
def Dcb.applyConfig (dcb : Dcb) (config : SerialConfig) : Dcb :=
  let flow := config.flowControl
  let dcb :=
    { dcb with
      dcbLength := BitVec.ofNat 32 dcbSize
      baudRate := BitVec.ofNat 32 config.baudrate
      byteSize := byteSizeToWin32 config.byteSize
      parity := parityToWin32 config.parity
      stopBits := stopBitsToWin32 config.stopBits
      fBinary := 1
      fAbortOnError := 0
      fNull := 0
      fErrorChar := 0
      fDsrSensitivity := 0
      fTXContinueOnXoff := 0
      fParity := if config.parity = Parity.none then 0 else 1 }
  let dcb :=
    if flow.xonXoff then
      { dcb with fOutX := 1, fInX := 1, xonChar := Windows.xonChar, xoffChar := Windows.xoffChar, xonLim := 2048, xoffLim := 512 }
    else { dcb with fOutX := 0, fInX := 0 }
  let dcb :=
    if flow.rtsCts then { dcb with fOutxCtsFlow := 1, fRtsControl := rtsControlHandshake }
    else { dcb with fOutxCtsFlow := 0, fRtsControl := rtsControlEnable }
  if flow.dtrDsr then { dcb with fOutxDsrFlow := 1, fDtrControl := dtrControlHandshake }
  else { dcb with fOutxDsrFlow := 0, fDtrControl := dtrControlEnable }

/-- The inverse tables. -/
def win32ToParity (value : BitVec 8) : Option Parity :=
  [.none, .odd, .even, .mark, .space].find? fun parity => parityToWin32 parity = value

def win32ToStopBits (value : BitVec 8) : Option StopBits :=
  [.one, .onePointFive, .two].find? fun stopBits => stopBitsToWin32 stopBits = value

def win32ToByteSize (value : BitVec 8) : Option ByteSize :=
  [.five, .six, .seven, .eight].find? fun byteSize => byteSizeToWin32 byteSize = value

/-- The dictionary that `read_dcb` returns. -/
structure DcbReading where
  baudrate : Nat
  byteSize : ByteSize
  parity : Parity
  stopBits : StopBits
  xonXoff : Bool
  rtsCts : Bool
  dtrDsr : Bool
  fBinary : Nat
  fAbortOnError : Nat
  fParity : Nat
  deriving DecidableEq, Repr

def unknownValue (field : String) (value : BitVec 8) : PyExc :=
  .serialError .unsupportedConfigurationError
    ⟨none, "DCB." ++ field ++ " has unknown value " ++ toString value.toNat, none⟩

/-- `read_dcb`. -/
def Dcb.read (dcb : Dcb) : Except PyExc DcbReading :=
  match win32ToParity dcb.parity, win32ToStopBits dcb.stopBits, win32ToByteSize dcb.byteSize with
  | none, _, _ => .error (unknownValue "Parity" dcb.parity)
  | some _, none, _ => .error (unknownValue "StopBits" dcb.stopBits)
  | some _, some _, none => .error (unknownValue "ByteSize" dcb.byteSize)
  | some parity, some stopBits, some byteSize =>
      .ok
        { baudrate := dcb.baudRate.toNat
          byteSize := byteSize
          parity := parity
          stopBits := stopBits
          xonXoff := dcb.fOutX ≠ 0 ∧ dcb.fInX ≠ 0
          rtsCts := dcb.fOutxCtsFlow ≠ 0 ∧ dcb.fRtsControl = rtsControlHandshake
          dtrDsr := dcb.fOutxDsrFlow ≠ 0 ∧ dcb.fDtrControl = dtrControlHandshake
          fBinary := dcb.fBinary.toNat
          fAbortOnError := dcb.fAbortOnError.toNat
          fParity := dcb.fParity.toNat }

/-- `COMMTIMEOUTS`. -/
structure CommTimeouts where
  readIntervalTimeout : BitVec 32
  readTotalTimeoutMultiplier : BitVec 32
  readTotalTimeoutConstant : BitVec 32
  writeTotalTimeoutMultiplier : BitVec 32
  writeTotalTimeoutConstant : BitVec 32
  deriving DecidableEq, Repr

def maxDword : BitVec 32 := 0xFFFFFFFF

/-- A read waits for its first byte, for a millisecond at most. -/
def buildReadAnyTimeouts : CommTimeouts := ⟨maxDword, maxDword, 1, 0, 0⟩

end Anyserial.Windows
