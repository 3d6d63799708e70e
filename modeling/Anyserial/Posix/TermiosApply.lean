import Anyserial.Exceptions
import Anyserial.Config

/-! The pure builders that turn a configuration into termios flag words. The
constants of the platform's `termios` module are a parameter. -/
set_option autoImplicit false

namespace Anyserial.Posix

/-- The constants a platform's `termios` module defines; `0` or `none` stands for
a missing name. `cmspar` already includes the fallback value on Linux. -/
structure TermiosModule where
  ignbrk : Nat
  brkint : Nat
  parmrk : Nat
  istrip : Nat
  inlcr : Nat
  igncr : Nat
  icrnl : Nat
  ixon : Nat
  ixoff : Nat
  ixany : Nat
  opost : Nat
  echo : Nat
  echonl : Nat
  icanon : Nat
  isig : Nat
  iexten : Nat
  csize : Nat
  cs5 : Nat
  cs6 : Nat
  cs7 : Nat
  cs8 : Nat
  cread : Nat
  clocal : Nat
  parenb : Nat
  parodd : Nat
  cstopb : Nat
  hupcl : Nat
  cmspar : Nat
  crtscts : Nat
  cctsOflow : Nat
  crtsIflow : Nat
  vmin : Nat
  vtime : Nat
  /-- `{bps: termios.Bxxxx}` for every rate the module defines. -/
  standardBaudRates : List (Nat × Nat)
  b9600 : Nat
  tiocinq : Option Nat
  tiocoutq : Option Nat
  tiocmget : Option Nat
  tiocmbis : Option Nat
  tiocmbic : Option Nat
  tiocsbrk : Option Nat
  tioccbrk : Option Nat
  tiocmRts : Nat
  tiocmDtr : Nat
  tiocmCts : Nat
  tiocmDsr : Nat
  tiocmRi : Nat
  tiocmCd : Nat

/-- One control character as `termios.tcgetattr` hands it back. -/
inductive CcValue where
  | bytes (value : Bytes)
  | int (value : Nat)
  deriving DecidableEq

structure TermiosAttrs where
  iflag : Nat
  oflag : Nat
  cflag : Nat
  lflag : Nat
  ispeed : Nat
  ospeed : Nat
  cc : List CcValue
  deriving DecidableEq

/-- `word & ~mask` on unbounded integers. -/
def clearBits (word mask : Nat) : Nat := word ^^^ (word &&& mask)

/-- An `UnsupportedFeatureError` built from a message alone. -/
def unsupportedFeature (message : String) : PyExc :=
  .serialError .unsupportedFeatureError ⟨none, message, none⟩

namespace TermiosModule

variable (termios : TermiosModule)

def rtsCtsMask : Nat :=
  if termios.crtscts ≠ 0 then termios.crtscts
  else if termios.cctsOflow ≠ 0 ∧ termios.crtsIflow ≠ 0 then termios.cctsOflow ||| termios.crtsIflow
  else 0

def byteSizeBits : ByteSize → Nat
  | .five => termios.cs5
  | .six => termios.cs6
  | .seven => termios.cs7
  | .eight => termios.cs8

/-- Serial-raw mode: no canonical processing, no echo, no signals, no mapping,
eight data bits, the receiver on and the modem lines ignored. -/
def applyRawMode (attrs : TermiosAttrs) : TermiosAttrs :=
  let iflagClear := termios.ignbrk ||| termios.brkint ||| termios.parmrk ||| termios.istrip |||
    termios.inlcr ||| termios.igncr ||| termios.icrnl ||| termios.ixon
  let lflagClear := termios.echo ||| termios.echonl ||| termios.icanon ||| termios.isig ||| termios.iexten
  let cflagClear := termios.csize ||| termios.parenb
  let cflagSet := termios.cs8 ||| termios.cread ||| termios.clocal
  { attrs with
    iflag := clearBits attrs.iflag iflagClear
    oflag := clearBits attrs.oflag termios.opost
    lflag := clearBits attrs.lflag lflagClear
    cflag := clearBits attrs.cflag cflagClear ||| cflagSet
    cc := (attrs.cc.set termios.vmin (.int 1)).set termios.vtime (.int 0) }

def applyByteSize (attrs : TermiosAttrs) (byteSize : ByteSize) : TermiosAttrs :=
  { attrs with cflag := clearBits attrs.cflag termios.csize ||| termios.byteSizeBits byteSize }

def applyParity (attrs : TermiosAttrs) (parity : Parity) : Except PyExc TermiosAttrs :=
  let cflag := clearBits attrs.cflag (termios.parenb ||| termios.parodd)
  let cflag := if termios.cmspar ≠ 0 then clearBits cflag termios.cmspar else cflag
  match parity with
  | .none => .ok { attrs with cflag := cflag }
  | .even => .ok { attrs with cflag := cflag ||| termios.parenb }
  | .odd => .ok { attrs with cflag := cflag ||| (termios.parenb ||| termios.parodd) }
  | .mark =>
      if termios.cmspar = 0 then
        .error (unsupportedFeature
          "MARK parity requires termios.CMSPAR, which is not defined on this platform")
      else .ok { attrs with cflag := cflag ||| (termios.parenb ||| termios.parodd ||| termios.cmspar) }
  | .space =>
      if termios.cmspar = 0 then
        .error (unsupportedFeature
          "SPACE parity requires termios.CMSPAR, which is not defined on this platform")
      else .ok { attrs with cflag := cflag ||| (termios.parenb ||| termios.cmspar) }

def applyStopBits (attrs : TermiosAttrs) : StopBits → Except PyExc TermiosAttrs
  | .one => .ok { attrs with cflag := clearBits attrs.cflag termios.cstopb }
  | .two => .ok { attrs with cflag := attrs.cflag ||| termios.cstopb }
  | .onePointFive =>
      .error (unsupportedFeature "1.5 stop bits is not representable in standard POSIX termios")

def applyFlowControl (attrs : TermiosAttrs) (flow : FlowControl) : Except PyExc TermiosAttrs := do
  let iflag := clearBits attrs.iflag (termios.ixon ||| termios.ixoff ||| termios.ixany)
  let iflag := if flow.xonXoff then iflag ||| (termios.ixon ||| termios.ixoff) else iflag
  let mask := termios.rtsCtsMask
  let cflag := if mask ≠ 0 then clearBits attrs.cflag mask else attrs.cflag
  if flow.rtsCts ∧ mask = 0 then
    .error (unsupportedFeature "RTS/CTS flow control is not available on this platform's termios")
  else if flow.dtrDsr then
    .error (unsupportedFeature "DTR/DSR flow control is not configurable via generic POSIX termios")
  else .ok { attrs with iflag := iflag, cflag := if flow.rtsCts then cflag ||| mask else cflag }

def applyHangup (attrs : TermiosAttrs) (hangupOnClose : Bool) : TermiosAttrs :=
  if hangupOnClose then { attrs with cflag := attrs.cflag ||| termios.hupcl }
  else { attrs with cflag := clearBits attrs.cflag termios.hupcl }

/-- The six builders in the order in which every backend chains them. -/
def applyAll (attrs : TermiosAttrs) (config : SerialConfig) : Except PyExc TermiosAttrs := do
  let attrs := termios.applyRawMode attrs
  let attrs := termios.applyByteSize attrs config.byteSize
  let attrs ← termios.applyParity attrs config.parity
  let attrs ← termios.applyStopBits attrs config.stopBits
  let attrs ← termios.applyFlowControl attrs config.flowControl
  pure (termios.applyHangup attrs config.hangupOnClose)

def isStandardBaud (rate : Nat) : Bool := (termios.standardBaudRates.lookup rate).isSome

/-- The message of the error ends with the sorted list of the standard rates. -/
def notStandardMessage (rate : Nat) : String :=
  "baud rate " ++ toString rate ++ " is not a standard termios rate on this platform (standard rates: " ++
    toString ((termios.standardBaudRates.map Prod.fst).mergeSort) ++ ")"

def baudrateToSpeed (rate : Nat) : Except PyExc Nat :=
  match termios.standardBaudRates.lookup rate with
  | some speed => .ok speed
  | none => .error (.serialError .unsupportedConfigurationError ⟨none, termios.notStandardMessage rate, none⟩)

/-- The attributes that a standard rate asks for, starting from those of the device. -/
def requested (current : TermiosAttrs) (config : SerialConfig) : Except PyExc TermiosAttrs := do
  let speed ← termios.baudrateToSpeed config.baudrate
  termios.applyAll { current with ispeed := speed, ospeed := speed } config

end TermiosModule

end Anyserial.Posix
