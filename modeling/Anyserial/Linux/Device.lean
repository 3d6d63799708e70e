import Anyserial.Posix.Backend

/-! A Linux serial device as its driver keeps it, with the constants and the
`struct termios` conversions of the C library. -/
set_option autoImplicit false

namespace Anyserial.Linux

open Posix

/-- `termios` on Linux, with the asm-generic values. -/
def linuxTermios : TermiosModule where
  ignbrk := 0o1
  brkint := 0o2
  parmrk := 0o10
  istrip := 0o40
  inlcr := 0o100
  igncr := 0o200
  icrnl := 0o400
  ixon := 0o2000
  ixoff := 0o10000
  ixany := 0o4000
  opost := 0o1
  echo := 0o10
  echonl := 0o100
  icanon := 0o2
  isig := 0o1
  iexten := 0o100000
  csize := 0o60
  cs5 := 0o0
  cs6 := 0o20
  cs7 := 0o40
  cs8 := 0o60
  cread := 0o200
  clocal := 0o4000
  parenb := 0o400
  parodd := 0o1000
  cstopb := 0o100
  hupcl := 0o2000
  cmspar := 0o10000000000
  crtscts := 0o20000000000
  cctsOflow := 0
  crtsIflow := 0
  vmin := 6
  vtime := 5
  standardBaudRates := [(50, 0o1), (75, 0o2), (110, 0o3), (134, 0o4), (150, 0o5), (200, 0o6), (300, 0o7),
    (600, 0o10), (1200, 0o11), (1800, 0o12), (2400, 0o13), (4800, 0o14), (9600, 0o15), (19200, 0o16),
    (38400, 0o17), (57600, 0o10001), (115200, 0o10002), (230400, 0o10003), (460800, 0o10004),
    (500000, 0o10005), (576000, 0o10006), (921600, 0o10007), (1000000, 0o10010), (1152000, 0o10011),
    (1500000, 0o10012), (2000000, 0o10013), (2500000, 0o10014), (3000000, 0o10015), (3500000, 0o10016),
    (4000000, 0o10017)]
  b9600 := 0o15
  tiocinq := some 0x541B
  tiocoutq := some 0x5411
  tiocmget := some 0x5415
  tiocmbis := some 0x5416
  tiocmbic := some 0x5417
  tiocsbrk := some 0x5427
  tioccbrk := some 0x5428
  tiocmRts := 0x004
  tiocmDtr := 0x002
  tiocmCts := 0x020
  tiocmDsr := 0x100
  tiocmRi := 0x080
  tiocmCd := 0x040

/-- Every flag bit the baud slot may occupy. -/
def cbaud : Nat := 0o010017

def bother : Nat := 0o010000

/-- `NCCS` of the kernel's `struct termios2`. -/
abbrev nccs2 : Nat := 19

/-- `NCCS` of the C library's `struct termios`. -/
def nccs : Nat := 32

/-- The kernel's `struct ktermios`. -/
structure KernelTermios where
  iflag : BitVec 32
  oflag : BitVec 32
  cflag : BitVec 32
  lflag : BitVec 32
  line : Byte
  cc : Vector Byte nccs2
  ispeed : BitVec 32
  ospeed : BitVec 32
  deriving DecidableEq

def KernelTermios.zero : KernelTermios := ⟨0, 0, 0, 0, 0, .replicate nccs2 0, 0, 0⟩

/-- What the `latency_timer` file holds: a number, or text that is not one. -/
inductive TimerText where
  | number (value : Int)
  | garbage (text : String)
  deriving DecidableEq

/-- The entry of a terminal under `/sys/class/tty`. -/
structure TtyEntry where
  driver : Option String
  latencyTimer : Option TimerText
  deriving DecidableEq

abbrev Sysfs := String → Option TtyEntry

/-- `serial` is the user buffer that `TIOCGSERIAL` fills, and `serialWrites` lists
every one that `TIOCSSERIAL` accepted. `rs485` is the payload of `TIOCGRS485`. -/
structure Device where
  termios : KernelTermios
  serial : Vector (BitVec 32) 32
  serialWrites : List (Vector (BitVec 32) 32)
  rs485 : Bytes
  sysfs : Sysfs

/-- The control characters as the interpreter lists them: those the kernel keeps,
padded to `NCCS`, and integers for `VMIN` and `VTIME` outside canonical mode. -/
def ccList (termios : KernelTermios) : List CcValue :=
  let cc := (termios.cc.toList ++ List.replicate (nccs - nccs2) 0).map fun byte => CcValue.bytes [byte]
  if termios.lflag.toNat &&& linuxTermios.icanon = 0 then
    (cc.set linuxTermios.vmin (.int (termios.cc.get ⟨linuxTermios.vmin, by decide⟩).toNat)).set linuxTermios.vtime
      (.int (termios.cc.get ⟨linuxTermios.vtime, by decide⟩).toNat)
  else cc

/-- The byte that `tcsetattr` stores for an element of the list. -/
def CcValue.toByte : CcValue → Byte
  | .bytes (byte :: _) => byte
  | .bytes [] => 0
  | .int value => BitVec.ofNat 8 value

/-- The rate of a baud slot. The `BOTHER` slot names no rate. -/
def legacyRate (cflag : Nat) : Option Nat :=
  (linuxTermios.standardBaudRates.find? fun entry => entry.2 = cflag &&& cbaud).map Prod.fst

instance : TermiosDevice Device where
  tcgetattr device :=
    { iflag := device.termios.iflag.toNat
      oflag := device.termios.oflag.toNat
      cflag := device.termios.cflag.toNat
      lflag := device.termios.lflag.toNat
      ispeed := device.termios.cflag.toNat &&& cbaud
      ospeed := device.termios.cflag.toNat &&& cbaud
      cc := ccList device.termios }
  tcsetattr attrs device :=
    -- `cfsetospeed` runs after `cfsetispeed` and has the last word on the shared slot.
    let cflag := clearBits attrs.cflag cbaud ||| attrs.ospeed
    let speed := (legacyRate cflag).map (BitVec.ofNat 32)
    { device with
      termios :=
        { iflag := BitVec.ofNat 32 attrs.iflag
          oflag := BitVec.ofNat 32 attrs.oflag
          cflag := BitVec.ofNat 32 cflag
          lflag := BitVec.ofNat 32 attrs.lflag
          line := device.termios.line
          cc := Vector.ofFn fun index => ((attrs.cc[index.val]?).map CcValue.toByte).getD 0
          ispeed := speed.getD device.termios.ispeed
          ospeed := speed.getD device.termios.ospeed } }

end Anyserial.Linux
