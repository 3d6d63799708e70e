import Anyserial.Posix.Backend
import Anyserial.Posix.Unsupported

/-! The Darwin backend. A custom rate is set in two steps: the attributes are
committed with a placeholder speed, then `IOSSIOSPEED` overrides the line speed. -/
set_option autoImplicit false

namespace Anyserial.Darwin

open Kit Posix

/-- `termios` on Darwin: the speed constants are the rates, and there is no `CMSPAR`. -/
def darwinTermios : TermiosModule where
  ignbrk := 0x1
  brkint := 0x2
  parmrk := 0x8
  istrip := 0x20
  inlcr := 0x40
  igncr := 0x80
  icrnl := 0x100
  ixon := 0x200
  ixoff := 0x400
  ixany := 0x800
  opost := 0x1
  echo := 0x8
  echonl := 0x10
  icanon := 0x100
  isig := 0x80
  iexten := 0x400
  csize := 0x300
  cs5 := 0x0
  cs6 := 0x100
  cs7 := 0x200
  cs8 := 0x300
  cread := 0x800
  clocal := 0x8000
  parenb := 0x1000
  parodd := 0x2000
  cstopb := 0x400
  hupcl := 0x4000
  cmspar := 0
  crtscts := 0x30000
  cctsOflow := 0x10000
  crtsIflow := 0x20000
  vmin := 16
  vtime := 17
  standardBaudRates := [50, 75, 110, 134, 150, 200, 300, 600, 1200, 1800, 2400, 4800, 9600, 19200, 38400, 57600,
    115200, 230400].map fun rate => (rate, rate)
  b9600 := 9600
  tiocinq := some 0x4004667f
  tiocoutq := some 0x40047473
  tiocmget := some 0x4004746a
  tiocmbis := some 0x8004746c
  tiocmbic := some 0x8004746b
  tiocsbrk := some 0x2000747b
  tioccbrk := some 0x2000747a
  tiocmRts := 0x004
  tiocmDtr := 0x002
  tiocmCts := 0x020
  tiocmDsr := 0x100
  tiocmRi := 0x080
  tiocmCd := 0x040

/-- The attributes and the speed at which the line runs. -/
structure Device where
  termios : TermiosAttrs
  lineSpeed : Nat
  deriving DecidableEq

instance : TermiosDevice Device where
  tcgetattr device := device.termios
  tcsetattr attrs _ := { termios := attrs, lineSpeed := attrs.ospeed }

abbrev DarwinWorld := Posix.World Unit Device

/-- `_PLACEHOLDER_SPEED`. -/
def placeholderSpeed : Nat := darwinTermios.b9600

/-- The rate is packed into an unsigned 64-bit integer before the ioctl is issued. -/
def setIossiospeed (fd : Int) (rate : Nat) : Py DarwinWorld Unit :=
  if 2 ^ 64 ≤ rate then throw .structError
  else do
    fcntlCall fd .iossiospeed .apply
    modifyDevice fun device => { device with lineSpeed := rate }

/-- `_apply_custom_baud_config`. -/
def applyCustomBaudConfig (fd : Int) (config : SerialConfig) : Py DarwinWorld Unit := do
  let current ← tcgetattr fd
  let attrs := { current with ispeed := placeholderSpeed, ospeed := placeholderSpeed }
  let attrs := darwinTermios.applyRawMode attrs
  let attrs := darwinTermios.applyByteSize attrs config.byteSize
  let attrs ← liftExcept (darwinTermios.applyParity attrs config.parity)
  let attrs ← liftExcept (darwinTermios.applyStopBits attrs config.stopBits)
  let attrs ← liftExcept (darwinTermios.applyFlowControl attrs config.flowControl)
  let attrs := darwinTermios.applyHangup attrs config.hangupOnClose
  tcsetattr fd attrs
  setIossiospeed fd config.baudrate

/-- `DarwinBackend._apply_config_to_fd`. -/
def applyConfigToFd (fd : Int) (config : SerialConfig) : Py DarwinWorld Unit :=
  if darwinTermios.isStandardBaud config.baudrate then Posix.applyConfigToFd darwinTermios fd config
  else applyCustomBaudConfig fd config

def openPort (path : String) (config : SerialConfig) : Py DarwinWorld Unit := do
  rejectUnsupported "Darwin" config
  Posix.openPort "DarwinBackend" applyConfigToFd path config

def configure (config : SerialConfig) : Py DarwinWorld Unit := do
  rejectUnsupported "Darwin" config
  Posix.configure applyConfigToFd config

end Anyserial.Darwin
