import Anyserial.Posix.Backend
import Anyserial.Posix.Unsupported

/-! The BSD backend. One class serves every BSD, so the constants and the device
are parameters. A custom rate goes into the speed fields as it is. -/
set_option autoImplicit false

namespace Anyserial.Bsd

open Kit Posix

variable {δ : Type} [TermiosDevice δ] (termios : TermiosModule)

def passthroughRate (rate : Nat) : Nat := rate

/-- `_apply_custom_baud_config`. -/
def applyCustomBaudConfig (fd : Int) (config : SerialConfig) : Py (World Unit δ) Unit := do
  let current ← tcgetattr fd
  let rate := passthroughRate config.baudrate
  let attrs := { current with ispeed := rate, ospeed := rate }
  let attrs := termios.applyRawMode attrs
  let attrs := termios.applyByteSize attrs config.byteSize
  let attrs ← liftExcept (termios.applyParity attrs config.parity)
  let attrs ← liftExcept (termios.applyStopBits attrs config.stopBits)
  let attrs ← liftExcept (termios.applyFlowControl attrs config.flowControl)
  let attrs := termios.applyHangup attrs config.hangupOnClose
  tcsetattr fd attrs

/-- `BsdBackend._apply_config_to_fd`. -/
def applyConfigToFd (fd : Int) (config : SerialConfig) : Py (World Unit δ) Unit :=
  if termios.isStandardBaud config.baudrate then Posix.applyConfigToFd termios fd config
  else applyCustomBaudConfig termios fd config

def openPort (path : String) (config : SerialConfig) : Py (World Unit δ) Unit := do
  rejectUnsupported "BSD" config
  Posix.openPort "BsdBackend" (applyConfigToFd termios) path config

def configure (config : SerialConfig) : Py (World Unit δ) Unit := do
  rejectUnsupported "BSD" config
  Posix.configure (applyConfigToFd termios) config

end Anyserial.Bsd
