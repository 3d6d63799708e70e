import Anyserial.Linux.Baudrate
import Anyserial.Linux.LowLatency
import Anyserial.Linux.RS485
import Anyserial.Posix.Ioctl

/-! The Linux backend: custom baud rates, low latency and RS-485 on top of the
generic POSIX backend, with the originals restored on close. -/
set_option autoImplicit false

namespace Anyserial.Linux

open Kit Posix

structure Slots where
  savedAsyncFlags : Option (BitVec 32) := none
  ftdiTimer : Option FtdiLatencyTimer := none
  savedRs485 : Option RS485State := none
  deriving DecidableEq

abbrev LinuxBackend := PosixBackend Slots

abbrev LinuxWorld := World Slots Device

def modifySlots (f : Slots → Slots) : Py LinuxWorld Unit :=
  modifyBackend fun backend => { backend with slots := f backend.slots }

/-- The flat payload of `struct termios2`; only the first byte of a value counts. -/
def ccBytes (cc : List CcValue) : Bytes :=
  let out := (cc.take nccs2).map CcValue.toByte
  out ++ List.replicate (nccs2 - out.length) 0

/-- The attributes that a custom rate asks for: the builders work on the fields
that `struct termios` shares, and the line discipline is the device's own. -/
def requestedTermios2 (current : Termios2Attrs) (config : SerialConfig) : Except PyExc Termios2Attrs := do
  let attrs : TermiosAttrs :=
    { iflag := current.iflag
      oflag := current.oflag
      cflag := current.cflag
      lflag := current.lflag
      ispeed := 0
      ospeed := 0
      cc := current.cc.map fun byte => CcValue.int byte.toNat }
  let attrs := linuxTermios.applyRawMode attrs
  let attrs := linuxTermios.applyByteSize attrs config.byteSize
  let attrs ← linuxTermios.applyParity attrs config.parity
  let attrs ← linuxTermios.applyStopBits attrs config.stopBits
  let attrs ← linuxTermios.applyFlowControl attrs config.flowControl
  let attrs := linuxTermios.applyHangup attrs config.hangupOnClose
  pure
    { iflag := attrs.iflag
      oflag := attrs.oflag
      cflag := markBother attrs.cflag
      lflag := attrs.lflag
      line := current.line
      cc := ccBytes attrs.cc
      ispeed := config.baudrate
      ospeed := config.baudrate }

/-- `_apply_custom_baud_config`. -/
def applyCustomBaudConfig (fd : Int) (config : SerialConfig) : Py LinuxWorld Unit := do
  let current ← readTermios2 fd
  let updated ← liftExcept (requestedTermios2 current config)
  writeTermios2 fd updated

/-- `LinuxBackend._apply_config_to_fd`. -/
def applyConfigToFd (fd : Int) (config : SerialConfig) : Py LinuxWorld Unit :=
  if linuxTermios.isStandardBaud config.baudrate then Posix.applyConfigToFd linuxTermios fd config
  else applyCustomBaudConfig fd config

/-- The attributes of a caught `OSError`. -/
def PyExc.osAttributes : PyExc → Option Errno × String × Option String
  | .osError err => (some err.errno, err.strerror, err.filename)
  | .serialError _ err => (err.errno, err.text, err.filename)
  | _ => (none, "", none)

def unsupportedError (exc : PyExc) (feature : String) : PyExc :=
  let (errno, strerror, filename) := PyExc.osAttributes exc
  .serialError .unsupportedFeatureError
    ⟨errno, feature ++ " is not supported on this device: " ++ strerror, filename⟩

def unsupportedWarning (exc : PyExc) (feature : String) : String :=
  feature ++ " request ignored: " ++ (PyExc.osAttributes exc).2.1

/-- `_handle_unsupported`. -/
def handleUnsupported (exc : PyExc) (policy : UnsupportedPolicy) (feature : String) : Py LinuxWorld Unit :=
  match policy with
  | .raise => throw (unsupportedError exc feature)
  | .warn => warn (unsupportedWarning exc feature)
  | .ignore => pure ()

/-- The first half of `_enable_low_latency`. -/
def enableFlags (policy : UnsupportedPolicy) : Py LinuxWorld Unit := do
  let backend ← getBackend
  exceptOSError
    (do
      let original ← enableLowLatency backend.fd
      modifySlots fun slots => { slots with savedAsyncFlags := some original })
    fun exc => do
      handleUnsupported exc policy "ASYNC_LOW_LATENCY"
      modifySlots fun slots => { slots with savedAsyncFlags := none }

/-- The second half of `_enable_low_latency`. -/
def tuneTimer (policy : UnsupportedPolicy) : Py LinuxWorld Unit := do
  let backend ← getBackend
  exceptOSError
    (do
      let saved ← tuneFtdiLatencyTimer backend.path
      modifySlots fun slots => { slots with ftdiTimer := saved })
    fun exc => do
      handleUnsupported exc policy "FTDI latency_timer"
      modifySlots fun slots => { slots with ftdiTimer := none }

/-- `_enable_low_latency`: two independent steps, each routed through the policy. -/
def enableLowLatencyMode (policy : UnsupportedPolicy) : Py LinuxWorld Unit := do
  enableFlags policy
  tuneTimer policy

/-- The first half of `_restore_low_latency`. -/
def restoreFlags (fd : Int) : Py LinuxWorld Unit := do
  let backend ← getBackend
  match backend.slots.savedAsyncFlags with
  | some saved => do
      modifySlots fun slots => { slots with savedAsyncFlags := none }
      suppressOSError (restoreSerialFlags fd saved)
  | none => pure ()

/-- The second half of `_restore_low_latency`. -/
def restoreTimer : Py LinuxWorld Unit := do
  let backend ← getBackend
  match backend.slots.ftdiTimer with
  | some saved => do
      modifySlots fun slots => { slots with ftdiTimer := none }
      suppressOSError (restoreFtdiLatencyTimer saved)
  | none => pure ()

def restoreLowLatency (fd : Int) : Py LinuxWorld Unit := do
  restoreFlags fd
  restoreTimer

/-- `_apply_rs485`: the first apply takes the snapshot, before anything is written. -/
def applyRs485 (config : RS485Config) (policy : UnsupportedPolicy) : Py LinuxWorld Unit := do
  let backend ← getBackend
  let current ← exceptOSError (some <$> readRs485 backend.fd) fun exc => do
    handleUnsupported exc policy "TIOCSRS485"
    pure none
  match current with
  | none => pure ()
  | some current => do
      modifySlots fun slots => { slots with savedRs485 := slots.savedRs485.or (some current) }
      let merged ← liftExcept (current.withFlagsFrom config)
      exceptOSError (writeRs485 backend.fd merged .apply) fun exc => handleUnsupported exc policy "TIOCSRS485"

def restoreRs485 (fd : Int) : Py LinuxWorld Unit := do
  let backend ← getBackend
  match backend.slots.savedRs485 with
  | none => pure ()
  | some saved => do
      modifySlots fun slots => { slots with savedRs485 := none }
      suppressOSError (writeRs485 fd saved .restore)

/-- `LinuxBackend.close`: the originals go back while the descriptor is still open. -/
def close : Py LinuxWorld Unit := do
  let backend ← getBackend
  if 0 ≤ backend.fd then do
    restoreLowLatency backend.fd
    restoreRs485 backend.fd
    Posix.close
  else Posix.close

/-- The RS-485 half of the tuning. -/
def tuneRs485 (config : SerialConfig) : Py LinuxWorld Unit :=
  match config.rs485 with
  | some rs485 => applyRs485 rs485 config.unsupportedPolicy
  | none => pure ()

/-- The tuning steps after the POSIX open. -/
def tune (config : SerialConfig) : Py LinuxWorld Unit := do
  whenever config.lowLatency (enableLowLatencyMode config.unsupportedPolicy)
  tuneRs485 config

/-- `LinuxBackend.open`. -/
def openPort (path : String) (config : SerialConfig) : Py LinuxWorld Unit := do
  Posix.openPort "LinuxBackend" applyConfigToFd path config
  tryCatch (tune config) fun exc => do
    suppressException close
    throw exc

/-- The RS-485 half of `LinuxBackend.configure`. A snapshot is dropped whether or
not the write that restores it is accepted. -/
def configureRs485 (config : SerialConfig) : Py LinuxWorld Unit := do
  let backend ← getBackend
  match config.rs485, backend.slots.savedRs485 with
  | some rs485, _ => applyRs485 rs485 config.unsupportedPolicy
  | none, some saved => do
      suppressOSError (writeRs485 backend.fd saved .apply)
      modifySlots fun slots => { slots with savedRs485 := none }
  | none, none => pure ()

def configure (config : SerialConfig) : Py LinuxWorld Unit := do
  Posix.configure applyConfigToFd config
  configureRs485 config

/-- `LinuxBackend` as a port drives it: it overrides the lifecycle and inherits the rest. -/
def linuxBackend : SyncSerialBackend LinuxWorld :=
  syncBackend linuxTermios Linux.openPort Linux.close Linux.configure

end Anyserial.Linux
