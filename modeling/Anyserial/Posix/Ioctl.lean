import Anyserial.Posix.Backend
import Anyserial.Stream.Protocol

/-! The shared ioctl helpers and the non-blocking hot path: a POSIX backend as the
backend that a port drives. -/
set_option autoImplicit false

namespace Anyserial.Posix

open Kit

section Helpers

variable {ε δ : Type} (termios : TermiosModule) (fd : Int)

/-- `_require`: the request code that this platform has for the call. -/
def require (request : Option Nat) (name : String) : Py (World ε δ) Nat :=
  match request with
  | some code => pure code
  | none => throw (unsupportedFeature (name ++ " is not available on this platform's termios module"))

/-- `fcntl.ioctl` with an `int` payload, which the kernel fills in. -/
def ioctlInt (request : Option Nat) (name : String) (call : Syscall) (reply : Replies → BitVec 32) :
    Py (World ε δ) (BitVec 32) := do
  let _ ← require request name
  fcntlCall fd call .apply
  let host ← getHost
  pure (reply host.replies)

def inputWaiting : Py (World ε δ) Int :=
  BitVec.toInt <$> ioctlInt fd termios.tiocinq "TIOCINQ/FIONREAD" .tiocinq Replies.inputQueue

def outputWaiting : Py (World ε δ) Int :=
  BitVec.toInt <$> ioctlInt fd termios.tiocoutq "TIOCOUTQ" .tiocoutq Replies.outputQueue

def readTiocmBits : Py (World ε δ) (BitVec 32) :=
  ioctlInt fd termios.tiocmget "TIOCMGET" .tiocmget Replies.modemBits

def getModemLines : Py (World ε δ) ModemLines := do
  let bits ← readTiocmBits termios fd
  let raised (mask : Nat) : Bool := bits &&& BitVec.ofNat 32 mask ≠ 0
  pure ⟨raised termios.tiocmCts, raised termios.tiocmDsr, raised termios.tiocmRi, raised termios.tiocmCd⟩

/-- The mask of the control lines that are to be driven to `level`. -/
def controlMask (rts dtr : Option Bool) (level : Bool) : Nat :=
  (if rts = some level then termios.tiocmRts else 0) ||| (if dtr = some level then termios.tiocmDtr else 0)

/-- Two separate calls, each made only when it has a line to drive. -/
def setControlLines (rts dtr : Option Bool) : Py (World ε δ) Unit := do
  let setMask := controlMask termios rts dtr true
  let clearMask := controlMask termios rts dtr false
  whenever (setMask ≠ 0) do
    let _ ← require termios.tiocmbis "TIOCMBIS"
    fcntlCall fd .tiocmbis .apply
    modifyHost fun host => { host with controlBits := host.controlBits ||| setMask }
  whenever (clearMask ≠ 0) do
    let _ ← require termios.tiocmbic "TIOCMBIC"
    fcntlCall fd .tiocmbic .apply
    modifyHost fun host => { host with controlBits := clearBits host.controlBits clearMask }

def breakCall (on : Bool) : Syscall := if on then .tiocsbrk else .tioccbrk

def setBreak (on : Bool) : Py (World ε δ) Unit := do
  let _ ← require (if on then termios.tiocsbrk else termios.tioccbrk) (if on then "TIOCSBRK" else "TIOCCBRK")
  fcntlCall fd (breakCall on) .apply
  modifyHost fun host => { host with breakOn := on }

/-- `termios.tcflush`, on either queue. The queues are the device's own. -/
def tcflush : Py (World ε δ) Unit := termiosCall fd .tcflush

/-- `os.readv`: the front of the buffer is filled with what has come in. A buffer in several runs
is refused before the call. -/
def readv (buffer : ReadBuffer) : Py (World ε δ) Bytes :=
  if buffer.contiguous then do
    osCall fd .readv
    let host ← getHost
    pure (host.replies.incoming.take buffer.nbytes)
  else throw .bufferError

/-- `os.write`: the count of the bytes that the kernel has taken. -/
def osWrite (data : Bytes) : Py (World ε δ) Int := do
  osCall fd .write
  let host ← getHost
  pure (min host.replies.accepts data.length)

end Helpers

section SyncBackend

variable {ε δ α : Type} (termios : TermiosModule)

/-- A call on the descriptor of the backend. -/
def onDescriptor (call : Int → Py (World ε δ) α) : Py (World ε δ) α := do
  let backend ← getBackend
  call backend.fd

/-- The methods that every subclass inherits, with those it overrides as parameters. -/
def syncBackend (openPort : String → SerialConfig → Py (World ε δ) Unit) (close : Py (World ε δ) Unit)
    (configure : SerialConfig → Py (World ε δ) Unit) : SyncSerialBackend (World ε δ) where
  path world := world.backend.path
  fileno world := world.backend.fd
  openPort := openPort
  close := close
  readNonblocking buffer := onDescriptor fun fd => readv fd buffer
  writeNonblocking data := onDescriptor fun fd => osWrite fd data
  configure := configure
  resetInputBuffer := onDescriptor tcflush
  resetOutputBuffer := onDescriptor tcflush
  setBreak on := onDescriptor fun fd => setBreak termios fd on
  tcdrainBlocking := onDescriptor fun fd => termiosCall fd .tcdrain
  modemLines := onDescriptor (getModemLines termios)
  setControlLines rts dtr := onDescriptor fun fd => setControlLines termios fd rts dtr
  inputWaiting := onDescriptor (inputWaiting termios)
  outputWaiting := onDescriptor (outputWaiting termios)

/-- `PosixBackend` itself. -/
def posixBackend [TermiosDevice δ] : SyncSerialBackend (World Unit δ) :=
  syncBackend termios (openPort "PosixBackend" (applyConfigToFd termios)) close (configure (applyConfigToFd termios))

end SyncBackend

end Anyserial.Posix
