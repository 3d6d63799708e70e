import Anyserial.Exceptions
import Anyserial.Config

/-! What a POSIX backend sees of the operating system: the calls it makes, and a
host that may refuse any of them. A refused call changes nothing. -/
set_option autoImplicit false

namespace Anyserial.Posix

open Kit

inductive Syscall where
  | openCall | flock | close | readv | write
  | tcgetattr | tcsetattr | tcflush | tcdrain
  | tcgets2 | tcsets2 | iossiospeed
  | tiocgserial | tiocsserial | tiocgrs485 | tiocsrs485
  | sysfsResolve | sysfsRead | sysfsWrite
  | tiocinq | tiocoutq | tiocmget | tiocmbis | tiocmbic | tiocsbrk | tioccbrk
  deriving DecidableEq, Repr

/-- Which of the call sites of a system call is meant. One operation of a backend
reaches each site at most once: it probes, it applies, and it restores on the way out. -/
inductive Phase where
  | probe | apply | restore
  deriving DecidableEq, Repr

/-- How the calls of one operation end: `none` means that the call is accepted. -/
abbrev Faults := Syscall → Phase → Option OSErr

def noFaults : Faults := fun _ _ => none

/-- What the host reports to the accepted calls of one operation. -/
structure Replies where
  incoming : Bytes := []
  accepts : Nat := 0
  inputQueue : BitVec 32 := 0
  outputQueue : BitVec 32 := 0
  modemBits : BitVec 32 := 0
  deriving DecidableEq

/-- The process and the device behind the descriptor. `fsEncodes` says which paths `os.fsencode`
has bytes for. -/
structure Host (δ : Type) where
  device : δ
  openFds : List Int
  controlBits : Nat := 0
  breakOn : Bool := false
  warnings : List String := []
  faults : Faults := noFaults
  replies : Replies := {}
  fsEncodes : String → Bool := fun _ => true

/-- The object, with the slots `ε` that a subclass adds. -/
structure PosixBackend (ε : Type) where
  fd : Int
  path : String
  config : Option SerialConfig
  slots : ε

/-- A backend before its first `open`. -/
def PosixBackend.fresh {ε : Type} (slots : ε) : PosixBackend ε := ⟨-1, "", none, slots⟩

def PosixBackend.isOpen {ε : Type} (backend : PosixBackend ε) : Bool := 0 ≤ backend.fd

structure World (ε δ : Type) where
  backend : PosixBackend ε
  host : Host δ

section Calls

variable {ε δ : Type}

def badDescriptor : OSErr := ⟨.ebadf, "Bad file descriptor", none⟩

def negativeDescriptor : PyExc := .valueError "file descriptor cannot be a negative integer (-1)"

/-- How the call at a site ends on `fd`: a descriptor the process does not hold
is refused whatever the device would say. -/
def Host.refusal (host : Host δ) (fd : Int) (call : Syscall) (phase : Phase) : Option OSErr :=
  if fd ∈ host.openFds then host.faults call phase else some badDescriptor

def refuse (raised : OSErr → PyExc) : Option OSErr → Py (World ε δ) Unit
  | some err => throw (raised err)
  | none => pure ()

/-- The functions of the `fcntl` module: the interpreter checks the sign of the descriptor. -/
def fcntlCall (fd : Int) (call : Syscall) (phase : Phase) : Py (World ε δ) Unit := do
  let world ← get
  if fd < 0 then throw negativeDescriptor
  else refuse .osError (world.host.refusal fd call phase)

/-- The functions of the `termios` module raise `termios.error`. -/
def termiosCall (fd : Int) (call : Syscall) : Py (World ε δ) Unit := do
  let world ← get
  if fd < 0 then throw negativeDescriptor
  else refuse .termiosError (world.host.refusal fd call .apply)

/-- The functions of the `os` module leave the check to the kernel. -/
def osCall (fd : Int) (call : Syscall) : Py (World ε δ) Unit := do
  let world ← get
  refuse .osError (world.host.refusal fd call .apply)

def modifyHost (f : Host δ → Host δ) : Py (World ε δ) Unit :=
  modify fun world => { world with host := f world.host }

def modifyBackend (f : PosixBackend ε → PosixBackend ε) : Py (World ε δ) Unit :=
  modify fun world => { world with backend := f world.backend }

def getHost : Py (World ε δ) (Host δ) := World.host <$> get

def getBackend : Py (World ε δ) (PosixBackend ε) := World.backend <$> get

def modifyDevice (f : δ → δ) : Py (World ε δ) Unit :=
  modifyHost fun host => { host with device := f host.device }

def getDevice : Py (World ε δ) δ := (fun world => world.host.device) <$> get

def warn (message : String) : Py (World ε δ) Unit :=
  modifyHost fun host => { host with warnings := host.warnings ++ [message] }

/-- The lowest descriptor the process does not hold. -/
def lowestUnused (fds : List Int) : Int :=
  Int.ofNat (((List.range (fds.length + 1)).find? fun n => Int.ofNat n ∉ fds).getD 0)

def embeddedNull : PyExc := .valueError "embedded null byte"

/-- What the conversion of a path to bytes raises. -/
def Host.pathError (host : Host δ) (path : String) : Option PyExc :=
  if host.fsEncodes path then if '\x00' ∈ path.toList then some embeddedNull else none
  else some .unicodeEncodeError

/-- `os.open(path, _OPEN_FLAGS)`. -/
def osOpen (path : String) : Py (World ε δ) Int := do
  let host ← getHost
  match host.pathError path with
  | some exc => throw exc
  | none => do
    refuse .osError (host.faults .openCall .apply)
    let fd := lowestUnused host.openFds
    modifyHost fun host => { host with openFds := fd :: host.openFds }
    pure fd

/-- `os.close(fd)`: the kernel releases the descriptor even when it reports an error. -/
def osClose (fd : Int) : Py (World ε δ) Unit := do
  let host ← getHost
  modifyHost fun host => { host with openFds := host.openFds.erase fd }
  refuse .osError (host.refusal fd .close .restore)

end Calls

end Anyserial.Posix
