import Anyserial.Posix.Host
import Anyserial.Posix.TermiosApply

/-! The generic POSIX backend. `_apply_config_to_fd` is virtual, so `open` and
`configure` take the one of the subclass as a parameter. -/
set_option autoImplicit false

namespace Anyserial.Posix

open Kit

/-- What the C library shows of the terminal attributes of a device. -/
class TermiosDevice (δ : Type) where
  tcgetattr : δ → TermiosAttrs
  tcsetattr : TermiosAttrs → δ → δ

section Backend

variable {ε δ : Type} (termios : TermiosModule)

def tcgetattr [TermiosDevice δ] (fd : Int) : Py (World ε δ) TermiosAttrs := do
  termiosCall fd .tcgetattr
  TermiosDevice.tcgetattr <$> getDevice

/-- The interpreter converts every element with `PyLong_AsLong`. Only the speeds
can be too large: the flag words come from `tcgetattr`. -/
def tcsetattr [TermiosDevice δ] (fd : Int) (attrs : TermiosAttrs) : Py (World ε δ) Unit :=
  if fd < 0 then throw negativeDescriptor
  else if 2 ^ 63 ≤ attrs.ispeed ∨ 2 ^ 63 ≤ attrs.ospeed then throw .overflowError
  else do
    termiosCall fd .tcsetattr
    modifyDevice (TermiosDevice.tcsetattr attrs)

/-- `PosixBackend._apply_config_to_fd`. -/
def applyConfigToFd [TermiosDevice δ] (fd : Int) (config : SerialConfig) : Py (World ε δ) Unit := do
  let current ← tcgetattr fd
  let attrs ← liftExcept (termios.requested current config)
  tcsetattr fd attrs

def lockedMessage (path : String) : String :=
  "port '" ++ path ++ "' is exclusively locked by another process"

/-- `_acquire_exclusive_lock`: a lock that is taken is reported as `EBUSY`. -/
def acquireExclusiveLock (fd : Int) (path : String) : Py (World ε δ) Unit :=
  tryCatch (fcntlCall fd .flock .apply) fun exc =>
    if exc.isBlockingIOError then throw (.osError ⟨.ebusy, lockedMessage path, some path⟩) else throw exc

variable (className : String) (applyConfig : Int → SerialConfig → Py (World ε δ) Unit)

def alreadyOpen (className path : String) : PyExc :=
  .runtimeError (className ++ " is already open at '" ++ path ++ "'")

/-- The steps of `open` that run on a descriptor the backend does not own yet. -/
def setUp (fd : Int) (path : String) (config : SerialConfig) : Py (World ε δ) Unit := do
  whenever config.exclusive (acquireExclusiveLock fd path)
  applyConfig fd config

def openPort (path : String) (config : SerialConfig) : Py (World ε δ) Unit := do
  let backend ← getBackend
  if backend.isOpen then throw (alreadyOpen className backend.path)
  else do
    let fd ← osOpen path
    tryCatch (setUp applyConfig fd path config) fun exc => do
      osClose fd
      throw exc
    modifyBackend fun backend => { backend with fd := fd, path := path, config := some config }

def close : Py (World ε δ) Unit := do
  let backend ← getBackend
  if backend.fd < 0 then pure ()
  else do
    modifyBackend fun backend => { backend with fd := -1 }
    osClose backend.fd

def configure (config : SerialConfig) : Py (World ε δ) Unit := do
  let backend ← getBackend
  applyConfig backend.fd config
  modifyBackend fun backend => { backend with config := some config }

end Backend

end Anyserial.Posix
