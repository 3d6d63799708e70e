import Anyserial.Exceptions
import Anyserial.Windows.Dcb

/-! What the Windows backend sees of the operating system: the calls of `kernel32` on
handles, and a host that may refuse any of them. -/
set_option autoImplicit false

namespace Anyserial.Windows

open Kit

abbrev Handle := Nat

/-- An `OSError` with its Win32 code; zero stands for a missing one. -/
structure WinErr where
  winerror : Nat
  errno : Nat
  strerror : String
  filename : Option String
  deriving DecidableEq, Repr

/-- An `OSError` of the system, or an exception of any other class. -/
inductive WinExc where
  | osError (err : WinErr)
  | raised (exc : PyExc)
  deriving DecidableEq, Repr

/-- Whether `except OSError` catches the exception. -/
def WinExc.isOSError : WinExc → Bool
  | .osError _ => true
  | .raised exc => exc.isOSError

def errorFileNotFound : Nat := 2

def errorAccessDenied : Nat := 5

def errorInvalidHandle : Nat := 6

def errorNotReady : Nat := 21

def errorGenFailure : Nat := 31

def errorSharingViolation : Nat := 32

def errorInvalidParameter : Nat := 87

def errorOperationAborted : Nat := 995

def errorTimeout : Nat := 1460

def errorDeviceRemoved : Nat := 1617

def winerrorClass (context : Context) (code : Nat) : SerialErrorClass :=
  if code = errorFileNotFound then .portNotFoundError
  else if code ∈ [errorAccessDenied, errorSharingViolation] then .portBusyError
  else if code ∈ [errorInvalidHandle, errorOperationAborted] then .serialClosedError
  else if code = errorInvalidParameter ∧ context = .ioctl then .unsupportedConfigurationError
  else if code ∈ [errorDeviceRemoved, errorNotReady, errorGenFailure] then .serialDisconnectedError
  else .serialError

/-- `winerror_to_exception`: a `SerialError` passes through. -/
def winerrorToException (exc : WinExc) (context : Context) (path : String) : WinExc :=
  match exc with
  | .osError err =>
      let code := if err.winerror ≠ 0 then err.winerror else err.errno
      .raised (.serialError (winerrorClass context code) ⟨some (.other err.errno), err.strerror, filenameOr err.filename path⟩)
  | .raised exc => .raised exc

inductive Kernel32Call where
  | createFile (lpFileName : String)
  | setupComm | getCommState | setCommState | setCommTimeouts
  | registerIocp | setCommMask | purgeComm | closeHandle | readFile | writeFile
  deriving DecidableEq, Repr

/-- A call as the kernel saw it: whether its handle was open at the time. -/
structure KernelEvent where
  call : Kernel32Call
  handle : Handle
  valid : Bool
  deriving DecidableEq, Repr

/-- The serial device behind the handle. -/
structure CommDevice where
  dcb : Dcb
  queues : Nat × Nat
  timeouts : CommTimeouts
  eventMask : Nat
  deriving DecidableEq

/-- The event loop that runs the caller. -/
inductive EventLoop where
  | proactor | selector | trio | none
  deriving DecidableEq, Repr

inductive RuntimeFlavour where
  | asyncio | trio
  deriving DecidableEq, Repr

/-- How the calls of one operation end. The registration is awaited, so it may also be cancelled. -/
structure WinFaults where
  refused : Kernel32Call → Option WinErr := fun _ => none
  registrationCancelled : Bool := false

/-- The process. `trace` lists the calls made on handles, the last one first. -/
structure WinHost where
  device : CommDevice
  live : List Handle
  trace : List KernelEvent := []
  warnings : List String := []
  eventLoop : EventLoop
  faults : WinFaults := {}

structure WindowsBackend where
  path : String := ""
  handle : Handle := 0
  handleWrapper : Option Handle := none
  isOpen : Bool := false
  runtime : Option RuntimeFlavour := none
  config : Option SerialConfig := none
  deriving DecidableEq

structure WindowsWorld where
  backend : WindowsBackend
  host : WinHost

abbrev Win (α : Type) := EStateM WinExc WindowsWorld α

section Calls

variable {α : Type}

def modifyBackend (f : WindowsBackend → WindowsBackend) : Win Unit :=
  modify fun world => { world with backend := f world.backend }

def modifyHost (f : WinHost → WinHost) : Win Unit :=
  modify fun world => { world with host := f world.host }

def modifyDevice (f : CommDevice → CommDevice) : Win Unit :=
  modifyHost fun host => { host with device := f host.device }

def getBackend : Win WindowsBackend := WindowsWorld.backend <$> get

def getHost : Win WinHost := WindowsWorld.host <$> get

def exceptOSError (body : Win α) (handler : WinExc → Win α) : Win α :=
  tryCatch body fun exc => if exc.isOSError then handler exc else throw exc

/-- `with contextlib.suppress(OSError)`. -/
def suppressOSError (body : Win Unit) : Win Unit :=
  exceptOSError body fun _ => pure ()

def translating (context : Context) (path : String) (body : Win α) : Win α :=
  exceptOSError body fun exc => throw (winerrorToException exc context path)

def invalidHandle : WinErr := ⟨errorInvalidHandle, 9, "The handle is invalid", none⟩

def refuse : Option WinErr → Win Unit
  | some err => throw (.osError err)
  | none => pure ()

def record (call : Kernel32Call) (handle : Handle) : Win Unit :=
  modifyHost fun host => { host with trace := ⟨call, handle, handle ∈ host.live⟩ :: host.trace }

/-- The outcome of a call that was recorded. -/
def WinHost.refusal (host : WinHost) (handle : Handle) (call : Kernel32Call) : Option WinErr :=
  if handle ∈ host.live then host.faults.refused call else some invalidHandle

def kernelCall (call : Kernel32Call) (handle : Handle) : Win Unit := do
  record call handle
  let host ← getHost
  refuse (host.refusal handle call)

/-- The lowest value that names no open handle; zero never names one. -/
def unusedHandle (live : List Handle) : Handle :=
  ((List.range (live.length + 1)).find? fun n => n + 1 ∉ live).getD 0 + 1

/-- `normalise_com_path`. -/
def normaliseComPath (path : String) : String :=
  if "\\\\.\\".isPrefixOf path ∨ "\\\\?\\".isPrefixOf path then path else "\\\\.\\" ++ path

/-- What the kernel reads of a wide string: the characters before the first NUL. -/
def wideString (text : String) : String :=
  String.ofList (text.toList.takeWhile (· ≠ '\x00'))

/-- `CreateFileW`. -/
def createFile (path : String) : Win Handle := do
  let host ← getHost
  record (.createFile (wideString path)) 0
  refuse (host.faults.refused (.createFile (wideString path)))
  let handle := unusedHandle host.live
  modifyHost fun host => { host with live := handle :: host.live }
  pure handle

/-- An open handle is gone after `CloseHandle`, even when that reports an error. -/
def closeHandle (handle : Handle) : Win Unit := do
  let host ← getHost
  record .closeHandle handle
  modifyHost fun host => { host with live := host.live.erase handle }
  refuse (host.refusal handle .closeHandle)

def setCommMask (handle : Handle) (mask : Nat) : Win Unit := do
  kernelCall .setCommMask handle
  modifyDevice fun device => { device with eventMask := mask }

/-- `register` of either runtime: the completion port takes the handle. -/
def registerIocp (handle : Handle) : Win Unit := do
  kernelCall .registerIocp handle
  let host ← getHost
  if host.faults.registrationCancelled then throw (.raised .cancelled) else pure ()

end Calls

end Anyserial.Windows
