import Anyserial.Kit.Effect

/-! The exceptions the package raises, the ones the interpreter and the event
loop raise underneath it, and the translation of the operating system's errors. -/
set_option autoImplicit false

namespace Anyserial

inductive Errno where
  | enoent | enodev | enxio | ebusy | eacces | einval | enotty | eio | ebadf
  | eagain | ealready | einprogress | eintr
  | other (code : Nat)
  deriving DecidableEq, Repr

/-- An error the kernel reports: the attributes of an `OSError`. -/
structure OSErr where
  errno : Errno
  strerror : String
  filename : Option String
  deriving DecidableEq, Repr

inductive SerialErrorClass where
  | serialError
  | configurationError
  | portNotFoundError
  | portBusyError
  | unsupportedFeatureError
  | unsupportedConfigurationError
  | unsupportedPlatformError
  | serialClosedError
  | serialDisconnectedError
  | unsupportedAsyncBackendError
  deriving DecidableEq, Repr

/-- The attributes of a `SerialError`. One that is built from a message alone
has neither an errno nor a filename. -/
structure SerialErr where
  errno : Option Errno
  text : String
  filename : Option String
  deriving DecidableEq, Repr

inductive PyExc where
  | osError (err : OSErr)
  | serialError (cls : SerialErrorClass) (err : SerialErr)
  | termiosError (err : OSErr)
  | structError
  | overflowError
  | valueError (message : String)
  | unicodeEncodeError
  | typeError
  | bufferError
  | indexError
  | memoryError
  | runtimeError (message : String)
  | assertionError
  | closedResourceError
  | busyResourceError (action : String)
  | cancelled
  | timeoutError
  | foreign (name : String)
  deriving DecidableEq, Repr

/-- The computations of the package: they raise, and keep the state they raised in. -/
abbrev Py (σ α : Type) := EStateM PyExc σ α

namespace PyExc

/-- Whether `except OSError` catches the exception. `termios.error` and
`struct.error` derive from `Exception` and are not caught. -/
def isOSError : PyExc → Bool
  | osError _ | serialError _ _ | timeoutError => true
  | _ => false

/-- Whether `except Exception` catches the exception: cancellation does not
derive from `Exception`. -/
def isException : PyExc → Bool
  | cancelled => false
  | _ => true

/-- Whether `except (BlockingIOError, InterruptedError)` catches the exception.
The interpreter picks these subclasses of `OSError` by the errno. -/
def isRetry : PyExc → Bool
  | osError err => err.errno ∈ [.eagain, .ealready, .einprogress, .eintr]
  | _ => false

/-- Whether `except BlockingIOError` catches the exception. -/
def isBlockingIOError : PyExc → Bool
  | osError err => err.errno ∈ [.eagain, .ealready, .einprogress]
  | _ => false

theorem isException_of_isOSError {exc : PyExc} (isOSError : exc.isOSError = true) : exc.isException = true := by
  cases exc <;> simp_all [PyExc.isOSError, isException]

end PyExc

/-- What was being attempted when an error was caught. -/
inductive Context where
  | openPort | lock | ioctl | io
  deriving DecidableEq, Repr

def openNotFound : List Errno := [.enoent, .enodev, .enxio]

def busy : List Errno := [.ebusy, .eacces]

def disconnect : List Errno := [.eio, .enxio]

def errnoClass (context : Context) (err : Errno) : SerialErrorClass :=
  if context = .openPort ∧ err ∈ openNotFound then .portNotFoundError
  else if context = .lock ∨ err ∈ busy then .portBusyError
  else if context = .ioctl ∧ err ∈ [Errno.einval, Errno.enotty] then .unsupportedFeatureError
  else if context = .io ∧ err ∈ disconnect then .serialDisconnectedError
  else .serialError

/-- `exc.filename or path`: an empty filename counts as a missing one. -/
def filenameOr (filename : Option String) (path : String) : Option String :=
  match filename with
  | none => some path
  | some "" => some path
  | some name => some name

def errnoToException (exc : PyExc) (context : Context) (path : String) : PyExc :=
  match exc with
  | .osError err =>
      .serialError (errnoClass context err.errno) ⟨some err.errno, err.strerror, filenameOr err.filename path⟩
  | exc => exc

section Handlers

open Kit

variable {σ α : Type}

def whenever (condition : Bool) (body : Py σ Unit) : Py σ Unit :=
  if condition then body else pure ()

def exceptOSError (body : Py σ α) (handler : PyExc → Py σ α) : Py σ α :=
  tryCatch body fun exc => if exc.isOSError then handler exc else throw exc

/-- `try: … except OSError as exc: raise errno_to_exception(exc, …)`. -/
def translating (context : Context) (path : String) (body : Py σ α) : Py σ α :=
  exceptOSError body fun exc => throw (errnoToException exc context path)

/-- `with contextlib.suppress(OSError)`. -/
def suppressOSError (body : Py σ Unit) : Py σ Unit :=
  exceptOSError body fun _ => pure ()

/-- `with contextlib.suppress(Exception)`. -/
def suppressException (body : Py σ Unit) : Py σ Unit :=
  tryCatch body fun exc => if exc.isException then pure () else throw exc

section Keeps

variable {related : σ → σ → Prop} [Std.Refl related] [IsTrans σ related]

omit [IsTrans σ related] in
theorem keeps_whenever {condition : Bool} {body : Py σ Unit} (kept : Keeps related body) :
    Keeps related (whenever condition body) :=
  .ite (fun _ => kept) fun _ => .pure ()

theorem keeps_exceptOSError {body : Py σ α} {handler : PyExc → Py σ α} (kept : Keeps related body)
    (handled : ∀ exc, Keeps related (handler exc)) : Keeps related (exceptOSError body handler) :=
  kept.tryCatch fun exc => .ite (fun _ => handled exc) fun _ => .throw exc

theorem keeps_suppressOSError {body : Py σ Unit} (kept : Keeps related body) : Keeps related (suppressOSError body) :=
  keeps_exceptOSError kept fun _ => .pure ()

theorem keeps_suppressException {body : Py σ Unit} (kept : Keeps related body) :
    Keeps related (suppressException body) :=
  kept.tryCatch fun exc => .ite (fun _ => .pure ()) fun _ => .throw exc

end Keeps

variable {s : σ} {returned : α → σ → Prop} {raised : PyExc → σ → Prop}

@[simp] theorem ends_exceptOSError {body : Py σ α} {handler : PyExc → Py σ α} :
    Ends (exceptOSError body handler) s returned raised ↔
      Ends body s returned fun exc t =>
        (exc.isOSError = true → Ends (handler exc) t returned raised) ∧ (exc.isOSError = false → raised exc t) := by
  simp only [exceptOSError, ends_tryCatch, ends_ite, ends_throw, Bool.not_eq_true]

@[simp] theorem ends_translating {body : Py σ α} {context : Context} {path : String} :
    Ends (translating context path body) s returned raised ↔
      Ends body s returned fun exc t =>
        (exc.isOSError = true → raised (errnoToException exc context path) t) ∧
          (exc.isOSError = false → raised exc t) := by
  simp only [translating, ends_exceptOSError, ends_throw]

variable {returned : Unit → σ → Prop}

@[simp] theorem ends_whenever {condition : Bool} {body : Py σ Unit} :
    Ends (whenever condition body) s returned raised ↔
      (condition = true → Ends body s returned raised) ∧ (condition = false → returned () s) := by
  simp only [whenever, ends_ite, ends_pure, Bool.not_eq_true]

@[simp] theorem ends_suppressOSError {body : Py σ Unit} :
    Ends (suppressOSError body) s returned raised ↔
      Ends body s returned fun exc t =>
        (exc.isOSError = true → returned () t) ∧ (exc.isOSError = false → raised exc t) := by
  simp only [suppressOSError, ends_exceptOSError, ends_pure]

@[simp] theorem ends_suppressException {body : Py σ Unit} :
    Ends (suppressException body) s returned raised ↔
      Ends body s returned fun exc t =>
        (exc.isException = true → returned () t) ∧ (exc.isException = false → raised exc t) := by
  simp only [suppressException, ends_tryCatch, ends_ite, ends_pure, ends_throw, Bool.not_eq_true]

end Handlers

end Anyserial
