import Anyserial.Stream.Protocol
import Anyserial.Stream.Teardown

/-! The POSIX serial port. A coroutine is a start and a resumption for every place
where it awaits; what runs between two awaits is one computation on the port. -/
set_option autoImplicit false

namespace Anyserial

open Kit

inductive Direction where
  | receiving
  | sending
  deriving DecidableEq, Repr

/-- The action that a busy `ResourceGuard` names. -/
def Direction.action : Direction → String
  | .receiving => "reading from"
  | .sending => "writing to"

/-- `_closed` and the close lock are those of the teardown protocol. `notified` is the descriptor
that the loop was told is being closed, and whose waiters it has woken. -/
structure Port (σ : Type) where
  backend : σ
  config : SerialConfig
  receiveGuard : Bool
  sendGuard : Bool
  configureLock : FairLock Nat
  teardown : Teardown.State
  notified : Option Int

def Port.opened {σ : Type} (backend : σ) (config : SerialConfig) : Port σ :=
  ⟨backend, config, false, false, .free, Teardown.opened, none⟩

/-- The public coroutines, with their arguments. -/
inductive Call where
  | receive (maxBytes : Int)
  | receiveInto (buffer : ReadBuffer)
  | receiveAvailable (limit : Option Int)
  | send (data : Bytes)
  | sendEof
  | configure (config : SerialConfig)
  | resetInputBuffer
  | resetOutputBuffer
  | drain
  | drainExact
  | sendBreak (duration : Number)
  | modemLines
  | setControlLines (rts dtr : Option Bool)
  | inputWaiting
  | outputWaiting
  deriving DecidableEq

/-- Where a coroutine is parked, with the locals that it needs to go on. -/
inductive Frame where
  | receiving (size : Nat) (fd : Int)
  | receivingInto (buffer : ReadBuffer) (fd : Int)
  | awaitingInput (limit : Option Int) (fd : Int)
  | receivingAvailable (size : Nat) (fd : Int)
  | sending (data : Bytes) (offset : Nat) (fd : Int)
  | draining
  | drainingExact
  | breaking
  | configuring (config : SerialConfig) (acquired : Bool)
  deriving DecidableEq

/-- `filled` is what `receive_into` left in the front of the caller's buffer. -/
inductive Value where
  | none
  | data (bytes : Bytes)
  | filled (bytes : Bytes)
  | number (value : Int)
  | lines (value : ModemLines)
  deriving DecidableEq

inductive Outcome where
  | suspended (frame : Frame)
  | returned (value : Value)
  deriving DecidableEq

/-- How a parked coroutine is resumed: what it waits for has come, its descriptor
is being closed, or its scope was cancelled. -/
inductive Wake where
  | ready
  | closing
  | cancelled
  deriving DecidableEq, Repr

/-- What the await raises. -/
def arrive {σ : Type} : Wake → Py σ Unit
  | .ready => pure ()
  | .closing => throw .closedResourceError
  | .cancelled => throw .cancelled

def closedError (path : String) : PyExc :=
  .serialError .serialClosedError ⟨some .ebadf, "serial port is closed", some path⟩

def disconnectedError (path : String) : PyExc :=
  .serialError .serialDisconnectedError ⟨some .eio, "device returned EOF after readiness", some path⟩

namespace Port

variable {σ : Type}

def closed (port : Port σ) : Bool := port.teardown.closed

def guarded (port : Port σ) : Direction → Bool
  | .receiving => port.receiveGuard
  | .sending => port.sendGuard

def setGuard (port : Port σ) (direction : Direction) (held : Bool) : Port σ :=
  match direction with
  | .receiving => { port with receiveGuard := held }
  | .sending => { port with sendGuard := held }

variable {α : Type}

/-- A call on the backend. -/
def onBackend (body : Py σ α) : Py (Port σ) α := fun port =>
  match body port.backend with
  | .ok value backend => .ok value { port with backend := backend }
  | .error exc backend => .error exc { port with backend := backend }

section Coroutines

variable (backend : SyncSerialBackend σ) (loop : EventLoop σ)

/-- `_raise_if_closed`. -/
def raiseIfClosed : Py (Port σ) Unit := do
  let port ← get
  if port.closed then throw (closedError (backend.path port.backend)) else pure ()

/-- The path of an error is read when the error is raised. -/
def raiseTranslated (context : Context) (exc : PyExc) : Py (Port σ) α := do
  let port ← get
  throw (errnoToException exc context (backend.path port.backend))

/-- `try: … except OSError as exc: raise errno_to_exception(exc, context="ioctl", …)`. -/
def ioctl (body : Py σ α) : Py (Port σ) α :=
  exceptOSError (onBackend body) (raiseTranslated backend .ioctl)

/-- One read or write: `none` where the coroutine has to wait again. -/
def transfer (body : Py σ α) : Py (Port σ) (Option α) :=
  tryCatch (some <$> onBackend body) fun exc =>
    if exc.isRetry then pure none
    else if exc.isOSError then raiseTranslated backend .io exc
    else throw exc

def enterGuard (direction : Direction) : Py (Port σ) Unit := do
  let port ← get
  if port.guarded direction then throw (.busyResourceError direction.action)
  else set (port.setGuard direction true)

def exitGuard (direction : Direction) : Py (Port σ) Unit :=
  modify fun port => port.setGuard direction false

/-- The body of `with guard`, up to its end or its next await. -/
def inGuard (direction : Direction) (body : Py (Port σ) Outcome) : Py (Port σ) Outcome := do
  let outcome ← tryCatch body fun exc => do
    exitGuard direction
    throw exc
  match outcome with
  | .suspended frame => pure (.suspended frame)
  | .returned value => do
      exitGuard direction
      pure (.returned value)

def withGuard (direction : Direction) (body : Py (Port σ) Outcome) : Py (Port σ) Outcome := do
  enterGuard direction
  inGuard direction body

def waitReadable (fd : Int) (frame : Frame) : Py (Port σ) Outcome := do
  onBackend (loop.waitReadable fd)
  pure (.suspended frame)

def waitWritable (fd : Int) (frame : Frame) : Py (Port σ) Outcome := do
  onBackend (loop.waitWritable fd)
  pure (.suspended frame)

/-- A read into a buffer. No byte at all is the end of the stream. -/
def read (buffer : ReadBuffer) (fd : Int) (frame : Frame) (value : Bytes → Value) : Py (Port σ) Outcome := do
  let result ← transfer backend (backend.readNonblocking buffer)
  match result with
  | none => waitReadable loop fd frame
  | some [] => do
      let port ← get
      throw (disconnectedError (backend.path port.backend))
  | some (byte :: bytes) => pure (.returned (value (byte :: bytes)))

/-- `bytearray(size)`: the size has to fit a machine word, and the memory. -/
def bytearray (size : Int) : Py (Port σ) Unit := do
  let port ← get
  if 2 ^ 63 ≤ size then throw .overflowError
  else if loop.allocates port.backend size then pure ()
  else throw .memoryError

def filenoThenWait (allocate : Py (Port σ) Unit) (frame : Int → Frame) : Py (Port σ) Outcome := do
  raiseIfClosed backend
  allocate
  let port ← get
  waitReadable loop (backend.fileno port.backend) (frame (backend.fileno port.backend))

def maxBytesMessage (maxBytes : Int) : String := "max_bytes must be positive (got " ++ toString maxBytes ++ ")"

def receive (maxBytes : Int) : Py (Port σ) Outcome :=
  if maxBytes ≤ 0 then throw (.valueError (maxBytesMessage maxBytes))
  else withGuard .receiving (filenoThenWait backend loop (bytearray loop maxBytes) fun fd => .receiving maxBytes.toNat fd)

def receiveInto (buffer : ReadBuffer) : Py (Port σ) Outcome :=
  if buffer.len = none then throw .typeError
  else if buffer.len = some 0 then throw (.valueError "buffer must be non-empty")
  else withGuard .receiving (filenoThenWait backend loop (pure ()) fun fd => .receivingInto buffer fd)

def receiveAvailable (limit : Option Int) : Py (Port σ) Outcome :=
  withGuard .receiving (filenoThenWait backend loop (pure ()) fun fd => .awaitingInput limit fd)

/-- The buffer that `receive_available` allocates. -/
def availableSize (waiting : Int) (limit : Option Int) (config : SerialConfig) : Int :=
  let size := if 0 < waiting then waiting else config.readChunkSize
  match limit with
  | none => size
  | some limit => min size limit

/-- `receive_available` after its first readiness. -/
def readAvailable (limit : Option Int) (fd : Int) : Py (Port σ) Outcome := do
  let waiting ← onBackend backend.inputWaiting
  let port ← get
  let size := availableSize waiting limit port.config
  if size ≤ 0 then pure (.returned (.data []))
  else do
    bytearray loop size
    read backend loop (.ofSize size.toNat) fd (.receivingAvailable size.toNat fd) .data

/-- `_send_view`. -/
def send (data : Bytes) : Py (Port σ) Outcome :=
  if data.length = 0 then do
    raiseIfClosed backend
    pure (.returned .none)
  else withGuard .sending do
    raiseIfClosed backend
    let port ← get
    waitWritable loop (backend.fileno port.backend) (.sending data 0 (backend.fileno port.backend))

/-- One pass of the send loop. -/
def write (data : Bytes) (offset : Nat) (fd : Int) : Py (Port σ) Outcome := do
  let written ← transfer backend (backend.writeNonblocking (data.drop offset))
  match written with
  | none => waitWritable loop fd (.sending data offset fd)
  | some count =>
      if count ≤ 0 then waitWritable loop fd (.sending data offset fd)
      else if offset + count.toNat < data.length then
        waitWritable loop fd (.sending data (offset + count.toNat) fd)
      else pure (.returned .none)

/-- One pass of the drain loop. The time it sleeps is not part of the model. -/
def pollOutput : Py (Port σ) Outcome := do
  raiseIfClosed backend
  let pending ← ioctl backend backend.outputWaiting
  if pending ≤ 0 then pure (.returned .none) else pure (.suspended .draining)

def drain : Py (Port σ) Outcome :=
  withGuard .sending do
    raiseIfClosed backend
    pollOutput backend

def sendEof : Py (Port σ) Outcome := do
  let port ← get
  if port.closed then pure (.returned .none) else drain backend

def drainExact : Py (Port σ) Outcome :=
  withGuard .sending do
    raiseIfClosed backend
    pure (.suspended .drainingExact)

/-- The `finally` of a break. -/
def releaseBreak : Py (Port σ) Unit := suppressOSError (onBackend (backend.setBreak false))

/-- `anyio.sleep` up to its await: the duration is added to the clock, which is a double. -/
def beginSleep (duration : Number) : Py (Port σ) Unit := do
  let port ← get
  if loop.sleeps port.backend duration then pure () else throw .overflowError

/-- The part of `send_break` that runs behind the guard, up to the sleep. -/
def startBreak (duration : Number) : Py (Port σ) Outcome := do
  raiseIfClosed backend
  ioctl backend (backend.setBreak true)
  tryCatch (beginSleep loop duration) fun exc => do
    releaseBreak backend
    throw exc
  pure (.suspended .breaking)

def sendBreak (duration : Number) : Py (Port σ) Outcome :=
  if (ExtendedRational.finite 0).le duration.value then withGuard .sending (startBreak backend loop duration)
  else throw (.valueError ("duration must be non-negative (got " ++ duration.repr ++ ")"))

/-- The line is released whichever way the sleep ends. -/
def endBreak (wake : Wake) : Py (Port σ) Outcome := do
  tryCatch (arrive wake) fun exc => do
    releaseBreak backend
    throw exc
  releaseBreak backend
  pure (.returned .none)

/-- The methods that check the port and make one translated call. -/
def control (body : Py σ α) (value : α → Value) : Py (Port σ) Outcome := do
  raiseIfClosed backend
  let result ← ioctl backend body
  pure (.returned (value result))

/-- The two queue depths, which make their call untranslated. -/
def waiting (body : Py σ Int) : Py (Port σ) Outcome := do
  raiseIfClosed backend
  let result ← onBackend body
  pure (.returned (.number result))

/-- `async with self._configure_lock`, up to the await of its acquisition. A scope
that is already cancelled is noticed before the lock is taken. -/
def acquireConfigure (me : Nat) (cancelled : Bool) (config : SerialConfig) : Py (Port σ) Outcome := do
  let port ← get
  if cancelled then throw .cancelled
  else do
    set { port with configureLock := port.configureLock.join me }
    pure (.suspended (.configuring config (port.configureLock.owner = none)))

def releaseConfigure (me : Nat) : Py (Port σ) Unit :=
  modify fun port => { port with configureLock := port.configureLock.leave me }

/-- The body under the configure lock. -/
def applyConfig (config : SerialConfig) : Py (Port σ) Unit := do
  raiseIfClosed backend
  ioctl backend (backend.configure config)
  modify fun port => { port with config := config }

/-- The lock is released whichever way the body ends. -/
def configure (me : Nat) (wake : Wake) (config : SerialConfig) : Py (Port σ) Outcome := do
  tryCatch (do arrive wake; applyConfig backend config) fun exc => do
    releaseConfigure me
    throw exc
  releaseConfigure me
  pure (.returned .none)

/-- A call up to its first await. -/
def start (me : Nat) (cancelled : Bool) : Call → Py (Port σ) Outcome
  | .receive maxBytes => receive backend loop maxBytes
  | .receiveInto buffer => receiveInto backend loop buffer
  | .receiveAvailable limit => receiveAvailable backend loop limit
  | .send data => send backend loop data
  | .sendEof => sendEof backend
  | .configure config => acquireConfigure me cancelled config
  | .resetInputBuffer => control backend backend.resetInputBuffer fun _ => .none
  | .resetOutputBuffer => control backend backend.resetOutputBuffer fun _ => .none
  | .drain => drain backend
  | .drainExact => drainExact backend
  | .sendBreak duration => sendBreak backend loop duration
  | .modemLines => control backend backend.modemLines .lines
  | .setControlLines rts dtr => control backend (backend.setControlLines rts dtr) fun _ => .none
  | .inputWaiting => waiting backend backend.inputWaiting
  | .outputWaiting => waiting backend backend.outputWaiting

/-- What every loop does first when it goes on. -/
def awake (wake : Wake) (body : Py (Port σ) Outcome) : Py (Port σ) Outcome := do
  arrive wake
  raiseIfClosed backend
  body

/-- A parked call up to its next await. -/
def resume (me : Nat) (wake : Wake) : Frame → Py (Port σ) Outcome
  | .receiving size fd =>
      inGuard .receiving (awake backend wake (read backend loop (.ofSize size) fd (.receiving size fd) .data))
  | .receivingInto buffer fd =>
      inGuard .receiving (awake backend wake (read backend loop buffer fd (.receivingInto buffer fd) .filled))
  | .awaitingInput limit fd => inGuard .receiving (awake backend wake (readAvailable backend loop limit fd))
  | .receivingAvailable size fd =>
      inGuard .receiving (awake backend wake (read backend loop (.ofSize size) fd (.receivingAvailable size fd) .data))
  | .sending data offset fd => inGuard .sending (awake backend wake (write backend loop data offset fd))
  | .draining => inGuard .sending (do arrive wake; pollOutput backend)
  | .drainingExact =>
      inGuard .sending do
        arrive wake
        onBackend backend.tcdrainBlocking
        pure (.returned .none)
  | .breaking => inGuard .sending (endBreak backend wake)
  | .configuring config _ => configure backend me wake config

/-- `anyio.notify_closing(fd)`: whoever waits on the descriptor is woken. -/
def notifyClosing (fd : Int) : Py (Port σ) Unit := do
  onBackend (loop.notifyClosing fd)
  modify fun port => { port with notified := some fd }

/-- The teardown under the shield: the waiters are woken, then the backend is closed. -/
def closeBackend : Py (Port σ) Unit := do
  let port ← get
  tryCatch (notifyClosing loop (backend.fileno port.backend)) fun exc =>
    match exc with
    | .valueError _ => pure ()
    | exc => if exc.isOSError then pure () else throw exc
  onBackend backend.close

end Coroutines

end Port

/-- `open_serial_port`. The metadata lookup that follows the open never raises. -/
def openSerialPort {σ : Type} (backend : SyncSerialBackend σ) (path : String) (config : SerialConfig) :
    Py σ (Port σ) := do
  translating .openPort path (backend.openPort path config)
  let opened ← get
  pure (Port.opened opened config)

end Anyserial
