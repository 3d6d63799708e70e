import Anyserial.Stream.Port
import Anyserial.Windows.HotPath

/-! The port that drives the Windows backend, `_AsyncBackendSerialPort`, with the coroutines
of the backend below it. What runs between two awaits is one computation on the port. -/
set_option autoImplicit false

namespace Anyserial.Windows

open Kit

/-- The line behind the handle. `arrived` is all that ever came in and `input` what of it was
not read yet, `output` is all that the kernel took, and the rest are levels. -/
structure Line where
  arrived : Bytes
  input : Bytes
  output : Bytes
  unsent : Nat
  status : Nat
  breakOn : Bool
  rts : Bool
  dtr : Bool
  deriving DecidableEq, Repr

/-- The calls of `kernel32` that act on the line alone. `EscapeCommFunction` takes `SETRTS`,
`CLRRTS`, `SETDTR` or `CLRDTR`. -/
inductive LineCall where
  | escapeCommFunction (function : Nat)
  | setCommBreak | clearCommBreak | flushFileBuffers | getCommModemStatus | clearCommError
  deriving DecidableEq, Repr

/-- `allocates` says whether there is memory for a buffer, and `sleeps` whether a deadline so far
ahead is a double. -/
structure SerialWorld where
  windows : WindowsWorld
  line : Line
  refused : LineCall → Option WinErr := fun _ => none
  allocates : Int → Bool := fun _ => true
  sleeps : Number → Bool := fun _ => true

abbrev AsyncPort := Anyserial.Port SerialWorld

abbrev Serial (α : Type) := EStateM WinExc AsyncPort α

/-- Where a coroutine is parked. An overlapped operation has its completion once the
kernel is done with it. -/
inductive Frame where
  | reading (size : Nat) (into : Bool) (completion : Option (Completion Bytes))
  | writing (data : Bytes) (offset : Nat) (completion : Option (Completion Nat))
  | flushing
  | breaking
  | configuring (config : SerialConfig) (acquired : Bool)
  deriving DecidableEq

inductive Outcome where
  | suspended (frame : Frame)
  | returned (value : Value)
  deriving DecidableEq

section Calls

variable {α : Type}

def onWindows (body : Win α) : Serial α := fun port =>
  match body port.backend.windows with
  | .ok value windows => .ok value { port with backend := { port.backend with windows := windows } }
  | .error exc windows => .error exc { port with backend := { port.backend with windows := windows } }

def modifyLine (f : Line → Line) : Serial Unit :=
  modify fun port => { port with backend := { port.backend with line := f port.backend.line } }

def getLine : Serial Line := (fun port => port.backend.line) <$> get

def lineCall (call : LineCall) : Serial Unit := do
  let port ← get
  if port.backend.windows.backend.handle ∈ port.backend.windows.host.live then
    match port.backend.refused call with
    | some err => throw (.osError err)
    | none => pure ()
  else throw (.osError invalidHandle)

/-- `try: … except OSError as exc: raise winerror_to_exception(exc, …)`. -/
def translatingLine (context : Context) (body : Serial α) : Serial α :=
  tryCatch body fun exc => do
    if exc.isOSError then do
      let port ← get
      throw (winerrorToException exc context port.backend.windows.backend.path)
    else throw exc

end Calls

section Backend

/-- The read is issued, and its coroutine waits for the kernel. -/
def issueRead (size : Nat) (into : Bool) : Serial Outcome := do
  onWindows do
    let backend ← getBackend
    translating .io backend.path (dispatch .readFile)
  pure (.suspended (.reading size into none))

/-- What `_readinto_until_data` makes of a completion: an empty one is issued again. -/
def completedRead (size : Nat) (into : Bool) (completion : Completion Bytes) : Serial (Outcome ⊕ Bytes) := do
  let data ← onWindows do
    let backend ← getBackend
    translating .io backend.path (liftExcept (reportRead backend.runtime completion))
  if data = [] then Sum.inl <$> issueRead size into else pure (.inr data)

/-- `bytearray(size)`: the size has to fit a machine word, and the memory. -/
def bytearray (size : Int) : Serial Unit := do
  let port ← get
  if 2 ^ 63 ≤ size then throw (.raised .overflowError)
  else if port.backend.allocates size then pure ()
  else throw (.raised .memoryError)

def receive (maxBytes : Int) : Serial Outcome := do
  onWindows Windows.raiseIfClosed
  bytearray maxBytes
  issueRead maxBytes.toNat false

/-- A buffer in several runs is refused before the read is issued. -/
def receiveInto (buffer : ReadBuffer) : Serial Outcome := do
  onWindows Windows.raiseIfClosed
  if buffer.contiguous then issueRead buffer.nbytes true else throw (.raised .bufferError)

/-- The loop of `send`, whenever it looks at its condition. -/
def issueWrite (data : Bytes) (offset : Nat) : Serial Outcome :=
  if offset < data.length then do
    onWindows do
      let backend ← getBackend
      translating .io backend.path (dispatch .writeFile)
    pure (.suspended (.writing data offset none))
  else pure (.returned .none)

def completedWrite (data : Bytes) (offset : Nat) (completion : Completion Nat) : Serial Outcome := do
  let written ← onWindows do
    let backend ← getBackend
    let written ← translating .io backend.path (liftExcept completion)
    if written = 0 then throw (noProgress backend.path) else pure written
  issueWrite data (offset + written)

def send (data : Bytes) : Serial Outcome := do
  onWindows Windows.raiseIfClosed
  issueWrite data 0

/-- `PURGE_RXCLEAR | PURGE_RXABORT`. What the purge does to a pending read is its completion. -/
def resetInputBuffer : Serial Unit := do
  onWindows do
    Windows.raiseIfClosed
    let backend ← getBackend
    translating .ioctl backend.path (kernelCall .purgeComm backend.handle)
  modifyLine fun line => { line with input := [] }

def resetOutputBuffer : Serial Unit := do
  onWindows do
    Windows.raiseIfClosed
    let backend ← getBackend
    translating .ioctl backend.path (kernelCall .purgeComm backend.handle)
  modifyLine fun line => { line with unsent := 0 }

def setCommBreak : Serial Unit := do
  translatingLine .ioctl (lineCall .setCommBreak)
  modifyLine fun line => { line with breakOn := true }

/-- `with contextlib.suppress(OSError)`. -/
def clearCommBreak : Serial Unit :=
  tryCatch (do lineCall .clearCommBreak; modifyLine fun line => { line with breakOn := false }) fun exc =>
    if exc.isOSError then pure () else throw exc

/-- `anyio.sleep` up to its await: the duration is added to the clock, which is a double. -/
def beginSleep (duration : Number) : Serial Unit := do
  let port ← get
  if port.backend.sleeps duration then pure () else throw (.raised .overflowError)

/-- `WindowsBackend.send_break` up to its sleep. -/
def sendBreak (duration : Number) : Serial Outcome := do
  onWindows Windows.raiseIfClosed
  setCommBreak
  tryCatch (beginSleep duration) fun exc => do
    clearCommBreak
    throw exc
  pure (.suspended .breaking)

/-- The bits `MS_CTS_ON`, `MS_DSR_ON`, `MS_RING_ON` and `MS_RLSD_ON`. -/
def modemLinesOf (status : Nat) : ModemLines :=
  ⟨status &&& 0x0010 ≠ 0, status &&& 0x0020 ≠ 0, status &&& 0x0040 ≠ 0, status &&& 0x0080 ≠ 0⟩

def modemLines : Serial ModemLines := do
  onWindows Windows.raiseIfClosed
  translatingLine .ioctl (lineCall .getCommModemStatus)
  let line ← getLine
  pure (modemLinesOf line.status)

/-- `EscapeCommFunction`, once for each line that is to be driven. -/
def escape (level : Option Bool) (set clear : Nat) (drive : Bool → Line → Line) : Serial Unit :=
  match level with
  | none => pure ()
  | some level => do
      lineCall (.escapeCommFunction (if level then set else clear))
      modifyLine (drive level)

def setControlLines (rts dtr : Option Bool) : Serial Unit := do
  onWindows Windows.raiseIfClosed
  translatingLine .ioctl do
    escape rts 3 4 fun level line => { line with rts := level }
    escape dtr 5 6 fun level line => { line with dtr := level }

/-- `_comstat`, with the queue that is asked for. -/
def comstat (queue : Line → Nat) : Serial Int := do
  onWindows Windows.raiseIfClosed
  translatingLine .ioctl (lineCall .clearCommError)
  let line ← getLine
  pure (queue line)

def inputWaiting : Serial Int := comstat fun line => line.input.length

def outputWaiting : Serial Int := comstat Line.unsent

/-- `WindowsBackend.aclose`, which purges what was not read. -/
def closeBackend : Serial Unit := do
  let port ← get
  onWindows Windows.aclose
  if port.backend.windows.backend.isOpen then modifyLine fun line => { line with input := [], unsent := 0 } else pure ()

end Backend

namespace AsyncPort

variable {α : Type}

def raiseIfClosed : Serial Unit := do
  let port ← get
  if port.closed then throw (.raised (Anyserial.closedError port.backend.windows.backend.path)) else pure ()

def enterGuard (direction : Direction) : Serial Unit := do
  let port ← get
  if port.guarded direction then throw (.raised (.busyResourceError direction.action))
  else set (port.setGuard direction true)

def exitGuard (direction : Direction) : Serial Unit := modify fun port => port.setGuard direction false

/-- The body of `with guard`, up to its end or its next await. -/
def inGuard (direction : Direction) (body : Serial Outcome) : Serial Outcome := do
  let outcome ← tryCatch body fun exc => do
    exitGuard direction
    throw exc
  match outcome with
  | .suspended frame => pure (.suspended frame)
  | .returned value => do
      exitGuard direction
      pure (.returned value)

def withGuard (direction : Direction) (body : Serial Outcome) : Serial Outcome := do
  enterGuard direction
  inGuard direction body

def receive (maxBytes : Int) : Serial Outcome :=
  if maxBytes ≤ 0 then throw (.raised (.valueError (Port.maxBytesMessage maxBytes)))
  else withGuard .receiving do
    raiseIfClosed
    Windows.receive maxBytes

def receiveInto (buffer : ReadBuffer) : Serial Outcome :=
  if buffer.len = none then throw (.raised .typeError)
  else if buffer.len = some 0 then throw (.raised (.valueError "buffer must be non-empty"))
  else withGuard .receiving do
    raiseIfClosed
    Windows.receiveInto buffer

def receiveAvailable (limit : Option Int) : Serial Outcome :=
  withGuard .receiving do
    raiseIfClosed
    let waiting ← Windows.inputWaiting
    let port ← get
    let size := Port.availableSize waiting limit port.config
    if size ≤ 0 then pure (.returned (.data []))
    else Windows.receive size

/-- A receive goes on with the completion of its read. The backend gives nothing but data. -/
def received (size : Nat) (into : Bool) (completion : Completion Bytes) : Serial Outcome := do
  match ← completedRead size into completion with
  | .inl outcome => pure outcome
  | .inr [] => do
      let port ← get
      throw (.raised (disconnectedError port.backend.windows.backend.path))
  | .inr (byte :: bytes) => pure (.returned (if into then .filled (byte :: bytes) else .data (byte :: bytes)))

/-- `_send_view`. -/
def send (data : Bytes) : Serial Outcome :=
  if data.length = 0 then do
    raiseIfClosed
    pure (.returned .none)
  else withGuard .sending do
    raiseIfClosed
    Windows.send data

/-- `drain` and `drain_exact`: the flush is left to a worker thread. -/
def drain : Serial Outcome :=
  withGuard .sending do
    raiseIfClosed
    onWindows Windows.raiseIfClosed
    pure (.suspended .flushing)

def sendEof : Serial Outcome := do
  let port ← get
  if port.closed then pure (.returned .none) else drain

def sendBreak (duration : Number) : Serial Outcome :=
  if (ExtendedRational.finite 0).le duration.value then
    withGuard .sending do
      raiseIfClosed
      Windows.sendBreak duration
  else throw (.raised (.valueError ("duration must be non-negative (got " ++ duration.repr ++ ")")))

/-- The methods that check the port and await a call that has no await of its own. -/
def control (body : Serial α) (value : α → Value) : Serial Outcome := do
  raiseIfClosed
  let result ← body
  pure (.returned (value result))

def acquireConfigure (me : Nat) (cancelled : Bool) (config : SerialConfig) : Serial Outcome := do
  let port ← get
  if cancelled then throw (.raised .cancelled)
  else do
    set { port with configureLock := port.configureLock.join me }
    pure (.suspended (.configuring config (port.configureLock.owner = none)))

def releaseConfigure (me : Nat) : Serial Unit :=
  modify fun port => { port with configureLock := port.configureLock.leave me }

/-- The body under the configure lock. -/
def applyConfig (config : SerialConfig) : Serial Unit := do
  raiseIfClosed
  onWindows (Windows.configure config)
  modify fun port => { port with config := config }

/-- A call up to its first await. -/
def start (me : Nat) (cancelled : Bool) : Anyserial.Call → Serial Outcome
  | .receive maxBytes => receive maxBytes
  | .receiveInto buffer => receiveInto buffer
  | .receiveAvailable limit => receiveAvailable limit
  | .send data => send data
  | .sendEof => sendEof
  | .configure config => acquireConfigure me cancelled config
  | .resetInputBuffer => control Windows.resetInputBuffer fun _ => .none
  | .resetOutputBuffer => control Windows.resetOutputBuffer fun _ => .none
  | .drain | .drainExact => drain
  | .sendBreak duration => sendBreak duration
  | .modemLines => control Windows.modemLines .lines
  | .setControlLines rts dtr => control (Windows.setControlLines rts dtr) fun _ => .none
  | .inputWaiting => control Windows.inputWaiting .number
  | .outputWaiting => control Windows.outputWaiting .number

/-- What an await raises. -/
def arrive (cancelled : Bool) : Serial Unit := if cancelled then throw (.raised .cancelled) else pure ()

/-- The worker thread flushes the handle that is stored by then. -/
def flush (cancelled : Bool) : Serial Outcome := do
  arrive cancelled
  translatingLine .io (lineCall .flushFileBuffers)
  modifyLine fun line => { line with unsent := 0 }
  pure (.returned .none)

/-- `finally`: the line is released whichever way the sleep ends. -/
def endBreak (cancelled : Bool) : Serial Outcome := do
  tryCatch (arrive cancelled) fun exc => do
    clearCommBreak
    throw exc
  clearCommBreak
  pure (.returned .none)

/-- The lock is released whichever way the body ends. -/
def configure (me : Nat) (cancelled : Bool) (config : SerialConfig) : Serial Outcome := do
  tryCatch (do arrive cancelled; applyConfig config) fun exc => do
    releaseConfigure me
    throw exc
  releaseConfigure me
  pure (.returned .none)

/-- A parked call up to its next await. An operation that is cancelled has no completion. -/
def resume (me : Nat) (cancelled : Bool) : Frame → Serial Outcome
  | .reading size into completion =>
      inGuard .receiving do
        arrive cancelled
        match completion with
        | some completion => received size into completion
        | none => pure (.suspended (.reading size into none))
  | .writing data offset completion =>
      inGuard .sending do
        arrive cancelled
        match completion with
        | some completion => completedWrite data offset completion
        | none => pure (.suspended (.writing data offset none))
  | .flushing => inGuard .sending (flush cancelled)
  | .breaking => inGuard .sending (endBreak cancelled)
  | .configuring config _ => configure me cancelled config

end AsyncPort

/-- The async branch of `open_serial_port`. The metadata is looked up first and never raises. -/
def openSerialPort (path : String) (config : SerialConfig) : Win WindowsWorld := do
  openPort path config
  get

end Anyserial.Windows
