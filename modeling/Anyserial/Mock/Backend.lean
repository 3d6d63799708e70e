import Anyserial.Stream.Protocol
import Mathlib.Logic.Function.Basic

/-! The in-memory backend: two ends of one connected socket pair. The calls of the socket
come first, then the methods of `MockBackend` on one end. -/
set_option autoImplicit false

namespace Anyserial.Mock

/-- Counters count down as they are used, flags stay until they are cleared. -/
structure FaultPlan where
  eagainReads : Int
  eagainWrites : Int
  eintrReads : Int
  eintrWrites : Int
  shortWriteMax : Option Int
  disconnected : Bool
  raiseEioOnRead : Bool
  parityErrors : Int
  deriving DecidableEq, Repr

def FaultPlan.inactive : FaultPlan := ⟨0, 0, 0, 0, none, false, false, 0⟩

inductive Side where
  | a
  | b
  deriving DecidableEq, Repr

def Side.peer : Side → Side
  | .a => .b
  | .b => .a

@[simp] theorem Side.peer_ne (side : Side) : side.peer ≠ side := by cases side <;> simp [peer]

@[simp] theorem Side.ne_peer (side : Side) : side ≠ side.peer := by cases side <;> simp [peer]

@[simp] theorem Side.peer_peer (side : Side) : side.peer.peer = side := by cases side <;> rfl

/-- A non-blocking stream socket. `reset` is the error that is left behind by a peer
that was closed before it had read everything. -/
structure Socket where
  fd : Nat
  closed : Bool
  inbox : Bytes
  reset : Bool
  deriving DecidableEq

/-- `_MockState`. Its `peer` is the other end of the pair. -/
structure MockState where
  sock : Socket
  path : String
  isOpen : Bool
  config : Option SerialConfig
  rts : Bool
  dtr : Bool
  faults : FaultPlan
  breakAsserted : Bool

/-- Both ends, and how many bytes the kernel has room for at the moment. -/
structure Pair where
  ends : Side → MockState
  accepts : Nat

def Pair.edit (pair : Pair) (side : Side) (change : MockState → MockState) : Pair :=
  { pair with ends := Function.update pair.ends side (change (pair.ends side)) }

def Pair.sock (pair : Pair) (side : Side) : Socket := (pair.ends side).sock

def Pair.inbox (pair : Pair) (side : Side) : Bytes := (pair.ends side).sock.inbox

def MockState.setSock (state : MockState) (sock : Socket) : MockState := { state with sock := sock }

def MockState.setFaults (state : MockState) (faults : FaultPlan) : MockState := { state with faults := faults }

def MockState.setInbox (state : MockState) (inbox : Bytes) : MockState :=
  state.setSock { state.sock with inbox := inbox }

section Kernel

def kernelError (errno : Errno) (strerror : String) : PyExc := .osError ⟨errno, strerror, none⟩

def epipe : Errno := .other 32

def econnreset : Errno := .other 104

def badDescriptor : PyExc := kernelError .ebadf "Bad file descriptor"

def unavailable : PyExc := kernelError .eagain "Resource temporarily unavailable"

def connectionReset : PyExc := kernelError econnreset "Connection reset by peer"

def brokenPipe : PyExc := kernelError epipe "Broken pipe"

/-- What `recv` answers when there is nothing to read. The pending error is reported once. -/
def recvEmpty (side : Side) : Py Pair Bytes := do
  let pair ← get
  if (pair.sock side).reset then do
    set (pair.edit side fun state => state.setSock { state.sock with reset := false })
    throw connectionReset
  else if (pair.sock side.peer).closed then pure []
  else throw unavailable

/-- `recv` and `recv_into`: nothing is asked of the kernel for an empty buffer. -/
def recv (side : Side) (size : Nat) : Py Pair Bytes := do
  let pair ← get
  if size = 0 then pure []
  else if (pair.sock side).closed then throw badDescriptor
  else if pair.inbox side = [] then recvEmpty side
  else do
    set (pair.edit side fun state => state.setInbox (state.sock.inbox.drop size))
    pure ((pair.inbox side).take size)

/-- `recv` with `MSG_PEEK`. -/
def peek (side : Side) (size : Nat) : Py Pair Bytes := do
  let pair ← get
  if (pair.sock side).closed then throw badDescriptor
  else if pair.inbox side = [] then recvEmpty side
  else pure ((pair.inbox side).take size)

/-- `send` of at least one byte. -/
def sendSocket (side : Side) (data : Bytes) : Py Pair Int := do
  let pair ← get
  if (pair.sock side).closed then throw badDescriptor
  else if (pair.sock side.peer).closed then throw brokenPipe
  else if pair.accepts = 0 then throw unavailable
  else do
    set (pair.edit side.peer fun state => state.setInbox (state.sock.inbox ++ data.take pair.accepts))
    pure (data.take pair.accepts).length

/-- What was not read is dropped, and the peer will hear of it. -/
def Pair.closeSocket (pair : Pair) (side : Side) : Pair :=
  (pair.edit side fun state => state.setSock { state.sock with closed := true, inbox := [] }).edit side.peer fun state =>
    state.setSock { state.sock with reset := state.sock.reset || !(pair.inbox side).isEmpty }

end Kernel

/-- `data[: maximum]`: a negative bound counts from the end. -/
def sliceTo (data : Bytes) (maximum : Int) : Bytes :=
  if maximum < 0 then data.take (data.length + maximum).toNat else data.take maximum.toNat

section Methods

variable (side : Side)

def editFaults (change : FaultPlan → FaultPlan) : Py Pair Unit :=
  modify fun pair => pair.edit side fun state => state.setFaults (change state.faults)

def alreadyOpen (path : String) : PyExc := .runtimeError ("MockBackend already open at '" ++ path ++ "'")

def openPort (path : String) (config : SerialConfig) : Py Pair Unit := do
  let pair ← get
  if (pair.ends side).isOpen then throw (alreadyOpen (pair.ends side).path)
  else set (pair.edit side fun state =>
    { state with path := if path = "" then state.path else path, config := some config, isOpen := true })

def close : Py Pair Unit :=
  modify fun pair =>
    let pair := pair.edit side fun state => { state with isOpen := false }
    if (pair.sock side).closed then pair else pair.closeSocket side

def fileno (pair : Pair) : Int := if (pair.sock side).closed then -1 else (pair.sock side).fd

def injectedEio : PyExc := kernelError .eio "mock: injected EIO on read"

def parityError : PyExc := kernelError .eio "mock: parity error"

def injectedEintr : PyExc := kernelError .eintr "mock: injected EINTR"

def injectedEagain : PyExc := kernelError .eagain "mock: injected EAGAIN"

def disconnected : PyExc := kernelError epipe "mock: disconnected"

def readNonblocking (buffer : ReadBuffer) : Py Pair Bytes := do
  let pair ← get
  let faults := (pair.ends side).faults
  if faults.raiseEioOnRead then do
    editFaults side fun faults => { faults with raiseEioOnRead := false }
    throw injectedEio
  else if 0 < faults.parityErrors then do
    editFaults side fun faults => { faults with parityErrors := faults.parityErrors - 1 }
    throw parityError
  else if faults.disconnected then pure []
  else if 0 < faults.eintrReads then do
    editFaults side fun faults => { faults with eintrReads := faults.eintrReads - 1 }
    throw injectedEintr
  else if 0 < faults.eagainReads then do
    editFaults side fun faults => { faults with eagainReads := faults.eagainReads - 1 }
    throw injectedEagain
  else if buffer.contiguous then recv side buffer.nbytes
  else throw .typeError

/-- `view`, the part of the data that is offered to the socket. -/
def FaultPlan.offered (faults : FaultPlan) (data : Bytes) : Bytes :=
  match faults.shortWriteMax with
  | none => data
  | some maximum => sliceTo data maximum

def writeNonblocking (data : Bytes) : Py Pair Int := do
  let pair ← get
  let faults := (pair.ends side).faults
  if faults.disconnected then throw disconnected
  else if 0 < faults.eintrWrites then do
    editFaults side fun faults => { faults with eintrWrites := faults.eintrWrites - 1 }
    throw injectedEintr
  else if 0 < faults.eagainWrites then do
    editFaults side fun faults => { faults with eagainWrites := faults.eagainWrites - 1 }
    throw injectedEagain
  else if (faults.offered data).length = 0 then pure 0
  else sendSocket side (faults.offered data)

def configure (config : SerialConfig) : Py Pair Unit :=
  modify fun pair => pair.edit side fun state => { state with config := some config }

/-- The loop of `reset_input_buffer`: it ends at the end of the stream, or when there is
nothing more. Every pass but the last one takes a byte, so there are no more than that. -/
def drainInput : Nat → Py Pair Unit
  | 0 => pure ()
  | passes + 1 => do
      let bytes ← recv side 4096
      if bytes.length = 0 then pure () else drainInput passes

def resetInputBuffer : Py Pair Unit := do
  let pair ← get
  tryCatch (drainInput side ((pair.inbox side).length + 1)) fun exc =>
    if exc.isBlockingIOError then pure () else throw exc

/-- The peer's RTS is this end's CTS, and its DTR this end's DSR. -/
def modemLines : Py Pair ModemLines := do
  let pair ← get
  let peer := pair.ends side.peer
  pure { cts := peer.rts, dsr := peer.dtr, ri := false, cd := peer.dtr }

def setControlLines (rts dtr : Option Bool) : Py Pair Unit :=
  modify fun pair => pair.edit side fun state => { state with rts := rts.getD state.rts, dtr := dtr.getD state.dtr }

def setBreak (on : Bool) : Py Pair Unit :=
  modify fun pair => pair.edit side fun state => { state with breakAsserted := on }

def inputWaiting : Py Pair Int :=
  tryCatch (do
    let bytes ← peek side 65536
    pure (bytes.length : Int)) fun exc => if exc.isBlockingIOError then pure 0 else throw exc

/-- `MockBackend`. -/
def backend : SyncSerialBackend Pair where
  path pair := (pair.ends side).path
  fileno := fileno side
  openPort := openPort side
  close := close side
  readNonblocking := readNonblocking side
  writeNonblocking := writeNonblocking side
  configure := configure side
  resetInputBuffer := resetInputBuffer side
  resetOutputBuffer := pure ()
  setBreak := setBreak side
  tcdrainBlocking := pure ()
  modemLines := modemLines side
  setControlLines := setControlLines side
  inputWaiting := inputWaiting side
  outputWaiting := pure 0

end Methods

end Anyserial.Mock
