import Anyserial.Stream.Teardown
import Anyserial.Kit.Number

/-! The blocking wrapper: ports that share portal providers, and the leases they
hold on them. Every blocking port closes its asynchronous port under a deadline. -/
set_option autoImplicit false

namespace Anyserial.Sync

open Kit

structure SerialPort where
  variant : Teardown.Variant
  asyncPort : Teardown.State
  provider : Nat
  portalEntered : Bool
  closed : Bool
  /-- How often the provider was exited on behalf of this port. -/
  released : Nat
  deriving DecidableEq

/-- `cached` is the module's provider, and `leases` counts the leases of every
provider that was ever built. -/
structure State where
  cached : Option Nat
  leases : List Nat
  ports : List SerialPort
  deriving DecidableEq

def initial : State := ⟨none, [], []⟩

def lease (state : State) (provider : Nat) : Nat := state.leases[provider]?.getD 0

def SerialPort.new (variant : Teardown.Variant) (provider : Nat) : SerialPort :=
  ⟨variant, Teardown.opened, provider, true, false, 0⟩

def getProvider (state : State) : Nat × State :=
  match state.cached with
  | some provider => (provider, state)
  | none => (state.leases.length, { state with cached := some state.leases.length, leases := state.leases ++ [0] })

def discardProvider (provider : Nat) (state : State) : State :=
  if state.cached = some provider then { state with cached := none } else state

/-- `provider.__enter__()` adds one lease. -/
def enterProvider (provider : Nat) (state : State) : State :=
  { state with leases := state.leases.modify provider (· + 1) }

/-- `provider.__exit__()` removes one lease. -/
def exitProvider (provider : Nat) (state : State) : State :=
  { state with leases := state.leases.modify provider (· - 1) }

/-- How far `SerialPort.open` gets: its arguments are rejected, the portal does
not start, the asynchronous open raises or times out, or the port is opened. -/
inductive Attempt where
  | rejected
  | enterFailed
  | openFailed
  | opened
  deriving DecidableEq, Repr

def openPort (variant : Teardown.Variant) (attempt : Attempt) (state : State) : State :=
  match attempt with
  | .rejected => state
  | .enterFailed =>
      let (provider, state) := getProvider state
      discardProvider provider state
  | .openFailed =>
      let (provider, state) := getProvider state
      exitProvider provider (enterProvider provider state)
  | .opened =>
      let (provider, state) := getProvider state
      let state := enterProvider provider state
      { state with ports := state.ports ++ [SerialPort.new variant provider] }

/-- `anyio.fail_after` cancels the call at its first checkpoint once the deadline
has passed. `elapsed` is the time between setting the deadline and that checkpoint. -/
def expired (timeout : Option ExtendedRational) (elapsed : ℚ) : Bool :=
  match timeout with
  | none => false
  | some delay => delay.le (.finite elapsed)

/-- What the portal's task does when it runs `aclose()` alone: the first
checkpoint is the acquisition of the close lock, and nothing is delivered after it. -/
def acloseSchedule (variant : Teardown.Variant) (me : Nat) (cancelled : Bool) (close : Option PyExc) :
    List Teardown.Label :=
  if cancelled then [.call true]
  else
    match variant with
    | .posix => [.call false, .resume me close]
    | .asyncBackend => [.call false, .resume me close, .finish me close]

def runAclose (variant : Teardown.Variant) (port : Teardown.State) (cancelled : Bool) (close : Option PyExc) :
    Teardown.State :=
  (run (Teardown.step variant) port (acloseSchedule variant port.calls.length cancelled close)).getD port

def releasePortal (me : Nat) (port : SerialPort) (state : State) : State :=
  if port.portalEntered then
    let state := exitProvider port.provider state
    { state with ports := state.ports.set me { port with portalEntered := false, released := port.released + 1 } }
  else { state with ports := state.ports.set me port }

/-- `close(timeout=…)`. The portal is released whichever way `aclose()` ends. -/
def close (me : Nat) (timeout : Option ExtendedRational) (elapsed : ℚ) (result : Option PyExc) (state : State) :
    Option State :=
  match state.ports[me]? with
  | none => none
  | some port =>
      if port.closed then some state
      else
        let asyncPort := runAclose port.variant port.asyncPort (expired timeout elapsed) result
        some (releasePortal me { port with closed := true, asyncPort := asyncPort } state)

inductive Label where
  | openPort (variant : Teardown.Variant) (attempt : Attempt)
  | close (me : Nat) (timeout : Option ExtendedRational) (elapsed : ℚ) (result : Option PyExc)

def step (state : State) : Label → Option State
  | .openPort variant attempt => some (openPort variant attempt state)
  | .close me timeout elapsed result => close me timeout elapsed result state

/-- Whether the first `close()` of the port `me` found its deadline expired. -/
def firstClose (labels : List Label) (me : Nat) : Option Bool :=
  labels.findSome? fun label =>
    match label with
    | .close other timeout elapsed _ => if other = me then some (expired timeout elapsed) else none
    | .openPort _ _ => none

/-- The ports on a provider that were opened and are not closed yet. -/
def openPorts (state : State) (provider : Nat) : Nat :=
  state.ports.countP fun port => port.provider = provider ∧ port.closed = false

end Anyserial.Sync
