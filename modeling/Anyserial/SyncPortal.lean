import Anyserial.Sync

/-! The protocol of the shared portal provider. Any number of threads open, close and
configure, and a step is what one of them does between two points where another may run.
Only the bodies under the configuration lock are steps of more than one access. -/
set_option autoImplicit false

namespace Anyserial.Sync.Portal

variable {ω : Type}

/-- The module's `_provider_backend` and `_provider_options`. -/
structure Settings (ω : Type) where
  backend : String
  options : List (String × ω)
  deriving DecidableEq

/-- The arguments that a provider was built with. -/
structure Provider (ω : Type) where
  backend : String
  backendOptions : Option (List (String × ω))
  deriving DecidableEq

def Settings.provider (settings : Settings ω) : Provider ω :=
  ⟨settings.backend, if settings.options.isEmpty then none else some settings.options⟩

/-- Where one call of `open()` or `close()` stands. -/
inductive Call where
  /-- `_get_provider` has returned the provider. -/
  | fetched (provider : Nat)
  /-- `__enter__` has raised, and `_discard_provider` comes next. -/
  | startFailed (provider : Nat)
  | entered (provider : Nat)
  /-- The asynchronous open has raised, and `__exit__` comes next. -/
  | openFailed (provider : Nat)
  /-- `close()` has found `_closed` false. -/
  | foundOpen (port : Nat)
  | closing (port : Nat)
  /-- `aclose()` has ended, and `_release_portal` comes next. -/
  | finished (port : Nat)
  /-- `_release_portal` has found `_portal_entered` true. -/
  | foundEntered (port : Nat)
  | exiting (port : Nat)
  | ended
  deriving DecidableEq, Repr

structure State (ω : Type) where
  sync : Sync.State
  settings : Settings ω
  /-- One entry for every provider that was ever built. -/
  built : List (Provider ω)
  calls : List Call
  deriving DecidableEq

def initial : State ω := ⟨Sync.initial, ⟨"asyncio", []⟩, [], []⟩

def portalStarted : PyExc :=
  .runtimeError "configure_portal() must be called before the first sync SerialPort is opened; portal already started"

def configurePortal (backend : String) (backendOptions : Option (List (String × ω))) (state : State ω) :
    Except PyExc (State ω) :=
  if state.sync.cached.isSome then .error portalStarted
  else .ok { state with settings := ⟨backend, backendOptions.getD []⟩ }

def getProvider (state : State ω) : Nat × State ω :=
  let fetched := Sync.getProvider state.sync
  let built := if state.sync.cached.isSome then state.built else state.built ++ [state.settings.provider]
  (fetched.1, { state with sync := fetched.2, built := built })

inductive Label (ω : Type) where
  | configurePortal (backend : String) (backendOptions : Option (List (String × ω)))
  | fetch
  | enter (me : Nat) (starts : Bool)
  | discard (me : Nat)
  /-- The asynchronous open returns a port, or it raises or times out. -/
  | asyncOpen (me : Nat) (opened : Option Teardown.Variant)
  | abandon (me : Nat)
  | close (port : Nat)
  | markClosed (me : Nat)
  | aclose (me : Nat) (timeout : Option Kit.ExtendedRational) (elapsed : ℚ) (result : Option PyExc)
  | findEntered (me : Nat)
  | clearEntered (me : Nat)
  | release (me : Nat)

def State.became (state : State ω) (me : Nat) (call : Call) : State ω := { state with calls := state.calls.set me call }

def State.onPort (state : State ω) (port : Nat) (change : SerialPort → SerialPort) : State ω :=
  { state with sync := { state.sync with ports := state.sync.ports.modify port change } }

/-- `__enter__` starts the portal thread if no lease is held, and then the start may fail. -/
def enter (me provider : Nat) (starts : Bool) (state : State ω) : State ω :=
  if lease state.sync provider = 0 ∧ starts = false then state.became me (.startFailed provider)
  else { state with sync := enterProvider provider state.sync }.became me (.entered provider)

def asyncOpen (me provider : Nat) (opened : Option Teardown.Variant) (state : State ω) : State ω :=
  match opened with
  | some variant =>
      let ports := state.sync.ports ++ [SerialPort.new variant provider]
      { state with sync := { state.sync with ports := ports } }.became me .ended
  | none => state.became me (.openFailed provider)

def step (state : State ω) : Label ω → Option (State ω)
  | .configurePortal backend backendOptions =>
      match configurePortal backend backendOptions state with
      | .ok after => some after
      | .error _ => some state
  | .fetch =>
      let fetched := getProvider state
      some { fetched.2 with calls := fetched.2.calls ++ [.fetched fetched.1] }
  | .enter me starts =>
      match state.calls[me]? with
      | some (.fetched provider) => some (enter me provider starts state)
      | _ => none
  | .discard me =>
      match state.calls[me]? with
      | some (.startFailed provider) =>
          some ({ state with sync := discardProvider provider state.sync }.became me .ended)
      | _ => none
  | .asyncOpen me opened =>
      match state.calls[me]? with
      | some (.entered provider) => some (asyncOpen me provider opened state)
      | _ => none
  | .abandon me =>
      match state.calls[me]? with
      | some (.openFailed provider) => some ({ state with sync := exitProvider provider state.sync }.became me .ended)
      | _ => none
  | .close port =>
      match state.sync.ports[port]? with
      | some found =>
          some { state with calls := state.calls ++ [if found.closed then .ended else .foundOpen port] }
      | none => none
  | .markClosed me =>
      match state.calls[me]? with
      | some (.foundOpen port) =>
          some ((state.onPort port fun found => { found with closed := true }).became me (.closing port))
      | _ => none
  | .aclose me timeout elapsed result =>
      match state.calls[me]? with
      | some (.closing port) =>
          let ends := fun found : SerialPort =>
            { found with asyncPort := runAclose found.variant found.asyncPort (expired timeout elapsed) result }
          some ((state.onPort port ends).became me (.finished port))
      | _ => none
  | .findEntered me =>
      match state.calls[me]? with
      | some (.finished port) =>
          match state.sync.ports[port]? with
          | some found => some (state.became me (if found.portalEntered then .foundEntered port else .ended))
          | none => none
      | _ => none
  | .clearEntered me =>
      match state.calls[me]? with
      | some (.foundEntered port) =>
          some ((state.onPort port fun found => { found with portalEntered := false }).became me (.exiting port))
      | _ => none
  | .release me =>
      match state.calls[me]? with
      | some (.exiting port) =>
          match state.sync.ports[port]? with
          | some found =>
              let exited := { state with sync := exitProvider found.provider state.sync }
              some ((exited.onPort port fun found => { found with released := found.released + 1 }).became me .ended)
          | none => none
      | _ => none

end Anyserial.Sync.Portal
