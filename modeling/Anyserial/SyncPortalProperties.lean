import Anyserial.SyncPortal
import Anyserial.SyncProperties
import Anyserial.Kit.Turns

/-! What the portal protocol guarantees over every interleaving of its threads: the
leases of the providers, which one is cached, and how often each port gives its lease back. -/
set_option autoImplicit false

namespace Anyserial.Sync.Portal

open Kit

def Call.provider : Call → Option Nat
  | .fetched provider | .startFailed provider | .entered provider | .openFailed provider => some provider
  | _ => none

def Call.port : Call → Option Nat
  | .foundOpen port | .closing port | .finished port | .foundEntered port | .exiting port => some port
  | _ => none

variable {ω : Type} {state after final : State ω} {labels taken : List (Label ω)} {label : Label ω} {calls : List Call}
  {call old new : Call} {port : SerialPort} {me k provider : Nat}

/-- An opener holds a lease between `__enter__` and the port that takes it over. -/
def Call.holds (provider : Nat) : Call → Bool
  | .entered other | .openFailed other => other = provider
  | _ => false

/-- A port holds its lease until it has exited the provider. -/
def owes (provider : Nat) (port : SerialPort) : Bool := port.provider = provider ∧ port.released = 0

def holders (state : State ω) (provider : Nat) : Nat :=
  state.calls.countP (Call.holds provider) + state.sync.ports.countP (owes provider)

/-- A `close()` of the port that has not come to clear `_portal_entered`. -/
def Call.closes (port : Nat) : Call → Bool
  | .closing other | .finished other | .foundEntered other => other = port
  | _ => false

/-- The promises of the protocol in one state. -/
structure Protocol (state : State ω) : Prop where
  cached : ∀ provider, 0 < holders state provider → state.sync.cached = some provider
  discards : ∀ me after, step state (.discard me) = some after → ∀ provider, 0 < holders state provider →
    after.sync.cached = some provider
  single : ∀ first second, 0 < holders state first → 0 < holders state second → first = second
  configures : ∀ backend backendOptions after, configurePortal backend backendOptions state = .ok after →
    ∀ provider, holders state provider = 0
  leases : ∀ provider, lease state.sync provider = holders state provider
  exits : ∀ k port, state.sync.ports[k]? = some port →
    port.released ≤ 1 ∧ (port.closed = true → (∀ call ∈ state.calls, call.port ≠ some k) → port.released = 1)

/-- A thread that starts a portal does so on the provider that is still cached, and no
thread whose start of the same provider failed has yet to discard it. A `close()` does not
find `_portal_entered` set while another one that found it set has yet to clear it. -/
def StepFine (state : State ω) : Label ω → Prop
  | .enter me starts => ∀ provider, state.calls[me]? = some (.fetched provider) → lease state.sync provider = 0 →
      starts = true → state.sync.cached = some provider ∧ .startFailed provider ∉ state.calls
  | .findEntered me => ∀ port, state.calls[me]? = some (.finished port) → .foundEntered port ∉ state.calls
  | _ => True

/-- One port and the calls that close it. -/
structure PortCoherent (calls : List Call) (k : Nat) (port : SerialPort) : Prop where
  found : calls.count (.foundEntered k) ≤ if port.portalEntered then 1 else 0
  exits : calls.count (.exiting k) + port.released = if port.portalEntered then 0 else 1
  closing : port.closed = true → port.portalEntered = true → 0 < calls.countP (Call.closes k)

structure Coherent (state : State ω) : Prop where
  built : ProvidersBuilt state.sync
  fetched : ∀ call ∈ state.calls, ∀ provider, call.provider = some provider → provider < state.sync.leases.length
  targets : ∀ call ∈ state.calls, ∀ k, call.port = some k → k < state.sync.ports.length
  leases : ∀ provider, lease state.sync provider = holders state provider
  cached : ∀ provider, 0 < lease state.sync provider → state.sync.cached = some provider
  pending : ∀ provider, .startFailed provider ∈ state.calls → lease state.sync provider = 0
  ports : ∀ k port, state.sync.ports[k]? = some port → PortCoherent state.calls k port

theorem coherent_initial : Coherent (initial : State ω) := by
  constructor
  case built => exact ⟨nofun, nofun⟩
  case fetched => exact nofun
  case targets => exact nofun
  case leases => exact fun _ => rfl
  case cached => exact fun _ held => absurd held (Nat.lt_irrefl 0)
  case pending => exact nofun
  case ports => exact nofun

section Calls

theorem holds_of_provider (other : new.provider ≠ some provider) : Call.holds provider new = false := by
  cases new with
  | entered _ | openFailed _ => exact decide_eq_false fun same => other (congrArg some same)
  | _ => rfl

theorem provider_of_port (target : new.port = some k) : new.provider = none := by
  cases new with
  | fetched _ | startFailed _ | entered _ | openFailed _ | ended => cases target
  | _ => rfl

theorem closes_of_port (other : new.port ≠ some k) : Call.closes k new = false := by
  cases new with
  | closing _ | finished _ | foundEntered _ => exact decide_eq_false fun same => other (congrArg some same)
  | _ => rfl

theorem holders_became (found : state.calls[me]? = some old) (new : Call) (provider : Nat) :
    holders (state.became me new) provider + (if Call.holds provider old then 1 else 0) =
      holders state provider + if Call.holds provider new then 1 else 0 := by
  have added : (state.calls.set me new).countP (Call.holds provider) + _ = state.calls.countP (Call.holds provider) + _ :=
    countP_set_add found new
  simp only [holders, State.became]
  omega

/-- A call that moves on without a look at the port. -/
theorem PortCoherent.other (coherent : PortCoherent calls k port) (found : calls[me]? = some old)
    (oldOther : old.port ≠ some k) (newOther : new.port ≠ some k) : PortCoherent (calls.set me new) k port := by
  have same : ∀ call : Call, call.port = some k → (calls.set me new).count call = calls.count call := by
    intro call target
    have notOld : old ≠ call := fun same => oldOther (congrArg Call.port same |>.trans target)
    have notNew : new ≠ call := fun same => newOther (congrArg Call.port same |>.trans target)
    have added := count_set_add found new call
    rw [if_neg notOld, if_neg notNew] at added
    exact added
  constructor
  case found =>
    rw [same _ rfl]
    exact coherent.found
  case exits =>
    rw [same _ rfl]
    exact coherent.exits
  case closing =>
    intro closed entered
    have added : (calls.set me new).countP (Call.closes k) + _ = calls.countP (Call.closes k) + _ :=
      countP_set_add found new
    rw [closes_of_port oldOther, closes_of_port newOther] at added
    exact Nat.add_right_cancel added ▸ coherent.closing closed entered

theorem PortCoherent.append (coherent : PortCoherent calls k port) (notFound : new ≠ .foundEntered k)
    (notExiting : new ≠ .exiting k) : PortCoherent (calls ++ [new]) k port := by
  constructor
  case found =>
    rw [List.count_append, List.count_singleton, if_neg (by simpa using notFound)]
    exact coherent.found
  case exits =>
    rw [List.count_append, List.count_singleton, if_neg (by simpa using notExiting)]
    exact coherent.exits
  case closing =>
    intro closed entered
    rw [List.countP_append]
    exact Nat.lt_add_right _ (coherent.closing closed entered)

end Calls

section Openers

/-- A step of an opener: what it does to the provider is left to the caller. -/
theorem Coherent.opener (coherent : Coherent state) (found : state.calls[me]? = some old) (sync : Sync.State)
    (ports : sync.ports = state.sync.ports) (length : state.sync.leases.length ≤ sync.leases.length)
    (oldOpens : old.port = none) (newOpens : new.port = none)
    (built : ProvidersBuilt sync) (fetched : ∀ provider, new.provider = some provider → provider < sync.leases.length)
    (leases : ∀ provider, lease sync provider + (if Call.holds provider old then 1 else 0) =
      lease state.sync provider + if Call.holds provider new then 1 else 0)
    (cached : ∀ provider, 0 < lease sync provider → sync.cached = some provider)
    (pending : ∀ provider, .startFailed provider ∈ state.calls ∨ new = .startFailed provider →
      lease sync provider = 0) :
    Coherent ({ state with sync := sync }.became me new) := by
  constructor
  case built => exact built
  case fetched =>
    intro call member provider named
    rcases List.mem_or_eq_of_mem_set member with earlier | rfl
    · exact Nat.lt_of_lt_of_le (coherent.fetched call earlier provider named) length
    · exact fetched provider named
  case targets =>
    intro call member k target
    change k < sync.ports.length
    rw [ports]
    rcases List.mem_or_eq_of_mem_set member with earlier | rfl
    · exact coherent.targets call earlier k target
    · cases newOpens.symm.trans target
  case leases =>
    intro provider
    have moved := holders_became found new provider
    have before := coherent.leases provider
    have change := leases provider
    have same : holders ({ state with sync := sync }.became me new) provider = holders (state.became me new) provider := by
      simp only [holders, State.became, ports]
    change lease sync provider = _
    rw [same]
    omega
  case cached => exact cached
  case pending =>
    intro provider member
    refine pending provider ?_
    rcases List.mem_or_eq_of_mem_set member with earlier | same
    · exact .inl earlier
    · exact .inr same.symm
  case ports =>
    intro k port inside
    change sync.ports[k]? = some port at inside
    rw [ports] at inside
    refine (coherent.ports k port inside).other found ?_ ?_
    · rw [oldOpens]
      exact nofun
    · rw [newOpens]
      exact nofun

theorem Coherent.fetch (coherent : Coherent state) :
    Coherent { (getProvider state).2 with calls := (getProvider state).2.calls ++ [.fetched (getProvider state).1] } := by
  obtain ⟨ports, leases, known, built⟩ := getProvider_spec coherent.built
  have length : state.sync.leases.length ≤ (Sync.getProvider state.sync).2.leases.length := by
    cases present : state.sync.cached with
    | some provider => simp only [Sync.getProvider, present, Nat.le_refl]
    | none => simp [Sync.getProvider, present]
  constructor
  case built => exact built
  case fetched =>
    intro call member provider named
    rcases List.mem_append.mp member with earlier | new
    · exact Nat.lt_of_lt_of_le (coherent.fetched call earlier provider named) length
    · obtain rfl := List.mem_singleton.mp new
      exact Option.some.inj named ▸ known
  case targets =>
    intro call member k target
    change k < (Sync.getProvider state.sync).2.ports.length
    rw [ports]
    rcases List.mem_append.mp member with earlier | new
    · exact coherent.targets call earlier k target
    · obtain rfl := List.mem_singleton.mp new
      cases target
  case leases =>
    intro provider
    change lease (Sync.getProvider state.sync).2 provider = _
    rw [leases, coherent.leases]
    simp [holders, getProvider, ports, Call.holds]
  case cached =>
    intro provider held
    change (Sync.getProvider state.sync).2.cached = some provider
    have present := coherent.cached provider (leases provider ▸ held)
    simp only [Sync.getProvider, present]
  case pending =>
    intro provider member
    change lease (Sync.getProvider state.sync).2 provider = 0
    rw [leases]
    rcases List.mem_append.mp member with earlier | new
    · exact coherent.pending provider earlier
    · cases List.mem_singleton.mp new
  case ports =>
    intro k port inside
    change (Sync.getProvider state.sync).2.ports[k]? = some port at inside
    rw [ports] at inside
    exact (coherent.ports k port inside).append (by simp) (by simp)

/-- The call that holds `provider` was given a provider that exists. -/
theorem Coherent.known (coherent : Coherent state) (found : state.calls[me]? = some call) (named : call.provider = some provider) :
    provider < state.sync.leases.length :=
  coherent.fetched call (List.mem_of_getElem? found) provider named

theorem Coherent.enter {starts : Bool} (coherent : Coherent state) (found : state.calls[me]? = some (.fetched provider))
    (fine : lease state.sync provider = 0 → starts = true →
      state.sync.cached = some provider ∧ .startFailed provider ∉ state.calls) :
    Coherent (enter me provider starts state) := by
  have known : provider < state.sync.leases.length := coherent.known found rfl
  unfold Portal.enter
  by_cases fails : lease state.sync provider = 0 ∧ starts = false
  · rw [if_pos fails]
    refine coherent.opener found state.sync rfl (Nat.le_refl _) rfl rfl coherent.built ?_ (fun _ => rfl) coherent.cached ?_
    · intro other named
      exact Option.some.inj named ▸ known
    · intro other failed
      rcases failed with earlier | same
      · exact coherent.pending other earlier
      · exact Call.startFailed.inj same ▸ fails.1
  · rw [if_neg fails]
    have starting : lease state.sync provider = 0 → starts = true := by
      intro unheld
      exact Bool.eq_true_of_not_eq_false fun same => fails ⟨unheld, same⟩
    refine coherent.opener found (enterProvider provider state.sync) rfl (by simp [enterProvider]) rfl rfl
      coherent.built.enterProvider ?_ ?_ ?_ ?_
    · intro other named
      simpa [enterProvider] using Option.some.inj named ▸ known
    · intro other
      simp [lease_enterProvider known, Call.holds, eq_comm]
    · intro other held
      change state.sync.cached = some other
      rw [lease_enterProvider known] at held
      by_cases same : other = provider
      · subst same
        cases unheld : lease state.sync other with
        | zero => exact (fine unheld (starting unheld)).1
        | succ count => exact coherent.cached other (by omega)
      · rw [if_neg same] at held
        exact coherent.cached other held
    · intro other failed
      rcases failed with earlier | never
      · have unheld := coherent.pending other earlier
        have different : other ≠ provider := by
          rintro rfl
          exact (fine unheld (starting unheld)).2 earlier
        rw [lease_enterProvider known, if_neg different]
        exact unheld
      · cases never

theorem leases_discardProvider (provider : Nat) (sync : Sync.State) :
    (discardProvider provider sync).leases = sync.leases := by
  unfold discardProvider
  split <;> rfl

theorem lease_discardProvider (provider : Nat) (sync : Sync.State) (other : Nat) :
    lease (discardProvider provider sync) other = lease sync other := by
  simp only [lease, leases_discardProvider]

theorem Coherent.discard (coherent : Coherent state) (found : state.calls[me]? = some (.startFailed provider)) :
    Coherent ({ state with sync := discardProvider provider state.sync }.became me .ended) := by
  have unheld : lease state.sync provider = 0 := coherent.pending provider (List.mem_of_getElem? found)
  have same := lease_discardProvider provider state.sync
  refine coherent.opener found (discardProvider provider state.sync) ?_ ?_ rfl rfl coherent.built.discardProvider nofun ?_ ?_ ?_
  · unfold discardProvider
    split <;> rfl
  · rw [leases_discardProvider]
  · intro other
    rw [same]
    rfl
  · intro other held
    rw [same] at held
    have present := coherent.cached other held
    have different : ¬state.sync.cached = some provider := by
      intro cached
      cases present.symm.trans cached
      omega
    rw [discardProvider, if_neg different]
    exact present
  · intro other failed
    rw [same]
    rcases failed with earlier | never
    · exact coherent.pending other earlier
    · cases never

theorem Coherent.abandon (coherent : Coherent state) (found : state.calls[me]? = some (.openFailed provider)) :
    Coherent ({ state with sync := exitProvider provider state.sync }.became me .ended) := by
  have held : 0 < lease state.sync provider := by
    rw [coherent.leases, holders]
    have counted : 0 < state.calls.countP (Call.holds provider) :=
      List.countP_pos_iff.mpr ⟨_, List.mem_of_getElem? found, by simp [Call.holds]⟩
    omega
  have fewer : ∀ other, lease (exitProvider provider state.sync) other ≤ lease state.sync other := by
    intro other
    rw [lease_exitProvider]
    exact Nat.sub_le _ _
  refine coherent.opener found (exitProvider provider state.sync) rfl (by simp [exitProvider]) rfl rfl
    coherent.built.exitProvider nofun ?_ ?_ ?_
  · intro other
    rw [lease_exitProvider]
    by_cases same : other = provider
    · subst same
      simp only [Call.holds, decide_true, if_true]
      exact Nat.sub_add_cancel held
    · simp [Call.holds, same, Ne.symm same]
  · intro other held
    exact coherent.cached other (Nat.lt_of_lt_of_le held (fewer other))
  · intro other failed
    rcases failed with earlier | never
    · exact Nat.le_zero.mp (coherent.pending other earlier ▸ fewer other)
    · cases never

/-- The new port takes the lease over from the call that opened it. -/
theorem Coherent.opened (coherent : Coherent state) (found : state.calls[me]? = some (.entered provider))
    (variant : Teardown.Variant) : Coherent (asyncOpen me provider (some variant) state) := by
  constructor
  case built =>
    refine ⟨coherent.built.cached, fun port member => ?_⟩
    rcases List.mem_append.mp member with earlier | new
    · exact coherent.built.ports port earlier
    · obtain rfl := List.mem_singleton.mp new
      exact coherent.known found rfl
  case fetched =>
    intro call member other named
    rcases List.mem_or_eq_of_mem_set member with earlier | rfl
    · exact coherent.fetched call earlier other named
    · cases named
  case targets =>
    intro call member k target
    change k < (state.sync.ports ++ [SerialPort.new variant provider]).length
    rw [List.length_append]
    rcases List.mem_or_eq_of_mem_set member with earlier | rfl
    · exact Nat.lt_add_right _ (coherent.targets call earlier k target)
    · cases target
  case leases =>
    intro other
    have moved := holders_became found .ended other
    have before := coherent.leases other
    change lease state.sync other = _
    simp only [holders, State.became, asyncOpen, List.countP_append, List.countP_singleton, Call.holds, owes,
      SerialPort.new] at moved before ⊢
    simp only [and_true] at moved ⊢
    simp at moved ⊢
    omega
  case cached => exact coherent.cached
  case pending =>
    intro other member
    rcases List.mem_or_eq_of_mem_set member with earlier | never
    · exact coherent.pending other earlier
    · cases never
  case ports =>
    intro k port inside
    change (state.sync.ports ++ [SerialPort.new variant provider])[k]? = some port at inside
    rcases Nat.lt_or_ge k state.sync.ports.length with earlier | beyond
    · rw [List.getElem?_append_left earlier] at inside
      exact (coherent.ports k port inside).other found (by simp [Call.port]) (by simp [Call.port])
    · have untouched : ∀ call ∈ state.calls, call.port ≠ some k := by
        intro call member target
        exact absurd (coherent.targets call member k target) (Nat.not_lt.mpr beyond)
      have fresh : PortCoherent state.calls k (SerialPort.new variant provider) := by
        constructor
        case found =>
          rw [List.count_eq_zero.mpr fun member => untouched _ member rfl]
          exact Nat.zero_le _
        case exits =>
          rw [List.count_eq_zero.mpr fun member => untouched _ member rfl]
          rfl
        case closing => simp [SerialPort.new]
      rw [List.getElem?_append_right beyond] at inside
      obtain ⟨_, new⟩ := List.getElem?_eq_some_iff.mp inside
      rw [List.getElem_singleton] at new
      exact new ▸ fresh.other found (by simp [Call.port]) (by simp [Call.port])

theorem Coherent.openFailed (coherent : Coherent state) (found : state.calls[me]? = some (.entered provider)) :
    Coherent (asyncOpen me provider none state) := by
  refine coherent.opener found state.sync rfl (Nat.le_refl _) rfl rfl coherent.built ?_ (fun _ => rfl) coherent.cached ?_
  · intro other named
    exact Option.some.inj named ▸ coherent.known found rfl
  · intro other failed
    rcases failed with earlier | never
    · exact coherent.pending other earlier
    · cases never

end Openers

section Closers

theorem Coherent.close (coherent : Coherent state) (inside : k < state.sync.ports.length)
    (begun : new = .ended ∨ new = .foundOpen k) : Coherent { state with calls := state.calls ++ [new] } := by
  have unnamed : new.provider = none := by rcases begun with rfl | rfl <;> rfl
  constructor
  case built => exact coherent.built
  case fetched =>
    intro call member provider named
    rcases List.mem_append.mp member with earlier | same
    · exact coherent.fetched call earlier provider named
    · obtain rfl := List.mem_singleton.mp same
      cases unnamed.symm.trans named
  case targets =>
    intro call member other target
    rcases List.mem_append.mp member with earlier | same
    · exact coherent.targets call earlier other target
    · obtain rfl := List.mem_singleton.mp same
      rcases begun with rfl | rfl
      · cases target
      · cases target
        exact inside
  case leases =>
    intro provider
    have free : Call.holds provider new = false := holds_of_provider (by rw [unnamed]; exact nofun)
    change lease state.sync provider = _
    rw [coherent.leases]
    simp only [holders, List.countP_append, List.countP_singleton, free, Bool.false_eq_true, if_false, Nat.add_zero]
  case cached => exact coherent.cached
  case pending =>
    intro provider member
    rcases List.mem_append.mp member with earlier | same
    · exact coherent.pending provider earlier
    · cases List.mem_singleton.mp same
      cases unnamed
  case ports =>
    intro other port present
    rcases begun with rfl | rfl
    · exact (coherent.ports other port present).append nofun nofun
    · exact (coherent.ports other port present).append nofun nofun

section Port

variable {after : SerialPort}

/-- What the counts of a port have to satisfy when one of its calls moves on. -/
theorem PortCoherent.moved (found : calls[me]? = some old)
    (finds : calls.count (.foundEntered k) + (if new = .foundEntered k then 1 else 0) ≤
      (if after.portalEntered then 1 else 0) + if old = .foundEntered k then 1 else 0)
    (exits : calls.count (.exiting k) + after.released + (if new = .exiting k then 1 else 0) =
      (if after.portalEntered then 0 else 1) + if old = .exiting k then 1 else 0)
    (closing : after.closed = true → after.portalEntered = true →
      (if Call.closes k old then 1 else 0) < calls.countP (Call.closes k) + if Call.closes k new then 1 else 0) :
    PortCoherent (calls.set me new) k after := by
  have findsAdded := count_set_add found new (.foundEntered k)
  have exitsAdded := count_set_add found new (.exiting k)
  have closesAdded : (calls.set me new).countP (Call.closes k) + _ = calls.countP (Call.closes k) + _ :=
    countP_set_add found new
  constructor
  case found => omega
  case exits => omega
  case closing =>
    intro closed entered
    have before := closing closed entered
    omega

theorem PortCoherent.markClosed (coherent : PortCoherent calls k port) (found : calls[me]? = some (.foundOpen k)) :
    PortCoherent (calls.set me (.closing k)) k { port with closed := true } := by
  refine .moved found ?_ ?_ fun _ _ => ?_
  · simpa using coherent.found
  · simpa using coherent.exits
  · simp [Call.closes]

theorem PortCoherent.aclose (coherent : PortCoherent calls k port) (found : calls[me]? = some (.closing k))
    (asyncPort : Teardown.State) : PortCoherent (calls.set me (.finished k)) k { port with asyncPort := asyncPort } := by
  refine .moved found ?_ ?_ fun closed entered => ?_
  · simpa using coherent.found
  · simpa using coherent.exits
  · simpa [Call.closes] using coherent.closing closed entered

theorem PortCoherent.findEntered (coherent : PortCoherent calls k port) (found : calls[me]? = some (.finished k))
    (fine : .foundEntered k ∉ calls) :
    PortCoherent (calls.set me (if port.portalEntered then .foundEntered k else .ended)) k port := by
  have none : calls.count (.foundEntered k) = 0 := List.count_eq_zero.mpr fine
  have exits := coherent.exits
  cases entered : port.portalEntered with
  | true =>
    rw [entered] at exits
    refine .moved found ?_ ?_ fun closed _ => ?_
    · simp [none, entered]
    · simpa [entered] using exits
    · simpa [Call.closes] using coherent.closing closed entered
  | false =>
    rw [entered] at exits
    refine .moved found ?_ ?_ fun _ never => ?_
    · simp [none]
    · simpa [entered] using exits
    · cases entered.symm.trans never

theorem PortCoherent.clearEntered (coherent : PortCoherent calls k port) (found : calls[me]? = some (.foundEntered k)) :
    PortCoherent (calls.set me (.exiting k)) k { port with portalEntered := false } := by
  have some : 0 < calls.count (.foundEntered k) := List.count_pos_iff.mpr (List.mem_of_getElem? found)
  have finds := coherent.found
  have exits := coherent.exits
  cases entered : port.portalEntered with
  | false =>
    rw [entered] at finds
    exact absurd (Nat.lt_of_lt_of_le some finds) (Nat.lt_irrefl 0)
  | true =>
    rw [entered] at finds exits
    refine .moved found ?_ ?_ nofun
    · simpa using finds
    · simpa using exits

/-- The call that exits the provider is the first one for its port. -/
theorem PortCoherent.unreleased (coherent : PortCoherent calls k port) (found : calls[me]? = some (.exiting k)) :
    port.portalEntered = false ∧ port.released = 0 ∧ calls.count (.exiting k) = 1 := by
  have some : 0 < calls.count (.exiting k) := List.count_pos_iff.mpr (List.mem_of_getElem? found)
  have exits := coherent.exits
  cases entered : port.portalEntered with
  | true =>
    rw [entered, if_pos rfl] at exits
    omega
  | false =>
    rw [entered, if_neg Bool.false_ne_true] at exits
    exact ⟨rfl, by omega, by omega⟩

theorem PortCoherent.release (coherent : PortCoherent calls k port) (found : calls[me]? = some (.exiting k)) :
    PortCoherent (calls.set me .ended) k { port with released := port.released + 1 } := by
  obtain ⟨entered, unreleased, one⟩ := coherent.unreleased found
  refine .moved found ?_ ?_ fun _ never => ?_
  · simpa [entered] using coherent.found
  · simp [entered, unreleased, one]
  · cases entered.symm.trans never

end Port

/-- A step of a closer changes its port, and maybe the lease that the port holds. -/
theorem Coherent.closer {change : SerialPort → SerialPort} (coherent : Coherent state) (sync : Sync.State)
    (found : state.calls[me]? = some old) (target : old.port = some k) (inside : state.sync.ports[k]? = some port)
    (ports : sync.ports = state.sync.ports) (length : sync.leases.length = state.sync.leases.length)
    (cached : sync.cached = state.sync.cached) (fewer : ∀ provider, lease sync provider ≤ lease state.sync provider)
    (leases : ∀ provider, lease sync provider + (if owes provider port then 1 else 0) =
      lease state.sync provider + if owes provider (change port) then 1 else 0)
    (newTarget : ∀ other, new.port = some other → other = k) (unnamed : new.provider = none)
    (same : (change port).provider = port.provider)
    (keeps : PortCoherent (state.calls.set me new) k (change port)) :
    Coherent (({ state with sync := sync }.onPort k change).became me new) := by
  have changed : ∀ (other : Nat) found, (sync.ports.modify k change)[other]? = some found →
      (other = k ∧ found = change port) ∨ (other ≠ k ∧ state.sync.ports[other]? = some found) := by
    intro other found present
    rw [ports, List.getElem?_modify] at present
    obtain ⟨before, earlier, rfl⟩ := Option.map_eq_some_iff.mp present
    by_cases here : k = other
    · subst here
      cases inside.symm.trans earlier
      exact .inl ⟨rfl, if_pos rfl⟩
    · rw [if_neg here]
      exact .inr ⟨Ne.symm here, earlier⟩
  constructor
  case built =>
    constructor
    case cached =>
      intro provider present
      change provider < sync.leases.length
      rw [length]
      exact coherent.built.cached provider (cached ▸ present)
    case ports =>
      intro found member
      obtain ⟨other, present⟩ := List.mem_iff_getElem?.mp member
      change found.provider < sync.leases.length
      rw [length]
      rcases changed other found present with ⟨_, rfl⟩ | ⟨_, earlier⟩
      · rw [same]
        exact coherent.built.ports port (List.mem_of_getElem? inside)
      · exact coherent.built.ports found (List.mem_of_getElem? earlier)
  case fetched =>
    intro call member provider named
    change provider < sync.leases.length
    rw [length]
    rcases List.mem_or_eq_of_mem_set member with earlier | rfl
    · exact coherent.fetched call earlier provider named
    · cases unnamed.symm.trans named
  case targets =>
    intro call member other aimed
    change other < (sync.ports.modify k change).length
    rw [List.length_modify, ports]
    rcases List.mem_or_eq_of_mem_set member with earlier | rfl
    · exact coherent.targets call earlier other aimed
    · exact newTarget other aimed ▸ coherent.targets old (List.mem_of_getElem? found) k target
  case leases =>
    intro provider
    have oldFree : Call.holds provider old = false :=
      holds_of_provider (by rw [provider_of_port target]; exact nofun)
    have newFree : Call.holds provider new = false := holds_of_provider (by rw [unnamed]; exact nofun)
    have moved : (state.calls.set me new).countP (Call.holds provider) = state.calls.countP (Call.holds provider) := by
      have added : (state.calls.set me new).countP (Call.holds provider) + _ = _ := countP_set_add found new
      rw [oldFree, newFree] at added
      exact added
    have owed : (state.sync.ports.modify k change).countP (owes provider) + _ = _ := countP_modify_add inside change
    have before := coherent.leases provider
    have released := leases provider
    simp only [holders] at before
    change lease sync provider = _
    simp only [holders, State.became, State.onPort, ports, moved]
    omega
  case cached =>
    intro provider held
    exact cached.trans (coherent.cached provider (Nat.lt_of_lt_of_le held (fewer provider)))
  case pending =>
    intro provider member
    rcases List.mem_or_eq_of_mem_set member with earlier | same
    · exact Nat.le_zero.mp (coherent.pending provider earlier ▸ fewer provider)
    · subst same
      cases unnamed
  case ports =>
    intro other after present
    rcases changed other after present with ⟨rfl, rfl⟩ | ⟨elsewhere, earlier⟩
    · exact keeps
    · refine (coherent.ports other after earlier).other found ?_ fun moved => elsewhere (newTarget other moved)
      rw [target]
      exact fun equal => elsewhere (Option.some.inj equal).symm

/-- A step of a closer that gives no lease back. -/
theorem Coherent.quietCloser {change : SerialPort → SerialPort} (coherent : Coherent state)
    (found : state.calls[me]? = some old) (target : old.port = some k) (inside : state.sync.ports[k]? = some port)
    (newTarget : ∀ other, new.port = some other → other = k) (unnamed : new.provider = none)
    (same : (change port).provider = port.provider) (released : (change port).released = port.released)
    (keeps : PortCoherent (state.calls.set me new) k (change port)) :
    Coherent ((state.onPort k change).became me new) := by
  refine coherent.closer state.sync found target inside rfl rfl rfl (fun _ => Nat.le_refl _) ?_ newTarget unnamed same keeps
  intro provider
  have owed : owes provider (change port) = owes provider port := by simp only [owes, same, released]
  rw [owed]

theorem Coherent.release (coherent : Coherent state) (found : state.calls[me]? = some (.exiting k))
    (inside : state.sync.ports[k]? = some port) :
    Coherent (({ state with sync := exitProvider port.provider state.sync }.onPort k
      fun found => { found with released := found.released + 1 }).became me .ended) := by
  have portCoherent := coherent.ports k port inside
  obtain ⟨_, unreleased, _⟩ := portCoherent.unreleased found
  have held : 0 < lease state.sync port.provider := by
    have counted : 0 < state.sync.ports.countP (owes port.provider) :=
      List.countP_pos_iff.mpr ⟨port, List.mem_of_getElem? inside, decide_eq_true ⟨rfl, unreleased⟩⟩
    rw [coherent.leases, holders]
    omega
  refine coherent.closer (exitProvider port.provider state.sync) found rfl inside rfl (List.length_modify ..) rfl ?_ ?_ nofun
    rfl rfl (portCoherent.release found)
  · intro provider
    rw [lease_exitProvider]
    exact Nat.sub_le _ _
  · intro provider
    rw [lease_exitProvider]
    by_cases here : provider = port.provider
    · subst here
      simp only [owes, unreleased, if_true]
      simp
      omega
    · simp [owes, here, Ne.symm here]

end Closers

theorem configurePortal_spec {backend : String} {backendOptions : Option (List (String × ω))}
    (configured : configurePortal backend backendOptions state = .ok after) :
    state.sync.cached = none ∧ after = { state with settings := ⟨backend, backendOptions.getD []⟩ } := by
  unfold configurePortal at configured
  cases present : state.sync.cached with
  | some provider =>
    rw [present, Option.isSome_some, if_pos rfl] at configured
    cases configured
  | none =>
    rw [present, if_neg (by decide)] at configured
    cases configured
    exact ⟨rfl, rfl⟩

theorem Coherent.configure (coherent : Coherent state) (settings : Settings ω) :
    Coherent { state with settings := settings } := by
  constructor
  case built => exact coherent.built
  case fetched => exact coherent.fetched
  case targets => exact coherent.targets
  case leases => exact coherent.leases
  case cached => exact coherent.cached
  case pending => exact coherent.pending
  case ports => exact coherent.ports

/-- A port that a call aims at is there. -/
theorem Coherent.target (coherent : Coherent state) (found : state.calls[me]? = some call) (aimed : call.port = some k) :
    ∃ port, state.sync.ports[k]? = some port ∧ PortCoherent state.calls k port := by
  have bound := coherent.targets call (List.mem_of_getElem? found) k aimed
  exact ⟨state.sync.ports[k], List.getElem?_eq_getElem bound, coherent.ports k _ (List.getElem?_eq_getElem bound)⟩

/-- One case for each step of a thread. -/
theorem Coherent.step (coherent : Coherent state) (fine : StepFine state label)
    (stepped : step state label = some after) : Coherent after := by
  cases label with
  | configurePortal backend backendOptions =>
    simp only [Portal.step] at stepped
    split at stepped
    · rename_i configured
      obtain ⟨_, rfl⟩ := configurePortal_spec configured
      obtain rfl := Option.some.inj stepped
      exact coherent.configure _
    · obtain rfl := Option.some.inj stepped
      exact coherent
  | fetch =>
    obtain rfl := Option.some.inj stepped
    exact coherent.fetch
  | enter me starts =>
    simp only [Portal.step] at stepped
    split at stepped
    · rename_i provider found
      obtain rfl := Option.some.inj stepped
      exact coherent.enter found (fine provider found)
    · cases stepped
  | discard me =>
    simp only [Portal.step] at stepped
    split at stepped
    · rename_i provider found
      obtain rfl := Option.some.inj stepped
      exact coherent.discard found
    · cases stepped
  | asyncOpen me opened =>
    simp only [Portal.step] at stepped
    split at stepped
    · rename_i provider found
      obtain rfl := Option.some.inj stepped
      cases opened with
      | none => exact coherent.openFailed found
      | some variant => exact coherent.opened found variant
    · cases stepped
  | abandon me =>
    simp only [Portal.step] at stepped
    split at stepped
    · rename_i provider found
      obtain rfl := Option.some.inj stepped
      exact coherent.abandon found
    · cases stepped
  | close k =>
    simp only [Portal.step] at stepped
    split at stepped
    · rename_i port inside
      obtain rfl := Option.some.inj stepped
      refine coherent.close (List.getElem?_eq_some_iff.mp inside).1 ?_
      cases port.closed with
      | true => exact .inl rfl
      | false => exact .inr rfl
    · cases stepped
  | markClosed me =>
    simp only [Portal.step] at stepped
    split at stepped
    · rename_i k found
      obtain rfl := Option.some.inj stepped
      obtain ⟨port, inside, portCoherent⟩ := coherent.target found rfl
      exact coherent.quietCloser found rfl inside (fun _ same => (Option.some.inj same).symm) rfl rfl rfl
        (portCoherent.markClosed found)
    · cases stepped
  | aclose me timeout elapsed result =>
    simp only [Portal.step] at stepped
    split at stepped
    · rename_i k found
      obtain rfl := Option.some.inj stepped
      obtain ⟨port, inside, portCoherent⟩ := coherent.target found rfl
      exact coherent.quietCloser found rfl inside (fun _ same => (Option.some.inj same).symm) rfl rfl rfl
        (portCoherent.aclose found _)
    · cases stepped
  | findEntered me =>
    simp only [Portal.step] at stepped
    split at stepped
    · rename_i k found
      split at stepped
      · rename_i port inside
        obtain rfl := Option.some.inj stepped
        have moved := (coherent.ports k port inside).findEntered found (fine k found)
        have unchanged : state.onPort k id = state := by simp [State.onPort]
        rw [← unchanged]
        refine coherent.quietCloser found rfl inside ?_ ?_ rfl rfl moved
        · intro other
          split
          · exact fun same => (Option.some.inj same).symm
          · exact nofun
        · split
          · rfl
          · rfl
      · cases stepped
    · cases stepped
  | clearEntered me =>
    simp only [Portal.step] at stepped
    split at stepped
    · rename_i k found
      obtain rfl := Option.some.inj stepped
      obtain ⟨port, inside, portCoherent⟩ := coherent.target found rfl
      exact coherent.quietCloser found rfl inside (fun _ same => (Option.some.inj same).symm) rfl rfl rfl
        (portCoherent.clearEntered found)
    · cases stepped
  | release me =>
    simp only [Portal.step] at stepped
    split at stepped
    · rename_i k found
      split at stepped
      · rename_i port inside
        obtain rfl := Option.some.inj stepped
        exact coherent.release found inside
      · cases stepped
    · cases stepped

theorem Coherent.protocol (coherent : Coherent state) : Protocol state := by
  have cached : ∀ provider, 0 < holders state provider → state.sync.cached = some provider := by
    intro provider held
    exact coherent.cached provider (coherent.leases provider ▸ held)
  constructor
  case cached => exact cached
  case discards =>
    intro me after stepped provider held
    have discarded : Coherent after := coherent.step (show StepFine state (.discard me) from trivial) stepped
    refine discarded.cached provider ?_
    rw [← coherent.leases] at held
    simp only [Portal.step] at stepped
    split at stepped
    · obtain rfl := Option.some.inj stepped
      exact Nat.lt_of_lt_of_eq held (lease_discardProvider _ state.sync provider).symm
    · cases stepped
  case single =>
    intro first second firstHeld secondHeld
    exact Option.some.inj ((cached first firstHeld).symm.trans (cached second secondHeld))
  case configures =>
    intro backend backendOptions after configured provider
    obtain ⟨uncached, _⟩ := configurePortal_spec configured
    refine Nat.eq_zero_of_not_pos fun held => ?_
    cases uncached.symm.trans (cached provider held)
  case leases => exact coherent.leases
  case exits =>
    intro k port inside
    obtain ⟨_, exits, closing⟩ := coherent.ports k port inside
    refine ⟨?_, fun closed quiet => ?_⟩
    · split at exits <;> omega
    · have exiting : state.calls.count (.exiting k) = 0 := List.count_eq_zero.mpr fun member => quiet _ member rfl
      have closers : state.calls.countP (Call.closes k) = 0 := by
        refine List.countP_eq_zero.mpr fun call member => ?_
        rw [closes_of_port (quiet call member)]
        exact Bool.false_ne_true
      cases entered : port.portalEntered with
      | true => exact absurd (closing closed entered) (by omega)
      | false =>
        rw [entered, exiting, if_neg Bool.false_ne_true] at exits
        omega

section Sharp

/-- The threads can still go on to break a promise. -/
def Breaks (state : State ω) : Prop := ∃ rest final, run step state rest = some final ∧ ¬Protocol final

theorem holders_pos (member : .entered provider ∈ state.calls) : 0 < holders state provider := by
  have counted : 0 < state.calls.countP (Call.holds provider) :=
    List.countP_pos_iff.mpr ⟨_, member, decide_eq_true rfl⟩
  unfold holders
  omega

/-- A lease on a provider that is not cached: the next one to configure succeeds, or the
next one to open starts a second portal. -/
theorem breaks_of_stale (entered : .entered provider ∈ state.calls) (stale : state.sync.cached ≠ some provider) :
    Breaks state := by
  cases cached : state.sync.cached with
  | none =>
    have configured : configurePortal "asyncio" none state = .ok { state with settings := ⟨"asyncio", []⟩ } := by
      rw [configurePortal, cached]
      rfl
    refine ⟨[], state, rfl, fun protocol => ?_⟩
    have free := protocol.configures _ _ _ configured provider
    exact absurd (holders_pos entered) (by omega)
  | some other =>
    let opening : State ω := { state with calls := state.calls ++ [.fetched other] }
    have fetched : step state .fetch = some opening := by
      simp only [step, getProvider, Sync.getProvider, cached, Option.isSome_some, if_true, opening]
    have entering : step opening (.enter state.calls.length true) = some (enter state.calls.length other true opening) := by
      simp only [step, opening, List.getElem?_concat_length]
    have calls : (enter state.calls.length other true opening).calls = state.calls ++ [.entered other] := by
      simp [enter, State.became, opening]
    refine ⟨[.fetch, .enter state.calls.length true], enter state.calls.length other true opening, ?_, fun protocol => ?_⟩
    · rw [run_cons, fetched, Option.bind_some, run_cons, entering]
      rfl
    · have both := protocol.single provider other (holders_pos (by rw [calls]; exact List.mem_append_left _ entered))
        (holders_pos (by rw [calls]; exact List.mem_append_right _ (List.mem_singleton.mpr rfl)))
      exact stale (cached.trans (congrArg some both.symm))

/-- A lease on a provider that a thread is about to discard. -/
theorem breaks_of_late (entered : .entered provider ∈ state.calls) (failed : .startFailed provider ∈ state.calls) :
    Breaks state := by
  refine ⟨[], state, rfl, fun protocol => ?_⟩
  obtain ⟨other, found⟩ := List.mem_iff_getElem?.mp failed
  have discarded : step state (.discard other) =
      some ({ state with sync := discardProvider provider state.sync }.became other .ended) := by
    simp only [step, found]
  have kept : (discardProvider provider state.sync).cached = some provider :=
    protocol.discards _ _ discarded provider (holders_pos entered)
  rw [discardProvider, if_pos (protocol.cached provider (holders_pos entered))] at kept
  cases kept

theorem clearEntered_spec (found : state.calls[me]? = some (.foundEntered k)) (inside : state.sync.ports[k]? = some port) :
    ∃ after, step state (.clearEntered me) = some after ∧ after.calls = state.calls.set me (.exiting k) ∧
      after.sync.ports[k]? = some { port with portalEntered := false } := by
  refine ⟨_, by simp only [step, found]; rfl, rfl, ?_⟩
  simp [State.became, State.onPort, inside]

theorem release_spec (found : state.calls[me]? = some (.exiting k)) (inside : state.sync.ports[k]? = some port) :
    ∃ after, step state (.release me) = some after ∧ after.calls = state.calls.set me .ended ∧
      after.sync.ports[k]? = some { port with released := port.released + 1 } := by
  refine ⟨_, by simp only [step, found, inside]; rfl, rfl, ?_⟩
  simp [State.became, State.onPort, exitProvider, inside]

/-- Two calls that both go on to exit the provider of one port. -/
theorem breaks_of_two_closers {other : Nat} (different : other ≠ me) (mine : state.calls[me]? = some (.foundEntered k))
    (theirs : state.calls[other]? = some (.foundEntered k)) (inside : state.sync.ports[k]? = some port) :
    Breaks state := by
  obtain ⟨mineInside, _⟩ := List.getElem?_eq_some_iff.mp mine
  obtain ⟨theirsInside, _⟩ := List.getElem?_eq_some_iff.mp theirs
  obtain ⟨first, cleared, calls, ports⟩ := clearEntered_spec theirs inside
  have mineNext : first.calls[me]? = some (.foundEntered k) := by
    rw [calls, List.getElem?_set_ne different]
    exact mine
  obtain ⟨second, clearedToo, callsNext, portsNext⟩ := clearEntered_spec mineNext ports
  have theirsNext : second.calls[other]? = some (.exiting k) := by
    rw [callsNext, List.getElem?_set_ne different.symm, calls, List.getElem?_set_self theirsInside]
  obtain ⟨third, released, callsLast, portsLast⟩ := release_spec theirsNext portsNext
  have mineLast : third.calls[me]? = some (.exiting k) := by
    rw [callsLast, List.getElem?_set_ne different, callsNext, List.getElem?_set_self (by simpa [calls] using mineInside)]
  obtain ⟨final, releasedToo, _, twice⟩ := release_spec mineLast portsLast
  refine ⟨[.clearEntered other, .clearEntered me, .release other, .release me], final, ?_, fun protocol => ?_⟩
  · rw [run_cons, cleared, Option.bind_some, run_cons, clearedToo, Option.bind_some, run_cons, released, Option.bind_some,
      run_cons, releasedToo]
    rfl
  · have once := (protocol.exits k _ twice).1
    change port.released + 1 + 1 ≤ 1 at once
    omega

/-- A step that is not fine is a defect: from there the threads can go on to break a promise. -/
theorem breaks_of_unfine (coherent : Coherent state) (unfine : ¬StepFine state label)
    (stepped : step state label = some after) : Breaks after := by
  cases label with
  | enter me starts =>
    simp only [StepFine, not_forall] at unfine
    obtain ⟨provider, found, unheld, started, defect⟩ := unfine
    obtain ⟨inside, _⟩ := List.getElem?_eq_some_iff.mp found
    simp only [Portal.step, found, Option.some.injEq] at stepped
    have entering : after.calls = state.calls.set me (.entered provider) ∧ after.sync.cached = state.sync.cached := by
      rw [← stepped, Portal.enter, started, if_neg (by simp)]
      exact ⟨rfl, rfl⟩
    obtain ⟨calls, cached⟩ := entering
    have entered : .entered provider ∈ after.calls := by
      rw [calls]
      exact List.mem_set inside (.entered provider)
    by_cases stale : state.sync.cached = some provider
    · have failed : .startFailed provider ∈ state.calls := by
        by_contra absent
        exact defect ⟨stale, absent⟩
      obtain ⟨other, theirs⟩ := List.mem_iff_getElem?.mp failed
      have different : me ≠ other := by
        rintro rfl
        cases found.symm.trans theirs
      refine breaks_of_late entered (List.mem_iff_getElem?.mpr ⟨other, ?_⟩)
      rw [calls, List.getElem?_set_ne different]
      exact theirs
    · exact breaks_of_stale entered (cached ▸ stale)
  | findEntered me =>
    simp only [StepFine, not_forall, not_not] at unfine
    obtain ⟨k, found, member⟩ := unfine
    obtain ⟨inside, _⟩ := List.getElem?_eq_some_iff.mp found
    obtain ⟨port, present, portCoherent⟩ := coherent.target found rfl
    obtain ⟨other, theirs⟩ := List.mem_iff_getElem?.mp member
    have different : other ≠ me := by
      rintro rfl
      cases found.symm.trans theirs
    have entered : port.portalEntered = true := by
      have some : 0 < state.calls.count (.foundEntered k) := List.count_pos_iff.mpr member
      have finds := portCoherent.found
      split at finds
      · assumption
      · omega
    simp only [Portal.step, found, present, entered, if_true, Option.some.injEq] at stepped
    subst stepped
    refine breaks_of_two_closers different ?_ ?_ present
    · exact List.getElem?_set_self inside
    · exact (List.getElem?_set_ne different.symm).trans theirs
  | _ => exact absurd trivial unfine

end Sharp

/-- In every run whose steps are fine, the protocol keeps its promises. -/
theorem portal_protocol (ran : run step (initial : State ω) labels = some final)
    (fine : ∀ taken label rest state, labels = taken ++ label :: rest → run step initial taken = some state →
      StepFine state label) : Protocol final := by
  have coherent : Coherent final := run_invariant_along Coherent StepFine coherent_initial
    (fun _ _ _ fine coherent stepped => coherent.step fine stepped) ran fine
  exact coherent.protocol

/-- Two threads open ports on the provider that one of them starts, and one port is closed. -/
def sharedPortal : List (Label String) :=
  [.fetch, .fetch, .enter 0 true, .enter 1 false, .asyncOpen 0 (some .posix), .asyncOpen 1 (some .posix), .close 0,
    .markClosed 2, .aclose 2 none 0 none, .findEntered 2, .clearEntered 2, .release 2]

theorem portal_protocol_when_shared :
    ∃ final, run step (initial : State String) sharedPortal = some final ∧ final.sync.cached = some 0 ∧
      holders final 0 = 1 ∧ Protocol final := by
  have fine : Along step StepFine (initial : State String) sharedPortal := by
    refine ⟨trivial, _, rfl, trivial, _, rfl, ?_, _, rfl, ?_, _, rfl, trivial, _, rfl, trivial, _, rfl, trivial, _, rfl, trivial, _, rfl,
      trivial, _, rfl, ?_, _, rfl, trivial, _, rfl, trivial, _, rfl, trivial⟩
    · rintro provider found _ _
      cases found
      decide
    · rintro provider found unheld _
      cases found
      cases unheld
    · rintro port found
      cases found
      decide
  exact ⟨_, rfl, by decide +kernel, by decide +kernel, portal_protocol rfl fine.admits⟩

/-- The start of one thread fails, another thread starts the same provider, and only then
does the first one discard it. -/
def lateDiscard : List (Label String) :=
  [.fetch, .fetch, .enter 0 false, .enter 1 true, .discard 0, .fetch, .enter 2 true]

theorem late_discard_drops_a_leased_provider :
    ¬∀ (labels : List (Label String)) (final : State String), run step initial labels = some final → Protocol final := by
  intro keeps
  obtain ⟨final, ran⟩ : ∃ final, run step initial lateDiscard = some final := ⟨_, rfl⟩
  have held : (run step initial lateDiscard).map (fun final => (holders final 0, holders final 1)) = some (1, 1) := by
    decide +kernel
  rw [ran] at held
  obtain ⟨first, second⟩ := Prod.mk.inj (Option.some.inj held)
  have same : 0 = 1 := (keeps lateDiscard final ran).single 0 1 (by omega) (by omega)
  cases same

end Anyserial.Sync.Portal
