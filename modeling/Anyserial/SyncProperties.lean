import Anyserial.Sync
import Anyserial.Stream.TeardownProperties

/-! The lease count of every provider, and what a `close()` under a deadline
leaves behind, over all runs of opens and closes. -/
set_option autoImplicit false

namespace Anyserial.Sync

open Kit

variable {state after final : State} {labels taken : List Label} {label : Label} {provider other me : Nat}
  {port : SerialPort} {variant : Teardown.Variant} {attempt : Attempt}

/-- The cached provider was built, and so was the provider of every port. -/
structure ProvidersBuilt (state : State) : Prop where
  cached : ∀ provider, state.cached = some provider → provider < state.leases.length
  ports : ∀ port ∈ state.ports, port.provider < state.leases.length

theorem getProvider_spec (built : ProvidersBuilt state) :
    (getProvider state).2.ports = state.ports ∧ (∀ other, lease (getProvider state).2 other = lease state other) ∧
      (getProvider state).1 < (getProvider state).2.leases.length ∧ ProvidersBuilt (getProvider state).2 := by
  cases found : state.cached with
  | some provider =>
    simp only [getProvider, found]
    exact ⟨trivial, fun _ => trivial, built.cached provider found, built⟩
  | none =>
    simp only [getProvider, found]
    refine ⟨trivial, fun other => ?_, by simp, ?_, ?_⟩
    · rcases Nat.lt_trichotomy other state.leases.length with earlier | last | later
      · simp only [lease, List.getElem?_append_left earlier]
      · subst last
        simp [lease]
      · have old : state.leases[other]? = none := List.getElem?_eq_none (Nat.le_of_lt later)
        have new : (state.leases ++ [0])[other]? = none := List.getElem?_eq_none (by simp; omega)
        simp only [lease, old, new]
    · rintro provider same
      cases same
      simp
    · intro port member
      simpa using Nat.lt_succ_of_lt (built.ports port member)

theorem lease_enterProvider (known : provider < state.leases.length) :
    lease (enterProvider provider state) other = lease state other + if other = provider then 1 else 0 := by
  by_cases same : other = provider
  · subst same
    simp [lease, enterProvider, List.getElem?_eq_getElem known]
  · simp [lease, enterProvider, same, Ne.symm same]

theorem lease_exitProvider (provider other : Nat) (state : State) :
    lease (exitProvider provider state) other = lease state other - if other = provider then 1 else 0 := by
  by_cases same : other = provider
  · subst same
    cases found : state.leases[other]? with
    | none => simp [lease, exitProvider, found]
    | some count => simp [lease, exitProvider, found]
  · simp [lease, exitProvider, same, Ne.symm same]

theorem ProvidersBuilt.enterProvider (built : ProvidersBuilt state) : ProvidersBuilt (enterProvider provider state) :=
  ⟨by simpa [Sync.enterProvider] using built.cached, by simpa [Sync.enterProvider] using built.ports⟩

theorem ProvidersBuilt.exitProvider (built : ProvidersBuilt state) : ProvidersBuilt (exitProvider provider state) :=
  ⟨by simpa [Sync.exitProvider] using built.cached, by simpa [Sync.exitProvider] using built.ports⟩

theorem ProvidersBuilt.discardProvider (built : ProvidersBuilt state) :
    ProvidersBuilt (discardProvider provider state) := by
  unfold Sync.discardProvider
  split
  · exact ⟨nofun, built.ports⟩
  · exact built

/-- An attempt to open a port keeps the ports there are and adds the new one when
it succeeds; the leases grow by one exactly then, on the provider of the new port. -/
theorem openPort_spec (variant : Teardown.Variant) (attempt : Attempt) (built : ProvidersBuilt state) :
    ProvidersBuilt (openPort variant attempt state) ∧
      (((openPort variant attempt state).ports = state.ports ∧
          ∀ other, lease (openPort variant attempt state) other = lease state other) ∨
        ∃ provider, (openPort variant attempt state).ports = state.ports ++ [SerialPort.new variant provider] ∧
          ∀ other, lease (openPort variant attempt state) other =
            lease state other + if other = provider then 1 else 0) := by
  obtain ⟨ports, leases, known, built'⟩ := getProvider_spec built
  cases attempt with
  | rejected => exact ⟨built, .inl ⟨rfl, fun _ => rfl⟩⟩
  | enterFailed =>
    refine ⟨built'.discardProvider, .inl ⟨?_, fun other => ?_⟩⟩
    · simp only [openPort, discardProvider]
      split <;> exact ports
    · rw [← leases other]
      simp only [openPort, discardProvider]
      split <;> rfl
  | openFailed =>
    refine ⟨built'.enterProvider.exitProvider, .inl ⟨ports, fun other => ?_⟩⟩
    simp only [openPort, lease_exitProvider, lease_enterProvider known, leases, Nat.add_sub_cancel]
  | opened =>
    refine ⟨⟨built'.enterProvider.cached, ?_⟩, .inr ⟨(getProvider state).1, ?_, fun other => ?_⟩⟩
    · intro port member
      rcases List.mem_append.mp member with earlier | new
      · exact built'.enterProvider.ports port earlier
      · rw [List.mem_singleton.mp new]
        exact Nat.lt_of_lt_of_eq known (List.length_modify ..).symm
    · simp only [openPort, enterProvider, ports]
    · exact (lease_enterProvider known).trans (by rw [leases])

/-- A `close()` that finds its port open closes it and gives its lease back. -/
theorem close_spec {timeout : Option ExtendedRational} {elapsed : ℚ} {result : Option PyExc}
    (closed : close me timeout elapsed result state = some after) :
    ∃ port, state.ports[me]? = some port ∧
      ((port.closed = true ∧ after = state) ∨
        (port.closed = false ∧ after = releasePortal me
          { port with closed := true, asyncPort := runAclose port.variant port.asyncPort (expired timeout elapsed) result }
          state)) := by
  unfold close at closed
  cases found : state.ports[me]? with
  | none => simp [found] at closed
  | some port =>
    refine ⟨port, rfl, ?_⟩
    cases already : port.closed with
    | true => exact .inl ⟨rfl, by simpa [found, already] using closed.symm⟩
    | false => exact .inr ⟨rfl, by simpa [found, already] using closed.symm⟩

/-- What is known of a port whose first `close()` was or was not seen yet. -/
def Recorded (port : SerialPort) : Option Bool → Prop
  | none => port.closed = false ∧ port.portalEntered = true ∧ port.released = 0 ∧ port.asyncPort = Teardown.opened
  | some late => port.closed = true ∧ port.released = 1 ∧ port.asyncPort.closed = !late ∧
      port.asyncPort.backendCloses = if late then 0 else 1

structure Balanced (taken : List Label) (state : State) : Prop where
  built : ProvidersBuilt state
  leases : ∀ provider, lease state provider = openPorts state provider
  recorded : ∀ me port, state.ports[me]? = some port → Recorded port (firstClose taken me)
  unopened : ∀ me, state.ports.length ≤ me → firstClose taken me = none

end Anyserial.Sync
