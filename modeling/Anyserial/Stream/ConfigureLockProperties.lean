import Anyserial.Kit.Queueing
import Anyserial.Stream.Machine
import Anyserial.Stream.SegmentProperties
import Anyserial.Linux.Lifecycle

/-! The lock of `configure`. Its queue holds the calls that wait to configure the port, in the
order in which they were made, so none of them is overtaken and each of them is served. That a
release hands the lock to the first in the queue is what `anyio.Lock` documents. -/
set_option autoImplicit false

namespace Anyserial

open Kit

variable {σ α : Type} {backend : SyncSerialBackend σ} {loop : EventLoop σ} {port : Port σ} {call : Call} {frame : Frame}
  {me : Nat}

/-- Whether a call is parked at the lock, and whether it took the lock when it asked for it. -/
def Frame.configures : Frame → Option Bool
  | .configuring _ acquired => some acquired
  | _ => none

def Task.waitsToConfigure (task : Task) : Option Bool := task.progress.wants Frame.configures

abbrev SameLock : Port σ → Port σ → Prop := SameView Port.configureLock

section Segments

theorem sameLock_setGuard (port : Port σ) (direction : Direction) (held : Bool) : SameLock port (port.setGuard direction held) := by
  cases direction <;> rfl

theorem sameLock_onBackend (body : Py σ α) : Keeps SameLock (Port.onBackend body) := keeps_onBackend (fun _ _ => rfl) body

theorem callMoves_sameLock : CallMoves backend loop SameLock := callMoves_of_backend fun _ _ => rfl

variable (backend loop) in
/-- No other call touches the lock. -/
theorem sameLock_start (me : Nat) (cancelled : Bool) (other : ∀ config, call ≠ .configure config) :
    Keeps SameLock (Port.start backend loop me cancelled call) :=
  keeps_start_of_other callMoves_sameLock sameLock_setGuard me cancelled other

variable (backend loop) in
theorem sameLock_resume (me : Nat) (wake : Wake) (aside : frame.configures = none) :
    Keeps SameLock (Port.resume backend loop me wake frame) := by
  refine keeps_resume_of_other callMoves_sameLock sameLock_setGuard me wake fun config acquired same => ?_
  rw [same] at aside
  cases aside

/-- A call that asks for the lock waits for it in the queue, also when the lock was free. -/
theorem settles_acquireConfigure (port : Port σ) (me : Nat) (cancelled : Bool) (config : SerialConfig) :
    Settles (Port.acquireConfigure me cancelled config) port fun progress after =>
      (cancelled = true ∧ progress = .raised .cancelled ∧ after = port) ∨
        (progress = .parked (.configuring config (decide (port.configureLock.owner = none))) ∧
          after = { port with configureLock := port.configureLock.join me }) := by
  unfold Settles
  simp only [Port.acquireConfigure, ends_bind, ends_get, ends_ite, ends_throw, ends_set, ends_pure]
  exact ⟨fun cancelled => .inl ⟨cancelled, trivial, trivial⟩, fun _ => .inr ⟨rfl, trivial⟩⟩

variable (backend) in
/-- The body ends the call, and the lock is given back. -/
theorem settles_configure (port : Port σ) (me : Nat) (wake : Wake) (config : SerialConfig) :
    Settles (Port.configure backend me wake config) port fun progress after =>
      (∀ frame, progress ≠ .parked frame) ∧ after.configureLock = port.configureLock.leave me := by
  have kept : Keeps SameLock (do arrive wake; Port.applyConfig backend config) :=
    keeps_arrive.bind fun _ => keeps_raiseIfClosed.bind fun _ => (keeps_ioctl (sameLock_onBackend _)).bind fun _ => .modify fun _ => rfl
  have leaves : Ends (Port.configure backend me wake config) port
      (fun result after => result = .returned .none ∧ after.configureLock = port.configureLock.leave me)
      fun _ after => after.configureLock = port.configureLock.leave me := ends_released (fun _ => rfl) kept _ port
  refine leaves.mono (fun result after ended => ?_) fun _ after left => ⟨by simp, left⟩
  obtain ⟨rfl, left⟩ := ended
  exact ⟨by simp [Outcome.progress], left⟩

end Segments

section Steps

variable {state next : State σ}

/-- The calls in the queue of the lock are those that wait to configure, in order. -/
def LockQueued (state : State σ) : Prop := Queued Task.waitsToConfigure state.tasks state.port.configureLock

theorem configures_of_of (of : frame.Of call) (other : ∀ config, call ≠ .configure config) : frame.configures = none := by
  cases frame with
  | configuring config acquired =>
    cases call with
    | configure config => exact absurd rfl (other config)
    | _ => exact of.elim
  | _ => rfl

/-- A frame that is not at the lock belongs to another call. -/
theorem of_of_configures (aside : frame.configures = none) : ∃ call, frame.Of call ∧ ∀ config, call ≠ .configure config := by
  cases frame with
  | receiving => exact ⟨.receive 1, trivial, by simp⟩
  | receivingInto => exact ⟨.receiveInto (.ofSize 1), trivial, by simp⟩
  | awaitingInput | receivingAvailable => exact ⟨.receiveAvailable none, trivial, by simp⟩
  | sending => exact ⟨.send [], trivial, by simp⟩
  | draining => exact ⟨.drain, trivial, by simp⟩
  | drainingExact => exact ⟨.drainExact, trivial, by simp⟩
  | breaking => exact ⟨.sendBreak (.int 0), trivial, by simp⟩
  | configuring => cases aside

/-- A segment of another call is never parked at the lock. -/
theorem waitsToConfigure_of_parks {body : Py (Port σ) Outcome} {owner : Call} (parks : Parks (Frame.Of owner) body)
    (other : ∀ config, owner ≠ .configure config) (port : Port σ) :
    Task.waitsToConfigure ⟨call, (settle (body port)).1⟩ = none := by
  have parked := settles_iff.mp (parks port)
  cases reached : (settle (body port)).1 with
  | parked frame => exact configures_of_of (parked frame reached) other
  | returned value | raised exc => rfl

variable (backend loop) in
theorem queued_call (queued : LockQueued state) (call : Call) (cancelled : Bool) :
    LockQueued ⟨(settle (Port.start backend loop state.tasks.length cancelled call state.port)).2,
      state.tasks ++ [⟨call, (settle (Port.start backend loop state.tasks.length cancelled call state.port)).1⟩]⟩ := by
  unfold LockQueued
  by_cases configures : ∃ config, call = .configure config
  · obtain ⟨config, rfl⟩ := configures
    have settled := settles_iff.mp (settles_acquireConfigure state.port state.tasks.length cancelled config)
    dsimp only [Port.start]
    obtain ⟨_, progress, after⟩ | ⟨progress, after⟩ := settled
    · rw [progress, after]
      exact queued.pass rfl
    · rw [progress, after]
      exact queued.ask rfl
  · have other : ∀ config, call ≠ .configure config := fun config same => configures ⟨config, same⟩
    have lock : SameLock state.port _ := related_settle (sameLock_start backend loop state.tasks.length cancelled other) state.port
    rw [lock]
    exact queued.pass (waitsToConfigure_of_parks (parks_start backend loop state.tasks.length cancelled call) other state.port)

variable (backend loop) in
theorem queued_wake (queued : LockQueued state) (found : state.tasks[me]? = some ⟨call, .parked frame⟩) (wake : Wake) :
    LockQueued ⟨(settle (Port.resume backend loop me wake frame state.port)).2,
      state.tasks.set me ⟨call, (settle (Port.resume backend loop me wake frame state.port)).1⟩⟩ := by
  unfold LockQueued
  cases aside : frame.configures with
  | some acquired =>
    cases frame with
    | configuring config acquired =>
      have settled := settles_iff.mp (settles_configure backend state.port me wake config)
      obtain ⟨unparked, lock⟩ := settled
      dsimp only [Port.resume]
      rw [lock]
      exact queued.leave (List.getElem?_eq_some_iff.mp found).1 (Standing.wants_of_unparked unparked)
    | _ => cases aside
  | none =>
    obtain ⟨owner, of, other⟩ := of_of_configures aside
    have lock : SameLock state.port _ := related_settle (sameLock_resume backend loop me wake aside) state.port
    rw [lock]
    refine queued.move found ((waitsToConfigure_of_parks (parks_resume backend loop me wake of) other state.port).trans ?_)
    exact aside.symm

theorem sameLock_closeOnce (port : Port σ) : SameLock port (closeOnce backend loop port).2 :=
  related_closeOnce (keeps_closeBackend (fun _ => sameLock_onBackend _) (sameLock_onBackend _) fun _ _ => rfl) port

theorem sameLock_acloseStep {label : AcloseLabel} {after : Port σ} (stepped : acloseStep backend loop port label = some after) :
    SameLock port after := by
  obtain ⟨_, teardown, _, _, rfl⟩ | ⟨_, teardown, _, _, rfl⟩ := acloseStep_cases stepped
  · rfl
  · exact sameLock_closeOnce port

theorem queued_step {label : Label} (queued : LockQueued state) (stepped : step backend loop state label = some next) :
    LockQueued next := by
  obtain ⟨call, cancelled, _, rfl⟩ | ⟨me, wake, call, frame, _, found, _, rfl⟩ | ⟨aclose, port, _, closed, rfl⟩ := step_cases stepped
  · exact queued_call backend loop queued call cancelled
  · exact queued_wake backend loop queued found wake
  · unfold LockQueued
    rw [sameLock_acloseStep closed]
    exact queued

theorem queued_of_run {initial : σ} {config : SerialConfig} {labels : List Label}
    (ran : run (step backend loop) (.opened initial config) labels = some state) : LockQueued state :=
  run_invariant LockQueued (show LockQueued (State.opened initial config) from Queued.empty)
    (fun _ _ _ queued stepped => queued_step queued stepped) ran

/-- A parked call of `configure` goes on with the lock exactly when it owns it. -/
theorem admits_iff_owner (queued : LockQueued state) {config : SerialConfig} {acquired : Bool}
    (found : state.tasks[me]? = some ⟨call, .parked (.configuring config acquired)⟩) :
    (Frame.configuring config acquired).admits state.port me .ready = true ↔ state.port.configureLock.owner = some me := by
  cases acquired with
  | true => simpa [Frame.admits] using queued.owned me _ found rfl
  | false => simp [Frame.admits]

variable (backend loop) in
theorem step_of_admits {wake : Wake} (found : state.tasks[me]? = some ⟨call, .parked frame⟩)
    (admits : frame.admits state.port me wake = true) :
    step backend loop state (.wake me wake) = some ⟨(settle (Port.resume backend loop me wake frame state.port)).2,
      state.tasks.set me ⟨call, (settle (Port.resume backend loop me wake frame state.port)).1⟩⟩ := by
  simp only [step, found, admits, if_true]

variable (backend loop) in
/-- The owner of the lock can go on, and has ended then. -/
theorem owner_is_served (queued : LockQueued state) (owns : state.port.configureLock.owner = some me) :
    ∃ next ended, step backend loop state (.wake me .ready) = some next ∧ LockQueued next ∧
      (∀ frame, ended.progress ≠ .parked frame) ∧ next.tasks = state.tasks.set me ended ∧
      next.port.configureLock = state.port.configureLock.leave me := by
  obtain ⟨⟨call, progress⟩, found, waits⟩ := (queued.members me).mp (FairLock.owner_mem owns)
  cases progress with
  | parked frame =>
    cases frame with
    | configuring config acquired =>
      have stepped := step_of_admits backend loop found ((admits_iff_owner queued found).mpr owns)
      have settled := settles_iff.mp (settles_configure backend state.port me .ready config)
      exact ⟨_, _, stepped, queued_step queued stepped, settled.1, rfl, settled.2⟩
    | _ => exact absurd rfl waits
  | returned value | raised exc => exact absurd rfl waits

/-- In every run, a call of `configure` that waits goes on with the lock when all the earlier
ones have ended, and not before. Waking them in turn ends them, and then the call. -/
theorem configure_is_fair {initial : σ} {opened : SerialConfig} {labels : List Label}
    (ran : run (step backend loop) (.opened initial opened) labels = some state) {config : SerialConfig} {acquired : Bool}
    (found : state.tasks[me]? = some ⟨call, .parked (.configuring config acquired)⟩) :
    ((∃ next, step backend loop state (.wake me .ready) = some next) ↔
      ∀ (other : Nat) task, other < me → state.tasks[other]? = some task → task.waitsToConfigure = none) ∧
    ∃ ahead : List Nat, (∀ other ∈ ahead, other < me) ∧ ∃ final ended,
      run (step backend loop) state ((ahead ++ [me]).map fun other => .wake other .ready) = some final ∧
        final.tasks[me]? = some ended ∧ ∀ frame, ended.progress ≠ .parked frame := by
  have queued := queued_of_run ran
  constructor
  · rw [← queued.owner_iff_first found (Option.some_ne_none _), ← admits_iff_owner queued found]
    constructor
    · intro goes
      obtain ⟨next, stepped⟩ := goes
      obtain ⟨_, _, label, _⟩ | ⟨_, _, _, _, label, there, admits, _⟩ | ⟨_, _, label, _⟩ := step_cases stepped
      · cases label
      · cases label
        cases there.symm.trans found
        exact admits
      · cases label
    · exact fun admits => ⟨_, step_of_admits backend loop found admits⟩
  · exact served_in_turn (fun _ queued => queued) (fun state me queued owns => owner_is_served backend loop queued owns) queued found
      (Option.some_ne_none _)

/-- Two calls at once: the second one waits for the first. -/
theorem configure_is_fair_of_two :
    ∃ state, run (step Linux.linuxBackend quietLoop) (.opened Linux.polledTerminal {})
        [.call (.configure { baudrate := 9600 }) false, .call (.configure { baudrate := 19200 }) false] = some state ∧
      ((∃ next, step Linux.linuxBackend quietLoop state (.wake 1 .ready) = some next) ↔
        ∀ (other : Nat) task, other < 1 → state.tasks[other]? = some task → task.waitsToConfigure = none) ∧
      ∃ ahead : List Nat, (∀ other ∈ ahead, other < 1) ∧ ∃ final ended,
        run (step Linux.linuxBackend quietLoop) state ((ahead ++ [1]).map fun other => .wake other .ready) = some final ∧
          final.tasks[1]? = some ended ∧ ∀ frame, ended.progress ≠ .parked frame := by
  have outcome : (run (step Linux.linuxBackend quietLoop) (.opened Linux.polledTerminal {})
      [.call (.configure { baudrate := 9600 }) false, .call (.configure { baudrate := 19200 }) false]).map State.tasks =
        some [⟨.configure { baudrate := 9600 }, .parked (.configuring { baudrate := 9600 } true)⟩,
          ⟨.configure { baudrate := 19200 }, .parked (.configuring { baudrate := 19200 } false)⟩] := by decide +kernel
  obtain ⟨state, ran, tasks⟩ := Option.map_eq_some_iff.mp outcome
  have second : state.tasks[1]? = some ⟨.configure { baudrate := 19200 }, .parked (.configuring { baudrate := 19200 } false)⟩ := by
    rw [tasks]
    rfl
  exact ⟨state, ran, configure_is_fair ran second⟩

end Steps

end Anyserial
