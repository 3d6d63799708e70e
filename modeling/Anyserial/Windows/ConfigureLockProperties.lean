import Anyserial.Kit.Queueing
import Anyserial.Windows.StepProperties

/-! The lock of `configure` on the port over the Windows backend, which serves the calls in the
order in which they were made, as `anyio.Lock` hands it to the first in its queue. -/
set_option autoImplicit false

namespace Anyserial.Windows

open Kit

variable {port : AsyncPort} {state next : AsyncState} {call : Anyserial.Call} {frame : Frame} {me : Nat} {cancelled : Bool}
  {sent : Bytes}

/-- Whether a call is parked at the lock, and whether it took the lock when it asked for it. -/
def Frame.configures : Frame → Option Bool
  | .configuring _ acquired => some acquired
  | _ => none

def AsyncTask.waitsToConfigure (task : AsyncTask) : Option Bool := task.progress.wants Frame.configures

/-- A call other than `configure` is never parked at the lock. -/
theorem waitsToConfigure_of_fits {progress : AsyncProgress} (fits : progress.Fits call sent)
    (other : ∀ config, call ≠ .configure config) : AsyncTask.waitsToConfigure ⟨call, progress⟩ = none := by
  cases progress with
  | parked frame =>
    cases frame with
    | configuring config acquired => exact absurd fits.1 (other config)
    | _ => rfl
  | returned value | raised exc => rfl

theorem other_of_serves (serves : frame.Serves call sent) (aside : frame.configures = none) : ∀ config, call ≠ .configure config := by
  intro config same
  subst same
  cases frame with
  | reading => exact serves.1
  | writing => cases serves.1
  | flushing => simp [Frame.Serves] at serves
  | breaking =>
    obtain ⟨⟨duration, never⟩, _⟩ := serves
    cases never
  | configuring => cases aside

/-- A call that asks for the lock waits for it in the queue, also when the lock was free. -/
theorem settles_acquireConfigure (port : AsyncPort) (me : Nat) (cancelled : Bool) (config : SerialConfig) :
    SettlesAsync (AsyncPort.acquireConfigure me cancelled config) port fun progress after =>
      (progress = .raised (.raised .cancelled) ∧ after = port) ∨
        (progress = .parked (.configuring config (decide (port.configureLock.owner = none))) ∧
          after = { port with configureLock := port.configureLock.join me }) := by
  unfold SettlesAsync
  simp only [AsyncPort.acquireConfigure, ends_bind, ends_get, ends_ite, ends_throw, ends_set, ends_pure]
  exact ⟨fun _ => .inl ⟨trivial, trivial⟩, fun _ => .inr ⟨rfl, trivial⟩⟩

abbrev SameLock : AsyncPort → AsyncPort → Prop := SameView Port.configureLock

theorem sameLock_onWindows {α : Type} (body : Win α) : Keeps SameLock (onWindows body) := by
  intro port
  rw [ends_onWindows]
  exact ends_of_forall (fun _ _ => rfl) fun _ _ => rfl

/-- The body ends the call, and the lock is given back. -/
theorem settles_configure (port : AsyncPort) (me : Nat) (cancelled : Bool) (config : SerialConfig) :
    SettlesAsync (AsyncPort.configure me cancelled config) port fun progress after =>
      (∀ frame, progress ≠ .parked frame) ∧ after.configureLock = port.configureLock.leave me := by
  have arrives : Keeps SameLock (AsyncPort.arrive cancelled) := .ite (fun _ => .throw _) fun _ => .pure ()
  have checks : Keeps SameLock AsyncPort.raiseIfClosed := .bind .get fun _ => .ite (fun _ => .throw _) fun _ => .pure ()
  have kept : Keeps SameLock (do AsyncPort.arrive cancelled; AsyncPort.applyConfig config) :=
    arrives.bind fun _ => checks.bind fun _ => (sameLock_onWindows _).bind fun _ => .modify fun _ => rfl
  have leaves : Ends (AsyncPort.configure me cancelled config) port
      (fun result after => result = .returned .none ∧ after.configureLock = port.configureLock.leave me)
      fun _ after => after.configureLock = port.configureLock.leave me := ends_released (fun _ => rfl) kept _ port
  refine leaves.mono (fun result after ended => ?_) fun _ after left => ⟨by simp, left⟩
  obtain ⟨rfl, left⟩ := ended
  exact ⟨by simp [Outcome.progress], left⟩

section Steps

/-- The calls in the queue of the lock are those that wait to configure, in order. -/
def LockQueued (state : AsyncState) : Prop := Queued AsyncTask.waitsToConfigure state.tasks state.port.configureLock

theorem queued_step {label : AsyncLabel} (queued : LockQueued state) (stepped : Stepped state label next) : LockQueued next := by
  unfold LockQueued
  cases stepped with
  | @call call cancelled refusals progress port settled began =>
    by_cases configures : ∃ config, call = .configure config
    · obtain ⟨config, rfl⟩ := configures
      have acquired := settlesAsync_iff.mp
        (settles_acquireConfigure (facing refusals state.port) state.tasks.length cancelled config)
      change settleAsync (AsyncPort.acquireConfigure state.tasks.length cancelled config (facing refusals state.port)) = _ at settled
      rw [settled] at acquired
      obtain ⟨rfl, rfl⟩ | ⟨rfl, rfl⟩ := acquired
      · exact queued.pass rfl
      · exact queued.ask rfl
    · have other : ∀ config, call ≠ .configure config := fun config same => configures ⟨config, same⟩
      have lock : port.configureLock = state.port.configureLock := began.lock other
      rw [lock]
      exact queued.pass (waitsToConfigure_of_fits began.fits other)
  | @resume label me refusals call frame cancelled taken sent before progress port resumes found serves same refused settled went =>
    have there := tasks_of_frame found
    cases aside : frame.configures with
    | some acquired =>
      cases frame with
      | configuring config acquired =>
        have left := settlesAsync_iff.mp (settles_configure before me cancelled config)
        change settleAsync (AsyncPort.configure me cancelled config before) = _ at settled
        rw [settled, same.lock] at left
        obtain ⟨unparked, lock⟩ := left
        dsimp only
        rw [lock]
        exact queued.leave (List.getElem?_eq_some_iff.mp there).1 (Standing.wants_of_unparked unparked)
      | _ => cases aside
    | none =>
      have inside : frame.direction ≠ none := by
        cases frame with
        | configuring => cases aside
        | _ => exact Option.some_ne_none _
      have lock := (went.lock inside).trans same.lock
      rw [lock]
      exact queued.move there ((waitsToConfigure_of_fits went.fits (other_of_serves serves aside)).trans aside.symm)
  | complete found waited waits same =>
    rw [same.lock]
    have aside : ∀ {frame : Frame}, frame.operating = true → frame.configures = none := by
      intro frame operates
      cases frame with
      | configuring => cases operates
      | _ => rfl
    exact queued.move (tasks_of_frame found) ((aside waits).trans (aside waited).symm)
  | aclose kept closes =>
    rw [kept.lock]
    exact queued
  | line same =>
    rw [same.lock]
    exact queued

theorem queued_of_run {windows : WindowsWorld} {line : Line} {config : SerialConfig} {labels : List AsyncLabel} (fresh : line.Fresh)
    (ran : run asyncStep (.opened windows line config) labels = some state) : IntactState False state ∧ LockQueued state :=
  run_invariant (fun state => IntactState False state ∧ LockQueued state)
    ⟨intact_of_fresh windows config fresh, show LockQueued (.opened windows line config) from Queued.empty⟩
    (fun _ _ _ known stepped =>
      ⟨intact_of_step known.1 stepped, queued_step known.2 (stepped_of_asyncStep known.1 stepped)⟩) ran

/-- A parked call of `configure` goes on with the lock exactly when it owns it. -/
theorem ready_iff_owner (queued : LockQueued state) {config : SerialConfig} {acquired : Bool}
    (found : state.frame me = some (call, .configuring config acquired)) :
    (Frame.configuring config acquired).ready state.port me = true ↔ state.port.configureLock.owner = some me := by
  cases acquired with
  | true => simpa [Frame.ready] using queued.owned me _ (tasks_of_frame found) rfl
  | false => simp [Frame.ready]

/-- The owner of the lock can go on, and has ended then. -/
theorem owner_is_served (intact : IntactState False state) (queued : LockQueued state)
    (owns : state.port.configureLock.owner = some me) :
    ∃ next ended, asyncStep state (.wake me {}) = some next ∧ (IntactState False next ∧ LockQueued next) ∧
      (∀ frame, ended.progress ≠ .parked frame) ∧ next.tasks = state.tasks.set me ended ∧
      next.port.configureLock = state.port.configureLock.leave me := by
  obtain ⟨⟨call, progress⟩, there, waits⟩ := (queued.members me).mp (FairLock.owner_mem owns)
  cases progress with
  | parked frame =>
    cases frame with
    | configuring config acquired =>
      have found := frame_of_tasks there
      have stepped : asyncStep state (.wake me {}) =
          some (state.advance me call (AsyncPort.resume me false (.configuring config acquired)) (facing {} state.port)) :=
        asyncStep_wake_iff.mpr ⟨call, _, found, (ready_iff_owner queued found).mpr owns, rfl⟩
      have settled := settlesAsync_iff.mp (settles_configure (facing {} state.port) me false config)
      have after := queued_step queued (stepped_of_asyncStep intact stepped)
      exact ⟨_, _, stepped, ⟨intact_of_step intact stepped, after⟩, settled.1, rfl, settled.2⟩
    | _ => exact absurd rfl waits
  | returned value | raised exc => exact absurd rfl waits

/-- In every run, a call of `configure` that waits goes on with the lock when all the earlier
ones have ended, and not before. Waking them in turn ends them, and then the call. -/
theorem async_configure_is_fair {windows : WindowsWorld} {line : Line} {opened : SerialConfig} {labels : List AsyncLabel}
    (fresh : line.Fresh) (ran : run asyncStep (.opened windows line opened) labels = some state) {config : SerialConfig}
    {acquired : Bool} (found : state.frame me = some (call, .configuring config acquired)) :
    (∀ refusals, (∃ next, asyncStep state (.wake me refusals) = some next) ↔
      ∀ (other : Nat) task, other < me → state.tasks[other]? = some task → task.waitsToConfigure = none) ∧
    ∃ ahead : List Nat, (∀ other ∈ ahead, other < me) ∧ ∃ final ended,
      run asyncStep state ((ahead ++ [me]).map fun other => .wake other {}) = some final ∧
        final.tasks[me]? = some ended ∧ ∀ frame, ended.progress ≠ .parked frame := by
  obtain ⟨intact, queued⟩ := queued_of_run fresh ran
  have there := tasks_of_frame found
  constructor
  · intro refusals
    rw [← queued.owner_iff_first there (Option.some_ne_none _), ← ready_iff_owner queued found]
    constructor
    · intro goes
      obtain ⟨next, stepped⟩ := goes
      obtain ⟨_, _, same, ready, _⟩ := asyncStep_wake_iff.mp stepped
      cases same.symm.trans found
      exact ready
    · exact fun ready => ⟨_, asyncStep_wake_iff.mpr ⟨call, _, found, ready, rfl⟩⟩
  · exact served_in_turn (fun _ known => known.2) (fun _ _ known owns => owner_is_served known.1 known.2 owns) ⟨intact, queued⟩ there
      (Option.some_ne_none _)

/-- Three calls at once, the second of which gives up: the third one waits for the first. -/
theorem async_configure_is_fair_of_three :
    ∃ state, run asyncStep (.opened openedOnProactor silentLine .defaults)
        [.call (.configure { baudrate := 9600 }) false {}, .call (.configure { baudrate := 19200 }) false {},
          .call (.configure { baudrate := 38400 }) false {}, .cancel 1 0 {}] = some state ∧
      (∀ refusals, (∃ next, asyncStep state (.wake 2 refusals) = some next) ↔
        ∀ (other : Nat) task, other < 2 → state.tasks[other]? = some task → task.waitsToConfigure = none) ∧
      ∃ ahead : List Nat, (∀ other ∈ ahead, other < 2) ∧ ∃ final ended,
        run asyncStep state ((ahead ++ [2]).map fun other => .wake other {}) = some final ∧
          final.tasks[2]? = some ended ∧ ∀ frame, ended.progress ≠ .parked frame := by
  have outcome : (run asyncStep (.opened openedOnProactor silentLine .defaults)
      [.call (.configure { baudrate := 9600 }) false {}, .call (.configure { baudrate := 19200 }) false {},
        .call (.configure { baudrate := 38400 }) false {}, .cancel 1 0 {}]).map (fun state => state.frame 2) =
      some (some (.configure { baudrate := 38400 }, .configuring { baudrate := 38400 } false)) := by decide +kernel
  obtain ⟨state, ran, found⟩ := Option.map_eq_some_iff.mp outcome
  exact ⟨state, ran, async_configure_is_fair ⟨rfl, rfl⟩ ran found⟩

end Steps

end Anyserial.Windows
