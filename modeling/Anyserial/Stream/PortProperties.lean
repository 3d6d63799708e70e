import Anyserial.Stream.Machine

/-! How the pieces of the port's coroutines end, and what a coroutine keeps when each
call it makes keeps it. -/
set_option autoImplicit false

namespace Anyserial

open Kit

variable {σ α : Type} {port : Port σ}

namespace Port

section Rules

variable {backend : SyncSerialBackend σ} {loop : EventLoop σ} {raised : PyExc → Port σ → Prop}

theorem ends_onBackend {body : Py σ α} {returned : α → Port σ → Prop} :
    Ends (onBackend body) port returned raised ↔
      Ends body port.backend (fun value t => returned value { port with backend := t })
        (fun exc t => raised exc { port with backend := t }) := by
  cases ran : body port.backend with
  | ok value t => simp only [Ends, onBackend, ran]
  | error exc t => simp only [Ends, onBackend, ran]

theorem ends_arrive {wake : Wake} {returned : Unit → Port σ → Prop} :
    Ends (arrive wake) port returned raised ↔
      (wake = .ready → returned () port) ∧ (wake = .closing → raised .closedResourceError port) ∧
        (wake = .cancelled → raised .cancelled port) := by
  cases wake with
  | ready => simp [arrive]
  | closing => simp [arrive]
  | cancelled => simp [arrive]

theorem ends_raiseIfClosed {returned : Unit → Port σ → Prop} :
    Ends (raiseIfClosed backend) port returned raised ↔
      (port.closed = true → raised (closedError (backend.path port.backend)) port) ∧
        (port.closed = false → returned () port) := by
  simp only [raiseIfClosed, ends_bind, ends_get, ends_ite, ends_throw, ends_pure, Bool.not_eq_true]

theorem ends_bytearray {size : Int} {returned : Unit → Port σ → Prop} :
    Ends (bytearray loop size) port returned raised ↔
      (2 ^ 63 ≤ size → raised .overflowError port) ∧ (¬2 ^ 63 ≤ size →
        (loop.allocates port.backend size = true → returned () port) ∧
          (loop.allocates port.backend size = false → raised .memoryError port)) := by
  simp only [bytearray, ends_bind, ends_get, ends_ite, ends_throw, ends_pure, Bool.not_eq_true]

theorem ends_beginSleep {duration : Number} {returned : Unit → Port σ → Prop} :
    Ends (beginSleep loop duration) port returned raised ↔
      (loop.sleeps port.backend duration = true → returned () port) ∧
        (loop.sleeps port.backend duration = false → raised .overflowError port) := by
  simp only [beginSleep, ends_bind, ends_get, ends_ite, ends_throw, ends_pure, Bool.not_eq_true]

theorem ends_raiseTranslated {context : Context} {exc : PyExc} {returned : α → Port σ → Prop} :
    Ends (raiseTranslated backend context exc) port returned raised ↔
      raised (errnoToException exc context (backend.path port.backend)) port := by
  simp only [raiseTranslated, ends_bind, ends_get, ends_throw]

theorem ends_ioctl {body : Py σ α} {returned : α → Port σ → Prop} :
    Ends (ioctl backend body) port returned raised ↔
      Ends body port.backend (fun value t => returned value { port with backend := t }) fun exc t =>
        (exc.isOSError = true → raised (errnoToException exc .ioctl (backend.path t)) { port with backend := t }) ∧
          (exc.isOSError = false → raised exc { port with backend := t }) := by
  simp only [ioctl, ends_exceptOSError, ends_onBackend, ends_raiseTranslated]

theorem ends_transfer {body : Py σ α} {returned : Option α → Port σ → Prop} :
    Ends (transfer backend body) port returned raised ↔
      Ends body port.backend (fun value t => returned (some value) { port with backend := t }) fun exc t =>
        (exc.isRetry = true → returned none { port with backend := t }) ∧
          (exc.isRetry = false →
            (exc.isOSError = true → raised (errnoToException exc .io (backend.path t)) { port with backend := t }) ∧
              (exc.isOSError = false → raised exc { port with backend := t })) := by
  simp only [transfer, ends_tryCatch, ends_map, ends_onBackend, ends_ite, ends_pure, ends_raiseTranslated, ends_throw,
    Bool.not_eq_true]

theorem ends_enterGuard {direction : Direction} {returned : Unit → Port σ → Prop} :
    Ends (enterGuard direction) port returned raised ↔
      (port.guarded direction = true → raised (.busyResourceError direction.action) port) ∧
        (port.guarded direction = false → returned () (port.setGuard direction true)) := by
  simp only [enterGuard, ends_bind, ends_get, ends_ite, ends_throw, ends_set, Bool.not_eq_true]

end Rules

end Port

/-- What a segment makes of its call. -/
def Outcome.progress : Outcome → Progress
  | .suspended frame => .parked frame
  | .returned value => .returned value

/-- However the segment ends, the progress of its call and the port it leaves are good. -/
def Settles (body : Py (Port σ) Outcome) (port : Port σ) (good : Progress → Port σ → Prop) : Prop :=
  Ends body port (fun outcome after => good outcome.progress after) (fun exc after => good (.raised exc) after)

theorem settles_iff {body : Py (Port σ) Outcome} {good : Progress → Port σ → Prop} :
    Settles body port good ↔ good (settle (body port)).1 (settle (body port)).2 := by
  unfold Settles Ends
  cases ran : body port with
  | ok outcome after =>
    cases outcome with
    | suspended frame => exact Iff.rfl
    | returned value => exact Iff.rfl
  | error exc after => exact Iff.rfl

/-- What a segment keeps, it keeps however it ends. -/
theorem related_settle {related : Port σ → Port σ → Prop} {body : Py (Port σ) Outcome} (kept : Keeps related body)
    (port : Port σ) : related port (settle (body port)).2 := by
  have settles : Settles body port fun _ after => related port after := kept port
  exact settles_iff.mp settles

theorem Settles.mono {body : Py (Port σ) Outcome} {good better : Progress → Port σ → Prop}
    (settles : Settles body port good) (implies : ∀ progress after, good progress after → better progress after) :
    Settles body port better :=
  Ends.mono settles (fun outcome after => implies outcome.progress after) (fun exc after => implies (.raised exc) after)

/-- A call that is parked keeps its guard, and one that has ended gives it back. -/
theorem settles_inGuard {direction : Direction} {body : Py (Port σ) Outcome} {good : Progress → Port σ → Prop} :
    Settles (Port.inGuard direction body) port good ↔
      Settles body port fun progress after =>
        match progress with
        | .parked frame => good (.parked frame) after
        | ended => good ended (after.setGuard direction false) := by
  unfold Settles
  simp only [Port.inGuard, ends_bind, ends_tryCatch, Port.exitGuard, ends_modify, ends_throw]
  unfold Ends
  cases ran : body port with
  | ok outcome after =>
    cases outcome with
    | suspended frame => exact Iff.rfl
    | returned value => exact Iff.rfl
  | error exc after => exact Iff.rfl

section Steps

variable {backend : SyncSerialBackend σ} {loop : EventLoop σ} {state after : State σ} {label : Label} {moved : Port σ}

/-- Everything one step can do. -/
theorem step_cases (stepped : step backend loop state label = some after) :
    (∃ call cancelled, label = .call call cancelled ∧
      let settled := settle (Port.start backend loop state.tasks.length cancelled call state.port)
      after = ⟨settled.2, state.tasks ++ [⟨call, settled.1⟩]⟩) ∨
    (∃ me wake call frame, label = .wake me wake ∧ state.tasks[me]? = some ⟨call, .parked frame⟩ ∧
      frame.admits state.port me wake = true ∧
      let settled := settle (Port.resume backend loop me wake frame state.port)
      after = ⟨settled.2, state.tasks.set me ⟨call, settled.1⟩⟩) ∨
    (∃ acloseLabel port, label = .aclose acloseLabel ∧ acloseStep backend loop state.port acloseLabel = some port ∧
      after = { state with port := port }) := by
  cases label with
  | call call cancelled => exact .inl ⟨call, cancelled, rfl, (Option.some.inj stepped).symm⟩
  | wake me wake =>
    refine .inr (.inl ?_)
    simp only [step] at stepped
    split at stepped
    · rename_i call frame found
      split at stepped
      · exact ⟨me, wake, call, frame, rfl, found, ‹_›, (Option.some.inj stepped).symm⟩
      · cases stepped
    · cases stepped
  | aclose label =>
    obtain ⟨port, closed, same⟩ := Option.map_eq_some_iff.mp stepped
    exact .inr (.inr ⟨label, port, rfl, closed, same.symm⟩)

/-- A call that resumes runs the backend's close, unless the port is closed already. -/
theorem acloseStep_resume {port : Port σ} {me : Nat} (stepped : acloseStep backend loop port (.resume me) = some moved) :
    ∃ teardown, Teardown.step .posix port.teardown (.resume me (closeOnce backend loop port).1) = some teardown ∧
      moved = { (closeOnce backend loop port).2 with teardown := teardown } := by
  simp only [acloseStep, Option.bind_eq_bind, Option.pure_def] at stepped
  obtain ⟨teardown, taken, same⟩ := Option.bind_eq_some_iff.mp stepped
  exact ⟨teardown, taken, (Option.some.inj same).symm⟩

/-- Everything one step of an `aclose()` can do: a step of the teardown protocol, which
touches the backend when a call resumes. -/
theorem acloseStep_cases {port : Port σ} {acloseLabel : AcloseLabel}
    (stepped : acloseStep backend loop port acloseLabel = some moved) :
    (∃ label teardown, (∀ me close, label ≠ .resume me close) ∧
      Teardown.step .posix port.teardown label = some teardown ∧ moved = { port with teardown := teardown }) ∨
    (∃ me teardown, acloseLabel = .resume me ∧
      Teardown.step .posix port.teardown (.resume me (closeOnce backend loop port).1) = some teardown ∧
      moved = { (closeOnce backend loop port).2 with teardown := teardown }) := by
  cases acloseLabel with
  | call cancelled =>
    simp only [acloseStep, Option.bind_eq_bind, Option.pure_def] at stepped
    obtain ⟨teardown, taken, same⟩ := Option.bind_eq_some_iff.mp stepped
    exact .inl ⟨.call cancelled, teardown, nofun, taken, (Option.some.inj same).symm⟩
  | resume me =>
    obtain ⟨teardown, taken, same⟩ := acloseStep_resume stepped
    exact .inr ⟨me, teardown, rfl, taken, same⟩
  | cancel me =>
    simp only [acloseStep, Option.bind_eq_bind, Option.pure_def] at stepped
    obtain ⟨teardown, taken, same⟩ := Option.bind_eq_some_iff.mp stepped
    exact .inl ⟨.cancel me, teardown, nofun, taken, (Option.some.inj same).symm⟩

/-- What the body of `aclose()` comes to on an open port: a run of the close, however it ends. -/
theorem closeOnce_of_open {port : Port σ} (isOpen : port.closed = false) :
    (closeOnce backend loop port).2 = finalState (Port.closeBackend backend loop) port := by
  simp only [closeOnce, isOpen, Bool.false_eq_true, if_false, finalState]
  cases Port.closeBackend backend loop port with
  | ok value after => rfl
  | error exc after => rfl

theorem closeOnce_of_closed {port : Port σ} (isClosed : port.closed = true) :
    closeOnce backend loop port = (none, port) := by
  simp only [closeOnce, isClosed, if_true]

end Steps

theorem settles_withGuard {direction : Direction} {body : Py (Port σ) Outcome} {good : Progress → Port σ → Prop} :
    Settles (Port.withGuard direction body) port good ↔
      (port.guarded direction = true → good (.raised (.busyResourceError direction.action)) port) ∧
        (port.guarded direction = false →
          Settles (Port.inGuard direction body) (port.setGuard direction true) good) := by
  unfold Settles
  rw [Port.withGuard, ends_bind, Port.ends_enterGuard]

end Anyserial
