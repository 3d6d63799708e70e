import Anyserial.Linux.BackendProperties
import Anyserial.Stream.ConfigureLockProperties
import Anyserial.Stream.WaitProperties

/-! After the backend was closed nothing touches the descriptor any more. Every
operation that checks the port after each await is covered; the exact drain and the
break are the two that do not. -/
set_option autoImplicit false

namespace Anyserial

open Kit

/-- The operations that check the port after each of their awaits. -/
def Call.Covered : Call → Prop
  | .sendEof | .drainExact | .sendBreak _ => False
  | _ => True

def Label.Covered : Label → Prop
  | .call operation _ => operation.Covered
  | .wake _ _ | .aclose _ => True

def Call.Valid : Call → Prop
  | .receive maxBytes => 0 < maxBytes
  | .receiveInto buffer => ∃ length, buffer.len = some length ∧ 0 < length
  | _ => True

/-- The errors that a parked operation may end with once the port is closed. -/
def EndedByClose (progress : Progress) : Prop :=
  progress = .raised .closedResourceError ∨ progress = .raised .cancelled ∨
    ∃ path, progress = .raised (closedError path)

section Segments

variable {σ : Type} {backend : SyncSerialBackend σ} {loop : EventLoop σ} {port : Port σ}

/-- What becomes of a call that is made on a closed port. -/
def Rejected (port : Port σ) (call : Call) (cancelled : Bool) (progress : Progress) : Prop :=
  (∃ path, progress = .raised (closedError path)) ∨
    (∃ direction, call.direction = some direction ∧ port.guarded direction = true ∧
      progress = .raised (.busyResourceError direction.action)) ∨
    ∃ config, call = .configure config ∧
      ((cancelled = true ∧ progress = .raised .cancelled) ∨ ∃ acquired, progress = .parked (.configuring config acquired))

/-- A call with an argument that is out of range is refused for that alone. -/
def RejectedOrInvalid (port : Port σ) (call : Call) (cancelled : Bool) (progress : Progress) : Prop :=
  Rejected port call cancelled progress ∨
    (¬call.Valid ∧ (progress = .raised .typeError ∨ ∃ message, progress = .raised (.valueError message)))

/-- The segment leaves the backend and the state of the port alone. -/
def Untouched (before after : Port σ) : Prop := after.backend = before.backend ∧ after.teardown = before.teardown

theorem untouched_setGuard (port : Port σ) (direction : Direction) (held : Bool) :
    Untouched port (port.setGuard direction held) := by
  cases direction <;> exact ⟨rfl, rfl⟩

theorem setGuard_closed (port : Port σ) (direction : Direction) (held : Bool) :
    (port.setGuard direction held).closed = port.closed := by
  cases direction <;> rfl

theorem settles_withGuard_of_closed (isClosed : port.closed = true) {direction : Direction}
    {rest : Py (Port σ) Outcome} {good : Progress → Port σ → Prop}
    (busy : port.guarded direction = true → good (.raised (.busyResourceError direction.action)) port)
    (refused : ∀ path after, Untouched port after → good (.raised (closedError path)) after) :
    Settles (Port.withGuard direction (do Port.raiseIfClosed backend; rest)) port good := by
  rw [settles_withGuard]
  refine ⟨busy, fun _ => ?_⟩
  rw [settles_inGuard]
  unfold Settles
  rw [ends_bind, Port.ends_raiseIfClosed, setGuard_closed]
  refine ⟨fun _ => refused _ _ ?_, fun isOpen => by simp [isClosed] at isOpen⟩
  cases direction <;> exact ⟨rfl, rfl⟩

theorem settles_inGuard_of_closed (isClosed : port.closed = true) {direction : Direction} {wake : Wake}
    {rest : Py (Port σ) Outcome} :
    Settles (Port.inGuard direction (do arrive wake; Port.raiseIfClosed backend; rest)) port
      (fun progress after => Untouched port after ∧ EndedByClose progress) := by
  rw [settles_inGuard]
  unfold Settles
  simp only [ends_bind, Port.ends_arrive, Port.ends_raiseIfClosed, isClosed]
  refine ⟨fun _ => ⟨fun _ => ?_, by simp⟩, fun _ => ?_, fun _ => ?_⟩
  · exact ⟨untouched_setGuard _ _ _, .inr (.inr ⟨_, rfl⟩)⟩
  · exact ⟨untouched_setGuard _ _ _, .inl rfl⟩
  · exact ⟨untouched_setGuard _ _ _, .inr (.inl rfl)⟩

variable (backend loop) in
theorem start_of_closed (isClosed : port.closed = true) (me : Nat) (cancelled : Bool) {call : Call}
    (covered : call.Covered) :
    Settles (Port.start backend loop me cancelled call) port fun progress after =>
      Untouched port after ∧ RejectedOrInvalid port call cancelled progress := by
  have guarded : ∀ {direction} {rest : Py (Port σ) Outcome}, call.direction = some direction →
      Settles (Port.withGuard direction (do Port.raiseIfClosed backend; rest)) port fun progress after =>
        Untouched port after ∧ RejectedOrInvalid port call cancelled progress := by
    intro direction rest behind
    refine settles_withGuard_of_closed isClosed (fun held => ⟨⟨rfl, rfl⟩, .inl ?_⟩) fun path after same => ?_
    · exact .inr (.inl ⟨direction, behind, held, rfl⟩)
    · exact ⟨same, .inl (.inl ⟨path, rfl⟩)⟩
  have checked : ∀ {rest : Py (Port σ) Outcome}, Settles (do Port.raiseIfClosed backend; rest) port
      fun progress after => Untouched port after ∧ RejectedOrInvalid port call cancelled progress := by
    intro rest
    unfold Settles
    rw [ends_bind, Port.ends_raiseIfClosed]
    exact ⟨fun _ => ⟨⟨rfl, rfl⟩, .inl (.inl ⟨_, rfl⟩)⟩, fun isOpen => by simp [isClosed] at isOpen⟩
  cases call with
  | receive maxBytes =>
    unfold Port.start Port.receive
    dsimp only
    split
    · rename_i invalid
      exact ⟨⟨rfl, rfl⟩, .inr ⟨Int.not_lt.mpr invalid, .inr ⟨_, rfl⟩⟩⟩
    · exact guarded rfl
  | receiveInto buffer =>
    unfold Port.start Port.receiveInto
    dsimp only
    split
    · rename_i unsized
      exact ⟨⟨rfl, rfl⟩, .inr ⟨by simp [Call.Valid, unsized], .inl rfl⟩⟩
    split
    · rename_i empty
      exact ⟨⟨rfl, rfl⟩, .inr ⟨by simp [Call.Valid, empty], .inr ⟨_, rfl⟩⟩⟩
    · exact guarded rfl
  | receiveAvailable limit => exact guarded rfl
  | send data =>
    unfold Port.start Port.send
    dsimp only
    split
    · exact checked
    · exact guarded rfl
  | drain => exact guarded rfl
  | configure config =>
    unfold Port.start Port.acquireConfigure Settles
    simp only [ends_bind, ends_get, ends_ite, ends_throw, ends_set, ends_pure]
    refine ⟨fun noticed => ⟨⟨rfl, rfl⟩, .inl ?_⟩, fun _ => ⟨⟨rfl, rfl⟩, .inl ?_⟩⟩
    · exact .inr (.inr ⟨config, rfl, .inl ⟨noticed, rfl⟩⟩)
    · exact .inr (.inr ⟨config, rfl, .inr ⟨_, rfl⟩⟩)
  | sendEof | drainExact | sendBreak duration => exact covered.elim
  | resetInputBuffer | resetOutputBuffer | modemLines | setControlLines rts dtr | inputWaiting | outputWaiting =>
    exact checked

variable (backend loop) in
theorem resume_of_closed (isClosed : port.closed = true) (me : Nat) (wake : Wake) {call : Call} {frame : Frame}
    (covered : call.Covered) (of : frame.Of call) :
    Settles (Port.resume backend loop me wake frame) port fun progress after =>
      Untouched port after ∧ EndedByClose progress := by
  cases frame with
  | receiving size fd | receivingInto buffer fd | awaitingInput limit fd | receivingAvailable size fd
  | sending data offset fd | draining => exact settles_inGuard_of_closed isClosed
  | drainingExact | breaking =>
    cases call <;> first | exact of.elim | exact covered.elim
  | configuring config acquired =>
    unfold Port.resume Port.configure Settles
    simp only [Port.applyConfig, Port.releaseConfigure, ends_bind, ends_tryCatch, Port.ends_arrive,
      Port.ends_raiseIfClosed, isClosed, ends_modify, ends_throw]
    refine ⟨fun _ => ⟨fun _ => ?_, by simp⟩, fun _ => ?_, fun _ => ?_⟩
    · exact ⟨⟨rfl, rfl⟩, .inr (.inr ⟨_, rfl⟩)⟩
    · exact ⟨⟨rfl, rfl⟩, .inl rfl⟩
    · exact ⟨⟨rfl, rfl⟩, .inr (.inl rfl)⟩

end Segments

section Runs

variable {σ α : Type} {backend : SyncSerialBackend σ} {loop : EventLoop σ} {port moved : Port (Recorded σ)}
  {state after opened closed current : State (Recorded σ)} {label : Label}

/-- A segment that does not close the port. -/
structure NeverCloses (before after : Port (Recorded σ)) : Prop where
  teardown : after.teardown = before.teardown
  calls : .close ∉ before.backend.calls → .close ∉ after.backend.calls

instance : Std.Refl (@NeverCloses σ) := ⟨fun _ => ⟨rfl, id⟩⟩

instance : IsTrans (Port (Recorded σ)) NeverCloses :=
  ⟨fun _ _ _ first second => ⟨second.teardown.trans first.teardown, fun absent => second.calls (first.calls absent)⟩⟩

theorem neverCloses_recorded {recorded : Recorded σ} {method : Method} (other : method ≠ .close)
    (logged : recorded.calls = port.backend.calls ++ [method]) : NeverCloses port { port with backend := recorded } := by
  refine ⟨rfl, fun absent member => ?_⟩
  rw [logged, List.mem_append, List.mem_singleton] at member
  rcases member with earlier | same
  · exact absent earlier
  · exact other same.symm

theorem keeps_neverCloses {method : Method} (other : method ≠ .close) (body : Py σ α) :
    Keeps NeverCloses (Port.onBackend (recordCall method body)) := by
  intro port
  rw [Port.ends_onBackend, ends_recordCall]
  exact ends_iff.mpr ⟨fun _ _ _ => neverCloses_recorded other rfl, fun _ _ _ => neverCloses_recorded other rfl⟩

theorem segmentMoves_neverCloses : SegmentMoves (recording backend) (recordingLoop loop) NeverCloses where
  readNonblocking size port := by
    simp only [Port.ends_onBackend, recording, ends_bind, ends_recordCall, ends_modify, ends_pure]
    exact ends_iff.mpr ⟨fun _ _ _ => neverCloses_recorded (by simp) rfl, fun _ _ _ => neverCloses_recorded (by simp) rfl⟩
  writeNonblocking data port := by
    simp only [Port.ends_onBackend, recording, ends_bind, ends_recordCall, ends_modify, ends_pure]
    exact ends_iff.mpr ⟨fun _ _ _ => neverCloses_recorded (by simp) rfl, fun _ _ _ => neverCloses_recorded (by simp) rfl⟩
  applied _ := keeps_neverCloses (by simp) _
  resetInputBuffer := keeps_neverCloses (by simp) _
  resetOutputBuffer := keeps_neverCloses (by simp) _
  setBreak _ := keeps_neverCloses (by simp) _
  tcdrainBlocking := keeps_neverCloses (by simp) _
  modemLines := keeps_neverCloses (by simp) _
  setControlLines _ _ := keeps_neverCloses (by simp) _
  inputWaiting := keeps_neverCloses (by simp) _
  outputWaiting := keeps_neverCloses (by simp) _
  waitReadable _ := keeps_neverCloses (by simp) _
  waitWritable _ := keeps_neverCloses (by simp) _
  config _ _ := ⟨rfl, id⟩
  configureLock _ _ := ⟨rfl, id⟩

theorem neverCloses_setGuard (port : Port (Recorded σ)) (direction : Direction) (held : Bool) :
    NeverCloses port (port.setGuard direction held) := by
  cases direction <;> exact ⟨rfl, id⟩

/-- The close, once it is in the log, is its last entry, and the port is closed. -/
def CloseIsLast (port : Port (Recorded σ)) : Prop :=
  .close ∈ port.backend.calls →
    port.closed = true ∧ ∃ earlier, port.backend.calls = earlier ++ [.close] ∧ .close ∉ earlier

theorem CloseIsLast.neverCloses {after : Port (Recorded σ)} (last : CloseIsLast port) (isOpen : port.closed = false)
    (kept : NeverCloses port after) : CloseIsLast after := by
  have absent : .close ∉ port.backend.calls := by
    intro member
    simp [(last member).1] at isOpen
  exact fun member => absurd member (kept.calls absent)

theorem CloseIsLast.untouched {after : Port (Recorded σ)} (last : CloseIsLast port) (same : Untouched port after) :
    CloseIsLast after := by
  unfold CloseIsLast Port.closed
  rw [same.1, same.2]
  exact last

theorem closeBackend_last (absent : .close ∉ port.backend.calls) {teardown : Teardown.State}
    (isClosed : teardown.closed = true) :
    Ends (Port.closeBackend (recording backend) (recordingLoop loop)) port
      (fun _ after => CloseIsLast { after with teardown := teardown })
      (fun _ after => CloseIsLast { after with teardown := teardown }) := by
  have closing : ∀ recorded : Recorded σ, .close ∉ recorded.calls →
      Ends (recording backend).close recorded
        (fun _ t => CloseIsLast { port with backend := t, teardown := teardown })
        (fun _ t => CloseIsLast { port with backend := t, teardown := teardown }) := by
    intro recorded absent
    unfold recording
    rw [ends_recordCall]
    exact ends_iff.mpr ⟨fun _ _ _ _ => ⟨isClosed, _, rfl, absent⟩, fun _ _ _ _ => ⟨isClosed, _, rfl, absent⟩⟩
  have notified : ∀ recorded : Recorded σ, recorded.calls = port.backend.calls ++ [.notifyClosing] →
      .close ∉ recorded.calls := by
    intro recorded logged
    simp [logged, absent]
  simp only [Port.closeBackend, Port.notifyClosing, ends_bind, ends_get, ends_tryCatch, Port.ends_onBackend, recordingLoop,
    ends_recordCall, ends_modify]
  refine ends_iff.mpr ⟨fun _ inner _ => closing _ (notified _ rfl), fun exc inner _ => ?_⟩
  split
  · exact closing _ (notified _ rfl)
  · simp only [ends_ite, ends_pure, ends_throw]
    exact ⟨fun _ => closing _ (notified _ rfl), fun _ member => absurd member (notified _ rfl)⟩

theorem CloseIsLast.aclose (last : CloseIsLast port) {acloseLabel : AcloseLabel}
    (stepped : acloseStep (recording backend) (recordingLoop loop) port acloseLabel = some moved) :
    CloseIsLast moved := by
  rcases acloseStep_cases stepped with ⟨label, teardown, other, taken, rfl⟩ | ⟨me, teardown, _, taken, rfl⟩
  · intro member
    obtain ⟨isClosed, logged⟩ := last member
    exact ⟨((Teardown.closed_of_step taken).1 other).trans isClosed, logged⟩
  · have isClosed : teardown.closed = true := (Teardown.closed_of_step taken).2 ⟨me, _, rfl⟩
    cases already : port.closed with
    | true =>
      rw [closeOnce_of_closed already]
      exact fun member => ⟨isClosed, (last member).2⟩
    | false =>
      have absent : .close ∉ port.backend.calls := by
        intro member
        simp [(last member).1] at already
      rw [closeOnce_of_open already]
      exact (closeBackend_last absent isClosed).finalState

/-- An `aclose()` moves neither guard. -/
theorem guarded_acloseStep {σ : Type} {backend : SyncSerialBackend σ} {loop : EventLoop σ} {port moved : Port σ}
    {acloseLabel : AcloseLabel} (stepped : acloseStep backend loop port acloseLabel = some moved) (direction : Direction) :
    moved.guarded direction = port.guarded direction := by
  rcases acloseStep_cases stepped with ⟨label, teardown, other, taken, rfl⟩ | ⟨me, teardown, _, taken, rfl⟩
  · cases direction <;> rfl
  · have moved {α : Type} (body : Py σ α) : Keeps SameGuards (Port.onBackend body) :=
      keeps_onBackend (fun _ _ => ⟨fun direction => by cases direction <;> rfl, rfl⟩) body
    have tornDown : Keeps SameGuards (Port.closeBackend backend loop) :=
      keeps_closeBackend (fun _ => moved _) (moved _) fun _ _ => ⟨fun direction => by cases direction <;> rfl, rfl⟩
    have kept := related_closeOnce tornDown port
    have same := kept.guarded direction
    cases direction <;> exact same

/-- An `aclose()` on a closed port leaves the backend alone and the port closed. -/
theorem aclose_of_closed {σ : Type} {backend : SyncSerialBackend σ} {loop : EventLoop σ} {port moved : Port σ}
    (isClosed : port.closed = true) {acloseLabel : AcloseLabel}
    (stepped : acloseStep backend loop port acloseLabel = some moved) :
    moved.backend = port.backend ∧ moved.closed = true := by
  rcases acloseStep_cases stepped with ⟨label, teardown, other, taken, rfl⟩ | ⟨me, teardown, _, taken, rfl⟩
  · exact ⟨rfl, ((Teardown.closed_of_step taken).1 other).trans isClosed⟩
  · rw [closeOnce_of_closed isClosed]
    exact ⟨rfl, (Teardown.closed_of_step taken).2 ⟨me, _, rfl⟩⟩

end Runs

section Invariants

variable {σ : Type} {backend : SyncSerialBackend σ} {loop : EventLoop σ} {state after closed current final : State σ}
  {label : Label}

/-- Every parked task is a covered call at one of its own places, and every guard that
is held is held by a parked task. -/
structure Attended (state : State σ) : Prop where
  parked : ∀ (me : Nat) call frame, state.tasks[me]? = some ⟨call, .parked frame⟩ → frame.Of call ∧ call.Covered
  guarded : ∀ direction, state.port.guarded direction = true →
    ∃ (me : Nat) (call : Call) (frame : Frame), state.tasks[me]? = some ⟨call, .parked frame⟩ ∧
      frame.direction = some direction

theorem parked_of_direction {progress : Progress} {direction : Direction} (behind : progress.direction = some direction) :
    ∃ frame, progress = .parked frame ∧ frame.direction = some direction := by
  cases progress with
  | parked frame => exact ⟨frame, rfl, behind⟩
  | returned value => cases behind
  | raised exc => cases behind

theorem getElem?_concat_cases {α : Type} {entries : List α} {last entry : α} {me : Nat}
    (found : (entries ++ [last])[me]? = some entry) : entries[me]? = some entry ∨ (me = entries.length ∧ entry = last) := by
  rcases Nat.lt_trichotomy me entries.length with earlier | same | later
  · rw [List.getElem?_append_left earlier] at found
    exact .inl found
  · subst same
    exact .inr ⟨rfl, by simpa using found.symm⟩
  · rw [List.getElem?_eq_none (by simp; omega)] at found
    cases found

theorem getElem?_concat_of_getElem? {α : Type} {entries : List α} {last entry : α} {me : Nat}
    (found : entries[me]? = some entry) : (entries ++ [last])[me]? = some entry := by
  rw [List.getElem?_append_left (List.getElem?_eq_some_iff.mp found).1]
  exact found

theorem attended_opened (inner : σ) (config : SerialConfig) : Attended (State.opened inner config) := by
  refine ⟨fun me call frame found => ?_, fun direction held => ?_⟩
  · cases found
  · cases direction <;> cases held

theorem attended_step (attended : Attended state) (covered : label.Covered)
    (stepped : step backend loop state label = some after) : Attended after := by
  rcases step_cases stepped with ⟨call, cancelled, rfl, rfl⟩ | ⟨me, wake, call, frame, rfl, found, _, rfl⟩ |
    ⟨acloseLabel, port, rfl, closed, rfl⟩
  · have parks := settles_iff.mp (parks_start backend loop state.tasks.length cancelled call state.port)
    have behind := settles_iff.mp (behind_start backend loop state.port state.tasks.length cancelled call)
    refine ⟨fun other operation frame parked => ?_, fun direction held => ?_⟩
    · rcases getElem?_concat_cases parked with earlier | ⟨_, same⟩
      · exact attended.parked other operation frame earlier
      · obtain ⟨rfl, here⟩ := Task.mk.inj same
        exact ⟨parks frame here.symm, covered⟩
    · rcases behind direction held with parked | ⟨heldBefore, _⟩
      · obtain ⟨frame, here, direct⟩ := parked_of_direction parked
        exact ⟨state.tasks.length, call, frame, by simp [here], direct⟩
      · obtain ⟨me, operation, frame, found, direct⟩ := attended.guarded direction heldBefore
        exact ⟨me, operation, frame, getElem?_concat_of_getElem? found, direct⟩
  · obtain ⟨of, coveredCall⟩ := attended.parked me call frame found
    have parks := settles_iff.mp (parks_resume backend loop me wake of state.port)
    have behind := settles_iff.mp (behind_resume backend loop state.port me wake frame)
    have inside : me < state.tasks.length := (List.getElem?_eq_some_iff.mp found).1
    refine ⟨fun other operation parkedFrame parked => ?_, fun direction held => ?_⟩
    · by_cases mine : other = me
      · subst mine
        rw [List.getElem?_set_self inside] at parked
        obtain ⟨rfl, here⟩ := Task.mk.inj (Option.some.inj parked)
        exact ⟨parks parkedFrame here, coveredCall⟩
      · rw [List.getElem?_set_ne (Ne.symm mine)] at parked
        exact attended.parked other operation parkedFrame parked
    · rcases behind direction held with parked | ⟨heldBefore, different⟩
      · obtain ⟨next, here, direct⟩ := parked_of_direction parked
        exact ⟨me, call, next, by rw [List.getElem?_set_self inside, here], direct⟩
      · obtain ⟨other, operation, parkedFrame, foundOther, direct⟩ := attended.guarded direction heldBefore
        have notMine : other ≠ me := by
          rintro rfl
          cases found.symm.trans foundOther
          exact different direct
        exact ⟨other, operation, parkedFrame, (List.getElem?_set_ne (Ne.symm notMine)).trans foundOther, direct⟩
  · refine ⟨attended.parked, fun direction held => attended.guarded direction ?_⟩
    rwa [← guarded_acloseStep closed direction]

/-- What has become of the tasks since the port was closed. -/
structure Since (closed current : State σ) : Prop where
  isClosed : current.port.closed = true
  untouched : current.port.backend = closed.port.backend
  across : ∀ (me : Nat) call progress, closed.tasks[me]? = some ⟨call, progress⟩ →
    ∃ later, current.tasks[me]? = some ⟨call, later⟩ ∧
      (later = progress ∨ (∃ frame, progress = .parked frame) ∧ EndedByClose later)
  late : ∀ (me : Nat) call frame, current.tasks[me]? = some ⟨call, .parked frame⟩ →
    frame.direction = none ∨ closed.tasks[me]? = some ⟨call, .parked frame⟩
  attended : Attended current

theorem since_refl (isClosed : closed.port.closed = true) (attended : Attended closed) : Since closed closed :=
  ⟨isClosed, rfl, fun _ _ progress found => ⟨progress, found, .inl rfl⟩, fun _ _ _ found => .inr found, attended⟩

theorem RejectedOrInvalid.parked {port : Port σ} {call : Call} {cancelled : Bool} {progress : Progress} {frame : Frame}
    (rejected : RejectedOrInvalid port call cancelled progress) (parked : progress = .parked frame) :
    frame.direction = none := by
  subst parked
  rcases rejected with (⟨path, never⟩ | ⟨direction, _, _, never⟩ | ⟨config, _, ⟨_, never⟩ | ⟨acquired, same⟩⟩) |
    ⟨_, never | ⟨message, never⟩⟩
  · cases never
  · cases never
  · cases never
  · cases same
    rfl
  · cases never
  · cases never

theorem since_step (since : Since closed current) (covered : label.Covered)
    (stepped : step backend loop current label = some after) : Since closed after := by
  have attended := attended_step since.attended covered stepped
  rcases step_cases stepped with ⟨call, cancelled, rfl, rfl⟩ | ⟨me, wake, call, frame, rfl, found, _, rfl⟩ |
    ⟨acloseLabel, port, rfl, moved, rfl⟩
  · obtain ⟨⟨same, teardown⟩, rejected⟩ := settles_iff.mp (start_of_closed backend loop
      since.isClosed current.tasks.length cancelled covered)
    refine ⟨(congrArg Teardown.State.closed teardown).trans since.isClosed, same.trans since.untouched,
      fun me operation progress found => ?_, fun me operation frame found => ?_, attended⟩
    · obtain ⟨later, foundLater, ended⟩ := since.across me operation progress found
      exact ⟨later, getElem?_concat_of_getElem? foundLater, ended⟩
    · rcases getElem?_concat_cases found with earlier | ⟨_, new⟩
      · exact since.late me operation frame earlier
      · exact .inl (rejected.parked (Task.mk.inj new).2.symm)
  · obtain ⟨of, coveredCall⟩ := since.attended.parked me call frame found
    obtain ⟨⟨same, teardown⟩, ended⟩ := settles_iff.mp (resume_of_closed backend loop
      since.isClosed me wake coveredCall of)
    have inside : me < current.tasks.length := (List.getElem?_eq_some_iff.mp found).1
    refine ⟨(congrArg Teardown.State.closed teardown).trans since.isClosed, same.trans since.untouched,
      fun other operation progress foundOther => ?_, fun other operation parkedFrame foundOther => ?_, attended⟩
    · obtain ⟨later, foundLater, unchanged⟩ := since.across other operation progress foundOther
      by_cases mine : other = me
      · subst mine
        cases found.symm.trans foundLater
        have wasParked : ∃ frame, progress = .parked frame := by
          rcases unchanged with rfl | ⟨wasParked, _⟩
          · exact ⟨frame, rfl⟩
          · exact wasParked
        exact ⟨_, List.getElem?_set_self inside, .inr ⟨wasParked, ended⟩⟩
      · exact ⟨later, (List.getElem?_set_ne (Ne.symm mine)).trans foundLater, unchanged⟩
    · by_cases mine : other = me
      · subst mine
        rw [List.getElem?_set_self inside] at foundOther
        obtain ⟨_, parked⟩ := Task.mk.inj (Option.some.inj foundOther)
        rw [parked] at ended
        rcases ended with never | never | ⟨path, never⟩
        · cases never
        · cases never
        · cases never
      · rw [List.getElem?_set_ne (Ne.symm mine)] at foundOther
        exact since.late other operation parkedFrame foundOther
  · obtain ⟨same, isClosed⟩ := aclose_of_closed since.isClosed moved
    exact ⟨isClosed, same.trans since.untouched, since.across, since.late, attended⟩

/-- What becomes of a call made since the port was closed: a busy guard is held by a
task that was parked across the close and has not gone on yet. -/
def RejectedSince (closed current : State σ) (call : Call) (cancelled : Bool) (progress : Progress) : Prop :=
  (∃ path, progress = .raised (closedError path)) ∨
    (∃ direction, call.direction = some direction ∧ progress = .raised (.busyResourceError direction.action) ∧
      ∃ (me : Nat) (task : Task), closed.tasks[me]? = some task ∧ current.tasks[me]? = some task ∧
        task.progress.direction = some direction) ∨
    ∃ config, call = .configure config ∧
      ((cancelled = true ∧ progress = .raised .cancelled) ∨ ∃ acquired, progress = .parked (.configuring config acquired))

theorem Since.rejected (since : Since closed current) {call : Call} {cancelled : Bool} {progress : Progress}
    (rejected : Rejected current.port call cancelled progress) : RejectedSince closed current call cancelled progress := by
  rcases rejected with refused | ⟨direction, behind, held, busy⟩ | configures
  · exact .inl refused
  · obtain ⟨me, operation, frame, found, direct⟩ := since.attended.guarded direction held
    rcases since.late me operation frame found with free | across
    · cases free.symm.trans direct
    · exact .inr (.inl ⟨direction, behind, busy, me, _, across, found, direct⟩)
  · exact .inr (.inr configures)

end Invariants

section AfterClose

variable {σ : Type} {backend : SyncSerialBackend σ} {loop : EventLoop σ} {closed current : State (Recorded σ)}

/-- What ends a wait when nothing else happens to it: the close of its descriptor, which was
announced, the clock, or the lock that is handed over. -/
def Frame.dueWake (frame : Frame) : Wake := if frame.waitsOn = none then .ready else .closing

/-- What holds in `current` of a port that had been closed in `closed`: the close is
the last call that was ever made on the backend or on its descriptor, a task goes on
only to end with an error, and a call that is made is rejected. A second `aclose()`
returns. On a backend that keeps its descriptor, the close has woken every task: the wake
that it waits for comes, once those before it have left the lock that it may wait for. -/
structure SilentSince (backend : SyncSerialBackend σ) (loop : EventLoop σ) (closed current : State (Recorded σ)) :
    Prop where
  last : ∃ earlier, current.port.backend.calls = earlier ++ [.close] ∧ .close ∉ earlier
  across : ∀ (me : Nat) call progress, closed.tasks[me]? = some ⟨call, progress⟩ →
    ∃ later, current.tasks[me]? = some ⟨call, later⟩ ∧
      (later = progress ∨ (∃ frame, progress = .parked frame) ∧ EndedByClose later)
  wakes : ∀ me wake next, step (recording backend) (recordingLoop loop) current (.wake me wake) = some next →
    ∃ call progress, next.tasks[me]? = some ⟨call, progress⟩ ∧ EndedByClose progress
  woken : backend.Steady → loop.Notifies backend →
    ∀ (me : Nat) call frame, current.tasks[me]? = some ⟨call, .parked frame⟩ →
      ∃ ahead : List Nat, (∀ other ∈ ahead, other < me) ∧ (frame.configures = none → ahead = []) ∧ ∃ final ended,
        run (step (recording backend) (recordingLoop loop)) current
          (ahead.map (fun other => .wake other .ready) ++ [.wake me frame.dueWake]) = some final ∧
        final.tasks[me]? = some ⟨call, ended⟩ ∧ EndedByClose ended
  calls : ∀ call cancelled next, call.Covered → call.Valid →
    step (recording backend) (recordingLoop loop) current (.call call cancelled) = some next →
    ∃ progress, next.tasks = current.tasks ++ [⟨call, progress⟩] ∧ RejectedSince closed current call cancelled progress
  acloses : ∀ me moved, acloseStep (recording backend) (recordingLoop loop) current.port (.resume me) = some moved →
    moved.teardown.calls[me]? = some .returned

theorem resumed_of_closed {teardown after : Teardown.State} (isClosed : teardown.closed = true) {me : Nat}
    {close : Option PyExc} (stepped : Teardown.step .posix teardown (.resume me close) = some after) :
    after.calls[me]? = some .returned := by
  rcases Teardown.step_cases stepped with ⟨_, never, _⟩ | ⟨other, result, progress, same, found, _, rfl⟩ |
    ⟨_, never, _⟩ | ⟨_, _, never, _⟩
  · cases never
  · cases same
    have inside : me < teardown.calls.length := (List.getElem?_eq_some_iff.mp found).1
    simp [Teardown.body, isClosed, inside]
  · cases never
  · cases never

theorem closeIsLast_step {state after : State (Recorded σ)} {label : Label} (last : CloseIsLast state.port)
    (attended : Attended state) (covered : label.Covered)
    (stepped : step (recording backend) (recordingLoop loop) state label = some after) : CloseIsLast after.port := by
  have moves : SegmentMoves (recording backend) (recordingLoop loop) NeverCloses := segmentMoves_neverCloses
  rcases step_cases stepped with ⟨call, cancelled, rfl, rfl⟩ | ⟨me, wake, call, frame, rfl, found, _, rfl⟩ |
    ⟨acloseLabel, port, rfl, moved, rfl⟩
  · cases isClosed : state.port.closed with
    | true =>
      exact last.untouched (settles_iff.mp (start_of_closed _ _ isClosed state.tasks.length cancelled covered)).1
    | false =>
      have kept : Settles (Port.start (recording backend) (recordingLoop loop) state.tasks.length cancelled call)
          state.port fun _ after => NeverCloses state.port after :=
        keeps_start moves neverCloses_setGuard _ cancelled call state.port
      exact last.neverCloses isClosed (settles_iff.mp kept)
  · obtain ⟨of, coveredCall⟩ := attended.parked me call frame found
    cases isClosed : state.port.closed with
    | true => exact last.untouched (settles_iff.mp (resume_of_closed _ _ isClosed me wake coveredCall of)).1
    | false =>
      have kept : Settles (Port.resume (recording backend) (recordingLoop loop) me wake frame)
          state.port fun _ after => NeverCloses state.port after :=
        keeps_resume moves neverCloses_setGuard me wake frame state.port
      exact last.neverCloses isClosed (settles_iff.mp kept)
  · exact last.aclose moved

/-- A task that goes on ends. -/
theorem Since.wakes (since : Since closed current) {me : Nat} {wake : Wake} {next : State (Recorded σ)}
    (stepped : step (recording backend) (recordingLoop loop) current (.wake me wake) = some next) :
    ∃ call frame progress, current.tasks[me]? = some ⟨call, .parked frame⟩ ∧ next.tasks[me]? = some ⟨call, progress⟩ ∧
      EndedByClose progress := by
  rcases step_cases stepped with ⟨_, _, never, _⟩ | ⟨other, woken, call, frame, same, found, _, rfl⟩ | ⟨_, _, never, _⟩
  · cases never
  · cases same
    obtain ⟨of, coveredCall⟩ := since.attended.parked me call frame found
    have inside : me < current.tasks.length := (List.getElem?_eq_some_iff.mp found).1
    exact ⟨call, frame, _, found, List.getElem?_set_self inside,
      (settles_iff.mp (resume_of_closed _ _ since.isClosed me wake coveredCall of)).2⟩
  · cases never

variable (backend loop) in
/-- A task whose wait is over ends at once. -/
theorem Since.due (since : Since closed current) {me : Nat} {call : Call} {frame : Frame}
    (found : current.tasks[me]? = some ⟨call, .parked frame⟩) (admits : frame.admits current.port me frame.dueWake = true) :
    ∃ final ended, run (step (recording backend) (recordingLoop loop)) current [.wake me frame.dueWake] = some final ∧
      final.tasks[me]? = some ⟨call, ended⟩ ∧ EndedByClose ended := by
  have stepped := step_of_admits (recording backend) (recordingLoop loop) found admits
  obtain ⟨operation, parked, progress, there, woken, ended⟩ := since.wakes stepped
  cases found.symm.trans there
  exact ⟨_, progress, by simp only [run_cons, stepped, Option.bind_some, run_nil], woken, ended⟩

theorem Since.woken (since : Since closed current) (queued : LockQueued current)
    (waiting : WaitingHere (recording backend) current) {me : Nat} {call : Call} {frame : Frame}
    (found : current.tasks[me]? = some ⟨call, .parked frame⟩) :
    ∃ ahead : List Nat, (∀ other ∈ ahead, other < me) ∧ (frame.configures = none → ahead = []) ∧ ∃ final ended,
      run (step (recording backend) (recordingLoop loop)) current
        (ahead.map (fun other => .wake other .ready) ++ [.wake me frame.dueWake]) = some final ∧
      final.tasks[me]? = some ⟨call, ended⟩ ∧ EndedByClose ended := by
  have alone (admits : frame.admits current.port me frame.dueWake = true) :=
    since.due backend loop found admits
  cases frame with
  | receiving size fd | receivingInto buffer fd | awaitingInput limit fd | receivingAvailable size fd | sending data offset fd =>
    exact ⟨[], by simp, fun _ => rfl, alone (admits_closing waiting since.isClosed found rfl)⟩
  | draining => exact ⟨[], by simp, fun _ => rfl, alone rfl⟩
  | drainingExact | breaking =>
    -- Neither of the two calls is covered.
    obtain ⟨of, covered⟩ := since.attended.parked me call _ found
    cases call <;> first | exact of.elim | exact covered.elim
  | configuring config acquired =>
    have serves (state : State (Recorded σ)) (me : Nat) (queued : LockQueued state) (owns : state.port.configureLock.owner = some me) :=
      owner_is_served (recording backend) (recordingLoop loop) queued owns
    obtain ⟨ahead, earlier, final, ended, ran, there, unparked⟩ :=
      served_in_turn (fun _ queued => queued) serves queued found (Option.some_ne_none _)
    refine ⟨ahead, earlier, by simp [Frame.configures], final, ended.progress, ?_, ?_⟩
    · rw [List.map_append] at ran
      exact ran
    · -- What has become of the call since now is what becomes of any task on a closed port.
      have after : Since current final := run_invariant_of_admitted (Since current) Label.Covered
        (since_refl since.isClosed since.attended) (fun _ _ _ admitted since stepped => since_step since admitted stepped)
        (fun label member => by
          obtain ⟨other, _, rfl⟩ := List.mem_map.mp member
          trivial) ran
      obtain ⟨later, foundLater, same | ⟨_, ends⟩⟩ := after.across me call _ found
      · cases there.symm.trans foundLater
        exact absurd same (unparked _)
      · cases there.symm.trans foundLater
        exact ⟨there, ends⟩

theorem Since.silent (since : Since closed current) (last : CloseIsLast closed.port)
    (closes : .close ∈ closed.port.backend.calls) (queued : LockQueued current)
    (waiting : backend.Steady → loop.Notifies backend → WaitingHere (recording backend) current) :
    SilentSince backend loop closed current := by
  refine ⟨?_, since.across, fun me wake next stepped => ?_, fun steady notifies me call frame found => ?_,
    fun call cancelled next covered valid stepped => ?_, fun me moved stepped => ?_⟩
  · rw [since.untouched]
    exact (last closes).2
  · obtain ⟨call, _, progress, _, woken, ended⟩ := since.wakes stepped
    exact ⟨call, progress, woken, ended⟩
  · exact since.woken queued (waiting steady notifies) found
  · rcases step_cases stepped with ⟨other, flag, same, rfl⟩ | ⟨_, _, _, _, never, _⟩ | ⟨_, _, never, _⟩
    · cases same
      obtain ⟨_, rejected | ⟨invalid, _⟩⟩ :=
        settles_iff.mp (start_of_closed (recording backend) (recordingLoop loop) since.isClosed
          current.tasks.length cancelled covered)
      · exact ⟨_, rfl, since.rejected rejected⟩
      · exact absurd valid invalid
    · cases never
    · cases never
  · obtain ⟨teardown, taken, rfl⟩ := acloseStep_resume stepped
    exact resumed_of_closed since.isClosed taken

/-- Once the backend has been closed no covered operation touches it, or registers on
its descriptor, in any interleaving, whatever the backend answers. -/
theorem silent_after_close (inner : σ) (config : SerialConfig) {labels more : List Label}
    (covered : ∀ label ∈ labels ++ more, label.Covered)
    (ran : run (step (recording backend) (recordingLoop loop)) (.opened (.fresh inner) config) labels = some closed)
    (closes : .close ∈ closed.port.backend.calls)
    (later : run (step (recording backend) (recordingLoop loop)) closed more = some current) :
    SilentSince backend loop closed current := by
  have reached : CloseIsLast closed.port ∧ Attended closed := by
    refine run_invariant_of_admitted (fun state => CloseIsLast state.port ∧ Attended state) Label.Covered ?_ ?_
      (fun label member => covered label (List.mem_append_left _ member)) ran
    · refine ⟨fun member => ?_, attended_opened _ config⟩
      cases member
    · rintro state label after admitted ⟨last, attended⟩ stepped
      exact ⟨closeIsLast_step last attended admitted stepped, attended_step attended admitted stepped⟩
  have since : Since closed current :=
    run_invariant_of_admitted (Since closed) Label.Covered (since_refl (reached.1 closes).1 reached.2)
      (fun _ _ _ admitted since stepped => since_step since admitted stepped)
      (fun label member => covered label (List.mem_append_right _ member)) later
  have whole : run (step (recording backend) (recordingLoop loop)) (.opened (.fresh inner) config) (labels ++ more) = some current := by
    rw [run_append, ran]
    exact later
  exact since.silent reached.1 closes (queued_of_run whole) fun steady notifies =>
    waitingHere_of_run (steady_recording steady) (notifies_recordingLoop notifies) whole

/-- A reader, a sender and two calls that configure the port are parked while it is closed. -/
def closingRun : List Label :=
  [.call (.receive 16) false, .call (.send [7]) false, .call (.configure .defaults) false, .call (.configure .defaults) false,
    .aclose (.call false), .aclose (.resume 0)]

/-- A second reader comes before the first one is woken, and a third one after. -/
def lateRun : List Label :=
  [.call (.receive 8) false, .wake 0 .closing, .call (.receive 8) false, .call .modemLines false,
    .aclose (.call false), .aclose (.resume 1)]

theorem silent_after_close_on_linux :
    ∃ closed current, run (step (recording Linux.linuxBackend) (recordingLoop quietLoop))
        (.opened (.fresh Linux.polledTerminal) {}) closingRun = some closed ∧
      run (step (recording Linux.linuxBackend) (recordingLoop quietLoop)) closed lateRun = some current ∧
      current.tasks.map Task.progress = [.raised .closedResourceError, .parked (.sending [7] 0 3),
        .parked (.configuring .defaults true), .parked (.configuring .defaults false), .raised (.busyResourceError "reading from"),
        .raised (closedError "/dev/ttyUSB0"), .raised (closedError "/dev/ttyUSB0")] ∧
      SilentSince Linux.linuxBackend quietLoop closed current ∧
      ∃ ahead : List Nat, (∀ other ∈ ahead, other < 3) ∧ ∃ final call ended,
        run (step (recording Linux.linuxBackend) (recordingLoop quietLoop)) current
          (ahead.map (fun other => .wake other .ready) ++ [.wake 3 .ready]) = some final ∧
        final.tasks[3]? = some ⟨call, ended⟩ ∧ EndedByClose ended := by
  have closing : ((run (step (recording Linux.linuxBackend) (recordingLoop quietLoop))
      (.opened (.fresh Linux.polledTerminal) {}) closingRun).any fun closed =>
        .close ∈ closed.port.backend.calls ∧
          (run (step (recording Linux.linuxBackend) (recordingLoop quietLoop)) closed lateRun).any fun current =>
            current.tasks.map Task.progress = [.raised .closedResourceError, .parked (.sending [7] 0 3),
              .parked (.configuring .defaults true), .parked (.configuring .defaults false), .raised (.busyResourceError "reading from"),
              .raised (closedError "/dev/ttyUSB0"), .raised (closedError "/dev/ttyUSB0")]) = true := by decide +kernel
  obtain ⟨closed, ran, rest⟩ := (Option.any_eq_true _ _).mp closing
  obtain ⟨closes, later⟩ := of_decide_eq_true rest
  obtain ⟨current, late, ended⟩ := (Option.any_eq_true _ _).mp later
  have progress : current.tasks.map Task.progress = _ := of_decide_eq_true ended
  have silent : SilentSince Linux.linuxBackend quietLoop closed current :=
    silent_after_close _ {} (fun label member => by
      simp only [closingRun, lateRun, List.cons_append, List.nil_append, List.mem_cons, List.not_mem_nil, or_false] at member
      rcases member with rfl | rfl | rfl | rfl | rfl | rfl | rfl | rfl | rfl | rfl | rfl | rfl <;> trivial) ran closes late
  have queued : (current.tasks.map Task.progress)[3]? = some (.parked (.configuring .defaults false)) := by rw [progress]; rfl
  rw [List.getElem?_map, Option.map_eq_some_iff] at queued
  obtain ⟨⟨call, _⟩, found, rfl⟩ := queued
  obtain ⟨ahead, earlier, _, final, ended, ran', there, ends⟩ :=
    silent.woken Linux.steady_linuxBackend (notifies_quietLoop _) 3 call _ found
  exact ⟨closed, current, ran, late, progress, silent, ahead, earlier, final, call, ended, ran', there, ends⟩

/-- Not every operation that is started after the close raises the closed or the busy error, and
not every one that is parked across it ends with an error: an `aclose()` returns, and a
`configure` in a cancelled scope is cancelled where it acquires its lock. -/
theorem late_operations_need_not_raise_closed :
    ((run (step (recording Linux.linuxBackend) (recordingLoop quietLoop)) (.opened (.fresh Linux.polledTerminal) {})
        [.call (.receive 16) false, .aclose (.call false), .aclose (.call false), .aclose (.resume 0)]).bind fun closed =>
      (run (step (recording Linux.linuxBackend) (recordingLoop quietLoop)) closed
        [.aclose (.resume 1), .aclose (.call false), .aclose (.resume 2), .call (.configure {}) true]).map fun final =>
          (closed.port.teardown.calls, final.port.backend.calls, final.port.teardown.calls, final.tasks.map Task.progress)) =
      some ([.returned, .queued], [.waitReadable, .notifyClosing, .close], [.returned, .returned, .returned],
        [.parked (.receiving 16 3), .raised .cancelled]) := by decide +kernel

end AfterClose

end Anyserial
