import Anyserial.Mock.DuplexProperties

/-! The control lines and the break condition of a pair: each end shows what the tasks on
its own port asked for, whatever else happens on either port. -/
set_option autoImplicit false

namespace Anyserial.Mock

open Kit

structure ControlLines where
  rts : Bool
  dtr : Bool
  deriving DecidableEq

/-- What a task makes of the lines: only a `set_control_lines` that returned changes them. -/
def commandedBy (lines : ControlLines) (task : Task) : ControlLines :=
  match task.call, task.progress with
  | .setControlLines rts dtr, .returned _ => ⟨rts.getD lines.rts, dtr.getD lines.dtr⟩
  | _, _ => lines

/-- The lines after the commands of all tasks, in the order in which they were given. -/
def commanded (tasks : List Task) : ControlLines := tasks.foldl commandedBy ⟨false, false⟩

def MockState.lines (state : MockState) : ControlLines := ⟨state.rts, state.dtr⟩

/-- The signals of one end: its lines and its break condition. -/
def MockState.signals (state : MockState) : ControlLines × Bool := (state.lines, state.breakAsserted)

/-- The signals of the end `side` are those that its tasks have asked for. -/
structure Signalled (tasks : List Task) (state : MockState) : Prop where
  lines : state.lines = commanded tasks
  breaks : state.breakAsserted = true ↔ ∃ task ∈ tasks, task.progress = .parked .breaking

/-- What `modem_lines` reports of a peer. -/
def observed (lines : ControlLines) : ModemLines := ⟨lines.rts, lines.dtr, false, lines.dtr⟩

def Pair.signals (pair : Pair) (side : Side) : ControlLines × Bool := (pair.ends side).signals

section Muted

variable {side : Side} {answers : Answers} {pair : Pair}

/-- The backend with the methods taken out that change the signals. -/
def muted (side : Side) : SyncSerialBackend (Recorded Pair) :=
  { recording (backend side) with setBreak := fun _ => pure (), setControlLines := fun _ _ => pure () }

def Signalling : Call → Prop
  | .setControlLines _ _ | .sendBreak _ => True
  | _ => False

theorem start_muted {call : Call} {me : Nat} {cancelled : Bool} (other : ¬Signalling call) :
    Port.start (recording (backend side)) (recordingLoop answers.loop) me cancelled call =
      Port.start (muted side) (recordingLoop answers.loop) me cancelled call := by
  cases call with
  | setControlLines rts dtr => exact absurd trivial other
  | sendBreak duration => exact absurd trivial other
  | _ => rfl

theorem resume_muted {frame : Frame} {me : Nat} {wake : Wake} (other : frame ≠ .breaking) :
    Port.resume (recording (backend side)) (recordingLoop answers.loop) me wake frame =
      Port.resume (muted side) (recordingLoop answers.loop) me wake frame := by
  cases frame with
  | breaking => exact absurd rfl other
  | _ => rfl

/-- The signals of both ends are as they were. -/
abbrev SameSignals (before after : Pair) : Prop := SameView Pair.signals before after

theorem sameSignals_edit {change : MockState → MockState} (pair : Pair) (side : Side)
    (same : (change (pair.ends side)).signals = (pair.ends side).signals) : SameSignals pair (pair.edit side change) := by
  funext other
  by_cases mine : other = side
  · subst mine
    simpa only [Pair.signals, edit_ends] using same
  · simp only [Pair.signals, edit_ends_of_ne pair mine]

theorem sameSignals_recvEmpty : Keeps SameSignals (recvEmpty side) := by
  intro pair
  simp only [recvEmpty, ends_bind, ends_get, ends_ite, ends_set, ends_throw, ends_pure]
  exact ⟨fun _ => sameSignals_edit _ _ rfl, fun _ => ⟨fun _ => rfl, fun _ => rfl⟩⟩

theorem sameSignals_recv {size : Nat} : Keeps SameSignals (recv side size) := by
  intro pair
  simp only [recv, ends_bind, ends_get, ends_ite, ends_set, ends_throw, ends_pure]
  exact ⟨fun _ => rfl, fun _ => ⟨fun _ => rfl, fun _ => ⟨fun _ => sameSignals_recvEmpty pair, fun _ => sameSignals_edit _ _ rfl⟩⟩⟩

theorem sameSignals_editFaults {change : FaultPlan → FaultPlan} : Keeps SameSignals (editFaults side change) :=
  .modify fun _ => sameSignals_edit _ _ rfl

theorem sameSignals_inject {exc : PyExc} {change : FaultPlan → FaultPlan} {α : Type} :
    Keeps SameSignals (do editFaults side change; throw exc : Py Pair α) :=
  sameSignals_editFaults.bind fun _ => .throw exc

theorem sameSignals_readNonblocking {buffer : ReadBuffer} : Keeps SameSignals (readNonblocking side buffer) :=
  Keeps.get.bind fun _ => .ite (fun _ => sameSignals_inject) fun _ => .ite (fun _ => sameSignals_inject) fun _ =>
    .ite (fun _ => .pure _) fun _ => .ite (fun _ => sameSignals_inject) fun _ =>
      .ite (fun _ => sameSignals_inject) fun _ => .ite (fun _ => sameSignals_recv) fun _ => .throw _

theorem sameSignals_sendSocket {data : Bytes} : Keeps SameSignals (sendSocket side data) := by
  intro pair
  simp only [sendSocket, ends_bind, ends_get, ends_ite, ends_set, ends_throw, ends_pure]
  exact ⟨fun _ => rfl, fun _ => ⟨fun _ => rfl, fun _ => ⟨fun _ => rfl, fun _ => sameSignals_edit _ _ rfl⟩⟩⟩

theorem sameSignals_writeNonblocking {data : Bytes} : Keeps SameSignals (writeNonblocking side data) :=
  Keeps.get.bind fun _ => .ite (fun _ => .throw _) fun _ => .ite (fun _ => sameSignals_inject) fun _ =>
    .ite (fun _ => sameSignals_inject) fun _ => .ite (fun _ => .pure _) fun _ => sameSignals_sendSocket

theorem sameSignals_drainInput (passes : Nat) : Keeps SameSignals (drainInput side passes) := by
  induction passes with
  | zero => exact .pure ()
  | succ passes ih => exact sameSignals_recv.bind fun _ => .ite (fun _ => .pure ()) fun _ => ih

theorem sameSignals_resetInputBuffer : Keeps SameSignals (resetInputBuffer side) :=
  Keeps.get.bind fun _ => (sameSignals_drainInput _).tryCatch fun _ => .ite (fun _ => .pure ()) fun _ => .throw _

theorem sameSignals_inputWaiting : Keeps SameSignals (inputWaiting side) := by
  have looked : Keeps SameSignals (peek side 65536) := by
    intro pair
    simp only [peek, ends_bind, ends_get, ends_ite, ends_throw, ends_pure]
    exact ⟨fun _ => rfl, fun _ => ⟨fun _ => sameSignals_recvEmpty pair, fun _ => rfl⟩⟩
  exact (looked.bind fun _ => .pure _).tryCatch fun _ => .ite (fun _ => .pure _) fun _ => .throw _

theorem sameSignals_close : Keeps SameSignals (close side) := by
  refine .modify fun pair => ?_
  have marked : SameSignals pair (pair.edit side fun state => { state with isOpen := false }) := sameSignals_edit _ _ rfl
  dsimp only
  split
  · exact marked
  · refine IsTrans.trans _ _ _ marked (IsTrans.trans _ _ _ (sameSignals_edit _ side ?_) (sameSignals_edit _ _ ?_))
    · rfl
    · rfl

abbrev SameSignalled (before after : Recorded Pair) : Prop := SameView (fun recorded => recorded.inner.signals) before after

theorem sameSignalled_recordCall {α : Type} {method : Method} {body : Py Pair α} (kept : Keeps SameSignals body) :
    Keeps SameSignalled (recordCall method body) := by
  intro recorded
  rw [ends_recordCall]
  exact kept recorded.inner

theorem segmentMoves_muted (side : Side) (answers : Answers) :
    SegmentMoves (muted side) (recordingLoop answers.loop) (OnBackend SameSignalled) where
  readNonblocking _ := keeps_onBackend_of
    ((sameSignalled_recordCall sameSignals_readNonblocking).bind fun _ => Keeps.bind (.modify fun _ => rfl) fun _ => .pure _)
  writeNonblocking _ := keeps_onBackend_of
    ((sameSignalled_recordCall sameSignals_writeNonblocking).bind fun _ => Keeps.bind (.modify fun _ => rfl) fun _ => .pure _)
  applied _ := keeps_onBackend_of (sameSignalled_recordCall (.modify fun _ => sameSignals_edit _ _ rfl))
  resetInputBuffer := keeps_onBackend_of (sameSignalled_recordCall sameSignals_resetInputBuffer)
  resetOutputBuffer := keeps_onBackend_of (sameSignalled_recordCall (.pure ()))
  setBreak _ := keeps_onBackend_of (.pure ())
  tcdrainBlocking := keeps_onBackend_of (sameSignalled_recordCall (.pure ()))
  modemLines := keeps_onBackend_of (sameSignalled_recordCall (Keeps.get.bind fun pair => .pure (observed (pair.ends side.peer).lines)))
  setControlLines _ _ := keeps_onBackend_of (.pure ())
  inputWaiting := keeps_onBackend_of (sameSignalled_recordCall sameSignals_inputWaiting)
  outputWaiting := keeps_onBackend_of (sameSignalled_recordCall (.pure 0))
  waitReadable _ := keeps_onBackend_of (sameSignalled_recordCall (.liftExcept _))
  waitWritable _ := keeps_onBackend_of (sameSignalled_recordCall (.liftExcept _))
  config port _ := Std.Refl.refl port.backend
  configureLock port _ := Std.Refl.refl port.backend

theorem sameSignals_acloseStep {port moved : Port (Recorded Pair)} {label : AcloseLabel}
    (stepped : acloseStep (recording (backend side)) (recordingLoop answers.loop) port label = some moved) :
    moved.backend.inner.signals = port.backend.inner.signals := by
  have notified : Keeps (OnBackend SameSignalled) (Port.onBackend (recordCall .notifyClosing
      (liftExcept answers.registers : Py Pair Unit))) := keeps_onBackend_of (sameSignalled_recordCall (.liftExcept _))
  have closes : Keeps (OnBackend SameSignalled)
      (Port.closeBackend (recording (backend side)) (recordingLoop answers.loop)) :=
    keeps_closeBackend (fun _ => notified) (keeps_onBackend_of (sameSignalled_recordCall sameSignals_close))
      fun port _ => Std.Refl.refl port.backend
  rcases acloseStep_cases stepped with ⟨_, teardown, _, _, rfl⟩ | ⟨me, teardown, _, _, rfl⟩
  · rfl
  · exact related_closeOnce closes port

end Muted

section Tasks

variable {tasks : List Task} {state after : MockState}

theorem commandedBy_of_other {task : Task} (other : ∀ rts dtr, task.call ≠ .setControlLines rts dtr)
    (lines : ControlLines) : commandedBy lines task = lines := by
  obtain ⟨call, progress⟩ := task
  cases call with
  | setControlLines rts dtr => exact absurd rfl (other rts dtr)
  | _ => rfl

/-- Replacing a task that commands nothing by another such task. -/
theorem commanded_set {me : Nat} {old new : Task} (found : tasks[me]? = some old)
    (idle : ∀ lines, commandedBy lines old = lines) (still : ∀ lines, commandedBy lines new = lines) :
    commanded (tasks.set me new) = commanded tasks := by
  have folded : ∀ (tasks : List Task) (me : Nat) (lines : ControlLines), tasks[me]? = some old →
      (tasks.set me new).foldl commandedBy lines = tasks.foldl commandedBy lines := by
    intro tasks
    induction tasks with
    | nil =>
      intro me lines never
      simp at never
    | cons first rest ih =>
      intro me lines found
      cases me with
      | zero =>
        obtain rfl : first = old := by simpa using found
        simp only [List.set_cons_zero, List.foldl_cons, still, idle]
      | succ me =>
        simp only [List.set_cons_succ, List.foldl_cons]
        exact ih me _ (by simpa using found)
  exact folded tasks me _ found

/-- A new task that was given its command. -/
theorem Signalled.append (signalled : Signalled tasks state) {task : Task} (lines : after.lines = commandedBy state.lines task)
    (breaks : after.breakAsserted = true ↔ state.breakAsserted = true ∨ task.progress = .parked .breaking) :
    Signalled (tasks ++ [task]) after := by
  constructor
  · rw [lines, signalled.lines, commanded, commanded, List.foldl_append, List.foldl_cons, List.foldl_nil]
  · rw [breaks, signalled.breaks]
    simp only [List.mem_append, List.mem_singleton, or_and_right, exists_or, exists_eq_left]

/-- A parked task goes on, and it is the only one that may be parked in a break. -/
theorem Signalled.set (signalled : Signalled tasks state) {me : Nat} {call : Call} {frame : Frame} {progress : Progress}
    (found : tasks[me]? = some ⟨call, .parked frame⟩) (other : ∀ rts dtr, call ≠ .setControlLines rts dtr)
    (alone : ∀ (rival : Nat) (task : Task), tasks[rival]? = some task → task.progress = .parked .breaking →
      frame = .breaking → rival = me)
    (lines : after.lines = state.lines)
    (breaks : after.breakAsserted = true ↔
      progress = .parked .breaking ∨ (state.breakAsserted = true ∧ frame ≠ .breaking)) :
    Signalled (tasks.set me ⟨call, progress⟩) after := by
  have inside : me < tasks.length := (List.getElem?_eq_some_iff.mp found).1
  constructor
  · rw [lines, signalled.lines]
    exact (commanded_set found (commandedBy_of_other other) (commandedBy_of_other other)).symm
  · rw [breaks, signalled.breaks]
    constructor
    · intro asserted
      rcases asserted with parked | ⟨⟨task, member, parked⟩, different⟩
      · exact ⟨_, List.mem_of_getElem? (List.getElem?_set_self inside), parked⟩
      · obtain ⟨rival, foundRival⟩ := List.mem_iff_getElem?.mp member
        have notMe : rival ≠ me := by
          intro same
          subst same
          cases found.symm.trans foundRival
          exact different (Standing.parked.inj parked)
        exact ⟨task, List.mem_of_getElem? ((List.getElem?_set_ne (Ne.symm notMe)).trans foundRival), parked⟩
    · intro exists_
      obtain ⟨task, member, parked⟩ := exists_
      obtain ⟨rival, foundRival⟩ := List.mem_iff_getElem?.mp member
      by_cases same : rival = me
      · subst same
        rw [List.getElem?_set_self inside] at foundRival
        cases foundRival
        exact .inl parked
      · rw [List.getElem?_set_ne (Ne.symm same)] at foundRival
        exact .inr ⟨⟨task, List.mem_of_getElem? foundRival, parked⟩, fun mine => same (alone rival task foundRival parked mine)⟩

end Tasks

section Segments

variable {side : Side} {answers : Answers} {port : Port (Recorded Pair)} {rts dtr : Option Bool} {me : Nat}
  {cancelled : Bool}

theorem edit_break (pair : Pair) (side : Side) (on : Bool) :
    let after := pair.edit side fun state => { state with breakAsserted := on }
    after.signals side.peer = pair.signals side.peer ∧ (after.ends side).lines = (pair.ends side).lines ∧
      (after.ends side).breakAsserted = on :=
  ⟨congrArg MockState.signals (edit_ends_peer _ _ _), (congrArg MockState.lines (edit_ends _ _ _)).trans rfl,
    congrArg MockState.breakAsserted (edit_ends _ _ _)⟩

theorem settles_control {α : Type} {method : Method} {body : Py Pair α} {value : α → Value} {good : Progress → Port (Recorded Pair) → Prop}
    (refused : port.closed = true → good (.raised (closedError ((backend side).path port.backend.inner))) port)
    (made : port.closed = false → Ends body port.backend.inner
      (fun result inner => good (.returned (value result)) { port with backend := { port.backend with
        inner := inner, calls := port.backend.calls ++ [method] } })
      fun _ _ => False) :
    Settles (Port.control (recording (backend side)) (recordCall method body) value) port good := by
  unfold Settles
  rw [Port.control, ends_bind, Port.ends_raiseIfClosed]
  refine ⟨refused, fun isOpen => ?_⟩
  rw [ends_bind, Port.ends_ioctl, ends_recordCall]
  exact (made isOpen).mono (fun _ _ reached => reached) fun _ _ never => never.elim

variable (side answers port me cancelled rts dtr) in
/-- A command of the lines: it takes effect, and returns, exactly when the port is open. -/
theorem setControlLines_spec :
    Settles (Port.start (recording (backend side)) (recordingLoop answers.loop) me cancelled (.setControlLines rts dtr)) port
      fun progress after => (∀ frame, progress ≠ .parked frame) ∧
        after.backend.inner.signals side.peer = port.backend.inner.signals side.peer ∧
        (after.backend.inner.ends side).breakAsserted = (port.backend.inner.ends side).breakAsserted ∧
        (after.backend.inner.ends side).lines =
          commandedBy (port.backend.inner.ends side).lines ⟨.setControlLines rts dtr, progress⟩ := by
  show Settles (Port.control (recording (backend side)) (recordCall .setControlLines (setControlLines side rts dtr)) _) port _
  refine settles_control (fun _ => ?_) fun _ => ?_
  · exact ⟨by simp, rfl, rfl, rfl⟩
  · simp only [setControlLines, ends_modify]
    exact ⟨by simp, by simp only [Pair.signals, edit_ends_peer], by simp only [edit_ends],
      by simp only [edit_ends, MockState.lines, commandedBy]⟩

variable (side answers port me cancelled) in
/-- A break that is sent is asserted from the first segment on, unless it is refused. One that
cannot be slept through is released again. -/
theorem sendBreak_spec (duration : Number) :
    Settles (Port.start (recording (backend side)) (recordingLoop answers.loop) me cancelled (.sendBreak duration)) port
      fun progress after => after.backend.inner.signals side.peer = port.backend.inner.signals side.peer ∧
        (after.backend.inner.ends side).lines = (port.backend.inner.ends side).lines ∧
        ((progress = .parked .breaking ∧ (after.backend.inner.ends side).breakAsserted = true) ∨
          (∃ exc, progress = .raised exc) ∧ (after.backend.inner = port.backend.inner ∨
            (port.guarded .sending = false ∧ (after.backend.inner.ends side).breakAsserted = false))) := by
  unfold Port.start Port.sendBreak
  dsimp only
  split
  · rw [settles_withGuard]
    refine ⟨fun _ => ⟨rfl, rfl, .inr ⟨⟨_, rfl⟩, .inl rfl⟩⟩, fun unheld => ?_⟩
    rw [settles_inGuard]
    unfold Settles Port.startBreak Port.releaseBreak
    rw [ends_bind, Port.ends_raiseIfClosed]
    refine ⟨fun _ => ⟨rfl, rfl, .inr ⟨⟨_, rfl⟩, .inl rfl⟩⟩, fun _ => ?_⟩
    simp only [ends_bind, Port.ends_ioctl, ends_tryCatch, Port.ends_beginSleep, ends_suppressOSError, Port.ends_onBackend,
      recording, backend, ends_recordCall, setBreak, ends_modify, ends_throw, ends_pure]
    obtain ⟨signals, lines, asserted⟩ := edit_break port.backend.inner side true
    refine ⟨fun _ => ⟨signals, lines, .inl ⟨rfl, asserted⟩⟩, fun _ => ?_⟩
    obtain ⟨again, still, released⟩ := edit_break
      (port.backend.inner.edit side fun state => { state with breakAsserted := true }) side false
    exact ⟨again.trans signals, still.trans lines, .inr ⟨⟨_, rfl⟩, .inr ⟨unheld, released⟩⟩⟩
  · exact ⟨rfl, rfl, .inr ⟨⟨_, rfl⟩, .inl rfl⟩⟩

variable (side answers port me) in
/-- However the sleep of a break ends, the line is released. -/
theorem endBreak_spec (wake : Wake) :
    Settles (Port.resume (recording (backend side)) (recordingLoop answers.loop) me wake .breaking) port
      fun progress after => (∀ frame, progress ≠ .parked frame) ∧
        after.backend.inner.signals side.peer = port.backend.inner.signals side.peer ∧
        (after.backend.inner.ends side).lines = (port.backend.inner.ends side).lines ∧
        (after.backend.inner.ends side).breakAsserted = false := by
  unfold Port.resume
  rw [settles_inGuard]
  unfold Settles Port.endBreak Port.releaseBreak
  simp only [ends_bind, ends_tryCatch, Port.ends_arrive, ends_suppressOSError, Port.ends_onBackend, recording, backend,
    ends_recordCall, setBreak, ends_modify, ends_throw, ends_pure]
  have released := edit_break port.backend.inner side false
  exact ⟨fun _ => ⟨by simp [Outcome.progress], released⟩, fun _ => ⟨by simp, released⟩, fun _ => ⟨by simp, released⟩⟩

end Segments

section Runs

variable {side : Side} {answers : Answers} {state next : State (Recorded Pair)} {label : Anyserial.Label} {sent : List Bytes}
  {tasks : List Task} {before after : MockState}

theorem Signalled.congr (signalled : Signalled tasks before) (same : after.signals = before.signals) :
    Signalled tasks after := by
  obtain ⟨lines, breaks⟩ := Prod.mk.inj same
  exact ⟨lines.trans signalled.lines, (Bool.eq_iff_iff.mp breaks).trans signalled.breaks⟩

theorem of_serves {call : Call} {frame : Frame} (serves : frame.Serves call) : frame.Of call := by
  cases frame with
  | receiving size fd =>
    obtain ⟨_, rfl, _⟩ := serves
    trivial
  | receivingInto size fd | awaitingInput limit fd | drainingExact | configuring config acquired =>
    cases serves
    trivial
  | receivingAvailable size fd =>
    obtain ⟨_, rfl, _⟩ := serves
    trivial
  | sending data offset fd =>
    obtain ⟨rfl, _⟩ := serves
    trivial
  | draining =>
    rcases serves with rfl | rfl
    · trivial
    · trivial
  | breaking =>
    obtain ⟨_, rfl⟩ := serves
    trivial

theorem parked_breaking_of {call : Call} (of : Frame.breaking.Of call) : ∃ duration, call = .sendBreak duration := by
  cases call with
  | sendBreak duration => exact ⟨duration, rfl⟩
  | _ => exact of.elim

/-- Nobody sleeps in a break while the send guard is free. -/
theorem unparked_of_unheld (orderly : Orderly sent state) (unheld : state.port.guarded .sending = false) {task : Task}
    (member : task ∈ state.tasks) : task.progress ≠ .parked .breaking := by
  intro parked
  obtain ⟨me, found⟩ := List.mem_iff_getElem?.mp member
  have held := (orderly.guarded .sending).mpr ⟨me, task, found, by rw [parked]; rfl⟩
  exact absurd (unheld.symm.trans held) (by decide)

theorem signalled_call {call : Call} {cancelled : Bool} {me : Nat} (orderly : Orderly sent state)
    (signalled : Signalled state.tasks (state.port.backend.inner.ends side)) :
    let settled := settle (Port.start (recording (backend side)) (recordingLoop answers.loop) me cancelled call state.port)
    Signalled (state.tasks ++ [⟨call, settled.1⟩]) (settled.2.backend.inner.ends side) ∧
      settled.2.backend.inner.signals side.peer = state.port.backend.inner.signals side.peer := by
  intro settled
  by_cases signalling : Signalling call
  · cases call with
    | setControlLines rts dtr =>
      obtain ⟨unparked, peer, breaks, lines⟩ := settles_iff.mp
        (setControlLines_spec side answers state.port rts dtr me cancelled)
      refine ⟨signalled.append lines ?_, peer⟩
      rw [breaks]
      exact ⟨.inl, fun asserted => asserted.resolve_right (unparked _)⟩
    | sendBreak duration =>
      obtain ⟨peer, lines, parked | ⟨⟨exc, raised⟩, line⟩⟩ := settles_iff.mp
        (sendBreak_spec side answers state.port me cancelled duration)
      · refine ⟨signalled.append (lines.trans (commandedBy_of_other (by simp) _).symm) ?_, peer⟩
        exact ⟨fun _ => .inr parked.1, fun _ => parked.2⟩
      · refine ⟨signalled.append (lines.trans (commandedBy_of_other (by simp) _).symm) ?_, peer⟩
        have unparked : settled.1 ≠ .parked .breaking := by
          intro parked
          cases raised.symm.trans parked
        rcases line with same | ⟨unheld, released⟩
        · rw [same]
          exact ⟨.inl, fun asserted => asserted.resolve_right unparked⟩
        · have idle : (state.port.backend.inner.ends side).breakAsserted ≠ true := by
            intro asserted
            obtain ⟨task, member, parked⟩ := signalled.breaks.mp asserted
            exact unparked_of_unheld orderly unheld member parked
          rw [released]
          simp [idle, unparked]
    | _ => exact signalling.elim
  · have same : settled.2.backend.inner.signals = state.port.backend.inner.signals := by
      have kept := related_settle (keeps_start (segmentMoves_muted side answers) onBackend_setGuard me cancelled call) state.port
      rwa [← start_muted signalling] at kept
    have other : ∀ rts dtr, call ≠ .setControlLines rts dtr := by
      intro rts dtr equal
      exact signalling (equal ▸ trivial)
    have parks := settles_iff.mp (parks_start (recording (backend side)) (recordingLoop answers.loop) me cancelled call state.port)
    obtain ⟨lines, breaks⟩ := Prod.mk.inj (congrFun same side)
    refine ⟨signalled.append (lines.trans (commandedBy_of_other other _).symm) ?_, congrFun same side.peer⟩
    rw [breaks]
    refine ⟨.inl, fun asserted => asserted.resolve_right fun parked => ?_⟩
    obtain ⟨duration, equal⟩ := parked_breaking_of (parks _ parked)
    exact signalling (equal ▸ trivial)

theorem signalled_wake {call : Call} {frame : Frame} {wake : Wake} {me : Nat} (orderly : Orderly sent state)
    (found : state.tasks[me]? = some ⟨call, .parked frame⟩)
    (signalled : Signalled state.tasks (state.port.backend.inner.ends side)) :
    let settled := settle (Port.resume (recording (backend side)) (recordingLoop answers.loop) me wake frame state.port)
    Signalled (state.tasks.set me ⟨call, settled.1⟩) (settled.2.backend.inner.ends side) ∧
      settled.2.backend.inner.signals side.peer = state.port.backend.inner.signals side.peer := by
  intro settled
  have inside : me < sent.length := orderly.length ▸ (List.getElem?_eq_some_iff.mp found).1
  have of : frame.Of call := of_serves ((orderly.sound me _ _ found (List.getElem?_eq_getElem inside)).serves frame rfl)
  have other : ∀ rts dtr, call ≠ .setControlLines rts dtr := by
    intro rts dtr equal
    subst equal
    cases frame <;> exact of
  have alone : ∀ (rival : Nat) (task : Task), state.tasks[rival]? = some task → task.progress = .parked .breaking →
      frame = .breaking → rival = me := by
    intro rival task foundRival parked mine
    refine orderly.exclusive .sending rival me task _ foundRival found ?_ ?_
    · rw [parked]
      rfl
    · rw [mine]
      rfl
  by_cases breaking : frame = .breaking
  · subst breaking
    obtain ⟨unparked, peer, lines, released⟩ := settles_iff.mp
      (endBreak_spec side answers state.port me wake)
    refine ⟨signalled.set found other alone lines ?_, peer⟩
    rw [released]
    simpa using unparked .breaking
  · have same : settled.2.backend.inner.signals = state.port.backend.inner.signals := by
      have kept := related_settle (keeps_resume (segmentMoves_muted side answers) onBackend_setGuard me wake frame) state.port
      rwa [← resume_muted breaking] at kept
    have parks := settles_iff.mp (parks_resume (recording (backend side)) (recordingLoop answers.loop) me wake of state.port)
    obtain ⟨lines, breaks⟩ := Prod.mk.inj (congrFun same side)
    refine ⟨signalled.set found other alone lines ?_, congrFun same side.peer⟩
    rw [breaks]
    refine ⟨fun asserted => .inr ⟨asserted, breaking⟩, fun asserted => (asserted.resolve_left fun parked => ?_).1⟩
    obtain ⟨duration, equal⟩ := parked_breaking_of (parks _ parked)
    subst equal
    cases frame with
    | breaking => exact breaking rfl
    | _ => exact of

/-- One turn of a task keeps the signals of its own end and touches none of the peer's. -/
theorem signalled_stepSide (orderly : Orderly sent state)
    (signalled : Signalled state.tasks (state.port.backend.inner.ends side))
    (stepped : stepSide side answers state label = some next) :
    Signalled next.tasks (next.port.backend.inner.ends side) ∧
      next.port.backend.inner.signals side.peer = state.port.backend.inner.signals side.peer := by
  rcases step_cases stepped with ⟨call, cancelled, rfl, rfl⟩ | ⟨me, wake, call, frame, rfl, found, _, rfl⟩ |
    ⟨acloseLabel, port, rfl, closed, rfl⟩
  · exact signalled_call orderly signalled
  · exact signalled_wake orderly found signalled
  · have same := sameSignals_acloseStep closed
    exact ⟨signalled.congr (congrFun same side), congrFun same side.peer⟩

/-- The tasks of both ports are in order, and both ends show the signals they asked for. -/
structure Signals (duplex : Duplex) : Prop where
  flowing : Flowing duplex
  signalled : ∀ side, Signalled (duplex.tasks side) (duplex.pair.ends side)

theorem signals_step {duplex after : Duplex} {label : Label} (signals : Signals duplex)
    (stepped : step duplex label = some after) : Signals after := by
  refine ⟨flowing_step signals.flowing stepped, fun other => ?_⟩
  cases label with
  | turn side answers label =>
    simp only [step, Option.bind_eq_bind, Option.pure_def] at stepped
    obtain ⟨next, taken, same⟩ := Option.bind_eq_some_iff.mp stepped
    cases same
    obtain ⟨sent, orderly⟩ := signals.flowing.orderly side
    have current : Signalled (duplex.view side).tasks (duplex.pair.ends side) := signals.signalled side
    obtain ⟨own, peer⟩ := signalled_stepSide (orderly_onPair orderly { duplex.pair with accepts := answers.accepts }) current taken
    rcases side_cases side other with rfl | rfl
    · simpa only [Duplex.tasks, Function.update_self] using own
    · have unmoved : Duplex.tasks ⟨next.port.backend.inner, Function.update duplex.sides side next⟩ side.peer =
          duplex.tasks side.peer := by
        simp only [Duplex.tasks, Function.update_of_ne side.peer_ne]
      rw [unmoved]
      exact (signals.signalled side.peer).congr peer
  | faults side plan =>
    cases stepped
    refine (signals.signalled other).congr ?_
    have same : SameSignals duplex.pair (duplex.pair.edit side fun state => state.setFaults plan) :=
      sameSignals_edit _ _ rfl
    exact congrFun same other

variable (fds : Side → Nat) (paths : Side → String) (configs : Side → Option SerialConfig)

theorem signals_serialPortPair : Signals (serialPortPair fds paths configs) := by
  refine ⟨flowing_serialPortPair fds paths configs, fun side => ?_⟩
  rw [opened_serialPortPair]
  exact ⟨rfl, by simp [Duplex.tasks, serialPortPair, State.opened]⟩

theorem modemLines_spec (port : Port (Recorded Pair)) (side : Side) (isOpen : port.closed = false) :
    Settles (Port.control (recording (backend side)) (recordCall .modemLines (modemLines side)) .lines) port
      fun progress _ => progress = .returned (.lines (observed (port.backend.inner.ends side.peer).lines)) := by
  refine settles_control (fun isClosed => absurd (isOpen.symm.trans isClosed) (by simp)) fun _ => ?_
  simp only [modemLines, ends_bind, ends_get, ends_pure]
  rfl

theorem tasks_modemLines {duplex after : Duplex} {cancelled : Bool} (isOpen : (duplex.sides side).port.closed = false)
    (stepped : step duplex (.turn side answers (.call .modemLines cancelled)) = some after) :
    after.tasks side = duplex.tasks side ++
      [⟨.modemLines, .returned (.lines (observed (duplex.pair.ends side.peer).lines))⟩] := by
  simp only [step, Option.bind_eq_bind, Option.pure_def] at stepped
  obtain ⟨next, taken, same⟩ := Option.bind_eq_some_iff.mp stepped
  cases same
  cases taken
  have settled := settles_iff.mp (modemLines_spec
    (onPair (duplex.sides side) { duplex.pair with accepts := answers.accepts }).port side isOpen)
  simp only [Duplex.tasks, Function.update_self]
  exact congrArg (fun progress => (duplex.sides side).tasks ++ [Task.mk .modemLines progress]) settled

/-- In every run of the two ports each end shows the lines last commanded through its own
port, its break is asserted exactly while a `send_break` of its port sleeps, and the peer's
`modem_lines` reports just these lines. -/
theorem pair_signals {labels : List Label} {final : Duplex}
    (ran : run step (serialPortPair fds paths configs) labels = some final) (side : Side) :
    Signalled (final.tasks side) (final.pair.ends side) ∧
      ∀ answers cancelled after, (final.sides side.peer).port.closed = false →
        step final (.turn side.peer answers (.call .modemLines cancelled)) = some after →
          after.tasks side.peer = final.tasks side.peer ++
            [⟨.modemLines, .returned (.lines (observed (commanded (final.tasks side))))⟩] := by
  have signals : Signals final := run_invariant Signals (signals_serialPortPair fds paths configs)
    (fun _ _ _ known stepped => signals_step known stepped) ran
  have signalled := signals.signalled side
  refine ⟨signalled, fun answers cancelled after isOpen stepped => ?_⟩
  rw [tasks_modemLines isOpen stepped, Side.peer_peer, signalled.lines]

/-- One end raises RTS, starts a break and is closed, while the other one looks at its lines. -/
def signallingRun : List Label :=
  [.turn .a accepting (.call (.setControlLines (some true) none) false),
    .turn .a accepting (.call (.sendBreak (.int 1)) false), .turn .b accepting (.call .modemLines false),
    .turn .a accepting (.aclose (.call false)), .turn .a accepting (.aclose (.resume 0))]

theorem pair_signals_of_run :
    ∃ final, run step defaultPair signallingRun = some final ∧ (final.pair.ends .a).lines = ⟨true, false⟩ ∧
      (final.pair.ends .a).breakAsserted = true ∧ Signalled (final.tasks .a) (final.pair.ends .a) := by
  have outcome : ((run step defaultPair signallingRun).any fun final =>
      (final.pair.ends .a).lines = ⟨true, false⟩ ∧ (final.pair.ends .a).breakAsserted = true) = true := by decide +kernel
  obtain ⟨final, ran, ended⟩ := (Option.any_eq_true _ _).mp outcome
  obtain ⟨lines, asserted⟩ := of_decide_eq_true ended
  exact ⟨final, ran, lines, asserted, (pair_signals _ _ _ ran .a).1⟩

end Runs

end Anyserial.Mock
