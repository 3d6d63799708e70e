import Anyserial.Stream.Recording
import Anyserial.Stream.SegmentProperties
import Anyserial.Stream.TeardownProperties

/-! The descriptor that the parked calls wait on is the one that the close announces. -/
set_option autoImplicit false

namespace Anyserial

open Kit

variable {σ : Type} {backend : SyncSerialBackend σ} {loop : EventLoop σ} {port : Port σ} {state next : State σ}

/-- The descriptor of the backend, and on a closed port the one that was announced. -/
def Port.awaited (backend : SyncSerialBackend σ) (port : Port σ) : Option Int :=
  if port.closed then port.notified else some (backend.fileno port.backend)

structure Anchored (backend : SyncSerialBackend σ) (before after : Port σ) : Prop where
  fileno : backend.SameFileno before.backend after.backend
  notified : after.notified = before.notified
  teardown : after.teardown = before.teardown

instance : Std.Refl (Anchored backend) := ⟨fun _ => ⟨rfl, rfl, rfl⟩⟩

instance : IsTrans (Port σ) (Anchored backend) :=
  ⟨fun _ _ _ first second => ⟨Eq.trans second.fileno first.fileno, second.notified.trans first.notified,
    second.teardown.trans first.teardown⟩⟩

theorem Anchored.awaited {after : Port σ} (anchored : Anchored backend port after) : after.awaited backend = port.awaited backend := by
  unfold Port.awaited Port.closed
  rw [anchored.teardown, anchored.notified, anchored.fileno]

theorem anchored_setGuard (port : Port σ) (direction : Direction) (held : Bool) : Anchored backend port (port.setGuard direction held) := by
  cases direction <;> exact ⟨rfl, rfl, rfl⟩

theorem anchored_onBackend {α : Type} {body : Py σ α} (kept : Keeps backend.SameFileno body) :
    Keeps (Anchored backend) (Port.onBackend body) := by
  intro port
  rw [Port.ends_onBackend]
  exact (kept port.backend).mono (fun _ _ same => ⟨same, rfl, rfl⟩) fun _ _ same => ⟨same, rfl, rfl⟩

theorem segmentMoves_anchored (steady : backend.Steady) (notifies : loop.Notifies backend) :
    SegmentMoves backend loop (Anchored backend) where
  readNonblocking buffer := anchored_onBackend (steady.readNonblocking buffer)
  writeNonblocking data := anchored_onBackend (steady.writeNonblocking data)
  applied config := anchored_onBackend (steady.configure config)
  resetInputBuffer := anchored_onBackend steady.resetInputBuffer
  resetOutputBuffer := anchored_onBackend steady.resetOutputBuffer
  setBreak on := anchored_onBackend (steady.setBreak on)
  tcdrainBlocking := anchored_onBackend steady.tcdrainBlocking
  modemLines := anchored_onBackend steady.modemLines
  setControlLines rts dtr := anchored_onBackend (steady.setControlLines rts dtr)
  inputWaiting := anchored_onBackend steady.inputWaiting
  outputWaiting := anchored_onBackend steady.outputWaiting
  waitReadable fd := anchored_onBackend (notifies.waitReadable fd)
  waitWritable fd := anchored_onBackend (notifies.waitWritable fd)
  config _ _ := ⟨rfl, rfl, rfl⟩
  configureLock _ _ := ⟨rfl, rfl, rfl⟩

section Segments

/-- Where a call is parked on a descriptor, it is the one that the port has. -/
def WaitsHere (backend : SyncSerialBackend σ) (port : Port σ) (progress : Progress) : Prop :=
  ∀ frame fd, progress = .parked frame → frame.waitsOn = some fd → port.awaited backend = some fd

theorem waitsHere_raised (exc : PyExc) : WaitsHere backend port (.raised exc) := by
  intro frame fd never
  cases never

theorem waitsHere_fileno {frame : Frame} (isOpen : port.closed = false) (waits : frame.waitsOn = some (backend.fileno port.backend)) :
    WaitsHere backend port (.parked frame) := by
  intro other fd same there
  cases same
  rw [Port.awaited, isOpen]
  exact waits.symm.trans there

theorem waits_withGuard {direction : Direction} {body : Py (Port σ) Outcome}
    (waits : ∀ entered, Settles body entered fun progress _ => WaitsHere backend entered progress) :
    Settles (Port.withGuard direction body) port fun progress _ => WaitsHere backend port progress := by
  have entered : (port.setGuard direction true).awaited backend = port.awaited backend := (anchored_setGuard port direction true).awaited
  rw [settles_withGuard]
  refine ⟨fun _ => waitsHere_raised _, fun _ => ?_⟩
  rw [settles_inGuard]
  refine (waits _).mono fun progress _ here => ?_
  unfold WaitsHere at here ⊢
  rw [entered] at here
  cases progress with
  | parked frame => exact here
  | returned value => exact here
  | raised exc => exact here

theorem waits_filenoThenWait {allocate : Py (Port σ) Unit} {parked : Int → Frame}
    (allocates : ∀ port, Ends allocate port (fun _ after => after = port) fun _ _ => True) (waits : ∀ fd, (parked fd).waitsOn = some fd) :
    Settles (Port.filenoThenWait backend loop allocate parked) port fun progress _ => WaitsHere backend port progress := by
  unfold Settles
  simp only [Port.filenoThenWait, Port.waitReadable, ends_bind, Port.ends_raiseIfClosed, ends_get, Port.ends_onBackend, ends_pure]
  refine ⟨fun _ => waitsHere_raised _, fun isOpen => (allocates port).mono (fun _ after same => ?_) fun _ _ _ => waitsHere_raised _⟩
  subst same
  exact ends_of_forall (fun _ _ => waitsHere_fileno isOpen (waits _)) fun _ _ => waitsHere_raised _

variable (backend loop) in
/-- A call waits on the descriptor that the port has when it is made. -/
theorem waits_start (port : Port σ) (me : Nat) (cancelled : Bool) (call : Call) :
    Settles (Port.start backend loop me cancelled call) port fun progress _ => WaitsHere backend port progress := by
  have elsewhere (aside : ∀ frame : Frame, frame.Of call → frame.waitsOn = none) :
      Settles (Port.start backend loop me cancelled call) port fun progress _ => WaitsHere backend port progress := by
    refine (parks_start backend loop me cancelled call port).mono fun progress _ parked frame fd same waits => ?_
    cases (aside frame (parked frame same)).symm.trans waits
  have allocates (size : Int) (port : Port σ) : Ends (Port.bytearray loop size) port (fun _ after => after = port) fun _ _ => True := by
    rw [Port.ends_bytearray]
    exact ⟨fun _ => trivial, fun _ => ⟨fun _ => rfl, fun _ => trivial⟩⟩
  cases call with
  | receive maxBytes =>
    unfold Port.start Port.receive
    dsimp only
    split
    · exact waitsHere_raised _
    · exact waits_withGuard fun _ => waits_filenoThenWait (allocates maxBytes) fun _ => rfl
  | receiveInto buffer =>
    unfold Port.start Port.receiveInto
    dsimp only
    split
    · exact waitsHere_raised _
    split
    · exact waitsHere_raised _
    · exact waits_withGuard fun _ => waits_filenoThenWait (fun _ => rfl) fun _ => rfl
  | receiveAvailable limit => exact waits_withGuard fun _ => waits_filenoThenWait (fun _ => rfl) fun _ => rfl
  | send data =>
    unfold Port.start Port.send
    dsimp only
    split
    · unfold Settles
      simp only [ends_bind, Port.ends_raiseIfClosed, ends_pure]
      refine ⟨fun _ => waitsHere_raised _, fun _ frame fd never => ?_⟩
      cases never
    · refine waits_withGuard fun entered => ?_
      unfold Settles
      simp only [Port.waitWritable, ends_bind, Port.ends_raiseIfClosed, ends_get, Port.ends_onBackend, ends_pure]
      refine ⟨fun _ => waitsHere_raised _, fun isOpen => ?_⟩
      exact ends_of_forall (fun _ _ => waitsHere_fileno isOpen rfl) fun _ _ => waitsHere_raised _
  | sendEof | drain | drainExact | sendBreak | configure | resetInputBuffer | resetOutputBuffer | modemLines | setControlLines
  | inputWaiting | outputWaiting =>
    refine elsewhere fun frame of => ?_
    cases frame <;> first | rfl | exact of.elim

variable (backend loop) in
/-- A call that goes on waits on the descriptor that it waited on. -/
theorem parks_waitsOn (me : Nat) (wake : Wake) (frame : Frame) :
    Parks (fun next => next.waitsOn = frame.waitsOn) (Port.resume backend loop me wake frame) := by
  refine parks_onward backend loop me wake rfl (fun limit fd size same => ?_) fun data offset fd position same => ?_
  · rw [same]
    rfl
  · rw [same]
    rfl

/-- The close announces the descriptor of the backend. -/
theorem notified_closeBackend (notifies : loop.Notifies backend) (port : Port σ) :
    Ends (Port.closeBackend backend loop) port (fun _ after => after.notified = some (backend.fileno port.backend))
      fun _ after => after.notified = some (backend.fileno port.backend) := by
  simp only [Port.closeBackend, Port.notifyClosing, ends_bind, ends_get, ends_tryCatch, Port.ends_onBackend, ends_modify]
  refine (notifies.notifyClosing _ _).mono (fun _ _ _ => ?_) fun _ _ never => never.elim
  exact ends_of_forall (fun _ _ => trivial) fun _ _ => trivial

end Segments

section Steps

/-- Whoever is parked on a descriptor waits on that of the port. -/
def WaitingHere (backend : SyncSerialBackend σ) (state : State σ) : Prop :=
  ∀ (me : Nat) task, state.tasks[me]? = some task → WaitsHere backend state.port task.progress

theorem waitsHere_moved {after : Port σ} {progress : Progress} (same : after.awaited backend = port.awaited backend)
    (here : WaitsHere backend port progress) : WaitsHere backend after progress :=
  fun frame fd parked waits => same.trans (here frame fd parked waits)

theorem awaited_acloseStep (notifies : loop.Notifies backend) {label : AcloseLabel} {after : Port σ}
    (stepped : acloseStep backend loop port label = some after) : after.awaited backend = port.awaited backend := by
  rcases acloseStep_cases stepped with ⟨label, teardown, other, taken, rfl⟩ | ⟨me, teardown, _, taken, rfl⟩
  · have same : teardown.closed = port.teardown.closed := (Teardown.closed_of_step taken).1 other
    unfold Port.awaited Port.closed
    rw [same]
  · have isClosed : teardown.closed = true := (Teardown.closed_of_step taken).2 ⟨me, _, rfl⟩
    have after : Port.awaited backend { (closeOnce backend loop port).2 with teardown := teardown } =
        (closeOnce backend loop port).2.notified := if_pos isClosed
    rw [after]
    cases already : port.closed with
    | true => rw [closeOnce_of_closed already, Port.awaited, if_pos already]
    | false =>
      rw [closeOnce_of_open already, Port.awaited, already, if_neg (by decide)]
      exact (notified_closeBackend notifies port).finalState

theorem waitingHere_step (steady : backend.Steady) (notifies : loop.Notifies backend) {label : Label} (waiting : WaitingHere backend state)
    (stepped : step backend loop state label = some next) : WaitingHere backend next := by
  have moves : SegmentMoves backend loop (Anchored backend) := segmentMoves_anchored steady notifies
  obtain ⟨call, cancelled, _, rfl⟩ | ⟨me, wake, call, frame, _, found, _, rfl⟩ | ⟨aclose, port, _, closed, rfl⟩ := step_cases stepped
  · have kept := related_settle (keeps_start moves anchored_setGuard state.tasks.length cancelled call) state.port
    intro other task there
    refine waitsHere_moved kept.awaited ?_
    rcases getElem?_concat_iff.mp there with earlier | ⟨_, rfl⟩
    · exact waiting other task earlier
    · exact settles_iff.mp (waits_start backend loop state.port state.tasks.length cancelled call)
  · have kept := related_settle (keeps_resume moves anchored_setGuard me wake frame) state.port
    intro other task there
    refine waitsHere_moved kept.awaited ?_
    by_cases mine : me = other
    · subst mine
      rw [List.getElem?_set_self (List.getElem?_eq_some_iff.mp found).1] at there
      obtain rfl := Option.some.inj there
      intro next fd parked waits
      have same := settles_iff.mp (parks_waitsOn backend loop me wake frame state.port) next parked
      exact waiting me _ found frame fd rfl (same.symm.trans waits)
    · rw [List.getElem?_set_ne mine] at there
      exact waiting other task there
  · exact fun other task there => waitsHere_moved (awaited_acloseStep notifies closed) (waiting other task there)

theorem waitingHere_of_run (steady : backend.Steady) (notifies : loop.Notifies backend) {initial : σ} {config : SerialConfig}
    {labels : List Label} (ran : run (step backend loop) (.opened initial config) labels = some state) : WaitingHere backend state := by
  refine run_invariant (WaitingHere backend) (fun me task found => ?_) (fun _ _ _ waiting stepped =>
    waitingHere_step steady notifies waiting stepped) ran
  cases found

/-- The close of the port has woken a call that waits on its descriptor. -/
theorem admits_closing {frame : Frame} {call : Call} {fd : Int} {me : Nat} (waiting : WaitingHere backend state)
    (isClosed : state.port.closed = true) (found : state.tasks[me]? = some ⟨call, .parked frame⟩) (waits : frame.waitsOn = some fd) :
    frame.admits state.port me .closing = true := by
  have told : state.port.notified = frame.waitsOn := by
    have here := waiting me _ found frame fd rfl waits
    rw [Port.awaited, if_pos isClosed] at here
    exact here.trans waits.symm
  cases frame <;> first | exact decide_eq_true told | cases waits

end Steps

end Anyserial
