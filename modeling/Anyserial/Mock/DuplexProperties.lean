import Anyserial.Stream.IntegrityProperties
import Anyserial.Mock.BackendProperties
import Anyserial.Mock.Duplex

/-! What one port's sends accept is what the other one's receives return, in any run of the
two ports and under any plan of faults. -/
set_option autoImplicit false

namespace Anyserial.Mock

open Kit

variable {side : Side} {before middle after : Recorded Pair} {answers : Answers} {duplex : Duplex}

theorem Lossless.of_prefix (calls : before.calls <+: after.calls) (lossless : Lossless after) : Lossless before :=
  ⟨fun reset => lossless.1 (calls.subset reset), fun closed => lossless.2 (calls.subset closed)⟩

/-- What a port on one end does to both streams: all that it added to the peer's inbox was
accepted, and all that it removed from its own was delivered unless it was dropped. -/
structure Flow (side : Side) (before after : Recorded Pair) : Prop where
  calls : before.calls <+: after.calls
  moves : ∃ removed got added, Traffic side before.inner after.inner removed added ∧
    after.accepted = before.accepted ++ added ∧ after.delivered = before.delivered ++ got ∧
    got.Sublist removed ∧ (Lossless after → got = removed)

theorem flow_of_silent (calls : before.calls <+: after.calls) (silent : Silent side before.inner after.inner)
    (accepted : after.accepted = before.accepted) (delivered : after.delivered = before.delivered) :
    Flow side before after :=
  ⟨calls, [], [], [], silent, by simp [accepted], by simp [delivered], List.Sublist.refl [], fun _ => rfl⟩

instance : Std.Refl (Flow side) :=
  ⟨fun recorded => flow_of_silent (List.prefix_refl _) (.refl side recorded.inner) rfl rfl⟩

theorem Flow.trans (first : Flow side before middle) (second : Flow side middle after) : Flow side before after := by
  obtain ⟨removed, got, added, traffic, accepted, delivered, ordered, whole⟩ := first.moves
  obtain ⟨removed', got', added', traffic', accepted', delivered', ordered', whole'⟩ := second.moves
  refine ⟨first.calls.trans second.calls, removed ++ removed', got ++ got', added ++ added', traffic.trans traffic',
    ?_, ?_, ordered.append ordered', fun lossless => ?_⟩
  · rw [accepted', accepted, List.append_assoc]
  · rw [delivered', delivered, List.append_assoc]
  · rw [whole (lossless.of_prefix second.calls), whole' lossless]

instance : IsTrans (Recorded Pair) (Flow side) := ⟨fun _ _ _ => Flow.trans⟩

section Recording

variable {α : Type} {method : Method} {body : Py Pair α}

theorem flow_recordCall (silent : Keeps (Silent side) body) : Keeps (Flow side) (recordCall method body) := by
  intro recorded
  rw [ends_recordCall]
  exact (silent recorded.inner).mono (fun _ _ same => flow_of_silent (List.prefix_append _ _) same rfl rfl)
    fun _ _ same => flow_of_silent (List.prefix_append _ _) same rfl rfl

/-- A call that drops bytes gives the stream up as lossless. -/
theorem flow_recordCall_of_discards (discards : Keeps (Discards side) body)
    (lossy : method = .resetInputBuffer ∨ method = .close) : Keeps (Flow side) (recordCall method body) := by
  have flow : ∀ (recorded : Recorded Pair) (inner : Pair), Discards side recorded.inner inner →
      Flow side recorded { recorded with inner := inner, calls := recorded.calls ++ [method] } := by
    intro recorded inner dropped
    obtain ⟨removed, traffic⟩ := dropped
    refine ⟨List.prefix_append _ _, removed, [], [], traffic, by simp, by simp, List.nil_sublist _, fun lossless => ?_⟩
    obtain ⟨reset, closed⟩ := lossless
    rcases lossy with same | same
    · exact absurd (by simp [same]) reset
    · exact absurd (by simp [same]) closed
  intro recorded
  rw [ends_recordCall]
  exact (discards recorded.inner).mono (fun _ inner => flow recorded inner) fun _ inner => flow recorded inner

theorem flow_readNonblocking {buffer : ReadBuffer} :
    Keeps (Flow side) ((recording (backend side)).readNonblocking buffer) := by
  intro recorded
  simp only [recording, backend, ends_bind, ends_recordCall, ends_modify, ends_pure]
  refine ends_readNonblocking (fun bytes after _ traffic => ?_) fun exc after silent => ?_
  · exact ⟨List.prefix_append _ _, bytes, bytes, [], traffic, by simp, by simp, List.Sublist.refl bytes, fun _ => rfl⟩
  · exact flow_of_silent (List.prefix_append _ _) silent rfl rfl

theorem flow_writeNonblocking {data : Bytes} : Keeps (Flow side) ((recording (backend side)).writeNonblocking data) := by
  intro recorded
  simp only [recording, backend, ends_bind, ends_recordCall, ends_modify, ends_pure]
  refine ends_writeNonblocking (fun count after traffic _ => ?_) fun exc after silent => ?_
  · exact ⟨List.prefix_append _ _, [], [], data.take count, traffic, by simp, by simp, List.Sublist.refl [], fun _ => rfl⟩
  · exact flow_of_silent (List.prefix_append _ _) silent rfl rfl

end Recording

/-- A relation between the backends of a port before and after. -/
def OnBackend {σ : Type} (related : σ → σ → Prop) (before after : Port σ) : Prop := related before.backend after.backend

section OnBackend

variable {σ α : Type} {related : σ → σ → Prop}

instance [Std.Refl related] : Std.Refl (OnBackend related) := ⟨fun port => Std.Refl.refl port.backend⟩

instance [IsTrans σ related] : IsTrans (Port σ) (OnBackend related) :=
  ⟨fun before middle after => IsTrans.trans before.backend middle.backend after.backend⟩

theorem keeps_onBackend_of {body : Py σ α} (kept : Keeps related body) :
    Keeps (OnBackend related) (Port.onBackend body) := by
  intro port
  rw [Port.ends_onBackend]
  exact kept port.backend

theorem onBackend_setGuard [Std.Refl related] (port : Port σ) (direction : Direction) (held : Bool) :
    OnBackend related port (port.setGuard direction held) := by
  cases direction with
  | receiving => exact Std.Refl.refl port.backend
  | sending => exact Std.Refl.refl port.backend

end OnBackend

theorem silent_modemLines : Keeps (Silent side) (modemLines side) := Keeps.get.bind fun _ => .pure _

/-- Every move of a coroutine lets the bytes flow. -/
theorem segmentMoves_flow (side : Side) (answers : Answers) :
    SegmentMoves (recording (backend side)) (recordingLoop answers.loop) (OnBackend (Flow side)) where
  readNonblocking _ := keeps_onBackend_of flow_readNonblocking
  writeNonblocking _ := keeps_onBackend_of flow_writeNonblocking
  applied _ := keeps_onBackend_of (flow_recordCall (.modify fun _ => traffic_edit rfl))
  resetInputBuffer := keeps_onBackend_of (flow_recordCall_of_discards discards_resetInputBuffer (.inl rfl))
  resetOutputBuffer := keeps_onBackend_of (flow_recordCall (.pure ()))
  setBreak _ := keeps_onBackend_of (flow_recordCall (.modify fun _ => traffic_edit rfl))
  tcdrainBlocking := keeps_onBackend_of (flow_recordCall (.pure ()))
  modemLines := keeps_onBackend_of (flow_recordCall silent_modemLines)
  setControlLines _ _ := keeps_onBackend_of (flow_recordCall (.modify fun _ => traffic_edit rfl))
  inputWaiting := keeps_onBackend_of (flow_recordCall silent_inputWaiting)
  outputWaiting := keeps_onBackend_of (flow_recordCall (.pure 0))
  waitReadable _ := keeps_onBackend_of (flow_recordCall (.liftExcept _))
  waitWritable _ := keeps_onBackend_of (flow_recordCall (.liftExcept _))
  config port _ := Std.Refl.refl port.backend
  configureLock port _ := Std.Refl.refl port.backend

theorem flow_closeBackend :
    Keeps (OnBackend (Flow side)) (Port.closeBackend (recording (backend side)) (recordingLoop answers.loop)) := by
  have notified : Keeps (OnBackend (Flow side)) (Port.onBackend (recordCall .notifyClosing
      (liftExcept answers.registers : Py Pair Unit))) := keeps_onBackend_of (flow_recordCall (.liftExcept _))
  have closed : Keeps (OnBackend (Flow side)) (Port.onBackend (recordCall .close (close side))) :=
    keeps_onBackend_of (flow_recordCall_of_discards discards_close (.inr rfl))
  exact keeps_closeBackend (fun _ => notified) closed fun port _ => Std.Refl.refl port.backend

theorem flow_acloseStep {port moved : Port (Recorded Pair)} {label : AcloseLabel}
    (stepped : acloseStep (recording (backend side)) (recordingLoop answers.loop) port label = some moved) :
    Flow side port.backend moved.backend := by
  rcases acloseStep_cases stepped with ⟨_, teardown, _, _, rfl⟩ | ⟨me, teardown, _, _, rfl⟩
  · exact Std.Refl.refl port.backend
  · exact related_closeOnce flow_closeBackend port

/-- One turn of a task, on whatever it works. -/
theorem flow_stepSide {state next : State (Recorded Pair)} {label : Anyserial.Label}
    (stepped : stepSide side answers state label = some next) : Flow side state.port.backend next.port.backend := by
  have moves := segmentMoves_flow side answers
  rcases step_cases stepped with ⟨call, cancelled, rfl, rfl⟩ | ⟨me, wake, call, frame, rfl, found, _, rfl⟩ |
    ⟨acloseLabel, port, rfl, closed, rfl⟩
  · exact related_settle (keeps_start moves onBackend_setGuard _ cancelled call) state.port
  · exact related_settle (keeps_resume moves onBackend_setGuard me wake frame) state.port
  · exact flow_acloseStep closed

section Duplex

/-- The tasks of both ports are in order, and both streams convey what is put into them. -/
structure Flowing (duplex : Duplex) : Prop where
  orderly : ∀ side, ∃ sent, Orderly sent (duplex.sides side)
  conveys : ∀ sender : Side, Conveys (Lossless (duplex.recorded sender.peer)) (duplex.recorded sender).accepted
    (duplex.pair.inbox sender.peer) (duplex.recorded sender.peer).delivered

theorem orderly_onPair {sent : List Bytes} {state : State (Recorded Pair)} (orderly : Orderly sent state) (pair : Pair) :
    Orderly sent (onPair state pair) :=
  ⟨orderly.length, orderly.sound, orderly.guarded, orderly.exclusive, orderly.accepted, orderly.delivered,
    orderly.writing, orderly.reading⟩

theorem side_cases (side other : Side) : other = side ∨ other = side.peer := by
  cases side <;> cases other <;> simp [Side.peer]

@[simp] theorem recorded_update_self (duplex : Duplex) (pair : Pair) (side : Side) (state : State (Recorded Pair)) :
    Duplex.recorded ⟨pair, Function.update duplex.sides side state⟩ side = state.port.backend := by
  simp [Duplex.recorded]

@[simp] theorem recorded_update_peer (duplex : Duplex) (pair : Pair) (side : Side) (state : State (Recorded Pair)) :
    Duplex.recorded ⟨pair, Function.update duplex.sides side state⟩ side.peer = duplex.recorded side.peer := by
  simp [Duplex.recorded]

theorem Flowing.turn (flowing : Flowing duplex) {label : Anyserial.Label} {next : State (Recorded Pair)}
    (stepped : stepSide side answers (onPair (duplex.sides side) { duplex.pair with accepts := answers.accepts }) label =
      some next) : Flowing ⟨next.port.backend.inner, Function.update duplex.sides side next⟩ := by
  constructor
  · intro other
    rcases side_cases side other with rfl | rfl
    · obtain ⟨sent, orderly⟩ := flowing.orderly other
      simpa only [Function.update_self] using
        orderly_step (backend_honest other) ⟨sent, orderly_onPair orderly _⟩ stepped
    · simpa only [Function.update_of_ne side.peer_ne] using flowing.orderly side.peer
  · have flow := flow_stepSide stepped
    obtain ⟨removed, got, added, traffic, accepted, delivered, ordered, whole⟩ := flow.moves
    have own : duplex.pair.inbox side = removed ++ next.port.backend.inner.inbox side := traffic.own
    have peer : next.port.backend.inner.inbox side.peer = duplex.pair.inbox side.peer ++ added := traffic.peer
    intro sender
    rcases side_cases side sender with rfl | rfl
    · have put := (flowing.conveys sender).put added
      rw [recorded_update_self, recorded_update_peer, peer, accepted]
      exact put
    · have conveys := flowing.conveys side.peer
      rw [Side.peer_peer] at conveys ⊢
      rw [own] at conveys
      rw [recorded_update_self, recorded_update_peer, delivered]
      exact conveys.remove ordered (fun lossless => lossless.of_prefix flow.calls) whole

theorem flowing_faults (flowing : Flowing duplex) (side : Side) (plan : FaultPlan) :
    Flowing { duplex with pair := duplex.pair.edit side fun state => state.setFaults plan } := by
  have same : ∀ other, (duplex.pair.edit side fun state => state.setFaults plan).inbox other = duplex.pair.inbox other := by
    intro other
    rcases side_cases side other with rfl | rfl
    · simp [Pair.inbox, MockState.setFaults]
    · simp [Pair.inbox]
  refine ⟨flowing.orderly, fun sender => ?_⟩
  rw [same]
  exact flowing.conveys sender

theorem flowing_step {label : Label} {next : Duplex} (flowing : Flowing duplex) (stepped : step duplex label = some next) :
    Flowing next := by
  cases label with
  | turn side answers label =>
    simp only [step, Option.bind_eq_bind, Option.pure_def] at stepped
    obtain ⟨after, taken, same⟩ := Option.bind_eq_some_iff.mp stepped
    cases same
    exact flowing.turn taken
  | faults side plan =>
    cases stepped
    exact flowing_faults flowing side plan

/-- Both ends as `serial_port_pair` leaves them. -/
def Opened (fds : Side → Nat) (paths : Side → String) (configs : Side → Option SerialConfig) (pair : Pair) : Prop :=
  ∀ side, pair.ends side = ⟨⟨fds side, false, [], false⟩, paths side, true,
    some ((configs side).getD SerialConfig.defaults), false, false, .inactive, false⟩

variable (fds : Side → Nat) (paths : Side → String) (configs : Side → Option SerialConfig)

theorem openBoth_returns :
    Ends (openBoth paths configs) (.fresh fds paths) (fun _ pair => Opened fds paths configs pair) fun _ _ => False := by
  simp only [openBoth, openPort, ends_bind, ends_get, ends_ite, ends_throw, ends_set]
  refine ⟨by simp [Pair.fresh], fun _ => ⟨by simp [Pair.fresh, Pair.edit], fun _ side => ?_⟩⟩
  cases side <;> simp [Pair.fresh, Pair.edit]

theorem opened_serialPortPair : Opened fds paths configs (serialPortPair fds paths configs).pair := by
  have ends : Ends (openBoth paths configs) (.fresh fds paths) (fun _ pair => Opened fds paths configs pair)
      fun _ pair => Opened fds paths configs pair :=
    (openBoth_returns fds paths configs).mono (fun _ _ reached => reached) fun _ _ never => never.elim
  exact ends.finalState

theorem flowing_serialPortPair :
    Flowing (serialPortPair fds paths configs) := by
  refine ⟨fun side => ⟨[], orderly_opened _ _⟩, fun sender => ?_⟩
  have empty : (serialPortPair fds paths configs).pair.inbox sender.peer = [] := by
    rw [Pair.inbox, opened_serialPortPair]
  rw [empty]
  exact conveys_nil

theorem Flowing.endToEnd (flowing : Flowing duplex) (sender : Side) : EndToEnd duplex sender := by
  obtain ⟨sent, orderly⟩ := flowing.orderly sender
  obtain ⟨received, peer⟩ := flowing.orderly sender.peer
  refine ⟨sent, orderly.length, fun me task taken found entry => ?_, ?_⟩
  · have sound := orderly.sound me task taken found entry
    exact ⟨sound.taken, sound.whole⟩
  · have conveys := flowing.conveys sender
    have accepted : (duplex.recorded sender).accepted = sent.flatten := orderly.accepted
    have delivered : (duplex.recorded sender.peer).delivered = receivedBytes (duplex.tasks sender.peer) := peer.delivered
    rwa [accepted, delivered] at conveys

/-- In every run of the two ports, with any answers of the kernel and any faults injected
at any time, what one port's tasks send is what the other one's receive, in order. -/
theorem pair_conveys {labels : List Label} {final : Duplex} (ran : run step (serialPortPair fds paths configs) labels = some final) :
    ∀ sender, EndToEnd final sender := by
  have flowing : Flowing final := run_invariant Flowing (flowing_serialPortPair fds paths configs)
    (fun _ _ _ known stepped => flowing_step known stepped) ran
  exact flowing.endToEnd

/-- Nothing is refused, and a send may take sixteen bytes. -/
def accepting : Answers := { accepts := 16, registers := .ok () }

/-- A send in two writes of at most two bytes, the first of which is interrupted, and a
receive on the other side between them. -/
def crossedRun : List Label :=
  [.faults .a { FaultPlan.inactive with eintrWrites := 1, shortWriteMax := some 2 },
    .turn .a accepting (.call (.send [7, 8, 9]) false), .turn .a accepting (.wake 0 .ready),
    .turn .a accepting (.wake 0 .ready), .turn .b accepting (.call (.receive 16) false),
    .turn .b accepting (.wake 0 .ready), .turn .a accepting (.wake 0 .ready)]

def defaultPair : Duplex := serialPortPair (fun _ => 3) (fun _ => "/dev/mock") fun _ => none

theorem pair_conveys_crossed :
    ∃ final, run step defaultPair crossedRun = some final ∧ final.pair.inbox .b = [9] ∧
      receivedBytes (final.tasks .b) = [7, 8] ∧ ∀ sender, EndToEnd final sender := by
  have outcome : ((run step defaultPair crossedRun).any fun final =>
      final.pair.inbox .b = [9] ∧ receivedBytes (final.tasks .b) = [7, 8]) = true := by decide +kernel
  obtain ⟨final, ran, ended⟩ := (Option.any_eq_true _ _).mp outcome
  obtain ⟨inbox, received⟩ := of_decide_eq_true ended
  exact ⟨final, ran, inbox, received, pair_conveys _ _ _ ran⟩

end Duplex

end Anyserial.Mock
