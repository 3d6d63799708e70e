import Anyserial.Stream.PortProperties
import Anyserial.Stream.Integrity

/-! What any segment of a coroutine keeps when each of its moves keeps it, and where
a coroutine may be parked. Nothing here depends on what the backend answers. -/
set_option autoImplicit false

namespace Anyserial

open Kit

variable {σ α : Type} {backend : SyncSerialBackend σ} {loop : EventLoop σ} {port : Port σ}

/-- The moves of a coroutine on its port, other than those of the guards and of a
reconfiguration. The only other method of the backend that is missing is `close`. -/
structure CallMoves (backend : SyncSerialBackend σ) (loop : EventLoop σ) (related : Port σ → Port σ → Prop) : Prop where
  readNonblocking : ∀ buffer, Keeps related (Port.onBackend (backend.readNonblocking buffer))
  writeNonblocking : ∀ data, Keeps related (Port.onBackend (backend.writeNonblocking data))
  resetInputBuffer : Keeps related (Port.onBackend backend.resetInputBuffer)
  resetOutputBuffer : Keeps related (Port.onBackend backend.resetOutputBuffer)
  setBreak : ∀ on, Keeps related (Port.onBackend (backend.setBreak on))
  tcdrainBlocking : Keeps related (Port.onBackend backend.tcdrainBlocking)
  modemLines : Keeps related (Port.onBackend backend.modemLines)
  setControlLines : ∀ rts dtr, Keeps related (Port.onBackend (backend.setControlLines rts dtr))
  inputWaiting : Keeps related (Port.onBackend backend.inputWaiting)
  outputWaiting : Keeps related (Port.onBackend backend.outputWaiting)
  waitReadable : ∀ fd, Keeps related (Port.onBackend (loop.waitReadable fd))
  waitWritable : ∀ fd, Keeps related (Port.onBackend (loop.waitWritable fd))

/-- The moves of any coroutine on its port, other than those of the guards. -/
structure SegmentMoves (backend : SyncSerialBackend σ) (loop : EventLoop σ) (related : Port σ → Port σ → Prop) : Prop
    extends CallMoves backend loop related where
  applied : ∀ config, Keeps related (Port.onBackend (backend.configure config))
  config : ∀ port config, related port { port with config := config }
  configureLock : ∀ port lock, related port { port with configureLock := lock }

section Keeps

variable {related : Port σ → Port σ → Prop} [Std.Refl related]

theorem keeps_arrive {wake : Wake} : Keeps related (arrive wake : Py (Port σ) Unit) := by
  cases wake with
  | ready => exact .pure ()
  | closing => exact .throw _
  | cancelled => exact .throw _

variable [IsTrans (Port σ) related]

theorem keeps_bytearray {size : Int} : Keeps related (Port.bytearray loop size) :=
  Keeps.get.bind fun _ => .ite (fun _ => .throw _) fun _ => .ite (fun _ => .pure ()) fun _ => .throw _

theorem keeps_beginSleep {duration : Number} : Keeps related (Port.beginSleep loop duration) :=
  Keeps.get.bind fun _ => .ite (fun _ => .pure ()) fun _ => .throw _

theorem keeps_raiseIfClosed : Keeps related (Port.raiseIfClosed backend) :=
  .bind .get fun _ => .ite (fun _ => .throw _) fun _ => .pure ()

theorem keeps_raiseTranslated {context : Context} {exc : PyExc} :
    Keeps related (Port.raiseTranslated backend context exc : Py (Port σ) α) :=
  .bind .get fun _ => .throw _

theorem keeps_ioctl {body : Py σ α} (kept : Keeps related (Port.onBackend body)) :
    Keeps related (Port.ioctl backend body) :=
  keeps_exceptOSError kept fun _ => keeps_raiseTranslated

theorem keeps_transfer {body : Py σ α} (kept : Keeps related (Port.onBackend body)) :
    Keeps related (Port.transfer backend body) :=
  (kept.map some).tryCatch fun _ => .ite (fun _ => .pure none) fun _ =>
    .ite (fun _ => keeps_raiseTranslated) fun _ => .throw _

theorem keeps_control {body : Py σ α} {value : α → Value} (kept : Keeps related (Port.onBackend body)) :
    Keeps related (Port.control backend body value) :=
  keeps_raiseIfClosed.bind fun _ => (keeps_ioctl kept).bind fun _ => .pure _

theorem keeps_waiting {body : Py σ Int} (kept : Keeps related (Port.onBackend body)) :
    Keeps related (Port.waiting backend body) :=
  keeps_raiseIfClosed.bind fun _ => kept.bind fun _ => .pure _

theorem keeps_awake {wake : Wake} {body : Py (Port σ) Outcome} (kept : Keeps related body) :
    Keeps related (Port.awake backend wake body) :=
  keeps_arrive.bind fun _ => keeps_raiseIfClosed.bind fun _ => kept

/-- What the teardown keeps, and what is left of it on a port that is closed already. -/
theorem keeps_closeBackend (notifies : ∀ fd, Keeps related (Port.onBackend (loop.notifyClosing fd)))
    (closes : Keeps related (Port.onBackend backend.close)) (notified : ∀ port fd, related port { port with notified := fd }) :
    Keeps related (Port.closeBackend backend loop) := by
  have told (fd : Int) : Keeps related (Port.notifyClosing loop fd) := (notifies fd).bind fun _ => .modify fun port => notified port _
  refine Keeps.get.bind fun port => Keeps.bind ((told _).tryCatch fun exc => ?_) fun _ => closes
  split
  · exact .pure ()
  · exact .ite (fun _ => .pure ()) fun _ => .throw _

omit [IsTrans (Port σ) related] in
theorem related_closeOnce (kept : Keeps related (Port.closeBackend backend loop)) (port : Port σ) :
    related port (closeOnce backend loop port).2 := by
  cases isClosed : port.closed with
  | true =>
    rw [closeOnce_of_closed isClosed]
    exact Std.Refl.refl port
  | false =>
    rw [closeOnce_of_open isClosed]
    exact (kept port).finalState

section Guards

variable (guard : ∀ port direction held, related port (port.setGuard direction held)) {direction : Direction}
  {body : Py (Port σ) Outcome}

include guard

theorem keeps_inGuard (kept : Keeps related body) : Keeps related (Port.inGuard direction body) := by
  have released : Keeps related (Port.exitGuard direction) := .modify fun port => guard port direction false
  refine .bind (kept.tryCatch fun exc => released.bind fun _ => .throw _) fun outcome => ?_
  cases outcome with
  | suspended frame => exact .pure _
  | returned value => exact released.bind fun _ => .pure _

theorem keeps_withGuard (kept : Keeps related body) : Keeps related (Port.withGuard direction body) := by
  refine .bind (fun port => ?_) fun _ => keeps_inGuard guard kept
  rw [Port.ends_enterGuard]
  exact ⟨fun _ => Std.Refl.refl port, fun _ => guard port direction true⟩

end Guards

section Calls

variable (moves : CallMoves backend loop related)

include moves

theorem keeps_waitReadable {fd : Int} {frame : Frame} : Keeps related (Port.waitReadable loop fd frame) :=
  (moves.waitReadable fd).bind fun _ => .pure _

theorem keeps_waitWritable {fd : Int} {frame : Frame} : Keeps related (Port.waitWritable loop fd frame) :=
  (moves.waitWritable fd).bind fun _ => .pure _

theorem keeps_read {buffer : ReadBuffer} {fd : Int} {frame : Frame} {value : Bytes → Value} :
    Keeps related (Port.read backend loop buffer fd frame value) := by
  refine (keeps_transfer (moves.readNonblocking buffer)).bind fun result => ?_
  match result with
  | none => exact keeps_waitReadable moves
  | some [] => exact .bind .get fun _ => .throw _
  | some (_ :: _) => exact .pure _

theorem keeps_filenoThenWait {allocate : Py (Port σ) Unit} {frame : Int → Frame} (kept : Keeps related allocate) :
    Keeps related (Port.filenoThenWait backend loop allocate frame) :=
  keeps_raiseIfClosed.bind fun _ => kept.bind fun _ => Keeps.get.bind fun _ => keeps_waitReadable moves

theorem keeps_readAvailable {limit : Option Int} {fd : Int} :
    Keeps related (Port.readAvailable backend loop limit fd) :=
  moves.inputWaiting.bind fun _ => Keeps.get.bind fun _ => .ite (fun _ => .pure _) fun _ =>
    keeps_bytearray.bind fun _ => keeps_read moves

theorem keeps_sendBody {data : Bytes} :
    Keeps related (do
      Port.raiseIfClosed backend
      let port ← get
      Port.waitWritable loop (backend.fileno port.backend) (.sending data 0 (backend.fileno port.backend))) :=
  keeps_raiseIfClosed.bind fun _ => Keeps.get.bind fun _ => keeps_waitWritable moves

theorem keeps_write {data : Bytes} {offset : Nat} {fd : Int} :
    Keeps related (Port.write backend loop data offset fd) := by
  refine (keeps_transfer (moves.writeNonblocking _)).bind fun written => ?_
  cases written with
  | none => exact keeps_waitWritable moves
  | some count =>
    exact .ite (fun _ => keeps_waitWritable moves) fun _ => .ite (fun _ => keeps_waitWritable moves) fun _ => .pure _

theorem keeps_pollOutput : Keeps related (Port.pollOutput backend) :=
  keeps_raiseIfClosed.bind fun _ => (keeps_ioctl moves.outputWaiting).bind fun _ =>
    .ite (fun _ => .pure _) fun _ => .pure _

theorem keeps_releaseBreak : Keeps related (Port.releaseBreak backend) := keeps_suppressOSError (moves.setBreak false)

theorem keeps_startBreak {duration : Number} : Keeps related (Port.startBreak backend loop duration) :=
  keeps_raiseIfClosed.bind fun _ => (keeps_ioctl (moves.setBreak true)).bind fun _ =>
    .bind (keeps_beginSleep.tryCatch fun _ => (keeps_releaseBreak moves).bind fun _ => .throw _) fun _ => .pure _

theorem keeps_endBreak {wake : Wake} : Keeps related (Port.endBreak backend wake) :=
  .bind (keeps_arrive.tryCatch fun _ => (keeps_releaseBreak moves).bind fun _ => .throw _) fun _ =>
    (keeps_releaseBreak moves).bind fun _ => .pure _

variable (guard : ∀ port direction held, related port (port.setGuard direction held))

include guard

theorem keeps_drain : Keeps related (Port.drain backend) :=
  keeps_withGuard guard (keeps_raiseIfClosed.bind fun _ => keeps_pollOutput moves)

theorem keeps_start_of_other (me : Nat) (cancelled : Bool) {call : Call} (other : ∀ config, call ≠ .configure config) :
    Keeps related (Port.start backend loop me cancelled call) := by
  cases call with
  | receive maxBytes =>
    exact .ite (fun _ => .throw _) fun _ => keeps_withGuard guard (keeps_filenoThenWait moves keeps_bytearray)
  | receiveInto buffer =>
    refine .ite (fun _ => .throw _) fun _ => .ite (fun _ => .throw _) fun _ => ?_
    exact keeps_withGuard guard (keeps_filenoThenWait moves (.pure ()))
  | receiveAvailable limit => exact keeps_withGuard guard (keeps_filenoThenWait moves (.pure ()))
  | send data =>
    exact .ite (fun _ => keeps_raiseIfClosed.bind fun _ => .pure _) fun _ => keeps_withGuard guard (keeps_sendBody moves)
  | sendEof => exact .bind .get fun _ => .ite (fun _ => .pure _) fun _ => keeps_drain moves guard
  | configure config => exact absurd rfl (other config)
  | resetInputBuffer => exact keeps_control moves.resetInputBuffer
  | resetOutputBuffer => exact keeps_control moves.resetOutputBuffer
  | drain => exact keeps_drain moves guard
  | drainExact => exact keeps_withGuard guard (keeps_raiseIfClosed.bind fun _ => .pure _)
  | sendBreak duration =>
    exact .ite (fun _ => keeps_withGuard guard (keeps_startBreak moves)) fun _ => .throw _
  | modemLines => exact keeps_control moves.modemLines
  | setControlLines rts dtr => exact keeps_control (moves.setControlLines rts dtr)
  | inputWaiting => exact keeps_waiting moves.inputWaiting
  | outputWaiting => exact keeps_waiting moves.outputWaiting

theorem keeps_resume_of_other (me : Nat) (wake : Wake) {frame : Frame}
    (other : ∀ config acquired, frame ≠ .configuring config acquired) :
    Keeps related (Port.resume backend loop me wake frame) := by
  cases frame with
  | receiving size fd | receivingInto buffer fd | receivingAvailable size fd =>
    exact keeps_inGuard guard (keeps_awake (keeps_read moves))
  | awaitingInput limit fd => exact keeps_inGuard guard (keeps_awake (keeps_readAvailable moves))
  | sending data offset fd => exact keeps_inGuard guard (keeps_awake (keeps_write moves))
  | draining => exact keeps_inGuard guard (keeps_arrive.bind fun _ => keeps_pollOutput moves)
  | drainingExact =>
    exact keeps_inGuard guard (keeps_arrive.bind fun _ => moves.tcdrainBlocking.bind fun _ => .pure _)
  | breaking => exact keeps_inGuard guard (keeps_endBreak moves)
  | configuring config acquired => exact absurd rfl (other config acquired)

end Calls

section Segments

variable (moves : SegmentMoves backend loop related)

include moves

theorem keeps_applyConfig {config : SerialConfig} : Keeps related (Port.applyConfig backend config) :=
  keeps_raiseIfClosed.bind fun _ => (keeps_ioctl (moves.applied config)).bind fun _ =>
    .modify fun port => moves.config port config

theorem keeps_configure {me : Nat} {wake : Wake} {config : SerialConfig} :
    Keeps related (Port.configure backend me wake config) := by
  have released : Keeps related (Port.releaseConfigure me) := .modify fun port => moves.configureLock port _
  exact .bind ((keeps_arrive.bind fun _ => keeps_applyConfig moves).tryCatch fun _ => released.bind fun _ => .throw _)
    fun _ => released.bind fun _ => .pure _

omit [IsTrans (Port σ) related] in
theorem keeps_acquireConfigure {me : Nat} {cancelled : Bool} {config : SerialConfig} :
    Keeps related (Port.acquireConfigure me cancelled config : Py (Port σ) Outcome) := by
  intro port
  simp only [Port.acquireConfigure, ends_bind, ends_get, ends_ite, ends_throw, ends_set, ends_pure]
  exact ⟨fun _ => Std.Refl.refl port, fun _ => moves.configureLock port _⟩

variable (guard : ∀ port direction held, related port (port.setGuard direction held))

include guard

theorem keeps_start (me : Nat) (cancelled : Bool) (call : Call) :
    Keeps related (Port.start backend loop me cancelled call) := by
  by_cases configures : ∃ config, call = .configure config
  · obtain ⟨config, rfl⟩ := configures
    exact keeps_acquireConfigure moves
  · exact keeps_start_of_other moves.toCallMoves guard me cancelled (not_exists.mp configures)

theorem keeps_resume (me : Nat) (wake : Wake) (frame : Frame) :
    Keeps related (Port.resume backend loop me wake frame) := by
  by_cases configures : ∃ config acquired, frame = .configuring config acquired
  · obtain ⟨config, acquired, rfl⟩ := configures
    exact keeps_configure moves
  · exact keeps_resume_of_other moves.toCallMoves guard me wake fun config acquired same => configures ⟨config, acquired, same⟩

end Segments

end Keeps

/-- The places where a call may be parked. -/
def Frame.Of : Call → Frame → Prop
  | .receive _, .receiving _ _ | .receiveInto _, .receivingInto _ _ | .receiveAvailable _, .awaitingInput _ _
  | .receiveAvailable _, .receivingAvailable _ _ | .send _, .sending _ _ _ | .drain, .draining | .sendEof, .draining
  | .drainExact, .drainingExact | .sendBreak _, .breaking | .configure _, .configuring _ _ => True
  | _, _ => False

/-- The guard that a call is parked behind. -/
def Call.direction : Call → Option Direction
  | .receive _ | .receiveInto _ | .receiveAvailable _ => some .receiving
  | .send _ | .sendEof | .drain | .drainExact | .sendBreak _ => some .sending
  | _ => none

theorem Frame.Of.direction {call : Call} {frame : Frame} (of : frame.Of call) : frame.direction = call.direction := by
  cases call <;> cases frame <;> first | rfl | exact of.elim

/-- However the segment goes, it is parked only where `good` says. -/
def Parks (good : Frame → Prop) (body : Py (Port σ) Outcome) : Prop :=
  ∀ port, Settles body port fun progress _ => ∀ frame, progress = .parked frame → good frame

namespace Parks

variable {good : Frame → Prop} {body : Py (Port σ) Outcome}

theorem bind {x : Py (Port σ) α} {next : α → Py (Port σ) Outcome} (rest : ∀ value, Parks good (next value)) :
    Parks good (x >>= next) := by
  intro port
  unfold Settles
  rw [ends_bind]
  refine ends_iff.mpr ⟨fun value after _ => rest value after, fun exc _ _ frame never => ?_⟩
  cases never

theorem returned (value : Value) : Parks good (pure (.returned value) : Py (Port σ) Outcome) := by
  intro port frame never
  cases never

theorem suspended {frame : Frame} (parked : good frame) : Parks good (pure (.suspended frame) : Py (Port σ) Outcome) := by
  intro port other same
  cases same
  exact parked

theorem throw (exc : PyExc) : Parks good (throw exc : Py (Port σ) Outcome) := by
  intro port frame never
  cases never

theorem ite {condition : Prop} [Decidable condition] {x y : Py (Port σ) Outcome} (onTrue : condition → Parks good x)
    (onFalse : ¬condition → Parks good y) : Parks good (if condition then x else y) := by
  intro port
  unfold Settles
  rw [ends_ite]
  exact ⟨fun holds => onTrue holds port, fun fails => onFalse fails port⟩

theorem inGuard {direction : Direction} (parks : Parks good body) : Parks good (Port.inGuard direction body) := by
  intro port
  rw [settles_inGuard]
  refine (parks port).mono fun progress after within => ?_
  cases progress with
  | parked frame => exact within
  | returned value => exact within
  | raised exc => exact within

theorem withGuard {direction : Direction} (parks : Parks good body) : Parks good (Port.withGuard direction body) :=
  .bind fun _ => parks.inGuard

theorem waitReadable {fd : Int} {frame : Frame} (parked : good frame) : Parks good (Port.waitReadable loop fd frame) :=
  .bind fun _ => .suspended parked

theorem waitWritable {fd : Int} {frame : Frame} (parked : good frame) : Parks good (Port.waitWritable loop fd frame) :=
  .bind fun _ => .suspended parked

theorem read {buffer : ReadBuffer} {fd : Int} {frame : Frame} {value : Bytes → Value} (parked : good frame) :
    Parks good (Port.read backend loop buffer fd frame value) := by
  refine .bind fun result => ?_
  match result with
  | none => exact .waitReadable parked
  | some [] => exact .bind fun _ => .throw _
  | some (_ :: _) => exact .returned _

theorem filenoThenWait {allocate : Py (Port σ) Unit} {frame : Int → Frame} (parked : ∀ fd, good (frame fd)) :
    Parks good (Port.filenoThenWait backend loop allocate frame) :=
  .bind fun _ => .bind fun _ => .bind fun _ => .waitReadable (parked _)

theorem pollOutput (parked : good .draining) : Parks good (Port.pollOutput backend) :=
  .bind fun _ => .bind fun _ => .ite (fun _ => .returned _) fun _ => .suspended parked

theorem control {body : Py σ α} {value : α → Value} : Parks good (Port.control backend body value) :=
  .bind fun _ => .bind fun _ => .returned _

theorem waiting {body : Py σ Int} : Parks good (Port.waiting backend body) :=
  .bind fun _ => .bind fun _ => .returned _

theorem awake {wake : Wake} (parks : Parks good body) : Parks good (Port.awake backend wake body) :=
  .bind fun _ => .bind fun _ => parks

end Parks

variable (backend loop) in
theorem parks_start (me : Nat) (cancelled : Bool) (call : Call) :
    Parks (Frame.Of call) (Port.start backend loop me cancelled call) := by
  cases call with
  | receive maxBytes => exact .ite (fun _ => .throw _) fun _ => .withGuard (.filenoThenWait fun _ => trivial)
  | receiveInto buffer =>
    exact .ite (fun _ => .throw _) fun _ => .ite (fun _ => .throw _) fun _ => .withGuard (.filenoThenWait fun _ => trivial)
  | receiveAvailable limit => exact .withGuard (.filenoThenWait fun _ => trivial)
  | send data =>
    refine .ite (fun _ => .bind fun _ => .returned _) fun _ => .withGuard ?_
    exact .bind fun _ => .bind fun _ => .waitWritable trivial
  | sendEof =>
    exact .bind fun _ => .ite (fun _ => .returned _) fun _ => .withGuard (.bind fun _ => .pollOutput trivial)
  | configure config =>
    exact .bind fun _ => .ite (fun _ => .throw _) fun _ => .bind fun _ => .suspended trivial
  | drain => exact .withGuard (.bind fun _ => .pollOutput trivial)
  | drainExact => exact .withGuard (.bind fun _ => .suspended trivial)
  | sendBreak duration =>
    exact .ite (fun _ => .withGuard (.bind fun _ => .bind fun _ => .bind fun _ => .suspended trivial)) fun _ => .throw _
  | resetInputBuffer | resetOutputBuffer | modemLines | setControlLines rts dtr => exact .control
  | inputWaiting | outputWaiting => exact .waiting

variable (backend loop) in
/-- A call is parked again where it was, or one place further on. -/
theorem parks_onward (me : Nat) (wake : Wake) {good : Frame → Prop} {frame : Frame} (here : good frame)
    (available : ∀ limit fd size, frame = .awaitingInput limit fd → good (.receivingAvailable size fd))
    (further : ∀ data offset fd position, frame = .sending data offset fd → good (.sending data position fd)) :
    Parks good (Port.resume backend loop me wake frame) := by
  cases frame with
  | receiving size fd | receivingInto buffer fd | receivingAvailable size fd => exact .inGuard (.awake (.read here))
  | awaitingInput limit fd =>
    refine .inGuard (.awake (.bind fun _ => .bind fun _ => .ite (fun _ => .returned _) fun _ => .bind fun _ => ?_))
    exact .read (available limit fd _ rfl)
  | sending data offset fd =>
    refine .inGuard (.awake (.bind fun written => ?_))
    cases written with
    | none => exact .waitWritable here
    | some count =>
      refine .ite (fun _ => .waitWritable here) fun _ => .ite (fun _ => ?_) fun _ => .returned _
      exact .waitWritable (further data offset fd _ rfl)
  | draining => exact .inGuard (.bind fun _ => .pollOutput here)
  | drainingExact => exact .inGuard (.bind fun _ => .bind fun _ => .returned _)
  | breaking => exact .inGuard (.bind fun _ => .bind fun _ => .returned _)
  | configuring config acquired => exact .bind fun _ => .bind fun _ => .returned _

variable (backend loop) in
theorem parks_resume (me : Nat) (wake : Wake) {call : Call} {frame : Frame} (of : frame.Of call) :
    Parks (Frame.Of call) (Port.resume backend loop me wake frame) := by
  refine parks_onward backend loop me wake of (fun limit fd size same => ?_) fun data offset fd position same => ?_
  · subst same
    cases call <;> exact of
  · subst same
    cases call <;> exact of

/-- Both ports have the same guards and are as open as each other. -/
structure SameGuards (before after : Port σ) : Prop where
  guarded : ∀ direction, after.guarded direction = before.guarded direction
  teardown : after.teardown = before.teardown

theorem SameGuards.refl (port : Port σ) : SameGuards port port := ⟨fun _ => rfl, rfl⟩

instance : Std.Refl (@SameGuards σ) := ⟨SameGuards.refl⟩

instance : IsTrans (Port σ) SameGuards := ⟨fun _ _ _ first second =>
  ⟨fun direction => (second.guarded direction).trans (first.guarded direction), second.teardown.trans first.teardown⟩⟩

theorem keeps_onBackend {related : Port σ → Port σ → Prop} (moved : ∀ port backend, related port { port with backend := backend })
    (body : Py σ α) : Keeps related (Port.onBackend body) := by
  intro port
  rw [Port.ends_onBackend]
  exact ends_iff.mpr ⟨fun _ _ _ => moved port _, fun _ _ _ => moved port _⟩

/-- A relation that no move on the backend breaks. -/
theorem callMoves_of_backend {related : Port σ → Port σ → Prop}
    (moved : ∀ port backend, related port { port with backend := backend }) : CallMoves backend loop related := by
  have kept {β : Type} (body : Py σ β) : Keeps related (Port.onBackend body) := keeps_onBackend moved body
  exact ⟨fun _ => kept _, fun _ => kept _, kept _, kept _, fun _ => kept _, kept _, kept _, fun _ _ => kept _, kept _, kept _,
    fun _ => kept _, fun _ => kept _⟩

theorem segmentMoves_of_backend {related : Port σ → Port σ → Prop}
    (moved : ∀ port backend, related port { port with backend := backend })
    (config : ∀ port config, related port { port with config := config })
    (configureLock : ∀ port lock, related port { port with configureLock := lock }) : SegmentMoves backend loop related where
  toCallMoves := callMoves_of_backend moved
  applied _ := keeps_onBackend moved _
  config := config
  configureLock := configureLock

theorem segmentMoves_sameGuards : SegmentMoves backend loop SameGuards :=
  segmentMoves_of_backend (fun _ _ => ⟨fun direction => by cases direction <;> rfl, rfl⟩)
    (fun _ _ => ⟨fun direction => by cases direction <;> rfl, rfl⟩)
    fun _ _ => ⟨fun direction => by cases direction <;> rfl, rfl⟩

theorem guarded_setGuard (port : Port σ) (direction other : Direction) (held : Bool) :
    (port.setGuard direction held).guarded other = if other = direction then held else port.guarded other := by
  cases direction <;> cases other <;> rfl

/-- Every guard that is held after a segment is held by its call, or was held before
it by another one. -/
def Behind (held : Option Direction) (before : Port σ) (progress : Progress) (after : Port σ) : Prop :=
  ∀ direction, after.guarded direction = true →
    progress.direction = some direction ∨ (before.guarded direction = true ∧ held ≠ some direction)

section Behind

variable {direction : Direction} {body : Py (Port σ) Outcome}

theorem behind_of_same {progress : Progress} {after : Port σ} (same : SameGuards port after) :
    Behind none port progress after :=
  fun direction held => .inr ⟨same.guarded direction ▸ held, nofun⟩

theorem settles_behind_of_keeps (keeps : Keeps SameGuards body) : Settles body port (Behind none port) :=
  Ends.mono (keeps port) (fun _ _ same => behind_of_same same) fun _ _ same => behind_of_same same

theorem settles_behind_inGuard (keeps : Keeps SameGuards body)
    (parks : Parks (fun frame => frame.direction = some direction) body) :
    Settles (Port.inGuard direction body) port (Behind (some direction) port) := by
  have both : Settles body port fun progress after => SameGuards port after ∧
      ∀ frame, progress = .parked frame → frame.direction = some direction := by
    refine Ends.mono (Ends.and (keeps port) (parks port)) (fun _ _ reached => reached) fun _ _ reached => reached
  have ended : ∀ progress after, SameGuards port after →
      Behind (some direction) port progress (after.setGuard direction false) := by
    intro progress after same other held
    rw [guarded_setGuard] at held
    by_cases mine : other = direction
    · simp [mine] at held
    · rw [if_neg mine, same.guarded] at held
      exact .inr ⟨held, fun equal => mine (Option.some.inj equal).symm⟩
  rw [settles_inGuard]
  refine both.mono fun progress after reached => ?_
  cases progress with
  | parked frame =>
    intro other held
    rw [reached.1.guarded] at held
    by_cases mine : other = direction
    · exact .inl (mine ▸ reached.2 frame rfl)
    · exact .inr ⟨held, fun equal => mine (Option.some.inj equal).symm⟩
  | returned value => exact ended _ after reached.1
  | raised exc => exact ended _ after reached.1

theorem settles_behind_withGuard (keeps : Keeps SameGuards body)
    (parks : Parks (fun frame => frame.direction = some direction) body) :
    Settles (Port.withGuard direction body) port (Behind none port) := by
  rw [settles_withGuard]
  refine ⟨fun _ => behind_of_same (.refl port), fun _ => ?_⟩
  refine (settles_behind_inGuard keeps parks).mono fun progress after behind other held => ?_
  rcases behind other held with parked | ⟨heldBefore, different⟩
  · exact .inl parked
  · have notMine : other ≠ direction := fun same => different (congrArg some same.symm)
    rw [guarded_setGuard, if_neg notMine] at heldBefore
    exact .inr ⟨heldBefore, nofun⟩

variable (backend loop port) in
theorem behind_start (me : Nat) (cancelled : Bool) (call : Call) :
    Settles (Port.start backend loop me cancelled call) port (Behind none port) := by
  have moves : CallMoves backend loop SameGuards := segmentMoves_sameGuards.toCallMoves
  have refused : ∀ exc, Settles (throw exc : Py (Port σ) Outcome) port (Behind none port) :=
    fun exc => settles_behind_of_keeps (.throw exc)
  have drains : ∀ port, Settles (Port.drain backend) port (Behind none port) :=
    fun port => settles_behind_withGuard (keeps_raiseIfClosed.bind fun _ => keeps_pollOutput moves)
      (.bind fun _ => .pollOutput rfl)
  cases call with
  | receive maxBytes =>
    unfold Port.start Port.receive
    dsimp only
    split
    · exact refused _
    · exact settles_behind_withGuard (keeps_filenoThenWait moves keeps_bytearray) (.filenoThenWait fun _ => rfl)
  | receiveInto buffer =>
    unfold Port.start Port.receiveInto
    dsimp only
    split
    · exact refused _
    split
    · exact refused _
    · exact settles_behind_withGuard (keeps_filenoThenWait moves (.pure ())) (.filenoThenWait fun _ => rfl)
  | receiveAvailable limit =>
    exact settles_behind_withGuard (keeps_filenoThenWait moves (.pure ())) (.filenoThenWait fun _ => rfl)
  | send data =>
    unfold Port.start Port.send
    dsimp only
    split
    · exact settles_behind_of_keeps (keeps_raiseIfClosed.bind fun _ => .pure _)
    · exact settles_behind_withGuard (keeps_sendBody moves) (.bind fun _ => .bind fun _ => .waitWritable rfl)
  | sendEof =>
    unfold Port.start Port.sendEof Settles
    simp only [ends_bind, ends_get, ends_ite, ends_pure]
    exact ⟨fun _ => behind_of_same (.refl port), fun _ => drains port⟩
  | drain => exact drains port
  | drainExact =>
    exact settles_behind_withGuard (keeps_raiseIfClosed.bind fun _ => .pure _) (.bind fun _ => .suspended rfl)
  | sendBreak duration =>
    unfold Port.start Port.sendBreak
    dsimp only
    split
    · exact settles_behind_withGuard (keeps_startBreak moves) (.bind fun _ => .bind fun _ => .bind fun _ => .suspended rfl)
    · exact refused _
  | configure config =>
    exact settles_behind_of_keeps (keeps_acquireConfigure (segmentMoves_sameGuards : SegmentMoves backend loop SameGuards))
  | resetInputBuffer => exact settles_behind_of_keeps (keeps_control moves.resetInputBuffer)
  | resetOutputBuffer => exact settles_behind_of_keeps (keeps_control moves.resetOutputBuffer)
  | modemLines => exact settles_behind_of_keeps (keeps_control moves.modemLines)
  | setControlLines rts dtr => exact settles_behind_of_keeps (keeps_control (moves.setControlLines rts dtr))
  | inputWaiting => exact settles_behind_of_keeps (keeps_waiting moves.inputWaiting)
  | outputWaiting => exact settles_behind_of_keeps (keeps_waiting moves.outputWaiting)

variable (backend loop port) in
theorem behind_resume (me : Nat) (wake : Wake) (frame : Frame) :
    Settles (Port.resume backend loop me wake frame) port (Behind frame.direction port) := by
  have moves : CallMoves backend loop SameGuards := segmentMoves_sameGuards.toCallMoves
  cases frame with
  | receiving size fd | receivingInto buffer fd | receivingAvailable size fd =>
    exact settles_behind_inGuard (keeps_awake (keeps_read moves)) (.awake (.read rfl))
  | awaitingInput limit fd =>
    refine settles_behind_inGuard (keeps_awake (keeps_readAvailable moves)) (.awake ?_)
    exact .bind fun _ => .bind fun _ => .ite (fun _ => .returned _) fun _ => .bind fun _ => .read rfl
  | sending data offset fd =>
    refine settles_behind_inGuard (keeps_awake (keeps_write moves)) (.awake (.bind fun written => ?_))
    cases written with
    | none => exact .waitWritable rfl
    | some count =>
      exact .ite (fun _ => .waitWritable rfl) fun _ => .ite (fun _ => .waitWritable rfl) fun _ => .returned _
  | draining =>
    exact settles_behind_inGuard (keeps_arrive.bind fun _ => keeps_pollOutput moves) (.bind fun _ => .pollOutput rfl)
  | drainingExact =>
    exact settles_behind_inGuard (keeps_arrive.bind fun _ => moves.tcdrainBlocking.bind fun _ => .pure _)
      (.bind fun _ => .bind fun _ => .returned _)
  | breaking => exact settles_behind_inGuard (keeps_endBreak moves) (.bind fun _ => .bind fun _ => .returned _)
  | configuring config acquired =>
    exact settles_behind_of_keeps (keeps_configure (segmentMoves_sameGuards : SegmentMoves backend loop SameGuards))

end Behind

end Anyserial
