import Anyserial.Posix.MachineProperties

/-! Which exceptions reach the caller of a port. A backend says when its own methods
raise nothing but what the port translates; everything else is the port's. -/
set_option autoImplicit false

namespace Anyserial.Posix

open Kit

variable {ε δ : Type} {subclass : Subclass ε δ} {loop : EventLoop (World ε δ)} {port : Port (World ε δ)}
  {world : World ε δ}

/-- A `SerialError`, an exception of the event loop's own, or the cancellation. -/
def IsDomain : PyExc → Prop
  | .serialError _ _ | .closedResourceError | .busyResourceError _ | .cancelled => True
  | _ => False

/-- The `ValueError` that a method documents for its own argument. -/
def Documented : Call → PyExc → Prop
  | .receive maxBytes, .valueError _ => maxBytes ≤ 0
  | .receiveInto buffer, .valueError _ => buffer.len = some 0
  | .sendBreak duration, .valueError _ => (ExtendedRational.finite 0).le duration.value = false
  | _, _ => False

def Allowed (call : Call) (exc : PyExc) : Prop := IsDomain exc ∨ Documented call exc

/-- Whatever holds of the backend once, as far as its own state and its device go. -/
def KeepsReady (ready : World ε δ → Prop) (before after : World ε δ) : Prop := ready before → ready after

instance (ready : World ε δ → Prop) : Std.Refl (KeepsReady ready) := ⟨fun _ => id⟩

instance (ready : World ε δ → Prop) : IsTrans (World ε δ) (KeepsReady ready) :=
  ⟨fun _ _ _ first second => second ∘ first⟩

/-- When the methods of a subclass raise nothing but what is translated: `Ready` is what
its own state has to keep, and the other two are conditions on one call. -/
structure Containment (subclass : Subclass ε δ) where
  Ready : World ε δ → Prop
  ConfigureFine : SerialConfig → World ε δ → Prop
  OpenFine : String → SerialConfig → World ε δ → Prop
  stable : ∀ before after : World ε δ, after.backend = before.backend → after.host.device = before.host.device →
    KeepsReady Ready before after
  configure : ∀ config world, world.host.Holds world.backend.fd → Ready world → ConfigureFine config world →
    Ends (subclass.configure config) world (fun _ after => Ready after) fun exc after => Ready after ∧ Translatable exc
  close : ∀ world, world.host.Holds world.backend.fd → Ready world → world.host.faults .close .restore = none →
    Ends subclass.close world (fun _ _ => True) fun _ _ => False
  openPort : ∀ path config world, world.backend.isOpen = false → Ready world → OpenFine path config world →
    Ends (subclass.openPort path config) world (fun _ after => after.host.Holds after.backend.fd ∧ Ready after)
      fun exc _ => Translatable exc

/-- The buffer that the call is given has a length. -/
def Sized : Call → Prop
  | .receiveInto buffer => buffer.len ≠ none
  | _ => True

/-- The kernel, the memory and the arguments leave the call no way to an error that is not
translated. -/
def CallFine (termios : TermiosModule) (loop : EventLoop (World ε δ)) (world : World ε δ) : Call → Prop
  | .receive maxBytes => maxBytes < 2 ^ 63 ∧ loop.allocates world maxBytes = true
  | .resetInputBuffer | .resetOutputBuffer => world.host.faults .tcflush .apply = none
  | .inputWaiting => termios.tiocinq = none ∨ world.host.faults .tiocinq .apply = none
  | .outputWaiting => termios.tiocoutq = none ∨ world.host.faults .tiocoutq .apply = none
  | .sendBreak duration => ¬duration.TooLarge
  | _ => True

/-- The size of the buffer that `receive_available` allocates for what the kernel counts. -/
def probedSize (port : Port (World ε δ)) (limit : Option Int) : Int :=
  Port.availableSize port.backend.host.replies.inputQueue.toInt limit port.config

/-- The same for a call that goes on. A drain or a break does not look at the port again. -/
def FrameFine (containment : Containment subclass) (loop : EventLoop (World ε δ)) (port : Port (World ε δ)) :
    Frame → Wake → Prop
  | .receivingInto buffer _, .ready => port.closed = true ∨ buffer.contiguous = true
  | .awaitingInput limit _, .ready =>
      port.closed = true ∨ subclass.termios.tiocinq = none ∨ (port.backend.host.faults .tiocinq .apply = none ∧
        (0 < probedSize port limit → loop.allocates port.backend (probedSize port limit) = true))
  | .drainingExact, .ready => port.closed = false ∧ port.backend.host.faults .tcdrain .apply = none
  | .breaking, _ => port.closed = false
  | .configuring config _, .ready => port.closed = true ∨ containment.ConfigureFine config port.backend
  | _, _ => True

/-- No defect is met in the step. -/
def TurnFine (containment : Containment subclass) (loop : EventLoop (World ε δ)) (state : State (World ε δ))
    (turn : Turn) : Prop :=
  let port := (turn.prepare state).port
  match turn.label with
  | .call call _ => Sized call ∧ (port.closed = true ∨ CallFine subclass.termios loop port.backend call)
  | .wake me wake => ∀ call frame, state.tasks[me]? = some ⟨call, .parked frame⟩ →
      FrameFine containment loop port frame wake
  | .aclose (.resume _) => port.closed = true ∨ turn.faults .close .restore = none
  | .aclose _ => True

section Segments

variable {σ α : Type} {allowed : PyExc → Prop}

/-- The computation raises nothing else. -/
def Contains (allowed : PyExc → Prop) (body : Py σ α) (s : σ) : Prop :=
  Ends body s (fun _ _ => True) fun exc _ => allowed exc

theorem Translatable.isDomain {exc : PyExc} (translatable : Translatable exc) (context : Context) (path : String) :
    IsDomain (errnoToException exc context path) := by
  obtain ⟨cls, err, same⟩ := translatable.translated context path
  rw [same]
  trivial

variable {backend : SyncSerialBackend σ} {port : Port σ}

theorem contains_ioctl {body : Py σ α} (translatable : Contains Translatable body port.backend) :
    Contains IsDomain (Port.ioctl backend body) port := by
  unfold Contains
  rw [Port.ends_ioctl]
  refine Ends.mono translatable (fun _ _ _ => trivial) fun exc _ translatable => ⟨fun _ => translatable.isDomain _ _, fun never => ?_⟩
  exact absurd (translatable.isOSError.symm.trans never) (by decide)

theorem contains_transfer {body : Py σ α} (translatable : Contains Translatable body port.backend) :
    Contains IsDomain (Port.transfer backend body) port := by
  unfold Contains
  rw [Port.ends_transfer]
  refine Ends.mono translatable (fun _ _ _ => trivial) fun exc _ translatable => ⟨fun _ => trivial, fun _ => ⟨fun _ => ?_, fun never => ?_⟩⟩
  · exact translatable.isDomain _ _
  · exact absurd (translatable.isOSError.symm.trans never) (by decide)

/-- The check of the port comes first, so the rest runs on an open one. -/
theorem contains_checked {rest : Py (Port σ) α} (inside : port.closed = false → Contains IsDomain rest port) :
    Contains IsDomain (do Port.raiseIfClosed backend; rest) port := by
  unfold Contains
  rw [ends_bind, Port.ends_raiseIfClosed]
  exact ⟨fun _ => trivial, inside⟩

theorem contains_inGuard {direction : Direction} {body : Py (Port σ) Outcome} (inside : Contains allowed body port) :
    Contains allowed (Port.inGuard direction body) port := by
  unfold Contains
  simp only [Port.inGuard, ends_bind, ends_tryCatch, Port.exitGuard, ends_modify, ends_throw]
  refine Ends.mono inside (fun outcome _ _ => ?_) fun _ _ fine => fine
  cases outcome with
  | suspended frame => trivial
  | returned value => trivial

theorem contains_withGuard {direction : Direction} {body : Py (Port σ) Outcome}
    (inside : Contains IsDomain body (port.setGuard direction true)) :
    Contains IsDomain (Port.withGuard direction body) port := by
  unfold Contains
  rw [Port.withGuard, ends_bind, Port.ends_enterGuard]
  exact ⟨fun _ => trivial, fun _ => contains_inGuard inside⟩

theorem contains_control {body : Py σ α} {value : α → Value}
    (translatable : port.closed = false → Contains Translatable body port.backend) :
    Contains IsDomain (Port.control backend body value) port := by
  refine contains_checked fun isOpen => ?_
  unfold Contains
  rw [ends_bind]
  exact Ends.mono (contains_ioctl (translatable isOpen)) (fun _ _ _ => trivial) fun _ _ domain => domain

end Segments

section Calls

variable {termios : TermiosModule} {fd : Int} {request : Option Nat} {name : String} {call : Syscall}
  {reply : Replies → BitVec 32}

theorem translatable_fcntlCall {phase : Phase} (held : world.host.Holds fd) :
    Ends (fcntlCall fd call phase) world (fun _ after => after = world) fun exc _ => Translatable exc := by
  rw [ends_fcntlCall held]
  exact ⟨fun err _ => .inl ⟨err, rfl⟩, fun _ => rfl⟩

theorem translatable_ioctlInt (held : world.host.Holds fd) :
    Contains Translatable (ioctlInt fd request name call reply) world := by
  unfold Contains ioctlInt
  rw [ends_bind]
  refine translatable_require.mono (fun _ after same => ?_) fun _ _ refused => refused.2
  subst same
  rw [ends_bind]
  exact (translatable_fcntlCall held).mono (fun _ _ _ => trivial) fun _ _ translatable => translatable

/-- A count that is not refused, or not known to the platform, is no error of the system. -/
theorem contains_ioctlInt (held : world.host.Holds fd) (fine : request = none ∨ world.host.faults call .apply = none) :
    Contains IsDomain (ioctlInt fd request name call reply) world := by
  unfold Contains ioctlInt
  rw [ends_bind]
  cases request with
  | none => trivial
  | some code =>
    have accepted : world.host.faults call .apply = none := fine.resolve_left (by simp)
    simp only [require, ends_pure, ends_bind, ends_fcntlCall held, accepted]
    exact ⟨by simp, fun _ => trivial⟩

theorem contains_map {σ α β : Type} {allowed : PyExc → Prop} {f : α → β} {body : Py σ α} {s : σ}
    (inside : Contains allowed body s) : Contains allowed (f <$> body) s := by
  unfold Contains
  rw [ends_map]
  exact inside

theorem contains_onDescriptor {α : Type} {allowed : PyExc → Prop} {body : Int → Py (World ε δ) α}
    (inside : Contains allowed (body world.backend.fd) world) : Contains allowed (onDescriptor body) world := by
  unfold Contains onDescriptor
  rw [ends_bind, ends_getBackend]
  exact inside

theorem translatable_readv {buffer : ReadBuffer} (contiguous : buffer.contiguous = true) :
    Contains Translatable (readv fd buffer) world := by
  unfold Contains readv
  simp only [contiguous, if_true, ends_bind, ends_osCall, ends_getHost, ends_pure]
  exact ⟨fun err _ => .inl ⟨err, rfl⟩, fun _ => trivial⟩

theorem translatable_osWrite {data : Bytes} : Contains Translatable (osWrite fd data) world := by
  unfold Contains osWrite
  simp only [ends_bind, ends_osCall, ends_getHost, ends_pure]
  exact ⟨fun err _ => .inl ⟨err, rfl⟩, fun _ => trivial⟩

theorem contains_termiosCall {allowed : PyExc → Prop} (held : world.host.Holds fd)
    (accepted : world.host.faults call .apply = none) : Contains allowed (termiosCall fd call) world := by
  unfold Contains
  rw [ends_termiosCall held]
  exact ⟨fun err refused => (nomatch accepted.symm.trans refused), fun _ => trivial⟩

theorem translatable_getModemLines (held : world.host.Holds fd) : Contains Translatable (getModemLines termios fd) world := by
  unfold Contains getModemLines
  rw [ends_bind]
  exact Ends.mono (translatable_ioctlInt held) (fun _ _ _ => trivial) fun _ _ translatable => translatable

/-- One half of `set_control_lines`. -/
theorem translatable_drive {condition : Bool} (bits : Nat → Nat) (held : world.host.Holds fd) :
    Ends (whenever condition do
        let _ ← require request name
        fcntlCall fd call .apply
        modifyHost fun host => { host with controlBits := bits host.controlBits }) world
      (fun _ after => after.host.Holds fd) fun exc _ => Translatable exc := by
  rw [ends_whenever]
  refine ⟨fun _ => ?_, fun _ => held⟩
  rw [ends_bind]
  refine translatable_require.mono (fun _ after same => ?_) fun _ _ refused => refused.2
  subst same
  rw [ends_bind]
  refine (translatable_fcntlCall held).mono (fun _ after same => ?_) fun _ _ translatable => translatable
  subst same
  exact held

theorem translatable_setControlLines {rts dtr : Option Bool} (held : world.host.Holds fd) :
    Contains Translatable (setControlLines termios fd rts dtr) world := by
  unfold Contains setControlLines
  rw [ends_bind]
  refine Ends.mono (translatable_drive (· ||| controlMask termios rts dtr true) held) (fun _ after held => ?_)
    fun _ _ translatable => translatable
  exact Ends.mono (translatable_drive (clearBits · (controlMask termios rts dtr false)) held) (fun _ _ _ => trivial)
    fun _ _ translatable => translatable

end Calls

section Waits

theorem isDomain_wait {exc : PyExc} (known : exc = .closedResourceError ∨ ∃ action, exc = .busyResourceError action) :
    IsDomain exc := by
  rcases known with rfl | ⟨action, rfl⟩
  · trivial
  · trivial

theorem contains_waitReadable (lawful : Lawful loop) {fd : Int} {frame : Frame} :
    Contains IsDomain (Port.waitReadable loop fd frame) port := by
  unfold Contains Port.waitReadable
  rw [ends_bind, Port.ends_onBackend]
  exact (lawful.waitReadable fd port.backend).mono (fun _ _ _ => trivial) fun _ _ ended => isDomain_wait ended.2

theorem contains_waitWritable (lawful : Lawful loop) {fd : Int} {frame : Frame} :
    Contains IsDomain (Port.waitWritable loop fd frame) port := by
  unfold Contains Port.waitWritable
  rw [ends_bind, Port.ends_onBackend]
  exact (lawful.waitWritable fd port.backend).mono (fun _ _ _ => trivial) fun _ _ ended => isDomain_wait ended.2

theorem contains_read (lawful : Lawful loop) {buffer : ReadBuffer} {fd : Int} {frame : Frame} {value : Bytes → Value}
    (contiguous : buffer.contiguous = true) :
    Contains IsDomain (Port.read subclass.backend loop buffer fd frame value) port := by
  unfold Contains Port.read
  rw [ends_bind]
  have reads : Contains Translatable (subclass.backend.readNonblocking buffer) port.backend :=
    show Contains Translatable (onDescriptor fun fd => readv fd buffer) port.backend from
      contains_onDescriptor (translatable_readv contiguous)
  refine Ends.mono (contains_transfer reads) (fun result after _ => ?_) fun _ _ domain => domain
  cases result with
  | none => exact contains_waitReadable lawful
  | some bytes =>
    cases bytes with
    | nil => trivial
    | cons byte bytes => trivial

theorem contains_write (lawful : Lawful loop) {data : Bytes} {offset : Nat} {fd : Int} :
    Contains IsDomain (Port.write subclass.backend loop data offset fd) port := by
  unfold Contains Port.write
  rw [ends_bind]
  have writes : Contains Translatable (subclass.backend.writeNonblocking (data.drop offset)) port.backend :=
    show Contains Translatable (onDescriptor fun fd => osWrite fd (data.drop offset)) port.backend from
      contains_onDescriptor translatable_osWrite
  refine Ends.mono (contains_transfer writes) (fun written after _ => ?_) fun _ _ domain => domain
  cases written with
  | none => exact contains_waitWritable lawful
  | some count =>
    simp only [ends_ite]
    exact ⟨fun _ => contains_waitWritable lawful, fun _ => ⟨fun _ => contains_waitWritable lawful, fun _ => trivial⟩⟩

theorem contains_filenoThenWait (lawful : Lawful loop) {allocate : Py (Port (World ε δ)) Unit} {frame : Int → Frame}
    (allocates : port.closed = false → Contains IsDomain allocate port) :
    Contains IsDomain (Port.filenoThenWait subclass.backend loop allocate frame) port := by
  refine contains_checked fun isOpen => ?_
  unfold Contains
  rw [ends_bind]
  refine Ends.mono (allocates isOpen) (fun _ after _ => ?_) fun _ _ domain => domain
  rw [ends_bind]
  exact contains_waitReadable lawful

theorem contains_pollOutput (holds : HoldsWhileOpen port) : Contains IsDomain (Port.pollOutput subclass.backend) port := by
  refine contains_checked fun isOpen => ?_
  unfold Contains
  rw [ends_bind]
  have counts : Contains Translatable subclass.backend.outputWaiting port.backend :=
    contains_onDescriptor (contains_map (translatable_ioctlInt (holds isOpen)))
  refine Ends.mono (contains_ioctl counts) (fun pending after _ => ?_) fun _ _ domain => domain
  rw [ends_ite]
  exact ⟨fun _ => trivial, fun _ => trivial⟩

end Waits

section Segments

theorem HoldsWhileOpen.setGuard (holds : HoldsWhileOpen port) (direction : Direction) (held : Bool) :
    HoldsWhileOpen (port.setGuard direction held) := by
  cases direction <;> exact holds

theorem contains_allowed {σ α : Type} {call : Call} {body : Py σ α} {s : σ} (inside : Contains IsDomain body s) :
    Contains (Allowed call) body s :=
  Ends.mono inside (fun _ _ _ => trivial) fun _ _ domain => .inl domain

theorem ends_bytearray_of_allocates {σ : Type} {loop : EventLoop σ} {size : Int} {port : Port σ} (small : size < 2 ^ 63)
    (memory : loop.allocates port.backend size = true) {returned : Unit → Port σ → Prop} {raised : PyExc → Port σ → Prop}
    (next : returned () port) : Ends (Port.bytearray loop size) port returned raised := by
  rw [Port.ends_bytearray]
  exact ⟨fun large => absurd large (Int.not_le.mpr small), fun _ => ⟨fun _ => next, by simp [memory]⟩⟩

theorem contains_drain (holds : HoldsWhileOpen port) : Contains IsDomain (Port.drain subclass.backend) port :=
  contains_withGuard (contains_checked fun _ => contains_pollOutput (holds.setGuard _ _))

/-- The two queue depths. -/
theorem contains_waiting {body : Py (World ε δ) Int} (counts : port.closed = false → Contains IsDomain body port.backend) :
    Contains IsDomain (Port.waiting subclass.backend body) port := by
  refine contains_checked fun isOpen => ?_
  unfold Contains
  rw [ends_bind, Port.ends_onBackend]
  exact Ends.mono (counts isOpen) (fun _ _ _ => trivial) fun _ _ domain => domain

/-- A call raises nothing but what it may, up to its first await. -/
theorem start_contained {me : Nat} {cancelled : Bool} {call : Call} (lawful : Lawful loop) (holds : HoldsWhileOpen port)
    (sized : Sized call) (fine : port.closed = true ∨ CallFine subclass.termios loop port.backend call) :
    Contains (Allowed call) (Port.start subclass.backend loop me cancelled call) port := by
  have met : port.closed = false → CallFine subclass.termios loop port.backend call :=
    fun isOpen => fine.resolve_left fun closed => absurd (isOpen.symm.trans closed) (by decide)
  cases call with
  | receive maxBytes =>
    unfold Contains Port.start Port.receive
    rw [ends_ite]
    constructor
    · intro outOfRange
      exact .inr outOfRange
    · intro _
      refine contains_allowed (contains_withGuard (contains_filenoThenWait lawful fun isOpen => ?_))
      obtain ⟨small, memory⟩ := met isOpen
      have same : (port.setGuard .receiving true).backend = port.backend := rfl
      refine ends_bytearray_of_allocates small (same ▸ memory) ?_
      trivial
  | receiveInto buffer =>
    unfold Contains Port.start Port.receiveInto
    rw [ends_ite, ends_ite]
    refine ⟨fun unsized => absurd unsized sized, fun _ => ⟨fun empty => ?_, fun _ => ?_⟩⟩
    · exact .inr empty
    · exact contains_allowed (contains_withGuard (contains_filenoThenWait lawful fun _ => trivial))
  | receiveAvailable limit =>
    exact contains_allowed (contains_withGuard (contains_filenoThenWait lawful fun _ => trivial))
  | send data =>
    unfold Contains Port.start Port.send
    rw [ends_ite]
    constructor
    · intro _
      exact contains_allowed (contains_checked fun _ => trivial)
    · intro _
      refine contains_allowed (contains_withGuard (contains_checked fun _ => ?_))
      unfold Contains
      rw [ends_bind]
      exact contains_waitWritable lawful
  | sendEof =>
    unfold Contains Port.start Port.sendEof
    rw [ends_bind, ends_get, ends_ite]
    exact ⟨fun _ => trivial, fun _ => contains_allowed (contains_drain holds)⟩
  | configure config =>
    unfold Contains Port.start Port.acquireConfigure
    simp only [ends_bind, ends_get, ends_ite, ends_throw, ends_set, ends_pure]
    exact ⟨fun _ => .inl trivial, fun _ => trivial⟩
  | resetInputBuffer | resetOutputBuffer =>
    refine contains_allowed (contains_control fun isOpen => ?_)
    exact contains_onDescriptor (contains_termiosCall (holds isOpen) (met isOpen))
  | drain => exact contains_allowed (contains_drain holds)
  | drainExact => exact contains_allowed (contains_withGuard (contains_checked fun _ => trivial))
  | sendBreak duration =>
    unfold Contains Port.start Port.sendBreak
    rw [ends_ite]
    constructor
    · intro _
      refine contains_allowed (contains_withGuard (contains_checked fun isOpen => ?_))
      unfold Contains
      rw [ends_bind]
      have isOpen : port.closed = false := isOpen
      have held := (holds.setGuard .sending true) isOpen
      have asserts : Contains Translatable (subclass.backend.setBreak true) (port.setGuard .sending true).backend :=
        Ends.mono (setBreak_spec held) (fun _ _ _ => trivial) fun _ _ refused => refused.2
      refine Ends.mono (contains_ioctl asserts) (fun _ after _ => ?_) fun _ _ domain => domain
      rw [ends_bind, ends_tryCatch, Port.ends_beginSleep]
      exact ⟨fun _ => trivial, fun tooLong => absurd (lawful.sleeps duration _ tooLong) (met isOpen)⟩
    · intro negative
      exact .inr (Bool.eq_false_iff.mpr negative)
  | modemLines =>
    exact contains_allowed (contains_control fun isOpen => contains_onDescriptor (translatable_getModemLines (holds isOpen)))
  | setControlLines rts dtr =>
    refine contains_allowed (contains_control fun isOpen => ?_)
    show Contains Translatable (onDescriptor fun fd => setControlLines subclass.termios fd rts dtr) port.backend
    exact contains_onDescriptor (translatable_setControlLines (holds isOpen))
  | inputWaiting | outputWaiting =>
    refine contains_allowed (contains_waiting fun isOpen => ?_)
    exact contains_onDescriptor (contains_map (contains_ioctlInt (holds isOpen) (met isOpen)))

/-- The buffer of `receive_available` is small: the count is a 32-bit integer, and the
chunk of a valid configuration is bounded. -/
theorem availableSize_lt (bits : BitVec 32) (limit : Option Int) (config : SerialConfig) :
    Port.availableSize bits.toInt limit config < 2 ^ 63 := by
  have count : bits.toInt < 2 ^ 31 := BitVec.toInt_lt
  have chunk : config.readChunkSize ≤ 2 ^ 24 := config.readChunkSizeMax
  unfold Port.availableSize
  cases limit with
  | none =>
    dsimp only
    split <;> omega
  | some limit =>
    refine Int.lt_of_le_of_lt (min_le_left _ _) ?_
    split <;> omega

theorem contains_awake {σ : Type} {backend : SyncSerialBackend σ} {port : Port σ} {wake : Wake} {body : Py (Port σ) Outcome}
    (inside : wake = .ready → port.closed = false → Contains IsDomain body port) :
    Contains IsDomain (Port.awake backend wake body) port := by
  unfold Contains Port.awake
  rw [ends_bind, Port.ends_arrive]
  exact ⟨fun ready => contains_checked (inside ready), fun _ => trivial, fun _ => trivial⟩

theorem contains_readAvailable (lawful : Lawful loop) (held : port.backend.host.Holds port.backend.backend.fd)
    {limit : Option Int} {fd : Int}
    (fine : subclass.termios.tiocinq = none ∨ (port.backend.host.faults .tiocinq .apply = none ∧
      (0 < probedSize port limit → loop.allocates port.backend (probedSize port limit) = true))) :
    Contains IsDomain (Port.readAvailable subclass.backend loop limit fd) port := by
  unfold Contains Port.readAvailable
  rw [ends_bind, Port.ends_onBackend]
  show Ends (onDescriptor fun fd => inputWaiting subclass.termios fd) port.backend _ _
  unfold onDescriptor inputWaiting ioctlInt
  rw [ends_bind, ends_getBackend, ends_map, ends_bind]
  rcases fine with missing | ⟨accepted, memory⟩
  · rw [missing]
    exact trivial
  cases subclass.termios.tiocinq with
  | none => exact trivial
  | some code =>
    simp only [require, ends_pure, ends_bind, ends_fcntlCall held, accepted, ends_getHost]
    refine ⟨by simp, fun _ => ?_⟩
    rw [ends_get, ends_ite]
    refine ⟨fun _ => trivial, fun positive => ?_⟩
    rw [ends_bind]
    exact ends_bytearray_of_allocates (availableSize_lt _ limit _) (memory (Int.not_le.mp positive)) (contains_read lawful rfl)

/-- On an open port the end of a break raises nothing of its own. -/
theorem contains_endBreak (held : port.backend.host.Holds port.backend.backend.fd) {wake : Wake} :
    Contains IsDomain (Port.endBreak subclass.backend wake) port := by
  have releases : Ends (Port.releaseBreak subclass.backend) port (fun _ _ => True) fun _ _ => False := by
    unfold Port.releaseBreak
    rw [ends_suppressOSError, Port.ends_onBackend]
    refine Ends.mono (setBreak_spec held) (fun _ _ _ => trivial) fun exc _ refused => ⟨fun _ => trivial, fun never => ?_⟩
    exact absurd (refused.2.isOSError.symm.trans never) (by decide)
  unfold Contains Port.endBreak
  rw [ends_bind, ends_tryCatch, Port.ends_arrive]
  constructor
  · intro _
    rw [ends_bind]
    exact releases.mono (fun _ _ _ => trivial) fun _ _ never => never.elim
  constructor
  · intro _
    rw [ends_bind]
    exact releases.mono (fun _ _ _ => trivial) fun _ _ never => never.elim
  · intro _
    rw [ends_bind]
    exact releases.mono (fun _ _ _ => trivial) fun _ _ never => never.elim

end Segments

section Containment

variable (containment : Containment subclass)

/-- As long as the port is open, its backend is as its methods need it. -/
def ReadyWhileOpen (port : Port (World ε δ)) : Prop := port.closed = false → containment.Ready port.backend

variable {containment}

theorem configure_contained {me : Nat} {wake : Wake} {config : SerialConfig} (holds : HoldsWhileOpen port)
    (ready : ReadyWhileOpen containment port)
    (fine : wake = .ready → port.closed = true ∨ containment.ConfigureFine config port.backend) :
    Ends (Port.configure subclass.backend me wake config) port (fun _ after => ReadyWhileOpen containment after)
      fun exc after => IsDomain exc ∧ ReadyWhileOpen containment after := by
  have applies : Ends (do arrive wake; Port.applyConfig subclass.backend config) port
      (fun _ after => ReadyWhileOpen containment after) fun exc after => IsDomain exc ∧ ReadyWhileOpen containment after := by
    rw [ends_bind, Port.ends_arrive]
    refine ⟨fun woken => ?_, fun _ => ⟨trivial, ready⟩, fun _ => ⟨trivial, ready⟩⟩
    rw [Port.applyConfig, ends_bind, Port.ends_raiseIfClosed]
    refine ⟨fun _ => ⟨trivial, ready⟩, fun isOpen => ?_⟩
    have met := (fine woken).resolve_left fun closed => absurd (isOpen.symm.trans closed) (by decide)
    rw [ends_bind, Port.ends_ioctl]
    refine (containment.configure config port.backend (holds isOpen) (ready isOpen) met).mono (fun _ after kept _ => kept) ?_
    intro exc after ended
    obtain ⟨kept, translatable⟩ := ended
    refine ⟨fun _ => ⟨translatable.isDomain _ _, fun _ => kept⟩, fun never => ?_⟩
    exact absurd (translatable.isOSError.symm.trans never) (by decide)
  rw [Port.configure, ends_bind, ends_tryCatch]
  refine applies.mono (fun _ after kept => kept) fun exc after ended => ?_
  rw [ends_bind]
  exact ended

theorem resume_contained {me : Nat} {wake : Wake} {frame : Frame} {call : Call} (lawful : Lawful loop)
    (holds : HoldsWhileOpen port) (ready : ReadyWhileOpen containment port) (fine : FrameFine containment loop port frame wake) :
    Contains (Allowed call) (Port.resume subclass.backend loop me wake frame) port := by
  cases frame with
  | receiving size fd | receivingAvailable size fd =>
    exact contains_allowed (contains_inGuard (contains_awake fun _ _ => contains_read lawful rfl))
  | receivingInto buffer fd =>
    refine contains_allowed (contains_inGuard (contains_awake fun woken isOpen => ?_))
    subst woken
    exact contains_read lawful (fine.resolve_left fun closed => absurd (isOpen.symm.trans closed) (by decide))
  | awaitingInput limit fd =>
    refine contains_allowed (contains_inGuard (contains_awake fun woken isOpen => ?_))
    subst woken
    have met := fine.resolve_left fun closed => absurd (isOpen.symm.trans closed) (by decide)
    exact contains_readAvailable lawful (holds isOpen) met
  | sending data offset fd =>
    exact contains_allowed (contains_inGuard (contains_awake fun _ _ => contains_write lawful))
  | draining =>
    refine contains_allowed (contains_inGuard ?_)
    unfold Contains
    rw [ends_bind, Port.ends_arrive]
    exact ⟨fun _ => contains_pollOutput holds, fun _ => trivial, fun _ => trivial⟩
  | drainingExact =>
    refine contains_allowed (contains_inGuard ?_)
    unfold Contains
    rw [ends_bind, Port.ends_arrive]
    refine ⟨fun woken => ?_, fun _ => trivial, fun _ => trivial⟩
    subst woken
    obtain ⟨isOpen, accepted⟩ := fine
    rw [ends_bind, Port.ends_onBackend]
    have drains : Contains IsDomain (subclass.backend.tcdrainBlocking) port.backend :=
      show Contains IsDomain (onDescriptor fun fd => termiosCall fd .tcdrain) port.backend from
        contains_onDescriptor (contains_termiosCall (holds isOpen) accepted)
    exact Ends.mono drains (fun _ _ _ => trivial) fun _ _ domain => domain
  | breaking => exact contains_allowed (contains_inGuard (contains_endBreak (holds fine)))
  | configuring config acquired =>
    have met : wake = .ready → port.closed = true ∨ containment.ConfigureFine config port.backend := by
      rintro rfl
      exact fine
    exact contains_allowed (Ends.mono (configure_contained holds ready met) (fun _ _ _ => trivial) fun _ _ ended => ended.1)

/-- The backend with its reconfiguration taken out. -/
def unconfigured (subclass : Subclass ε δ) : SyncSerialBackend (World ε δ) :=
  { subclass.backend with configure := fun _ => pure () }

theorem segmentMoves_ready (lawful : Lawful loop) : SegmentMoves (unconfigured subclass) loop
    (OnPort (KeepsReady containment.Ready)) := by
  have controlBits : ∀ (world : World ε δ) bits,
      KeepsReady containment.Ready world { world with host := { world.host with controlBits := bits } } :=
    fun world bits => containment.stable world _ rfl rfl
  have breakOn : ∀ (world : World ε δ) on,
      KeepsReady containment.Ready world { world with host := { world.host with breakOn := on } } :=
    fun world on => containment.stable world _ rfl rfl
  have breaks : ∀ on, Keeps (KeepsReady containment.Ready) (subclass.backend.setBreak on) := by
    intro on
    change Keeps (KeepsReady containment.Ready) (onDescriptor fun fd => setBreak subclass.termios fd on)
    exact keeps_onDescriptor fun fd => keeps_setBreak breakOn
  exact segmentMoves_onPort lawful (fun _ => .pure ()) breaks controlBits

/-- Only a call that waits for the configure lock goes on to reconfigure the backend. -/
theorem start_unconfigured (me : Nat) (cancelled : Bool) (call : Call) :
    Port.start subclass.backend loop me cancelled call = Port.start (unconfigured subclass) loop me cancelled call := by
  cases call <;> rfl

theorem resume_unconfigured {me : Nat} {wake : Wake} {frame : Frame} (other : frame.direction ≠ none) :
    Port.resume subclass.backend loop me wake frame = Port.resume (unconfigured subclass) loop me wake frame := by
  cases frame with
  | configuring config acquired => exact absurd rfl other
  | _ => rfl

/-- The teardown of an open port raises nothing, unless `os.close` reports an error. -/
theorem closeBackend_contained (lawful : Lawful loop) (held : port.backend.host.Holds port.backend.backend.fd)
    (ready : containment.Ready port.backend) (accepted : port.backend.host.faults .close .restore = none) :
    Ends (Port.closeBackend subclass.backend loop) port (fun _ _ => True) fun _ _ => False := by
  have closes : Ends subclass.backend.close port.backend (fun _ _ => True) fun _ _ => False :=
    containment.close port.backend held ready accepted
  simp only [Port.closeBackend, Port.notifyClosing, ends_bind, ends_get, ends_tryCatch, Port.ends_onBackend, ends_modify]
  refine (lawful.notifyClosing _ port.backend).mono (fun _ after same => ?_) fun exc after ended => ?_
  · subst same
    exact closes
  · obtain ⟨rfl, suppressed⟩ := ended
    split
    · exact closes
    · rename_i other
      rw [ends_ite]
      refine ⟨fun _ => closes, fun raised => ?_⟩
      rcases suppressed with isOSError | ⟨message, same⟩
      · exact absurd isOSError raised
      · exact absurd same (other message)

theorem closeOnce_contained (lawful : Lawful loop) (holds : HoldsWhileOpen port) (ready : ReadyWhileOpen containment port)
    (fine : port.closed = true ∨ port.backend.host.faults .close .restore = none) :
    (closeOnce subclass.backend loop port).1 = none := by
  cases already : port.closed with
  | true => rw [closeOnce_of_closed already]
  | false =>
    have accepted := fine.resolve_left fun closed => absurd (already.symm.trans closed) (by decide)
    have closes := closeBackend_contained lawful (holds already) (ready already) accepted
    unfold Ends at closes
    unfold closeOnce
    rw [already, if_neg (by decide)]
    cases ran : Port.closeBackend subclass.backend loop port with
    | ok value after => rfl
    | error exc after => simp only [ran] at closes

/-- What every caller has got so far. -/
structure Confined (containment : Containment subclass) (state : State (World ε δ)) : Prop where
  holds : HoldsWhileOpen state.port
  ready : ReadyWhileOpen containment state.port
  tasks : ∀ (me : Nat) call exc, state.tasks[me]? = some ⟨call, .raised exc⟩ → Allowed call exc
  acloses : ∀ progress ∈ state.port.teardown.calls, ∀ exc, progress = .raised exc → IsDomain exc

theorem raised_settle {σ : Type} {allowed : PyExc → Prop} {body : Py (Port σ) Outcome} {port : Port σ}
    (contained : Contains allowed body port) {exc : PyExc} (raised : (settle (body port)).1 = .raised exc) : allowed exc := by
  have settles : Settles body port fun progress _ => ∀ exc, progress = .raised exc → allowed exc := by
    refine Ends.mono contained (fun outcome _ _ exc never => ?_) fun exc _ fine other same => ?_
    · cases outcome <;> cases never
    · cases same
      exact fine
  exact settles_iff.mp settles exc raised

theorem ReadyWhileOpen.moved {after : Port (World ε δ)} (ready : ReadyWhileOpen containment port)
    (kept : OnPort (KeepsReady containment.Ready) port after) : ReadyWhileOpen containment after := by
  intro isOpen
  have before : port.closed = false := by
    unfold Port.closed at isOpen ⊢
    rwa [← kept.teardown]
  exact kept.world (ready before)

section Steps

variable {state after : State (World ε δ)} {turn : Turn}

theorem Confined.prepare (confined : Confined containment state) (turn : Turn) : Confined containment (turn.prepare state) := by
  constructor
  case holds => exact confined.holds
  case ready => exact fun isOpen => containment.stable state.port.backend _ rfl rfl (confined.ready isOpen)
  case tasks => exact confined.tasks
  case acloses => exact confined.acloses

theorem Confined.task {me : Nat} {call : Call} {progress : Progress} (confined : Confined containment state)
    (writes : Writes state.tasks after.tasks me ⟨call, progress⟩) (descriptor : OnPort SameFd state.port after.port)
    (ready : ReadyWhileOpen containment after.port) (raises : ∀ exc, progress = .raised exc → Allowed call exc) :
    Confined containment after := by
  constructor
  case holds => exact confined.holds.moved descriptor
  case ready => exact ready
  case tasks =>
    intro other operation exc found
    rcases (writes other _).mp found with ⟨_, same⟩ | ⟨_, earlier⟩
    · obtain ⟨rfl, raised⟩ := Task.mk.inj same
      exact raises exc raised.symm
    · exact confined.tasks other operation exc earlier
  case acloses =>
    rw [descriptor.teardown]
    exact confined.acloses

theorem Confined.start {call : Call} {me : Nat} {cancelled : Bool} (lawful : Lawful loop) (confined : Confined containment state)
    (sized : Sized call) (fine : state.port.closed = true ∨ CallFine subclass.termios loop state.port.backend call) :
    let settled := settle (Port.start subclass.backend loop me cancelled call state.port)
    Confined containment ⟨settled.2, state.tasks ++ [⟨call, settled.1⟩]⟩ := by
  intro settled
  have moves : SegmentMoves subclass.backend loop (OnPort SameFd) := segmentMoves_sameFd lawful
  have descriptor : OnPort SameFd state.port settled.2 := related_settle (keeps_start moves onPort_setGuard me cancelled call) _
  have ready : OnPort (KeepsReady containment.Ready) state.port settled.2 := by
    have quiet : SegmentMoves (unconfigured subclass) loop (OnPort (KeepsReady containment.Ready)) := segmentMoves_ready lawful
    have kept := keeps_start quiet onPort_setGuard me cancelled call
    rw [← start_unconfigured] at kept
    exact related_settle kept _
  refine confined.task writes_concat descriptor (confined.ready.moved ready) fun exc raised => ?_
  exact raised_settle (start_contained lawful confined.holds sized fine) raised

theorem Confined.resume {call : Call} {frame : Frame} {me : Nat} {wake : Wake} (lawful : Lawful loop)
    (confined : Confined containment state) (inside : me < state.tasks.length)
    (fine : FrameFine containment loop state.port frame wake) :
    let settled := settle (Port.resume subclass.backend loop me wake frame state.port)
    Confined containment ⟨settled.2, state.tasks.set me ⟨call, settled.1⟩⟩ := by
  intro settled
  have moves : SegmentMoves subclass.backend loop (OnPort SameFd) := segmentMoves_sameFd lawful
  have descriptor : OnPort SameFd state.port settled.2 := related_settle (keeps_resume moves onPort_setGuard me wake frame) _
  have ready : ReadyWhileOpen containment settled.2 := by
    by_cases other : frame.direction = none
    · cases frame with
      | configuring config acquired =>
        have met : wake = .ready → state.port.closed = true ∨ containment.ConfigureFine config state.port.backend := by
          rintro rfl
          exact fine
        have settles : Settles (Port.resume subclass.backend loop me wake (.configuring config acquired)) state.port
            fun _ after => ReadyWhileOpen containment after :=
          Ends.mono (configure_contained confined.holds confined.ready met) (fun _ _ kept => kept) fun _ _ ended => ended.2
        exact settles_iff.mp settles
      | _ => cases other
    · have quiet : SegmentMoves (unconfigured subclass) loop (OnPort (KeepsReady containment.Ready)) := segmentMoves_ready lawful
      have kept := keeps_resume quiet onPort_setGuard me wake frame
      rw [← resume_unconfigured other] at kept
      exact confined.ready.moved (related_settle kept _)
  refine confined.task (writes_set inside) descriptor ready fun exc raised => ?_
  exact raised_settle (resume_contained lawful confined.holds confined.ready fine) raised

theorem Confined.aclose {label : AcloseLabel} {moved : Port (World ε δ)} (lawful : Lawful loop)
    (confined : Confined containment state)
    (fine : ∀ me, label = .resume me → state.port.closed = true ∨ state.port.backend.host.faults .close .restore = none)
    (stepped : acloseStep subclass.backend loop state.port label = some moved) :
    Confined containment { state with port := moved } := by
  have replaced : ∀ {me : Nat} {progress : Teardown.Progress}, (∀ exc, progress = .raised exc → IsDomain exc) →
      ∀ other ∈ state.port.teardown.calls.set me progress, ∀ exc, other = .raised exc → IsDomain exc := by
    intro me progress domain other member exc raised
    rcases List.mem_or_eq_of_mem_set member with earlier | rfl
    · exact confined.acloses other earlier exc raised
    · exact domain exc raised
  have walked : ∀ {teardown : Teardown.State}, teardown.closed = state.port.teardown.closed →
      (∀ progress ∈ teardown.calls, ∀ exc, progress = .raised exc → IsDomain exc) →
      Confined containment { state with port := { state.port with teardown := teardown } } := by
    intro teardown same calls
    exact ⟨fun isOpen => confined.holds (same.symm.trans isOpen), fun isOpen => confined.ready (same.symm.trans isOpen),
      confined.tasks, calls⟩
  cases label with
  | call cancelled =>
    obtain rfl : { state.port with teardown := Teardown.acquire state.port.teardown cancelled } = moved :=
      Option.some.inj stepped
    obtain ⟨same, _, progress, calls, raised, waits⟩ := Teardown.acquire_spec state.port.teardown cancelled
    refine walked same ?_
    rw [calls]
    intro other member exc ended
    rcases List.mem_append.mp member with earlier | new
    · exact confined.acloses other earlier exc ended
    · obtain rfl := List.mem_singleton.mp new
      cases cancelled with
      | true =>
        cases (raised rfl).symm.trans ended
        trivial
      | false => rcases waits rfl with rfl | rfl <;> cases ended
  | cancel me =>
    simp only [acloseStep, Option.bind_eq_bind, Option.pure_def] at stepped
    obtain ⟨teardown, taken, same⟩ := Option.bind_eq_some_iff.mp stepped
    obtain rfl := Option.some.inj same
    rcases Teardown.step_cases taken with ⟨_, never, _⟩ | ⟨_, _, _, never, _⟩ | ⟨other, mine, _, rfl⟩ | ⟨_, _, never, _⟩
    · cases never
    · cases never
    · refine walked rfl (replaced fun exc raised => ?_)
      cases raised
      trivial
    · cases never
  | resume me =>
    obtain ⟨teardown, walked, rfl⟩ := acloseStep_resume stepped
    have isClosed : teardown.closed = true := (Teardown.closed_of_step walked).2 ⟨me, _, rfl⟩
    have quiet : (closeOnce subclass.backend loop state.port).1 = none :=
      closeOnce_contained lawful confined.holds confined.ready (fine me rfl)
    have never : ∀ {holds : Prop}, teardown.closed = false → holds :=
      fun isOpen => absurd (isClosed.symm.trans isOpen) (by decide)
    refine ⟨fun isOpen => never isOpen, fun isOpen => never isOpen, confined.tasks, ?_⟩
    rw [quiet] at walked
    rcases Teardown.step_cases walked with ⟨_, taken, _⟩ | ⟨_, _, _, taken, _, _, rfl⟩ | ⟨_, taken, _⟩ | ⟨_, _, taken, _⟩
    · cases taken
    · cases taken
      obtain ⟨progress, ended, calls⟩ : ∃ progress, (∀ exc, progress = .raised exc → IsDomain exc) ∧
          (Teardown.body .posix state.port.teardown me none).calls = state.port.teardown.calls.set me progress := by
        unfold Teardown.body Teardown.exit
        split
        · exact ⟨.returned, by simp, rfl⟩
        · exact ⟨.returned, by simp, rfl⟩
      change ∀ progress ∈ (Teardown.body .posix state.port.teardown me none).calls, _
      rw [calls]
      exact replaced ended
    · cases taken
    · cases taken

theorem Confined.step (lawful : Lawful loop) (confined : Confined containment state) (fine : TurnFine containment loop state turn)
    (stepped : turnStep subclass loop state turn = some after) : Confined containment after := by
  have prepared : Confined containment (turn.prepare state) := confined.prepare turn
  unfold TurnFine at fine
  rcases step_cases stepped with ⟨call, cancelled, taken, rfl⟩ | ⟨me, wake, call, frame, taken, found, _, rfl⟩ |
    ⟨label, moved, taken, closed, rfl⟩
  · rw [taken] at fine
    exact prepared.start lawful fine.1 fine.2
  · rw [taken] at fine
    exact prepared.resume lawful (List.getElem?_eq_some_iff.mp found).1 (fine call frame found)
  · refine prepared.aclose lawful (fun me same => ?_) closed
    subst same
    rw [taken] at fine
    exact fine

end Steps

end Containment

end Anyserial.Posix
