import Anyserial.Mock.DuplexProperties

/-! Transient faults only delay a call on a pair: a receive that is interrupted and a send
that is cut into pieces end as soon as the faults are used up. -/
set_option autoImplicit false

namespace Anyserial.Mock

open Kit

/-- Where a receive waits for the descriptor: the size of its buffer, which lies in one run, and
what it makes of the bytes that it reads. -/
inductive Reads : Frame → Nat → (Bytes → Value) → Prop where
  | receiving (size : Nat) (fd : Int) : Reads (.receiving size fd) size .data
  | receivingInto (buffer : ReadBuffer) (fd : Int) (contiguous : buffer.contiguous = true) :
    Reads (.receivingInto buffer fd) buffer.nbytes .filled
  | receivingAvailable (size : Nat) (fd : Int) : Reads (.receivingAvailable size fd) size .data

/-- The plan lets `n` reads fail in passing, and then no more. -/
structure DelaysReads (faults : FaultPlan) (n : Nat) : Prop where
  eio : faults.raiseEioOnRead = false
  parity : faults.parityErrors ≤ 0
  connected : faults.disconnected = false
  count : faults.eintrReads.toNat + faults.eagainReads.toNat = n

/-- The plan lets `n` writes fail in passing, and no short write is empty. -/
structure DelaysWrites (faults : FaultPlan) (n : Nat) : Prop where
  connected : faults.disconnected = false
  pieces : ∀ maximum, faults.shortWriteMax = some maximum → 1 ≤ maximum
  count : faults.eintrWrites.toNat + faults.eagainWrites.toNat = n

section Reads

variable {side : Side} {answers : Answers} {port : Port (Recorded Pair)} {frame : Frame} {size n : Nat}
  {value : Bytes → Value} {pair : Pair} {inbox : Bytes} {buffer : ReadBuffer}

/-- An end from which `inbox` can be read once `n` faults are used up. -/
structure Readable (side : Side) (inbox : Bytes) (n : Nat) (pair : Pair) : Prop where
  delays : DelaysReads (pair.ends side).faults n
  isOpen : (pair.sock side).closed = false
  inbox : pair.inbox side = inbox

theorem ends_readNonblocking_of_delayed {returned : Bytes → Pair → Prop} {raised : PyExc → Pair → Prop}
    (readable : Readable side inbox (n + 1) pair)
    (retries : ∀ exc after, exc.isRetry = true → Readable side inbox n after → raised exc after) :
    Ends (readNonblocking side buffer) pair returned raised := by
  obtain ⟨⟨eio, parity, connected, count⟩, isOpen, same⟩ := readable
  have kept : ∀ faults, DelaysReads faults n → Readable side inbox n (pair.edit side fun state => state.setFaults faults) := by
    intro faults delays
    refine ⟨?_, ?_, ?_⟩
    · simpa only [edit_ends, MockState.setFaults] using delays
    · simpa only [Pair.sock, edit_ends, MockState.setFaults] using isOpen
    · simpa only [Pair.inbox, edit_ends, MockState.setFaults] using same
  simp only [readNonblocking, editFaults, ends_bind, ends_get, ends_ite, ends_modify, ends_throw, ends_pure, eio, connected]
  refine ⟨by simp, fun _ => ⟨fun more => absurd parity (by omega), fun _ => ⟨by simp, fun _ => ⟨fun interrupted => ?_,
    fun uninterrupted => ⟨fun again => ?_, fun never => ?_⟩⟩⟩⟩⟩
  · exact retries _ _ rfl (kept _ ⟨eio, parity, connected, by dsimp only; omega⟩)
  · exact retries _ _ rfl (kept _ ⟨eio, parity, connected, by dsimp only; omega⟩)
  · omega

theorem ends_readNonblocking_of_ready {returned : Bytes → Pair → Prop} {raised : PyExc → Pair → Prop}
    (readable : Readable side inbox 0 pair) (nonempty : inbox ≠ []) (room : 0 < buffer.nbytes) (contiguous : buffer.contiguous = true)
    (reads : ∀ after, after.inbox side = inbox.drop buffer.nbytes → returned (inbox.take buffer.nbytes) after) :
    Ends (readNonblocking side buffer) pair returned raised := by
  obtain ⟨⟨eio, parity, connected, count⟩, isOpen, rfl⟩ := readable
  simp only [readNonblocking, recv, ends_bind, ends_get, ends_ite, ends_set, ends_throw, ends_pure, eio, connected, isOpen,
    contiguous]
  refine ⟨by simp, fun _ => ⟨fun more => absurd parity (by omega), fun _ => ⟨by simp, fun _ => ⟨fun more => ?_,
    fun _ => ⟨fun more => ?_, fun _ => ⟨fun _ => ⟨fun none => ?_,
      fun _ => ⟨by simp, fun _ => ⟨fun empty => ?_, fun _ => ?_⟩⟩⟩, by simp⟩⟩⟩⟩⟩⟩
  · omega
  · omega
  · omega
  · exact absurd empty nonempty
  · exact reads _ (by simp [Pair.inbox, MockState.setInbox, MockState.setSock])

theorem resume_of_reads (backend : SyncSerialBackend (Recorded Pair)) (loop : EventLoop (Recorded Pair)) (me : Nat)
    (wake : Wake) (reads : Reads frame size value) :
    ∃ buffer fd, buffer.contiguous = true ∧ buffer.nbytes = size ∧ Port.resume backend loop me wake frame =
      Port.inGuard .receiving (Port.awake backend wake (Port.read backend loop buffer fd frame value)) := by
  cases reads with
  | receiving size fd => exact ⟨_, fd, rfl, rfl, rfl⟩
  | receivingInto buffer fd contiguous => exact ⟨buffer, fd, contiguous, rfl, rfl⟩
  | receivingAvailable size fd => exact ⟨_, fd, rfl, rfl, rfl⟩

theorem settles_awake_of_open {backend : SyncSerialBackend (Recorded Pair)} {body : Py (Port (Recorded Pair)) Outcome}
    {good : Progress → Port (Recorded Pair) → Prop} (isOpen : port.closed = false) (goesOn : Settles body port good) :
    Settles (Port.awake backend .ready body) port good := by
  unfold Settles at goesOn ⊢
  simp only [Port.awake, ends_bind, Port.ends_arrive, Port.ends_raiseIfClosed]
  exact ⟨fun _ => ⟨fun isClosed => absurd (isOpen.symm.trans isClosed) (by simp), fun _ => goesOn⟩, by simp, by simp⟩

theorem ends_waitReadable_of_accepted {returned : Outcome → Port (Recorded Pair) → Prop}
    {raised : PyExc → Port (Recorded Pair) → Prop} {fd : Int} (accepted : answers.registers = .ok ())
    (parks : ∀ after : Port (Recorded Pair), after.closed = port.closed → after.backend.inner = port.backend.inner →
      returned (.suspended frame) after) :
    Ends (Port.waitReadable (recordingLoop answers.loop) fd frame) port returned raised := by
  simp only [Port.waitReadable, ends_bind, Port.ends_onBackend, recordingLoop, ends_recordCall, Answers.loop, accepted,
    ends_liftExcept, ends_pure]
  exact ⟨fun _ _ => parks _ rfl rfl, by simp⟩

/-- A read that fails in passing: the task waits again where it was. -/
theorem settles_read_of_delayed (port : Port (Recorded Pair)) (me : Nat) (reads : Reads frame size value)
    (accepted : answers.registers = .ok ())
    (isOpen : port.closed = false) (readable : Readable side inbox (n + 1) port.backend.inner) :
    Settles (Port.resume (recording (backend side)) (recordingLoop answers.loop) me .ready frame) port
      fun progress after => progress = .parked frame ∧ after.closed = false ∧ Readable side inbox n after.backend.inner := by
  obtain ⟨buffer, fd, _, _, same⟩ := resume_of_reads (recording (backend side)) (recordingLoop answers.loop) me .ready reads
  rw [same, settles_inGuard]
  refine settles_awake_of_open isOpen ?_
  unfold Settles Port.read
  simp only [ends_bind, Port.ends_transfer, recording, backend, ends_recordCall]
  refine ends_readNonblocking_of_delayed readable fun exc inner retry still => ⟨fun _ => ?_, fun never => ?_⟩
  · refine ends_waitReadable_of_accepted accepted fun after kept unmoved => ⟨rfl, kept.trans isOpen, ?_⟩
    rw [unmoved]
    exact still
  · exact absurd (retry.symm.trans never) (by simp)

/-- A read that finds bytes: the call ends with as many of them as its buffer takes. -/
theorem settles_read_of_ready (port : Port (Recorded Pair)) (answers : Answers) (me : Nat) (reads : Reads frame size value)
    (room : 0 < size) (isOpen : port.closed = false)
    (nonempty : inbox ≠ []) (readable : Readable side inbox 0 port.backend.inner) :
    Settles (Port.resume (recording (backend side)) (recordingLoop answers.loop) me .ready frame) port
      fun progress after => progress = .returned (value (inbox.take size)) ∧
        after.backend.inner.inbox side = inbox.drop size := by
  obtain ⟨buffer, fd, contiguous, rfl, same⟩ :=
    resume_of_reads (recording (backend side)) (recordingLoop answers.loop) me .ready reads
  rw [same, settles_inGuard]
  refine settles_awake_of_open isOpen ?_
  unfold Settles Port.read
  simp only [ends_bind, Port.ends_transfer, recording, backend, ends_recordCall]
  refine ends_readNonblocking_of_ready readable nonempty room contiguous fun after rest => ?_
  obtain ⟨byte, bytes, taken⟩ : ∃ byte bytes, inbox.take buffer.nbytes = byte :: bytes := by
    refine List.exists_cons_of_ne_nil ?_
    simp [nonempty, Nat.pos_iff_ne_zero.mp room]
  simp only [taken, ends_modify, ends_pure]
  exact ⟨rfl, rest⟩

end Reads

section Duplex

variable {side : Side} {answers : Answers} {duplex : Duplex} {frame : Frame} {size n me : Nat} {value : Bytes → Value}
  {call : Call} {inbox : Bytes}

/-- A task that waits to read from an open port, with bytes to come once `n` faults are used up. -/
structure Receiving (side : Side) (me : Nat) (call : Call) (frame : Frame) (inbox : Bytes) (n : Nat) (duplex : Duplex) :
    Prop where
  task : (duplex.tasks side)[me]? = some ⟨call, .parked frame⟩
  isOpen : (duplex.sides side).port.closed = false
  readable : Readable side inbox n duplex.pair

/-- A ready wake of a task that may be woken so, in terms of the segment that it runs. -/
theorem step_wake (found : (duplex.tasks side)[me]? = some ⟨call, .parked frame⟩)
    (admits : ∀ port : Port (Recorded Pair), frame.admits port me .ready = true) :
    let settled := settle (Port.resume (recording (backend side)) (recordingLoop answers.loop) me .ready frame
      (onPair (duplex.sides side) { duplex.pair with accepts := answers.accepts }).port)
    step duplex (.turn side answers (.wake me .ready)) = some ⟨settled.2.backend.inner,
      Function.update duplex.sides side ⟨settled.2, (duplex.tasks side).set me ⟨call, settled.1⟩⟩⟩ := by
  have here : (onPair (duplex.sides side) { duplex.pair with accepts := answers.accepts }).tasks[me]? =
      some ⟨call, .parked frame⟩ := found
  simp only [step, stepSide, Anyserial.step, here, admits, if_true]
  rfl

theorem admits_of_reads (reads : Reads frame size value) (port : Port (Recorded Pair)) :
    frame.admits port me .ready = true := by
  cases reads with
  | receiving size fd => rfl
  | receivingInto buffer fd contiguous => rfl
  | receivingAvailable size fd => rfl

theorem Receiving.next (reads : Reads frame size value) (accepted : answers.registers = .ok ())
    (receiving : Receiving side me call frame inbox (n + 1) duplex) :
    ∃ after, step duplex (.turn side answers (.wake me .ready)) = some after ∧
      Receiving side me call frame inbox n after := by
  have inside : me < (duplex.tasks side).length := (List.getElem?_eq_some_iff.mp receiving.task).1
  refine ⟨_, step_wake receiving.task (admits_of_reads reads), ?_⟩
  obtain ⟨parked, isOpen, readable⟩ := settles_iff.mp (settles_read_of_delayed
    (onPair (duplex.sides side) { duplex.pair with accepts := answers.accepts }).port me reads accepted receiving.isOpen
    ⟨receiving.readable.delays, receiving.readable.isOpen, receiving.readable.inbox⟩)
  refine ⟨?_, ?_, readable⟩
  · simp only [Duplex.tasks, Function.update_self]
    rw [parked]
    exact List.getElem?_set_self inside
  · simpa only [Function.update_self] using isOpen

/-- With `n` transient faults to come, a receive waits again exactly `n` times, and then
returns as many of the waiting bytes as it has room for. -/
theorem receive_outlasts_faults (reads : Reads frame size value) (room : 0 < size) (accepted : answers.registers = .ok ())
    (nonempty : inbox ≠ []) (receiving : Receiving side me call frame inbox n duplex) :
    ∃ last final, run step duplex (List.replicate n (.turn side answers (.wake me .ready))) = some last ∧
      Receiving side me call frame inbox 0 last ∧ step last (.turn side answers (.wake me .ready)) = some final ∧
      (final.tasks side)[me]? = some ⟨call, .returned (value (inbox.take size))⟩ ∧
      final.pair.inbox side = inbox.drop size := by
  obtain ⟨last, ran, ready⟩ := run_replicate step (fun n duplex => Receiving side me call frame inbox n duplex)
    (fun n state busy => busy.next reads accepted) receiving
  have inside : me < (last.tasks side).length := (List.getElem?_eq_some_iff.mp ready.task).1
  obtain ⟨returned, rest⟩ := settles_iff.mp (settles_read_of_ready
    (onPair (last.sides side) { last.pair with accepts := answers.accepts }).port answers me reads room ready.isOpen nonempty
    ⟨ready.readable.delays, ready.readable.isOpen, ready.readable.inbox⟩)
  refine ⟨last, _, ran, ready, step_wake ready.task (admits_of_reads reads), ?_, rest⟩
  simp only [Duplex.tasks, Function.update_self]
  rw [returned]
  exact List.getElem?_set_self inside

/-- Three bytes on their way to a receive that will be interrupted once and find nothing once. -/
def delayedReceive : Duplex :=
  (run step defaultPair [.turn .b accepting (.call (.send [7, 8, 9]) false), .turn .b accepting (.wake 0 .ready),
    .faults .a { FaultPlan.inactive with eintrReads := 1, eagainReads := 1 },
    .turn .a accepting (.call (.receive 2) false)]).getD defaultPair

theorem delayedReceive_receiving : Receiving .a 0 (.receive 2) (.receiving 2 3) [7, 8, 9] 2 delayedReceive := by
  refine ⟨?_, ?_, ⟨⟨?_, ?_, ?_, ?_⟩, ?_, ?_⟩⟩
  all_goals decide +kernel

theorem receive_outlasts_faults_twice :
    ∃ last final, run step delayedReceive (List.replicate 2 (.turn .a accepting (.wake 0 .ready))) = some last ∧
      step last (.turn .a accepting (.wake 0 .ready)) = some final ∧
      (final.tasks .a)[0]? = some ⟨.receive 2, .returned (.data [7, 8])⟩ ∧ final.pair.inbox .a = [9] := by
  obtain ⟨last, final, ran, _, stepped, returned, rest⟩ :=
    receive_outlasts_faults (.receiving 2 3) (by decide) (show accepting.registers = .ok () from rfl) (by simp)
      delayedReceive_receiving
  exact ⟨last, final, ran, stepped, returned, rest⟩

end Duplex

section Writes

variable {side : Side} {answers : Answers} {port : Port (Recorded Pair)} {n offset : Nat} {pair : Pair} {data : Bytes}
  {fd : Int}

/-- An end through which bytes can be written once `n` faults are used up. -/
structure Writable (side : Side) (n : Nat) (pair : Pair) : Prop where
  delays : DelaysWrites (pair.ends side).faults n
  isOpen : (pair.sock side).closed = false
  peerOpen : (pair.sock side.peer).closed = false

theorem ends_writeNonblocking_of_delayed {returned : Int → Pair → Prop} {raised : PyExc → Pair → Prop}
    (writable : Writable side (n + 1) pair)
    (retries : ∀ exc after, exc.isRetry = true → Writable side n after → after.inbox side.peer = pair.inbox side.peer →
      raised exc after) :
    Ends (writeNonblocking side data) pair returned raised := by
  obtain ⟨⟨connected, pieces, count⟩, isOpen, peerOpen⟩ := writable
  have kept : ∀ faults, DelaysWrites faults n → Writable side n (pair.edit side fun state => state.setFaults faults) := by
    intro faults delays
    refine ⟨?_, ?_, ?_⟩
    · simpa only [edit_ends, MockState.setFaults] using delays
    · simpa only [Pair.sock, edit_ends, MockState.setFaults] using isOpen
    · simpa only [Pair.sock, edit_ends_peer] using peerOpen
  have unmoved : ∀ faults, (pair.edit side fun state => state.setFaults faults).inbox side.peer = pair.inbox side.peer := by
    intro faults
    simp only [Pair.inbox, edit_ends_peer]
  simp only [writeNonblocking, editFaults, ends_bind, ends_get, ends_ite, ends_modify, ends_throw, ends_pure, connected]
  refine ⟨by simp, fun _ => ⟨fun interrupted => ?_, fun uninterrupted => ⟨fun again => ?_, fun never => ?_⟩⟩⟩
  · exact retries _ _ rfl (kept _ ⟨connected, pieces, by dsimp only; omega⟩) (unmoved _)
  · exact retries _ _ rfl (kept _ ⟨connected, pieces, by dsimp only; omega⟩) (unmoved _)
  · omega

theorem offered_ne_nil {faults : FaultPlan} (delays : DelaysWrites faults n) (nonempty : data ≠ []) :
    faults.offered data ≠ [] := by
  unfold FaultPlan.offered
  cases limited : faults.shortWriteMax with
  | none => exact nonempty
  | some maximum =>
    have positive := delays.pieces maximum limited
    simp only [sliceTo, if_neg (show ¬maximum < 0 by omega)]
    simp only [ne_eq, List.take_eq_nil_iff, nonempty, or_false]
    omega

theorem ends_writeNonblocking_of_ready {returned : Int → Pair → Prop} {raised : PyExc → Pair → Prop}
    (writable : Writable side 0 pair) (nonempty : data ≠ []) (room : 1 ≤ pair.accepts)
    (writes : ∀ (count : Nat) after, 1 ≤ count → count ≤ data.length → Writable side 0 after →
      after.inbox side.peer = pair.inbox side.peer ++ data.take count → returned count after) :
    Ends (writeNonblocking side data) pair returned raised := by
  obtain ⟨delays, isOpen, peerOpen⟩ := writable
  have offered := offered_ne_nil delays nonempty
  have lead := offered_prefix (pair.ends side).faults data
  have count := delays.count
  simp only [writeNonblocking, sendSocket, ends_bind, ends_get, ends_ite, ends_set, ends_throw, ends_pure, delays.connected,
    isOpen, peerOpen]
  refine ⟨by simp, fun _ => ⟨fun more => ?_, fun _ => ⟨fun more => ?_, fun _ => ⟨fun none => ?_, fun _ => ⟨by simp,
    fun _ => ⟨by simp, fun _ => ⟨fun none => ?_, fun _ => ?_⟩⟩⟩⟩⟩⟩⟩
  · omega
  · omega
  · exact absurd (List.length_eq_zero_iff.mp none) offered
  · omega
  · have short : (((pair.ends side).faults.offered data).take pair.accepts).length ≤ data.length :=
      le_trans (List.length_take_le' _ _) lead.length_le
    have same : data.take (((pair.ends side).faults.offered data).take pair.accepts).length =
        ((pair.ends side).faults.offered data).take pair.accepts :=
      (List.prefix_iff_eq_take.mp ((List.take_prefix _ _).trans lead)).symm
    refine writes _ _ ?_ short ⟨?_, ?_, ?_⟩ ?_
    · refine List.length_pos_iff.mpr ?_
      simp only [ne_eq, List.take_eq_nil_iff, offered, or_false]
      omega
    · simpa only [edit_peer_ends] using delays
    · simpa only [Pair.sock, edit_peer_ends] using isOpen
    · simpa only [Pair.sock, edit_ends, MockState.setInbox, MockState.setSock] using peerOpen
    · rw [same]
      simp only [Pair.inbox, edit_ends, MockState.setInbox, MockState.setSock]

theorem ends_waitWritable_of_accepted {returned : Outcome → Port (Recorded Pair) → Prop}
    {raised : PyExc → Port (Recorded Pair) → Prop} {frame : Frame} (accepted : answers.registers = .ok ())
    (parks : ∀ after : Port (Recorded Pair), after.closed = port.closed → after.backend.inner = port.backend.inner →
      returned (.suspended frame) after) :
    Ends (Port.waitWritable (recordingLoop answers.loop) fd frame) port returned raised := by
  simp only [Port.waitWritable, ends_bind, Port.ends_onBackend, recordingLoop, ends_recordCall, Answers.loop, accepted,
    ends_liftExcept, ends_pure]
  exact ⟨fun _ _ => parks _ rfl rfl, by simp⟩

/-- Where one pass of the send loop may leave a send: it waits again, with less work to do,
or all of the data is with the peer. -/
def Advanced (side : Side) (data base : Bytes) (work : Nat) (progress : Progress) (after : Port (Recorded Pair)) : Prop :=
  (progress = .returned .none ∧ after.backend.inner.inbox side.peer = base ++ data) ∨
    ∃ offset fd retries, progress = .parked (.sending data offset fd) ∧ after.closed = false ∧
      Writable side retries after.backend.inner ∧ offset < data.length ∧
      after.backend.inner.inbox side.peer = base ++ data.take offset ∧ retries + (data.length - offset) < work

theorem settles_write (port : Port (Recorded Pair)) (fd : Int) (me : Nat) {base : Bytes}
    (accepted : answers.registers = .ok ()) (isOpen : port.closed = false)
    (room : 1 ≤ port.backend.inner.accepts) (writable : Writable side n port.backend.inner) (rest : offset < data.length)
    (before : port.backend.inner.inbox side.peer = base ++ data.take offset) :
    Settles (Port.resume (recording (backend side)) (recordingLoop answers.loop) me .ready (.sending data offset fd)) port
      (Advanced side data base (n + (data.length - offset))) := by
  unfold Port.resume
  rw [settles_inGuard]
  refine settles_awake_of_open isOpen ?_
  unfold Settles Port.write
  simp only [ends_bind, Port.ends_transfer, recording, backend, ends_recordCall]
  cases n with
  | succ n =>
    refine ends_writeNonblocking_of_delayed writable fun exc inner retry still unmoved => ⟨fun _ => ?_, fun never => ?_⟩
    · refine ends_waitWritable_of_accepted accepted fun after kept same => .inr ⟨offset, fd, n, rfl, kept.trans isOpen, ?_⟩
      rw [same]
      exact ⟨still, rest, unmoved.trans before, by omega⟩
    · exact absurd (retry.symm.trans never) (by simp)
  | zero =>
    have nonempty : data.drop offset ≠ [] := by
      simp only [ne_eq, List.drop_eq_nil_iff]
      omega
    refine ends_writeNonblocking_of_ready writable nonempty room fun count inner positive short still added => ?_
    have within : count ≤ data.length - offset := by simpa only [List.length_drop] using short
    have further : inner.inbox side.peer = base ++ data.take (offset + count) := by
      rw [added, before, List.append_assoc, List.take_add]
    simp only [ends_modify, ends_pure, ends_ite]
    refine ⟨fun none => ?_, fun _ => ⟨fun more => ?_, fun all => ?_⟩⟩
    · omega
    · refine ends_waitWritable_of_accepted accepted fun after kept same =>
        .inr ⟨offset + count, fd, 0, rfl, kept.trans isOpen, ?_⟩
      rw [same]
      simp only [Int.toNat_natCast] at more
      exact ⟨still, more, further, by omega⟩
    · refine .inl ⟨rfl, further.trans ?_⟩
      simp only [Int.toNat_natCast] at all
      rw [List.take_of_length_le (by omega)]

end Writes

section Sends

variable {side : Side} {duplex : Duplex} {data base : Bytes} {me work : Nat}

/-- A send that waits on an open port, with work for at most `work` wakes. -/
def Sending (side : Side) (me : Nat) (data base : Bytes) (work : Nat) (duplex : Duplex) : Prop :=
  ∃ offset fd retries, (duplex.tasks side)[me]? = some ⟨.send data, .parked (.sending data offset fd)⟩ ∧
    (duplex.sides side).port.closed = false ∧ Writable side retries duplex.pair ∧ offset < data.length ∧
    duplex.pair.inbox side.peer = base ++ data.take offset ∧ retries + (data.length - offset) = work

/-- The send has returned, and the peer has all of its data. -/
def Sent (side : Side) (me : Nat) (data base : Bytes) (duplex : Duplex) : Prop :=
  (duplex.tasks side)[me]? = some ⟨.send data, .returned .none⟩ ∧ duplex.pair.inbox side.peer = base ++ data

/-- A wake of the task in a turn in which the kernel takes at least one byte. -/
def Label.Serves (side : Side) (me : Nat) (label : Label) : Prop :=
  ∃ answers : Answers, label = .turn side answers (.wake me .ready) ∧ 1 ≤ answers.accepts ∧ answers.registers = .ok ()

theorem not_sending_zero : ¬Sending side me data base 0 duplex := by
  intro sending
  obtain ⟨offset, fd, retries, _, _, _, rest, _, work⟩ := sending
  omega

theorem Sending.next (sending : Sending side me data base work duplex) {label : Label} (serves : label.Serves side me) :
    ∃ after, step duplex label = some after ∧
      (Sent side me data base after ∨ ∃ less < work, Sending side me data base less after) := by
  obtain ⟨offset, fd, retries, found, isOpen, writable, rest, before, rfl⟩ := sending
  obtain ⟨answers, rfl, room, accepted⟩ := serves
  have inside : me < (duplex.tasks side).length := (List.getElem?_eq_some_iff.mp found).1
  refine ⟨_, step_wake found fun _ => rfl, ?_⟩
  have advanced := settles_iff.mp (settles_write
    (onPair (duplex.sides side) { duplex.pair with accepts := answers.accepts }).port fd me accepted isOpen room
    ⟨writable.delays, writable.isOpen, writable.peerOpen⟩ rest before)
  rcases advanced with ⟨returned, all⟩ | ⟨offset, fd, retries, parked, stillOpen, still, further, moved, less⟩
  · refine .inl ⟨?_, all⟩
    simp only [Duplex.tasks, Function.update_self]
    rw [returned]
    exact List.getElem?_set_self inside
  · refine .inr ⟨_, less, offset, fd, retries, ?_, ?_, still, further, moved, rfl⟩
    · simp only [Duplex.tasks, Function.update_self]
      rw [parked]
      exact List.getElem?_set_self inside
    · simpa only [Function.update_self] using stillOpen

/-- A send is over after as many wakes as there are faults to come and bytes to go, and
the peer then has exactly its data, whatever room the kernel has in each turn. -/
theorem send_outlasts_faults (sending : Sending side me data base work duplex) {labels : List Label}
    (enough : work ≤ labels.length) (serves : ∀ label ∈ labels, label.Serves side me) :
    ∃ k ≤ labels.length, ∃ final, run step duplex (labels.take k) = some final ∧ Sent side me data base final :=
  run_finishes step (fun work duplex => Sending side me data base work duplex)
    (fun _ => not_sending_zero) (fun _ _ _ admitted busy => busy.next admitted) sending enough serves

/-- A send of three bytes that will be interrupted once and be cut into single bytes. -/
def delayedSend : Duplex :=
  (run step defaultPair [.faults .a { FaultPlan.inactive with eintrWrites := 1, shortWriteMax := some 1 },
    .turn .a accepting (.call (.send [7, 8, 9]) false)]).getD defaultPair

theorem delayedSend_sending : Sending .a 0 [7, 8, 9] [] 4 delayedSend := by
  refine ⟨0, 3, 1, ?_, ?_, ⟨⟨?_, ?_, ?_⟩, ?_, ?_⟩, ?_, ?_, ?_⟩
  case refine_4 =>
    intro maximum same
    have one : (delayedSend.pair.ends .a).faults.shortWriteMax = some 1 := by decide +kernel
    cases one.symm.trans same
    decide
  all_goals decide +kernel

theorem send_outlasts_faults_in_pieces :
    ∃ k ≤ 4, ∃ final, run step delayedSend ((List.replicate 4 (.turn .a accepting (.wake 0 .ready))).take k) = some final ∧
      Sent .a 0 [7, 8, 9] [] final := by
  have enough : 4 ≤ (List.replicate 4 (Label.turn .a accepting (.wake 0 .ready))).length := by simp
  obtain ⟨k, within, final, ran, sent⟩ := send_outlasts_faults delayedSend_sending enough fun label member =>
    ⟨accepting, List.eq_of_mem_replicate member, by decide, rfl⟩
  exact ⟨k, by simpa using within, final, ran, sent⟩

end Sends

end Anyserial.Mock
