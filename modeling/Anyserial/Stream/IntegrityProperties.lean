import Anyserial.Stream.Integrity
import Anyserial.Stream.SegmentProperties
import Anyserial.Linux.Lifecycle
import Anyserial.Posix.IoctlProperties

/-! Every run on a port leaves the byte streams intact, whatever the backend, the
interleaving and the cancellations. -/
set_option autoImplicit false

namespace Anyserial

open Kit

variable {σ α : Type} {backend : SyncSerialBackend σ} {loop : EventLoop σ} {port before middle after : Port (Recorded σ)}

/-- A segment that leaves the guards alone and moves these bytes. -/
structure Carried (before after : Port (Recorded σ)) (accepted delivered : Bytes) : Prop where
  guarded : ∀ direction, after.guarded direction = before.guarded direction
  accepted : after.backend.accepted = before.backend.accepted ++ accepted
  delivered : after.backend.delivered = before.backend.delivered ++ delivered

theorem Carried.refl (port : Port (Recorded σ)) : Carried port port [] [] :=
  ⟨fun _ => rfl, (List.append_nil _).symm, (List.append_nil _).symm⟩

theorem Carried.trans {accepted delivered more received : Bytes} (first : Carried before middle accepted delivered)
    (second : Carried middle after more received) : Carried before after (accepted ++ more) (delivered ++ received) := by
  refine ⟨fun direction => (second.guarded direction).trans (first.guarded direction), ?_, ?_⟩
  · rw [second.accepted, first.accepted, List.append_assoc]
  · rw [second.delivered, first.delivered, List.append_assoc]

theorem carried_of_backend {accepted delivered : Bytes} {recorded : Recorded σ}
    (acceptedMore : recorded.accepted = port.backend.accepted ++ accepted)
    (deliveredMore : recorded.delivered = port.backend.delivered ++ delivered) :
    Carried port { port with backend := recorded } accepted delivered :=
  ⟨fun direction => by cases direction <;> rfl, acceptedMore, deliveredMore⟩

section Calls

variable {returned : α → Port (Recorded σ) → Prop} {raised : PyExc → Port (Recorded σ) → Prop}

theorem ends_any {ε s β : Type} {x : EStateM ε s β} {start : s} {returned : β → s → Prop} {raised : ε → s → Prop}
    (onReturn : ∀ value t, x start = .ok value t → returned value t) (onRaise : ∀ error t, raised error t) :
    Ends x start returned raised :=
  ends_iff.mpr ⟨onReturn, fun error t _ => onRaise error t⟩

theorem ends_quiet {method : Method} {body : Py σ α}
    (onReturn : ∀ value after, Carried port after [] [] → returned value after)
    (onRaise : ∀ exc after, Carried port after [] [] → raised exc after) :
    Ends (Port.onBackend (recordCall method body)) port returned raised := by
  rw [Port.ends_onBackend, ends_recordCall]
  have quiet : ∀ recorded : Recorded σ, recorded.accepted = port.backend.accepted →
      recorded.delivered = port.backend.delivered → Carried port { port with backend := recorded } [] [] := by
    intro recorded accepted delivered
    exact carried_of_backend (by rw [accepted, List.append_nil]) (by rw [delivered, List.append_nil])
  exact ends_any (fun value inner _ => onReturn value _ (quiet _ rfl rfl)) fun exc inner =>
    onRaise exc _ (quiet _ rfl rfl)

/-- A recorded read that the port makes: what it delivers is what it returns. -/
theorem ends_recordedRead (honest : backend.Honest) {buffer : ReadBuffer} {returned : Option Bytes → Port (Recorded σ) → Prop}
    (onReturn : ∀ bytes after, bytes.length ≤ buffer.nbytes → Carried port after [] bytes → returned (some bytes) after)
    (onRetry : ∀ after, Carried port after [] [] → returned none after)
    (onRaise : ∀ exc after, Carried port after [] [] → raised exc after) :
    Ends (Port.transfer (recording backend) ((recording backend).readNonblocking buffer)) port returned raised := by
  simp only [Port.ends_transfer, recording, ends_bind, ends_recordCall, ends_modify, ends_pure]
  refine ends_any (fun bytes inner ran => ?_) (fun exc inner => ?_)
  · exact onReturn bytes _ (honest.read buffer bytes _ inner ran)
      (carried_of_backend (List.append_nil _).symm rfl)
  · have quiet : Carried port { port with backend := { port.backend with
        inner := inner, calls := port.backend.calls ++ [.readNonblocking] } } [] [] :=
      carried_of_backend (List.append_nil _).symm (List.append_nil _).symm
    exact ⟨fun _ => onRetry _ quiet, fun _ => ⟨fun _ => onRaise _ _ quiet, fun _ => onRaise _ _ quiet⟩⟩

/-- A recorded write that the port makes: the bytes it accepts lead the data. -/
theorem ends_recordedWrite (honest : backend.Honest) {data : Bytes} {returned : Option Int → Port (Recorded σ) → Prop}
    (onReturn : ∀ (count : Int) after, count ≤ data.length → Carried port after (data.take count.toNat) [] →
      returned (some count) after)
    (onRetry : ∀ after, Carried port after [] [] → returned none after)
    (onRaise : ∀ exc after, Carried port after [] [] → raised exc after) :
    Ends (Port.transfer (recording backend) ((recording backend).writeNonblocking data)) port returned raised := by
  simp only [Port.ends_transfer, recording, ends_bind, ends_recordCall, ends_modify, ends_pure]
  refine ends_any (fun count inner ran => ?_) (fun exc inner => ?_)
  · exact onReturn count _ (honest.write data count _ inner ran)
      (carried_of_backend rfl (List.append_nil _).symm)
  · have quiet : Carried port { port with backend := { port.backend with
        inner := inner, calls := port.backend.calls ++ [.writeNonblocking] } } [] [] :=
      carried_of_backend (List.append_nil _).symm (List.append_nil _).symm
    exact ⟨fun _ => onRetry _ quiet, fun _ => ⟨fun _ => onRaise _ _ quiet, fun _ => onRaise _ _ quiet⟩⟩

end Calls

/-- The call that a frame belongs to. -/
def Frame.Serves (call : Call) : Frame → Prop
  | .receiving size _ => ∃ maxBytes, call = .receive maxBytes ∧ (size : Int) = maxBytes
  | .receivingInto buffer _ => call = .receiveInto buffer
  | .awaitingInput limit _ => call = .receiveAvailable limit
  | .receivingAvailable size _ =>
      ∃ limit, call = .receiveAvailable limit ∧ ∀ bound, limit = some bound → (size : Int) ≤ bound
  | .sending data offset _ => call = .send data ∧ offset < data.length
  | .draining => call = .drain ∨ call = .sendEof
  | .drainingExact => call = .drainExact
  | .breaking => ∃ duration, call = .sendBreak duration
  | .configuring config _ => call = .configure config

/-- A call, what has become of it, and what the backend has taken of its payload agree. -/
structure Sound (call : Call) (progress : Progress) (sent : Bytes) : Prop where
  serves : ∀ frame, progress = .parked frame → frame.Serves call
  yields : ∀ value, progress = .returned value → call.Yields value
  taken : sent <+: call.payload
  offset : ∀ data offset fd, progress = .parked (.sending data offset fd) → sent = data.take offset
  whole : ∀ value, progress = .returned value → sent = call.payload

/-- However a call goes on, it may raise. -/
theorem Sound.raised {call : Call} {progress : Progress} {sent : Bytes} (sound : Sound call progress sent)
    (exc : PyExc) : Sound call (.raised exc) sent := by
  refine ⟨?_, ?_, sound.taken, ?_, ?_⟩
  · intro frame never
    cases never
  · intro value never
    cases never
  · intro data offset fd never
    cases never
  · intro value never
    cases never

theorem sound_parked {call : Call} {frame : Frame} {sent : Bytes} (serves : frame.Serves call)
    (taken : sent <+: call.payload)
    (offset : ∀ data offset fd, frame = .sending data offset fd → sent = data.take offset) :
    Sound call (.parked frame) sent := by
  refine ⟨?_, ?_, taken, ?_, ?_⟩
  · intro other same
    cases same
    exact serves
  · intro value never
    cases never
  · intro data position fd same
    cases same
    exact offset data position fd rfl
  · intro value never
    cases never

theorem sound_returned {call : Call} {value : Value} (yields : call.Yields value) : Sound call (.returned value) call.payload := by
  refine ⟨?_, ?_, List.prefix_refl _, ?_, ?_⟩
  · intro frame never
    cases never
  · intro other same
    cases same
    exact yields
  · intro data offset fd never
    cases never
  · intro other _
    rfl

section Bodies

variable {direction : Direction} {call : Call} {sent accepted : Bytes} {frame : Frame}
  {body : Py (Port (Recorded σ)) Outcome}

/-- Where a guarded segment that began at `before` may end: the guards are as they
were, and a call that is parked is parked behind its own. -/
def Good (direction : Direction) (call : Call) (sent : Bytes) (before : Port (Recorded σ)) (progress : Progress)
    (after : Port (Recorded σ)) : Prop :=
  ∃ accepted, Carried before after accepted progress.bytes ∧ Sound call progress (sent ++ accepted) ∧
    ∀ frame, progress = .parked frame → frame.direction = some direction

theorem good_raised {progress : Progress} (sound : Sound call progress (sent ++ accepted))
    (carried : Carried before after accepted []) (exc : PyExc) : Good direction call sent before (.raised exc) after := by
  refine ⟨accepted, carried, sound.raised exc, ?_⟩
  intro frame never
  cases never

theorem good_parked (sound : Sound call (.parked frame) (sent ++ accepted)) (behind : frame.direction = some direction)
    (carried : Carried before after accepted []) : Good direction call sent before (.parked frame) after := by
  refine ⟨accepted, carried, sound, ?_⟩
  intro other same
  cases same
  exact behind

theorem good_returned {value : Value} {delivered : Bytes} (yields : call.Yields value)
    (whole : sent ++ accepted = call.payload) (bytes : value.bytes = delivered)
    (carried : Carried before after accepted delivered) : Good direction call sent before (.returned value) after := by
  refine ⟨accepted, ?_, whole ▸ sound_returned yields, ?_⟩
  · simpa only [Progress.bytes, bytes] using carried
  · intro frame never
    cases never

theorem settles_awake {progress : Progress} {wake : Wake} (sound : Sound call progress sent)
    (goesOn : Settles body port (Good direction call sent port)) :
    Settles (Port.awake (recording backend) wake body) port (Good direction call sent port) := by
  unfold Settles at goesOn ⊢
  simp only [Port.awake, ends_bind, Port.ends_arrive, Port.ends_raiseIfClosed]
  have sound' : Sound call progress (sent ++ []) := by rwa [List.append_nil]
  have raises : ∀ exc, Good direction call sent port (.raised exc) port := good_raised sound' (.refl port)
  exact ⟨fun _ => ⟨fun _ => raises _, fun _ => goesOn⟩, fun _ => raises _, fun _ => raises _⟩

theorem settles_waitReadable {fd : Int} (sound : Sound call (.parked frame) (sent ++ accepted))
    (behind : frame.direction = some direction) (carried : Carried before port accepted []) :
    Settles (Port.waitReadable (recordingLoop loop) fd frame) port (Good direction call sent before) := by
  unfold Settles
  rw [Port.waitReadable, ends_bind]
  refine ends_quiet (fun _ after quiet => ?_) (fun exc after quiet => ?_)
  · exact good_parked sound behind (by simpa using carried.trans quiet)
  · exact good_raised sound (by simpa using carried.trans quiet) exc

theorem settles_waitWritable {fd : Int} (sound : Sound call (.parked frame) (sent ++ accepted))
    (behind : frame.direction = some direction) (carried : Carried before port accepted []) :
    Settles (Port.waitWritable (recordingLoop loop) fd frame) port (Good direction call sent before) := by
  unfold Settles
  rw [Port.waitWritable, ends_bind]
  refine ends_quiet (fun _ after quiet => ?_) (fun exc after quiet => ?_)
  · exact good_parked sound behind (by simpa using carried.trans quiet)
  · exact good_raised sound (by simpa using carried.trans quiet) exc

/-- One read of a receive loop, from a port that nothing went through yet. -/
theorem settles_read (honest : backend.Honest) {buffer : ReadBuffer} {fd : Int} {value : Bytes → Value}
    (sound : Sound call (.parked frame) sent) (behind : frame.direction = some .receiving)
    (nothing : call.payload = []) (carries : ∀ bytes, (value bytes).bytes = bytes)
    (yields : ∀ bytes, bytes ≠ [] → bytes.length ≤ buffer.nbytes → call.Yields (value bytes))
    (carried : Carried before port [] []) :
    Settles (Port.read (recording backend) (recordingLoop loop) buffer fd frame value) port
      (Good .receiving call sent before) := by
  have sound' : Sound call (.parked frame) (sent ++ []) := by rwa [List.append_nil]
  have whole : sent ++ [] = call.payload := by
    rw [List.append_nil, nothing]
    exact List.prefix_nil.mp (nothing ▸ sound.taken)
  unfold Settles
  rw [Port.read, ends_bind]
  refine ends_recordedRead honest (fun bytes after short moved => ?_) (fun after moved => ?_) (fun exc after moved => ?_)
  · cases bytes with
    | nil =>
      simp only [ends_bind, ends_get, ends_throw]
      exact good_raised sound' (by simpa using carried.trans moved) _
    | cons byte bytes =>
      exact good_returned (yields _ (by simp) short) whole (carries _) (by simpa using carried.trans moved)
  · exact settles_waitReadable sound' behind (by simpa using carried.trans moved)
  · exact good_raised sound' (by simpa using carried.trans moved) exc

theorem availableSize_le {waiting limit bound : Int} {config : SerialConfig} (limited : limit ≤ bound) :
    Port.availableSize waiting (some limit) config ≤ bound :=
  le_trans (min_le_right _ _) limited

theorem availableSize_pos {waiting : Int} {limit : Option Int} {config : SerialConfig}
    (admissible : ∀ bound, limit = some bound → 1 ≤ bound) : 0 < Port.availableSize waiting limit config := by
  have chunk : (0 : Int) < config.readChunkSize := by
    have smallest := config.readChunkSizeMin
    have positive : 0 < minReadChunkSize := by decide
    omega
  have size : 0 < if 0 < waiting then waiting else (config.readChunkSize : Int) := by
    split
    · assumption
    · exact chunk
  cases limit with
  | none => exact size
  | some bound => exact lt_min size (admissible bound rfl)

theorem settles_readAvailable (honest : backend.Honest) {limit : Option Int} {fd : Int}
    (sound : Sound (.receiveAvailable limit) (.parked (.awaitingInput limit fd)) sent) :
    Settles (Port.readAvailable (recording backend) (recordingLoop loop) limit fd) port
      (Good .receiving (.receiveAvailable limit) sent port) := by
  have sound' : Sound (.receiveAvailable limit) (.parked (.awaitingInput limit fd)) (sent ++ []) := by
    rwa [List.append_nil]
  have whole : sent ++ [] = Call.payload (.receiveAvailable limit) := by
    rw [List.append_nil]
    exact List.prefix_nil.mp sound.taken
  unfold Settles
  simp only [Port.readAvailable, Port.ends_bytearray, ends_bind, ends_get, ends_ite, ends_pure]
  refine ends_quiet (fun waiting after quiet => ⟨fun empty => ?_, fun positive => ⟨fun _ => ?_, fun _ =>
    ⟨fun _ => ?_, fun _ => ?_⟩⟩⟩) (fun exc after quiet => ?_)
  · refine good_returned ⟨[], rfl, fun admissible => ?_⟩ whole rfl quiet
    exact absurd (availableSize_pos admissible) (Int.not_lt.mpr empty)
  · exact good_raised sound' quiet _
  · have size : ((Port.availableSize waiting limit after.config).toNat : Int) =
        Port.availableSize waiting limit after.config := Int.toNat_of_nonneg (by omega)
    have limited : ∀ bound, limit = some bound → Port.availableSize waiting limit after.config ≤ bound := by
      rintro bound rfl
      exact availableSize_le (le_refl bound)
    have parked : Sound (.receiveAvailable limit)
        (.parked (.receivingAvailable (Port.availableSize waiting limit after.config).toNat fd)) sent := by
      refine sound_parked ⟨limit, rfl, fun bound same => ?_⟩ sound.taken (by simp)
      rw [size]
      exact limited bound same
    refine settles_read honest parked rfl rfl (fun _ => rfl) (fun bytes filled short => ?_) quiet
    refine ⟨bytes, rfl, fun _ => ⟨filled, fun bound same => ?_⟩⟩
    have known := limited bound same
    rw [ReadBuffer.nbytes_ofSize] at short
    omega
  · exact good_raised sound' quiet _
  · exact good_raised sound' quiet exc

/-- One pass of the send loop. -/
theorem settles_write (honest : backend.Honest) {data : Bytes} {offset : Nat} {fd : Int}
    (sound : Sound (.send data) (.parked (.sending data offset fd)) sent) :
    Settles (Port.write (recording backend) (recordingLoop loop) data offset fd) port
      (Good .sending (.send data) sent port) := by
  obtain ⟨_, inside⟩ := sound.serves _ rfl
  have sent_eq : sent = data.take offset := sound.offset data offset fd rfl
  have sound' : Sound (.send data) (.parked (.sending data offset fd)) (sent ++ []) := by rwa [List.append_nil]
  unfold Settles
  rw [Port.write, ends_bind]
  refine ends_recordedWrite honest (fun count after short moved => ?_) (fun after moved => ?_) (fun exc after moved => ?_)
  · have grown : sent ++ (data.drop offset).take count.toNat = data.take (offset + count.toNat) := by
      rw [sent_eq, ← List.take_add]
    simp only [ends_ite]
    refine ⟨fun none => ?_, fun some => ⟨fun rest => ?_, fun complete => ?_⟩⟩
    · have nothing : (data.drop offset).take count.toNat = [] := by
        rw [Int.toNat_of_nonpos none, List.take_zero]
      rw [nothing] at moved
      exact settles_waitWritable sound' rfl moved
    · refine settles_waitWritable (sound_parked ⟨rfl, rest⟩ ?_ ?_) rfl moved
      · rw [grown]
        exact List.take_prefix _ _
      · rintro _ _ _ same
        cases same
        exact grown
    · refine good_returned (show Call.Yields (.send data) .none from rfl) ?_ rfl moved
      rw [grown]
      exact List.take_of_length_le (Nat.not_lt.mp complete)
  · exact settles_waitWritable sound' rfl moved
  · exact good_raised sound' moved exc

theorem sound_quiet (serves : frame.Serves call) (notSending : ∀ data offset fd, frame ≠ .sending data offset fd) :
    Sound call (.parked frame) [] :=
  sound_parked serves List.nil_prefix fun data offset fd same => absurd same (notSending data offset fd)

/-- One pass of the drain loop. -/
theorem settles_pollOutput (drains : call = .drain ∨ call = .sendEof) (carried : Carried before port [] []) :
    Settles (Port.pollOutput (recording backend)) port (Good .sending call [] before) := by
  have nothing : call.payload = [] := by rcases drains with rfl | rfl <;> rfl
  have yields : call.Yields .none := by rcases drains with rfl | rfl <;> rfl
  have sound : Sound call (.parked .draining) ([] ++ []) := sound_quiet drains nofun
  unfold Settles
  simp only [Port.pollOutput, ends_bind, Port.ends_raiseIfClosed, Port.ioctl, ends_exceptOSError,
    Port.ends_raiseTranslated, ends_ite, ends_pure]
  refine ⟨fun _ => good_raised sound carried _, fun _ => ?_⟩
  refine ends_quiet (fun pending after quiet => ⟨fun _ => ?_, fun _ => ?_⟩) (fun exc after quiet => ?_)
  · exact good_returned yields nothing.symm rfl (carried.trans quiet)
  · exact good_parked sound rfl (carried.trans quiet)
  · have raised : ∀ exc, Good .sending call [] before (.raised exc) after := fun exc =>
      good_raised sound (carried.trans quiet) exc
    exact ⟨fun _ => raised _, fun _ => raised _⟩

/-- `tcdrain` in the worker thread. -/
theorem settles_drainExact {wake : Wake} :
    Settles (do arrive wake; Port.onBackend (recording backend).tcdrainBlocking; pure (.returned .none)) port
      (Good .sending .drainExact [] port) := by
  have sound : Sound .drainExact (.parked .drainingExact) ([] ++ []) := sound_quiet rfl nofun
  unfold Settles
  simp only [ends_bind, Port.ends_arrive, ends_pure]
  refine ⟨fun _ => ?_, fun _ => good_raised sound (.refl port) _, fun _ => good_raised sound (.refl port) _⟩
  refine ends_quiet (fun _ after quiet => ?_) (fun exc after quiet => good_raised sound quiet exc)
  exact good_returned (show Call.Yields .drainExact .none from rfl) rfl rfl quiet

theorem ends_releaseBreak {returned : Unit → Port (Recorded σ) → Prop} {raised : PyExc → Port (Recorded σ) → Prop}
    (onReturn : ∀ after, Carried port after [] [] → returned () after)
    (onRaise : ∀ exc after, Carried port after [] [] → raised exc after) :
    Ends (Port.releaseBreak (recording backend)) port returned raised := by
  unfold Port.releaseBreak
  rw [ends_suppressOSError]
  exact ends_quiet (fun _ after quiet => onReturn after quiet)
    (fun exc after quiet => ⟨fun _ => onReturn after quiet, fun _ => onRaise exc after quiet⟩)

/-- The end of a break: the line is released, whatever woke the sleeper. -/
theorem settles_endBreak {duration : Number} {wake : Wake} :
    Settles (Port.endBreak (recording backend) wake) port (Good .sending (.sendBreak duration) [] port) := by
  have sound : Sound (.sendBreak duration) (.parked .breaking) ([] ++ []) := sound_quiet ⟨duration, rfl⟩ nofun
  have raised : ∀ exc after, Carried port after [] [] →
      Good .sending (.sendBreak duration) [] port (.raised exc) after :=
    fun exc after quiet => good_raised sound quiet exc
  unfold Settles
  simp only [Port.endBreak, ends_bind, ends_tryCatch, Port.ends_arrive, ends_throw, ends_pure]
  refine ⟨fun _ => ?_, fun _ => ?_, fun _ => ?_⟩
  · refine ends_releaseBreak (fun after quiet => ?_) raised
    exact good_returned (show Call.Yields (.sendBreak duration) .none from rfl) rfl rfl quiet
  · exact ends_releaseBreak (raised _) raised
  · exact ends_releaseBreak (raised _) raised

end Bodies

section Segments

variable {call : Call} {sent : Bytes} {body : Py (Port (Recorded σ)) Outcome} {direction : Direction}

/-- What a whole segment does to the port: it gives back the guard it held, keeps the
one its call is parked behind, and moves these bytes. -/
structure Advanced (held : Option Direction) (before : Port (Recorded σ)) (progress : Progress)
    (after : Port (Recorded σ)) (accepted : Bytes) : Prop where
  guarded : ∀ direction, after.guarded direction = true ↔
    progress.direction = some direction ∨ (before.guarded direction = true ∧ held ≠ some direction)
  accepted : after.backend.accepted = before.backend.accepted ++ accepted
  delivered : after.backend.delivered = before.backend.delivered ++ progress.bytes

def Steps (held : Option Direction) (call : Call) (sent : Bytes) (before : Port (Recorded σ)) (progress : Progress)
    (after : Port (Recorded σ)) : Prop :=
  ∃ accepted, Advanced held before progress after accepted ∧ Sound call progress (sent ++ accepted) ∧
    ∀ direction, progress.direction = some direction → held = some direction

theorem settles_inGuard_of_good (held : port.guarded direction = true)
    (settles : Settles body port (Good direction call sent port)) :
    Settles (Port.inGuard direction body) port (Steps (some direction) call sent port) := by
  rw [settles_inGuard]
  refine settles.mono fun progress after good => ?_
  obtain ⟨accepted, carried, sound, behind⟩ := good
  have ended : (∀ frame, progress ≠ .parked frame) →
      Steps (some direction) call sent port progress (after.setGuard direction false) := by
    intro finished
    have free : progress.direction = none := by
      cases progress with
      | parked frame => exact absurd rfl (finished frame)
      | returned value => rfl
      | raised exc => rfl
    refine ⟨accepted, ⟨fun other => ?_, ?_, ?_⟩, sound, fun other parked => nomatch free.symm.trans parked⟩
    · rw [guarded_setGuard, carried.guarded, free]
      by_cases same : other = direction
      · simp [same]
      · simp [same, Ne.symm same]
    · cases direction <;> exact carried.accepted
    · cases direction <;> exact carried.delivered
  cases progress with
  | parked frame =>
    have here : frame.direction = some direction := behind frame rfl
    refine ⟨accepted, ⟨fun other => ?_, carried.accepted, carried.delivered⟩, sound,
      fun other parked => here.symm.trans parked⟩
    rw [carried.guarded]
    by_cases same : other = direction
    · simp [same, held, Progress.direction, here]
    · simp [Ne.symm same, Progress.direction, here]
  | returned value => exact ended (by simp)
  | raised exc => exact ended (by simp)

/-- What the first segment of a call does: no byte moves, and a guard that it takes was free. -/
structure Began (call : Call) (before : Port (Recorded σ)) (progress : Progress) (after : Port (Recorded σ)) : Prop where
  advanced : Advanced none before progress after []
  silent : progress.bytes = []
  sound : Sound call progress []
  free : ∀ direction, progress.direction = some direction → before.guarded direction = false

theorem began_ended {progress : Progress} (ended : ∀ frame, progress ≠ .parked frame) (silent : progress.bytes = [])
    (sound : Sound call progress []) (quiet : Carried before after [] []) : Began call before progress after := by
  have free : progress.direction = none := by
    cases progress with
    | parked frame => exact absurd rfl (ended frame)
    | returned value => rfl
    | raised exc => rfl
  refine ⟨⟨fun direction => ?_, quiet.accepted, ?_⟩, silent, sound, ?_⟩
  · simp [free, quiet.guarded]
  · rw [silent]
    exact quiet.delivered
  · intro direction parked
    rw [free] at parked
    cases parked

theorem sound_raised (exc : PyExc) : Sound call (.raised exc) [] := by
  refine ⟨?_, ?_, List.nil_prefix, ?_, ?_⟩
  · intro frame never
    cases never
  · intro value never
    cases never
  · intro data offset fd never
    cases never
  · intro value never
    cases never

theorem began_raised (quiet : Carried before after [] []) (exc : PyExc) : Began call before (.raised exc) after :=
  began_ended (by simp) rfl (sound_raised exc) quiet

abbrev Quiet (before after : Port (Recorded σ)) : Prop := Carried before after [] []

instance : Std.Refl (@Quiet σ) := ⟨Carried.refl⟩

instance : IsTrans (Port (Recorded σ)) Quiet := ⟨fun _ _ _ first second => first.trans second⟩

theorem quiet_recordCall {method : Method} {call : Py σ α} :
    Keeps Quiet (Port.onBackend (recordCall method call) : Py (Port (Recorded σ)) α) :=
  fun _ => ends_quiet (fun _ _ quiet => quiet) (fun _ _ quiet => quiet)

theorem quiet_raiseIfClosed : Keeps Quiet (Port.raiseIfClosed (recording backend)) :=
  .bind .get fun _ => .ite (fun _ => .throw _) fun _ => .pure ()

theorem quiet_ioctl {method : Method} {call : Py σ α} :
    Keeps Quiet (Port.ioctl (recording backend) (recordCall method call)) :=
  keeps_exceptOSError quiet_recordCall fun _ => .bind .get fun _ => .throw _

theorem quiet_releaseBreak : Keeps Quiet (Port.releaseBreak (recording backend)) := keeps_suppressOSError quiet_recordCall

theorem began_withGuard (settles : Settles body (port.setGuard direction true)
      (Good direction call [] (port.setGuard direction true))) (quiet : Keeps Quiet body) :
    Settles (Port.withGuard direction body) port (Began call port) := by
  rw [settles_withGuard]
  refine ⟨fun _ => began_raised (.refl port) _, fun free => ?_⟩
  have held : (port.setGuard direction true).guarded direction = true := by rw [guarded_setGuard, if_pos rfl]
  have both : Settles body (port.setGuard direction true) fun progress after =>
      Good direction call [] (port.setGuard direction true) progress after ∧ Quiet (port.setGuard direction true) after :=
    Ends.and settles (quiet _)
  rw [settles_inGuard]
  refine both.mono fun progress after reached => ?_
  obtain ⟨⟨accepted, carried, sound, behind⟩, unmoved⟩ := reached
  have nothing : accepted = [] := by
    have same := carried.accepted.symm.trans unmoved.accepted
    simpa using same
  have silent : progress.bytes = [] := by
    have same := carried.delivered.symm.trans unmoved.delivered
    simpa using same
  subst nothing
  have ended : (∀ frame, progress ≠ .parked frame) → Began call port progress (after.setGuard direction false) := by
    intro finished
    refine began_ended finished silent sound ⟨fun other => ?_, ?_, ?_⟩
    · rw [guarded_setGuard, unmoved.guarded, guarded_setGuard]
      by_cases same : other = direction
      · simp [same, free]
      · simp [same]
    · cases direction <;> exact unmoved.accepted
    · cases direction <;> exact unmoved.delivered
  cases progress with
  | parked frame =>
    have here : frame.direction = some direction := behind frame rfl
    refine ⟨⟨fun other => ?_, ?_, ?_⟩, silent, sound, fun other parked => ?_⟩
    · rw [unmoved.guarded, guarded_setGuard]
      by_cases same : other = direction
      · simp [same, Progress.direction, here]
      · simp [same, Ne.symm same, Progress.direction, here]
    · cases direction <;> exact unmoved.accepted
    · cases direction <;> exact unmoved.delivered
    · have same : direction = other := Option.some.inj (here.symm.trans parked)
      exact same ▸ free
  | returned value => exact ended (by simp)
  | raised exc => exact ended (by simp)

/-- The methods that make one call on the backend and return. -/
theorem began_control {method : Method} {body : Py σ α} {value : α → Value} (nothing : call.payload = [])
    (yields : ∀ result, call.Yields (value result)) (silent : ∀ result, (value result).bytes = []) :
    Settles (Port.control (recording backend) (recordCall method body) value) port (Began call port) := by
  have returned : ∀ result after, Quiet port after → Began call port (.returned (value result)) after :=
    fun result _ quiet => began_ended (by simp) (silent result) (nothing ▸ sound_returned (yields result)) quiet
  unfold Settles
  simp only [Port.control, ends_bind, Port.ends_raiseIfClosed, Port.ioctl, ends_exceptOSError,
    Port.ends_raiseTranslated, ends_pure]
  refine ⟨fun _ => began_raised (.refl port) _, fun _ => ?_⟩
  exact ends_quiet returned fun exc after quiet => ⟨fun _ => began_raised quiet _, fun _ => began_raised quiet _⟩

theorem began_waiting {method : Method} {body : Py σ Int} (nothing : call.payload = [])
    (yields : ∀ result, call.Yields (.number result)) :
    Settles (Port.waiting (recording backend) (recordCall method body)) port (Began call port) := by
  unfold Settles
  simp only [Port.waiting, ends_bind, Port.ends_raiseIfClosed, ends_pure]
  refine ⟨fun _ => began_raised (.refl port) _, fun _ => ends_quiet (fun result _ quiet => ?_) fun exc _ quiet => ?_⟩
  · exact began_ended (by simp [Outcome.progress]) rfl (nothing ▸ sound_returned (yields result)) quiet
  · exact began_raised quiet exc

/-- The receive loops up to their first wait. -/
theorem began_filenoThenWait {allocate : Py (Port (Recorded σ)) Unit} {frame : Int → Frame}
    (quiet : Keeps Quiet allocate) (behind : ∀ fd, (frame fd).direction = some .receiving)
    (serves : ∀ fd, (frame fd).Serves call) :
    Settles (Port.withGuard .receiving (Port.filenoThenWait (recording backend) (recordingLoop loop) allocate frame)) port
      (Began call port) := by
  have sound : ∀ fd, Sound call (.parked (frame fd)) ([] ++ []) := by
    intro fd
    refine sound_quiet (serves fd) fun data offset position same => ?_
    have clash := behind fd
    rw [same] at clash
    cases clash
  refine began_withGuard ?_ ?_
  · unfold Settles
    simp only [Port.filenoThenWait, ends_bind, Port.ends_raiseIfClosed, ends_get]
    refine ⟨fun _ => good_raised (sound 0) (.refl _) _, fun _ => ?_⟩
    refine (quiet _).mono (fun _ after allocated => ?_) fun exc after allocated => good_raised (sound 0) allocated exc
    exact settles_waitReadable (sound _) (behind _) allocated
  · exact quiet_raiseIfClosed.bind fun _ => quiet.bind fun _ => Keeps.get.bind fun _ =>
      quiet_recordCall.bind fun _ => .pure _

theorem began_send {data : Bytes} :
    Settles (Port.send (recording backend) (recordingLoop loop) data) port (Began (.send data) port) := by
  unfold Port.send
  split
  · rename_i empty
    have nothing : data = [] := List.length_eq_zero_iff.mp empty
    subst nothing
    unfold Settles
    simp only [ends_bind, Port.ends_raiseIfClosed, ends_pure]
    have sound : Sound (.send []) (.returned .none) [] := sound_returned (show Call.Yields (.send []) .none from rfl)
    exact ⟨fun _ => began_raised (.refl port) _, fun _ => began_ended (by simp [Outcome.progress]) rfl sound (.refl port)⟩
  · rename_i nonempty
    have sound : ∀ fd, Sound (.send data) (.parked (.sending data 0 fd)) ([] ++ []) := by
      intro fd
      refine sound_parked ⟨rfl, Nat.pos_of_ne_zero nonempty⟩ List.nil_prefix ?_
      rintro _ _ _ same
      cases same
      rfl
    refine began_withGuard ?_ ?_
    · unfold Settles
      simp only [ends_bind, Port.ends_raiseIfClosed, ends_get]
      exact ⟨fun _ => good_raised (sound 0) (.refl _) _, fun _ => settles_waitWritable (sound _) rfl (.refl _)⟩
    · exact quiet_raiseIfClosed.bind fun _ => Keeps.get.bind fun _ => quiet_recordCall.bind fun _ => .pure _

theorem began_drain (drains : call = .drain ∨ call = .sendEof) :
    Settles (Port.drain (recording backend)) port (Began call port) := by
  refine began_withGuard ?_ ?_
  · unfold Settles
    simp only [ends_bind, Port.ends_raiseIfClosed]
    have sound : Sound call (.parked .draining) ([] ++ []) := sound_quiet drains (by simp)
    exact ⟨fun _ => good_raised sound (.refl _) _, fun _ => settles_pollOutput drains (.refl _)⟩
  · refine quiet_raiseIfClosed.bind fun _ => quiet_raiseIfClosed.bind fun _ => quiet_ioctl.bind fun _ => ?_
    exact .ite (fun _ => .pure _) fun _ => .pure _

theorem began_drainExact : Settles (Port.drainExact (recording backend)) port (Began .drainExact port) := by
  refine began_withGuard ?_ (quiet_raiseIfClosed.bind fun _ => .pure _)
  unfold Settles
  simp only [ends_bind, Port.ends_raiseIfClosed, ends_pure]
  have sound : Sound .drainExact (.parked .drainingExact) ([] ++ []) := sound_quiet rfl (by simp)
  exact ⟨fun _ => good_raised sound (.refl _) _, fun _ => good_parked sound rfl (.refl _)⟩

theorem began_sendBreak {duration : Number} :
    Settles (Port.sendBreak (recording backend) (recordingLoop loop) duration) port (Began (.sendBreak duration) port) := by
  unfold Port.sendBreak
  split
  · have sound : Sound (.sendBreak duration) (.parked .breaking) ([] ++ []) := sound_quiet ⟨duration, rfl⟩ nofun
    refine began_withGuard ?_ (quiet_raiseIfClosed.bind fun _ => quiet_ioctl.bind fun _ =>
      .bind (keeps_beginSleep.tryCatch fun _ => quiet_releaseBreak.bind fun _ => .throw _) fun _ => .pure _)
    unfold Settles
    simp only [Port.startBreak, ends_bind, Port.ends_raiseIfClosed, Port.ioctl, ends_exceptOSError, Port.ends_raiseTranslated,
      ends_tryCatch, Port.ends_beginSleep, ends_throw, ends_pure]
    refine ⟨fun _ => good_raised sound (.refl _) _, fun _ => ends_quiet (fun _ after quiet => ⟨fun _ => ?_, fun _ => ?_⟩)
      fun exc _ quiet => ?_⟩
    · exact good_parked sound rfl quiet
    · refine ends_releaseBreak (fun _ released => ?_) fun exc _ released => ?_
      · exact good_raised sound (quiet.trans released) _
      · exact good_raised sound (quiet.trans released) _
    · exact ⟨fun _ => good_raised sound quiet _, fun _ => good_raised sound quiet _⟩
  · exact began_raised (.refl port) _

theorem began_configure {config : SerialConfig} {me : Nat} {cancelled : Bool} :
    Settles (Port.acquireConfigure me cancelled config) port (Began (.configure config) port) := by
  unfold Settles
  simp only [Port.acquireConfigure, ends_bind, ends_get, ends_ite, ends_throw, ends_set, ends_pure]
  refine ⟨fun _ => began_raised (.refl port) _, fun _ => ⟨⟨fun direction => ?_, ?_, ?_⟩, rfl, ?_, ?_⟩⟩
  · cases direction <;> simp [Outcome.progress, Progress.direction, Frame.direction, Port.guarded]
  · exact (List.append_nil _).symm
  · exact (List.append_nil _).symm
  · exact sound_quiet rfl (by simp)
  · intro direction never
    cases never

/-- The first segment of any call. -/
theorem began_start (me : Nat) (cancelled : Bool) (call : Call) :
    Settles (Port.start (recording backend) (recordingLoop loop) me cancelled call) port (Began call port) := by
  cases call with
  | receive maxBytes =>
    unfold Port.start Port.receive
    dsimp only
    split
    · exact began_raised (.refl port) _
    · rename_i positive
      exact began_filenoThenWait keeps_bytearray (fun _ => rfl) fun _ => ⟨maxBytes, rfl, Int.toNat_of_nonneg (by omega)⟩
  | receiveInto buffer =>
    unfold Port.start Port.receiveInto
    dsimp only
    split
    · exact began_raised (.refl port) _
    split
    · exact began_raised (.refl port) _
    · exact began_filenoThenWait (.pure ()) (fun _ => rfl) fun _ => rfl
  | receiveAvailable limit => exact began_filenoThenWait (.pure ()) (fun _ => rfl) fun _ => rfl
  | send data => exact began_send
  | sendEof =>
    unfold Port.start Port.sendEof Settles
    simp only [ends_bind, ends_get, ends_ite, ends_pure]
    have sound : Sound .sendEof (.returned .none) [] := sound_returned (show Call.Yields .sendEof .none from rfl)
    exact ⟨fun _ => began_ended (by simp [Outcome.progress]) rfl sound (.refl port), fun _ => began_drain (.inr rfl)⟩
  | configure config => exact began_configure
  | resetInputBuffer => exact began_control rfl (fun _ => rfl) fun _ => rfl
  | resetOutputBuffer => exact began_control rfl (fun _ => rfl) fun _ => rfl
  | drain => exact began_drain (.inl rfl)
  | drainExact => exact began_drainExact
  | sendBreak duration => exact began_sendBreak
  | modemLines => exact began_control rfl (fun _ => rfl) fun _ => rfl
  | setControlLines rts dtr => exact began_control rfl (fun _ => rfl) fun _ => rfl
  | inputWaiting => exact began_waiting rfl fun _ => rfl
  | outputWaiting => exact began_waiting rfl fun _ => rfl

theorem steps_of_quiet {progress : Progress} (ended : ∀ frame, progress ≠ .parked frame) (silent : progress.bytes = [])
    (sound : Sound call progress []) (quiet : Quiet before after) : Steps none call [] before progress after := by
  have began := began_ended ended silent sound quiet
  refine ⟨[], began.advanced, began.sound, fun direction parked => ?_⟩
  cases progress with
  | parked frame => exact absurd rfl (ended frame)
  | returned value => cases parked
  | raised exc => cases parked

theorem quiet_applyConfig {config : SerialConfig} : Keeps Quiet (Port.applyConfig (recording backend) config) := by
  refine quiet_raiseIfClosed.bind fun _ => quiet_ioctl.bind fun _ => .modify fun port => ⟨fun direction => ?_, ?_, ?_⟩
  · cases direction <;> rfl
  · exact (List.append_nil _).symm
  · exact (List.append_nil _).symm

theorem quiet_releaseConfigure {me : Nat} : Keeps Quiet (Port.releaseConfigure me : Py (Port (Recorded σ)) Unit) := by
  refine .modify fun port => ⟨fun direction => ?_, ?_, ?_⟩
  · cases direction <;> rfl
  · exact (List.append_nil _).symm
  · exact (List.append_nil _).symm

theorem quiet_arrive {wake : Wake} : Keeps Quiet (arrive wake : Py (Port (Recorded σ)) Unit) := by
  cases wake with
  | ready => exact .pure ()
  | closing => exact .throw _
  | cancelled => exact .throw _

/-- The body of `configure` under its lock moves no byte. -/
theorem steps_configure {config : SerialConfig} {me : Nat} {wake : Wake} :
    Settles (Port.configure (recording backend) me wake config) port (Steps none (.configure config) [] port) := by
  have quiet : Keeps Quiet (tryCatch (do arrive wake; Port.applyConfig (recording backend) config) fun exc => do
      Port.releaseConfigure me
      throw exc) :=
    (quiet_arrive.bind fun _ => quiet_applyConfig).tryCatch fun _ => quiet_releaseConfigure.bind fun _ => .throw _
  have sound : Sound (.configure config) (.returned .none) [] :=
    sound_returned (show Call.Yields (.configure config) .none from rfl)
  unfold Settles
  rw [Port.configure, ends_bind]
  refine (quiet port).mono (fun _ middle unmoved => ?_) (fun exc after unmoved => ?_)
  · rw [ends_bind]
    refine (quiet_releaseConfigure middle).mono (fun _ after released => ?_) (fun exc after released => ?_)
    · exact steps_of_quiet (by simp [Outcome.progress]) rfl sound (unmoved.trans released)
    · exact steps_of_quiet (by simp) rfl (sound_raised exc) (unmoved.trans released)
  · exact steps_of_quiet (by simp) rfl (sound_raised exc) unmoved

/-- Any later segment of a call. -/
theorem steps_resume (honest : backend.Honest) (me : Nat) (wake : Wake) {frame : Frame}
    (sound : Sound call (.parked frame) sent) (held : ∀ direction, frame.direction = some direction →
      port.guarded direction = true) :
    Settles (Port.resume (recording backend) (recordingLoop loop) me wake frame) port
      (Steps frame.direction call sent port) := by
  have serves := sound.serves frame rfl
  cases frame with
  | receiving size fd =>
    obtain ⟨maxBytes, rfl, fits⟩ := serves
    refine settles_inGuard_of_good (held _ rfl) (settles_awake sound ?_)
    refine settles_read honest sound rfl rfl (fun _ => rfl) (fun bytes filled short => ⟨bytes, rfl, filled, ?_⟩) (.refl port)
    rw [ReadBuffer.nbytes_ofSize] at short
    omega
  | receivingInto buffer fd =>
    cases serves
    refine settles_inGuard_of_good (held _ rfl) (settles_awake sound ?_)
    exact settles_read honest sound rfl rfl (fun _ => rfl) (fun bytes filled short => ⟨bytes, rfl, filled, short⟩)
      (.refl port)
  | awaitingInput limit fd =>
    cases serves
    exact settles_inGuard_of_good (held _ rfl) (settles_awake sound (settles_readAvailable honest sound))
  | receivingAvailable size fd =>
    obtain ⟨limit, rfl, limited⟩ := serves
    refine settles_inGuard_of_good (held _ rfl) (settles_awake sound ?_)
    refine settles_read honest sound rfl rfl (fun _ => rfl) (fun bytes filled short => ?_) (.refl port)
    refine ⟨bytes, rfl, fun _ => ⟨filled, fun bound same => ?_⟩⟩
    have known := limited bound same
    rw [ReadBuffer.nbytes_ofSize] at short
    omega
  | sending data offset fd =>
    obtain ⟨rfl, inside⟩ := serves
    exact settles_inGuard_of_good (held _ rfl) (settles_awake sound (settles_write honest sound))
  | draining =>
    have nothing : call.payload = [] := by rcases serves with rfl | rfl <;> rfl
    have unsent : sent = [] := List.prefix_nil.mp (nothing ▸ sound.taken)
    subst unsent
    refine settles_inGuard_of_good (held _ rfl) ?_
    have sound' : Sound call (.parked .draining) ([] ++ []) := sound
    have raises : ∀ exc, Good .sending call [] port (.raised exc) port := good_raised sound' (.refl port)
    unfold Settles
    rw [ends_bind, Port.ends_arrive]
    exact ⟨fun _ => settles_pollOutput serves (.refl port), fun _ => raises _, fun _ => raises _⟩
  | drainingExact =>
    cases serves
    have unsent : sent = [] := List.prefix_nil.mp sound.taken
    subst unsent
    exact settles_inGuard_of_good (held _ rfl) settles_drainExact
  | breaking =>
    obtain ⟨duration, rfl⟩ := serves
    have unsent : sent = [] := List.prefix_nil.mp sound.taken
    subst unsent
    exact settles_inGuard_of_good (held _ rfl) settles_endBreak
  | configuring config acquired =>
    cases serves
    have unsent : sent = [] := List.prefix_nil.mp sound.taken
    subst unsent
    exact steps_configure

end Segments

section Runs

variable {state final : State (Recorded σ)} {label : Label} {sent : List Bytes}

/-- The invariant of every run. `sent` lists what the backend has taken of each task's payload. -/
structure Orderly (sent : List Bytes) (state : State (Recorded σ)) : Prop where
  length : sent.length = state.tasks.length
  sound : ∀ (me : Nat) (task : Task) taken, state.tasks[me]? = some task → sent[me]? = some taken →
    Sound task.call task.progress taken
  guarded : ∀ direction, state.port.guarded direction = true ↔
    ∃ (me : Nat) (task : Task), state.tasks[me]? = some task ∧ task.progress.direction = some direction
  exclusive : ∀ direction (me other : Nat) (task rival : Task), state.tasks[me]? = some task →
    state.tasks[other]? = some rival → task.progress.direction = some direction →
    rival.progress.direction = some direction → me = other
  accepted : state.port.backend.accepted = sent.flatten
  delivered : state.port.backend.delivered = (state.tasks.map fun task => task.progress.bytes).flatten
  writing : ∀ (me : Nat) (task : Task), state.tasks[me]? = some task → task.progress.direction = some .sending →
    LastToWrite sent me
  reading : ∀ (me : Nat) (task : Task), state.tasks[me]? = some task → task.progress.direction = some .receiving →
    LastToWrite (state.tasks.map fun task => task.progress.bytes) me

theorem orderly_opened (inner : σ) (config : SerialConfig) : Orderly [] (State.opened (Recorded.fresh inner) config) := by
  refine ⟨rfl, ?_, ?_, ?_, rfl, rfl, ?_, ?_⟩
  · intro me task taken found
    cases found
  · intro direction
    constructor
    · intro held
      cases direction <;> cases held
    · rintro ⟨me, task, found, _⟩
      cases found
  · intro direction me other task rival found
    cases found
  · intro me task found
    cases found
  · intro me task found
    cases found

/-- A new call takes its place after all the others. -/
theorem Orderly.call (orderly : Orderly sent state) {call : Call} {progress : Progress} {after : Port (Recorded σ)}
    (began : Began call state.port progress after) :
    Orderly (sent ++ [[]]) ⟨after, state.tasks ++ [⟨call, progress⟩]⟩ := by
  have position : ∀ (me : Nat) (task : Task), (state.tasks ++ [⟨call, progress⟩])[me]? = some task →
      state.tasks[me]? = some task ∨ (me = state.tasks.length ∧ task = ⟨call, progress⟩) := by
    intro me task found
    rcases Nat.lt_trichotomy me state.tasks.length with earlier | same | later
    · rw [List.getElem?_append_left earlier] at found
      exact .inl found
    · subst same
      exact .inr ⟨rfl, by simpa using found.symm⟩
    · rw [List.getElem?_eq_none (by simp; omega)] at found
      cases found
  have old : ∀ (me : Nat) (task : Task), state.tasks[me]? = some task →
      (state.tasks ++ [⟨call, progress⟩])[me]? = some task := by
    intro me task found
    rw [List.getElem?_append_left (List.getElem?_eq_some_iff.mp found).1]
    exact found
  have new : (state.tasks ++ [⟨call, progress⟩])[state.tasks.length]? = some ⟨call, progress⟩ := by simp
  refine ⟨by simp [orderly.length], ?_, ?_, ?_, ?_, ?_, ?_, ?_⟩
  · intro me task taken found entry
    rcases position me task found with earlier | ⟨rfl, rfl⟩
    · have inside : me < sent.length := orderly.length ▸ (List.getElem?_eq_some_iff.mp earlier).1
      rw [List.getElem?_append_left inside] at entry
      exact orderly.sound me task taken earlier entry
    · rw [← orderly.length, List.getElem?_append_right (Nat.le_refl _), Nat.sub_self] at entry
      cases entry
      exact began.sound
  · intro direction
    rw [began.advanced.guarded direction]
    constructor
    · rintro (parked | ⟨held, _⟩)
      · exact ⟨_, _, new, parked⟩
      · obtain ⟨me, task, found, parked⟩ := (orderly.guarded direction).mp held
        exact ⟨me, task, old me task found, parked⟩
    · rintro ⟨me, task, found, parked⟩
      rcases position me task found with earlier | ⟨rfl, rfl⟩
      · exact .inr ⟨(orderly.guarded direction).mpr ⟨me, task, earlier, parked⟩, by simp⟩
      · exact .inl parked
  · intro direction me other task rival found foundRival parked parkedRival
    have alone : ∀ (other : Nat) (rival : Task), state.tasks[other]? = some rival →
        rival.progress.direction = some direction → progress.direction ≠ some direction := by
      intro other rival earlier parkedEarlier parkedNew
      have held := (orderly.guarded direction).mpr ⟨other, rival, earlier, parkedEarlier⟩
      rw [began.free direction parkedNew] at held
      cases held
    rcases position me task found with earlier | ⟨rfl, rfl⟩
    · rcases position other rival foundRival with earlierRival | ⟨rfl, rfl⟩
      · exact orderly.exclusive direction me other task rival earlier earlierRival parked parkedRival
      · exact absurd parkedRival (alone me task earlier parked)
    · rcases position other rival foundRival with earlierRival | ⟨rfl, rfl⟩
      · exact absurd parked (alone other rival earlierRival parkedRival)
      · rfl
  · rw [began.advanced.accepted, orderly.accepted]
    simp
  · rw [began.advanced.delivered, orderly.delivered, began.silent]
    simp [began.silent]
  · intro me task found parked
    rcases position me task found with earlier | ⟨rfl, rfl⟩
    · exact (orderly.writing me task earlier parked).append_nil
    · exact lastToWrite_of_newest _ (by simp [orderly.length])
  · intro me task found parked
    rw [List.map_append, List.map_singleton, began.silent]
    rcases position me task found with earlier | ⟨rfl, rfl⟩
    · exact (orderly.reading me task earlier parked).append_nil
    · exact lastToWrite_of_newest _ (by simp)

theorem payload_of_serves {call : Call} {frame : Frame} (serves : frame.Serves call)
    (other : frame.direction ≠ some .sending) : call.payload = [] := by
  cases frame with
  | receiving size fd =>
    obtain ⟨maxBytes, rfl, _⟩ := serves
    rfl
  | receivingInto buffer fd | awaitingInput limit fd | configuring config acquired =>
    cases serves
    rfl
  | receivingAvailable size fd =>
    obtain ⟨limit, rfl, _⟩ := serves
    rfl
  | sending data offset fd => exact absurd rfl other
  | draining | drainingExact | breaking => exact absurd rfl other

theorem bytes_of_serves {call : Call} {frame : Frame} {progress : Progress} {taken : Bytes}
    (serves : frame.Serves call) (other : frame.direction ≠ some .receiving) (sound : Sound call progress taken) :
    progress.bytes = [] := by
  cases progress with
  | parked frame => rfl
  | raised exc => rfl
  | returned value =>
    have yields := sound.yields value rfl
    cases frame with
    | receiving size fd | receivingInto buffer fd | awaitingInput limit fd | receivingAvailable size fd =>
      exact absurd rfl other
    | sending data offset fd =>
      obtain ⟨rfl, _⟩ := serves
      exact yields
    | draining =>
      rcases serves with rfl | rfl
      · exact yields
      · exact yields
    | breaking =>
      obtain ⟨duration, rfl⟩ := serves
      exact yields
    | drainingExact | configuring config acquired =>
      cases serves
      exact yields

theorem set_same {entries : List Bytes} {me : Nat} {entry : Bytes} (found : entries[me]? = some entry) :
    entries.set me entry = entries := by
  obtain ⟨inside, rfl⟩ := List.getElem?_eq_some_iff.mp found
  exact List.set_getElem_self inside

/-- A parked call goes on: only the last task that wrote, or read, can do so again. -/
theorem Orderly.wake (orderly : Orderly sent state) {me : Nat} {call : Call} {frame : Frame} {progress : Progress}
    {after : Port (Recorded σ)} {taken : Bytes} (found : state.tasks[me]? = some ⟨call, .parked frame⟩)
    (entry : sent[me]? = some taken) (steps : Steps frame.direction call taken state.port progress after) :
    ∃ sent', Orderly sent' ⟨after, state.tasks.set me ⟨call, progress⟩⟩ := by
  obtain ⟨accepted, advanced, sound, kept⟩ := steps
  have serves : frame.Serves call := (orderly.sound me _ _ found entry).serves frame rfl
  have inside : me < state.tasks.length := (List.getElem?_eq_some_iff.mp found).1
  have insideSent : me < sent.length := orderly.length ▸ inside
  have here : (state.tasks.set me ⟨call, progress⟩)[me]? = some ⟨call, progress⟩ := List.getElem?_set_self inside
  have there : ∀ other, other ≠ me → (state.tasks.set me ⟨call, progress⟩)[other]? = state.tasks[other]? :=
    fun other different => List.getElem?_set_ne (Ne.symm different)
  -- A task other than `me` that is parked where `me` was parked would be `me`.
  have alone : ∀ direction (other : Nat) (rival : Task), state.tasks[other]? = some rival →
      rival.progress.direction = some direction → frame.direction = some direction → other = me :=
    fun direction other rival foundRival parked mine =>
      orderly.exclusive direction other me rival _ foundRival found parked mine
  have unwritten : frame.direction ≠ some .sending → accepted = [] := by
    intro other
    have whole := sound.taken
    rw [payload_of_serves serves other] at whole
    exact (List.append_eq_nil_iff.mp (List.prefix_nil.mp whole)).2
  have unread : frame.direction ≠ some .receiving → progress.bytes = [] :=
    fun other => bytes_of_serves serves other sound
  have bytes : ((state.tasks.set me ⟨call, progress⟩).map fun task => task.progress.bytes) =
      (state.tasks.map fun task => task.progress.bytes).set me ([] ++ progress.bytes) := by
    rw [List.map_set, List.nil_append]
  have oldBytes : (state.tasks.map fun task => task.progress.bytes)[me]? = some [] := by
    rw [List.getElem?_map, found]
    rfl
  refine ⟨sent.set me (taken ++ accepted), ?_, ?_, ?_, ?_, ?_, ?_, ?_, ?_⟩
  · simp [orderly.length]
  · intro other task entryOther foundOther foundEntry
    by_cases same : other = me
    · subst same
      rw [here] at foundOther
      rw [List.getElem?_set_self insideSent] at foundEntry
      cases foundOther
      cases foundEntry
      exact sound
    · rw [there other same] at foundOther
      rw [List.getElem?_set_ne (Ne.symm same)] at foundEntry
      exact orderly.sound other task entryOther foundOther foundEntry
  · intro direction
    rw [advanced.guarded direction]
    constructor
    · rintro (parked | ⟨held, different⟩)
      · exact ⟨me, _, here, parked⟩
      · obtain ⟨other, task, foundOther, parked⟩ := (orderly.guarded direction).mp held
        have notMe : other ≠ me := by
          rintro rfl
          cases found.symm.trans foundOther
          exact different parked
        exact ⟨other, task, (there other notMe).trans foundOther, parked⟩
    · rintro ⟨other, task, foundOther, parked⟩
      by_cases same : other = me
      · subst same
        cases here.symm.trans foundOther
        exact .inl parked
      · rw [there other same] at foundOther
        refine .inr ⟨(orderly.guarded direction).mpr ⟨other, task, foundOther, parked⟩, fun mine => same ?_⟩
        exact alone direction other task foundOther parked mine
  · intro direction first second task rival foundFirst foundSecond parkedFirst parkedSecond
    by_cases firstMe : first = me
    · by_cases secondMe : second = me
      · exact firstMe.trans secondMe.symm
      · subst firstMe
        cases here.symm.trans foundFirst
        rw [there second secondMe] at foundSecond
        exact (alone direction second rival foundSecond parkedSecond (kept direction parkedFirst)).symm
    · rw [there first firstMe] at foundFirst
      by_cases secondMe : second = me
      · subst secondMe
        cases here.symm.trans foundSecond
        exact alone direction first task foundFirst parkedFirst (kept direction parkedSecond)
      · rw [there second secondMe] at foundSecond
        exact orderly.exclusive direction first second task rival foundFirst foundSecond parkedFirst parkedSecond
  · rw [advanced.accepted, orderly.accepted]
    by_cases writes : frame.direction = some .sending
    · exact (flatten_set_of_lastToWrite entry (orderly.writing me _ found writes)).symm
    · rw [unwritten writes, List.append_nil, List.append_nil, set_same entry]
  · rw [advanced.delivered, orderly.delivered, bytes]
    by_cases reads : frame.direction = some .receiving
    · exact (flatten_set_of_lastToWrite oldBytes (orderly.reading me _ found reads)).symm
    · rw [unread reads, List.append_nil, List.append_nil, set_same oldBytes]
  · intro other task foundOther parked
    by_cases same : other = me
    · subst same
      cases here.symm.trans foundOther
      exact (orderly.writing other _ found (kept .sending parked)).set_self
    · rw [there other same] at foundOther
      have notMine : frame.direction ≠ some .sending := fun mine => same (alone .sending other task foundOther parked mine)
      rw [unwritten notMine, List.append_nil, set_same entry]
      exact orderly.writing other task foundOther parked
  · intro other task foundOther parked
    rw [bytes]
    by_cases same : other = me
    · subst same
      cases here.symm.trans foundOther
      exact (orderly.reading other _ found (kept .receiving parked)).set_self
    · rw [there other same] at foundOther
      have notMine : frame.direction ≠ some .receiving := fun mine =>
        same (alone .receiving other task foundOther parked mine)
      rw [unread notMine, List.append_nil, set_same oldBytes]
      exact orderly.reading other task foundOther parked

theorem quiet_closeBackend : Keeps Quiet (Port.closeBackend (recording backend) (recordingLoop loop)) :=
  keeps_closeBackend (fun _ => quiet_recordCall) quiet_recordCall fun _ _ =>
    ⟨fun direction => by cases direction <;> rfl, (List.append_nil _).symm, (List.append_nil _).symm⟩

theorem quiet_teardown (port : Port (Recorded σ)) (teardown : Teardown.State) :
    Quiet port { port with teardown := teardown } := by
  refine ⟨fun direction => ?_, (List.append_nil _).symm, (List.append_nil _).symm⟩
  cases direction <;> rfl

theorem quiet_acloseStep {label : AcloseLabel}
    (stepped : acloseStep (recording backend) (recordingLoop loop) port label = some after) : Quiet port after := by
  rcases acloseStep_cases stepped with ⟨_, teardown, _, _, rfl⟩ | ⟨me, teardown, _, _, rfl⟩
  · exact quiet_teardown port teardown
  · exact IsTrans.trans _ _ _ (related_closeOnce quiet_closeBackend port) (quiet_teardown _ teardown)

theorem Orderly.aclose (orderly : Orderly sent state) {after : Port (Recorded σ)} (quiet : Quiet state.port after) :
    Orderly sent { state with port := after } := by
  refine ⟨orderly.length, orderly.sound, fun direction => ?_, orderly.exclusive, ?_, ?_, orderly.writing, orderly.reading⟩
  · rw [quiet.guarded]
    exact orderly.guarded direction
  · rw [quiet.accepted, List.append_nil]
    exact orderly.accepted
  · rw [quiet.delivered, List.append_nil]
    exact orderly.delivered

theorem orderly_step (honest : backend.Honest) {after : State (Recorded σ)} (orderly : ∃ sent, Orderly sent state)
    (stepped : step (recording backend) (recordingLoop loop) state label = some after) : ∃ sent, Orderly sent after := by
  obtain ⟨sent, orderly⟩ := orderly
  rcases step_cases stepped with ⟨call, cancelled, rfl, rfl⟩ | ⟨me, wake, call, frame, rfl, found, _, rfl⟩ |
    ⟨acloseLabel, port, rfl, closed, rfl⟩
  · exact ⟨_, orderly.call (settles_iff.mp (began_start _ cancelled call))⟩
  · have inside : me < sent.length := orderly.length ▸ (List.getElem?_eq_some_iff.mp found).1
    have entry : sent[me]? = some sent[me] := List.getElem?_eq_getElem inside
    have held : ∀ direction, frame.direction = some direction → state.port.guarded direction = true :=
      fun direction parked => (orderly.guarded direction).mpr ⟨me, _, found, parked⟩
    exact orderly.wake found entry (settles_iff.mp (steps_resume honest me wake (orderly.sound me _ _ found entry) held))
  · exact ⟨sent, orderly.aclose (quiet_acloseStep closed)⟩

theorem Orderly.integrity (orderly : Orderly sent state) : StreamIntegrity state := by
  refine ⟨⟨sent, orderly.length, orderly.accepted, fun me task taken found entry => ?_⟩, orderly.delivered,
    fun task member value returned => ?_, orderly.exclusive, fun direction => ?_⟩
  · have sound := orderly.sound me task taken found entry
    exact ⟨sound.taken, sound.whole⟩
  · obtain ⟨me, inside, rfl⟩ := List.mem_iff_getElem.mp member
    have insideSent : me < sent.length := orderly.length ▸ inside
    have entry : sent[me]? = some sent[me] := List.getElem?_eq_getElem insideSent
    exact (orderly.sound me _ _ (List.getElem?_eq_getElem inside) entry).yields value returned
  · rw [orderly.guarded direction]
    constructor
    · rintro ⟨me, task, found, parked⟩
      exact ⟨task, List.mem_of_getElem? found, parked⟩
    · rintro ⟨task, member, parked⟩
      obtain ⟨me, found⟩ := List.mem_iff_getElem?.mp member
      exact ⟨me, task, found, parked⟩

/-- In every run on a fresh port, with any backend that keeps its promise and in any
interleaving, the byte streams are intact and the guards exclude. -/
theorem streams_intact (honest : backend.Honest) (inner : σ) (config : SerialConfig) {labels : List Label}
    (ran : run (step (recording backend) (recordingLoop loop)) (.opened (.fresh inner) config) labels = some final) :
    StreamIntegrity final := by
  obtain ⟨sent, orderly⟩ := run_invariant (fun state => ∃ sent, Orderly sent state)
    ⟨[], orderly_opened inner config⟩ (fun _ _ _ orderly stepped => orderly_step honest orderly stepped) ran
  exact orderly.integrity

/-- A send of three bytes, with a whole receive between its two writes, and a close. -/
def interleavedRun : List Label :=
  [.call (.send [7, 8, 9]) false, .wake 0 .ready, .call (.receive 16) false, .wake 1 .ready, .wake 0 .ready,
    .aclose (.call false), .aclose (.resume 0)]

theorem streams_intact_on_linux :
    ∃ final, run (step (recording Linux.linuxBackend) (recordingLoop quietLoop))
        (.opened (.fresh Linux.polledTerminal) {}) interleavedRun = some final ∧
      final.tasks.map Task.progress = [.returned .none, .returned (.data [1, 2])] ∧
      final.port.backend.accepted = [7, 8, 9] ∧ StreamIntegrity final := by
  have outcome : ((run (step (recording Linux.linuxBackend) (recordingLoop quietLoop))
      (.opened (.fresh Linux.polledTerminal) {}) interleavedRun).any fun final =>
        final.tasks.map Task.progress = [.returned .none, .returned (.data [1, 2])] ∧
          final.port.backend.accepted = [7, 8, 9]) = true := by decide +kernel
  obtain ⟨final, ran, ended⟩ := (Option.any_eq_true _ _).mp outcome
  obtain ⟨progress, accepted⟩ := of_decide_eq_true ended
  exact ⟨final, ran, progress, accepted, streams_intact Posix.syncBackend_honest _ {} ran⟩

end Runs

end Anyserial
