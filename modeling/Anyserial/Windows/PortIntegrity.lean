import Anyserial.Kit.Lanes
import Anyserial.Windows.PortProperties

/-! The byte streams of the port over the Windows backend: the two guards keep one read and
one write in flight, so that short and empty completions, cancellations and the close of the
port neither reorder what is received nor what is sent. -/
set_option autoImplicit false

namespace Anyserial.Windows

open Kit

variable {lossless weaker : Prop} {state next : AsyncState}

namespace AsyncState

def line (state : AsyncState) : Line := state.port.backend.line

def runtime (state : AsyncState) : Option RuntimeFlavour := state.port.backend.windows.backend.runtime

/-- All that the receives have returned. -/
def received (state : AsyncState) : Bytes := (state.tasks.map fun task => task.progress.bytes).flatten

/-- What the kernel has read for a task that has not gone on yet. -/
def pending (state : AsyncState) : Bytes := (state.tasks.map fun task => task.progress.pending).flatten

end AsyncState

/-- The step gives up no byte that was to be read. Of the cancellations only those of a receive
on asyncio may do so, because the future of the read does not wait for the kernel. -/
def KeepsInput (state : AsyncState) : AsyncLabel → Prop
  | .call call _ _ => call ≠ .resetInputBuffer
  | .cancel me _ _ =>
      state.runtime = some .trio ∨ ∀ call frame, state.frame me = some (call, frame) → frame.direction ≠ some .receiving
  | .aclose (.resume _ _) _ => state.port.closed = true
  | _ => True

/-- What went through the line. What the kernel has taken are, in order, prefixes of the
payloads, and whole payloads of the sends that returned. What has arrived was returned by the
receives in that order, or is about to be, or waits to be read. -/
structure StreamsIntact (lossless : Prop) (state : AsyncState) : Prop where
  sends : ∃ sent : List Bytes, sent.length = state.tasks.length ∧ state.line.output = sent.flatten ∧
    ∀ (me : Nat) (task : AsyncTask) taken, state.tasks[me]? = some task → sent[me]? = some taken →
      taken <+: task.call.payload ∧ ∀ value, task.progress = .returned value → taken = task.call.payload
  receives : Retains lossless state.line.arrived (state.received ++ (state.pending ++ state.line.input))
  chunks : ∀ task ∈ state.tasks, ∀ value, task.progress = .returned value → task.call.Yields value
  exclusive : ∀ direction (me other : Nat) (task rival : AsyncTask), state.tasks[me]? = some task →
    state.tasks[other]? = some rival → task.progress.direction = some direction →
    rival.progress.direction = some direction → me = other
  guards : ∀ direction, state.port.guarded direction = true ↔
    ∃ (me : Nat) (task : AsyncTask), state.tasks[me]? = some task ∧ task.progress.direction = some direction

section Invariant

/-- A task, with what the kernel has taken of its payload. -/
abbrev Sender := AsyncTask × Bytes

def laneOf (sender : Sender) : Option Direction := sender.1.progress.direction

def entryOf : Direction → Sender → Bytes
  | .receiving, sender => sender.1.progress.bytes
  | .sending, sender => sender.2

def shownBy (sender : Sender) : Bytes := sender.1.progress.pending

/-- The invariant of every run. `carried` is what went through each direction. -/
structure Intact (lossless : Prop) (senders : List Sender) (carried : Direction → Bytes) (state : AsyncState) : Prop where
  tasks : senders.map Prod.fst = state.tasks
  fits : ∀ sender ∈ senders, sender.1.progress.Fits sender.1.call sender.2
  lanes : Lanes laneOf entryOf state.port.guarded carried senders
  output : state.line.output = carried .sending
  arrived : Retains lossless state.line.arrived (carried .receiving ++ ((senders.map shownBy).flatten ++ state.line.input))

theorem shownBy_of_elsewhere {sender : Sender} (elsewhere : laneOf sender ≠ some .receiving) : shownBy sender = [] := by
  obtain ⟨⟨call, progress⟩, sent⟩ := sender
  cases progress with
  | parked frame =>
    cases frame with
    | reading => exact absurd rfl elsewhere
    | _ => rfl
  | _ => rfl

variable {senders : List Sender} {carried : Direction → Bytes} {me : Nat} {call : Anyserial.Call} {frame : Frame}
  {progress : AsyncProgress} {sent : Bytes}

theorem Intact.streamsIntact (intact : Intact lossless senders carried state) : StreamsIntact lossless state := by
  have sender_of : ∀ (me : Nat) (task : AsyncTask), state.tasks[me]? = some task →
      ∃ sent, senders[me]? = some (task, sent) := by
    intro me task found
    rw [← intact.tasks, List.getElem?_map, Option.map_eq_some_iff] at found
    obtain ⟨⟨other, sent⟩, there, rfl⟩ := found
    exact ⟨sent, there⟩
  have received : state.received = carried .receiving := by
    rw [intact.lanes.stream .receiving, AsyncState.received, ← intact.tasks, List.map_map]
    rfl
  have pending : state.pending = (senders.map shownBy).flatten := by
    rw [AsyncState.pending, ← intact.tasks, List.map_map]
    rfl
  constructor
  case sends =>
    refine ⟨senders.map Prod.snd, ?_, intact.output.trans (intact.lanes.stream .sending), ?_⟩
    · rw [← intact.tasks, List.length_map, List.length_map]
    · intro me task taken found entry
      obtain ⟨sent, there⟩ := sender_of me task found
      rw [List.getElem?_map, there] at entry
      obtain rfl : sent = taken := Option.some.inj entry
      have fits := intact.fits _ (List.mem_of_getElem? there)
      obtain ⟨call, progress⟩ := task
      cases progress with
      | parked frame =>
        refine ⟨prefix_of_serves fits, ?_⟩
        intro value never
        cases never
      | returned value => exact ⟨fits.2 ▸ List.prefix_refl _, fun _ _ => fits.2⟩
      | raised exc =>
        refine ⟨fits, ?_⟩
        intro value never
        cases never
  case receives =>
    rw [received, pending]
    exact intact.arrived
  case chunks =>
    intro task member value returned
    obtain ⟨me, _, found⟩ := List.mem_iff_getElem.mp member
    obtain ⟨sent, there⟩ := sender_of me task (found ▸ List.getElem?_eq_getElem _)
    have fits := intact.fits _ (List.mem_of_getElem? there)
    dsimp only at fits
    rw [returned] at fits
    exact fits.1
  case exclusive =>
    intro direction me other task rival found foundRival inside insideRival
    obtain ⟨sent, there⟩ := sender_of me task found
    obtain ⟨sentRival, thereRival⟩ := sender_of other rival foundRival
    exact intact.lanes.exclusive direction me other _ _ there thereRival inside insideRival
  case guards =>
    intro direction
    rw [intact.lanes.held direction]
    constructor
    · rintro ⟨me, ⟨task, sent⟩, there, inside⟩
      refine ⟨me, task, ?_, inside⟩
      rw [← intact.tasks, List.getElem?_map, there]
      rfl
    · rintro ⟨me, task, found, inside⟩
      obtain ⟨sent, there⟩ := sender_of me task found
      exact ⟨me, _, there, inside⟩

theorem Intact.weaken (intact : Intact lossless senders carried state) (weakens : weaker → lossless) :
    Intact weaker senders carried state :=
  ⟨intact.tasks, intact.fits, intact.lanes, intact.output, intact.arrived.weaken weakens⟩

theorem tasks_of_frame (found : state.frame me = some (call, frame)) : state.tasks[me]? = some ⟨call, .parked frame⟩ := by
  unfold AsyncState.frame at found
  split at found
  · rename_i same
    cases found
    exact same
  · cases found

/-- The parked task of a step, as a sender. -/
theorem Intact.sender (intact : Intact lossless senders carried state) (found : state.frame me = some (call, frame)) :
    ∃ sent, senders[me]? = some (⟨call, .parked frame⟩, sent) ∧ frame.Serves call sent := by
  have task := tasks_of_frame found
  rw [← intact.tasks, List.getElem?_map, Option.map_eq_some_iff] at task
  obtain ⟨⟨other, sent⟩, there, rfl⟩ := task
  exact ⟨sent, there, intact.fits _ (List.mem_of_getElem? there)⟩

/-- A new call takes its place after all the others. -/
theorem Intact.begins (intact : Intact lossless senders carried state) {before after : AsyncPort}
    (guards : ∀ direction, before.guarded direction = state.port.guarded direction) (same : portView before = portView state.port)
    (began : Began call before progress after) (weakens : weaker → lossless) (keeps : weaker → call ≠ .resetInputBuffer) :
    Intact weaker (senders ++ [(⟨call, progress⟩, [])]) carried ⟨after, state.tasks ++ [⟨call, progress⟩]⟩ := by
  have moves := began.moves
  rw [same] at moves
  obtain ⟨arrived, output, input⟩ := moves.streams
  constructor
  case tasks => rw [List.map_append, intact.tasks, List.map_singleton]
  case fits =>
    intro sender member
    rcases List.mem_append.mp member with earlier | newest
    · exact intact.fits sender earlier
    · obtain rfl := List.mem_singleton.mp newest
      exact began.fits
  case lanes =>
    refine intact.lanes.join (fun direction => ?_) (fun direction inside => ?_) (fun direction => ?_) fun _ => rfl
    · cases direction with
      | receiving => exact began.silent
      | sending => rfl
    · rw [← guards direction]
      exact began.free direction inside
    · rw [began.guarded direction, guards direction]
      exact Iff.rfl
  case output => exact output.trans intact.output
  case arrived =>
    have shown : ((senders ++ [((⟨call, progress⟩, []) : Sender)]).map shownBy).flatten = (senders.map shownBy).flatten := by
      rw [List.map_append, List.flatten_append, List.map_singleton, List.flatten_singleton]
      exact (congrArg _ began.nothing).trans (List.append_nil _)
    rw [shown]
    change Retains weaker (portView after).arrived (carried .receiving ++ ((senders.map shownBy).flatten ++ (portView after).input))
    rw [arrived]
    rcases input with kept | ⟨reset, emptied⟩
    · rw [kept]
      exact intact.arrived.weaken weakens
    · rw [emptied]
      refine intact.arrived.drop ?_ weakens fun still => absurd reset (keeps still)
      exact ((List.Sublist.refl _).append (List.nil_sublist _)).append_left _

/-- The queue as the task that reads sees it. -/
theorem Intact.reading (intact : Intact lossless senders carried state)
    (there : senders[me]? = some (⟨call, .parked frame⟩, sent)) (inside : frame.direction = some .receiving) :
    Retains lossless state.line.arrived (carried .receiving ++ (frame.pending ++ state.line.input)) := by
  have shown := intact.lanes.flatten_set there inside (fun _ elsewhere => shownBy_of_elsewhere elsewhere)
    ((⟨call, .parked frame⟩, sent) : Sender)
  obtain ⟨_, same⟩ := List.getElem?_eq_some_iff.mp there
  rw [← same, List.set_getElem_self, same] at shown
  have arrived := intact.arrived
  rw [shown] at arrived
  exact arrived

/-- What a task adds to each direction when it goes on. -/
def addedBy (progress : AsyncProgress) (more : Bytes) : Direction → Bytes
  | .receiving => progress.bytes
  | .sending => more

/-- What becomes of the line while the task `me` goes on from `frame`. -/
structure Passes (lossless weaker : Prop) (frame : Frame) (arrived : Bytes) (progress : AsyncProgress) (more : Bytes)
    (before after : Line) : Prop where
  output : after.output = before.output ++ more
  unsent : frame.direction ≠ some .sending → more = []
  read : frame.direction = some .receiving →
    Retains weaker after.arrived ((arrived ++ progress.bytes) ++ (progress.pending ++ after.input))
  unread : frame.direction ≠ some .receiving → progress.bytes = [] ∧ after.arrived = before.arrived ∧
    after.input = before.input ∧ (weaker → lossless)

theorem Intact.goesOn (intact : Intact lossless senders carried state)
    (there : senders[me]? = some (⟨call, .parked frame⟩, sent)) {after : AsyncPort} {more : Bytes}
    (fits : progress.Fits call (sent ++ more))
    (guards : ∀ direction, after.guarded direction = true ↔
      progress.direction = some direction ∨ state.port.guarded direction = true ∧ frame.direction ≠ some direction)
    (stays : ∀ direction, progress.direction = some direction → frame.direction = some direction)
    (passes : Passes lossless weaker frame (carried .receiving) progress more state.line after.backend.line) :
    ∃ carried', Intact weaker (senders.set me (⟨call, progress⟩, sent ++ more)) carried'
      ⟨after, state.tasks.set me ⟨call, progress⟩⟩ := by
  let extra := addedBy progress more
  have elsewhere : ∀ direction, frame.direction ≠ some direction → extra direction = [] := by
    intro direction other
    cases direction with
    | receiving => exact (passes.unread other).1
    | sending => exact passes.unsent other
  refine ⟨fun direction => carried direction ++ extra direction, ?_⟩
  constructor
  case tasks => rw [List.map_set, intact.tasks]
  case fits =>
    intro sender member
    rcases List.mem_or_eq_of_mem_set member with earlier | rfl
    · exact intact.fits sender earlier
    · exact fits
  case lanes =>
    refine intact.lanes.move there stays extra (fun direction => ?_) elsewhere guards fun _ => rfl
    cases direction with
    | receiving => rfl
    | sending => rfl
  case output =>
    change after.backend.line.output = carried .sending ++ more
    rw [passes.output, intact.output]
  case arrived =>
    by_cases inside : frame.direction = some .receiving
    · rw [intact.lanes.flatten_set there inside fun _ elsewhere => shownBy_of_elsewhere elsewhere]
      exact passes.read inside
    · obtain ⟨_, arrived, input, weakens⟩ := passes.unread inside
      have before : shownBy (⟨call, .parked frame⟩, sent) = [] := shownBy_of_elsewhere inside
      have now : shownBy (⟨call, progress⟩, sent ++ more) = [] :=
        shownBy_of_elsewhere fun still => inside (stays _ still)
      have shown : ((senders.set me (⟨call, progress⟩, sent ++ more)).map shownBy) = senders.map shownBy := by
        have entry : (senders.map shownBy)[me]? = some [] := by
          rw [List.getElem?_map, there]
          exact congrArg some before
        rw [List.map_set, now, set_same entry]
      rw [shown]
      change Retains weaker after.backend.line.arrived
        ((carried .receiving ++ extra .receiving) ++ ((senders.map shownBy).flatten ++ after.backend.line.input))
      rw [elsewhere _ inside, List.append_nil, arrived, input]
      exact intact.arrived.weaken weakens

/-- A task goes on from its await, after the kernel may have moved bytes for it. -/
theorem Intact.resumes (intact : Intact lossless senders carried state)
    (there : senders[me]? = some (⟨call, .parked frame⟩, sent)) {before after : AsyncPort} {more : Bytes} {cancelled : Bool}
    (same : ∀ direction, before.guarded direction = state.port.guarded direction)
    (went : WentOn frame cancelled call (sent ++ more) before progress after)
    (output : before.backend.line.output = state.line.output ++ more) (unsent : frame.direction ≠ some .sending → more = [])
    (arrived : before.backend.line.arrived = state.line.arrived) (weakens : weaker → lossless)
    (read : frame.direction = some .receiving →
      ((if cancelled then [] else frame.pending) ++ before.backend.line.input).Sublist (frame.pending ++ state.line.input))
    (whole : weaker → frame.direction = some .receiving →
      (if cancelled then [] else frame.pending) ++ before.backend.line.input = frame.pending ++ state.line.input)
    (unread : frame.direction ≠ some .receiving → before.backend.line.input = state.line.input) :
    ∃ carried', Intact weaker (senders.set me (⟨call, progress⟩, sent ++ more)) carried'
      ⟨after, state.tasks.set me ⟨call, progress⟩⟩ := by
  obtain ⟨arrivedAfter, inputAfter, outputAfter⟩ := went.moves.streams
  refine intact.goesOn there went.fits (fun direction => ?_) went.stays ⟨outputAfter.trans output, unsent, fun inside => ?_,
    fun other => ?_⟩
  · rw [went.guarded direction, same direction]
  · change Retains weaker (portView after).arrived ((carried .receiving ++ progress.bytes) ++ (progress.pending ++ (portView after).input))
    rw [arrivedAfter, arrived, inputAfter, went.bytes, went.nothing, List.nil_append, List.append_assoc]
    refine (intact.reading there inside).drop ((read inside).append_left _) weakens fun still => ?_
    rw [whole still inside]
  · refine ⟨?_, arrivedAfter.trans arrived, inputAfter.trans (unread other), weakens⟩
    have nothing : frame.pending = [] := by
      cases frame with
      | reading => exact absurd rfl other
      | _ => rfl
    rw [went.bytes, nothing, ite_self]

end Invariant

section Steps

variable {me moved : Nat} {cancelled : Bool} {call : Anyserial.Call} {frame : Frame} {refusals : Refusals} {failed : Option WinExc}
  {senders : List Sender} {carried : Direction → Bytes} {port : AsyncPort}

def IntactState (lossless : Prop) (state : AsyncState) : Prop := ∃ senders carried, Intact lossless senders carried state

theorem IntactState.weaken (known : IntactState lossless state) (weakens : weaker → lossless) : IntactState weaker state := by
  obtain ⟨senders, carried, intact⟩ := known
  exact ⟨senders, carried, intact.weaken weakens⟩

theorem guarded_of_frame (intact : Intact lossless senders carried state) {sent : Bytes}
    (there : senders[me]? = some (⟨call, .parked frame⟩, sent)) :
    ∀ direction, frame.direction = some direction → state.port.guarded direction = true :=
  fun direction inside => (intact.lanes.held direction).mpr ⟨me, _, there, inside⟩

/-- A task goes on after an await for which the kernel moves nothing now. -/
theorem intact_resume (intact : Intact lossless senders carried state) (found : state.frame me = some (call, frame))
    (weakens : weaker → lossless)
    (whole : weaker → frame.direction = some .receiving → cancelled = true → frame.pending = []) :
    IntactState weaker (state.advance me call (AsyncPort.resume me cancelled frame) (facing refusals state.port)) := by
  obtain ⟨sent, there, serves⟩ := intact.sender found
  have held := guarded_of_frame intact there
  have went := settlesAsync_iff.mp (wentOn_resume (facing refusals state.port) me cancelled serves held)
  rw [advance_eq]
  rw [← List.append_nil sent] at went
  refine ⟨_, intact.resumes there ?_ went ?_ ?_ rfl weakens ?_ ?_ ?_⟩
  · exact fun _ => rfl
  · exact (List.append_nil _).symm
  · exact fun _ => rfl
  · intro _
    cases cancelled with
    | false => exact List.Sublist.refl _
    | true => exact List.sublist_append_right _ _
  · intro still inside
    cases cancelled with
    | false => rfl
    | true =>
      rw [whole still inside rfl]
      rfl
  · exact fun _ => rfl

theorem intact_wake (intact : Intact lossless senders carried state) (found : state.frame me = some (call, frame)) :
    IntactState lossless (state.advance me call (AsyncPort.resume me false frame) (facing refusals state.port)) := by
  refine intact_resume intact found id fun _ _ never => ?_
  cases never

/-- What a write had taken before the kernel was done with it. -/
theorem taken_more {data sent : Bytes} {offset : Nat} (taken : Taken data offset sent none) (moved : Nat) :
    sent ++ (data.drop offset).take moved = data.take (offset + moved) := by
  obtain rfl : sent = data.take offset := taken
  exact (List.take_add ..).symm

theorem intact_cancel (intact : Intact lossless senders carried state) (found : state.frame me = some (call, frame))
    (given : cancelFrame moved state.port frame = some port)
    (keeps : weaker → lossless ∧ (state.runtime = some .trio ∨ frame.direction ≠ some .receiving)) :
    IntactState weaker (state.advance me call (AsyncPort.resume me true frame) (facing refusals port)) := by
  obtain ⟨sent, there, serves⟩ := intact.sender found
  have held := guarded_of_frame intact there
  have weakens : weaker → lossless := fun still => (keeps still).1
  -- A frame for which the kernel moves nothing.
  have quiet : port = state.port → (weaker → frame.direction = some .receiving → frame.pending = []) →
      IntactState weaker (state.advance me call (AsyncPort.resume me true frame) (facing refusals port)) := by
    intro same nothing
    rw [same]
    exact intact_resume intact found weakens fun still inside _ => nothing still inside
  cases frame with
  | reading size into completion =>
    cases completion with
    | none =>
      simp only [cancelFrame] at given
      split at given
      · rename_i within
        obtain rfl := Option.some.inj given
        have went := settlesAsync_iff.mp (wentOn_resume (facing refusals (take moved state.port)) me true serves held)
        rw [advance_eq]
        rw [← List.append_nil sent] at went
        refine ⟨_, intact.resumes there ?_ went ?_ ?_ rfl weakens ?_ ?_ ?_⟩
        · exact fun direction => by cases direction <;> rfl
        · exact (List.append_nil _).symm
        · exact fun _ => rfl
        · exact fun _ => List.drop_sublist _ _
        · intro still _
          obtain rfl : moved = 0 := within.2 ((keeps still).2.resolve_right fun other => other rfl)
          rfl
        · exact fun other => absurd rfl other
      · cases given
    | some completion =>
      simp only [cancelFrame] at given
      split at given
      · cases given
      · rename_i asyncio
        refine quiet (Option.some.inj given).symm fun still _ => ?_
        exact absurd ((keeps still).2.resolve_right fun other => other rfl) asyncio
  | writing data offset completion =>
    cases completion with
    | none =>
      obtain rfl : put ((data.drop offset).take moved) state.port = port := Option.some.inj given
      obtain ⟨rfl, inside, taken⟩ := serves
      have grown := taken_more taken moved
      have further : sent ++ (data.drop offset).take moved <+: Call.payload (.send data) := grown ▸ List.take_prefix _ _
      have went := settlesAsync_iff.mp (wentOn_writing_cancelled
        (facing refusals (put ((data.drop offset).take moved) state.port)) me data offset none further (held _ rfl))
      rw [advance_eq]
      refine ⟨_, intact.resumes there ?_ went ?_ ?_ rfl weakens ?_ ?_ ?_⟩
      · exact fun direction => by cases direction <;> rfl
      · rfl
      · exact fun other => absurd rfl other
      · intro never
        cases never
      · intro _ never
        cases never
      · exact fun _ => rfl
    | some completion =>
      simp only [cancelFrame] at given
      split at given
      · cases given
      · exact quiet (Option.some.inj given).symm fun _ never => by cases never
  | flushing | breaking => exact quiet (Option.some.inj given).symm fun _ never => by cases never
  | configuring config acquired =>
    simp only [cancelFrame] at given
    split at given
    · cases given
    · exact quiet (Option.some.inj given).symm fun _ never => by cases never

/-- The kernel is done with an operation: what it read is kept for the task, and what it took
of the payload is on its way. -/
theorem intact_complete (intact : Intact lossless senders carried state) (found : state.frame me = some (call, frame))
    {done : Frame} (completed : completeFrame moved failed state.port frame = some (done, port)) :
    IntactState lossless ⟨port, state.tasks.set me ⟨call, .parked done⟩⟩ := by
  obtain ⟨sent, there, serves⟩ := intact.sender found
  have held := guarded_of_frame intact there
  have guards : done.direction = frame.direction → (∀ direction, port.guarded direction = state.port.guarded direction) →
      ∀ direction, port.guarded direction = true ↔
        AsyncProgress.direction (.parked done) = some direction ∨
          state.port.guarded direction = true ∧ frame.direction ≠ some direction := by
    intro same kept direction
    change port.guarded direction = true ↔ done.direction = some direction ∨ _
    rw [kept, same]
    by_cases inside : frame.direction = some direction
    · simp [inside, held direction inside]
    · simp [inside]
  cases frame with
  | reading size into completion =>
    cases completion with
    | some completion => cases completed
    | none =>
      obtain ⟨reads, rfl, _⟩ := serves
      have queue := intact.reading there rfl
      cases failed with
      | some exc =>
        obtain ⟨rfl, rfl⟩ := Prod.mk.inj (Option.some.inj completed)
        have further : (Frame.reading size into (some (.error exc))).Serves call ([] ++ []) := by
          refine ⟨reads, rfl, ?_⟩
          intro data never
          cases never
        refine ⟨_, intact.goesOn there further (guards rfl fun _ => rfl) (fun _ => id) ⟨(List.append_nil _).symm,
          fun _ => rfl, fun _ => ?_, ?_⟩⟩
        · change Retains lossless state.line.arrived ((carried .receiving ++ []) ++ ([] ++ state.line.input))
          rw [List.append_nil]
          exact queue
        · exact fun other => absurd rfl other
      | none =>
        obtain ⟨rfl, rfl⟩ := Prod.mk.inj (Option.some.inj completed)
        have further : (Frame.reading size into (some (.ok (state.line.input.take (min moved size))))).Serves call ([] ++ []) := by
          refine ⟨reads, rfl, ?_⟩
          intro data same
          cases same
          rw [List.length_take]
          omega
        refine ⟨_, intact.goesOn there further (guards rfl fun direction => by cases direction <;> rfl) (fun _ => id)
          ⟨(List.append_nil _).symm, fun _ => rfl, fun _ => ?_, ?_⟩⟩
        · change Retains lossless state.line.arrived ((carried .receiving ++ []) ++
            (state.line.input.take (min moved size) ++ state.line.input.drop (min moved size)))
          rw [List.append_nil, List.take_append_drop]
          exact queue
        · exact fun other => absurd rfl other
  | writing data offset completion =>
    cases completion with
    | some completion => cases completed
    | none =>
      obtain ⟨rfl, inside, taken⟩ := serves
      have grown := taken_more taken moved
      obtain ⟨rfl, rfl⟩ := Prod.mk.inj (Option.some.inj completed)
      have further : (Frame.writing data offset (some (writeCompletion moved (data.length - offset) failed))).Serves
          (.send data) (sent ++ (data.drop offset).take moved) := by
        refine ⟨rfl, inside, ?_⟩
        rw [grown]
        cases failed with
        | some exc => exact List.take_prefix _ _
        | none =>
          refine ⟨by omega, ?_⟩
          rcases Nat.le_total moved (data.length - offset) with short | long
          · rw [Nat.min_eq_left short]
          · rw [Nat.min_eq_right long, List.take_of_length_le (by omega), List.take_of_length_le (by omega)]
      refine ⟨_, intact.goesOn there further (guards rfl fun direction => by cases direction <;> rfl) (fun _ => id)
        ⟨rfl, fun other => absurd rfl other, ?_, fun _ => ⟨rfl, rfl, rfl, id⟩⟩⟩
      intro never
      cases never
  | flushing | breaking | configuring => cases completed

/-- The line after a close: what was not read may be gone. -/
structure Emptied (before after : AsyncPort) : Prop where
  guarded : ∀ direction, after.guarded direction = before.guarded direction
  arrived : after.backend.line.arrived = before.backend.line.arrived
  output : after.backend.line.output = before.backend.line.output
  input : after.backend.line.input = before.backend.line.input ∨ after.backend.line.input = []

theorem emptied_closeOnce (port : AsyncPort) : Emptied port (closeOnce port) := by
  have closes : Ends closeBackend port (fun _ after => Emptied port after) (fun _ after => Emptied port after) := by
    simp only [closeBackend, ends_bind, ends_get, ends_onWindows, ends_ite, ends_modifyLine, ends_pure]
    refine ends_of_forall (fun _ windows => ⟨fun _ => ?_, fun _ => ?_⟩) fun _ windows => ?_
    · exact ⟨fun direction => by cases direction <;> rfl, rfl, rfl, .inr rfl⟩
    · exact ⟨fun direction => by cases direction <;> rfl, rfl, rfl, .inl rfl⟩
    · exact ⟨fun direction => by cases direction <;> rfl, rfl, rfl, .inl rfl⟩
  unfold closeOnce
  split
  · exact ⟨fun _ => rfl, rfl, rfl, .inl rfl⟩
  · unfold Ends at closes
    split at closes
    · rename_i ran
      rw [ran]
      exact closes
    · rename_i ran
      rw [ran]
      exact closes

theorem Intact.line (intact : Intact lossless senders carried state)
    (guards : ∀ direction, port.guarded direction = state.port.guarded direction)
    (output : port.backend.line.output = state.line.output)
    (arrived : Retains weaker port.backend.line.arrived
      (carried .receiving ++ ((senders.map shownBy).flatten ++ port.backend.line.input))) :
    Intact weaker senders carried { state with port := port } := by
  have same : port.guarded = state.port.guarded := funext guards
  exact ⟨intact.tasks, intact.fits, same ▸ intact.lanes, output.trans intact.output, arrived⟩

theorem intact_aclose (intact : Intact lossless senders carried state) {label : Teardown.Label}
    (closed : asyncAclose (facing refusals state.port) label = some port)
    (keeps : weaker → lossless ∧ KeepsInput state (.aclose label refusals)) :
    Intact weaker senders carried { state with port := port } := by
  have weakens : weaker → lossless := fun still => (keeps still).1
  have same : port.guarded = state.port.guarded → port.backend.line = state.line →
      Intact weaker senders carried { state with port := port } := by
    intro guards line
    refine intact.line (fun direction => congrFun guards direction) (congrArg Line.output line) ?_
    rw [line]
    exact intact.arrived.weaken weakens
  obtain ⟨teardown, rfl | ⟨⟨closer, result, rfl⟩, rfl⟩⟩ := asyncAclose_cases closed
  · exact same (funext fun direction => by cases direction <;> rfl) rfl
  · have emptied := emptied_closeOnce (facing refusals state.port)
    refine intact.line (fun direction => ?_) emptied.output ?_
    · have kept := emptied.guarded direction
      cases direction with
      | receiving => exact kept
      | sending => exact kept
    · change Retains weaker (closeOnce (facing refusals state.port)).backend.line.arrived (carried .receiving ++
        ((senders.map shownBy).flatten ++ (closeOnce (facing refusals state.port)).backend.line.input))
      rw [emptied.arrived]
      refine intact.arrived.drop (List.Sublist.append_left (List.Sublist.append_left ?_ _) _) weakens fun still => ?_
      · rcases emptied.input with kept | gone
        · rw [kept]
          exact List.Sublist.refl _
        · rw [gone]
          exact List.nil_sublist _
      · have already : (facing refusals state.port).closed = true := (keeps still).2
        rw [closeOnce, if_pos already]
        rfl

/-- One step keeps the streams intact, and all of the input as long as the step does. -/
theorem intact_step {label : AsyncLabel} (known : IntactState lossless state) (stepped : asyncStep state label = some next)
    (keeps : weaker → lossless ∧ KeepsInput state label) : IntactState weaker next := by
  obtain ⟨senders, carried, intact⟩ := known
  have weakens : weaker → lossless := fun still => (keeps still).1
  cases label with
  | call call cancelled refusals =>
    rw [asyncStep_call] at stepped
    obtain rfl := Option.some.inj stepped
    have began := settlesAsync_iff.mp (began_start (facing refusals state.port) state.tasks.length cancelled call)
    have guards : ∀ direction, (facing refusals state.port).guarded direction = state.port.guarded direction :=
      fun direction => by cases direction <;> rfl
    exact ⟨_, _, intact.begins guards rfl began weakens fun still => (keeps still).2⟩
  | complete me moved failed =>
    obtain ⟨call, frame, done, port, found, completed, rfl⟩ := asyncStep_complete_iff.mp stepped
    exact (intact_complete intact found completed).weaken weakens
  | wake me refusals =>
    obtain ⟨call, frame, found, _, rfl⟩ := asyncStep_wake_iff.mp stepped
    exact (intact_wake intact found).weaken weakens
  | cancel me moved refusals =>
    obtain ⟨call, frame, port, found, given, rfl⟩ := asyncStep_cancel_iff.mp stepped
    exact intact_cancel intact found given fun still => ⟨weakens still, (keeps still).2.imp_right fun others => others call frame found⟩
  | aclose label refusals =>
    obtain ⟨port, closed, rfl⟩ := asyncStep_aclose_iff.mp stepped
    exact ⟨senders, carried, intact_aclose intact closed keeps⟩
  | arrives bytes =>
    obtain rfl := Option.some.inj stepped
    refine IntactState.weaken ⟨senders, carried, intact.line (fun direction => by cases direction <;> rfl) rfl ?_⟩ weakens
    change Retains lossless (state.line.arrived ++ bytes)
      (carried .receiving ++ ((senders.map shownBy).flatten ++ (state.line.input ++ bytes)))
    rw [← List.append_assoc _ state.line.input bytes, ← List.append_assoc]
    exact intact.arrived.put bytes
  | signals unsent status =>
    obtain rfl := Option.some.inj stepped
    exact ⟨senders, carried, intact.line (fun direction => by cases direction <;> rfl) rfl (intact.arrived.weaken weakens)⟩

end Steps

/-- The line as the port finds it: what has arrived by then was not read yet. -/
structure Line.Fresh (line : Line) : Prop where
  input : line.input = line.arrived
  output : line.output = []

theorem intact_opened (windows : WindowsWorld) {line : Line} (config : SerialConfig) (fresh : line.Fresh) :
    IntactState True (.opened windows line config) := by
  refine ⟨[], fun _ => [], rfl, ?_, Lanes.empty (fun direction => ?_) fun _ => rfl, fresh.output, ?_⟩
  · intro sender member
    cases member
  · cases direction <;> rfl
  · change Retains True line.arrived ([] ++ ([] ++ line.input))
    rw [List.nil_append, List.nil_append, fresh.input]
    exact retains_self _

/-- Whatever the tasks, the kernel and the other end of the line do, the streams are intact,
and in a run of steps that keep the input nothing of it is lost. -/
theorem async_streams_intact {windows : WindowsWorld} {line : Line} {config : SerialConfig} {labels : List AsyncLabel} {final : AsyncState}
    (fresh : line.Fresh) (ran : run asyncStep (.opened windows line config) labels = some final) :
    StreamsIntact (∀ taken label rest state, labels = taken ++ label :: rest →
      run asyncStep (.opened windows line config) taken = some state → KeepsInput state label) final := by
  have intact : IntactState (∀ taken label rest state, labels = taken ++ label :: rest →
      run asyncStep (.opened windows line config) taken = some state → KeepsInput state label) final := by
    induction labels using List.reverseRecOn generalizing final with
    | nil =>
      cases ran
      exact (intact_opened windows config fresh).weaken fun _ => trivial
    | append_singleton labels label ih =>
      rw [run_concat] at ran
      obtain ⟨state, reached, stepped⟩ := Option.bind_eq_some_iff.mp ran
      refine intact_step (ih reached) stepped fun keeps => ⟨fun taken earlier rest middle split ranEarlier => ?_, ?_⟩
      · exact keeps taken earlier (rest ++ [label]) middle (by rw [split, List.append_assoc, List.cons_append]) ranEarlier
      · exact keeps labels label [] state rfl reached
  obtain ⟨senders, carried, intact⟩ := intact
  exact intact.streamsIntact

/-- A port on the proactor, whose line has nothing on it yet. -/
def openedOnProactor : WindowsWorld := finalState (openSerialPort "COM3" .defaults) ⟨{}, comHost .proactor {}⟩

def silentLine : Line := ⟨[], [], [], 0, 0, false, false, false⟩

/-- A receive that gets two bytes of three, and a send in two writes around it. -/
def duplexRun : List AsyncLabel :=
  [.call (.receive 4) false {}, .arrives [1, 2, 3], .complete 0 2 none, .call (.send [7, 8]) false {}, .complete 1 1 none,
    .wake 1 {}, .wake 0 {}, .complete 1 5 none, .wake 1 {}]

theorem async_streams_intact_of_duplex :
    ∃ final, run asyncStep (.opened openedOnProactor silentLine .defaults) duplexRun = some final ∧
      final.tasks.map AsyncTask.progress = [.returned (.data [1, 2]), .returned .none] ∧
      final.line.output = [7, 8] ∧ final.line.input = [3] ∧
      StreamsIntact (∀ taken label rest state, duplexRun = taken ++ label :: rest →
        run asyncStep (.opened openedOnProactor silentLine .defaults) taken = some state → KeepsInput state label) final := by
  have outcome : ((run asyncStep (.opened openedOnProactor silentLine .defaults) duplexRun).any fun final =>
      final.tasks.map AsyncTask.progress = [.returned (.data [1, 2]), .returned .none] ∧
        final.line.output = [7, 8] ∧ final.line.input = [3]) = true := by decide +kernel
  obtain ⟨final, ran, ended⟩ := (Option.any_eq_true _ _).mp outcome
  obtain ⟨progress, output, input⟩ := of_decide_eq_true ended
  exact ⟨final, ran, progress, output, input, async_streams_intact ⟨rfl, rfl⟩ ran⟩

end Anyserial.Windows
