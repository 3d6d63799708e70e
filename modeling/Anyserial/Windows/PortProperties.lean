import Anyserial.Stream.IntegrityProperties
import Anyserial.Windows.SegmentProperties

/-! The segments of every call, taken one by one: what has become of the call, which guard it
is behind, and what it has changed. -/
set_option autoImplicit false

namespace Anyserial.Windows

open Kit

variable {α : Type} {port before middle after : AsyncPort} {call : Anyserial.Call} {direction : Direction} {sent : Bytes}

/-- The reads that a call issues. -/
def IssuesRead (size : Nat) (into : Bool) : Anyserial.Call → Prop
  | .receive maxBytes => (size : Int) = maxBytes ∧ into = false
  | .receiveInto buffer => size = buffer.nbytes ∧ into = true
  | .receiveAvailable limit => (∀ bound, limit = some bound → (size : Int) ≤ bound) ∧ into = false
  | _ => False

/-- What the kernel has taken of the payload, by the completion of the last write. -/
def Taken (data : Bytes) (offset : Nat) (sent : Bytes) : Option (Completion Nat) → Prop
  | none => sent = data.take offset
  | some (.ok count) => offset + count ≤ data.length ∧ sent = data.take (offset + count)
  | some (.error _) => sent <+: data

/-- The call that a frame belongs to, when the kernel has taken `sent` of its payload. -/
def Frame.Serves (call : Anyserial.Call) (sent : Bytes) : Frame → Prop
  | .reading size into completion =>
      IssuesRead size into call ∧ sent = [] ∧ ∀ data, completion = some (.ok data) → data.length ≤ size
  | .writing data offset completion => call = .send data ∧ offset < data.length ∧ Taken data offset sent completion
  | .flushing => call ∈ [.drain, .drainExact, .sendEof] ∧ sent = []
  | .breaking => (∃ duration, call = .sendBreak duration) ∧ sent = []
  | .configuring config _ => call = .configure config ∧ sent = []

def AsyncProgress.Fits (call : Anyserial.Call) (sent : Bytes) : AsyncProgress → Prop
  | .parked frame => frame.Serves call sent
  | .returned value => call.Yields value ∧ sent = call.payload
  | .raised _ => sent <+: call.payload

theorem payload_of_reads {size : Nat} {into : Bool} (reads : IssuesRead size into call) : call.payload = [] := by
  cases call <;> first | rfl | cases reads

theorem taken_prefix {data : Bytes} {offset : Nat} {completion : Option (Completion Nat)}
    (taken : Taken data offset sent completion) : sent <+: data := by
  rcases completion with _ | _ | count
  · exact taken ▸ List.take_prefix _ _
  · exact taken
  · exact taken.2 ▸ List.take_prefix _ _

theorem prefix_of_serves {frame : Frame} (serves : frame.Serves call sent) : sent <+: call.payload := by
  cases frame with
  | reading size into completion => exact serves.2.1 ▸ List.nil_prefix
  | writing data offset completion =>
    obtain ⟨rfl, _, taken⟩ := serves
    exact taken_prefix taken
  | flushing | breaking | configuring => exact serves.2 ▸ List.nil_prefix

theorem yields_of_reads {size : Nat} {into : Bool} {data : Bytes} (reads : IssuesRead size into call) (some : data ≠ [])
    (short : data.length ≤ size) : call.Yields (if into then .filled data else .data data) := by
  cases call with
  | receive maxBytes =>
    obtain ⟨fits, rfl⟩ := reads
    exact ⟨data, rfl, some, by omega⟩
  | receiveInto buffer =>
    obtain ⟨rfl, rfl⟩ := reads
    exact ⟨data, rfl, some, short⟩
  | receiveAvailable limit =>
    obtain ⟨limited, rfl⟩ := reads
    refine ⟨data, rfl, fun _ => ⟨some, fun bound same => ?_⟩⟩
    have known := limited bound same
    omega
  | _ => cases reads

/-- Where a segment ends, and the port that it leaves behind. -/
def SettlesAsync (body : Serial Outcome) (port : AsyncPort) (good : AsyncProgress → AsyncPort → Prop) : Prop :=
  Ends body port (fun outcome after => good outcome.progress after) (fun exc after => good (.raised exc) after)

theorem settlesAsync_iff {body : Serial Outcome} {good : AsyncProgress → AsyncPort → Prop} :
    SettlesAsync body port good ↔ good (settleAsync (body port)).1 (settleAsync (body port)).2 := by
  unfold SettlesAsync Ends
  rcases ran : body port with ⟨outcome, after⟩ | ⟨exc, after⟩
  · cases outcome with
    | suspended frame => exact Iff.rfl
    | returned value => exact Iff.rfl
  · exact Iff.rfl

section Guards

theorem view_setGuard (port : AsyncPort) (direction : Direction) (held : Bool) :
    portView (port.setGuard direction held) = portView port := by
  cases direction <;> rfl

theorem refusals_setGuard (port : AsyncPort) (direction : Direction) (held : Bool) : SameRefusals port (port.setGuard direction held) := by
  cases direction <;> exact ⟨rfl, rfl⟩

theorem breakOn_setGuard (port : AsyncPort) (direction : Direction) (held : Bool) :
    (port.setGuard direction held).backend.line.breakOn = port.backend.line.breakOn := by
  cases direction <;> rfl

theorem lock_setGuard (port : AsyncPort) (direction : Direction) (held : Bool) :
    (port.setGuard direction held).configureLock = port.configureLock := by
  cases direction <;> rfl

/-- The guard is given back unless the body is parked. -/
def released (direction : Direction) (port : AsyncPort) : AsyncProgress → AsyncPort
  | .parked _ => port
  | .returned _ | .raised _ => port.setGuard direction false

theorem view_released (progress : AsyncProgress) : portView (released direction port progress) = portView port := by
  cases progress with
  | parked frame => rfl
  | returned value | raised exc => exact view_setGuard port direction false

theorem lock_released (progress : AsyncProgress) : (released direction port progress).configureLock = port.configureLock := by
  cases progress with
  | parked frame => rfl
  | returned value | raised exc => exact lock_setGuard port direction false

theorem settles_inGuard {body : Serial Outcome} {good : AsyncProgress → AsyncPort → Prop} :
    SettlesAsync (AsyncPort.inGuard direction body) port good ↔
      SettlesAsync body port fun progress after => good progress (released direction after progress) := by
  unfold SettlesAsync
  simp only [AsyncPort.inGuard, AsyncPort.exitGuard, ends_bind, ends_tryCatch, ends_modify, ends_throw]
  constructor
  · intro ends
    refine ends.mono (fun outcome after done => ?_) fun _ _ done => done
    cases outcome with
    | suspended frame => exact done
    | returned value => exact done
  · intro ends
    refine ends.mono (fun outcome after done => ?_) fun _ _ done => done
    cases outcome with
    | suspended frame => exact done
    | returned value => exact done

end Guards

section Start

/-- What the first segment of a call does to the view. -/
def Moves (progress : AsyncProgress) (before after : View) : Anyserial.Call → Prop
  | .resetInputBuffer => after = before ∨ after = { before with input := [] }
  | .sendBreak _ =>
      match progress with
      | .parked _ => before.backend.handle ∈ before.live ∧ after = { before with breakOn := true }
      | _ => after = { before with breakOn := after.breakOn }
  | _ => after = before

/-- Only the reset touches the queue, and no first segment touches the other streams. -/
theorem Moves.streams {progress : AsyncProgress} {before after : View} (moves : Moves progress before after call) :
    after.arrived = before.arrived ∧ after.output = before.output ∧
      (after.input = before.input ∨ call = .resetInputBuffer ∧ after.input = []) := by
  cases call with
  | resetInputBuffer =>
    rcases moves with rfl | rfl
    · exact ⟨rfl, rfl, .inl rfl⟩
    · exact ⟨rfl, rfl, .inr ⟨rfl, rfl⟩⟩
  | sendBreak duration =>
    cases progress with
    | parked frame =>
      obtain ⟨_, rfl⟩ := moves
      exact ⟨rfl, rfl, .inl rfl⟩
    | returned value | raised exc =>
      have same : after = { before with breakOn := after.breakOn } := moves
      rw [same]
      exact ⟨rfl, rfl, .inl rfl⟩
  | _ =>
    obtain rfl : after = before := moves
    exact ⟨rfl, rfl, .inl rfl⟩

/-- A break whose sleep did not begin. The line is released if the kernel does it. -/
structure Unslept (call : Anyserial.Call) (before after : AsyncPort) : Prop where
  call : ∃ duration, call = .sendBreak duration ∧ before.backend.sleeps duration = false
  released : before.backend.refused .clearCommBreak = none → after.backend.line.breakOn = false

structure Began (call : Anyserial.Call) (before : AsyncPort) (progress : AsyncProgress) (after : AsyncPort) : Prop where
  guarded : ∀ direction, after.guarded direction = true ↔
    before.guarded direction = true ∨ progress.direction = some direction
  free : ∀ direction, progress.direction = some direction → before.guarded direction = false
  fits : progress.Fits call []
  silent : progress.bytes = []
  nothing : progress.pending = []
  moves : Moves progress (portView before) (portView after) call
  unslept : (∀ frame, progress ≠ .parked frame) → after.backend.line.breakOn = before.backend.line.breakOn ∨
    before.guarded .sending = false ∧ Unslept call before after
  lock : (∀ config, call ≠ .configure config) → after.configureLock = before.configureLock

theorem moves_same {progress : AsyncProgress} {same : View} (unparked : ∀ frame, progress ≠ .parked frame) :
    Moves progress same same call := by
  cases call with
  | resetInputBuffer => exact .inl rfl
  | sendBreak duration =>
    cases progress with
    | parked frame => exact absurd rfl (unparked frame)
    | returned value | raised exc => rfl
  | _ => rfl

theorem Unchanged.breakOn (unchanged : Unchanged port after) : after.backend.line.breakOn = port.backend.line.breakOn :=
  congrArg (fun view : View => view.breakOn) unchanged.view

theorem began_raised (unchanged : Unchanged port after) (exc : WinExc) : Began call port (.raised exc) after := by
  constructor
  case guarded => simp [unchanged.guarded, AsyncProgress.direction]
  case free =>
    intro direction never
    cases never
  case fits => exact List.nil_prefix
  case silent => rfl
  case nothing => rfl
  case moves =>
    rw [unchanged.view]
    exact moves_same (by simp)
  case unslept => exact fun _ => .inl unchanged.breakOn
  case lock => exact fun _ => unchanged.lock

/-- A call that ends at once and gives back nothing that was read. -/
theorem began_returned (unchanged : Unchanged port after) {value : Value} (yields : call.Yields value)
    (bytes : value.bytes = []) (payload : call.payload = []) : Began call port (.returned value) after := by
  constructor
  case guarded => simp [unchanged.guarded, AsyncProgress.direction]
  case free =>
    intro direction never
    cases never
  case fits => exact ⟨yields, payload.symm⟩
  case silent => exact bytes
  case nothing => rfl
  case moves =>
    rw [unchanged.view]
    exact moves_same (by simp)
  case unslept => exact fun _ => .inl unchanged.breakOn
  case lock => exact fun _ => unchanged.lock

/-- What a guarded body comes to in its first segment. -/
structure Enters (direction : Direction) (call : Anyserial.Call) (outcome : Outcome) : Prop where
  fits : outcome.progress.Fits call []
  silent : outcome.progress.bytes = []
  nothing : outcome.progress.pending = []
  behind : ∀ frame, outcome = .suspended frame → frame.direction = some direction

/-- What a guarded body leaves behind that raises in its first segment. -/
structure Fell (direction : Direction) (call : Anyserial.Call) (before after : AsyncPort) : Prop where
  guarded : ∀ other, after.guarded other = before.guarded other
  lock : after.configureLock = before.configureLock
  breakOn : after.backend.line.breakOn = before.backend.line.breakOn ∨ direction = .sending ∧ Unslept call before after
  moves : ∀ exc, Moves (.raised exc) (portView before) (portView after) call

theorem Unchanged.fell (unchanged : Unchanged before after) : Fell direction call before after := by
  refine ⟨unchanged.guarded, unchanged.lock, .inl unchanged.breakOn, fun exc => ?_⟩
  rw [unchanged.view]
  exact moves_same (by simp)

theorem began_withGuard {body : Serial Outcome}
    (ends : ∀ entered, Ends body entered
      (fun outcome after => Enters direction call outcome ∧ (∀ other, after.guarded other = entered.guarded other) ∧
        after.configureLock = entered.configureLock ∧
          ((∀ frame, outcome ≠ .suspended frame) → after.backend.line.breakOn = entered.backend.line.breakOn) ∧
          Moves outcome.progress (portView entered) (portView after) call)
      (fun _ after => Fell direction call entered after)) :
    SettlesAsync (AsyncPort.withGuard direction body) port (Began call port) := by
  unfold SettlesAsync
  simp only [AsyncPort.withGuard, AsyncPort.enterGuard, ends_bind, ends_get, ends_ite, ends_throw, ends_set]
  refine ⟨fun _ => began_raised (Std.Refl.refl port) _, fun free => ?_⟩
  have free : port.guarded direction = false := by simpa using free
  have entered := view_setGuard port direction true
  have started := breakOn_setGuard port direction true
  -- The guard that the body gives back was free before.
  have restored : ∀ (after : AsyncPort), (∀ other, after.guarded other = (port.setGuard direction true).guarded other) →
      ∀ other, (after.setGuard direction false).guarded other = port.guarded other := by
    intro after kept other
    rw [guarded_setGuard, kept, guarded_setGuard]
    by_cases same : other = direction
    · rw [if_pos same, same, free]
    · rw [if_neg same, if_neg same]
  refine settles_inGuard.mpr ((ends _).mono (fun outcome after done => ?_) fun exc after fell => ?_)
  · obtain ⟨enters, kept, lock, level, moves⟩ := done
    rw [entered] at moves
    have lock : after.configureLock = port.configureLock := lock.trans (lock_setGuard port direction true)
    cases outcome with
    | suspended frame =>
      have behind := enters.behind frame rfl
      constructor
      case guarded =>
        intro other
        change after.guarded other = true ↔ port.guarded other = true ∨ frame.direction = some other
        rw [behind, kept, guarded_setGuard]
        by_cases same : other = direction
        · simp [same]
        · simp [same, Ne.symm same]
      case free =>
        intro other inside
        cases behind.symm.trans inside
        exact free
      case fits => exact enters.fits
      case silent => exact enters.silent
      case nothing => exact enters.nothing
      case moves => exact moves
      case unslept => exact fun unparked => absurd rfl (unparked frame)
      case lock => exact fun _ => lock
    | returned value =>
      constructor
      case guarded =>
        intro other
        change (after.setGuard direction false).guarded other = true ↔ _
        simp [restored after kept, Outcome.progress, AsyncProgress.direction]
      case free =>
        intro direction never
        cases never
      case fits => exact enters.fits
      case silent => exact enters.silent
      case nothing => exact enters.nothing
      case moves =>
        rw [view_released]
        exact moves
      case unslept => exact fun _ => .inl ((breakOn_setGuard after direction false).trans ((level (by simp)).trans started))
      case lock => exact fun _ => (lock_setGuard after direction false).trans lock
  · constructor
    case guarded =>
      intro other
      change (after.setGuard direction false).guarded other = true ↔ _
      simp [restored after fell.guarded, AsyncProgress.direction]
    case free =>
      intro direction never
      cases never
    case fits => exact List.nil_prefix
    case silent => rfl
    case nothing => rfl
    case moves =>
      have moves := fell.moves exc
      rw [entered] at moves
      rw [view_released]
      exact moves
    case unslept =>
      intro _
      change (after.setGuard direction false).backend.line.breakOn = _ ∨ _
      rw [breakOn_setGuard, ← started]
      refine fell.breakOn.imp id fun unslept => ?_
      obtain ⟨rfl, slept, released⟩ := unslept
      have same := refusals_setGuard port .sending true
      refine ⟨free, same.sleeps ▸ slept, fun granted => ?_⟩
      exact (breakOn_setGuard after .sending false).trans (released (same.calls ▸ granted))
    case lock => exact fun _ => (lock_setGuard after direction false).trans (fell.lock.trans (lock_setGuard port direction true))

/-- What a body returns, wherever it is run. -/
def Leads (body : Serial α) (good : α → Prop) : Prop := ∀ port, Ends body port (fun value _ => good value) fun _ _ => True

theorem Leads.bind {β : Type} {body : Serial β} {next : β → Serial α} {good : α → Prop}
    (rest : ∀ value, Leads (next value) good) : Leads (body >>= next) good := by
  intro port
  rw [ends_bind]
  exact ends_of_forall (fun value middle => rest value middle) fun _ _ => trivial

theorem Leads.pure {value : α} {good : α → Prop} (holds : good value) : Leads (Pure.pure value) good := fun _ => holds

theorem Leads.throw {exc : WinExc} {good : α → Prop} : Leads (throw exc : Serial α) good := fun _ => trivial

theorem Leads.ite {condition : Prop} [Decidable condition] {body other : Serial α} {good : α → Prop}
    (onTrue : condition → Leads body good) (onFalse : ¬condition → Leads other good) :
    Leads (if condition then body else other) good := by
  intro port
  rw [ends_ite]
  exact ⟨fun holds => onTrue holds port, fun fails => onFalse fails port⟩

/-- The body changes nothing but what the view leaves out. -/
theorem began_guarded {body : Serial Outcome} (quiet : ∀ duration, call ≠ .sendBreak duration) (kept : Keeps Unchanged body)
    (leads : Leads body (Enters direction call)) :
    SettlesAsync (AsyncPort.withGuard direction body) port (Began call port) := by
  refine began_withGuard fun entered => ((kept entered).and (leads entered)).mono (fun outcome after done => ?_) fun _ _ done => done.1.fell
  obtain ⟨unchanged, enters⟩ := done
  refine ⟨enters, unchanged.guarded, unchanged.lock, fun _ => unchanged.breakOn, ?_⟩
  rw [unchanged.view]
  cases call with
  | sendBreak duration => exact absurd rfl (quiet duration)
  | resetInputBuffer => exact .inl rfl
  | _ => rfl

/-- A read that was issued. -/
theorem enters_reading {size : Nat} {into : Bool} (reads : IssuesRead size into call) :
    Enters .receiving call (.suspended (.reading size into none)) := by
  constructor
  case fits =>
    refine ⟨reads, rfl, ?_⟩
    intro data never
    cases never
  case silent => rfl
  case nothing => rfl
  case behind =>
    intro frame same
    cases same
    rfl

theorem leads_receive {maxBytes : Int} (reads : ∀ size : Nat, (size : Int) = maxBytes → IssuesRead size false call)
    (positive : 0 < maxBytes) : Leads (Windows.receive maxBytes) (Enters .receiving call) :=
  .bind fun _ => .bind fun _ => .bind fun _ =>
    .pure (enters_reading (reads _ (Int.toNat_of_nonneg (Int.le_of_lt positive))))

theorem began_receive {maxBytes : Int} : SettlesAsync (AsyncPort.receive maxBytes) port (Began (.receive maxBytes) port) := by
  unfold AsyncPort.receive
  split
  · exact began_raised (Std.Refl.refl port) _
  · rename_i positive
    refine began_guarded (by simp) (unchanged_raiseIfPortClosed.bind fun _ => unchanged_receive) (.bind fun _ => ?_)
    exact leads_receive (fun size fits => ⟨fits, rfl⟩) (Int.not_le.mp positive)

theorem began_receiveInto {buffer : ReadBuffer} :
    SettlesAsync (AsyncPort.receiveInto buffer) port (Began (.receiveInto buffer) port) := by
  unfold AsyncPort.receiveInto
  split
  · exact began_raised (Std.Refl.refl port) _
  split
  · exact began_raised (Std.Refl.refl port) _
  · have kept : Keeps Unchanged (Windows.receiveInto buffer) :=
      (unchanged_onWindows overlooked_raiseIfClosed).bind fun _ => .ite (fun _ => unchanged_issueRead) fun _ => .throw _
    refine began_guarded (by simp) (unchanged_raiseIfPortClosed.bind fun _ => kept) ?_
    refine .bind fun _ => .bind fun _ => .ite (fun _ => ?_) fun _ => .throw
    exact .bind fun _ => .pure (enters_reading ⟨rfl, rfl⟩)

theorem began_receiveAvailable {limit : Option Int} :
    SettlesAsync (AsyncPort.receiveAvailable limit) port (Began (.receiveAvailable limit) port) := by
  refine began_guarded (by simp) ?_ (.bind fun _ => .bind fun waiting => .bind fun port => .ite (fun empty => ?_) fun some => ?_)
  · refine unchanged_raiseIfPortClosed.bind fun _ => unchanged_comstat.bind fun _ => Keeps.get.bind fun _ => ?_
    exact .ite (fun _ => .pure _) fun _ => unchanged_receive
  · refine .pure ⟨⟨⟨[], rfl, fun admissible => ?_⟩, rfl⟩, rfl, rfl, by simp⟩
    exact absurd (availableSize_pos admissible) (Int.not_lt.mpr empty)
  · refine leads_receive (fun size fits => ⟨fun bound limited => ?_, rfl⟩) (Int.not_le.mp some)
    subst limited
    exact fits ▸ availableSize_le (le_refl bound)

theorem began_send {data : Bytes} : SettlesAsync (AsyncPort.send data) port (Began (.send data) port) := by
  unfold AsyncPort.send
  split
  · rename_i empty
    obtain rfl : data = [] := List.length_eq_zero_iff.mp empty
    unfold SettlesAsync
    simp only [ends_bind, ends_raiseIfPortClosed, ends_pure]
    refine ⟨fun _ => began_raised (Std.Refl.refl port) _, fun _ => ?_⟩
    exact began_returned (Std.Refl.refl port) (show Call.Yields (.send []) .none from rfl) rfl rfl
  · rename_i nonempty
    have kept : Keeps Unchanged (Windows.send data) :=
      (unchanged_onWindows overlooked_raiseIfClosed).bind fun _ => unchanged_issueWrite
    have positive : 0 < data.length := Nat.pos_of_ne_zero nonempty
    refine began_guarded (by simp) (unchanged_raiseIfPortClosed.bind fun _ => kept) (.bind fun _ => .bind fun _ => ?_)
    refine .ite (fun _ => .bind fun _ => .pure ?_) fun ended => absurd positive ended
    constructor
    case fits => exact ⟨rfl, positive, rfl⟩
    case silent => rfl
    case nothing => rfl
    case behind =>
      intro frame same
      cases same
      rfl

theorem began_drain (drains : call ∈ [.drain, .drainExact, .sendEof]) : SettlesAsync AsyncPort.drain port (Began call port) := by
  have quiet : ∀ duration, call ≠ .sendBreak duration := by
    rintro duration rfl
    simp at drains
  refine began_guarded quiet ?_ (.bind fun _ => .bind fun _ => .pure ?_)
  · exact unchanged_raiseIfPortClosed.bind fun _ => (unchanged_onWindows overlooked_raiseIfClosed).bind fun _ => .pure _
  · constructor
    case fits => exact ⟨drains, rfl⟩
    case silent => rfl
    case nothing => rfl
    case behind =>
      intro frame same
      cases same
      rfl

theorem live_of_lineCall {call : LineCall} :
    Ends (lineCall call) port (fun _ after => after.backend.windows.backend.handle ∈ after.backend.windows.host.live) fun _ _ => True := by
  rw [ends_lineCall]
  exact ⟨fun live => ⟨fun _ _ => trivial, fun _ => live⟩, fun _ => trivial⟩

/-- The `finally` of a break: the line is released if the kernel does it. -/
theorem ends_clearCommBreak {returned : Unit → AsyncPort → Prop} {raised : WinExc → AsyncPort → Prop}
    (onReturn : ∀ after, (∀ other, after.guarded other = port.guarded other) → after.configureLock = port.configureLock →
      portView after = { portView port with breakOn :=
        if port.backend.windows.backend.handle ∈ port.backend.windows.host.live ∧ port.backend.refused .clearCommBreak = none
        then false else port.backend.line.breakOn } → returned () after) :
    Ends clearCommBreak port returned raised := by
  have kept : ¬(port.backend.windows.backend.handle ∈ port.backend.windows.host.live ∧
      port.backend.refused .clearCommBreak = none) → returned () port := by
    refine fun refused => onReturn port (fun _ => rfl) rfl ?_
    rw [if_neg refused]
    rfl
  simp only [clearCommBreak, ends_tryCatch, ends_bind, ends_lineCall, ends_modifyLine, ends_ite, ends_pure, ends_throw]
  refine ⟨fun live => ⟨fun err refused => ⟨fun _ => kept fun both => ?_, fun never => ?_⟩, fun allowed => ?_⟩,
    fun dead => ⟨fun _ => kept fun both => dead both.1, fun never => ?_⟩⟩
  · cases refused.symm.trans both.2
  · exact absurd rfl never
  · refine onReturn _ (fun other => by cases other <;> rfl) rfl ?_
    rw [if_pos ⟨live, allowed⟩]
    rfl
  · exact absurd rfl never

/-- The line is driven on a break exactly when the call goes on to sleep. -/
theorem began_sendBreak {duration : Number} :
    SettlesAsync (AsyncPort.sendBreak duration) port (Began (.sendBreak duration) port) := by
  unfold AsyncPort.sendBreak
  split
  · refine began_withGuard fun entered => ?_
    simp only [ends_bind, ends_raiseIfPortClosed]
    refine ⟨fun _ => (Std.Refl.refl entered : Unchanged entered entered).fell, fun _ => ?_⟩
    simp only [Windows.sendBreak, ends_bind, ends_tryCatch, ends_pure, ends_throw]
    refine (unchanged_onWindows overlooked_raiseIfClosed entered).mono (fun _ checked unchanged => ?_) fun _ _ unchanged => unchanged.fell
    simp only [setCommBreak, ends_bind, ends_translatingLine, ends_modifyLine]
    refine ((unchanged_lineCall checked).and live_of_lineCall).mono (fun _ after called => ?_) fun exc after called => ?_
    · obtain ⟨called, live⟩ := called
      have same : Unchanged entered after := IsTrans.trans _ _ _ unchanged called
      simp only [beginSleep, ends_bind, ends_get, ends_ite, ends_pure, ends_throw]
      constructor
      · intro slept
        refine ⟨⟨⟨⟨duration, rfl⟩, rfl⟩, rfl, rfl, ?_⟩, fun other => ?_, same.lock, ?_, ?_⟩
        · intro frame same
          cases same
          rfl
        · rw [← same.guarded other]
          cases other <;> rfl
        · exact fun unparked => absurd rfl (unparked .breaking)
        · simp only [Moves, Outcome.progress, ← same.view]
          exact ⟨live, rfl⟩
      · intro unslept
        refine ends_clearCommBreak fun ended kept lock view => ?_
        constructor
        case guarded =>
          intro other
          rw [kept, ← same.guarded other]
          cases other <;> rfl
        case lock => exact lock.trans same.lock
        case breakOn =>
          refine .inr ⟨rfl, ⟨duration, rfl, ?_⟩, fun granted => ?_⟩
          · rw [← same.refusals.sleeps]
            exact Bool.not_eq_true _ ▸ unslept
          · have level := congrArg (fun view : View => view.breakOn) view
            refine level.trans (if_pos ⟨live, ?_⟩)
            exact same.refusals.calls ▸ granted
        case moves =>
          intro exc
          simp only [Moves, ← same.view, view]
          rfl
    · have same : Unchanged entered after := IsTrans.trans _ _ _ unchanged called.1
      exact ⟨fun _ => same.fell, fun _ => same.fell⟩
  · exact began_raised (Std.Refl.refl port) _

theorem began_acquireConfigure {config : SerialConfig} {me : Nat} {cancelled : Bool} :
    SettlesAsync (AsyncPort.acquireConfigure me cancelled config) port (Began (.configure config) port) := by
  unfold SettlesAsync
  simp only [AsyncPort.acquireConfigure, ends_bind, ends_get, ends_ite, ends_throw, ends_set, ends_pure]
  refine ⟨fun _ => began_raised (Std.Refl.refl port) _, fun _ => ?_⟩
  constructor
  case guarded =>
    intro other
    cases other <;> simp [Outcome.progress, AsyncProgress.direction, Frame.direction, Port.guarded]
  case free =>
    intro other never
    cases never
  case fits => exact ⟨rfl, rfl⟩
  case silent => rfl
  case nothing => rfl
  case moves => rfl
  case unslept => exact fun _ => .inl rfl
  case lock => exact fun other => absurd rfl (other config)

theorem began_control {body : Serial α} {value : α → Value} (kept : Keeps Unchanged body) (yields : ∀ result, call.Yields (value result))
    (bytes : ∀ result, (value result).bytes = []) (payload : call.payload = []) :
    SettlesAsync (AsyncPort.control body value) port (Began call port) := by
  unfold SettlesAsync
  simp only [AsyncPort.control, ends_bind, ends_raiseIfPortClosed, ends_pure]
  refine ⟨fun _ => began_raised (Std.Refl.refl port) _, fun _ => ?_⟩
  refine (kept port).mono (fun result after unchanged => ?_) fun exc after unchanged => began_raised unchanged exc
  exact began_returned unchanged (yields result) (bytes result) payload

theorem began_resetInputBuffer : SettlesAsync (AsyncPort.control Windows.resetInputBuffer fun _ => .none) port
    (Began .resetInputBuffer port) := by
  unfold SettlesAsync
  simp only [AsyncPort.control, Windows.resetInputBuffer, ends_bind, ends_raiseIfPortClosed, ends_modifyLine, ends_pure]
  refine ⟨fun _ => began_raised (Std.Refl.refl port) _, fun _ => ?_⟩
  refine (unchanged_purge port).mono (fun _ after unchanged => ?_) fun exc after unchanged => began_raised unchanged exc
  constructor
  case guarded =>
    intro other
    rw [← unchanged.guarded other]
    cases other <;> simp [Outcome.progress, AsyncProgress.direction, Port.guarded]
  case free =>
    intro other never
    cases never
  case fits => exact ⟨rfl, rfl⟩
  case silent => rfl
  case nothing => rfl
  case moves =>
    refine .inr ?_
    rw [← unchanged.view]
    rfl
  case unslept => exact fun _ => .inl unchanged.breakOn
  case lock => exact fun _ => unchanged.lock

/-- The first segment of any call. -/
theorem began_start (port : AsyncPort) (me : Nat) (cancelled : Bool) (call : Anyserial.Call) :
    SettlesAsync (AsyncPort.start me cancelled call) port (Began call port) := by
  cases call with
  | receive maxBytes => exact began_receive
  | receiveInto buffer => exact began_receiveInto
  | receiveAvailable limit => exact began_receiveAvailable
  | send data => exact began_send
  | sendEof =>
    unfold AsyncPort.start AsyncPort.sendEof SettlesAsync
    simp only [ends_bind, ends_get, ends_ite, ends_pure]
    refine ⟨fun _ => ?_, fun _ => began_drain (by simp)⟩
    exact began_returned (Std.Refl.refl port) (show Call.Yields .sendEof .none from rfl) rfl rfl
  | configure config => exact began_acquireConfigure
  | resetInputBuffer => exact began_resetInputBuffer
  | resetOutputBuffer => exact began_control unchanged_resetOutputBuffer (fun _ => rfl) (fun _ => rfl) rfl
  | drain => exact began_drain (by simp)
  | drainExact => exact began_drain (by simp)
  | sendBreak duration => exact began_sendBreak
  | modemLines => exact began_control unchanged_modemLines (fun _ => rfl) (fun _ => rfl) rfl
  | setControlLines rts dtr => exact began_control unchanged_setControlLines (fun _ => rfl) (fun _ => rfl) rfl
  | inputWaiting => exact began_control unchanged_comstat (fun _ => rfl) (fun _ => rfl) rfl
  | outputWaiting => exact began_control unchanged_comstat (fun _ => rfl) (fun _ => rfl) rfl

end Start

section Resume

variable {frame : Frame} {size offset : Nat} {into cancelled : Bool} {data : Bytes}

def reconfigured (config : SerialConfig) (before : View) : View :=
  { before with dcb := before.dcb.applyConfig config, backend := { before.backend with config := some config }, config := config }

/-- What the resumption of a frame does to the view. A break that the kernel does not end goes on. -/
def Goes (before : AsyncPort) (progress : AsyncProgress) (after : View) : Frame → Prop
  | .breaking =>
      (∀ next, progress ≠ .parked next) ∧ after = { portView before with breakOn :=
        if before.backend.windows.backend.handle ∈ before.backend.windows.host.live ∧ before.backend.refused .clearCommBreak = none
        then false else before.backend.line.breakOn }
  | .configuring config _ =>
      match progress with
      | .parked _ => False
      | .returned _ => after = reconfigured config (portView before)
      | .raised _ => after = portView before
  | _ => after = portView before

/-- No resumption touches the streams: the kernel did, when it was done with the operation. -/
theorem Goes.streams {progress : AsyncProgress} {after : View} (goes : Goes before progress after frame) :
    after.arrived = before.backend.line.arrived ∧ after.input = before.backend.line.input ∧
      after.output = before.backend.line.output := by
  cases frame with
  | breaking =>
    obtain ⟨_, rfl⟩ := goes
    exact ⟨rfl, rfl, rfl⟩
  | configuring config acquired =>
    cases progress with
    | parked next => exact goes.elim
    | returned value | raised exc =>
      cases goes
      exact ⟨rfl, rfl, rfl⟩
  | _ =>
    obtain rfl : after = portView before := goes
    exact ⟨rfl, rfl, rfl⟩

structure WentOn (frame : Frame) (cancelled : Bool) (call : Anyserial.Call) (sent : Bytes) (before : AsyncPort)
    (progress : AsyncProgress) (after : AsyncPort) : Prop where
  guarded : ∀ direction, after.guarded direction = true ↔
    progress.direction = some direction ∨ before.guarded direction = true ∧ frame.direction ≠ some direction
  stays : ∀ direction, progress.direction = some direction → frame.direction = some direction
  fits : progress.Fits call sent
  bytes : progress.bytes = if cancelled then [] else frame.pending
  nothing : progress.pending = []
  moves : Goes before progress (portView after) frame
  lock : frame.direction ≠ none → after.configureLock = before.configureLock

/-- What a guarded body comes to when it goes on: `given` is what it returns of the line. -/
structure Continues (direction : Direction) (call : Anyserial.Call) (sent given : Bytes) (outcome : Outcome) : Prop where
  fits : outcome.progress.Fits call sent
  bytes : outcome.progress.bytes = given
  nothing : outcome.progress.pending = []
  behind : ∀ frame, outcome = .suspended frame → frame.direction = some direction

theorem wentOn_inGuard {body : Serial Outcome} (inside : frame.direction = some direction) (taken : sent <+: call.payload)
    (ends : Ends body port
      (fun outcome after => Continues direction call sent (if cancelled then [] else frame.pending) outcome ∧
        (∀ other, after.guarded other = port.guarded other) ∧ after.configureLock = port.configureLock ∧
          Goes port outcome.progress (portView after) frame)
      (fun exc after => (if cancelled then [] else frame.pending) = [] ∧
        (∀ other, after.guarded other = port.guarded other) ∧ after.configureLock = port.configureLock ∧
          Goes port (.raised exc) (portView after) frame))
    (held : port.guarded direction = true) :
    SettlesAsync (AsyncPort.inGuard direction body) port (WentOn frame cancelled call sent port) := by
  have left : ∀ (after : AsyncPort), (∀ other, after.guarded other = port.guarded other) → ∀ other,
      (after.setGuard direction false).guarded other = true ↔ port.guarded other = true ∧ frame.direction ≠ some other := by
    intro after kept other
    rw [guarded_setGuard, kept, inside]
    by_cases same : other = direction
    · simp [same]
    · simp [same, Ne.symm same]
  refine settles_inGuard.mpr (ends.mono (fun outcome after done => ?_) fun exc after done => ?_)
  · obtain ⟨continues, kept, lock, moves⟩ := done
    have stays : ∀ other, outcome.progress.direction = some other → frame.direction = some other := by
      intro other parked
      cases outcome with
      | suspended next => exact inside.trans ((continues.behind next rfl).symm.trans parked)
      | returned value => cases parked
    refine ⟨fun other => ?_, stays, continues.fits, continues.bytes, continues.nothing, ?_, fun _ => ?_⟩
    · cases outcome with
      | suspended next =>
        have behind := continues.behind next rfl
        change after.guarded other = true ↔ next.direction = some other ∨ _
        rw [behind, kept, inside]
        by_cases same : other = direction
        · simp [same, held]
        · simp [Ne.symm same]
      | returned value =>
        change (after.setGuard direction false).guarded other = true ↔ none = some other ∨ _
        rw [left after kept other]
        simp
    · rw [view_released]
      exact moves
    · exact (lock_released _).trans lock
  · obtain ⟨nothing, kept, lock, moves⟩ := done
    refine ⟨fun other => ?_, ?_, taken, nothing.symm, rfl, ?_, fun _ => ?_⟩
    · change (after.setGuard direction false).guarded other = true ↔ none = some other ∨ _
      rw [left after kept other]
      simp
    · intro other never
      cases never
    · rw [view_released]
      exact moves
    · exact (lock_released _).trans lock

/-- The body changes nothing but what the view leaves out. -/
theorem wentOn_guarded {body : Serial Outcome} (inside : frame.direction = some direction) (awake : frame ≠ .breaking)
    (taken : sent <+: call.payload) (kept : Keeps Unchanged body)
    (ends : Ends body port (fun outcome _ => Continues direction call sent (if cancelled then [] else frame.pending) outcome)
      (fun _ _ => (if cancelled then [] else frame.pending) = []))
    (held : port.guarded direction = true) :
    SettlesAsync (AsyncPort.inGuard direction body) port (WentOn frame cancelled call sent port) := by
  have goes : ∀ progress after, Unchanged port after → Goes port progress (portView after) frame := by
    intro progress after unchanged
    rw [unchanged.view]
    cases frame with
    | breaking => exact absurd rfl awake
    | configuring => cases inside
    | _ => rfl
  refine wentOn_inGuard inside taken (((kept port).and ends).mono (fun outcome after done => ?_) fun exc after done => ?_) held
  · obtain ⟨unchanged, continues⟩ := done
    exact ⟨continues, unchanged.guarded, unchanged.lock, goes _ _ unchanged⟩
  · obtain ⟨unchanged, nothing⟩ := done
    exact ⟨nothing, unchanged.guarded, unchanged.lock, goes _ _ unchanged⟩

theorem continues_reading (reads : IssuesRead size into call) :
    Continues .receiving call [] [] (.suspended (.reading size into none)) := by
  have enters := enters_reading reads
  exact ⟨enters.fits, enters.silent, enters.nothing, enters.behind⟩

theorem continues_writing (inside : offset < data.length) (taken : Taken data offset sent none) :
    Continues .sending (.send data) sent [] (.suspended (.writing data offset none)) := by
  refine ⟨⟨rfl, inside, taken⟩, rfl, rfl, ?_⟩
  intro frame parked
  cases parked
  rfl

/-- A receive that goes on returns what its read brought, or issues it again. -/
theorem ends_received {completion : Completion Bytes} (reads : IssuesRead size into call)
    (short : ∀ data, completion = .ok data → data.length ≤ size) :
    Ends (AsyncPort.received size into completion) port
      (fun outcome _ => Continues .receiving call [] (Frame.pending (.reading size into (some completion))) outcome)
      (fun _ _ => Frame.pending (.reading size into (some completion)) = []) := by
  have brought : ∀ data, reportRead port.backend.windows.backend.runtime completion = .ok data →
      Frame.pending (.reading size into (some completion)) = data := by
    intro data reported
    unfold reportRead at reported
    rcases completion with exc | bytes
    · cases exc with
      | raised exc => cases reported
      | osError err =>
        dsimp only at reported
        split at reported
        · cases reported
          rfl
        · cases reported
    · cases reported
      rfl
  have failed : ∀ exc, reportRead port.backend.windows.backend.runtime completion = .error exc →
      Frame.pending (.reading size into (some completion)) = [] := by
    intro exc reported
    rcases completion with other | bytes
    · rfl
    · cases reported
  simp only [AsyncPort.received, completedRead, ends_bind, ends_onWindows, ends_getBackend, ends_translating, ends_liftExcept]
  refine ⟨fun data reported => ?_, fun exc reported => ⟨fun _ => failed exc reported, fun _ => failed exc reported⟩⟩
  have pending := brought data reported
  simp only [ends_ite, ends_pure, ends_map, issueRead, ends_bind]
  refine ⟨fun empty => ?_, fun some => ?_⟩
  · rw [pending, empty]
    exact ends_of_forall (fun _ _ => continues_reading reads) fun _ _ => rfl
  · obtain ⟨byte, bytes, rfl⟩ := List.exists_cons_of_ne_nil some
    have fits : (byte :: bytes).length ≤ size := by
      rcases completion with exc | other
      · cases pending
      · exact short _ (congrArg Except.ok pending)
    simp only [ends_pure]
    constructor
    case fits => exact ⟨yields_of_reads reads some fits, (payload_of_reads reads).symm⟩
    case bytes =>
      rw [pending]
      cases into <;> rfl
    case nothing => rfl
    case behind =>
      intro frame never
      cases never

/-- A send that goes on has its payload taken as far as the completion says. -/
theorem ends_completedWrite {completion : Completion Nat} (taken : Taken data offset sent (some completion)) :
    Ends (completedWrite data offset completion) port (fun outcome _ => Continues .sending (.send data) sent [] outcome)
      (fun _ _ => ([] : Bytes) = []) := by
  simp only [completedWrite, ends_bind, ends_onWindows, ends_getBackend, ends_translating, ends_liftExcept, ends_ite, ends_throw,
    ends_pure]
  refine ⟨fun count reported => ⟨fun _ => trivial, fun _ => ?_⟩, fun exc _ => ⟨fun _ => trivial, fun _ => trivial⟩⟩
  subst reported
  obtain ⟨within, same⟩ := taken
  simp only [issueWrite, ends_ite, ends_bind, ends_pure]
  refine ⟨fun rest => ends_of_forall (fun _ _ => ?_) fun _ _ => trivial, fun complete => ?_⟩
  · exact continues_writing rest same
  · refine ⟨⟨(rfl : Value.bytes .none = []), ?_⟩, rfl, rfl, ?_⟩
    · rw [same, List.take_of_length_le (Nat.not_lt.mp complete)]
      rfl
    · intro frame never
      cases never

theorem wentOn_reading {completion : Option (Completion Bytes)} {me : Nat}
    (serves : (Frame.reading size into completion).Serves call sent) (held : port.guarded .receiving = true) :
    SettlesAsync (AsyncPort.resume me cancelled (.reading size into completion)) port
      (WentOn (.reading size into completion) cancelled call sent port) := by
  obtain ⟨reads, rfl, short⟩ := serves
  have empty : ([] : Bytes) <+: call.payload := List.nil_prefix
  refine wentOn_guarded rfl (by simp) empty (unchanged_arrive.bind fun _ => ?_) ?_ held
  · cases completion with
    | none => exact .pure _
    | some completion => exact unchanged_received
  · rw [ends_bind, ends_asyncArrive]
    constructor
    · rintro rfl
      cases completion with
      | none => exact continues_reading reads
      | some completion => exact ends_received reads fun data same => short data (congrArg some same)
    · rintro rfl
      rfl

theorem wentOn_writing {completion : Option (Completion Nat)} {me : Nat}
    (serves : (Frame.writing data offset completion).Serves call sent) (held : port.guarded .sending = true) :
    SettlesAsync (AsyncPort.resume me cancelled (.writing data offset completion)) port
      (WentOn (.writing data offset completion) cancelled call sent port) := by
  have whole := prefix_of_serves serves
  obtain ⟨rfl, inside, taken⟩ := serves
  have nothing : (if cancelled then [] else Frame.pending (.writing data offset completion)) = [] := ite_self _
  refine wentOn_guarded rfl (by simp) whole (unchanged_arrive.bind fun _ => ?_) ?_ held
  · cases completion with
    | none => exact .pure _
    | some completion => exact unchanged_completedWrite
  · rw [nothing, ends_bind, ends_asyncArrive]
    refine ⟨fun _ => ?_, fun _ => rfl⟩
    cases completion with
    | none => exact continues_writing inside taken
    | some completion => exact ends_completedWrite taken

/-- A cancelled send ends with whatever was taken of its payload. -/
theorem wentOn_writing_cancelled (port : AsyncPort) (me : Nat) (data : Bytes) (offset : Nat)
    (completion : Option (Completion Nat)) (taken : sent <+: call.payload)
    (held : port.guarded .sending = true) :
    SettlesAsync (AsyncPort.resume me true (.writing data offset completion)) port
      (WentOn (.writing data offset completion) true call sent port) := by
  refine wentOn_guarded rfl (by simp) taken (unchanged_arrive.bind fun _ => ?_) ?_ held
  · cases completion with
    | none => exact .pure _
    | some completion => exact unchanged_completedWrite
  · rw [ends_bind, ends_asyncArrive]
    refine ⟨fun never => ?_, fun _ => rfl⟩
    cases never

theorem wentOn_flushing {me : Nat} (serves : Frame.flushing.Serves call sent) (held : port.guarded .sending = true) :
    SettlesAsync (AsyncPort.resume me cancelled .flushing) port (WentOn .flushing cancelled call sent port) := by
  obtain ⟨drains, rfl⟩ := serves
  have nothing : (if cancelled then [] else Frame.flushing.pending) = [] := ite_self _
  refine wentOn_guarded rfl (by simp) List.nil_prefix unchanged_flush ?_ held
  rw [nothing]
  simp only [AsyncPort.flush, ends_bind, ends_modifyLine, ends_pure]
  refine ends_of_forall (fun _ _ => ends_of_forall (fun _ _ => ?_) fun _ _ => trivial) fun _ _ => trivial
  have ended : Call.Yields call .none ∧ ([] : Bytes) = call.payload := by
    simp only [List.mem_cons, List.not_mem_nil, or_false] at drains
    obtain rfl | rfl | rfl := drains
    · exact ⟨rfl, rfl⟩
    · exact ⟨rfl, rfl⟩
    · exact ⟨rfl, rfl⟩
  refine ⟨ended, rfl, rfl, ?_⟩
  intro frame never
  cases never

theorem wentOn_breaking {me : Nat} (serves : Frame.breaking.Serves call sent) (held : port.guarded .sending = true) :
    SettlesAsync (AsyncPort.resume me cancelled .breaking) port (WentOn .breaking cancelled call sent port) := by
  obtain ⟨⟨duration, rfl⟩, rfl⟩ := serves
  have nothing : (if cancelled then [] else Frame.breaking.pending) = [] := ite_self _
  refine wentOn_inGuard rfl List.nil_prefix ?_ held
  rw [nothing]
  simp only [AsyncPort.endBreak, ends_bind, ends_tryCatch, ends_asyncArrive, ends_throw, ends_pure]
  refine ⟨fun _ => ends_clearCommBreak fun after kept lock view => ⟨?_, kept, lock, by simp [Outcome.progress], view⟩,
    fun _ => ends_clearCommBreak fun after kept lock view => ⟨trivial, kept, lock, by simp, view⟩⟩
  refine ⟨⟨(rfl : Value.bytes .none = []), rfl⟩, rfl, rfl, ?_⟩
  intro frame never
  cases never

/-- `WindowsBackend.configure`: the DCB and the configuration change together or not at all. -/
theorem ends_windowsConfigure {config : SerialConfig} {returned : Unit → AsyncPort → Prop} {raised : WinExc → AsyncPort → Prop}
    (onReturn : ∀ after, (∀ other, after.guarded other = port.guarded other) → after.configureLock = port.configureLock →
      portView { after with config := config } = reconfigured config (portView port) → returned () after)
    (onRaise : ∀ exc after, Unchanged port after → raised exc after) :
    Ends (onWindows (Windows.configure config)) port returned raised := by
  rw [ends_onWindows]
  have refused : ∀ exc windows, Overlooked port.backend.windows windows →
      raised exc { port with backend := { port.backend with windows := windows } } := by
    intro exc windows same
    refine onRaise exc _ ⟨fun other => by cases other <;> rfl, ?_, rfl, rfl, rfl⟩
    simp only [portView, same.backend, same.live, same.dcb, same.timeouts]
  simp only [Windows.configure, ends_bind, ends_getBackend, ends_translating]
  refine (overlooked_raiseIfClosed _).mono (fun _ checked same => ?_) fun exc checked same => refused exc checked same
  simp only [applyDcb, ends_bind, ends_getBackend, ends_getHost, ends_modifyDevice, ends_modifyBackend]
  refine (overlooked_kernelCall checked).mono (fun _ read got => ?_) fun exc read got => ?_
  · have sameRead : Overlooked port.backend.windows read := IsTrans.trans _ _ _ same got
    refine (overlooked_kernelCall read).mono (fun _ written set => ?_) fun exc written set => ?_
    · have sameWritten : Overlooked port.backend.windows written := IsTrans.trans _ _ _ sameRead set
      refine onReturn _ (fun other => by cases other <;> rfl) rfl ?_
      simp only [portView, reconfigured, sameWritten.backend, sameWritten.live, sameRead.dcb, sameWritten.timeouts]
    · have sameWritten : Overlooked port.backend.windows written := IsTrans.trans _ _ _ sameRead set
      exact ⟨fun _ => refused _ _ sameWritten, fun _ => refused _ _ sameWritten⟩
  · have sameRead : Overlooked port.backend.windows read := IsTrans.trans _ _ _ same got
    exact ⟨fun _ => refused _ _ sameRead, fun _ => refused _ _ sameRead⟩

theorem wentOn_configuring {config : SerialConfig} {acquired : Bool} {me : Nat}
    (serves : (Frame.configuring config acquired).Serves call sent) :
    SettlesAsync (AsyncPort.resume me cancelled (.configuring config acquired)) port
      (WentOn (.configuring config acquired) cancelled call sent port) := by
  obtain ⟨rfl, rfl⟩ := serves
  have raises : ∀ exc after, Unchanged port after →
      WentOn (.configuring config acquired) cancelled (.configure config) [] port (.raised exc)
        { after with configureLock := after.configureLock.leave me } := by
    intro exc after same
    constructor
    case guarded =>
      intro other
      rw [← same.guarded other]
      cases other <;> simp [AsyncProgress.direction, Frame.direction, Port.guarded]
    case stays =>
      intro other never
      cases never
    case fits => exact List.nil_prefix
    case bytes => exact (ite_self _).symm
    case nothing => rfl
    case moves => exact same.view
    case lock => exact fun never => absurd rfl never
  unfold SettlesAsync
  simp only [AsyncPort.resume, AsyncPort.configure, AsyncPort.applyConfig, AsyncPort.releaseConfigure, ends_bind, ends_tryCatch,
    ends_asyncArrive, ends_raiseIfPortClosed, ends_modify, ends_throw, ends_pure]
  refine ⟨fun _ => ⟨fun _ => raises _ port (Std.Refl.refl port), fun _ => ?_⟩, fun _ => raises _ port (Std.Refl.refl port)⟩
  refine ends_windowsConfigure (fun after kept _ applied => ?_) fun exc after same => raises exc after same
  constructor
  case guarded =>
    intro other
    rw [← kept other]
    cases other <;> simp [Outcome.progress, AsyncProgress.direction, Frame.direction, Port.guarded]
  case stays =>
    intro other never
    cases never
  case fits => exact ⟨(rfl : Value.bytes .none = []), rfl⟩
  case bytes => exact (ite_self _).symm
  case nothing => rfl
  case moves => exact applied
  case lock => exact fun never => absurd rfl never

/-- Any later segment of a call. -/
theorem wentOn_resume (port : AsyncPort) (me : Nat) (cancelled : Bool) (serves : frame.Serves call sent)
    (held : ∀ direction, frame.direction = some direction → port.guarded direction = true) :
    SettlesAsync (AsyncPort.resume me cancelled frame) port (WentOn frame cancelled call sent port) := by
  cases frame with
  | reading size into completion => exact wentOn_reading serves (held _ rfl)
  | writing data offset completion => exact wentOn_writing serves (held _ rfl)
  | flushing => exact wentOn_flushing serves (held _ rfl)
  | breaking => exact wentOn_breaking serves (held _ rfl)
  | configuring config acquired => exact wentOn_configuring serves

end Resume

end Anyserial.Windows
