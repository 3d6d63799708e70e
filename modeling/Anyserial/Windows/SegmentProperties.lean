import Anyserial.Stream.Integrity
import Anyserial.Stream.SegmentProperties
import Anyserial.Windows.BackendProperties
import Anyserial.Windows.Machine

/-! What the segments of the port over the Windows backend change, and where they end. -/
set_option autoImplicit false

namespace Anyserial.Windows

open Kit

variable {α : Type} {port before middle after : AsyncPort}

def Frame.direction : Frame → Option Direction
  | .reading _ _ _ => some .receiving
  | .writing _ _ _ | .flushing | .breaking => some .sending
  | .configuring _ _ => none

/-- What the kernel has read for a parked task. -/
def Frame.pending : Frame → Bytes
  | .reading _ _ (some (.ok data)) => data
  | _ => []

namespace AsyncProgress

def direction : AsyncProgress → Option Direction
  | .parked frame => frame.direction
  | .returned _ | .raised _ => none

def bytes : AsyncProgress → Bytes
  | .returned value => value.bytes
  | .parked _ | .raised _ => []

def pending : AsyncProgress → Bytes
  | .parked frame => frame.pending
  | .returned _ | .raised _ => []

end AsyncProgress

def Outcome.progress : Outcome → AsyncProgress
  | .suspended frame => .parked frame
  | .returned value => .returned value

/-- What the calls set, on the device and in the port. -/
structure Settings where
  breakOn : Bool
  dcb : Dcb
  timeouts : CommTimeouts
  live : List Handle
  backend : WindowsBackend
  config : SerialConfig
  teardown : Teardown.State

/-- All that a segment may change, other than the guards and the lock of `configure`. -/
structure View extends Settings where
  arrived : Bytes
  input : Bytes
  output : Bytes

def portView (port : AsyncPort) : View where
  arrived := port.backend.line.arrived
  input := port.backend.line.input
  output := port.backend.line.output
  breakOn := port.backend.line.breakOn
  dcb := port.backend.windows.host.device.dcb
  timeouts := port.backend.windows.host.device.timeouts
  live := port.backend.windows.host.live
  backend := port.backend.windows.backend
  config := port.config
  teardown := port.teardown

/-- What the kernel and the clock refuse in a segment. -/
structure SameRefusals (before after : AsyncPort) : Prop where
  calls : after.backend.refused = before.backend.refused
  sleeps : after.backend.sleeps = before.backend.sleeps

instance : Std.Refl SameRefusals := ⟨fun _ => ⟨rfl, rfl⟩⟩

instance : IsTrans AsyncPort SameRefusals where
  trans _ _ _ first second := ⟨second.calls.trans first.calls, second.sleeps.trans first.sleeps⟩

/-- The guards, the view and the lock are as they were. -/
structure Unchanged (before after : AsyncPort) : Prop where
  guarded : ∀ direction, after.guarded direction = before.guarded direction
  view : portView after = portView before
  lock : after.configureLock = before.configureLock
  refusals : SameRefusals before after

instance : Std.Refl Unchanged := ⟨fun port => ⟨fun _ => rfl, rfl, rfl, Std.Refl.refl port⟩⟩

instance : IsTrans AsyncPort Unchanged where
  trans _ _ _ first second :=
    ⟨fun direction => (second.guarded direction).trans (first.guarded direction), second.view.trans first.view,
      second.lock.trans first.lock, IsTrans.trans _ _ _ first.refusals second.refusals⟩

/-- The part of the operating system that the view looks at. -/
structure Overlooked (before after : WindowsWorld) : Prop where
  backend : after.backend = before.backend
  live : after.host.live = before.host.live
  dcb : after.host.device.dcb = before.host.device.dcb
  timeouts : after.host.device.timeouts = before.host.device.timeouts

instance : Std.Refl Overlooked := ⟨fun _ => ⟨rfl, rfl, rfl, rfl⟩⟩

instance : IsTrans WindowsWorld Overlooked where
  trans _ _ _ first second := ⟨second.backend.trans first.backend, second.live.trans first.live,
    second.dcb.trans first.dcb, second.timeouts.trans first.timeouts⟩

section Rules

variable {raised : WinExc → AsyncPort → Prop}

theorem ends_onWindows {body : Win α} {returned : α → AsyncPort → Prop} :
    Ends (onWindows body) port returned raised ↔
      Ends body port.backend.windows
        (fun value t => returned value { port with backend := { port.backend with windows := t } })
        (fun exc t => raised exc { port with backend := { port.backend with windows := t } }) := by
  cases ran : body port.backend.windows with
  | ok value t => simp only [Ends, onWindows, ran]
  | error exc t => simp only [Ends, onWindows, ran]

@[simp] theorem ends_modifyLine {f : Line → Line} {returned : Unit → AsyncPort → Prop} :
    Ends (modifyLine f) port returned raised ↔
      returned () { port with backend := { port.backend with line := f port.backend.line } } := Iff.rfl

@[simp] theorem ends_getLine {returned : Line → AsyncPort → Prop} :
    Ends getLine port returned raised ↔ returned port.backend.line port := Iff.rfl

/-- A call on the line returns or raises an error of the system. -/
theorem ends_lineCall {call : LineCall} {returned : Unit → AsyncPort → Prop} :
    Ends (lineCall call) port returned raised ↔
      (port.backend.windows.backend.handle ∈ port.backend.windows.host.live →
        (∀ err, port.backend.refused call = some err → raised (.osError err) port) ∧
          (port.backend.refused call = none → returned () port)) ∧
        (port.backend.windows.backend.handle ∉ port.backend.windows.host.live → raised (.osError invalidHandle) port) := by
  simp only [lineCall, ends_bind, ends_get, ends_ite, ends_throw]
  refine and_congr (imp_congr_right fun _ => ?_) Iff.rfl
  cases port.backend.refused call with
  | none => simp
  | some err => simp

@[simp] theorem ends_translatingLine {context : Context} {body : Serial α} {returned : α → AsyncPort → Prop} :
    Ends (translatingLine context body) port returned raised ↔
      Ends body port returned fun exc t =>
        (exc.isOSError = true → raised (winerrorToException exc context t.backend.windows.backend.path) t) ∧
          (exc.isOSError = false → raised exc t) := by
  simp only [translatingLine, ends_tryCatch, ends_ite, ends_bind, ends_get, ends_throw, Bool.not_eq_true]

theorem ends_raiseIfPortClosed {returned : Unit → AsyncPort → Prop} :
    Ends AsyncPort.raiseIfClosed port returned raised ↔
      (port.closed = true → raised (.raised (Anyserial.closedError port.backend.windows.backend.path)) port) ∧
        (port.closed = false → returned () port) := by
  simp only [AsyncPort.raiseIfClosed, ends_bind, ends_get, ends_ite, ends_throw, ends_pure, Bool.not_eq_true]

theorem ends_asyncArrive {cancelled : Bool} {returned : Unit → AsyncPort → Prop} :
    Ends (AsyncPort.arrive cancelled) port returned raised ↔
      (cancelled = false → returned () port) ∧ (cancelled = true → raised (.raised .cancelled) port) := by
  cases cancelled <;> simp [AsyncPort.arrive]

end Rules

section Unchanged

theorem unchanged_onWindows {body : Win α} (kept : Keeps Overlooked body) : Keeps Unchanged (onWindows body) := by
  intro port
  rw [ends_onWindows]
  have same : ∀ windows, Overlooked port.backend.windows windows →
      Unchanged port { port with backend := { port.backend with windows := windows } } := by
    intro windows overlooked
    refine ⟨fun direction => by cases direction <;> rfl, ?_, rfl, rfl, rfl⟩
    simp only [portView, overlooked.backend, overlooked.live, overlooked.dcb, overlooked.timeouts]
  exact (kept port.backend.windows).mono (fun _ windows => same windows) fun _ windows => same windows

/-- A change of the line that the view does not see. -/
theorem unchanged_modifyLine {f : Line → Line} (arrived : ∀ line, (f line).arrived = line.arrived)
    (input : ∀ line, (f line).input = line.input) (output : ∀ line, (f line).output = line.output)
    (breakOn : ∀ line, (f line).breakOn = line.breakOn) : Keeps Unchanged (modifyLine f) := by
  refine .modify fun port => ⟨fun direction => by cases direction <;> rfl, ?_, rfl, rfl, rfl⟩
  simp only [portView, arrived, input, output, breakOn]

theorem unchanged_lineCall {call : LineCall} : Keeps Unchanged (lineCall call) := by
  intro port
  rw [ends_lineCall]
  exact ⟨fun _ => ⟨fun _ _ => Std.Refl.refl port, fun _ => Std.Refl.refl port⟩, fun _ => Std.Refl.refl port⟩

theorem unchanged_translatingLine {context : Context} {body : Serial α} (kept : Keeps Unchanged body) :
    Keeps Unchanged (translatingLine context body) :=
  kept.tryCatch fun _ => .ite (fun _ => .bind .get fun _ => .throw _) fun _ => .throw _

theorem unchanged_raiseIfPortClosed : Keeps Unchanged AsyncPort.raiseIfClosed :=
  .bind .get fun _ => .ite (fun _ => .throw _) fun _ => .pure ()

theorem overlooked_translating {body : Win α} {context : Context} {path : String} (kept : Keeps Overlooked body) :
    Keeps Overlooked (translating context path body) :=
  kept.tryCatch fun _ => .ite (fun _ => .throw _) fun _ => .throw _

theorem overlooked_getBackend : Keeps Overlooked getBackend := Keeps.get.map _

theorem overlooked_raiseIfClosed : Keeps Overlooked Windows.raiseIfClosed :=
  overlooked_getBackend.bind fun _ => .ite (fun _ => .pure ()) fun _ => .throw _

theorem overlooked_record {call : Kernel32Call} {handle : Handle} : Keeps Overlooked (record call handle) :=
  .modify fun _ => ⟨rfl, rfl, rfl, rfl⟩

theorem overlooked_refuse {result : Option WinErr} : Keeps Overlooked (refuse result) := by
  cases result with
  | none => exact .pure ()
  | some err => exact .throw _

theorem overlooked_kernelCall {call : Kernel32Call} {handle : Handle} : Keeps Overlooked (kernelCall call handle) :=
  overlooked_record.bind fun _ => .bind (Keeps.get.map _) fun _ => overlooked_refuse

theorem overlooked_issue {call : Kernel32Call} {handle : Handle} : Keeps Overlooked (issue call handle) :=
  .bind (Keeps.get.map _) fun _ => overlooked_record.bind fun _ => .ite (fun _ => .pure ()) fun _ => .throw _

theorem overlooked_dispatch {call : Kernel32Call} : Keeps Overlooked (dispatch call) :=
  overlooked_getBackend.bind fun _ => .ite (fun _ => overlooked_issue) fun _ =>
    .ite (fun _ => .throw _) fun _ => overlooked_issue

theorem unchanged_dispatch {call : Kernel32Call} :
    Keeps Unchanged (onWindows do
      let backend ← getBackend
      translating .io backend.path (dispatch call)) :=
  unchanged_onWindows (overlooked_getBackend.bind fun _ => overlooked_translating overlooked_dispatch)

theorem unchanged_issueRead {size : Nat} {into : Bool} : Keeps Unchanged (issueRead size into) :=
  unchanged_dispatch.bind fun _ => .pure _

theorem unchanged_bytearray {size : Int} : Keeps Unchanged (Windows.bytearray size) :=
  .bind .get fun _ => .ite (fun _ => .throw _) fun _ => .ite (fun _ => .pure ()) fun _ => .throw _

theorem unchanged_receive {maxBytes : Int} : Keeps Unchanged (Windows.receive maxBytes) :=
  (unchanged_onWindows overlooked_raiseIfClosed).bind fun _ => unchanged_bytearray.bind fun _ => unchanged_issueRead

theorem unchanged_issueWrite {data : Bytes} {offset : Nat} : Keeps Unchanged (issueWrite data offset) :=
  .ite (fun _ => unchanged_dispatch.bind fun _ => .pure _) fun _ => .pure _

theorem unchanged_comstat {queue : Line → Nat} : Keeps Unchanged (comstat queue) :=
  (unchanged_onWindows overlooked_raiseIfClosed).bind fun _ =>
    (unchanged_translatingLine unchanged_lineCall).bind fun _ => .bind (Keeps.get.map _) fun _ => .pure _

theorem unchanged_modemLines : Keeps Unchanged Windows.modemLines :=
  (unchanged_onWindows overlooked_raiseIfClosed).bind fun _ =>
    (unchanged_translatingLine unchanged_lineCall).bind fun _ => .bind (Keeps.get.map _) fun _ => .pure _

theorem unchanged_purge : Keeps Unchanged (onWindows do
    Windows.raiseIfClosed
    let backend ← getBackend
    translating .ioctl backend.path (kernelCall .purgeComm backend.handle)) :=
  unchanged_onWindows (overlooked_raiseIfClosed.bind fun _ => overlooked_getBackend.bind fun _ =>
    overlooked_translating overlooked_kernelCall)

theorem unchanged_resetOutputBuffer : Keeps Unchanged Windows.resetOutputBuffer :=
  unchanged_purge.bind fun _ => unchanged_modifyLine (fun _ => rfl) (fun _ => rfl) (fun _ => rfl) fun _ => rfl

theorem unchanged_escape {level : Option Bool} {set clear : Nat} {drive : Bool → Line → Line}
    (levels : ∀ on, Keeps Unchanged (modifyLine (drive on))) : Keeps Unchanged (escape level set clear drive) := by
  cases level with
  | none => exact .pure ()
  | some on => exact unchanged_lineCall.bind fun _ => levels on

theorem unchanged_setControlLines {rts dtr : Option Bool} : Keeps Unchanged (Windows.setControlLines rts dtr) := by
  refine (unchanged_onWindows overlooked_raiseIfClosed).bind fun _ => unchanged_translatingLine ?_
  refine .bind (unchanged_escape fun _ => ?_) fun _ => unchanged_escape fun _ => ?_
  · exact unchanged_modifyLine (fun _ => rfl) (fun _ => rfl) (fun _ => rfl) fun _ => rfl
  · exact unchanged_modifyLine (fun _ => rfl) (fun _ => rfl) (fun _ => rfl) fun _ => rfl

theorem unchanged_completedRead {size : Nat} {into : Bool} {completion : Completion Bytes} :
    Keeps Unchanged (completedRead size into completion) := by
  refine .bind (unchanged_onWindows ?_) fun _ => .ite (fun _ => unchanged_issueRead.map _) fun _ => .pure _
  exact overlooked_getBackend.bind fun _ => overlooked_translating (.liftExcept _)

theorem unchanged_received {size : Nat} {into : Bool} {completion : Completion Bytes} :
    Keeps Unchanged (AsyncPort.received size into completion) := by
  refine unchanged_completedRead.bind fun result => ?_
  rcases result with outcome | _ | ⟨byte, bytes⟩
  · exact .pure _
  · exact .bind .get fun _ => .throw _
  · exact .pure _

theorem unchanged_completedWrite {data : Bytes} {offset : Nat} {completion : Completion Nat} :
    Keeps Unchanged (completedWrite data offset completion) := by
  refine .bind (unchanged_onWindows ?_) fun _ => unchanged_issueWrite
  refine overlooked_getBackend.bind fun _ => (overlooked_translating (.liftExcept _)).bind fun _ => ?_
  exact .ite (fun _ => .throw _) fun _ => .pure _

theorem unchanged_arrive {cancelled : Bool} : Keeps Unchanged (AsyncPort.arrive cancelled) :=
  .ite (fun _ => .throw _) fun _ => .pure ()

theorem unchanged_flush {cancelled : Bool} : Keeps Unchanged (AsyncPort.flush cancelled) := by
  have flushes : Keeps Unchanged (modifyLine fun line => { line with unsent := 0 }) :=
    unchanged_modifyLine (fun _ => rfl) (fun _ => rfl) (fun _ => rfl) fun _ => rfl
  exact unchanged_arrive.bind fun _ => (unchanged_translatingLine unchanged_lineCall).bind fun _ =>
    flushes.bind fun _ => .pure _

end Unchanged

end Anyserial.Windows
