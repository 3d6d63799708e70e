import Anyserial.Windows.PortIntegrity

/-! What one step of the port over the Windows backend does to its settings, when the streams
are left out. The invariants of the settings are read off this. -/
set_option autoImplicit false

namespace Anyserial.Windows

open Kit

variable {lossless : Prop} {state next : AsyncState} {port before after : AsyncPort} {me moved : Nat} {frame done : Frame}
  {refusals : Refusals} {failed : Option WinExc}

def settings (port : AsyncPort) : Settings := (portView port).toSettings

structure SameSettings (before after : AsyncPort) : Prop where
  settings : settings after = settings before
  lock : after.configureLock = before.configureLock

/-- What no close changes. -/
structure KeptByClose (before after : AsyncPort) : Prop where
  lock : after.configureLock = before.configureLock
  breakOn : after.backend.line.breakOn = before.backend.line.breakOn
  dcb : after.backend.windows.host.device.dcb = before.backend.windows.host.device.dcb
  timeouts : after.backend.windows.host.device.timeouts = before.backend.windows.host.device.timeouts
  config : after.config = before.config
  backend : after.backend.windows.backend.config = before.backend.windows.backend.config

/-- A frame that waits for an overlapped operation. -/
def Frame.operating : Frame → Bool
  | .reading _ _ _ | .writing _ _ _ => true
  | .flushing | .breaking | .configuring _ _ => false

inductive Stepped (state : AsyncState) : AsyncLabel → AsyncState → Prop where
  | call {call cancelled refusals progress port}
      (settled : settleAsync (AsyncPort.start state.tasks.length cancelled call (facing refusals state.port)) = (progress, port))
      (began : Began call (facing refusals state.port) progress port) :
      Stepped state (.call call cancelled refusals) ⟨port, state.tasks ++ [⟨call, progress⟩]⟩
  | resume {label me refusals call frame cancelled taken sent before progress port}
      (resumes : label = .wake me refusals ∨ ∃ moved, label = .cancel me moved refusals)
      (found : state.frame me = some (call, frame)) (serves : frame.Serves call taken) (same : SameSettings state.port before)
      (refused : before.backend.refused = refusals.line)
      (settled : settleAsync (AsyncPort.resume me cancelled frame before) = (progress, port))
      (went : WentOn frame cancelled call sent before progress port) :
      Stepped state label ⟨port, state.tasks.set me ⟨call, progress⟩⟩
  | complete {me moved failed call frame done port} (found : state.frame me = some (call, frame))
      (waited : frame.operating = true) (waits : done.operating = true) (same : SameSettings state.port port) :
      Stepped state (.complete me moved failed) ⟨port, state.tasks.set me ⟨call, .parked done⟩⟩
  | aclose {label refusals port} (kept : KeptByClose state.port port)
      (closes : (∃ closer result, label = .resume closer result) ∧ state.port.closed = false ∨
        (settings port).live = (settings state.port).live ∧ (settings port).backend = (settings state.port).backend) :
      Stepped state (.aclose label refusals) ⟨port, state.tasks⟩
  | line {label port} (same : SameSettings state.port port) : Stepped state label ⟨port, state.tasks⟩

section Close

/-- The part of the operating system that no close changes. -/
structure KeptDevice (before after : WindowsWorld) : Prop where
  dcb : after.host.device.dcb = before.host.device.dcb
  timeouts : after.host.device.timeouts = before.host.device.timeouts
  config : after.backend.config = before.backend.config

instance : Std.Refl KeptDevice := ⟨fun _ => ⟨rfl, rfl, rfl⟩⟩

instance : IsTrans WindowsWorld KeptDevice where
  trans _ _ _ first second :=
    ⟨second.dcb.trans first.dcb, second.timeouts.trans first.timeouts, second.config.trans first.config⟩

theorem keptDevice_aclose : Keeps KeptDevice Windows.aclose := by
  have suppresses : ∀ {body : Win Unit}, Keeps KeptDevice body → Keeps KeptDevice (suppressOSError body) :=
    fun kept => kept.tryCatch fun _ => .ite (fun _ => .pure ()) fun _ => .throw _
  have records : ∀ call handle, Keeps KeptDevice (record call handle) := fun _ _ => .modify fun _ => ⟨rfl, rfl, rfl⟩
  have refuses : ∀ result, Keeps KeptDevice (refuse result) := by
    intro result
    cases result with
    | none => exact .pure ()
    | some err => exact .throw _
  have calls : ∀ call handle, Keeps KeptDevice (kernelCall call handle) :=
    fun _ _ => (records _ _).bind fun _ => .bind (Keeps.get.map _) fun _ => refuses _
  have masks : ∀ handle, Keeps KeptDevice (setCommMask handle 0) :=
    fun _ => (calls _ _).bind fun _ => .modify fun _ => ⟨rfl, rfl, rfl⟩
  have closes : ∀ handle, Keeps KeptDevice (closeHandle handle) := fun _ =>
    .bind (Keeps.get.map _) fun _ => (records _ _).bind fun _ => .bind (.modify fun _ => ⟨rfl, rfl, rfl⟩) fun _ => refuses _
  refine .bind (Keeps.get.map _) fun backend => .ite (fun _ => ?_) fun _ => .pure ()
  refine .bind (.modify fun _ => ⟨rfl, rfl, rfl⟩) fun _ => (suppresses (masks _)).bind fun _ => ?_
  exact (suppresses (calls _ _)).bind fun _ => suppresses (closes _)

theorem kept_closeOnce (port : AsyncPort) : KeptByClose port (closeOnce port) := by
  have onWindows : ∀ windows, KeptDevice port.backend.windows windows →
      KeptByClose port { port with backend := { port.backend with windows := windows } } :=
    fun _ kept => ⟨rfl, rfl, kept.dcb, kept.timeouts, rfl, kept.config⟩
  have kept : Ends closeBackend port (fun _ after => KeptByClose port after) (fun _ after => KeptByClose port after) := by
    simp only [closeBackend, ends_bind, ends_get, ends_onWindows, ends_ite, ends_modifyLine, ends_pure]
    refine (keptDevice_aclose port.backend.windows).mono (fun _ windows kept => ⟨fun _ => ?_, fun _ => ?_⟩) fun _ windows kept => ?_
    · have same := onWindows windows kept
      exact ⟨same.lock, same.breakOn, same.dcb, same.timeouts, same.config, same.backend⟩
    · exact onWindows windows kept
    · exact onWindows windows kept
  unfold closeOnce
  split
  · exact ⟨rfl, rfl, rfl, rfl, rfl, rfl⟩
  · unfold Ends at kept
    split at kept
    · rename_i ran
      rw [ran]
      exact kept
    · rename_i ran
      rw [ran]
      exact kept

end Close

section Steps

theorem operating_completeFrame (completed : completeFrame moved failed port frame = some (done, after)) :
    frame.operating = true ∧ done.operating = true ∧ SameSettings port after := by
  cases frame with
  | reading size into completion =>
    cases completion with
    | some completion => cases completed
    | none =>
      cases failed with
      | none =>
        cases completed
        exact ⟨rfl, rfl, rfl, rfl⟩
      | some exc =>
        cases completed
        exact ⟨rfl, rfl, rfl, rfl⟩
  | writing data offset completion =>
    cases completion with
    | some completion => cases completed
    | none =>
      cases completed
      exact ⟨rfl, rfl, rfl, rfl⟩
  | flushing | breaking | configuring => cases completed

/-- All that a cancellation does to the line is to move bytes. -/
theorem cancelFrame_cases (given : cancelFrame moved port frame = some after) :
    after = port ∨ after = take moved port ∨ ∃ bytes, after = put bytes port := by
  cases frame with
  | reading size into completion =>
    cases completion with
    | some completion =>
      simp only [cancelFrame] at given
      split at given
      · cases given
      · exact .inl (Option.some.inj given).symm
    | none =>
      simp only [cancelFrame] at given
      split at given
      · exact .inr (.inl (Option.some.inj given).symm)
      · cases given
  | writing data offset completion =>
    cases completion with
    | some completion =>
      simp only [cancelFrame] at given
      split at given
      · cases given
      · exact .inl (Option.some.inj given).symm
    | none => exact .inr (.inr ⟨_, (Option.some.inj given).symm⟩)
  | flushing | breaking => exact .inl (Option.some.inj given).symm
  | configuring config acquired =>
    simp only [cancelFrame] at given
    split at given
    · cases given
    · exact .inl (Option.some.inj given).symm

theorem same_cancelFrame (given : cancelFrame moved port frame = some after) :
    SameSettings port after ∧ ∀ direction, after.guarded direction = port.guarded direction := by
  obtain rfl | rfl | ⟨bytes, rfl⟩ := cancelFrame_cases given
  · exact ⟨⟨rfl, rfl⟩, fun _ => rfl⟩
  · exact ⟨⟨rfl, rfl⟩, fun direction => by cases direction <;> rfl⟩
  · exact ⟨⟨rfl, rfl⟩, fun direction => by cases direction <;> rfl⟩

theorem same_facing (refusals : Refusals) (port : AsyncPort) : SameSettings port (facing refusals port) := ⟨rfl, rfl⟩

/-- Every step is one of these. -/
theorem stepped_of_asyncStep {label : AsyncLabel} (known : IntactState lossless state) (stepped : asyncStep state label = some next) :
    Stepped state label next := by
  obtain ⟨senders, carried, intact⟩ := known
  cases label with
  | call call cancelled refusals =>
    rw [asyncStep_call] at stepped
    obtain rfl := Option.some.inj stepped
    exact .call rfl (settlesAsync_iff.mp (began_start (facing refusals state.port) state.tasks.length cancelled call))
  | complete me moved failed =>
    obtain ⟨call, frame, done, port, found, completed, rfl⟩ := asyncStep_complete_iff.mp stepped
    obtain ⟨waited, waits, same⟩ := operating_completeFrame completed
    exact .complete found waited waits same
  | wake me refusals =>
    obtain ⟨call, frame, found, _, rfl⟩ := asyncStep_wake_iff.mp stepped
    obtain ⟨sent, there, serves⟩ := intact.sender found
    have went := settlesAsync_iff.mp
      (wentOn_resume (facing refusals state.port) me false serves (guarded_of_frame intact there))
    exact .resume (.inl rfl) found serves (same_facing refusals state.port) rfl rfl went
  | cancel me moved refusals =>
    obtain ⟨call, frame, port, found, given, rfl⟩ := asyncStep_cancel_iff.mp stepped
    obtain ⟨sent, there, serves⟩ := intact.sender found
    obtain ⟨same, guards⟩ := same_cancelFrame given
    have held : ∀ direction, frame.direction = some direction → (facing refusals port).guarded direction = true := by
      intro direction inside
      have kept := (guards direction).trans (guarded_of_frame intact there direction inside)
      cases direction with
      | receiving => exact kept
      | sending => exact kept
    have went := settlesAsync_iff.mp (wentOn_resume (facing refusals port) me true serves held)
    have facing : SameSettings state.port (facing refusals port) := ⟨same.settings, same.lock⟩
    exact .resume (.inr ⟨moved, rfl⟩) found serves facing rfl rfl went
  | aclose label refusals =>
    obtain ⟨port, closed, rfl⟩ := asyncStep_aclose_iff.mp stepped
    obtain ⟨teardown, rfl | ⟨resumes, rfl⟩⟩ := asyncAclose_cases closed
    · exact .aclose ⟨rfl, rfl, rfl, rfl, rfl, rfl⟩ (.inr ⟨rfl, rfl⟩)
    · have kept := kept_closeOnce (facing refusals state.port)
      refine .aclose ⟨kept.lock, kept.breakOn, kept.dcb, kept.timeouts, kept.config, kept.backend⟩ ?_
      cases isClosed : state.port.closed with
      | false => exact .inl ⟨resumes, rfl⟩
      | true =>
        have already : (facing refusals state.port).closed = true := isClosed
        rw [closeOnce, if_pos already]
        exact .inr ⟨rfl, rfl⟩
  | arrives bytes =>
    obtain rfl := Option.some.inj stepped
    exact .line ⟨rfl, rfl⟩
  | signals unsent status =>
    obtain rfl := Option.some.inj stepped
    exact .line ⟨rfl, rfl⟩

end Steps

section Frames

variable {call : Anyserial.Call} {other : Nat} {task : AsyncTask}

theorem frame_of_tasks (found : state.tasks[me]? = some ⟨call, .parked frame⟩) : state.frame me = some (call, frame) := by
  simp only [AsyncState.frame, found]

theorem frame_iff : state.frame me = some (call, frame) ↔ state.tasks[me]? = some ⟨call, .parked frame⟩ :=
  ⟨tasks_of_frame, frame_of_tasks⟩

theorem lt_of_frame (found : state.frame me = some (call, frame)) : me < state.tasks.length :=
  (List.getElem?_eq_some_iff.mp (tasks_of_frame found)).1

theorem frame_concat_iff : (⟨port, state.tasks ++ [task]⟩ : AsyncState).frame me = some (call, frame) ↔
    state.frame me = some (call, frame) ∨ me = state.tasks.length ∧ ⟨call, .parked frame⟩ = task := by
  rw [frame_iff, frame_iff]
  exact getElem?_concat_iff

theorem frame_set_iff (inside : me < state.tasks.length) :
    (⟨port, state.tasks.set me task⟩ : AsyncState).frame other = some (call, frame) ↔
      me = other ∧ task = ⟨call, .parked frame⟩ ∨ me ≠ other ∧ state.frame other = some (call, frame) := by
  rw [frame_iff, frame_iff]
  by_cases mine : me = other
  · subst mine
    simp [List.getElem?_set_self inside]
  · simp [List.getElem?_set_ne mine, mine]

end Frames

section Steps

/-- The invariant of the streams without what it says about lost input. -/
theorem intact_of_step {label : AsyncLabel} (known : IntactState False state) (stepped : asyncStep state label = some next) :
    IntactState False next :=
  intact_step known stepped fun never => never.elim

theorem intact_of_fresh (windows : WindowsWorld) {line : Line} (config : SerialConfig) (fresh : line.Fresh) :
    IntactState False (.opened windows line config) :=
  (intact_opened windows config fresh).weaken fun never => never.elim

end Steps

end Anyserial.Windows
