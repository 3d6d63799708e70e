import Anyserial.Windows.BackendProperties
import Anyserial.Windows.HotPath

/-! Closing the port under pending reads and writes. A retry that meets a closed backend
ends in an assertion on asyncio; every other interleaving ends the calls as documented. -/
set_option autoImplicit false

namespace Anyserial.Windows

open Kit

variable {world after : WindowsWorld} {state : HotState} {call : Kernel32Call} {size total offset : Nat} {into : Bool}

/-- How a call may end: with data, with everything accepted, or with an error of the package. -/
def Task.Allowed : Task → Prop
  | .received data _ => data ≠ []
  | .sent total offset => total ≤ offset
  | .raised exc => exc.IsDomain
  | .idle | .waiting _ => True

def Task.ended : Task → Bool
  | .received _ _ | .sent _ _ | .raised _ => true
  | .idle | .waiting _ => false

/-- An overlapped operation went to an open handle. Zero, which stands in for the handle
of a closed backend, names none. -/
def KernelEvent.OnOpenHandle (event : KernelEvent) : Prop :=
  event.call = .readFile ∨ event.call = .writeFile → event.valid = true ∨ event.handle = 0

/-- The backend owns an open handle, registered with its runtime. -/
structure Attached (world : WindowsWorld) : Prop where
  isOpen : world.backend.isOpen = true
  live : world.backend.handle ∈ world.host.live
  wrapped : world.backend.runtime = some .trio ∨ world.backend.handleWrapper ≠ none

structure Sound (world : WindowsWorld) : Prop where
  backend : Attached world ∨ Idle world.backend
  zero : 0 ∉ world.host.live
  trace : ∀ event ∈ world.host.trace, event.OnOpenHandle

/-- No operation was issued on a handle that is not open. -/
def UsesOpenHandles (before after : WindowsWorld) : Prop :=
  ∀ event ∈ after.host.trace, event ∈ before.host.trace ∨ event.OnOpenHandle

instance : Std.Refl UsesOpenHandles := ⟨fun _ _ => .inl⟩

instance : IsTrans WindowsWorld UsesOpenHandles where
  trans _ _ _ first second event member := (second event member).elim (first event) .inr

/-- The backend as it is while an operation of its is issued. -/
structure Issued (before after : WindowsWorld) : Prop where
  backend : after.backend = before.backend
  live : after.host.live = before.host.live
  trace : UsesOpenHandles before after

theorem usesOpenHandles_logged {handle : Handle} (fine : (⟨call, handle, handle ∈ world.host.live⟩ : KernelEvent).OnOpenHandle) :
    UsesOpenHandles world (logged world call handle) := by
  intro event member
  rcases List.mem_cons.mp member with rfl | earlier
  · exact .inr fine
  · exact .inl earlier

theorem Sound.issued (sound : Sound world) (issued : Issued world after) : Sound after := by
  constructor
  case backend =>
    rcases sound.backend with attached | idle
    · exact .inl ⟨by rw [issued.backend, attached.isOpen], by rw [issued.backend, issued.live]; exact attached.live,
        by rw [issued.backend]; exact attached.wrapped⟩
    · exact .inr (issued.backend ▸ idle)
  case zero => exact issued.live ▸ sound.zero
  case trace =>
    intro event member
    rcases issued.trace event member with earlier | fine
    · exact sound.trace event earlier
    · exact fine

/-- A retry would meet the assertion. -/
def RetryAsserts (world : WindowsWorld) : Prop := world.backend.isOpen = false ∧ world.backend.runtime ≠ some .trio

theorem not_retryAsserts (isOpen : world.backend.isOpen = true) : ¬RetryAsserts world :=
  fun asserts => absurd (isOpen.symm.trans asserts.1) (by decide)

theorem issue_spec (fine : world.backend.handle ∈ world.host.live ∨ world.backend.handle = 0) :
    Ends (issue call world.backend.handle) world
      (fun _ after => world.backend.handle ∈ world.host.live ∧ Issued world after)
      (fun exc after => world.backend.handle ∉ world.host.live ∧ exc = .osError invalidHandle ∧ Issued world after) := by
  have issued : Issued world (logged world call world.backend.handle) :=
    ⟨rfl, rfl, usesOpenHandles_logged fun _ => fine.imp (fun live => by simpa using live) id⟩
  simp only [issue, ends_bind, ends_getHost, ends_record, ends_ite, ends_pure, ends_throw]
  exact ⟨fun live => ⟨live, issued⟩, fun gone => ⟨gone, trivial, issued⟩⟩

/-- An operation is issued on the open handle, or it is refused because the backend is closed. -/
theorem dispatch_spec (sound : Sound world) (safe : ¬RetryAsserts world) {path : String} :
    Ends (translating .io path (dispatch call)) world
      (fun _ after => world.backend.isOpen = true ∧ Issued world after)
      (fun exc after => world.backend.isOpen = false ∧ exc.IsDomain ∧ Issued world after) := by
  rw [ends_translating, dispatch, ends_bind, ends_getBackend, ends_ite]
  rcases sound.backend with attached | idle
  · have issues : Ends (issue call world.backend.handle) world
        (fun _ after => world.backend.isOpen = true ∧ Issued world after) fun _ _ => False :=
      (issue_spec (.inl attached.live)).mono (fun _ _ issued => ⟨attached.isOpen, issued.2⟩)
        fun _ _ gone => gone.1 attached.live
    constructor
    · intro _
      exact issues.mono (fun _ _ done => done) fun _ _ never => never.elim
    · intro asyncio
      have wrapped : world.backend.handleWrapper ≠ none := attached.wrapped.resolve_left asyncio
      rw [if_neg wrapped]
      exact issues.mono (fun _ _ done => done) fun _ _ never => never.elim
  · have notLive : world.backend.handle ∉ world.host.live := idle.handle ▸ sound.zero
    constructor
    · intro _
      refine (issue_spec (.inr idle.handle)).mono (fun _ _ issued => absurd issued.1 notLive) fun exc after refused => ?_
      obtain ⟨_, rfl, issued⟩ := refused
      exact ⟨fun _ => ⟨idle.isOpen, winerrorToException_isDomain ⟨_, rfl⟩, issued⟩, nofun⟩
    · intro asyncio
      exact absurd ⟨idle.isOpen, asyncio⟩ safe

/-- The runtime raises errors of the system, errors of the package and the cancellation only. -/
def Reported {α : Type} (completion : Completion α) : Prop :=
  ∀ exc, completion = .error exc → (∃ err, exc = .osError err) ∨ exc.IsDomain

/-- What reporting a completion raises. -/
theorem translated_completion {α : Type} {completion : Completion α} (reported : Reported completion) {path : String} :
    Ends (translating .io path (liftExcept completion)) world (fun value after => completion = .ok value ∧ after = world)
      (fun exc after => exc.IsDomain ∧ after = world) := by
  rw [ends_translating, ends_liftExcept]
  constructor
  · intro value same
    exact ⟨same, rfl⟩
  · intro exc same
    rcases reported exc same with ⟨err, rfl⟩ | domain
    · exact ⟨fun _ => ⟨winerrorToException_isDomain ⟨err, rfl⟩, rfl⟩, nofun⟩
    · refine ⟨fun _ => ⟨?_, rfl⟩, fun _ => ⟨domain, rfl⟩⟩
      cases exc with
      | osError err => exact domain.elim
      | raised exc => exact domain

theorem reported_reportRead {completion : Completion Bytes} (reported : Reported completion)
    (runtime : Option RuntimeFlavour) : Reported (reportRead runtime completion) := by
  intro exc same
  unfold reportRead at same
  split at same
  · split at same
    · cases same
    · exact reported exc same
  · exact reported exc same

/-- What a step leaves when it lets go of the task. -/
structure StepEnded (before after : WindowsWorld) (task : Task) : Prop where
  sound : Sound after
  allowed : task.Allowed
  settled : before.backend.isOpen = false → task.ended = true
  backend : after.backend = before.backend

theorem StepEnded.trans {middle : WindowsWorld} {task : Task} (issued : Issued world middle)
    (ended : StepEnded middle after task) : StepEnded world after task :=
  ⟨ended.sound, ended.allowed, fun closed => ended.settled (issued.backend ▸ closed), ended.backend.trans issued.backend⟩

theorem StepEnded.raised {exc : WinExc} (sound : Sound after) (domain : exc.IsDomain) (same : after.backend = world.backend) :
    StepEnded world after (.raised exc) :=
  ⟨sound, domain, fun _ => rfl, same⟩

/-- The loop of a read lets go of its task as documented, unless an empty completion
finds the backend closed on asyncio. -/
theorem awaitRead_spec {completions : List (Completion Bytes)} (sound : Sound world)
    (reported : ∀ completion ∈ completions, Reported completion)
    (served : completions ≠ [] ∨ world.backend.isOpen = true)
    (fine : RetryAsserts world → completions.head? ≠ some (.ok [])) :
    Ends (awaitRead size into completions) world (fun task after => StepEnded world after task)
      (fun exc after => StepEnded world after (.raised exc)) := by
  induction completions generalizing world with
  | nil =>
    have isOpen : world.backend.isOpen = true := served.resolve_left fun nonempty => nonempty rfl
    refine ⟨sound, trivial, fun closed => ?_, rfl⟩
    exact absurd (isOpen.symm.trans closed) (by decide)
  | cons completion rest ih =>
    have first : Reported (reportRead world.backend.runtime completion) :=
      reported_reportRead (reported completion List.mem_cons_self) _
    simp only [awaitRead, ends_bind, ends_getBackend]
    refine (translated_completion first).mono (fun data seen read => ?_) fun exc seen failed => ?_
    · obtain ⟨outcome, rfl⟩ := read
      rw [ends_ite]
      constructor
      · intro empty
        have safe : ¬RetryAsserts seen := by
          intro asserts
          refine fine asserts (congrArg some ?_)
          subst empty
          unfold reportRead at outcome
          split at outcome
          · rw [if_neg fun timeout => asserts.2 timeout.1] at outcome
            cases outcome
          · exact outcome
        rw [ends_bind]
        refine (dispatch_spec sound safe).mono (fun _ issuedWorld issued => ?_) fun exc refusedWorld refused => ?_
        · obtain ⟨isOpen, issued⟩ := issued
          have stillOpen : issuedWorld.backend.isOpen = true := issued.backend ▸ isOpen
          refine Ends.mono (ih (sound.issued issued) (fun other member => reported other (List.mem_cons_of_mem _ member))
            (.inr stillOpen) fun asserts => absurd asserts (not_retryAsserts stillOpen)) ?_ ?_
          · exact fun _ _ ended => .trans issued ended
          · exact fun _ _ ended => .trans issued ended
        · obtain ⟨_, domain, issued⟩ := refused
          exact .raised (sound.issued issued) domain issued.backend
      · intro filled
        exact ⟨sound, filled, fun _ => rfl, rfl⟩
    · obtain ⟨domain, rfl⟩ := failed
      exact .raised sound domain rfl

/-- A short count, which makes the backend issue the rest. -/
def Short (total offset : Nat) (completion : Completion Nat) : Prop :=
  ∃ written, completion = .ok written ∧ written ≠ 0 ∧ offset + written < total

theorem awaitWrite_spec {completions : List (Completion Nat)} (sound : Sound world)
    (reported : ∀ completion ∈ completions, Reported completion)
    (served : completions ≠ [] ∨ world.backend.isOpen = true)
    (fine : RetryAsserts world → ∀ completion, completions.head? = some completion → ¬Short total offset completion) :
    Ends (awaitWrite total offset completions) world (fun task after => StepEnded world after task)
      (fun exc after => StepEnded world after (.raised exc)) := by
  induction completions generalizing world offset with
  | nil =>
    have isOpen : world.backend.isOpen = true := served.resolve_left fun nonempty => nonempty rfl
    refine ⟨sound, trivial, fun closed => ?_, rfl⟩
    exact absurd (isOpen.symm.trans closed) (by decide)
  | cons completion rest ih =>
    simp only [awaitWrite, ends_bind, ends_getBackend]
    refine (translated_completion (reported completion List.mem_cons_self)).mono (fun written seen sent => ?_) fun exc seen failed => ?_
    · obtain ⟨outcome, rfl⟩ := sent
      simp only [ends_ite, ends_throw]
      constructor
      · intro _
        exact .raised sound trivial rfl
      intro progress
      constructor
      · intro short
        have safe : ¬RetryAsserts seen := fun asserts => fine asserts completion rfl ⟨written, outcome, progress, short⟩
        rw [ends_bind]
        refine (dispatch_spec sound safe).mono (fun _ issuedWorld issued => ?_) fun exc refusedWorld refused => ?_
        · obtain ⟨isOpen, issued⟩ := issued
          have stillOpen : issuedWorld.backend.isOpen = true := issued.backend ▸ isOpen
          refine Ends.mono (ih (sound.issued issued) (fun other member => reported other (List.mem_cons_of_mem _ member))
            (.inr stillOpen) fun asserts => absurd asserts (not_retryAsserts stillOpen)) ?_ ?_
          · exact fun _ _ ended => .trans issued ended
          · exact fun _ _ ended => .trans issued ended
        · obtain ⟨_, domain, issued⟩ := refused
          exact .raised (sound.issued issued) domain issued.backend
      · intro accepted
        exact ⟨sound, Nat.not_lt.mp accepted, fun _ => rfl, rfl⟩
    · obtain ⟨domain, rfl⟩ := failed
      exact .raised sound domain rfl

theorem ends_raiseIfClosed {returned : Unit → WindowsWorld → Prop} {raised : WinExc → WindowsWorld → Prop} :
    Ends raiseIfClosed world returned raised ↔
      (world.backend.isOpen = true → returned () world) ∧
        (¬world.backend.isOpen = true → raised (closedError world.backend.path) world) := by
  simp only [raiseIfClosed, ends_bind, ends_getBackend, ends_ite, ends_pure, ends_throw]

/-- The operation that a call starts with, on a backend that is open. -/
theorem first_dispatch {body : Win Task} (sound : Sound world) (isOpen : world.backend.isOpen = true) {path : String}
    (next : ∀ issuedWorld, Sound issuedWorld → issuedWorld.backend.isOpen = true →
      Ends body issuedWorld (fun task after => StepEnded issuedWorld after task)
        (fun exc after => StepEnded issuedWorld after (.raised exc))) :
    Ends (do translating .io path (dispatch call); body) world (fun task after => StepEnded world after task)
      (fun exc after => StepEnded world after (.raised exc)) := by
  rw [ends_bind]
  refine (dispatch_spec sound (not_retryAsserts isOpen)).mono (fun _ issuedWorld issued => ?_) fun exc refusedWorld refused => ?_
  · obtain ⟨_, issued⟩ := issued
    have ended := next issuedWorld (sound.issued issued) (issued.backend ▸ isOpen)
    exact ended.mono (fun _ _ ended => .trans issued ended) fun _ _ ended => .trans issued ended
  · exact absurd (isOpen.symm.trans refused.1) (by decide)

theorem beginRead_spec {completions : List (Completion Bytes)} (sound : Sound world)
    (reported : ∀ completion ∈ completions, Reported completion) :
    Ends (beginRead size into completions) world (fun task after => StepEnded world after task)
      (fun exc after => StepEnded world after (.raised exc)) := by
  rw [beginRead, ends_bind, ends_raiseIfClosed]
  constructor
  · intro isOpen
    rw [ends_bind, ends_getBackend]
    refine first_dispatch sound isOpen fun issuedWorld issuedSound stillOpen => ?_
    exact awaitRead_spec issuedSound reported (.inr stillOpen) fun asserts => absurd asserts (not_retryAsserts stillOpen)
  · intro _
    exact .raised sound trivial rfl

theorem beginWrite_spec {completions : List (Completion Nat)} (sound : Sound world)
    (reported : ∀ completion ∈ completions, Reported completion) :
    Ends (beginWrite total completions) world (fun task after => StepEnded world after task)
      (fun exc after => StepEnded world after (.raised exc)) := by
  rw [beginWrite, ends_bind, ends_raiseIfClosed]
  constructor
  · intro isOpen
    rw [ends_bind, ends_getBackend, ends_ite]
    constructor
    · intro _
      refine first_dispatch sound isOpen fun issuedWorld issuedSound stillOpen => ?_
      exact awaitWrite_spec issuedSound reported (.inr stillOpen) fun asserts => absurd asserts (not_retryAsserts stillOpen)
    · intro nothing
      exact ⟨sound, Nat.not_lt.mp nothing, fun _ => rfl, rfl⟩
  · intro _
    exact .raised sound trivial rfl

theorem keeps_kernelCall_uses {handle : Handle} (other : call ∉ [.readFile, .writeFile]) :
    Keeps UsesOpenHandles (kernelCall call handle) := by
  intro world
  have uses : UsesOpenHandles world (logged world call handle) :=
    usesOpenHandles_logged fun operation => absurd operation (by simpa using other)
  rw [ends_kernelCall]
  exact ⟨fun _ _ => uses, fun _ => uses⟩

theorem keeps_aclose_uses : Keeps UsesOpenHandles aclose := by
  have suppresses : ∀ {body : Win Unit}, Keeps UsesOpenHandles body → Keeps UsesOpenHandles (suppressOSError body) :=
    fun kept => kept.tryCatch fun _ => .ite (fun _ => .pure ()) fun _ => .throw _
  have closes : ∀ handle, Keeps UsesOpenHandles (closeHandle handle) := by
    intro handle world
    have uses : UsesOpenHandles world (logged world .closeHandle handle) :=
      usesOpenHandles_logged fun operation => operation.elim nofun nofun
    simp only [closeHandle, ends_bind, ends_getHost, ends_record, ends_modifyHost, ends_refuse]
    exact ⟨fun _ _ => uses, fun _ => uses⟩
  refine .bind (Keeps.get.map _) fun backend => .ite (fun _ => ?_) fun _ => .pure ()
  have masks : Keeps UsesOpenHandles (setCommMask backend.handle 0) :=
    (keeps_kernelCall_uses (by decide)).bind fun _ => .modify fun _ _ => .inl
  refine .bind (.modify fun _ _ => .inl) fun _ => ?_
  refine (suppresses masks).bind fun _ => ?_
  exact (suppresses (keeps_kernelCall_uses (by decide))).bind fun _ => suppresses (closes _)

/-- A close that finds the backend closed does nothing; any other one leaves it idle. -/
theorem aclose_sound (sound : Sound world) : Ends aclose world (fun _ after => Sound after) (fun _ _ => False) := by
  rcases sound.backend with attached | idle
  · refine ((aclose_of_live attached.isOpen attached.live).and (keeps_aclose_uses world)).mono (fun _ closed ended => ?_)
      fun _ _ never => never.1
    obtain ⟨⟨idle, live, _⟩, uses⟩ := ended
    constructor
    case backend => exact .inr idle
    case zero => exact fun member => sound.zero (List.mem_of_mem_erase (live ▸ member))
    case trace => exact fun event member => (uses event member).elim (sound.trace event) id
  · rw [aclose_of_idle idle]
    exact sound

/-- Nobody was given anything but what a call may end with. -/
structure HotSound (state : HotState) : Prop where
  world : Sound state.world
  tasks : ∀ task, (state.tasks task).Allowed

/-- A step goes as documented: the runtime reports errors of the system, of the package or
the cancellation, and nothing has to be issued again on a closed backend of asyncio. -/
def StepFine (state : HotState) : HotLabel → Prop
  | .beginRead _ _ _ completions => ∀ completion ∈ completions, Reported completion
  | .beginWrite _ _ completions => ∀ completion ∈ completions, Reported completion
  | .resumeRead _ completion rest =>
      (∀ other ∈ completion :: rest, Reported other) ∧ (RetryAsserts state.world → completion ≠ .ok [])
  | .resumeWrite task completion rest =>
      (∀ other ∈ completion :: rest, Reported other) ∧
        (RetryAsserts state.world → ∀ total offset, state.tasks task = .waiting (.write total offset) →
          ¬Short total offset completion)
  | .aclose _ => True

def HotLabel.resumed : HotLabel → Option Nat
  | .resumeRead task _ _ | .resumeWrite task _ _ => some task
  | .beginRead _ _ _ _ | .beginWrite _ _ _ | .aclose _ => none

/-- What a step leaves of the tasks and of the backend. -/
structure HotStepped (state : HotState) (label : HotLabel) (next : HotState) : Prop where
  sound : HotSound next
  settled : state.world.backend.isOpen = false → ∀ task, label.resumed = some task → (next.tasks task).ended = true

theorem advance_spec {label : HotLabel} {task : Nat} {body : Win Task} (sound : HotSound state)
    (resumed : label.resumed = some task ∨ label.resumed = none)
    (ends : Ends body state.world (fun progress after => StepEnded state.world after progress)
      (fun exc after => StepEnded state.world after (.raised exc))) :
    HotStepped state label (state.advance task body) := by
  have stepped : ∀ {progress after}, StepEnded state.world after progress →
      HotStepped state label ⟨after, Function.update state.tasks task progress⟩ := by
    intro progress after ended
    constructor
    case sound =>
      refine ⟨ended.sound, fun other => ?_⟩
      by_cases same : other = task
      · subst same
        simpa using ended.allowed
      · simpa [same] using sound.tasks other
    case settled =>
      intro closed other target
      rcases resumed with given | nobody
      · obtain rfl : task = other := Option.some.inj (given.symm.trans target)
        simpa using ended.settled closed
      · exact nomatch nobody.symm.trans target
  unfold Ends at ends
  unfold HotState.advance
  cases ran : body state.world with
  | ok progress after => exact stepped (by simpa only [ran] using ends)
  | error exc after => exact stepped (by simpa only [ran] using ends)

theorem hotStep_spec {label : HotLabel} {next : HotState} (sound : HotSound state) (fine : StepFine state label)
    (stepped : hotStep state label = some next) : HotStepped state label next := by
  cases label with
  | beginRead task size into completions =>
    simp only [hotStep] at stepped
    split at stepped
    · cases stepped
    · cases stepped
      exact advance_spec sound (.inr rfl) (beginRead_spec sound.world fine)
  | beginWrite task total completions =>
    simp only [hotStep] at stepped
    split at stepped
    · cases stepped
    · cases stepped
      exact advance_spec sound (.inr rfl) (beginWrite_spec sound.world fine)
  | resumeRead task completion rest =>
    simp only [hotStep] at stepped
    split at stepped
    · cases stepped
      refine advance_spec sound (.inl rfl) (awaitRead_spec sound.world fine.1 (.inl (List.cons_ne_nil _ _)) ?_)
      exact fun asserts empty => fine.2 asserts (Option.some.inj empty)
    · cases stepped
  | resumeWrite task completion rest =>
    simp only [hotStep] at stepped
    split at stepped
    · rename_i total offset waiting
      cases stepped
      refine advance_spec sound (.inl rfl) (awaitWrite_spec sound.world fine.1 (.inl (List.cons_ne_nil _ _)) ?_)
      intro asserts other first
      obtain rfl : completion = other := Option.some.inj first
      exact fine.2 asserts total offset waiting
    · cases stepped
  | aclose faults =>
    simp only [hotStep] at stepped
    cases stepped
    have refused : Sound { state.world with host := { state.world.host with faults := faults } } := by
      refine ⟨?_, sound.world.zero, sound.world.trace⟩
      exact sound.world.backend.imp (fun attached => ⟨attached.isOpen, attached.live, attached.wrapped⟩) id
    have closed := ((aclose_sound refused).mono (fun _ _ sound => sound) fun _ _ never => never.elim).finalState
    exact ⟨⟨closed, sound.tasks⟩, fun _ task target => nomatch target⟩

/-- In every run whose steps go as documented, calls end as they may, no operation is
issued on a handle that is not open, and once the backend is closed a call ends as soon
as its pending operation is reported. -/
theorem closing_ends_pending_calls {initial final : HotState} {labels : List HotLabel} (start : HotSound initial)
    (ran : run hotStep initial labels = some final)
    (fine : ∀ taken label rest state, labels = taken ++ label :: rest → run hotStep initial taken = some state →
      StepFine state label) :
    (∀ task, (final.tasks task).Allowed) ∧ (∀ event ∈ final.world.host.trace, event.OnOpenHandle) ∧
      (final.world.backend.isOpen = false → ∀ label task next, label.resumed = some task → StepFine final label →
        hotStep final label = some next → (next.tasks task).ended = true ∧ (next.tasks task).Allowed) := by
  have sound : HotSound final :=
    run_invariant_along HotSound StepFine start
      (fun state label after admitted known stepped => (hotStep_spec known admitted stepped).sound) ran fine
  refine ⟨sound.tasks, sound.world.trace, fun closed label task next target admitted stepped => ?_⟩
  have ended := hotStep_spec sound admitted stepped
  exact ⟨ended.settled closed task target, ended.sound.tasks task⟩

/-- A port that was just opened, with no call under way. -/
def freshlyOpened (eventLoop : EventLoop) : HotState where
  world := finalState (openPort "COM3" .defaults) ⟨{}, comHost eventLoop {}⟩
  tasks _ := .idle

def aborted : WinExc :=
  .osError ⟨errorOperationAborted, 22, "The I/O operation has been aborted", none⟩

/-- On asyncio, the abort of the purge ends a pending read. -/
theorem closing_ends_an_aborted_read :
    ∃ final, run hotStep (freshlyOpened .proactor) [.beginRead 0 16 false [], .aclose {}, .resumeRead 0 (.error aborted) []] =
        some final ∧
      (∀ task, (final.tasks task).Allowed) ∧ (∀ event ∈ final.world.host.trace, event.OnOpenHandle) ∧
      (final.world.backend.isOpen = false → ∀ label task next, label.resumed = some task → StepFine final label →
        hotStep final label = some next → (next.tasks task).ended = true ∧ (next.tasks task).Allowed) := by
  have start : HotSound (freshlyOpened .proactor) := by
    refine ⟨⟨.inl ⟨by decide +kernel, by decide +kernel, .inr (by decide +kernel)⟩, by decide +kernel, ?_⟩, fun _ => trivial⟩
    simp only [KernelEvent.OnOpenHandle]
    decide +kernel
  obtain ⟨final, ran⟩ : ∃ final, run hotStep (freshlyOpened .proactor)
      [.beginRead 0 16 false [], .aclose {}, .resumeRead 0 (.error aborted) []] = some final :=
    Option.isSome_iff_exists.mp (by decide +kernel)
  refine ⟨final, ran, closing_ends_pending_calls start ran fun taken label rest state split _ => ?_⟩
  have member : label ∈ taken ++ label :: rest := by simp
  rw [← split] at member
  have reported : Reported (.error aborted : Completion Bytes) := fun exc same => .inl ⟨_, (Except.error.inj same).symm⟩
  rcases List.mem_cons.mp member with rfl | member
  · exact fun _ none => nomatch none
  rcases List.mem_cons.mp member with rfl | member
  · trivial
  obtain rfl := List.mem_singleton.mp member
  exact ⟨fun other only => List.mem_singleton.mp only ▸ reported, fun _ => nofun⟩

/-- On asyncio, an empty completion that was queued before the close makes the read issue
another one, which finds the wrapper gone. -/
theorem late_empty_completion_asserts :
    (run hotStep (freshlyOpened .proactor) [.beginRead 0 16 false [], .aclose {}, .resumeRead 0 (.ok []) []]).map
        (fun final => final.tasks 0) = some (.raised (.raised .assertionError)) ∧
      ¬(Task.raised (.raised .assertionError)).Allowed :=
  ⟨by decide +kernel, id⟩

end Anyserial.Windows
