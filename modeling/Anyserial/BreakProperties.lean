import Anyserial.Platforms

/-! A break that is sent while other tasks use the port and close it. The line is
released, and the sender sees its own outcome, unless the port goes away meanwhile. -/
set_option autoImplicit false

namespace Anyserial

open Kit Posix

variable {ε δ : Type} {subclass : Subclass ε δ} {loop : EventLoop (World ε δ)} {port : Port (World ε δ)}
  {world : World ε δ} {fd : Int} {duration : Number}

/-- The line is released when the platform knows the call and the kernel accepts it. -/
theorem release_spec {termios : TermiosModule} (held : world.host.Holds fd) (known : termios.tioccbrk ≠ none)
    (accepted : world.host.faults .tioccbrk .apply = none) :
    Ends (setBreak termios fd false) world (fun _ after => after = withBreak world false) (fun _ _ => False) := by
  obtain ⟨code, same⟩ := Option.ne_none_iff_exists'.mp known
  simp only [setBreak, Bool.false_eq_true, if_false, same, require, breakCall, ends_bind, ends_pure, ends_fcntlCall held,
    accepted]
  exact ⟨by simp, fun _ => rfl⟩

/-- Why a break is not started: the argument, the guard, the closed port or the refused call. -/
def RefusedBreak (duration : Number) (exc : PyExc) : Prop :=
  ((ExtendedRational.finite 0).le duration.value = false ∧ ∃ message, exc = .valueError message) ∨
    exc = .busyResourceError Direction.sending.action ∨ ∃ cls err, exc = .serialError cls err

theorem RefusedBreak.ne_overflow {exc : PyExc} (refused : RefusedBreak duration exc) :
    (.raised exc : Progress) ≠ .raised .overflowError := by
  obtain ⟨_, message, rfl⟩ | rfl | ⟨cls, err, rfl⟩ := refused <;> simp

/-- How the start of a break ends. A sleep that is too long for the clock ends where it begins. -/
inductive BreakStarted (subclass : Subclass ε δ) (port : Port (World ε δ)) (duration : Number) :
    Progress → Port (World ε δ) → Prop
  | sleeping (after : Port (World ε δ)) (isOpen : port.closed = false) :
      BreakStarted subclass port duration (.parked .breaking) after
  | refused (exc : PyExc) (after : Port (World ε δ)) (refused : RefusedBreak duration exc)
      (same : after.backend = port.backend) : BreakStarted subclass port duration (.raised exc) after
  | unslept (after : Port (World ε δ)) (large : duration.TooLarge)
      (released : subclass.termios.tioccbrk ≠ none → port.backend.host.faults .tioccbrk .apply = none →
        after.backend.host.breakOn = false) : BreakStarted subclass port duration (.raised .overflowError) after

theorem setGuard_breakOn (port : Port (World ε δ)) (direction : Direction) (held : Bool) :
    (port.setGuard direction held).backend.host.breakOn = port.backend.host.breakOn := by
  cases direction <;> rfl

/-- The `finally` clause raises nothing, and releases the line if the kernel accepts it. -/
theorem releaseBreak_spec (held : port.backend.host.Holds port.backend.backend.fd) :
    Ends (Port.releaseBreak subclass.backend) port
      (fun _ after => subclass.termios.tioccbrk ≠ none → port.backend.host.faults .tioccbrk .apply = none →
        after = { port with backend := withBreak port.backend false })
      fun _ _ => False := by
  unfold Port.releaseBreak
  rw [ends_suppressOSError, Port.ends_onBackend]
  have spec : Ends (setBreak subclass.termios port.backend.backend.fd false) port.backend _ _ := setBreak_spec held
  by_cases accepts : subclass.termios.tioccbrk ≠ none ∧ port.backend.host.faults .tioccbrk .apply = none
  · exact (release_spec held accepts.1 accepts.2).mono (fun _ after same _ _ => by rw [same]) fun _ _ never => never.elim
  · have refused : ∀ {holds : Prop}, subclass.termios.tioccbrk ≠ none →
        port.backend.host.faults .tioccbrk .apply = none → holds :=
      fun known accepted => absurd ⟨known, accepted⟩ accepts
    refine spec.mono (fun _ _ _ known accepted => refused known accepted) fun exc after ended => ?_
    refine ⟨fun _ known accepted => refused known accepted, fun never => ?_⟩
    exact absurd (ended.2.isOSError.symm.trans never) (by decide)

theorem sendBreak_spec (lawful : Lawful loop) (holds : HoldsWhileOpen port) :
    Settles (Port.sendBreak subclass.backend loop duration) port (BreakStarted subclass port duration) := by
  unfold Port.sendBreak
  split
  · rw [settles_withGuard]
    refine ⟨fun _ => .refused _ _ (.inr (.inl rfl)) rfl, fun _ => ?_⟩
    rw [settles_inGuard]
    unfold Settles Port.startBreak
    rw [ends_bind, Port.ends_raiseIfClosed]
    refine ⟨fun _ => .refused _ _ (.inr (.inr ⟨_, _, rfl⟩)) rfl, fun isOpen => ?_⟩
    rw [ends_bind, Port.ends_ioctl]
    have held : port.backend.host.Holds port.backend.backend.fd := holds isOpen
    have sets : Ends (setBreak subclass.termios port.backend.backend.fd true) port.backend _ _ := setBreak_spec held
    refine sets.mono (fun _ after same => ?_) fun exc after refused => ?_
    · rw [same, ends_bind, ends_tryCatch, Port.ends_beginSleep]
      refine ⟨fun _ => .sleeping _ isOpen, fun tooLong => ?_⟩
      rw [ends_bind]
      let breaking : Port (World ε δ) :=
        { (port.setGuard .sending true) with backend := withBreak port.backend true }
      have heldStill : breaking.backend.host.Holds breaking.backend.backend.fd := held
      have spec : Ends (Port.releaseBreak subclass.backend) breaking _ _ := releaseBreak_spec heldStill
      refine spec.mono (fun _ ended released => ?_) fun _ _ never => never.elim
      refine .unslept _ (lawful.sleeps duration _ tooLong) fun known accepted => ?_
      rw [setGuard_breakOn, released known accepted]
      rfl
    · obtain ⟨same, translatable⟩ := refused
      refine ⟨fun _ => ?_, fun never => ?_⟩
      · obtain ⟨cls, err, translated⟩ := translatable.translated .ioctl (subclass.backend.path after)
        rw [translated]
        exact .refused _ _ (.inr (.inr ⟨cls, err, rfl⟩)) same
      · exact absurd (translatable.isOSError.symm.trans never) (by decide)
  · rename_i invalid
    exact .refused _ _ (.inl ⟨by simpa using invalid, _, rfl⟩) rfl

/-- What a sleep that ends shows to the caller. -/
def slept : Wake → Progress
  | .ready => .returned .none
  | .closing => .raised .closedResourceError
  | .cancelled => .raised .cancelled

/-- On an open port the line is released, and the sleep is all that the caller sees. -/
theorem endBreak_spec {me : Nat} {wake : Wake} (held : port.backend.host.Holds port.backend.backend.fd)
    (known : subclass.termios.tioccbrk ≠ none) (accepted : port.backend.host.faults .tioccbrk .apply = none) :
    Settles (Port.resume subclass.backend loop me wake .breaking) port
      fun progress after => progress = slept wake ∧ after.backend.host.breakOn = false := by
  have releases : ∀ {returned : Unit → Port (World ε δ) → Prop} {raised : PyExc → Port (World ε δ) → Prop},
      returned () { port with backend := withBreak port.backend false } →
      Ends (Port.releaseBreak subclass.backend) port returned raised := by
    intro returned raised next
    refine (releaseBreak_spec held).mono (fun _ after released => ?_) fun _ _ never => never.elim
    rw [released known accepted]
    exact next
  have released : ∀ held, ((({ port with backend := withBreak port.backend false } : Port (World ε δ)).setGuard
      .sending held).backend.host.breakOn) = false := fun held => setGuard_breakOn _ _ held
  unfold Port.resume
  rw [settles_inGuard]
  unfold Settles Port.endBreak
  rw [ends_bind, ends_tryCatch, Port.ends_arrive]
  constructor
  · rintro rfl
    rw [ends_bind]
    exact releases ⟨rfl, released false⟩
  constructor
  · rintro rfl
    rw [ends_bind]
    exact releases ⟨rfl, released false⟩
  · rintro rfl
    rw [ends_bind]
    exact releases ⟨rfl, released false⟩

/-- The backend with the break calls taken out. -/
def unbroken (subclass : Subclass ε δ) : SyncSerialBackend (World ε δ) :=
  { subclass.backend with setBreak := fun _ => pure () }

theorem segmentMoves_sameBreak (lawful : Lawful loop) : SegmentMoves (unbroken subclass) loop (OnPort SameBreak) :=
  segmentMoves_onPort lawful subclass.configureBreak (fun _ => .pure ()) fun _ _ => rfl

/-- Only `send_break` makes break calls. -/
theorem start_unbroken {call : Call} {me : Nat} {cancelled : Bool} (other : ∀ duration, call ≠ .sendBreak duration) :
    Port.start subclass.backend loop me cancelled call = Port.start (unbroken subclass) loop me cancelled call := by
  cases call with
  | sendBreak duration => exact absurd rfl (other duration)
  | _ => rfl

theorem resume_unbroken {frame : Frame} {me : Nat} {wake : Wake} (other : frame ≠ .breaking) :
    Port.resume subclass.backend loop me wake frame = Port.resume (unbroken subclass) loop me wake frame := by
  cases frame with
  | breaking => exact absurd rfl other
  | _ => rfl

theorem sameBreak_start {call : Call} {me : Nat} {cancelled : Bool} (lawful : Lawful loop)
    (other : ∀ duration, call ≠ .sendBreak duration) :
    OnPort SameBreak port (settle (Port.start subclass.backend loop me cancelled call port)).2 := by
  rw [start_unbroken other]
  exact related_settle (keeps_start (segmentMoves_sameBreak lawful) onPort_setGuard me cancelled call) port

theorem sameBreak_resume {frame : Frame} {me : Nat} {wake : Wake} (lawful : Lawful loop) (other : frame ≠ .breaking) :
    OnPort SameBreak port (settle (Port.resume subclass.backend loop me wake frame port)).2 := by
  rw [resume_unbroken other]
  exact related_settle (keeps_resume (segmentMoves_sameBreak lawful) onPort_setGuard me wake frame) port

/-- How a task was woken, in order. -/
def wakesOf (turns : List Turn) (me : Nat) : List Wake :=
  turns.filterMap fun turn =>
    match turn.label with
    | .wake other wake => if other = me then some wake else none
    | _ => none

theorem wakesOf_concat {turns : List Turn} {turn : Turn} {me : Nat} (other : ∀ wake, turn.label ≠ .wake me wake) :
    wakesOf (turns ++ [turn]) me = wakesOf turns me := by
  unfold wakesOf
  rw [List.filterMap_append]
  cases taken : turn.label with
  | wake owner wake =>
    have different : owner ≠ me := by
      rintro rfl
      exact other wake taken
    simp [taken, different]
  | call operation cancelled => simp [taken]
  | aclose label => simp [taken]

theorem wakesOf_concat_self {turns : List Turn} {turn : Turn} {me : Nat} {wake : Wake} (taken : turn.label = .wake me wake) :
    wakesOf (turns ++ [turn]) me = wakesOf turns me ++ [wake] := by
  simp [wakesOf, List.filterMap_append, taken]

/-- What the caller of `send_break` sees: it is parked, it was refused before it slept,
or it sees its sleep, which raises where it begins if no double is as long. -/
inductive BreakOutcome (duration : Number) : List Wake → Progress → Prop
  | sleeping : BreakOutcome duration [] (.parked .breaking)
  | refused (exc : PyExc) (refused : RefusedBreak duration exc) : BreakOutcome duration [] (.raised exc)
  | unslept (large : duration.TooLarge) : BreakOutcome duration [] (.raised .overflowError)
  | slept (wake : Wake) (ends : wake ≠ .closing) : BreakOutcome duration [wake] (slept wake)

theorem BreakOutcome.asleep {wakes : List Wake} {frame : Frame} (outcome : BreakOutcome duration wakes (.parked frame)) :
    wakes = [] := by
  generalize same : (.parked frame : Progress) = progress at outcome
  cases outcome with
  | sleeping => rfl
  | refused exc refused => rfl
  | unslept large => rfl
  | slept wake ends => cases wake <;> cases same

/-- The caller has neither slept nor been refused its sleep. -/
def Unslept (wakes : List Wake) (progress : Progress) : Prop := wakes = [] ∧ progress ≠ .raised .overflowError

namespace BreakStarted

variable {progress : Progress} {after : Port (World ε δ)}

theorem outcome (started : BreakStarted subclass port duration progress after) : BreakOutcome duration [] progress := by
  cases started with
  | sleeping => exact .sleeping
  | refused exc after refused => exact .refused exc refused
  | unslept after large => exact .unslept large

theorem isOpen (started : BreakStarted subclass port duration progress after) (parked : progress = .parked .breaking) :
    port.closed = false := by
  cases started with
  | sleeping after isOpen => exact isOpen
  | refused | unslept => cases parked

theorem line (started : BreakStarted subclass port duration progress after)
    (fine : duration.TooLarge → subclass.termios.tioccbrk ≠ none ∧ port.backend.host.faults .tioccbrk .apply = none) :
    progress = .parked .breaking ∨ after.backend.host.breakOn = false ∨
      (after.backend = port.backend ∧ progress ≠ .raised .overflowError) := by
  cases started with
  | sleeping => exact .inl rfl
  | refused exc after refused same => exact .inr (.inr ⟨same, refused.ne_overflow⟩)
  | unslept after large released => exact .inr (.inl (released (fine large).1 (fine large).2))

end BreakStarted

/-- The task `me` is in the middle of a break. -/
def Breaking (state : State (World ε δ)) (me : Nat) : Prop := ∃ call, state.tasks[me]? = some ⟨call, .parked .breaking⟩

structure BreakKept (turns : List Turn) (state : State (World ε δ)) : Prop where
  holds : HoldsWhileOpen state.port
  isOpen : ∀ me, Breaking state me → state.port.closed = false
  placed : ∀ (me : Nat) call frame, state.tasks[me]? = some ⟨call, .parked frame⟩ → frame.Of call
  outcome : ∀ (me : Nat) duration progress, state.tasks[me]? = some ⟨.sendBreak duration, progress⟩ →
    BreakOutcome duration (wakesOf turns me) progress
  unborn : ∀ me, state.tasks.length ≤ me → wakesOf turns me = []
  line : (∃ me, Breaking state me) ∨ state.port.backend.host.breakOn = false ∨
    ∀ (me : Nat) duration progress, state.tasks[me]? = some ⟨.sendBreak duration, progress⟩ →
      Unslept (wakesOf turns me) progress

/-- The port is not closed under a break, and the kernel accepts the call that ends one. -/
def BreakFine (subclass : Subclass ε δ) (state : State (World ε δ)) (turn : Turn) : Prop :=
  match turn.label with
  | .aclose (.resume _) => state.port.closed = true ∨ ∀ me, ¬Breaking state me
  | .wake me _ => Breaking state me → subclass.termios.tioccbrk ≠ none ∧ turn.faults .tioccbrk .apply = none
  | .call (.sendBreak duration) _ =>
      duration.TooLarge → subclass.termios.tioccbrk ≠ none ∧ turn.faults .tioccbrk .apply = none
  | _ => True

section Steps

variable {turns : List Turn} {turn : Turn} {state after : State (World ε δ)}

theorem breakKept_opened (held : world.host.Holds world.backend.fd) (config : SerialConfig) :
    BreakKept [] (State.opened world config) := by
  constructor
  case holds => exact fun _ => held
  case isOpen => exact fun _ breaking => nomatch breaking.choose_spec
  case placed => exact fun _ _ _ found => nomatch found
  case outcome => exact fun _ _ _ found => nomatch found
  case unborn => exact fun _ _ => rfl
  case line => exact .inr (.inr fun _ _ _ found => nomatch found)

/-- What the step of one task has to keep: its own outcome, and the line. -/
structure TaskStep (turns : List Turn) (turn : Turn) (state : State (World ε δ)) (me : Nat) (call : Call) (progress : Progress)
    (after : State (World ε δ)) : Prop where
  writes : Writes state.tasks after.tasks me ⟨call, progress⟩
  descriptor : OnPort SameFd state.port after.port
  placed : ∀ frame, progress = .parked frame → frame.Of call
  mine : ∀ other wake, turn.label = .wake other wake → other = me
  born : me < after.tasks.length ∧ state.tasks.length ≤ after.tasks.length
  outcome : ∀ duration, call = .sendBreak duration → BreakOutcome duration (wakesOf (turns ++ [turn]) me) progress
  isOpen : progress = .parked .breaking → state.port.closed = false
  line : progress = .parked .breaking ∨ after.port.backend.host.breakOn = false ∨
    (SameBreak state.port.backend after.port.backend ∧ ¬Breaking state me ∧
      ∀ duration, call = .sendBreak duration → Unslept (wakesOf (turns ++ [turn]) me) progress)

theorem BreakKept.task {me : Nat} {call : Call} {progress : Progress} (kept : BreakKept turns state)
    (taken : TaskStep turns turn state me call progress after) : BreakKept (turns ++ [turn]) after := by
  have here : after.tasks[me]? = some ⟨call, progress⟩ := (taken.writes me _).mpr (.inl ⟨rfl, rfl⟩)
  have untouched : ∀ other, other ≠ me → wakesOf (turns ++ [turn]) other = wakesOf turns other :=
    fun other different => wakesOf_concat fun wake woken => different (taken.mine other wake woken)
  have closed : after.port.closed = state.port.closed := congrArg Teardown.State.closed taken.descriptor.teardown
  constructor
  case holds => exact kept.holds.moved taken.descriptor
  case isOpen =>
    rintro other ⟨operation, found⟩
    rw [closed]
    rcases (taken.writes other _).mp found with ⟨_, same⟩ | ⟨_, earlier⟩
    · exact taken.isOpen (Task.mk.inj same).2.symm
    · exact kept.isOpen other ⟨operation, earlier⟩
  case placed =>
    intro other operation frame found
    rcases (taken.writes other _).mp found with ⟨_, same⟩ | ⟨_, earlier⟩
    · obtain ⟨rfl, parked⟩ := Task.mk.inj same
      exact taken.placed frame parked.symm
    · exact kept.placed other operation frame earlier
  case outcome =>
    intro other duration ended found
    rcases (taken.writes other _).mp found with ⟨rfl, same⟩ | ⟨different, earlier⟩
    · obtain ⟨operation, rfl⟩ := Task.mk.inj same
      exact taken.outcome duration operation.symm
    · rw [untouched other different]
      exact kept.outcome other duration ended earlier
  case unborn =>
    intro other beyond
    have different : other ≠ me := fun same => absurd taken.born.1 (by omega)
    rw [untouched other different]
    exact kept.unborn other (Nat.le_trans taken.born.2 beyond)
  case line =>
    rcases taken.line with parked | released | ⟨same, notBreaking, unslept⟩
    · exact .inl ⟨me, call, by rw [here, parked]⟩
    · exact .inr (.inl released)
    rcases kept.line with ⟨other, operation, found⟩ | released | idle
    · have different : other ≠ me := by
        rintro rfl
        exact notBreaking ⟨operation, found⟩
      exact .inl ⟨other, operation, (taken.writes other _).mpr (.inr ⟨different, found⟩)⟩
    · exact .inr (.inl (same.trans released))
    · refine .inr (.inr fun other duration ended found => ?_)
      rcases (taken.writes other _).mp found with ⟨rfl, entry⟩ | ⟨different, earlier⟩
      · obtain ⟨operation, ended⟩ := Task.mk.inj entry
        exact ended ▸ unslept duration operation.symm
      · rw [untouched other different]
        exact idle other duration ended earlier

variable (subclass) in
theorem BreakKept.call {call : Call} {cancelled : Bool} (lawful : Lawful loop) (kept : BreakKept turns state)
    (fine : BreakFine subclass state turn) (taken : turn.label = .call call cancelled) :
    let settled := settle (Port.start subclass.backend loop state.tasks.length cancelled call (turn.prepare state).port)
    BreakKept (turns ++ [turn]) ⟨settled.2, state.tasks ++ [⟨call, settled.1⟩]⟩ := by
  intro settled
  have unwoken : wakesOf (turns ++ [turn]) state.tasks.length = [] := by
    rw [wakesOf_concat fun wake woken => nomatch taken.symm.trans woken]
    exact kept.unborn _ (Nat.le_refl _)
  have moves : SegmentMoves subclass.backend loop (OnPort SameFd) := segmentMoves_sameFd lawful
  have descriptor : OnPort SameFd (turn.prepare state).port settled.2 :=
    related_settle (keeps_start moves onPort_setGuard state.tasks.length cancelled call) _
  have parks : ∀ frame, settled.1 = .parked frame → frame.Of call :=
    settles_iff.mp (parks_start subclass.backend loop state.tasks.length cancelled call _)
  have newcomer : ¬Breaking state state.tasks.length := by
    rintro ⟨operation, found⟩
    exact absurd (List.getElem?_eq_some_iff.mp found).1 (Nat.lt_irrefl _)
  have started : ∀ duration, call = .sendBreak duration →
      BreakStarted subclass (turn.prepare state).port duration settled.1 settled.2 := by
    rintro duration rfl
    exact settles_iff.mp (sendBreak_spec lawful (holdsWhileOpen_prepare kept.holds))
  suffices step : TaskStep turns turn state state.tasks.length call settled.1
      ⟨settled.2, state.tasks ++ [⟨call, settled.1⟩]⟩ from kept.task step
  constructor
  case writes => exact writes_concat
  case descriptor => exact ⟨⟨descriptor.world.fd, descriptor.world.openFds⟩, descriptor.teardown⟩
  case placed => exact parks
  case mine => exact fun _ _ woken => nomatch taken.symm.trans woken
  case born => simp
  case outcome =>
    intro duration same
    rw [unwoken]
    exact (started duration same).outcome
  case isOpen =>
    intro parked
    have of : Frame.breaking.Of call := parks _ parked
    cases call with
    | sendBreak duration =>
      exact (started duration rfl).isOpen parked
    | _ => exact of.elim
  case line =>
    by_cases breaks : ∃ duration, call = .sendBreak duration
    · obtain ⟨duration, same⟩ := breaks
      have fine := by simpa only [BreakFine, taken, same] using fine
      obtain parked | released | ⟨unmoved, rested⟩ := (started duration same).line fine
      · exact .inl parked
      · exact .inr (.inl released)
      · exact .inr (.inr ⟨by rw [SameBreak, unmoved]; rfl, newcomer, fun _ _ => ⟨unwoken, rested⟩⟩)
    · have other : ∀ duration, call ≠ .sendBreak duration := fun duration same => breaks ⟨duration, same⟩
      have same : OnPort SameBreak (turn.prepare state).port settled.2 := sameBreak_start lawful other
      exact .inr (.inr ⟨same.world, newcomer, fun duration same => absurd same (other duration)⟩)

theorem BreakKept.wake {me : Nat} {wake : Wake} {call : Call} {frame : Frame} (lawful : Lawful loop)
    (kept : BreakKept turns state) (fine : BreakFine subclass state turn) (taken : turn.label = .wake me wake)
    (found : state.tasks[me]? = some ⟨call, .parked frame⟩) (admits : frame.admits (turn.prepare state).port me wake = true) :
    let settled := settle (Port.resume subclass.backend loop me wake frame (turn.prepare state).port)
    BreakKept (turns ++ [turn]) ⟨settled.2, state.tasks.set me ⟨call, settled.1⟩⟩ := by
  intro settled
  have inside : me < state.tasks.length := (List.getElem?_eq_some_iff.mp found).1
  have of : frame.Of call := kept.placed me call frame found
  have moves : SegmentMoves subclass.backend loop (OnPort SameFd) := segmentMoves_sameFd lawful
  have descriptor : OnPort SameFd (turn.prepare state).port settled.2 :=
    related_settle (keeps_resume moves onPort_setGuard me wake frame) _
  have parks : ∀ frame, settled.1 = .parked frame → frame.Of call :=
    settles_iff.mp (parks_resume subclass.backend loop me wake of _)
  have only : ∀ other wake, turn.label = .wake other wake → other = me :=
    fun other _ woken => (Label.wake.inj (taken.symm.trans woken)).1.symm
  have released : frame = .breaking → settled.1 = slept wake ∧ settled.2.backend.host.breakOn = false := by
    rintro rfl
    have fine := by simpa only [BreakFine, taken] using fine
    obtain ⟨known, accepted⟩ := fine ⟨call, found⟩
    have held : (turn.prepare state).port.backend.host.Holds (turn.prepare state).port.backend.backend.fd :=
      kept.holds (kept.isOpen me ⟨call, found⟩)
    exact settles_iff.mp (endBreak_spec held known accepted)
  have breaking_of : ∀ duration, call = .sendBreak duration → frame = .breaking := by
    rintro duration rfl
    cases frame with
    | breaking => rfl
    | _ => exact of.elim
  suffices step : TaskStep turns turn state me call settled.1 ⟨settled.2, state.tasks.set me ⟨call, settled.1⟩⟩ from
    kept.task step
  constructor
  case writes => exact writes_set inside
  case descriptor => exact ⟨⟨descriptor.world.fd, descriptor.world.openFds⟩, descriptor.teardown⟩
  case placed => exact parks
  case mine => exact only
  case born => simpa using inside
  case outcome =>
    rintro duration rfl
    obtain rfl := breaking_of duration rfl
    rw [wakesOf_concat_self taken, (kept.outcome me duration _ found).asleep, (released rfl).1]
    exact .slept wake (by simpa [Frame.admits] using admits)
  case isOpen =>
    intro parked
    have again : Frame.breaking.Of call := parks _ parked
    cases call with
    | sendBreak duration =>
      have ended : slept wake = .parked .breaking := (released (breaking_of duration rfl)).1.symm.trans parked
      cases wake <;> cases ended
    | _ => exact again.elim
  case line =>
    by_cases breaking : frame = .breaking
    · exact .inr (.inl (released breaking).2)
    · have same : OnPort SameBreak (turn.prepare state).port settled.2 := sameBreak_resume lawful breaking
      refine .inr (.inr ⟨same.world, ?_, fun duration same => absurd (breaking_of duration same) breaking⟩)
      rintro ⟨operation, again⟩
      cases found.symm.trans again
      exact breaking rfl

theorem keeps_closeBackend_sameBreak (lawful : Lawful loop) :
    Keeps (OnPort SameBreak) (Port.closeBackend subclass.backend loop) :=
  keeps_closeBackend (fun fd => keeps_onPort (keeps_of_unchanged (lawful.notifyClosing fd))) (keeps_onPort subclass.closeBreak)
    fun _ _ => ⟨rfl, rfl⟩

theorem BreakKept.aclose {label : AcloseLabel} {moved : Port (World ε δ)} (lawful : Lawful loop)
    (kept : BreakKept turns state) (fine : BreakFine subclass state turn) (taken : turn.label = .aclose label)
    (stepped : acloseStep subclass.backend loop (turn.prepare state).port label = some moved) :
    BreakKept (turns ++ [turn]) { turn.prepare state with port := moved } := by
  have untouched : ∀ me, wakesOf (turns ++ [turn]) me = wakesOf turns me :=
    fun me => wakesOf_concat fun wake woken => nomatch taken.symm.trans woken
  have breaking : ∀ me, Breaking { turn.prepare state with port := moved } me ↔ Breaking state me := fun _ => Iff.rfl
  have reached : HoldsWhileOpen moved ∧ (∀ me, Breaking state me → moved.closed = false) ∧
      SameBreak state.port.backend moved.backend := by
    rcases acloseStep_cases stepped with ⟨step, teardown, other, walked, rfl⟩ | ⟨me, teardown, rfl, walked, rfl⟩
    · have same : teardown.closed = state.port.teardown.closed := (Teardown.closed_of_step walked).1 other
      refine ⟨fun isOpen => kept.holds (same.symm.trans isOpen), fun me busy => ?_, rfl⟩
      exact same.trans (kept.isOpen me busy)
    · have isClosed : teardown.closed = true := (Teardown.closed_of_step walked).2 ⟨me, _, rfl⟩
      have idle : ∀ other, ¬Breaking state other := by
        have fine : state.port.closed = true ∨ ∀ me, ¬Breaking state me := by simpa only [BreakFine, taken] using fine
        rcases fine with closed | idle
        · exact fun other busy => absurd ((kept.isOpen other busy).symm.trans closed) (by decide)
        · exact idle
      refine ⟨fun isOpen => absurd (isClosed.symm.trans isOpen) (by decide), fun other busy => absurd busy (idle other), ?_⟩
      exact (related_closeOnce (keeps_closeBackend_sameBreak lawful) (turn.prepare state).port).world
  obtain ⟨holds, isOpen, line⟩ := reached
  constructor
  case holds => exact holds
  case isOpen => exact isOpen
  case placed => exact kept.placed
  case outcome =>
    intro me duration progress found
    rw [untouched]
    exact kept.outcome me duration progress found
  case unborn =>
    intro me beyond
    rw [untouched]
    exact kept.unborn me beyond
  case line =>
    rcases kept.line with busy | released | idle
    · exact .inl busy
    · exact .inr (.inl (line.trans released))
    · refine .inr (.inr fun me duration progress found => ?_)
      rw [untouched]
      exact idle me duration progress found

theorem BreakKept.step (lawful : Lawful loop) (kept : BreakKept turns state) (fine : BreakFine subclass state turn)
    (stepped : turnStep subclass loop state turn = some after) : BreakKept (turns ++ [turn]) after := by
  rcases step_cases stepped with ⟨call, cancelled, taken, rfl⟩ | ⟨me, wake, call, frame, taken, found, admits, rfl⟩ |
    ⟨label, moved, taken, closed, rfl⟩
  · have reached := kept.call subclass lawful fine taken
    exact reached
  · have reached := kept.wake lawful fine taken found admits
    exact reached
  · have reached := kept.aclose lawful fine taken closed
    exact reached

end Steps

/-- In every run of a port, as long as the port is not closed under a break and the kernel
accepts the call that ends one: every caller of `send_break` sees its own outcome, and
when the last break has ended the line is released. -/
theorem send_break_ends_every_break (subclass : Subclass ε δ) (lawful : Lawful loop)
    (held : world.host.Holds world.backend.fd) {config : SerialConfig} {turns : List Turn} {final : State (World ε δ)}
    (ran : run (turnStep subclass loop) (State.opened world config) turns = some final)
    (fine : ∀ taken turn rest state, turns = taken ++ turn :: rest →
      run (turnStep subclass loop) (State.opened world config) taken = some state → BreakFine subclass state turn) :
    (∀ (me : Nat) duration progress, final.tasks[me]? = some ⟨.sendBreak duration, progress⟩ →
      BreakOutcome duration (wakesOf turns me) progress) ∧
    ((∀ me, ¬Breaking final me) → ∀ (me : Nat) duration progress,
      final.tasks[me]? = some ⟨.sendBreak duration, progress⟩ →
      (wakesOf turns me ≠ [] ∨ progress = .raised .overflowError) → final.port.backend.host.breakOn = false) := by
  have kept : BreakKept turns final :=
    run_history_along BreakKept (BreakFine subclass) (breakKept_opened held config)
      (fun _ _ _ _ fine kept stepped => kept.step lawful fine stepped) ran fine
  refine ⟨kept.outcome, fun quiet me duration progress found slept => ?_⟩
  rcases kept.line with ⟨other, busy⟩ | released | idle
  · exact absurd busy (quiet other)
  · exact released
  · obtain ⟨unwoken, unended⟩ := idle me duration progress found
    exact absurd slept (by simp [unwoken, unended])

/-- A turn whose calls are all accepted. -/
def smoothTurn (label : Label) : Turn := ⟨noFaults, {}, label⟩

/-- A break that is cancelled in its sleep. -/
def cancelledBreak : List Turn :=
  [smoothTurn (.call (.sendBreak (.int 1)) false), smoothTurn (.wake 0 .cancelled)]

theorem send_break_ends_a_cancelled_break :
    ∃ final, run (turnStep linuxSubclass quietLoop) (State.opened Linux.polledTerminal {}) cancelledBreak = some final ∧
      (∀ (me : Nat) duration progress, final.tasks[me]? = some ⟨.sendBreak duration, progress⟩ →
        BreakOutcome duration (wakesOf cancelledBreak me) progress) ∧
      final.port.backend.host.breakOn = false := by
  have held : Linux.polledTerminal.host.Holds Linux.polledTerminal.backend.fd := ⟨by decide +kernel, by decide +kernel⟩
  have runs : ((run (turnStep linuxSubclass quietLoop) (State.opened Linux.polledTerminal {}) cancelledBreak).map
      State.tasks) = some [⟨.sendBreak (.int 1), .raised .cancelled⟩] := by decide +kernel
  obtain ⟨final, ran, tasks⟩ := Option.map_eq_some_iff.mp runs
  have fine : ∀ turn ∈ cancelledBreak, ∀ state : State Linux.LinuxWorld, BreakFine linuxSubclass state turn := by
    intro turn member state
    rcases List.mem_cons.mp member with rfl | member
    · exact fun _ => ⟨by decide, rfl⟩
    · obtain rfl := List.mem_singleton.mp member
      exact fun _ => ⟨by decide, rfl⟩
  obtain ⟨outcomes, released⟩ := send_break_ends_every_break linuxSubclass lawful_quietLoop held ran
    fun taken turn rest state split _ => fine turn (by simp [split]) state
  have quiet : ∀ me, ¬Breaking final me := by
    rintro me ⟨call, found⟩
    rw [tasks] at found
    cases me with
    | zero => cases found
    | succ me => cases found
  exact ⟨final, ran, outcomes, released quiet 0 (.int 1) (.raised .cancelled) (by rw [tasks]; rfl) (.inl (by decide +kernel))⟩

/-- The port is closed under a break, and then the break is cancelled. -/
def closedUnderBreak : List Turn :=
  [smoothTurn (.call (.sendBreak (.int 1)) false), smoothTurn (.aclose (.call false)),
    smoothTurn (.aclose (.resume 0)), smoothTurn (.wake 0 .cancelled)]

/-- No call ends the break, and the error of the missing descriptor takes the place of
the cancellation. -/
theorem closing_under_a_break_leaves_it_on :
    (run (turnStep linuxSubclass quietLoop) (State.opened Linux.polledTerminal {}) closedUnderBreak).map
        (fun final => (final.tasks.map Task.progress, final.port.backend.host.breakOn)) =
      some ([.raised negativeDescriptor], true) ∧
    ¬BreakOutcome (.int 1) (wakesOf closedUnderBreak 0) (.raised negativeDescriptor) := by
  refine ⟨by decide +kernel, fun outcome => ?_⟩
  generalize same : (.raised negativeDescriptor : Progress) = progress at outcome
  generalize woken : wakesOf closedUnderBreak 0 = wakes at outcome
  cases outcome with
  | sleeping => cases same
  | refused exc refused => exact absurd woken (by decide +kernel)
  | unslept large => cases same
  | slept wake ends => cases wake <;> cases same

end Anyserial
