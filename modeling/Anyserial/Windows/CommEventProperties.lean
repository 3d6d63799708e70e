import Anyserial.Windows.CommEvent
import Anyserial.Windows.HotPathProperties
import Mathlib.Data.Nat.Bitwise

/-! What is lent to the kernel for a `WaitCommEvent` stays where it is until the kernel is
done with it, in any interleaving of calls, completions, cancellations and the close. -/
set_option autoImplicit false

namespace Anyserial.Windows

open Kit

section Mask

/-- The part of a mask that `open` subscribes to, put together from the single events. -/
theorem and_evAllModem (mask : Nat) :
    mask &&& evAllModem = (mask &&& evCts) ||| (mask &&& evDsr) ||| (mask &&& evRlsd) ||| (mask &&& evBreak) |||
      (mask &&& evErr) ||| (mask &&& evRing) := by
  simp only [← Nat.and_or_distrib_left]
  rfl

/-- A single event is reported or not. -/
theorem and_flag_congr {mask other : Nat} (bit : Nat) (same : decide (mask &&& 2 ^ bit ≠ 0) = decide (other &&& 2 ^ bit ≠ 0)) :
    mask &&& 2 ^ bit = other &&& 2 ^ bit := by
  have bits : mask.testBit bit = other.testBit bit := by simpa [Nat.and_two_pow] using same
  rw [Nat.and_two_pow, Nat.and_two_pow, bits]

/-- Two masks are reported alike exactly when they agree in the events that `open`
subscribes to: none of these is confused with another one or left out. -/
theorem commEvent_eq_iff (mask other : Nat) :
    commEvent mask = commEvent other ↔ mask &&& evAllModem = other &&& evAllModem := by
  constructor
  · intro same
    obtain ⟨cts, dsr, rlsd, ring, error, broken⟩ := CommEvent.mk.inj same
    rw [and_evAllModem, and_evAllModem, show mask &&& evCts = other &&& evCts from and_flag_congr 3 cts,
      show mask &&& evDsr = other &&& evDsr from and_flag_congr 4 dsr,
      show mask &&& evRlsd = other &&& evRlsd from and_flag_congr 5 rlsd,
      show mask &&& evBreak = other &&& evBreak from and_flag_congr 6 broken,
      show mask &&& evErr = other &&& evErr from and_flag_congr 7 error,
      show mask &&& evRing = other &&& evRing from and_flag_congr 8 ring]
  · intro same
    have narrowed : ∀ flag : Nat, evAllModem &&& flag = flag → mask &&& flag = other &&& flag := by
      intro flag within
      rw [← within, ← Nat.and_assoc, same, Nat.and_assoc]
    simp only [commEvent, narrowed evCts rfl, narrowed evDsr rfl, narrowed evRlsd rfl, narrowed evRing rfl,
      narrowed evErr rfl, narrowed evBreak rfl]

end Mask

/-- Who keeps a wait alive: the frame of a parked task, or the list of abandoned waits. -/
inductive CommHolder where
  | task (me : Nat)
  | abandoned (index : Nat)
  deriving DecidableEq

def CommTask.wait : CommTask → Option CommWait
  | .waiting wait => some wait
  | .returned _ _ | .raised _ => none

def holdsOf (tasks : List CommTask) (abandoned : List CommWait) : CommHolder → Option CommWait
  | .task me => tasks[me]?.bind CommTask.wait
  | .abandoned index => abandoned[index]?

def CommState.holds (state : CommState) : CommHolder → Option CommWait := holdsOf state.tasks state.world.abandoned

section Holders

variable {tasks : List CommTask} {abandoned : List CommWait} {task : CommTask} {me : Nat}

theorem holdsOf_append (tasks : List CommTask) (abandoned : List CommWait) (task : CommTask) :
    holdsOf (tasks ++ [task]) abandoned =
      Function.update (holdsOf tasks abandoned) (.task tasks.length) task.wait := by
  funext holder
  by_cases new : holder = .task tasks.length
  · subst new
    simp [holdsOf]
  · rw [Function.update_of_ne new]
    cases holder with
    | task me =>
      have different : me ≠ tasks.length := fun same => new (congrArg CommHolder.task same)
      by_cases earlier : me < tasks.length
      · simp [holdsOf, List.getElem?_append_left earlier]
      · have beyond : (tasks ++ [task])[me]? = none := by
          rw [List.getElem?_eq_none_iff, List.length_append, List.length_singleton]
          omega
        simp only [holdsOf, beyond, List.getElem?_eq_none (Nat.le_of_not_lt earlier)]
    | abandoned index => rfl

theorem holdsOf_set (inside : me < tasks.length) (abandoned : List CommWait) (task : CommTask) :
    holdsOf (tasks.set me task) abandoned = Function.update (holdsOf tasks abandoned) (.task me) task.wait := by
  funext holder
  by_cases mine : holder = .task me
  · subst mine
    simp [holdsOf, List.getElem?_set_self inside]
  · rw [Function.update_of_ne mine]
    cases holder with
    | task other =>
      have different : me ≠ other := fun same => mine (congrArg CommHolder.task same.symm)
      simp only [holdsOf, List.getElem?_set_ne different]
    | abandoned index => rfl

theorem holdsOf_abandon (tasks : List CommTask) (abandoned : List CommWait) (wait : CommWait) :
    holdsOf tasks (abandoned ++ [wait]) =
      Function.update (holdsOf tasks abandoned) (.abandoned abandoned.length) (some wait) := by
  funext holder
  by_cases new : holder = .abandoned abandoned.length
  · subst new
    simp [holdsOf]
  · rw [Function.update_of_ne new]
    cases holder with
    | task me => rfl
    | abandoned index =>
      have different : index ≠ abandoned.length := fun same => new (congrArg CommHolder.abandoned same)
      by_cases earlier : index < abandoned.length
      · simp [holdsOf, List.getElem?_append_left earlier]
      · have beyond : (abandoned ++ [wait])[index]? = none := by
          rw [List.getElem?_eq_none_iff, List.length_append, List.length_singleton]
          omega
        simp only [holdsOf, beyond, List.getElem?_eq_none (Nat.le_of_not_lt earlier)]

end Holders

/-- What a held wait finds in the world: its operation, its mask and its event, which is
signalled exactly when the kernel is done with the operation and the mask is written. -/
structure Backed (world : CommWorld) (wait : CommWait) : Prop where
  backed : ∃ result, world.operations[wait.operation]? = some ⟨wait.address, wait.event, result⟩ ∧
    world.events wait.event = some result.isSome ∧
    ∃ mask, world.memory wait.address = some mask ∧ ∀ done, result = some done → mask = done

/-- What is lent to the kernel, and to whom it belongs. -/
structure Lent (holds : CommHolder → Option CommWait) (world : CommWorld) : Prop where
  operations : Exclusive CommWait.operation holds
  addresses : Exclusive CommWait.address holds
  events : Exclusive CommWait.event holds
  backed : ∀ wait, Held holds wait → Backed world wait
  pending : ∀ (i : Nat) address event, world.operations[i]? = some ⟨address, event, none⟩ → Held holds ⟨i, address, event⟩
  eventsHeld : ∀ event, world.events event ≠ none → ∃ wait, Held holds wait ∧ wait.event = event
  memoryHeld : ∀ address, world.memory address ≠ none → ∃ wait, Held holds wait ∧ wait.address = address
  clean : world.stray = false

/-- The event is what the kernel reported for the operation. -/
def CommReported (world : CommWorld) (operation : Nat) (event : CommEvent) : Prop :=
  ∃ address handle mask, world.operations[operation]? = some ⟨address, handle, some mask⟩ ∧ event = commEvent mask

section Finish

variable {holds : CommHolder → Option CommWait} {world : CommWorld} {operation mask : Nat}

theorem finish_of_pending {address : Nat} {event : Handle} {old : Nat} {signal : Bool}
    (found : world.operations[operation]? = some ⟨address, event, none⟩) (allocated : world.memory address = some old)
    (isOpen : world.events event = some signal) :
    world.finish operation mask = { world with
      operations := world.operations.set operation ⟨address, event, some mask⟩
      memory := Function.update world.memory address (some mask)
      events := Function.update world.events event (some true) } := by
  simp [CommWorld.finish, found, allocated, isOpen]

theorem finish_of_settled (settled : ∀ address event, world.operations[operation]? ≠ some ⟨address, event, none⟩) :
    world.finish operation mask = world := by
  unfold CommWorld.finish
  split
  · rename_i address event found
    exact absurd found (settled address event)
  · rfl

/-- The kernel may finish what it pleases: it writes only where it was lent something. -/
theorem Lent.finish (lent : Lent holds world) (operation mask : Nat) : Lent holds (world.finish operation mask) := by
  by_cases pending : ∃ address event, world.operations[operation]? = some ⟨address, event, none⟩
  · obtain ⟨address, event, found⟩ := pending
    have held := lent.pending operation address event found
    obtain ⟨result, here, isOpen, old, allocated, _⟩ := (lent.backed _ held).backed
    have inside : operation < world.operations.length := (List.getElem?_eq_some_iff.mp found).1
    rw [finish_of_pending found allocated isOpen]
    obtain ⟨holder, mine⟩ := held
    have apart : ∀ wait, Held holds wait → wait.operation ≠ operation → wait.address ≠ address ∧ wait.event ≠ event := by
      intro wait other different
      obtain ⟨rival, theirs⟩ := other
      have distinct : rival ≠ holder := by
        intro same
        subst same
        cases mine.symm.trans theirs
        exact different rfl
      exact ⟨fun same => distinct (lent.addresses rival holder wait _ theirs mine same),
        fun same => distinct (lent.events rival holder wait _ theirs mine same)⟩
    refine ⟨lent.operations, lent.addresses, lent.events, fun wait other => ⟨?_⟩, ?_, ?_, ?_, lent.clean⟩
    · by_cases same : wait.operation = operation
      · obtain ⟨rival, theirs⟩ := other
        obtain rfl := lent.operations rival holder wait _ theirs mine same
        cases mine.symm.trans theirs
        refine ⟨some mask, List.getElem?_set_self inside, Function.update_self .., mask, Function.update_self .., ?_⟩
        exact fun done same => Option.some.inj same
      · obtain ⟨elsewhere, otherwise⟩ := apart wait other same
        obtain ⟨result, there, signalled, value, stored, written⟩ := (lent.backed wait other).backed
        refine ⟨result, ?_, ?_, value, ?_, written⟩
        · rwa [List.getElem?_set_ne (Ne.symm same)]
        · exact (Function.update_of_ne otherwise ..).trans signalled
        · exact (Function.update_of_ne elsewhere ..).trans stored
    · intro i place handle unfinished
      by_cases same : i = operation
      · subst same
        rw [List.getElem?_set_self inside] at unfinished
        cases unfinished
      · rw [List.getElem?_set_ne (Ne.symm same)] at unfinished
        exact lent.pending i place handle unfinished
    · intro handle exists_
      by_cases same : handle = event
      · exact ⟨_, ⟨holder, mine⟩, same.symm⟩
      · exact lent.eventsHeld handle ((Function.update_of_ne same ..).symm.trans_ne exists_)
    · intro place stored
      by_cases same : place = address
      · exact ⟨_, ⟨holder, mine⟩, same.symm⟩
      · exact lent.memoryHeld place ((Function.update_of_ne same ..).symm.trans_ne stored)
  · rw [finish_of_settled fun address event found => pending ⟨address, event, found⟩]
    exact lent

theorem finish_abandoned : (world.finish operation mask).abandoned = world.abandoned := by
  unfold CommWorld.finish
  split
  · rfl
  · rfl

theorem reported_finish {other : Nat} {event : CommEvent} (reported : CommReported world other event) :
    CommReported (world.finish operation mask) other event := by
  obtain ⟨address, handle, value, found, rfl⟩ := reported
  refine ⟨address, handle, value, ?_, rfl⟩
  unfold CommWorld.finish
  split
  · rename_i place event unfinished
    have different : operation ≠ other := by
      intro same
      subst same
      cases found.symm.trans unfinished
    dsimp only
    rwa [List.getElem?_set_ne different]
  · exact found

end Finish

section Lending

variable {holds : CommHolder → Option CommWait} {world : CommWorld} {holder other : CommHolder} {wait : CommWait}
  {address : Nat} {event : Handle}

/-- The world after a new operation was submitted with what was allocated for it. -/
def CommWorld.lend (world : CommWorld) (address : Nat) (event : Handle) : CommWorld :=
  { world with
    events := Function.update world.events event (some false)
    memory := Function.update world.memory address (some 0)
    operations := world.operations ++ [⟨address, event, none⟩] }

/-- The world after what was lent for a wait was released. -/
def CommWorld.release (world : CommWorld) (wait : CommWait) : CommWorld :=
  { world with
    events := Function.update world.events wait.event none
    memory := Function.update world.memory wait.address none
    stray := world.stray || (world.events wait.event).isNone }

@[simp] theorem release_abandoned (world : CommWorld) (wait : CommWait) : (world.release wait).abandoned = world.abandoned := rfl

theorem Backed.lt {wait : CommWait} (backed : Backed world wait) : wait.operation < world.operations.length := by
  obtain ⟨result, found, _⟩ := backed.backed
  exact (List.getElem?_eq_some_iff.mp found).1

theorem Lent.lend (lent : Lent holds world) (free : holds holder = none) (unused : world.memory address = none)
    (closed : world.events event = none) :
    Lent (Function.update holds holder (some ⟨world.operations.length, address, event⟩)) (world.lend address event) := by
  have held : ∀ wait, Held (Function.update holds holder (some ⟨world.operations.length, address, event⟩)) wait ↔
      wait = ⟨world.operations.length, address, event⟩ ∨ Held holds wait := held_acquire free
  have older : ∀ wait, Held holds wait →
      wait.operation ≠ world.operations.length ∧ wait.address ≠ address ∧ wait.event ≠ event := by
    intro wait still
    have backed := lent.backed wait still
    obtain ⟨result, _, isOpen, mask, stored, _⟩ := backed.backed
    refine ⟨Nat.ne_of_lt backed.lt, fun same => ?_, fun same => ?_⟩
    · rw [same, unused] at stored
      cases stored
    · rw [same, closed] at isOpen
      cases isOpen
  refine ⟨lent.operations.acquire holder fun wait still => (older wait still).1,
    lent.addresses.acquire holder fun wait still => (older wait still).2.1,
    lent.events.acquire holder fun wait still => (older wait still).2.2, fun wait still => ⟨?_⟩, ?_, ?_, ?_, lent.clean⟩
  · rcases (held wait).mp still with rfl | earlier
    · exact ⟨none, by simp [CommWorld.lend], Function.update_self .., 0, Function.update_self .., by simp⟩
    · obtain ⟨_, elsewhere, otherwise⟩ := older wait earlier
      have backed := lent.backed wait earlier
      obtain ⟨result, found, signalled, mask, stored, written⟩ := backed.backed
      refine ⟨result, ?_, (Function.update_of_ne otherwise ..).trans signalled, mask,
        (Function.update_of_ne elsewhere ..).trans stored, written⟩
      exact (List.getElem?_append_left backed.lt).trans found
  · intro i place handle unfinished
    rw [held]
    by_cases earlier : i < world.operations.length
    · exact .inr (lent.pending i place handle ((List.getElem?_append_left earlier).symm.trans unfinished))
    · have inside : i < (world.operations ++ [(⟨address, event, none⟩ : CommOperation)]).length :=
        (List.getElem?_eq_some_iff.mp unfinished).1
      have last : i = world.operations.length := by
        simp only [List.length_append, List.length_singleton] at inside
        omega
      subst last
      simp only [CommWorld.lend, List.getElem?_concat_length, Option.some.injEq, CommOperation.mk.injEq, and_true] at unfinished
      obtain ⟨rfl, rfl⟩ := unfinished
      exact .inl rfl
  · intro handle isOpen
    by_cases same : handle = event
    · exact ⟨_, (held _).mpr (.inl rfl), same.symm⟩
    · obtain ⟨wait, still, named⟩ := lent.eventsHeld handle ((Function.update_of_ne same ..).symm.trans_ne isOpen)
      exact ⟨wait, (held _).mpr (.inr still), named⟩
  · intro place stored
    by_cases same : place = address
    · exact ⟨_, (held _).mpr (.inl rfl), same.symm⟩
    · obtain ⟨wait, still, named⟩ := lent.memoryHeld place ((Function.update_of_ne same ..).symm.trans_ne stored)
      exact ⟨wait, (held _).mpr (.inr still), named⟩

/-- A holder whose operation is signalled gives back what was lent for it. -/
theorem Lent.release (lent : Lent holds world) (mine : holds holder = some wait)
    (finished : world.events wait.event = some true) : Lent (Function.update holds holder none) (world.release wait) := by
  have byOperation := held_release lent.operations mine
  have byAddress := held_release lent.addresses mine
  have byEvent := held_release lent.events mine
  obtain ⟨result, found, signalled, _⟩ := (lent.backed wait ⟨holder, mine⟩).backed
  refine ⟨lent.operations.release holder, lent.addresses.release holder, lent.events.release holder,
    fun other still => ⟨?_⟩, ?_, ?_, ?_, ?_⟩
  · obtain ⟨earlier, elsewhere⟩ := (byAddress other).mp still
    obtain ⟨_, otherwise⟩ := (byEvent other).mp still
    obtain ⟨result, there, signal, mask, stored, written⟩ := (lent.backed other earlier).backed
    exact ⟨result, there, (Function.update_of_ne otherwise ..).trans signal, mask,
      (Function.update_of_ne elsewhere ..).trans stored, written⟩
  · intro i place handle unfinished
    refine (byOperation _).mpr ⟨lent.pending i place handle unfinished, fun same => ?_⟩
    -- The operation of this wait is finished, so it is not the pending one.
    have pending : world.operations[wait.operation]? = some ⟨place, handle, none⟩ := by
      rw [← same]
      exact unfinished
    rw [found] at pending
    cases pending
    cases signalled.symm.trans finished
  · intro handle isOpen
    have different : handle ≠ wait.event := by
      intro same
      subst same
      exact isOpen (Function.update_self ..)
    obtain ⟨other, still, named⟩ := lent.eventsHeld handle ((Function.update_of_ne different ..).symm.trans_ne isOpen)
    exact ⟨other, (byEvent other).mpr ⟨still, named ▸ different⟩, named⟩
  · intro place stored
    have different : place ≠ wait.address := by
      intro same
      subst same
      exact stored (Function.update_self ..)
    obtain ⟨other, still, named⟩ := lent.memoryHeld place ((Function.update_of_ne different ..).symm.trans_ne stored)
    exact ⟨other, (byAddress other).mpr ⟨still, named ▸ different⟩, named⟩
  · simp [CommWorld.release, lent.clean, finished]

/-- A holder hands its wait on to one that has none. -/
theorem Lent.hand (lent : Lent holds world) (mine : holds holder = some wait) (free : holds other = none)
    (abandoned : List CommWait) :
    Lent (Function.update (Function.update holds holder none) other (some wait)) { world with abandoned := abandoned } := by
  have held := held_hand mine free
  refine ⟨lent.operations.hand mine other, lent.addresses.hand mine other, lent.events.hand mine other,
    fun wait still => ⟨(lent.backed wait ((held wait).mp still)).backed⟩, ?_, ?_, ?_, lent.clean⟩
  · intro i place handle unfinished
    exact (held _).mpr (lent.pending i place handle unfinished)
  · intro handle isOpen
    obtain ⟨wait, still, named⟩ := lent.eventsHeld handle isOpen
    exact ⟨wait, (held wait).mpr still, named⟩
  · intro place stored
    obtain ⟨wait, still, named⟩ := lent.memoryHeld place stored
    exact ⟨wait, (held wait).mpr still, named⟩

end Lending

section Segments

variable {holds : CommHolder → Option CommWait} {world : CommWorld} {wait : CommWait} {answers : BeginAnswers}

theorem completeWait_eq (wait : CommWait) (world : CommWorld) :
    completeWait wait world =
      .ok (.returned wait.operation (commEvent ((world.memory wait.address).getD 0))) (world.release wait) := rfl

theorem beginWait_eq (answers : BeginAnswers) (world : CommWorld) : beginWait answers world =
    (if world.windows.backend.isOpen then
      translatingWait (do
        let event ← createEvent answers.event
        allocate answers.address
        issueWait ⟨world.operations.length, answers.address, event⟩ answers.issue)
    else throw (closedError world.windows.backend.path) : Comm CommTask) world := rfl

/-- Everything the first segment of a call can come to. -/
theorem beginWait_cases (fresh : answers.fresh world = true) :
    (∃ exc, settleWait (beginWait answers world) = (.raised exc, world)) ∨
    (∃ event, world.events event = none ∧ settleWait (beginWait answers world) =
      (.waiting ⟨world.operations.length, answers.address, event⟩, world.lend answers.address event)) ∨
    ∃ event mask, world.events event = none ∧
      let finished := (world.lend answers.address event).finish world.operations.length mask
      settleWait (beginWait answers world) = settleWait
        (completeWait ⟨world.operations.length, answers.address, event⟩ finished) := by
  obtain ⟨created, address, issue⟩ := answers
  simp only [BeginAnswers.fresh, Bool.and_eq_true, Option.isNone_iff_eq_none] at fresh
  obtain ⟨unused, closed⟩ := fresh
  cases isOpen : world.windows.backend.isOpen with
  | false =>
    refine .inl ⟨closedError world.windows.backend.path, ?_⟩
    rw [beginWait_eq, isOpen]
    rfl
  | true =>
    rw [beginWait_eq, isOpen, if_pos rfl]
    cases created with
    | error err => exact .inl ⟨winerrorToException (.osError err) .ioctl world.windows.backend.path, rfl⟩
    | ok event =>
      have unopened : world.events event = none := by simpa using closed
      cases issue with
      | finished mask => exact .inr (.inr ⟨event, mask, unopened, rfl⟩)
      | pending => exact .inr (.inl ⟨event, unopened, rfl⟩)
      | refused err =>
        refine .inl ⟨winerrorToException (.osError err) .ioctl world.windows.backend.path, ?_⟩
        have events : Function.update (Function.update world.events event (some false)) event none = world.events := by
          rw [Function.update_idem, ← unopened, Function.update_eq_self]
        have memory : Function.update (Function.update world.memory address (some 0)) address none = world.memory := by
          rw [Function.update_idem, ← unused, Function.update_eq_self]
        have restored : ({ world with
            events := Function.update (Function.update world.events event (some false)) event none
            memory := Function.update (Function.update world.memory address (some 0)) address none
            stray := world.stray || (Function.update world.events event (some false) event).isNone } : CommWorld) = world := by
          simp only [events, memory, Function.update_self, Option.isNone_some, Bool.or_false]
        exact congrArg (Prod.mk _) restored

def CommWorld.finishAll (world : CommWorld) (finished : List (Nat × Nat)) : CommWorld :=
  finished.foldl (fun world done => world.finish done.1 done.2) world

theorem ends_translatingWait {α : Type} {body : Comm α} {returned : α → CommWorld → Prop} {raised : WinExc → CommWorld → Prop}
    (ends : Ends body world returned fun _ after => ∀ exc, raised exc after) :
    Ends (translatingWait body) world returned raised := by
  simp only [translatingWait, ends_tryCatch, ends_bind, ends_get, ends_ite, ends_throw]
  exact ends.mono (fun _ _ reached => reached) fun _ _ reached => ⟨fun _ => reached _, fun _ => reached _⟩

theorem settleWait_of_ends (good : CommTask → CommWorld → Prop) {body : Comm CommTask}
    (ends : Ends body world (fun task after => good task after) fun exc after => good (.raised exc) after) :
    good (settleWait (body world)).1 (settleWait (body world)).2 := by
  unfold Ends at ends
  cases ran : body world with
  | ok task after =>
    rw [ran] at ends
    exact ends
  | error exc after =>
    rw [ran] at ends
    exact ends

/-- A cancelled wait is released if its event is seen to be signalled, and kept otherwise. -/
theorem interruptWait_spec (wait : CommWait) (exc : WinExc) (answers : CancelAnswers) (world : CommWorld) :
    let finished := world.finishAll answers.finished
    let settled := settleWait (interruptWait wait exc answers world)
    (∃ raised, settled.1 = .raised raised) ∧
      ((finished.events wait.event = some true ∧ settled.2 = finished.release wait) ∨
        ((answers.waitFails = true ∨ finished.events wait.event ≠ some true) ∧
          settled.2 = { finished with abandoned := finished.abandoned ++ [wait] })) := by
  intro finished settled
  refine settleWait_of_ends (fun task after => (∃ raised, task = .raised raised) ∧
    ((finished.events wait.event = some true ∧ after = finished.release wait) ∨
      ((answers.waitFails = true ∨ finished.events wait.event ≠ some true) ∧
        after = { finished with abandoned := finished.abandoned ++ [wait] }))) (ends_translatingWait ?_)
  simp only [ends_bind, ends_modify, ends_get, ends_ite, closeEvent, deallocate, ends_throw]
  refine ⟨fun released raised => ⟨⟨raised, rfl⟩, .inl ⟨released.2, rfl⟩⟩, fun kept raised => ⟨⟨raised, rfl⟩, .inr ⟨?_, rfl⟩⟩⟩
  by_cases fails : answers.waitFails = true
  · exact .inl fails
  · exact .inr fun signalled => kept ⟨by simpa using fails, signalled⟩

variable {finished : List (Nat × Nat)}

theorem Lent.finishAll (lent : Lent holds world) (finished : List (Nat × Nat)) : Lent holds (world.finishAll finished) := by
  induction finished generalizing world with
  | nil => exact lent
  | cons done rest ih => exact ih (lent.finish done.1 done.2)

theorem finishAll_abandoned (world : CommWorld) (finished : List (Nat × Nat)) :
    (world.finishAll finished).abandoned = world.abandoned := by
  induction finished generalizing world with
  | nil => rfl
  | cons done rest ih => exact (ih (world.finish done.1 done.2)).trans finish_abandoned

theorem reported_finishAll {other : Nat} {event : CommEvent} (reported : CommReported world other event)
    (finished : List (Nat × Nat)) : CommReported (world.finishAll finished) other event := by
  induction finished generalizing world with
  | nil => exact reported
  | cons done rest ih => exact ih (reported_finish reported)

theorem finish_lend_events (world : CommWorld) (address : Nat) (event : Handle) (mask : Nat) :
    ((world.lend address event).finish world.operations.length mask).events event = some true := by
  have found : (world.lend address event).operations[world.operations.length]? = some ⟨address, event, none⟩ := by
    simp [CommWorld.lend]
  have allocated : (world.lend address event).memory address = some 0 := Function.update_self ..
  have isOpen : (world.lend address event).events event = some false := Function.update_self ..
  rw [finish_of_pending found allocated isOpen]
  exact Function.update_self ..

theorem reported_lend {other : Nat} {event : CommEvent} {address : Nat} {handle : Handle}
    (reported : CommReported world other event) : CommReported (world.lend address handle) other event := by
  obtain ⟨place, named, mask, found, rfl⟩ := reported
  exact ⟨place, named, mask, (List.getElem?_append_left (List.getElem?_eq_some_iff.mp found).1).trans found, rfl⟩

/-- What a wait whose event is signalled reports is what the kernel wrote for it. -/
theorem Backed.reports (backed : Backed world wait) (finished : world.events wait.event = some true) :
    CommReported world wait.operation (commEvent ((world.memory wait.address).getD 0)) := by
  obtain ⟨result, found, signalled, mask, stored, written⟩ := backed.backed
  cases result with
  | none => cases signalled.symm.trans finished
  | some done =>
    refine ⟨wait.address, wait.event, done, found, ?_⟩
    rw [stored, written done rfl, Option.getD_some]

end Segments

section States

variable {state after : CommState} {label : CommLabel} {windows : WindowsWorld}

/-- All that is lent to the kernel is held, and every call reported its own operation. -/
structure CommSound (state : CommState) : Prop where
  lent : Lent state.holds state.world
  reported : ∀ (me : Nat) operation event, state.tasks[me]? = some (.returned operation event) →
    CommReported state.world operation event

theorem commSound_opened (windows : WindowsWorld) : CommSound (.opened windows) := by
  have nothing : ∀ wait, ¬Held (CommState.opened windows).holds wait := by
    intro wait held
    obtain ⟨holder, held⟩ := held
    cases holder <;> simp [CommState.holds, CommState.opened, holdsOf] at held
  have alone : ∀ {Key : Type} (key : CommWait → Key), Exclusive key (CommState.opened windows).holds :=
    fun key holder _ wait _ held _ _ => absurd ⟨holder, held⟩ (nothing wait)
  refine ⟨⟨alone _, alone _, alone _, fun wait held => absurd held (nothing wait), ?_, ?_, ?_, rfl⟩, ?_⟩
  · intro i address event found
    simp [CommState.opened] at found
  · intro event isOpen
    exact absurd rfl isOpen
  · intro address stored
    exact absurd rfl stored
  · intro me operation event found
    simp [CommState.opened] at found

/-- Every result that a task reports in the new world was reported before, or is its own. -/
theorem reported_of_tasks {world : CommWorld} {tasks : List CommTask}
    (kept : ∀ operation event, CommTask.returned operation event ∈ tasks → CommReported world operation event) (me : Nat)
    (operation : Nat) (event : CommEvent) (found : tasks[me]? = some (.returned operation event)) :
    CommReported world operation event := kept operation event (List.mem_of_getElem? found)

theorem CommSound.call (sound : CommSound state) {answers : BeginAnswers} (fresh : answers.fresh state.world = true) :
    CommSound ⟨(settleWait (beginWait answers state.world)).2,
      state.tasks ++ [(settleWait (beginWait answers state.world)).1]⟩ := by
  have unused : state.world.memory answers.address = none := by
    simp only [BeginAnswers.fresh, Bool.and_eq_true, Option.isNone_iff_eq_none] at fresh
    exact fresh.1
  have free : state.holds (.task state.tasks.length) = none := by simp [CommState.holds, holdsOf]
  have earlier : ∀ operation event, CommTask.returned operation event ∈ state.tasks →
      CommReported state.world operation event := by
    intro operation event member
    obtain ⟨me, found⟩ := List.mem_iff_getElem?.mp member
    exact sound.reported me operation event found
  rcases beginWait_cases fresh with ⟨exc, same⟩ | ⟨event, unopened, same⟩ | ⟨event, mask, unopened, same⟩
  · rw [same]
    refine ⟨?_, reported_of_tasks fun operation event member => ?_⟩
    · rw [CommState.holds, holdsOf_append]
      have unheld : Function.update state.holds (.task state.tasks.length) none = state.holds := by
        rw [← free, Function.update_eq_self]
      exact unheld.symm ▸ sound.lent
    · rcases List.mem_append.mp member with old | new
      · exact earlier operation event old
      · simp at new
  · rw [same]
    refine ⟨?_, reported_of_tasks fun operation reported member => ?_⟩
    · rw [CommState.holds, holdsOf_append]
      exact sound.lent.lend free unused unopened
    · rcases List.mem_append.mp member with old | new
      · exact reported_lend (earlier operation reported old)
      · simp at new
  · have lent := (sound.lent.lend free unused unopened).finish state.world.operations.length mask
    have mine : Function.update state.holds (.task state.tasks.length)
        (some ⟨state.world.operations.length, answers.address, event⟩) (.task state.tasks.length) =
        some ⟨state.world.operations.length, answers.address, event⟩ := Function.update_self ..
    have finished := finish_lend_events state.world answers.address event mask
    have released := lent.release mine finished
    rw [Function.update_idem] at released
    rw [same, completeWait_eq]
    refine ⟨?_, reported_of_tasks fun operation reported member => ?_⟩
    · rw [CommState.holds, holdsOf_append]
      have kept : ((state.world.lend answers.address event).finish state.world.operations.length mask).abandoned =
          state.world.abandoned := finish_abandoned
      simp only [settleWait, release_abandoned, kept]
      exact released
    · rcases List.mem_append.mp member with old | new
      · exact reported_finish (reported_lend (earlier operation reported old))
      · simp only [settleWait, List.mem_singleton, CommTask.returned.injEq] at new
        obtain ⟨rfl, rfl⟩ := new
        exact (lent.backed _ ⟨_, mine⟩).reports finished

theorem CommSound.wake (sound : CommSound state) {me : Nat} {wait : CommWait}
    (found : state.tasks[me]? = some (.waiting wait)) (finished : state.world.events wait.event = some true) :
    CommSound (state.continue me (completeWait wait)) := by
  have inside : me < state.tasks.length := (List.getElem?_eq_some_iff.mp found).1
  have mine : state.holds (.task me) = some wait := by simp [CommState.holds, holdsOf, found, CommTask.wait]
  constructor
  · simp only [CommState.continue, completeWait_eq, settleWait, CommState.holds, holdsOf_set inside]
    exact sound.lent.release mine finished
  · refine reported_of_tasks fun operation event member => ?_
    simp only [CommState.continue, completeWait_eq, settleWait] at member ⊢
    rcases List.mem_or_eq_of_mem_set member with old | new
    · obtain ⟨other, there⟩ := List.mem_iff_getElem?.mp old
      exact sound.reported other operation event there
    · simp only [CommTask.returned.injEq] at new
      obtain ⟨rfl, rfl⟩ := new
      exact (sound.lent.backed wait ⟨_, mine⟩).reports finished

theorem CommSound.interrupt (sound : CommSound state) {me : Nat} {wait : CommWait} (exc : WinExc) (answers : CancelAnswers)
    (found : state.tasks[me]? = some (.waiting wait)) : CommSound (state.continue me (interruptWait wait exc answers)) := by
  have inside : me < state.tasks.length := (List.getElem?_eq_some_iff.mp found).1
  have mine : state.holds (.task me) = some wait := by simp [CommState.holds, holdsOf, found, CommTask.wait]
  have free : state.holds (.abandoned state.world.abandoned.length) = none := by simp [CommState.holds, holdsOf]
  have lent := sound.lent.finishAll answers.finished
  have kept := finishAll_abandoned state.world answers.finished
  obtain ⟨⟨raised, ended⟩, released | abandoned⟩ := interruptWait_spec wait exc answers state.world
  · obtain ⟨finished, same⟩ := released
    constructor
    · simp only [CommState.continue, ended, same, CommState.holds, holdsOf_set inside, release_abandoned, kept]
      exact lent.release mine finished
    · refine reported_of_tasks fun operation event member => ?_
      simp only [CommState.continue, ended, same] at member ⊢
      rcases List.mem_or_eq_of_mem_set member with old | new
      · obtain ⟨other, there⟩ := List.mem_iff_getElem?.mp old
        exact reported_finishAll (sound.reported other operation event there) answers.finished
      · cases new
  · obtain ⟨_, same⟩ := abandoned
    constructor
    · simp only [CommState.continue, ended, same, CommState.holds, holdsOf_set inside, kept, holdsOf_abandon]
      have commuted := lent.hand mine free (state.world.abandoned ++ [wait])
      rw [Function.update_comm (by simp)] at commuted
      exact commuted
    · refine reported_of_tasks fun operation event member => ?_
      simp only [CommState.continue, ended, same] at member ⊢
      rcases List.mem_or_eq_of_mem_set member with old | new
      · obtain ⟨other, there⟩ := List.mem_iff_getElem?.mp old
        exact reported_finishAll (sound.reported other operation event there) answers.finished
      · cases new

theorem commSound_step (sound : CommSound state) (stepped : commStep state label = some after) : CommSound after := by
  cases label with
  | call answers =>
    simp only [commStep] at stepped
    split at stepped
    · rename_i fresh
      cases stepped
      exact sound.call fresh
    · cases stepped
  | finish operation mask =>
    simp only [commStep] at stepped
    split at stepped
    · cases stepped
      refine ⟨?_, fun me other event found => reported_finish (sound.reported me other event found)⟩
      have lent := sound.lent.finish operation mask
      simpa only [CommState.holds, finish_abandoned] using lent
    · cases stepped
  | wake me =>
    simp only [commStep] at stepped
    split at stepped
    · rename_i wait found
      split at stepped
      · rename_i finished
        cases stepped
        exact sound.wake found finished
      · cases stepped
    · cases stepped
  | interrupt me exc answers =>
    simp only [commStep] at stepped
    split at stepped
    · rename_i wait found
      cases stepped
      exact sound.interrupt exc answers found
    · cases stepped
  | aclose faults =>
    cases stepped
    refine ⟨⟨sound.lent.operations, sound.lent.addresses, sound.lent.events, fun wait held => ⟨(sound.lent.backed wait held).backed⟩,
      sound.lent.pending, sound.lent.eventsHeld, sound.lent.memoryHeld, sound.lent.clean⟩, sound.reported⟩

/-- What the protocol is for. The kernel never wrote where nothing was left for it, and
still cannot; each operation that is pending and each event that is open is owned by one call
that waits or was abandoned; and what a call returned is what the kernel reported for it. -/
structure CommSafe (state : CommState) : Prop where
  clean : state.world.stray = false
  pending : ∀ (operation : Nat) address event, state.world.operations[operation]? = some ⟨address, event, none⟩ →
    Held state.holds ⟨operation, address, event⟩
  alive : ∀ (operation : Nat) address event, state.world.operations[operation]? = some ⟨address, event, none⟩ →
    state.world.memory address ≠ none ∧ state.world.events event ≠ none
  owned : ∀ event, state.world.events event ≠ none ↔ ∃ wait, Held state.holds wait ∧ wait.event = event
  exclusive : Exclusive CommWait.operation state.holds ∧ Exclusive CommWait.event state.holds ∧
    Exclusive CommWait.address state.holds
  reported : ∀ (me : Nat) operation event, state.tasks[me]? = some (.returned operation event) →
    CommReported state.world operation event

theorem CommSound.safe (sound : CommSound state) : CommSafe state := by
  refine ⟨sound.lent.clean, sound.lent.pending, fun operation address event pending => ?_,
    fun event => ⟨sound.lent.eventsHeld event, ?_⟩,
    ⟨sound.lent.operations, sound.lent.events, sound.lent.addresses⟩, sound.reported⟩
  · obtain ⟨result, _, isOpen, mask, stored, _⟩ := (sound.lent.backed _ (sound.lent.pending operation address event pending)).backed
    exact ⟨by simp [stored], by simp [isOpen]⟩
  · intro held
    obtain ⟨wait, held, rfl⟩ := held
    obtain ⟨result, _, isOpen, _⟩ := (sound.lent.backed wait held).backed
    simp [isOpen]

/-- In every run, whatever the kernel finishes and whenever, and whichever calls are
cancelled, nothing that the kernel may still write to is given up. -/
theorem wait_modem_event_safe {labels : List CommLabel} {final : CommState}
    (ran : run commStep (.opened windows) labels = some final) : CommSafe final := by
  have sound : CommSound final := run_invariant CommSound (commSound_opened windows)
    (fun _ _ _ known stepped => commSound_step known stepped) ran
  exact sound.safe

/-- The kernel is done with a cancelled operation before the bounded wait is over. -/
def PromptlyCancelled (state : CommState) (label : CommLabel) : Prop :=
  ∀ me exc answers wait, label = .interrupt me exc answers → state.tasks[me]? = some (.waiting wait) →
    answers.waitFails = false ∧ (state.world.finishAll answers.finished).events wait.event = some true

theorem settle_beginWait_abandoned {answers : BeginAnswers} {world : CommWorld} (fresh : answers.fresh world = true) :
    (settleWait (beginWait answers world)).2.abandoned = world.abandoned := by
  rcases beginWait_cases fresh with ⟨exc, same⟩ | ⟨event, _, same⟩ | ⟨event, mask, _, same⟩
  · rw [same]
  · rw [same]
    rfl
  · rw [same, completeWait_eq]
    exact finish_abandoned

theorem abandoned_step (prompt : PromptlyCancelled state label) (nothing : state.world.abandoned = [])
    (stepped : commStep state label = some after) : after.world.abandoned = [] := by
  cases label with
  | call answers =>
    simp only [commStep] at stepped
    split at stepped
    · rename_i fresh
      cases stepped
      exact (settle_beginWait_abandoned fresh).trans nothing
    · cases stepped
  | finish operation mask =>
    simp only [commStep] at stepped
    split at stepped
    · cases stepped
      exact finish_abandoned.trans nothing
    · cases stepped
  | wake me =>
    simp only [commStep] at stepped
    split at stepped
    · split at stepped
      · cases stepped
        exact nothing
      · cases stepped
    · cases stepped
  | interrupt me exc answers =>
    simp only [commStep] at stepped
    split at stepped
    · rename_i wait found
      cases stepped
      obtain ⟨works, finished⟩ := prompt me exc answers wait rfl found
      obtain ⟨_, ⟨_, same⟩ | ⟨late, _⟩⟩ := interruptWait_spec wait exc answers state.world
      · simp only [CommState.continue, same, release_abandoned, finishAll_abandoned, nothing]
      · rcases late with fails | unfinished
        · exact absurd (works.symm.trans fails) (by simp)
        · exact absurd finished unfinished
    · cases stepped
  | aclose faults =>
    cases stepped
    exact nothing

/-- As long as the kernel finishes what is cancelled in time, nothing is abandoned, and
once no call waits any more no event handle and no buffer is left over. -/
theorem wait_modem_event_leaks_nothing {labels : List CommLabel} {final : CommState}
    (ran : run commStep (.opened windows) labels = some final)
    (prompt : ∀ taken label rest state, labels = taken ++ label :: rest → run commStep (.opened windows) taken = some state →
      PromptlyCancelled state label) :
    final.world.abandoned = [] ∧ ((∀ task ∈ final.tasks, task.wait = none) →
      (∀ event, final.world.events event = none) ∧ ∀ address, final.world.memory address = none) := by
  have both : CommSound final ∧ final.world.abandoned = [] :=
    run_invariant_along (fun state => CommSound state ∧ state.world.abandoned = []) PromptlyCancelled
      ⟨commSound_opened windows, rfl⟩ (fun _ _ _ promptly known stepped =>
        ⟨commSound_step known.1 stepped, abandoned_step promptly known.2 stepped⟩) ran prompt
  obtain ⟨sound, nothing⟩ := both
  refine ⟨nothing, fun ended => ?_⟩
  have unheld : ∀ wait, ¬Held final.holds wait := by
    intro wait held
    obtain ⟨holder, held⟩ := held
    cases holder with
    | task me =>
      obtain ⟨task, found, waits⟩ := Option.bind_eq_some_iff.mp held
      exact absurd (waits.symm.trans (ended task (List.mem_of_getElem? found))) (by simp)
    | abandoned index =>
      simp only [CommState.holds, holdsOf, nothing, List.getElem?_nil] at held
      cases held
  constructor
  · intro event
    by_contra isOpen
    obtain ⟨wait, held, _⟩ := sound.lent.eventsHeld event isOpen
    exact unheld wait held
  · intro address
    by_contra stored
    obtain ⟨wait, held, _⟩ := sound.lent.memoryHeld address stored
    exact unheld wait held

/-- An open port on asyncio. -/
def openedOnAsyncio : WindowsWorld :=
  ⟨{ path := "COM3", handle := 4, handleWrapper := some 4, isOpen := true, runtime := some .asyncio },
    { comHost .proactor {} with live := [4] }⟩

/-- Two calls wait on an open port, the kernel finishes the one and the other is cancelled
without the kernel being done with it, and is finished after the close. -/
def cancelledWait (finished : List (Nat × Nat)) : List CommLabel :=
  [.call ⟨.ok 5, 64, .pending⟩, .call ⟨.ok 6, 96, .pending⟩, .finish 0 evCts, .wake 0,
    .interrupt 1 (.raised .cancelled) ⟨finished, false⟩, .aclose {}]

theorem wait_modem_event_safe_cancelled :
    ∃ final, run commStep (.opened openedOnAsyncio) (cancelledWait [] ++ [.finish 1 0]) = some final ∧
      final.tasks[0]? = some (.returned 0 ⟨true, false, false, false, false, false⟩) ∧
      final.world.abandoned = [⟨1, 96, 6⟩] ∧ CommSafe final := by
  have outcome : ((run commStep (.opened openedOnAsyncio) (cancelledWait [] ++ [.finish 1 0])).any fun final =>
      final.tasks[0]? = some (.returned 0 ⟨true, false, false, false, false, false⟩) ∧
        final.world.abandoned = [⟨1, 96, 6⟩]) = true := by decide +kernel
  obtain ⟨final, ran, ended⟩ := (Option.any_eq_true _ _).mp outcome
  obtain ⟨returned, abandoned⟩ := of_decide_eq_true ended
  exact ⟨final, ran, returned, abandoned, wait_modem_event_safe ran⟩

theorem promptlyCancelled_of_other (other : ∀ me exc answers, label ≠ .interrupt me exc answers) :
    PromptlyCancelled state label :=
  fun me exc answers _ same _ => absurd same (other me exc answers)

theorem wait_modem_event_leaks_nothing_prompt :
    ∃ final, run commStep (.opened openedOnAsyncio) (cancelledWait [(1, 0)]) = some final ∧
      final.world.abandoned = [] ∧ ∀ event, final.world.events event = none := by
  have fine : Along commStep PromptlyCancelled (.opened openedOnAsyncio) (cancelledWait [(1, 0)]) := by
    refine ⟨promptlyCancelled_of_other (by simp), _, rfl, promptlyCancelled_of_other (by simp), _, rfl,
      promptlyCancelled_of_other (by simp), _, rfl, promptlyCancelled_of_other (by simp), _, rfl, ?_, _, rfl,
      promptlyCancelled_of_other (by simp), _, rfl, trivial⟩
    intro me exc answers wait same found
    cases same
    cases found
    exact ⟨rfl, by decide +kernel⟩
  obtain ⟨final, ran, ended⟩ : ∃ final, run commStep (.opened openedOnAsyncio) (cancelledWait [(1, 0)]) =
      some final ∧ ∀ task ∈ final.tasks, task.wait = none := by
    refine ⟨_, rfl, ?_⟩
    decide +kernel
  obtain ⟨nothing, released⟩ := wait_modem_event_leaks_nothing ran fine.admits
  exact ⟨final, ran, nothing, (released ended).1⟩

end States

end Anyserial.Windows
