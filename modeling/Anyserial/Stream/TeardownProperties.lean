import Anyserial.Stream.Teardown

/-! Which schedules of `aclose()` close the backend. The history of a run fixes
the fate of every call, and the port is closed by the first call that resumes. -/
set_option autoImplicit false

namespace Anyserial.Teardown

open Kit

variable {variant : Variant} {labels taken : List Label} {label : Label} {state after final : State} {me : Nat}

def Resumed (labels : List Label) (me : Nat) : Prop :=
  ∃ close, Label.resume me close ∈ labels

private theorem callsOf_append : callsOf (labels ++ taken) = callsOf labels ++ callsOf taken := by
  simp only [callsOf, List.filterMap_append]

private theorem callsOf_call {cancelled : Bool} : callsOf (taken ++ [.call cancelled]) = callsOf taken ++ [cancelled] :=
  callsOf_append

theorem resumed_concat :
    Resumed (taken ++ [label]) me ↔ Resumed taken me ∨ ∃ close, label = .resume me close := by
  simp only [Resumed, List.mem_append, List.mem_singleton, exists_or]
  refine or_congr_right ⟨?_, ?_⟩
  · rintro ⟨close, same⟩
    exact ⟨close, same.symm⟩
  · rintro ⟨close, same⟩
    exact ⟨close, same.symm⟩

theorem cancelledAtLock_concat_call {cancelled : Bool} :
    CancelledAtLock (taken ++ [.call cancelled]) me ↔
      CancelledAtLock taken me ∨ (me = (callsOf taken).length ∧ cancelled = true) := by
  simp only [CancelledAtLock, callsOf_call, List.mem_append, List.mem_singleton, reduceCtorEq, or_false]
  rcases Nat.lt_trichotomy me (callsOf taken).length with earlier | same | later
  · simp only [List.getElem?_append_left earlier, Nat.ne_of_lt earlier, false_and, or_false]
  · subst same
    simp [or_comm]
  · have old : (callsOf taken)[me]? = none := List.getElem?_eq_none (Nat.le_of_lt later)
    have new : (callsOf taken ++ [cancelled])[me]? = none := List.getElem?_eq_none (by simp; omega)
    simp only [old, new, Nat.ne_of_gt later, false_and, or_false]

theorem cancelledAtLock_concat (notCall : ∀ cancelled, label ≠ .call cancelled) :
    CancelledAtLock (taken ++ [label]) me ↔ CancelledAtLock taken me ∨ label = .cancel me := by
  have calls : callsOf (taken ++ [label]) = callsOf taken := by
    rw [callsOf_append]
    cases label with
    | call cancelled => exact absurd rfl (notCall cancelled)
    | resume | cancel | finish => exact List.append_nil _
  simp only [CancelledAtLock, calls, List.mem_append, List.mem_singleton, or_assoc, eq_comm]

/-- Everything one step can do. -/
theorem step_cases (stepped : step variant state label = some after) :
    (∃ cancelled, label = .call cancelled ∧ after = acquire state cancelled) ∨
    (∃ me close progress, label = .resume me close ∧ state.calls[me]? = some progress ∧
      (progress = .acquired ∨ progress = .queued) ∧ after = body variant state me close) ∨
    (∃ me, label = .cancel me ∧ state.calls[me]? = some .queued ∧ after = exit state me (.raised .cancelled)) ∨
    (∃ me close, label = .finish me close ∧ state.calls[me]? = some .closing ∧
      after = exit state me (outcome close)) := by
  cases label with
  | call cancelled => exact .inl ⟨cancelled, rfl, by simpa [step] using stepped.symm⟩
  | resume me close =>
    refine .inr (.inl ⟨me, close, ?_⟩)
    simp only [step] at stepped
    split at stepped
    · exact ⟨.acquired, rfl, ‹_›, .inl rfl, by simpa using stepped.symm⟩
    · split at stepped
      · exact ⟨.queued, rfl, ‹_›, .inr rfl, by simpa using stepped.symm⟩
      · cases stepped
    · cases stepped
  | cancel me =>
    refine .inr (.inr (.inl ⟨me, rfl, ?_⟩))
    simp only [step] at stepped
    split at stepped
    · exact ⟨‹_›, by simpa using stepped.symm⟩
    · cases stepped
  | finish me close =>
    refine .inr (.inr (.inr ⟨me, close, rfl, ?_⟩))
    simp only [step] at stepped
    split at stepped
    · exact ⟨‹_›, by simpa using stepped.symm⟩
    · cases stepped

@[simp] theorem exit_closed {ended : Progress} : (exit state me ended).closed = state.closed := rfl

@[simp] theorem exit_backendCloses {ended : Progress} :
    (exit state me ended).backendCloses = state.backendCloses := rfl

@[simp] theorem exit_calls {ended : Progress} : (exit state me ended).calls = state.calls.set me ended := rfl

theorem acquire_spec (state : State) (cancelled : Bool) :
    (acquire state cancelled).closed = state.closed ∧ (acquire state cancelled).backendCloses = state.backendCloses ∧
      ∃ progress, (acquire state cancelled).calls = state.calls ++ [progress] ∧
        (cancelled = true → progress = .raised .cancelled) ∧
        (cancelled = false → progress = .acquired ∨ progress = .queued) := by
  cases cancelled with
  | true => exact ⟨rfl, rfl, .raised .cancelled, rfl, by simp, by simp⟩
  | false =>
    by_cases free : state.closeLock.owner = none
    · simp [acquire, free]
    · simp [acquire, free]

/-- The body runs the backend's close when the port is still open, and leaves the port closed. -/
theorem body_spec (variant : Variant) (state : State) (me : Nat) (close : Option PyExc) :
    (body variant state me close).closed = true ∧
      (body variant state me close).backendCloses = state.backendCloses + (if state.closed then 0 else 1) ∧
      ∃ progress, (body variant state me close).calls = state.calls.set me progress ∧
        progress ≠ .acquired ∧ progress ≠ .queued := by
  cases already : state.closed with
  | true =>
    have ended : body variant state me close = exit state me .returned := by simp [body, already]
    rw [ended]
    exact ⟨already, rfl, .returned, rfl, nofun, nofun⟩
  | false =>
    cases variant with
    | posix =>
      have settled : outcome close ≠ .acquired ∧ outcome close ≠ .queued := by cases close <;> simp [outcome]
      simp only [body, already]
      exact ⟨rfl, rfl, outcome close, rfl, settled⟩
    | asyncBackend =>
      simp only [body, already]
      exact ⟨rfl, rfl, .closing, rfl, nofun, nofun⟩

/-- A step closes the port when a call resumes, and leaves it as it is otherwise. -/
theorem closed_of_step (stepped : step variant state label = some after) :
    ((∀ me close, label ≠ .resume me close) → after.closed = state.closed) ∧
      ((∃ me close, label = .resume me close) → after.closed = true) := by
  obtain ⟨cancelled, rfl, rfl⟩ | ⟨me, close, _, rfl, _, _, rfl⟩ | ⟨me, rfl, _, rfl⟩ | ⟨me, close, rfl, _, rfl⟩ := step_cases stepped
  · exact ⟨fun _ => (acquire_spec state cancelled).1, by simp⟩
  · exact ⟨fun other => absurd rfl (other me close), fun _ => (body_spec variant state me close).1⟩
  · exact ⟨fun _ => rfl, by simp⟩
  · exact ⟨fun _ => rfl, by simp⟩

/-- What the labels taken so far say about the progress of one call. -/
def Fate (taken : List Label) (me : Nat) : Progress → Prop
  | .acquired | .queued => ¬CancelledAtLock taken me ∧ ¬Resumed taken me
  | .closing | .returned => ¬CancelledAtLock taken me ∧ Resumed taken me
  | .raised _ => (CancelledAtLock taken me ↔ ¬Resumed taken me)

structure Consistent (taken : List Label) (state : State) : Prop where
  counted : state.backendCloses = if state.closed then 1 else 0
  closed_iff : state.closed = true ↔ ∃ me, Resumed taken me
  called : (callsOf taken).length = state.calls.length
  fate : ∀ me progress, state.calls[me]? = some progress → Fate taken me progress
  uncalled : ∀ me, state.calls.length ≤ me → ¬CancelledAtLock taken me ∧ ¬Resumed taken me

private theorem Fate.congr {other : List Label} {progress : Progress} (fate : Fate taken me progress)
    (cancelled : CancelledAtLock other me ↔ CancelledAtLock taken me)
    (resumed : Resumed other me ↔ Resumed taken me) : Fate other me progress := by
  cases progress <;> simpa only [Fate, cancelled, resumed] using fate

private theorem fate_of_resumed {progress : Progress} (spared : ¬CancelledAtLock taken me) (resumed : Resumed taken me)
    (left : progress ≠ .acquired ∧ progress ≠ .queued) : Fate taken me progress := by
  cases progress with
  | acquired => exact absurd rfl left.1
  | queued => exact absurd rfl left.2
  | closing | returned => exact ⟨spared, resumed⟩
  | raised exc => exact ⟨fun cancelled => absurd cancelled spared, fun never => absurd resumed never⟩

private theorem lt_of_getElem? {progress : Progress} (found : state.calls[me]? = some progress) :
    me < state.calls.length := by
  by_contra beyond
  rw [List.getElem?_eq_none (Nat.le_of_not_lt beyond)] at found
  cases found

theorem consistent_call {cancelled : Bool} (consistent : Consistent taken state) :
    Consistent (taken ++ [.call cancelled]) (acquire state cancelled) := by
  obtain ⟨closed, closes, progress, calls, raised, waits⟩ := acquire_spec state cancelled
  have resumed : ∀ me, Resumed (taken ++ [.call cancelled]) me ↔ Resumed taken me := by
    intro me
    simp [resumed_concat]
  have same : ∀ me, me ≠ state.calls.length →
      (CancelledAtLock (taken ++ [.call cancelled]) me ↔ CancelledAtLock taken me) := by
    intro me other
    rw [cancelledAtLock_concat_call, consistent.called]
    exact or_iff_left fun new => other new.1
  have fresh := consistent.uncalled state.calls.length (Nat.le_refl _)
  refine ⟨?_, ?_, ?_, ?_, ?_⟩
  · rw [closed, closes]
    exact consistent.counted
  · simp only [closed, resumed]
    exact consistent.closed_iff
  · rw [callsOf_call, calls, List.length_append, List.length_append, consistent.called]
    rfl
  · intro me found progressFound
    rw [calls] at progressFound
    rcases Nat.lt_trichotomy me state.calls.length with earlier | last | later
    · rw [List.getElem?_append_left earlier] at progressFound
      exact (consistent.fate me found progressFound).congr (same me (Nat.ne_of_lt earlier)) (resumed me)
    · subst last
      have here : found = progress := by simpa using progressFound.symm
      subst here
      have cancelledHere : CancelledAtLock (taken ++ [.call cancelled]) state.calls.length ↔ cancelled = true := by
        rw [cancelledAtLock_concat_call, consistent.called]
        simp [fresh.1]
      cases cancelled with
      | true =>
        rw [raised rfl]
        simp [Fate, cancelledHere, resumed, fresh.2]
      | false =>
        rcases waits rfl with acquired | queued
        · simp [acquired, Fate, cancelledHere, resumed, fresh.2]
        · simp [queued, Fate, cancelledHere, resumed, fresh.2]
    · rw [List.getElem?_eq_none (by simp; omega)] at progressFound
      cases progressFound
  · intro me beyond
    rw [calls, List.length_append, List.length_singleton] at beyond
    rw [same me (by omega), resumed]
    exact consistent.uncalled me (by omega)

/-- The part that `resume`, `cancel` and `finish` share: one call that is known
moves on, and every other one keeps its progress and its fate. -/
private theorem consistent_of_moved {progress before : Progress} (consistent : Consistent taken state)
    (notCall : ∀ cancelled, label ≠ .call cancelled) (found : state.calls[me]? = some before)
    (counted : after.backendCloses = if after.closed then 1 else 0)
    (closed_iff : after.closed = true ↔ ∃ me, Resumed (taken ++ [label]) me)
    (calls : after.calls = state.calls.set me progress) (fate : Fate (taken ++ [label]) me progress)
    (aboutMe : ∀ other, label = .cancel other ∨ (∃ close, label = .resume other close) → other = me) :
    Consistent (taken ++ [label]) after := by
  have known := lt_of_getElem? found
  have cancelled : ∀ other, other ≠ me → (CancelledAtLock (taken ++ [label]) other ↔ CancelledAtLock taken other) := by
    intro other different
    rw [cancelledAtLock_concat notCall]
    exact or_iff_left fun same => different (aboutMe other (.inl same))
  have resumed : ∀ other, other ≠ me → (Resumed (taken ++ [label]) other ↔ Resumed taken other) := by
    intro other different
    rw [resumed_concat]
    exact or_iff_left fun same => different (aboutMe other (.inr same))
  refine ⟨counted, closed_iff, ?_, ?_, ?_⟩
  · have unchanged : callsOf [label] = [] := by
      cases label with
      | call flag => exact absurd rfl (notCall flag)
      | resume | cancel | finish => rfl
    rw [callsOf_append, unchanged, List.append_nil, calls, List.length_set]
    exact consistent.called
  · intro other progressOther foundOther
    rw [calls] at foundOther
    by_cases same : other = me
    · subst same
      rw [List.getElem?_set_self known] at foundOther
      cases foundOther
      exact fate
    · rw [List.getElem?_set_ne (Ne.symm same)] at foundOther
      exact (consistent.fate other progressOther foundOther).congr (cancelled other same) (resumed other same)
  · intro other beyond
    rw [calls, List.length_set] at beyond
    have different : other ≠ me := by omega
    rw [cancelled other different, resumed other different]
    exact consistent.uncalled other beyond

theorem consistent_step (consistent : Consistent taken state) (stepped : step variant state label = some after) :
    Consistent (taken ++ [label]) after := by
  rcases step_cases stepped with ⟨cancelled, rfl, rfl⟩ | ⟨me, close, before, rfl, found, waiting, rfl⟩ |
    ⟨me, rfl, found, rfl⟩ | ⟨me, close, rfl, found, rfl⟩
  · exact consistent_call consistent
  · obtain ⟨closed, closes, progress, calls, left⟩ :=
      body_spec variant state me close
    have fresh : ¬CancelledAtLock taken me := by
      rcases waiting with rfl | rfl
      · exact (consistent.fate me _ found).1
      · exact (consistent.fate me _ found).1
    have spared : ¬CancelledAtLock (taken ++ [.resume me close]) me := by
      simpa [cancelledAtLock_concat] using fresh
    have resumed : Resumed (taken ++ [.resume me close]) me := resumed_concat.mpr (.inr ⟨close, rfl⟩)
    refine consistent_of_moved consistent nofun found ?_ ?_ calls (fate_of_resumed spared resumed left) ?_
    · rw [closes, closed, consistent.counted]
      cases state.closed <;> rfl
    · simp only [closed, true_iff]
      exact ⟨me, resumed⟩
    · rintro other (same | ⟨_, same⟩) <;> simp_all
  · have spared := consistent.fate me .queued found
    have resumed : ∀ other, Resumed (taken ++ [.cancel me]) other ↔ Resumed taken other := by
      intro other
      simp [resumed_concat]
    refine consistent_of_moved consistent nofun found consistent.counted ?_ rfl ?_ ?_
    · simp only [exit_closed, resumed]
      exact consistent.closed_iff
    · simp [Fate, cancelledAtLock_concat, resumed, spared.2]
    · rintro other (same | ⟨_, same⟩) <;> simp_all
  · have fate := consistent.fate me .closing found
    have resumed : ∀ other, Resumed (taken ++ [.finish me close]) other ↔ Resumed taken other := by
      intro other
      simp [resumed_concat]
    have spared : ¬CancelledAtLock (taken ++ [.finish me close]) me := by
      simpa [cancelledAtLock_concat] using fate.1
    have left : outcome close ≠ .acquired ∧ outcome close ≠ .queued := by cases close <;> simp [outcome]
    refine consistent_of_moved consistent nofun found consistent.counted ?_ rfl
      (fate_of_resumed spared ((resumed me).mpr fate.2) left) ?_
    · simp only [exit_closed, resumed]
      exact consistent.closed_iff
    · rintro other (same | ⟨_, same⟩) <;> simp_all

theorem consistent_opened : Consistent [] opened := by
  refine ⟨rfl, ?_, rfl, ?_, ?_⟩
  · simp [opened, Resumed]
  · simp [opened]
  · simp [CancelledAtLock, Resumed, callsOf]

theorem consistent_of_run (ran : run (step variant) opened labels = some final) : Consistent labels final :=
  run_history Consistent consistent_opened (fun _ _ _ _ consistent stepped => consistent_step consistent stepped) ran

/-- The backend's close is never run twice, in any schedule. -/
theorem backendCloses_le_one (ran : run (step variant) opened labels = some final) : final.backendCloses ≤ 1 := by
  rw [(consistent_of_run ran).counted]
  split <;> omega

/-- Once every call has ended, the port is closed and the backend was closed
exactly once if and only if some call was not cancelled where it acquires the
close lock. The acquisition stands outside the shielded scope. -/
theorem closed_once_iff_some_call_acquires (ran : run (step variant) opened labels = some final)
    (settled : Settled final) :
    final.backendCloses ≤ 1 ∧
      (final.closed = true ∧ final.backendCloses = 1 ↔
        ∃ me < (callsOf labels).length, ¬CancelledAtLock labels me) := by
  have consistent := consistent_of_run ran
  refine ⟨backendCloses_le_one ran, ?_⟩
  rw [consistent.called]
  constructor
  · rintro ⟨closed, _⟩
    obtain ⟨me, resumed⟩ := consistent.closed_iff.mp closed
    have known : me < final.calls.length := by
      by_contra beyond
      exact (consistent.uncalled me (Nat.le_of_not_lt beyond)).2 resumed
    refine ⟨me, known, fun cancelled => ?_⟩
    have fate := consistent.fate me final.calls[me] (List.getElem?_eq_getElem known)
    cases progress : final.calls[me] with
    | acquired | queued | closing | returned =>
      rw [progress] at fate
      exact fate.1 cancelled
    | raised exc =>
      rw [progress] at fate
      exact fate.mp cancelled resumed
  · rintro ⟨me, known, spared⟩
    have fate := consistent.fate me final.calls[me] (List.getElem?_eq_getElem known)
    have ended := settled.2 final.calls[me] (List.getElem_mem known)
    have resumed : Resumed labels me := by
      cases progress : final.calls[me] with
      | acquired | queued | closing =>
        rw [progress] at ended
        cases ended
      | returned =>
        rw [progress] at fate
        exact fate.2
      | raised exc =>
        rw [progress] at fate
        exact not_not.mp fun never => spared (fate.mpr never)
    have closed := consistent.closed_iff.mpr ⟨me, resumed⟩
    exact ⟨closed, by rw [consistent.counted, closed]; rfl⟩

/-- Two callers: the first one closes the port, the second one is cancelled in the queue. -/
theorem closed_once_of_one_spared_call :
    ((⟨true, .free, 1, [.returned, .raised .cancelled]⟩ : State).backendCloses ≤ 1) ∧
      ((true = true ∧ 1 = 1) ↔ ∃ me < 2, ¬CancelledAtLock
        [.call false, .call false, .cancel 1, .resume 0 none] me) := by
  have ran : run (step .posix) opened [.call false, .call false, .cancel 1, .resume 0 none] =
      some ⟨true, .free, 1, [.returned, .raised .cancelled]⟩ := by decide
  exact closed_once_iff_some_call_acquires ran (by decide)

/-- One caller in a scope that is already cancelled: `aclose()` raises, and the
port and its backend stay open. -/
theorem cancelled_call_leaves_port_open :
    ¬∀ (variant : Variant) (labels : List Label) (final : State),
      run (step variant) opened labels = some final → Settled final →
        final.closed = true ∧ final.backendCloses = 1 := by
  intro closes
  have closed := closes .posix [.call true] ⟨false, .free, 0, [.raised .cancelled]⟩ (by decide) (by decide)
  exact absurd closed.1 (by decide)

end Anyserial.Teardown
