import Anyserial.Kit.Effect
import Anyserial.Kit.FairLock
import Anyserial.Kit.Transition
import Anyserial.Kit.Turns

set_option autoImplicit false

/-! The parties of a system that share a fair lock. Parties are numbered as they come, and
`waits` tells which of them want the lock, and whether they took it when they asked for it. -/

namespace Anyserial.Kit

universe u v w

variable {Party : Type u} {waits : Party → Option Bool} {parties : List Party} {lock : FairLock Nat} {me : Nat}
  {party newcomer : Party}

/-- The queue of the lock is the list of those that want it, in the order in which they came. -/
structure Queued (waits : Party → Option Bool) (parties : List Party) (lock : FairLock Nat) : Prop where
  members : ∀ me, me ∈ lock.queue ↔ ∃ party, parties[me]? = some party ∧ waits party ≠ none
  owned : ∀ me party, parties[me]? = some party → waits party = some true → lock.owner = some me
  ordered : lock.queue.Pairwise (· < ·)

namespace Queued

theorem empty : Queued waits [] .free :=
  ⟨by simp [FairLock.free], by simp, List.Pairwise.nil⟩

theorem lt_length (queued : Queued waits parties lock) (member : me ∈ lock.queue) : me < parties.length := by
  obtain ⟨party, found, _⟩ := (queued.members me).mp member
  exact (List.getElem?_eq_some_iff.mp found).1

/-- Someone comes who does not want the lock. -/
theorem pass (queued : Queued waits parties lock) (aside : waits newcomer = none) : Queued waits (parties ++ [newcomer]) lock := by
  constructor
  case members =>
    intro me
    rw [queued.members me]
    constructor
    · intro waiting
      obtain ⟨party, found, wants⟩ := waiting
      exact ⟨party, getElem?_concat_iff.mpr (.inl found), wants⟩
    · intro waiting
      obtain ⟨party, found, wants⟩ := waiting
      obtain earlier | ⟨_, rfl⟩ := getElem?_concat_iff.mp found
      · exact ⟨party, earlier, wants⟩
      · exact absurd aside wants
  case owned =>
    intro me party found acquired
    obtain earlier | ⟨_, rfl⟩ := getElem?_concat_iff.mp found
    · exact queued.owned me party earlier acquired
    · cases aside.symm.trans acquired
  case ordered => exact queued.ordered

/-- Someone comes who asks for the lock, and takes it if it is free. -/
theorem ask (queued : Queued waits parties lock) (asks : waits newcomer = some (decide (lock.owner = none))) :
    Queued waits (parties ++ [newcomer]) (lock.join parties.length) := by
  have new : parties.length ∉ lock.queue := fun member => absurd (queued.lt_length member) (Nat.lt_irrefl _)
  constructor
  case members =>
    intro me
    rw [FairLock.mem_join, queued.members me]
    constructor
    · intro waiting
      obtain ⟨party, found, wants⟩ | rfl := waiting
      · exact ⟨party, getElem?_concat_iff.mpr (.inl found), wants⟩
      · exact ⟨newcomer, getElem?_concat_iff.mpr (.inr ⟨rfl, rfl⟩), by simp [asks]⟩
    · intro waiting
      obtain ⟨party, found, wants⟩ := waiting
      obtain earlier | ⟨rfl, _⟩ := getElem?_concat_iff.mp found
      · exact .inl ⟨party, earlier, wants⟩
      · exact .inr rfl
  case owned =>
    intro me party found acquired
    obtain earlier | ⟨rfl, rfl⟩ := getElem?_concat_iff.mp found
    · exact FairLock.owner_join_of_owned (queued.owned me party earlier acquired)
    · rw [asks, Option.some.injEq, decide_eq_true_iff] at acquired
      exact FairLock.owner_join_of_free acquired
  case ordered =>
    rw [FairLock.queue_join new]
    refine List.pairwise_append.mpr ⟨queued.ordered, List.pairwise_singleton _ _, fun earlier member later same => ?_⟩
    rw [List.mem_singleton] at same
    exact same ▸ queued.lt_length member

/-- Whoever was moves on without the lock, or goes on wanting it as before. -/
theorem move (queued : Queued waits parties lock) (there : parties[me]? = some party) (same : waits newcomer = waits party) :
    Queued waits (parties.set me newcomer) lock := by
  have entry : ∀ (other : Nat) (found : Party), (parties.set me newcomer)[other]? = some found →
      ∃ before, parties[other]? = some before ∧ waits found = waits before := by
    intro other found at'
    by_cases mine : me = other
    · subst mine
      rw [List.getElem?_set_self (List.getElem?_eq_some_iff.mp there).1] at at'
      obtain rfl := Option.some.inj at'
      exact ⟨party, there, same⟩
    · rw [List.getElem?_set_ne mine] at at'
      exact ⟨found, at', rfl⟩
  constructor
  case members =>
    intro other
    rw [queued.members other]
    constructor
    · intro waiting
      obtain ⟨before, found, wants⟩ := waiting
      by_cases mine : me = other
      · subst mine
        obtain rfl := Option.some.inj (there.symm.trans found)
        exact ⟨newcomer, List.getElem?_set_self (List.getElem?_eq_some_iff.mp there).1, same.symm ▸ wants⟩
      · exact ⟨before, (List.getElem?_set_ne mine).trans found, wants⟩
    · intro waiting
      obtain ⟨found, at', wants⟩ := waiting
      obtain ⟨before, there, same⟩ := entry other found at'
      exact ⟨before, there, same ▸ wants⟩
  case owned =>
    intro other found at' acquired
    obtain ⟨before, there, same⟩ := entry other found at'
    exact queued.owned other before there (same ▸ acquired)
  case ordered => exact queued.ordered

/-- A party is done with the lock, or gives up waiting for it. -/
theorem leave (queued : Queued waits parties lock) (inside : me < parties.length) (ended : waits newcomer = none) :
    Queued waits (parties.set me newcomer) (lock.leave me) := by
  constructor
  case members =>
    intro other
    rw [FairLock.mem_leave, queued.members other]
    constructor
    · intro waiting
      obtain ⟨different, party, found, wants⟩ := waiting
      exact ⟨party, (List.getElem?_set_ne (Ne.symm different)).trans found, wants⟩
    · intro waiting
      obtain ⟨party, found, wants⟩ := waiting
      by_cases mine : me = other
      · subst mine
        rw [List.getElem?_set_self inside] at found
        obtain rfl := Option.some.inj found
        exact absurd ended wants
      · exact ⟨Ne.symm mine, party, (List.getElem?_set_ne mine).symm.trans found, wants⟩
  case owned =>
    intro other party found acquired
    by_cases mine : me = other
    · subst mine
      rw [List.getElem?_set_self inside] at found
      obtain rfl := Option.some.inj found
      cases ended.symm.trans acquired
    · rw [List.getElem?_set_ne mine] at found
      exact FairLock.owner_leave_of_ne (queued.owned other party found acquired) (Ne.symm mine)
  case ordered => exact queued.ordered.sublist List.erase_sublist

/-- Those before a party in the queue are the ones that came before it. -/
theorem split (queued : Queued waits parties lock) (member : me ∈ lock.queue) :
    ∃ ahead behind, lock.queue = ahead ++ me :: behind ∧ ∀ other, other ∈ ahead ↔ other < me ∧ other ∈ lock.queue := by
  obtain ⟨ahead, behind, queue⟩ := List.append_of_mem member
  have ordered := queued.ordered
  rw [queue, List.pairwise_append, List.pairwise_cons] at ordered
  obtain ⟨_, ⟨later, _⟩, earlier⟩ := ordered
  refine ⟨ahead, behind, queue, fun other => ?_⟩
  rw [queue, List.mem_append, List.mem_cons]
  constructor
  · exact fun inside => ⟨earlier other inside me List.mem_cons_self, .inl inside⟩
  · intro before
    obtain ⟨less, inside | rfl | inside⟩ := before
    · exact inside
    · exact absurd less (Nat.lt_irrefl _)
    · exact absurd (later other inside) (Nat.lt_asymm less)

/-- The owner is the one that came first. -/
theorem owner_iff (queued : Queued waits parties lock) (member : me ∈ lock.queue) :
    lock.owner = some me ↔ ∀ other, other < me → other ∉ lock.queue := by
  obtain ⟨ahead, behind, queue, before⟩ := queued.split member
  have head : lock.owner = some me ↔ ahead = [] := by
    cases ahead with
    | nil => simp [FairLock.owner, queue]
    | cons first rest =>
      have less := (before first).mp List.mem_cons_self
      simp [FairLock.owner, queue, Nat.ne_of_lt less.1]
  rw [head]
  constructor
  · intro none other less inside
    have := (before other).mpr ⟨less, inside⟩
    simp [none] at this
  · intro none
    refine List.eq_nil_iff_forall_not_mem.mpr fun other inside => ?_
    exact none other ((before other).mp inside).1 ((before other).mp inside).2

/-- The owner is the one before whom nobody wants the lock. -/
theorem owner_iff_first (queued : Queued waits parties lock) (there : parties[me]? = some party) (wants : waits party ≠ none) :
    lock.owner = some me ↔ ∀ (other : Nat) earlier, other < me → parties[other]? = some earlier → waits earlier = none := by
  rw [queued.owner_iff ((queued.members me).mpr ⟨party, there, wants⟩)]
  constructor
  · intro none other earlier less found
    refine Classical.byContradiction fun waiting => ?_
    exact none other less ((queued.members other).mpr ⟨earlier, found, waiting⟩)
  · intro none other less inside
    obtain ⟨earlier, found, waiting⟩ := (queued.members other).mp inside
    exact waiting (none other earlier less found)

end Queued

section Tasks

variable {Frame Value Exc : Type} {configures : Frame → Option Bool}

/-- What a task wants of the lock, by the frame in which it is parked. -/
def Standing.wants (configures : Frame → Option Bool) : Standing Frame Value Exc → Option Bool
  | .parked frame => configures frame
  | .returned _ | .raised _ => none

theorem Standing.wants_of_unparked {standing : Standing Frame Value Exc} (unparked : ∀ frame, standing ≠ .parked frame) :
    standing.wants configures = none := by
  cases standing with
  | parked frame => exact absurd rfl (unparked frame)
  | returned value | raised exc => rfl

variable {σ ε α : Type} {lockOf : σ → FairLock Nat} {body : EStateM ε σ Unit} {release : σ → σ}

/-- A body between a lock and its release leaves the lock whichever way it ends. -/
theorem ends_released (releases : ∀ s, lockOf (release s) = (lockOf s).leave me)
    (kept : Keeps (SameView lockOf) body) (value : α) (s : σ) :
    Ends (do
        tryCatch body fun exc => do
          modify release
          throw exc
        modify release
        pure value) s
      (fun result t => result = value ∧ lockOf t = (lockOf s).leave me) fun _ t => lockOf t = (lockOf s).leave me := by
  have left : ∀ t, SameView lockOf s t → lockOf (release t) = (lockOf s).leave me :=
    fun t same => (releases t).trans (congrArg (FairLock.leave · me) same)
  simp only [ends_bind, ends_tryCatch, ends_modify, ends_throw, ends_pure]
  exact (kept s).mono (fun _ t same => ⟨trivial, left t same⟩) fun _ t same => left t same

end Tasks

section Served

variable {State : Type v} {Label : Type w} {step : State → Label → Option State} {holds : State → Prop}
  {partiesOf : State → List Party} {lockOf : State → FairLock Nat} {wake : Nat → Label} {done : Party → Prop}

/-- If the owner of the lock can always be woken and is done with it then, everyone who waits
is served after those that came before. -/
theorem served_of_owner_served (queued : ∀ state, holds state → Queued waits (partiesOf state) (lockOf state))
    (serves : ∀ state me, holds state → (lockOf state).owner = some me →
      ∃ next ended, step state (wake me) = some next ∧ holds next ∧ done ended ∧
        partiesOf next = (partiesOf state).set me ended ∧ lockOf next = (lockOf state).leave me)
    {state : State} (known : holds state) {ahead behind : List Nat} (queue : (lockOf state).queue = ahead ++ me :: behind) :
    ∃ final ended, run step state ((ahead ++ [me]).map wake) = some final ∧ holds final ∧
      (partiesOf final)[me]? = some ended ∧ done ended ∧ (lockOf final).queue = behind := by
  induction ahead generalizing state with
  | nil =>
    have owns : (lockOf state).owner = some me := by simp [FairLock.owner, queue]
    obtain ⟨next, ended, stepped, known', finished, parties, lock⟩ := serves state me known owns
    have inside : me < (partiesOf state).length := (queued state known).lt_length (by simp [queue])
    refine ⟨next, ended, ?_, known', ?_, finished, ?_⟩
    · simp [stepped]
    · rw [parties, List.getElem?_set_self inside]
    · simp [lock, FairLock.leave, queue]
  | cons first ahead ih =>
    have owns : (lockOf state).owner = some first := by simp [FairLock.owner, queue]
    obtain ⟨next, gone, stepped, known', _, _, lock⟩ := serves state first known owns
    obtain ⟨final, ended, ran, reached, found, finished, rest⟩ := ih known' (by simp [lock, FairLock.leave, queue])
    exact ⟨final, ended, by simpa [stepped] using ran, reached, found, finished, rest⟩

/-- Everyone who wants the lock is served once those that came before it were woken in turn. -/
theorem served_in_turn (queued : ∀ state, holds state → Queued waits (partiesOf state) (lockOf state))
    (serves : ∀ state me, holds state → (lockOf state).owner = some me →
      ∃ next ended, step state (wake me) = some next ∧ holds next ∧ done ended ∧
        partiesOf next = (partiesOf state).set me ended ∧ lockOf next = (lockOf state).leave me)
    {state : State} (known : holds state) (there : (partiesOf state)[me]? = some party) (wants : waits party ≠ none) :
    ∃ ahead : List Nat, (∀ other ∈ ahead, other < me) ∧ ∃ final ended,
      run step state ((ahead ++ [me]).map wake) = some final ∧ (partiesOf final)[me]? = some ended ∧ done ended := by
  have member : me ∈ (lockOf state).queue := ((queued state known).members me).mpr ⟨party, there, wants⟩
  obtain ⟨ahead, behind, queue, before⟩ := (queued state known).split member
  obtain ⟨final, ended, ran, _, found, finished, _⟩ := served_of_owner_served queued serves known queue
  exact ⟨ahead, fun other inside => ((before other).mp inside).1, final, ended, ran, found, finished⟩

end Served

end Anyserial.Kit
