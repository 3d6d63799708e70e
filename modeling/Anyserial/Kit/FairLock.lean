import Mathlib.Data.List.Nodup

set_option autoImplicit false

/-! A fair lock with hand-off. The queue holds every party that has asked for
the lock and has not left yet, in order of arrival; its head owns the lock.
A release and an abandoned wait are the same operation: the party leaves, and
the next one in the queue, if any, is the owner. -/

namespace Anyserial.Kit

universe u

structure FairLock (Party : Type u) where
  queue : List Party
  distinct : queue.Nodup
  deriving DecidableEq

namespace FairLock

variable {Party : Type u}

def free : FairLock Party := ⟨[], List.nodup_nil⟩

def owner (lock : FairLock Party) : Option Party := lock.queue.head?

def join [DecidableEq Party] (lock : FairLock Party) (party : Party) : FairLock Party :=
  if absent : party ∉ lock.queue then
    ⟨lock.queue ++ [party], List.nodup_append.mpr ⟨lock.distinct, List.nodup_singleton party, by
      intro earlier member later same equal
      rw [List.mem_singleton] at same
      exact absent (same ▸ equal ▸ member)⟩⟩
  else lock

def leave [DecidableEq Party] (lock : FairLock Party) (party : Party) : FairLock Party :=
  ⟨lock.queue.erase party, lock.distinct.erase party⟩

section Lemmas

variable {lock : FairLock Party} {party other : Party}

@[simp] theorem queue_free : (free : FairLock Party).queue = [] := rfl

@[simp] theorem owner_free : (free : FairLock Party).owner = none := rfl

theorem owner_mem (owns : lock.owner = some party) : party ∈ lock.queue :=
  List.mem_of_mem_head? owns

theorem owner_eq_none_iff : lock.owner = none ↔ lock.queue = [] :=
  List.head?_eq_none_iff

variable [DecidableEq Party]

theorem queue_join (absent : party ∉ lock.queue) : (lock.join party).queue = lock.queue ++ [party] := by
  simp only [join, absent, not_false_eq_true, dite_true]

@[simp] theorem mem_join : other ∈ (lock.join party).queue ↔ other ∈ lock.queue ∨ other = party := by
  by_cases absent : party ∉ lock.queue
  · simp [queue_join absent]
  · simp only [join, absent, dite_false]
    constructor
    · exact Or.inl
    · rintro (member | rfl)
      · exact member
      · exact not_not.mp absent

@[simp] theorem mem_leave : other ∈ (lock.leave party).queue ↔ other ≠ party ∧ other ∈ lock.queue :=
  lock.distinct.mem_erase_iff

theorem owner_join_of_owned (owns : lock.owner = some other) : (lock.join party).owner = some other := by
  by_cases absent : party ∉ lock.queue
  · have nonempty : lock.queue ≠ [] := List.ne_nil_of_mem (owner_mem owns)
    simpa only [owner, queue_join absent, List.head?_append_of_ne_nil _ nonempty] using owns
  · simpa only [join, absent, dite_false] using owns

theorem owner_join_of_free (unowned : lock.owner = none) : (lock.join party).owner = some party := by
  have empty := owner_eq_none_iff.mp unowned
  simp [owner, queue_join, empty]

/-- A waiter that leaves does not take the lock from its owner. -/
theorem owner_leave_of_ne (owns : lock.owner = some other) (different : other ≠ party) :
    (lock.leave party).owner = some other := by
  unfold owner at owns ⊢
  cases shape : lock.queue with
  | nil => simp [shape] at owns
  | cons head rest =>
    have same : head = other := by simpa [shape] using owns
    simp [leave, shape, same, different]

end Lemmas

end FairLock

end Anyserial.Kit
