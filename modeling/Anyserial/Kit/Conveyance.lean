import Mathlib.Data.List.Basic

set_option autoImplicit false

/-! What a first-in first-out queue conveys from the one end to the other: everything that
was put in and is not in it any more came out at the front, and what was received of it
was received in that order. -/

namespace Anyserial.Kit

universe u

variable {α : Type u} {lossless weaker : Prop} {sent queue received more got lost : List α}

/-- `received` are the entries that somebody looked at when they left the queue, which
are all of them while the queue is `lossless`. -/
def Conveys (lossless : Prop) (sent queue received : List α) : Prop :=
  ∃ gone, sent = gone ++ queue ∧ received.Sublist gone ∧ (lossless → received = gone)

theorem conveys_nil : Conveys lossless ([] : List α) [] [] := ⟨[], rfl, List.Sublist.refl [], fun _ => rfl⟩

theorem Conveys.put (conveys : Conveys lossless sent queue received) (more : List α) :
    Conveys lossless (sent ++ more) (queue ++ more) received := by
  obtain ⟨gone, split, ordered, whole⟩ := conveys
  exact ⟨gone, by rw [split, List.append_assoc], ordered, whole⟩

/-- The front of the queue is removed, and `got` is received of what is removed. -/
theorem Conveys.remove {removed : List α} (conveys : Conveys lossless sent (removed ++ queue) received)
    (ordered : got.Sublist removed) (weakens : weaker → lossless) (whole : weaker → got = removed) :
    Conveys weaker sent queue (received ++ got) := by
  obtain ⟨gone, split, earlier, all⟩ := conveys
  refine ⟨gone ++ removed, by rw [split, List.append_assoc], earlier.append ordered, fun still => ?_⟩
  rw [all (weakens still), whole still]

/-- What was received, and what is still in the queue, were sent in that order. -/
theorem Conveys.sublist (conveys : Conveys lossless sent queue received) : (received ++ queue).Sublist sent := by
  obtain ⟨gone, rfl, ordered, _⟩ := conveys
  exact ordered.append_right queue

/-- What is left of what was sent, received or still on its way, is in the order it was sent
in, and all of it while nothing was lost. -/
def Retains (lossless : Prop) (sent left : List α) : Prop := left.Sublist sent ∧ (lossless → left = sent)

theorem retains_self (sent : List α) : Retains lossless sent sent := ⟨List.Sublist.refl sent, fun _ => rfl⟩

theorem Retains.put {left : List α} (retains : Retains lossless sent left) (more : List α) :
    Retains lossless (sent ++ more) (left ++ more) :=
  ⟨retains.1.append_right more, fun kept => by rw [retains.2 kept]⟩

theorem Retains.drop {left rest : List α} (retains : Retains lossless sent left) (ordered : rest.Sublist left)
    (weakens : weaker → lossless) (whole : weaker → rest = left) : Retains weaker sent rest :=
  ⟨ordered.trans retains.1, fun kept => (whole kept).trans (retains.2 (weakens kept))⟩

theorem Retains.weaken {left : List α} (retains : Retains lossless sent left) (weakens : weaker → lossless) :
    Retains weaker sent left :=
  retains.drop (List.Sublist.refl left) weakens fun _ => rfl

end Anyserial.Kit
