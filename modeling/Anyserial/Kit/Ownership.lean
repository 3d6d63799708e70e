import Mathlib.Data.List.Nodup
import Mathlib.Data.List.Perm.Subperm
import Mathlib.Data.List.Range
import Mathlib.Logic.Function.Basic

set_option autoImplicit false

/-! Things that are lent out: each holder has at most one, and no two holders have things
with the same key. A holder acquires a fresh one, gives it back, or hands it on. -/

namespace Anyserial.Kit

universe u v w

variable {Holder : Type u} {Item : Type v} {Key : Type w} {key : Item → Key} {holds : Holder → Option Item}
  {holder other : Holder} {item : Item}

def Held (holds : Holder → Option Item) (item : Item) : Prop := ∃ holder, holds holder = some item

def Exclusive (key : Item → Key) (holds : Holder → Option Item) : Prop :=
  ∀ holder other item rival, holds holder = some item → holds other = some rival → key item = key rival → holder = other

theorem Exclusive.congr {after : Holder → Option Item} (exclusive : Exclusive key holds)
    (fewer : ∀ holder item, after holder = some item → holds holder = some item) : Exclusive key after :=
  fun holder other item rival here there same => exclusive holder other item rival (fewer _ _ here) (fewer _ _ there) same

/-- One key more than are taken leaves a fresh one. -/
theorem exists_fresh {name : Nat → Key} (injective : Function.Injective name) (taken : List Key) :
    ∃ n ∈ List.range (taken.length + 1), name n ∉ taken := by
  refine Classical.byContradiction fun missing => ?_
  have used : (List.range (taken.length + 1)).map name ⊆ taken := by
    intro entry member
    obtain ⟨n, inside, rfl⟩ := List.mem_map.mp member
    exact Classical.byContradiction fun unused => missing ⟨n, inside, unused⟩
  have distinct : ((List.range (taken.length + 1)).map name).Nodup := List.nodup_range.map injective
  have longer := (List.subperm_of_subset distinct used).length_le
  simp only [List.length_map, List.length_range] at longer
  omega

variable [DecidableEq Holder]

theorem Exclusive.release (exclusive : Exclusive key holds) (holder : Holder) :
    Exclusive key (Function.update holds holder none) := by
  refine exclusive.congr fun other item held => ?_
  by_cases same : other = holder
  · subst same
    simp at held
  · rwa [Function.update_of_ne same] at held

theorem Exclusive.acquire (exclusive : Exclusive key holds) (holder : Holder)
    (fresh : ∀ rival, Held holds rival → key rival ≠ key item) :
    Exclusive key (Function.update holds holder (some item)) := by
  intro first second here there heldHere heldThere same
  by_cases firstMe : first = holder
  · by_cases secondMe : second = holder
    · exact firstMe.trans secondMe.symm
    · subst firstMe
      rw [Function.update_self] at heldHere
      rw [Function.update_of_ne secondMe] at heldThere
      cases heldHere
      exact absurd same.symm (fresh there ⟨second, heldThere⟩)
  · rw [Function.update_of_ne firstMe] at heldHere
    by_cases secondMe : second = holder
    · subst secondMe
      rw [Function.update_self] at heldThere
      cases heldThere
      exact absurd same (fresh here ⟨first, heldHere⟩)
    · rw [Function.update_of_ne secondMe] at heldThere
      exact exclusive first second here there heldHere heldThere same

theorem held_acquire (free : holds holder = none) (thing : Item) :
    Held (Function.update holds holder (some item)) thing ↔ thing = item ∨ Held holds thing := by
  constructor
  · intro held
    obtain ⟨other, held⟩ := held
    by_cases same : other = holder
    · subst same
      rw [Function.update_self] at held
      exact .inl (Option.some.inj held).symm
    · exact .inr ⟨other, by rwa [Function.update_of_ne same] at held⟩
  · intro held
    rcases held with rfl | ⟨other, held⟩
    · exact ⟨holder, Function.update_self ..⟩
    · have different : other ≠ holder := by
        intro same
        subst same
        simp [free] at held
      exact ⟨other, by rwa [Function.update_of_ne different]⟩

theorem held_release (exclusive : Exclusive key holds) (held : holds holder = some item) (thing : Item) :
    Held (Function.update holds holder none) thing ↔ Held holds thing ∧ key thing ≠ key item := by
  constructor
  · intro still
    obtain ⟨other, still⟩ := still
    have different : other ≠ holder := by
      intro same
      subst same
      simp at still
    rw [Function.update_of_ne different] at still
    exact ⟨⟨other, still⟩, fun same => different (exclusive other holder thing item still held same)⟩
  · intro still
    obtain ⟨⟨other, still⟩, distinct⟩ := still
    have different : other ≠ holder := by
      intro same
      subst same
      cases held.symm.trans still
      exact distinct rfl
    exact ⟨other, by rwa [Function.update_of_ne different]⟩

/-- Handing a thing on to a holder that has none changes nothing about what is held. -/
theorem held_hand (held : holds holder = some item) (free : holds other = none) (thing : Item) :
    Held (Function.update (Function.update holds holder none) other (some item)) thing ↔ Held holds thing := by
  have different : other ≠ holder := by
    intro same
    subst same
    simp [free] at held
  rw [held_acquire (by rwa [Function.update_of_ne different])]
  constructor
  · intro still
    rcases still with rfl | ⟨third, still⟩
    · exact ⟨holder, held⟩
    · by_cases same : third = holder
      · subst same
        simp at still
      · exact ⟨third, by rwa [Function.update_of_ne same] at still⟩
  · intro still
    obtain ⟨third, still⟩ := still
    by_cases same : third = holder
    · subst same
      exact .inl (Option.some.inj (still.symm.trans held))
    · exact .inr ⟨third, by rwa [Function.update_of_ne same]⟩

theorem Exclusive.hand (exclusive : Exclusive key holds) (held : holds holder = some item) (other : Holder) :
    Exclusive key (Function.update (Function.update holds holder none) other (some item)) := by
  refine (exclusive.release holder).acquire other fun rival still => ?_
  exact ((held_release exclusive held rival).mp still).2

end Anyserial.Kit
