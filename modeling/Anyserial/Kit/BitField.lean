import Mathlib.Data.Nat.Bitwise
import Mathlib.Data.List.Basic

/-! Fields of a word. A field is a mask, and writing it replaces the bits under
the mask; a list of writes acts like one write of everything it owns. -/
set_option autoImplicit false

namespace Anyserial.Kit

variable {word other mask value field : Nat} {writes : List (Nat × Nat)}

/-- The bits of `word` outside `mask`, with `value` put in. -/
def assign (word mask value : Nat) : Nat := (word ^^^ (word &&& mask)) ||| value

theorem testBit_assign (i : Nat) :
    (assign word mask value).testBit i = ((word.testBit i && !mask.testBit i) || value.testBit i) := by
  simp only [assign, Nat.testBit_or, Nat.testBit_xor, Nat.testBit_and]
  cases word.testBit i <;> cases mask.testBit i <;> rfl

theorem testBit_of_within (within : value &&& mask = value) {i : Nat} (set : value.testBit i = true) :
    mask.testBit i = true := by
  rw [← within, Nat.testBit_and] at set
  simpa using (Bool.and_eq_true_iff.mp set).2

theorem testBit_of_disjoint (disjoint : mask &&& field = 0) {i : Nat} (set : field.testBit i = true) :
    mask.testBit i = false := by
  have clear := congrArg (fun bits => bits.testBit i) disjoint
  simpa [Nat.testBit_and, set] using clear

/-- A later write has the last word on its own field and keeps the earlier one elsewhere. -/
theorem assign_assign (word mask value mask' value' : Nat) :
    assign (assign word mask value) mask' value' = assign word (mask ||| mask') (assign value mask' value') := by
  apply Nat.eq_of_testBit_eq
  intro i
  simp only [testBit_assign, Nat.testBit_or]
  cases word.testBit i <;> cases mask.testBit i <;> cases mask'.testBit i <;> simp

theorem assign_self : assign (assign word mask value) mask value = assign word mask value := by
  apply Nat.eq_of_testBit_eq
  intro i
  simp only [testBit_assign]
  cases word.testBit i <;> cases mask.testBit i <;> simp

/-- Bits that are put in count as owned. -/
theorem assign_widen : assign word mask value = assign word (mask ||| value) value := by
  apply Nat.eq_of_testBit_eq
  intro i
  simp only [testBit_assign, Nat.testBit_or]
  cases word.testBit i <;> cases mask.testBit i <;> simp

theorem or_eq_assign : word ||| value = assign word value value := by
  apply Nat.eq_of_testBit_eq
  intro i
  simp only [testBit_assign, Nat.testBit_or]
  cases word.testBit i <;> simp

theorem and_or_cancel : value &&& (mask ||| value) = value := by
  apply Nat.eq_of_testBit_eq
  intro i
  simp only [Nat.testBit_and, Nat.testBit_or]
  cases value.testBit i <;> simp

@[simp] theorem assign_or (word mask value : Nat) : assign word mask 0 ||| value = assign word mask value := by
  simp [assign]

theorem assign_zero_mask : assign word 0 0 = word := by
  simp [assign]

/-- What was written under the field reads back. -/
theorem assign_and_within (inside : field &&& mask = field) : assign word mask value &&& field = value &&& field := by
  apply Nat.eq_of_testBit_eq
  intro i
  simp only [Nat.testBit_and, testBit_assign]
  cases set : field.testBit i with
  | true => simp [testBit_of_within inside set]
  | false => simp

/-- Reading a disjoint field does not see the write. -/
theorem assign_and_disjoint (within : value &&& mask = value) (disjoint : mask &&& field = 0) :
    assign word mask value &&& field = word &&& field := by
  apply Nat.eq_of_testBit_eq
  intro i
  simp only [Nat.testBit_and, testBit_assign]
  cases inside : field.testBit i with
  | false => simp
  | true =>
    have outside := testBit_of_disjoint disjoint inside
    have unset : value.testBit i = false := by
      cases set : value.testBit i with
      | false => rfl
      | true => exact absurd (testBit_of_within within set) (by simp [outside])
    simp [outside, unset]

/-- Clearing a field forgets what was written to it. -/
theorem assign_clear (within : value &&& mask = value) : assign (assign word mask value) mask 0 = assign word mask 0 := by
  apply Nat.eq_of_testBit_eq
  intro i
  simp only [testBit_assign, Nat.zero_testBit, Bool.or_false]
  cases set : value.testBit i with
  | true => simp [testBit_of_within within set]
  | false => cases word.testBit i <;> cases mask.testBit i <;> rfl

/-- Two words that agree outside the field agree once it is written. -/
theorem assign_congr (agree : assign word mask 0 = assign other mask 0) : assign word mask value = assign other mask value := by
  apply Nat.eq_of_testBit_eq
  intro i
  have bit := congrArg (fun bits => bits.testBit i) agree
  simp only [testBit_assign, Nat.zero_testBit, Bool.or_false] at bit
  simp only [testBit_assign, bit]

/-- The writes in the order of the list. -/
def assignAll : List (Nat × Nat) → Nat → Nat
  | [], word => word
  | (mask, value) :: writes, word => assignAll writes (assign word mask value)

/-- Every bit that some write owns. -/
def owned : List (Nat × Nat) → Nat
  | [] => 0
  | (mask, _) :: writes => mask ||| owned writes

theorem assignAll_append (first second : List (Nat × Nat)) (word : Nat) :
    assignAll (first ++ second) word = assignAll second (assignAll first word) := by
  induction first generalizing word with
  | nil => rfl
  | cons write first ih => exact ih _

/-- A list of writes is one write of all they own. -/
theorem assignAll_eq_assign (writes : List (Nat × Nat)) (word : Nat) :
    assignAll writes word = assign word (owned writes) (assignAll writes 0) := by
  induction writes generalizing word with
  | nil => exact assign_zero_mask.symm
  | cons write writes ih =>
    obtain ⟨mask, value⟩ := write
    have start : assign 0 mask value = value := by simp [assign]
    calc assignAll writes (assign word mask value)
        = assign (assign word mask value) (owned writes) (assignAll writes 0) := ih _
      _ = assign word (mask ||| owned writes) (assign value (owned writes) (assignAll writes 0)) := assign_assign ..
      _ = assign word (mask ||| owned writes) (assignAll writes (assign 0 mask value)) := by rw [start, ← ih]

theorem assignAll_congr (agree : assign word (owned writes) 0 = assign other (owned writes) 0) :
    assignAll writes word = assignAll writes other := by
  rw [assignAll_eq_assign writes word, assignAll_eq_assign writes other, assign_congr agree]

/-- Every value lies under its mask. -/
def Within (writes : List (Nat × Nat)) : Prop := ∀ write ∈ writes, write.2 &&& write.1 = write.2

/-- No write owns a bit of the field. -/
def Misses (writes : List (Nat × Nat)) (field : Nat) : Prop := ∀ write ∈ writes, write.1 &&& field = 0

theorem assignAll_and_missed (within : Within writes) (misses : Misses writes field) :
    assignAll writes word &&& field = word &&& field := by
  induction writes generalizing word with
  | nil => rfl
  | cons write writes ih =>
    obtain ⟨mask, value⟩ := write
    have rest : assignAll writes (assign word mask value) &&& field = assign word mask value &&& field :=
      ih (fun write member => within write (.tail _ member)) fun write member => misses write (.tail _ member)
    exact rest.trans (assign_and_disjoint (within _ (.head _)) (misses _ (.head _)))

/-- A field reads as its last write left it. -/
theorem assignAll_and_at {index : Nat} (found : writes[index]? = some (mask, value)) (inside : field &&& mask = field)
    (within : Within writes) (misses : Misses (writes.drop (index + 1)) field) :
    assignAll writes word &&& field = value &&& field := by
  induction writes generalizing word index with
  | nil => cases found
  | cons write writes ih =>
    have later : Within writes := fun write member => within write (.tail _ member)
    cases index with
    | zero =>
      cases found
      exact (assignAll_and_missed later misses).trans (assign_and_within inside)
    | succ index => exact ih found later misses

theorem testBit_assignAll (within : Within writes) {i : Nat} (outside : (owned writes).testBit i = false) :
    (assignAll writes word).testBit i = word.testBit i := by
  induction writes generalizing word with
  | nil => rfl
  | cons write writes ih =>
    obtain ⟨mask, value⟩ := write
    simp only [owned, Nat.testBit_or, Bool.or_eq_false_iff] at outside
    have unset : value.testBit i = false := by
      cases set : value.testBit i with
      | false => rfl
      | true => exact absurd (testBit_of_within (within _ (.head _)) set) (by simp [outside.1])
    calc (assignAll writes (assign word mask value)).testBit i
        = (assign word mask value).testBit i := ih (fun write member => within write (.tail _ member)) outside.2
      _ = word.testBit i := by simp [testBit_assign, outside.1, unset]

/-- Nothing outside the owned bits is touched. -/
theorem assignAll_outside (within : Within writes) :
    assign (assignAll writes word) (owned writes) 0 = assign word (owned writes) 0 := by
  apply Nat.eq_of_testBit_eq
  intro i
  simp only [testBit_assign]
  cases outside : (owned writes).testBit i with
  | true => simp
  | false => simp [testBit_assignAll within outside]

theorem owned_append (first second : List (Nat × Nat)) : owned (first ++ second) = owned first ||| owned second := by
  induction first with
  | nil => exact (Nat.zero_or _).symm
  | cons write first ih =>
    calc write.1 ||| owned (first ++ second)
        = write.1 ||| (owned first ||| owned second) := by rw [ih]
      _ = write.1 ||| owned first ||| owned second := (Nat.or_assoc ..).symm

/-- Writing the same bits again leaves no trace of the earlier writes. -/
theorem assignAll_assignAll {others : List (Nat × Nat)} (within : Within others) (same : owned others = owned writes) :
    assignAll writes (assignAll others word) = assignAll writes word := by
  apply assignAll_congr
  rw [← same]
  exact assignAll_outside within

end Anyserial.Kit
