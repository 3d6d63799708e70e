import Mathlib.Data.List.Basic

set_option autoImplicit false

/-! Parties with an entry each, in order of arrival. When one entry changes, a count changes
by what it adds for that entry; both sides carry it, so that no count is subtracted. While
only the last party that has written anything may write on, the stream that all of them
extend in turns is the concatenation of the entries. -/

namespace Anyserial.Kit

universe u

variable {α : Type u}

section Counting

variable {entries : List α} {i : Nat} {old : α} {test : α → Bool}

theorem countP_set_add (found : entries[i]? = some old) (new : α) :
    (entries.set i new).countP test + (if test old then 1 else 0) = entries.countP test + if test new then 1 else 0 := by
  obtain ⟨inside, rfl⟩ := List.getElem?_eq_some_iff.mp found
  have least : (if test entries[i] then 1 else 0) ≤ entries.countP test := List.boole_getElem_le_countP inside
  rw [List.countP_set inside]
  omega

theorem countP_modify_add (found : entries[i]? = some old) (change : α → α) :
    (entries.modify i change).countP test + (if test old then 1 else 0) =
      entries.countP test + if test (change old) then 1 else 0 := by
  have replaced : entries.modify i change = entries.set i (change old) := by
    rw [List.modify_eq_set_getElem?, found]
    rfl
  rw [replaced]
  exact countP_set_add found (change old)

theorem count_set_add [DecidableEq α] (found : entries[i]? = some old) (new entry : α) :
    (entries.set i new).count entry + (if old = entry then 1 else 0) =
      entries.count entry + if new = entry then 1 else 0 := by
  have added : (entries.set i new).countP (· == entry) + _ = entries.countP (· == entry) + _ := countP_set_add found new
  simp only [beq_iff_eq] at added
  exact added

end Counting

/-- Every party that came after `me` has an empty entry. -/
def LastToWrite (entries : List (List α)) (me : Nat) : Prop :=
  ∀ later entry, me < later → entries[later]? = some entry → entry = []

theorem flatten_set_of_lastToWrite {entries : List (List α)} {me : Nat} {entry more : List α}
    (found : entries[me]? = some entry) (last : LastToWrite entries me) :
    (entries.set me (entry ++ more)).flatten = entries.flatten ++ more := by
  induction entries generalizing me with
  | nil => cases found
  | cons first rest ih =>
    cases me with
    | zero =>
      cases found
      have empty : rest.flatten = [] := by
        rw [List.flatten_eq_nil_iff]
        intro other member
        obtain ⟨index, inside, rfl⟩ := List.mem_iff_getElem.mp member
        exact last (index + 1) _ (Nat.succ_pos index) (by simp [inside])
      simp [empty]
    | succ me =>
      have lastRest : LastToWrite rest me := by
        intro later other after at'
        exact last (later + 1) other (Nat.succ_lt_succ after) (by simpa using at')
      have grown := ih (by simpa using found) lastRest
      simp [grown]

theorem LastToWrite.set_self {entries : List (List α)} {me : Nat} {entry : List α} (last : LastToWrite entries me) :
    LastToWrite (entries.set me entry) me := by
  intro later other after found
  rw [List.getElem?_set_ne (Nat.ne_of_lt after)] at found
  exact last later other after found

theorem LastToWrite.append_nil {entries : List (List α)} {me : Nat} (last : LastToWrite entries me) :
    LastToWrite (entries ++ [[]]) me := by
  intro later other after found
  rcases Nat.lt_or_ge later entries.length with inside | beyond
  · rw [List.getElem?_append_left inside] at found
    exact last later other after found
  · rw [List.getElem?_append_right beyond] at found
    cases position : later - entries.length with
    | zero =>
      rw [position] at found
      cases found
      rfl
    | succ n =>
      rw [position] at found
      cases found

theorem lastToWrite_of_newest (entries : List (List α)) {me : Nat} (newest : entries.length ≤ me + 1) :
    LastToWrite entries me := by
  intro later entry after found
  rw [List.getElem?_eq_none (by omega)] at found
  cases found

theorem getElem?_concat_iff {parties : List α} {new party : α} {me : Nat} :
    (parties ++ [new])[me]? = some party ↔ parties[me]? = some party ∨ me = parties.length ∧ party = new := by
  rcases Nat.lt_trichotomy me parties.length with earlier | rfl | later
  · rw [List.getElem?_append_left earlier]
    simp [Nat.ne_of_lt earlier]
  · simp [eq_comm]
  · have beyond : (parties ++ [new]).length ≤ me := by simpa using Nat.succ_le_of_lt later
    rw [List.getElem?_eq_none beyond, List.getElem?_eq_none (Nat.le_of_lt later)]
    simp [Nat.ne_of_gt later]

end Anyserial.Kit
