import Mathlib.Logic.Function.Basic

/-! A store of parts that several holders share. A holder saves what it finds in a part
before it sets it, and puts the saved value back later, without asking who else set the
part in between. Whether a part ends as it began depends on the order alone. -/
set_option autoImplicit false

namespace Anyserial.Kit

universe u v w x

/-- Setting a part forgets how it was set before, and so does putting a value back. -/
structure Part (Setting : Type x) (Value : Type u) (Entry : Type v) where
  put : Value → Entry → Entry
  put_put : ∀ first second entry, put second (put first entry) = put second entry
  tune : Setting → Entry → Entry
  tune_tune : ∀ first second entry, tune second (tune first entry) = tune second entry

/-- A holder sets a part, or gives it back. -/
inductive Event (Holder : Type w) (Setting : Type x) where
  | takes (holder : Holder) (setting : Setting)
  | gives (holder : Holder)

namespace Event

variable {Holder : Type w} {Setting : Type x}

def holder : Event Holder Setting → Holder
  | takes holder _ => holder
  | gives holder => holder

/-- The events lead back to where they began: the last of them sets the part to what it was
at first, or it gives back what its holder took when the events before led back. -/
inductive Restores (same : Setting → Prop) : List (Event Holder Setting) → Prop where
  | start : Restores same []
  | unchanged (before : List (Event Holder Setting)) (holder : Holder) (setting : Setting) (unchanged : same setting) :
      Restores same (before ++ [.takes holder setting])
  | stretch (before middle : List (Event Holder Setting)) (holder : Holder) (setting : Setting)
      (restored : Restores same before) (apart : ∀ event ∈ middle, event.holder ≠ holder) :
      Restores same (before ++ .takes holder setting :: middle ++ [.gives holder])

/-- Every holder gives back after the holders that took while it held. -/
inductive Nested : List (Event Holder Setting) → Prop where
  | idle : Nested []
  | next (before after : List (Event Holder Setting)) (first : Nested before) (rest : Nested after) : Nested (before ++ after)
  | around (middle : List (Event Holder Setting)) (holder : Holder) (setting : Setting) (inner : Nested middle)
      (apart : ∀ event ∈ middle, event.holder ≠ holder) : Nested (.takes holder setting :: middle ++ [.gives holder])

variable {same : Setting → Prop} {before middle events : List (Event Holder Setting)} {holder : Holder} {setting : Setting}

theorem restores_takes_iff : Restores same (before ++ [.takes holder setting]) ↔ same setting := by
  constructor
  · intro restored
    generalize traced : before ++ [.takes holder setting] = events at restored
    cases restored with
    | start => simp at traced
    | unchanged before' holder' setting' unchanged =>
      have last := List.append_inj_right' traced rfl
      cases last
      exact unchanged
    | stretch before' middle' holder' setting' restored apart =>
      have last := List.append_inj_right' traced rfl
      cases last
  · exact .unchanged before holder setting

/-- The open that a close belongs to is the last event of its holder. -/
theorem before_unique {before' middle' : List (Event Holder Setting)} {setting' : Setting}
    (apart : ∀ event ∈ middle, event.holder ≠ holder) (apart' : ∀ event ∈ middle', event.holder ≠ holder)
    (traced : before ++ .takes holder setting :: middle = before' ++ .takes holder setting' :: middle') : before = before' := by
  obtain ⟨gap, longer, rest⟩ | ⟨gap, longer, rest⟩ := List.append_eq_append_iff.mp traced
  · cases gap with
    | nil => simpa using longer.symm
    | cons event gap =>
      rw [List.cons_append, List.cons_eq_cons] at rest
      exact absurd rfl (apart (.takes holder setting') (by simp [rest.2]))
  · cases gap with
    | nil => simpa using longer
    | cons event gap =>
      rw [List.cons_append, List.cons_eq_cons] at rest
      exact absurd rfl (apart' (.takes holder setting) (by simp [rest.2]))

theorem restores_gives_iff (apart : ∀ event ∈ middle, event.holder ≠ holder) :
    Restores same (before ++ .takes holder setting :: middle ++ [.gives holder]) ↔ Restores same before := by
  constructor
  · intro restored
    generalize traced : before ++ .takes holder setting :: middle ++ [.gives holder] = events at restored
    cases restored with
    | start => simp at traced
    | unchanged before' holder' setting' unchanged =>
      have last := List.append_inj_right' traced rfl
      cases last
    | stretch before' middle' holder' setting' restored apart' =>
      obtain ⟨traced, last⟩ := List.append_inj' traced rfl
      cases last
      exact before_unique apart apart' traced ▸ restored
  · exact fun restored => .stretch before middle holder setting restored apart

theorem Restores.nested (restored : Restores same before) (nested : Nested events) : Restores same (before ++ events) := by
  induction nested generalizing before with
  | idle => rwa [List.append_nil]
  | next first rest _ _ ihFirst ihRest =>
    rw [← List.append_assoc]
    exact ihRest (ihFirst restored)
  | around middle holder setting _ apart _ =>
    rw [← List.append_assoc]
    exact .stretch before middle holder setting restored apart

end Event

/-- One part: what it holds, what each holder has saved of it, and its events so far. -/
@[ext] structure Sharing (Holder : Type w) (Setting : Type x) (Value : Type u) (Entry : Type v) where
  entry : Entry
  held : Holder → Option Value
  journal : List (Event Holder Setting)

namespace Sharing

variable {Holder : Type w} {Setting : Type x} {Value : Type u} {Entry : Type v} {part : Part Setting Value Entry}
variable {first : Entry} {before after : Sharing Holder Setting Value Entry} {holder : Holder} {value : Value}

/-- What `holder` would put back is what it found: that is as at first exactly if the
events before its own had led back there. -/
structure Owed (part : Part Setting Value Entry) (first : Entry) (holder : Holder) (value : Value)
    (events : List (Event Holder Setting)) : Prop where
  tunes : ∀ setting, part.tune setting (part.put value first) = part.tune setting first
  taken : ∃ earlier setting later, events = earlier ++ .takes holder setting :: later ∧
    (∀ event ∈ later, event.holder ≠ holder) ∧
      (part.put value first = first ↔ Event.Restores (fun setting => part.tune setting first = first) earlier)

/-- Nothing but the value of the part changes, and the journal tells whether it is as at first. -/
structure Accounted (part : Part Setting Value Entry) (first : Entry) (state : Sharing Holder Setting Value Entry) : Prop where
  outside : ∀ value, part.put value state.entry = part.put value first
  tunes : ∀ setting, part.tune setting state.entry = part.tune setting first
  owed : ∀ holder value, state.held holder = some value → Owed part first holder value state.journal
  restored : state.entry = first ↔ Event.Restores (fun setting => part.tune setting first = first) state.journal

theorem accounted_start (free : ∀ holder, before.held holder = none) (unused : before.journal = [])
    (same : before.entry = first) : Accounted part first before := by
  constructor
  case outside => exact fun value => by rw [same]
  case tunes => exact fun setting => by rw [same]
  case owed => exact fun holder value holds => by simp [free] at holds
  case restored => exact ⟨fun _ => unused ▸ .start, fun _ => same⟩

theorem Owed.concat {events : List (Event Holder Setting)} {event : Event Holder Setting}
    (owed : Owed part first holder value events) (other : holder ≠ event.holder) :
    Owed part first holder value (events ++ [event]) := by
  obtain ⟨tunes, earlier, setting, later, rfl, apart, found⟩ := owed
  refine ⟨tunes, earlier, setting, later ++ [event], by simp, fun either member => ?_, found⟩
  rcases List.mem_append.mp member with old | new
  · exact apart either old
  · exact List.mem_singleton.mp new ▸ other.symm

variable [DecidableEq Holder]

/-- One holder saves the part and sets it, or puts its own value back. -/
inductive Moves (part : Part Setting Value Entry) (before after : Sharing Holder Setting Value Entry) : Prop where
  | keeps (same : after = before)
  | takes (holder : Holder) (value : Value) (setting : Setting) (entry : after.entry = part.tune setting before.entry)
      (saves : part.put value after.entry = before.entry)
      (held : after.held = Function.update before.held holder (some value))
      (journal : after.journal = before.journal ++ [.takes holder setting])
  | gives (holder : Holder) (value : Value) (holds : before.held holder = some value)
      (entry : after.entry = part.put value before.entry) (held : after.held = Function.update before.held holder none)
      (journal : after.journal = before.journal ++ [.gives holder])

theorem Moves.outside (moves : Moves part before after) (value : Value) :
    part.put value after.entry = part.put value before.entry := by
  cases moves with
  | keeps same => rw [same]
  | takes holder saved setting entry saves held journal => rw [← saves, part.put_put]
  | gives holder saved holds entry held journal => rw [entry, part.put_put]

theorem Moves.accounted (moves : Moves part before after) (accounted : Accounted part first before) :
    Accounted part first after := by
  have outside : ∀ value, part.put value after.entry = part.put value first :=
    fun value => (moves.outside value).trans (accounted.outside value)
  cases moves with
  | keeps same => exact same ▸ accounted
  | takes holder saved setting entry saves held journal =>
    have found : part.put saved first = before.entry := by rw [← outside, saves]
    refine ⟨outside, fun other => by rw [entry, part.tune_tune, accounted.tunes], fun someone value holds => ?_, ?_⟩
    · rw [held] at holds
      rw [journal]
      by_cases mine : someone = holder
      · rw [mine, Function.update_self, Option.some.injEq] at holds
        subst holds mine
        refine ⟨fun other => by rw [found, accounted.tunes], before.journal, setting, [], rfl, by simp, ?_⟩
        rw [found, accounted.restored]
      · rw [Function.update_of_ne mine] at holds
        exact (accounted.owed someone value holds).concat mine
    · rw [entry, journal, Event.restores_takes_iff, accounted.tunes]
  | gives holder saved holds entry held journal =>
    obtain ⟨tunes, earlier, setting, later, traced, apart, settled⟩ := accounted.owed holder saved holds
    refine ⟨outside, fun other => by rw [entry, accounted.outside, tunes], fun someone value holdsAfter => ?_, ?_⟩
    · rw [held] at holdsAfter
      rw [journal]
      by_cases mine : someone = holder
      · simp [mine] at holdsAfter
      · rw [Function.update_of_ne mine] at holdsAfter
        exact (accounted.owed someone value holdsAfter).concat mine
    · rw [entry, journal, accounted.outside, traced, Event.restores_gives_iff apart, settled]

end Sharing

end Anyserial.Kit
