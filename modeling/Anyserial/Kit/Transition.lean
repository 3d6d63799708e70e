import Mathlib.Data.List.Induction

set_option autoImplicit false

/-! Runs of a labelled step function. A run is a list of labels taken in order;
it has a result exactly when every label was enabled where it was taken. A run gets
somewhere when each admitted step ends the work or leaves less of it. -/

namespace Anyserial.Kit

universe u v

/-- How far a task has come: it is parked in a frame, or it has ended. -/
inductive Standing (Frame Value Exc : Type) where
  | parked (frame : Frame)
  | returned (value : Value)
  | raised (exc : Exc)
  deriving DecidableEq

variable {State : Type u} {Label : Type v} {step : State → Label → Option State}

/-- Take the labels in order. The run is refused as soon as one label is not enabled. -/
def run (step : State → Label → Option State) (initial : State) (labels : List Label) : Option State :=
  labels.foldlM step initial

@[simp] theorem run_nil (initial : State) : run step initial [] = some initial := rfl

@[simp] theorem run_cons (initial : State) (label : Label) (labels : List Label) :
    run step initial (label :: labels) = (step initial label).bind fun next => run step next labels := rfl

theorem run_append (initial : State) (first second : List Label) :
    run step initial (first ++ second) = (run step initial first).bind fun middle => run step middle second := by
  simp only [run, List.foldlM_append]
  rfl

theorem run_concat (initial : State) (labels : List Label) (label : Label) :
    run step initial (labels ++ [label]) = (run step initial labels).bind fun middle => step middle label := by
  rw [run_append]
  congr 1
  funext middle
  simp

/-- A relation between the labels taken so far and the state they lead to holds
of every run, provided that each enabled step extends it by its label. -/
theorem run_history {initial : State} (holds : List Label → State → Prop) (start : holds [] initial)
    (next : ∀ taken state label after,
      holds taken state → step state label = some after → holds (taken ++ [label]) after)
    {labels : List Label} {final : State} (ran : run step initial labels = some final) : holds labels final := by
  induction labels using List.reverseRecOn generalizing final with
  | nil =>
    cases ran
    exact start
  | append_singleton taken label ih =>
    rw [run_concat] at ran
    obtain ⟨middle, reached, stepped⟩ := Option.bind_eq_some_iff.mp ran
    exact next taken middle label final (ih reached) stepped

theorem run_invariant {initial : State} (holds : State → Prop) (start : holds initial)
    (next : ∀ state label after, holds state → step state label = some after → holds after)
    {labels : List Label} {final : State} (ran : run step initial labels = some final) : holds final :=
  run_history (fun _ state => holds state) start (fun _ state label after => next state label after) ran

/-- An invariant kept by the steps whose labels are admitted holds of every run
that takes admitted labels only. -/
theorem run_invariant_of_admitted {initial : State} (holds : State → Prop) (admitted : Label → Prop)
    (start : holds initial)
    (next : ∀ state label after, admitted label → holds state → step state label = some after → holds after)
    {labels : List Label} {final : State} (allowed : ∀ label ∈ labels, admitted label)
    (ran : run step initial labels = some final) : holds final := by
  refine run_history (fun taken state => (∀ label ∈ taken, admitted label) → holds state) (fun _ => start)
    (fun taken state label after known stepped all => ?_) ran allowed
  have previous : holds state := known fun earlier member => all earlier (List.mem_append_left _ member)
  exact next state label after (all label (by simp)) previous stepped

/-- A relation between the labels taken and the state that is extended by every label
admitted in the state where it is taken. -/
theorem run_history_along {initial : State} (holds : List Label → State → Prop) (admitted : State → Label → Prop)
    (start : holds [] initial)
    (next : ∀ taken state label after, admitted state label → holds taken state → step state label = some after →
      holds (taken ++ [label]) after)
    {labels : List Label} {final : State} (ran : run step initial labels = some final)
    (allowed : ∀ taken label rest state, labels = taken ++ label :: rest → run step initial taken = some state →
      admitted state label) : holds labels final := by
  induction labels using List.reverseRecOn generalizing final with
  | nil =>
    cases ran
    exact start
  | append_singleton taken label ih =>
    rw [run_concat] at ran
    obtain ⟨middle, reached, stepped⟩ := Option.bind_eq_some_iff.mp ran
    refine next taken middle label final (allowed taken label [] middle rfl reached) (ih reached ?_) stepped
    intro earlier other rest state split
    exact allowed earlier other (rest ++ [label]) state (by simp [split])

/-- An invariant kept by the steps whose labels are admitted in the state where they
are taken. -/
theorem run_invariant_along {initial : State} (holds : State → Prop) (admitted : State → Label → Prop)
    (start : holds initial)
    (next : ∀ state label after, admitted state label → holds state → step state label = some after → holds after)
    {labels : List Label} {final : State} (ran : run step initial labels = some final)
    (allowed : ∀ taken label rest state, labels = taken ++ label :: rest → run step initial taken = some state →
      admitted state label) : holds final :=
  run_history_along (fun _ => holds) admitted start
    (fun _ state label after fine known stepped => next state label after fine known stepped) ran allowed

/-- Every label is enabled and admitted where it is taken. -/
def Along (step : State → Label → Option State) (admitted : State → Label → Prop) : State → List Label → Prop
  | _, [] => True
  | state, label :: rest => admitted state label ∧ ∃ next, step state label = some next ∧ Along step admitted next rest

theorem Along.admits {admitted : State → Label → Prop} {initial : State} {labels : List Label}
    (along : Along step admitted initial labels) :
    ∀ taken label rest state, labels = taken ++ label :: rest → run step initial taken = some state →
      admitted state label := by
  intro taken label rest state split ran
  induction taken generalizing initial labels with
  | nil =>
    subst split
    cases ran
    exact along.1
  | cons first taken ih =>
    subst split
    obtain ⟨_, next, stepped, further⟩ := along
    rw [run_cons, stepped] at ran
    exact ih further rfl ran

section Progress

variable (step : State → Label → Option State) (busy : Nat → State → Prop)

/-- `busy n` is work that takes at most `n` more steps. Some prefix of the schedule ends it. -/
theorem run_finishes {done : State → Prop} {admitted : Label → Prop}
    (unfinished : ∀ state, ¬busy 0 state)
    (next : ∀ n state label, admitted label → busy n state →
      ∃ after, step state label = some after ∧ (done after ∨ ∃ m < n, busy m after))
    {n : Nat} {initial : State} {labels : List Label} (start : busy n initial) (enough : n ≤ labels.length)
    (allowed : ∀ label ∈ labels, admitted label) :
    ∃ k ≤ labels.length, ∃ final, run step initial (labels.take k) = some final ∧ done final := by
  induction labels generalizing n initial with
  | nil =>
    obtain rfl : n = 0 := by simpa using enough
    exact absurd start (unfinished initial)
  | cons label labels ih =>
    obtain ⟨after, stepped, ended | ⟨m, less, still⟩⟩ := next n initial label (allowed label (by simp)) start
    · refine ⟨1, by simp, after, ?_, ended⟩
      simp [stepped]
    · have shorter : m ≤ labels.length := by
        simp only [List.length_cons] at enough
        omega
      obtain ⟨k, within, final, ran, finished⟩ := ih still shorter fun other member => allowed other (by simp [member])
      refine ⟨k + 1, by simpa using within, final, ?_, finished⟩
      rw [List.take_succ_cons, run_cons, stepped]
      exact ran

/-- Each of `n` equal steps leaves one step less to be done. -/
theorem run_replicate {label : Label}
    (next : ∀ n state, busy (n + 1) state → ∃ after, step state label = some after ∧ busy n after)
    {n : Nat} {initial : State} (start : busy n initial) :
    ∃ final, run step initial (List.replicate n label) = some final ∧ busy 0 final := by
  induction n generalizing initial with
  | zero => exact ⟨initial, rfl, start⟩
  | succ n ih =>
    obtain ⟨after, stepped, still⟩ := next n initial start
    obtain ⟨final, ran, rest⟩ := ih still
    refine ⟨final, ?_, rest⟩
    rw [List.replicate_succ, run_cons, stepped]
    exact ran

end Progress

end Anyserial.Kit
