import Mathlib.Data.List.Forall2
import Mathlib.Data.List.Infix

/-! Backtracking patterns with groups. A pattern runs along a text in several ways, listed
in the order of preference, and the first of them is the match. -/
set_option autoImplicit false

namespace Anyserial.Kit

/-- `optional` and `plus` are greedy. -/
inductive Pattern where
  | empty
  | char (accepts : Char → Bool)
  | seq (first second : Pattern)
  | optional (body : Pattern)
  | plus (accepts : Char → Bool)
  | group (body : Pattern)

/-- A group that did not take part in the match is `none`. -/
structure Found where
  groups : List (Option (List Char))
  rest : List Char
  deriving DecidableEq

namespace Pattern

def groups : Pattern → Nat
  | empty | char _ | plus _ => 0
  | seq first second => first.groups + second.groups
  | optional body => body.groups
  | group body => body.groups + 1

def runs : Pattern → List Char → List Found
  | empty, text => [⟨[], text⟩]
  | char _, [] => []
  | char accepts, c :: rest => if accepts c then [⟨[], rest⟩] else []
  | seq first second, text =>
      (first.runs text).flatMap fun before =>
        (second.runs before.rest).map fun after => ⟨before.groups ++ after.groups, after.rest⟩
  | optional body, text => body.runs text ++ [⟨List.replicate body.groups none, text⟩]
  | plus accepts, text =>
      (List.range (text.takeWhile accepts).length).reverse.map fun more => ⟨[], text.drop (more + 1)⟩
  | group body, text =>
      (body.runs text).map fun inner => ⟨some (text.take (text.length - inner.rest.length)) :: inner.groups, inner.rest⟩

theorem runs_empty (text : List Char) : empty.runs text = [⟨[], text⟩] := rfl

theorem runs_char_nil (accepts : Char → Bool) : (char accepts).runs [] = [] := rfl

theorem runs_char_cons (accepts : Char → Bool) (c : Char) (rest : List Char) :
    (char accepts).runs (c :: rest) = if accepts c then [⟨[], rest⟩] else [] := rfl

theorem runs_seq (first second : Pattern) (text : List Char) : (seq first second).runs text =
    (first.runs text).flatMap fun before =>
      (second.runs before.rest).map fun after => ⟨before.groups ++ after.groups, after.rest⟩ := rfl

theorem runs_optional (body : Pattern) (text : List Char) :
    (optional body).runs text = body.runs text ++ [⟨List.replicate body.groups none, text⟩] := rfl

theorem runs_plus (accepts : Char → Bool) (text : List Char) : (plus accepts).runs text =
    (List.range (text.takeWhile accepts).length).reverse.map fun more => ⟨[], text.drop (more + 1)⟩ := rfl

theorem runs_group (body : Pattern) (text : List Char) : (group body).runs text =
    (body.runs text).map fun inner => ⟨some (text.take (text.length - inner.rest.length)) :: inner.groups, inner.rest⟩ := rfl

/-- The match at the beginning of the text. -/
def preferred (pattern : Pattern) (text : List Char) : Option Found := (pattern.runs text).head?

/-- The match at the first place that has one. -/
def search (pattern : Pattern) (text : List Char) : Option Found := text.tails.findSome? pattern.preferred

def chain (parts : List Pattern) : Pattern := parts.foldr seq empty

/-- One character of each class, in order. -/
def classes (accepted : List (Char → Bool)) : Pattern := chain (accepted.map char)

/-- There is at most one way to run. -/
def isRigid : Pattern → Bool
  | empty | char _ => true
  | seq first second => first.isRigid && second.isRigid
  | group body => body.isRigid
  | optional _ | plus _ => false

/-- There is a way to run along every text. -/
def Sure (pattern : Pattern) : Prop := ∀ text, pattern.runs text ≠ []

/-- The text is one character of each class. -/
def Fits (accepted : List (Char → Bool)) (text : List Char) : Prop :=
  List.Forall₂ (fun accepts c => accepts c = true) accepted text

section Rules

variable {pattern first second body : Pattern} {parts : List Pattern} {text rest : List Char} {found : Found}

theorem length_runs_le_one (rigid : pattern.isRigid = true) : (pattern.runs text).length ≤ 1 := by
  induction pattern generalizing text with
  | empty => exact le_rfl
  | char accepts =>
    cases text with
    | nil => exact Nat.zero_le 1
    | cons c rest =>
      rw [runs_char_cons]
      split
      · exact le_rfl
      · exact Nat.zero_le 1
  | seq first second ihFirst ihSecond =>
    obtain ⟨rigidFirst, rigidSecond⟩ := Bool.and_eq_true_iff.mp rigid
    have once : (first.runs text).length ≤ 1 := ihFirst rigidFirst
    rw [runs_seq]
    match shape : first.runs text with
    | [] => exact Nat.zero_le 1
    | [before] => simpa using ihSecond rigidSecond
    | before :: other :: more =>
      rw [shape] at once
      exact absurd once (by simp)
  | optional | plus => cases rigid
  | group body ih => simpa [runs_group] using ih rigid

theorem Sure.preferred (sure : pattern.Sure) (text : List Char) : ∃ found, pattern.preferred text = some found :=
  Option.isSome_iff_exists.mp (List.isSome_head?.mpr (sure text))

theorem sure_empty : empty.Sure := fun _ => by simp [runs_empty]

theorem sure_optional : (optional body).Sure := fun _ => by simp [runs_optional]

theorem Sure.seq (sureFirst : first.Sure) (sureSecond : second.Sure) : (seq first second).Sure := by
  intro text nothing
  rw [runs_seq, List.flatMap_eq_nil_iff] at nothing
  obtain ⟨before, some⟩ := List.exists_mem_of_ne_nil _ (sureFirst text)
  exact sureSecond before.rest (List.map_eq_nil_iff.mp (nothing before some))

/-- The match of a sequence is the match of its parts when nothing has to be taken back. -/
theorem preferred_seq (sure : first.isRigid = true ∨ second.Sure) : (seq first second).preferred text = some found ↔
    ∃ before after, first.preferred text = some before ∧ second.preferred before.rest = some after ∧
      found = ⟨before.groups ++ after.groups, after.rest⟩ := by
  have single (before : Found) : ((second.runs before.rest).map fun after =>
        (⟨before.groups ++ after.groups, after.rest⟩ : Found)).head? = some found ↔
      ∃ after, second.preferred before.rest = some after ∧ found = ⟨before.groups ++ after.groups, after.rest⟩ := by
    rw [List.head?_map, Option.map_eq_some_iff]
    simp only [preferred, eq_comm]
  rw [preferred, preferred, runs_seq]
  match shape : first.runs text with
  | [] => simp
  | [before] => simpa using single before
  | before :: other :: more =>
    rcases sure with rigid | sure
    · have once : (first.runs text).length ≤ 1 := length_runs_le_one rigid
      simp [shape] at once
    · have goesOn := sure before.rest
      rw [List.flatMap_cons, List.head?_append_of_ne_nil _ (by simpa using goesOn), single]
      simp

theorem preferred_empty : empty.preferred text = some found ↔ found = ⟨[], text⟩ := by
  rw [preferred, runs_empty, List.head?_cons, Option.some.injEq, eq_comm]

theorem preferred_group : (group body).preferred text = some found ↔ ∃ inner, body.preferred text = some inner ∧
    found = ⟨some (text.take (text.length - inner.rest.length)) :: inner.groups, inner.rest⟩ := by
  rw [preferred, runs_group, List.head?_map, Option.map_eq_some_iff]
  simp only [preferred, eq_comm]

theorem preferred_optional_of_some (matched : body.preferred text = some found) : (optional body).preferred text = some found := by
  rw [preferred, runs_optional, List.head?_append]
  exact congrArg (Option.or · _) matched

theorem preferred_optional_of_none (unmatched : body.preferred text = none) :
    (optional body).preferred text = some ⟨List.replicate body.groups none, text⟩ := by
  rw [preferred, runs_optional, List.head?_append]
  exact congrArg (Option.or · _) unmatched

/-- A greedy run takes all it can when there is something to take. -/
theorem preferred_plus {accepts : Char → Bool} {run : List Char} (taken : run ≠ []) (accepted : ∀ c ∈ run, accepts c = true)
    (stops : ∀ c ∈ rest.head?, accepts c = false) : (plus accepts).preferred (run ++ rest) = some ⟨[], rest⟩ := by
  have all : (run ++ rest).takeWhile accepts = run := by
    rw [List.takeWhile_append_of_pos accepted]
    cases rest with
    | nil => simp
    | cons c rest => simp [stops c rfl]
  obtain ⟨c, run, rfl⟩ := List.exists_cons_of_ne_nil taken
  rw [preferred, runs_plus, all, List.length_cons, List.range_succ, List.reverse_append]
  simp

theorem isRigid_chain (rigid : ∀ part ∈ parts, part.isRigid = true) : (chain parts).isRigid = true := by
  induction parts with
  | nil => rfl
  | cons part parts ih =>
    rw [chain, List.foldr_cons, isRigid, rigid part List.mem_cons_self]
    exact ih fun part member => rigid part (List.mem_cons_of_mem _ member)

theorem isRigid_classes {accepted : List (Char → Bool)} : (classes accepted).isRigid = true := by
  refine isRigid_chain fun part member => ?_
  obtain ⟨accepts, _, rfl⟩ := List.mem_map.mp member
  rfl

theorem preferred_char {accepts : Char → Bool} : (char accepts).preferred text = some found ↔
    ∃ c, accepts c = true ∧ text = c :: found.rest ∧ found.groups = [] := by
  obtain ⟨groups, left⟩ := found
  cases text with
  | nil => simp [preferred, runs_char_nil]
  | cons c rest =>
    by_cases holds : accepts c = true
    · simp only [preferred, runs_char_cons, holds, if_true, List.head?_cons, Option.some.injEq, Found.mk.injEq, List.cons.injEq]
      constructor
      · rintro ⟨rfl, rfl⟩
        exact ⟨c, holds, ⟨rfl, rfl⟩, rfl⟩
      · rintro ⟨_, _, ⟨rfl, rfl⟩, rfl⟩
        exact ⟨rfl, rfl⟩
    · constructor
      · intro matched
        simp [preferred, runs_char_cons, holds] at matched
      · rintro ⟨_, accepted, same, _⟩
        cases same
        exact absurd accepted holds

theorem preferred_classes {accepted : List (Char → Bool)} : (classes accepted).preferred text = some found ↔
    ∃ run, Fits accepted run ∧ text = run ++ found.rest ∧ found.groups = [] := by
  induction accepted generalizing text found with
  | nil =>
    rw [classes, List.map_nil, chain, List.foldr_nil, preferred_empty]
    constructor
    · rintro rfl
      exact ⟨[], .nil, rfl, rfl⟩
    · rintro ⟨_, ⟨⟩, rfl, groups⟩
      exact Found.mk.injEq .. ▸ ⟨groups, rfl⟩
  | cons accepts accepted ih =>
    rw [classes, List.map_cons, chain, List.foldr_cons, preferred_seq (.inl rfl)]
    constructor
    · rintro ⟨before, after, first, onward, rfl⟩
      obtain ⟨c, holds, rfl, groups⟩ := preferred_char.mp first
      obtain ⟨run, fits, same, none⟩ := ih.mp onward
      exact ⟨c :: run, .cons holds fits, by simp [same], by simp [groups, none]⟩
    · rintro ⟨_, fits, rfl, groups⟩
      cases fits with
      | @cons _ c _ run holds fits =>
        refine ⟨⟨[], run ++ found.rest⟩, found, preferred_char.mpr ⟨c, holds, rfl, rfl⟩, ?_, ?_⟩
        · exact ih.mpr ⟨run, fits, rfl, groups⟩
        · rw [List.nil_append]

theorem preferred_group_classes {accepted : List (Char → Bool)} : (group (classes accepted)).preferred text = some found ↔
    ∃ run, Fits accepted run ∧ text = run ++ found.rest ∧ found.groups = [some run] := by
  rw [preferred_group]
  constructor
  · rintro ⟨inner, matched, rfl⟩
    obtain ⟨run, fits, rfl, groups⟩ := preferred_classes.mp matched
    exact ⟨run, fits, rfl, by simp [groups]⟩
  · rintro ⟨run, fits, rfl, groups⟩
    refine ⟨⟨[], found.rest⟩, preferred_classes.mpr ⟨run, fits, rfl, rfl⟩, ?_⟩
    obtain ⟨_, rest⟩ := found
    cases groups
    simp

section Chains

variable {accepted : List (Char → Bool)}

theorem preferred_chain_classes : (chain (classes accepted :: parts)).preferred text = some found ↔
    ∃ run rest, Fits accepted run ∧ text = run ++ rest ∧ (chain parts).preferred rest = some found := by
  rw [chain, List.foldr_cons, preferred_seq (.inl isRigid_classes)]
  constructor
  · rintro ⟨before, after, first, onward, rfl⟩
    obtain ⟨run, fits, rfl, groups⟩ := preferred_classes.mp first
    exact ⟨run, before.rest, fits, rfl, by rw [groups]; exact onward⟩
  · rintro ⟨run, rest, fits, rfl, onward⟩
    exact ⟨⟨[], rest⟩, found, preferred_classes.mpr ⟨run, fits, rfl, rfl⟩, onward, rfl⟩

theorem preferred_chain_group : (chain (group (classes accepted) :: parts)).preferred text = some found ↔
    ∃ run rest after, Fits accepted run ∧ text = run ++ rest ∧ (chain parts).preferred rest = some after ∧
      found = ⟨some run :: after.groups, after.rest⟩ := by
  have rigid : (group (classes accepted)).isRigid = true := isRigid_classes
  rw [chain, List.foldr_cons, preferred_seq (.inl rigid)]
  constructor
  · rintro ⟨before, after, first, onward, rfl⟩
    obtain ⟨run, fits, rfl, groups⟩ := preferred_group_classes.mp first
    exact ⟨run, before.rest, after, fits, rfl, onward, by rw [groups]; rfl⟩
  · rintro ⟨run, rest, after, fits, rfl, onward, rfl⟩
    exact ⟨⟨[some run], rest⟩, after, preferred_group_classes.mpr ⟨run, fits, rfl, rfl⟩, onward, rfl⟩

theorem preferred_chain_char {accepts : Char → Bool} : (chain (char accepts :: parts)).preferred text = some found ↔
    ∃ c rest, accepts c = true ∧ text = c :: rest ∧ (chain parts).preferred rest = some found := by
  rw [chain, List.foldr_cons, preferred_seq (.inl rfl)]
  constructor
  · rintro ⟨before, after, first, onward, rfl⟩
    obtain ⟨c, accepted, rfl, groups⟩ := preferred_char.mp first
    exact ⟨c, before.rest, accepted, rfl, by rw [groups]; exact onward⟩
  · rintro ⟨c, rest, accepted, rfl, onward⟩
    exact ⟨⟨[], rest⟩, found, preferred_char.mpr ⟨c, accepted, rfl, rfl⟩, onward, rfl⟩

theorem preferred_chain_nil : (chain []).preferred text = some found ↔ found = ⟨[], text⟩ := preferred_empty

theorem sure_chain (sure : ∀ part ∈ parts, part.Sure) : (chain parts).Sure := by
  induction parts with
  | nil => exact sure_empty
  | cons part parts ih =>
    exact (sure part List.mem_cons_self).seq (ih fun part member => sure part (List.mem_cons_of_mem _ member))

theorem preferred_chain_sure (sure : (chain parts).Sure) : (chain (pattern :: parts)).preferred text = some found ↔
    ∃ before after, pattern.preferred text = some before ∧ (chain parts).preferred before.rest = some after ∧
      found = ⟨before.groups ++ after.groups, after.rest⟩ :=
  preferred_seq (.inr sure)

theorem preferred_chain_one : (chain [pattern]).preferred text = pattern.preferred text := by
  apply Option.ext
  intro found
  have sure : (chain []).Sure := sure_empty
  rw [preferred_chain_sure sure]
  constructor
  · rintro ⟨before, after, matched, ends, rfl⟩
    cases preferred_chain_nil.mp ends
    rw [matched, List.append_nil]
  · intro matched
    exact ⟨found, ⟨[], found.rest⟩, matched, preferred_chain_nil.mpr rfl, by rw [List.append_nil]⟩

end Chains

/-- The first place with a match: no text before it has one. -/
theorem search_eq_some : pattern.search text = some found ↔
    ∃ before rest, text = before ++ rest ∧ pattern.preferred rest = some found ∧
      ∀ earlier later, text = earlier ++ later → earlier.length < before.length → pattern.preferred later = none := by
  induction text with
  | nil =>
    constructor
    · intro matched
      refine ⟨[], [], rfl, by simpa [search] using matched, fun _ _ _ before => absurd before (Nat.not_lt_zero _)⟩
    · rintro ⟨before, rest, nothing, matched, _⟩
      obtain ⟨rfl, rfl⟩ := List.append_eq_nil_iff.mp nothing.symm
      simpa [search] using matched
  | cons c text ih =>
    rw [search, List.tails, List.findSome?_cons]
    cases here : pattern.preferred (c :: text) with
    | some first =>
      constructor
      · rintro ⟨⟩
        exact ⟨[], c :: text, rfl, here, fun _ _ _ before => absurd before (Nat.not_lt_zero _)⟩
      · rintro ⟨before, rest, whole, matched, nowhere⟩
        cases before with
        | nil =>
          cases whole
          exact here.symm.trans matched
        | cons d before => cases here.symm.trans (nowhere [] (c :: text) rfl (Nat.succ_pos _))
    | none =>
      constructor
      · intro matched
        obtain ⟨before, rest, rfl, matched, nowhere⟩ := ih.mp matched
        refine ⟨c :: before, rest, rfl, matched, fun earlier later whole shorter => ?_⟩
        cases earlier with
        | nil => exact (show c :: (before ++ rest) = later from whole) ▸ here
        | cons d earlier =>
          obtain ⟨_, same⟩ := List.cons.inj whole
          exact nowhere earlier later same (Nat.lt_of_succ_lt_succ shorter)
      · rintro ⟨before, rest, whole, matched, nowhere⟩
        cases before with
        | nil =>
          cases whole
          cases here.symm.trans matched
        | cons d before =>
          cases whole
          refine ih.mpr ⟨before, rest, rfl, matched, fun earlier later same shorter => ?_⟩
          exact nowhere (c :: earlier) later (congrArg (c :: ·) same) (Nat.succ_lt_succ shorter)

end Rules

end Pattern

end Anyserial.Kit
