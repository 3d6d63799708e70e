import Anyserial.Kit.Turns

set_option autoImplicit false

/-! Parties that take turns in lanes. A party is in one lane at most, a lane holds one party
at most, and only the party in a lane adds to the stream of the lane. -/

namespace Anyserial.Kit

universe u v w

variable {Party : Type u} {Lane : Type v} {α : Type w}

/-- `lane` is where a party is, `entry` what it has added to a stream so far, and `held`
the guard at the entrance. -/
structure Lanes (lane : Party → Option Lane) (entry : Lane → Party → List α) (held : Lane → Bool) (stream : Lane → List α)
    (parties : List Party) : Prop where
  held : ∀ here, held here = true ↔ ∃ (me : Nat) (party : Party), parties[me]? = some party ∧ lane party = some here
  exclusive : ∀ here (me other : Nat) (party rival : Party), parties[me]? = some party → parties[other]? = some rival →
    lane party = some here → lane rival = some here → me = other
  stream : ∀ here, stream here = (parties.map (entry here)).flatten
  last : ∀ here (me : Nat) (party : Party), parties[me]? = some party → lane party = some here →
    LastToWrite (parties.map (entry here)) me

namespace Lanes

variable {lane : Party → Option Lane} {entry : Lane → Party → List α} {held heldAfter : Lane → Bool}
  {stream streamAfter : Lane → List α} {parties : List Party} {old new : Party} {me : Nat}

theorem empty (free : ∀ here, held here = false) (silent : ∀ here, stream here = []) : Lanes lane entry held stream [] := by
  constructor
  case held =>
    intro here
    constructor
    · intro taken
      cases (free here).symm.trans taken
    · rintro ⟨me, party, found, _⟩
      cases found
  case stream => exact fun here => silent here
  case exclusive =>
    intro here me other party rival found
    cases found
  case last =>
    intro here me party found
    cases found

/-- A new party comes with empty hands, and enters a lane only if that is free. -/
theorem join (lanes : Lanes lane entry held stream parties) (silent : ∀ here, entry here new = [])
    (free : ∀ here, lane new = some here → held here = false)
    (guards : ∀ here, heldAfter here = true ↔ held here = true ∨ lane new = some here)
    (same : ∀ here, streamAfter here = stream here) : Lanes lane entry heldAfter streamAfter (parties ++ [new]) := by
  have alone : ∀ here (other : Nat) (rival : Party), parties[other]? = some rival → lane rival = some here →
      lane new ≠ some here := by
    intro here other rival found inside entered
    have taken := (lanes.held here).mpr ⟨other, rival, found, inside⟩
    cases (free here entered).symm.trans taken
  constructor
  case held =>
    intro here
    rw [guards here]
    constructor
    · rintro (taken | entered)
      · obtain ⟨me, party, found, inside⟩ := (lanes.held here).mp taken
        exact ⟨me, party, getElem?_concat_iff.mpr (.inl found), inside⟩
      · exact ⟨parties.length, new, getElem?_concat_iff.mpr (.inr ⟨rfl, rfl⟩), entered⟩
    · rintro ⟨me, party, found, inside⟩
      rcases getElem?_concat_iff.mp found with earlier | ⟨rfl, rfl⟩
      · exact .inl ((lanes.held here).mpr ⟨me, party, earlier, inside⟩)
      · exact .inr inside
  case exclusive =>
    intro here me other party rival found foundRival inside insideRival
    rcases getElem?_concat_iff.mp found with earlier | ⟨rfl, rfl⟩
    · rcases getElem?_concat_iff.mp foundRival with earlierRival | ⟨rfl, rfl⟩
      · exact lanes.exclusive here me other party rival earlier earlierRival inside insideRival
      · exact absurd insideRival (alone here me party earlier inside)
    · rcases getElem?_concat_iff.mp foundRival with earlierRival | ⟨rfl, rfl⟩
      · exact absurd inside (alone here other rival earlierRival insideRival)
      · rfl
  case stream =>
    intro here
    rw [same here, lanes.stream here]
    simp [silent here]
  case last =>
    intro here me party found inside
    rw [List.map_append, List.map_singleton, silent here]
    rcases getElem?_concat_iff.mp found with earlier | ⟨rfl, rfl⟩
    · exact (lanes.last here me party earlier inside).append_nil
    · exact lastToWrite_of_newest _ (by simp)

/-- A party goes on. It stays where it is or leaves, and adds to the stream of its lane only. -/
theorem move (lanes : Lanes lane entry held stream parties) (found : parties[me]? = some old)
    (stays : ∀ here, lane new = some here → lane old = some here) (more : Lane → List α)
    (grows : ∀ here, entry here new = entry here old ++ more here) (only : ∀ here, lane old ≠ some here → more here = [])
    (guards : ∀ here, heldAfter here = true ↔ lane new = some here ∨ held here = true ∧ lane old ≠ some here)
    (adds : ∀ here, streamAfter here = stream here ++ more here) :
    Lanes lane entry heldAfter streamAfter (parties.set me new) := by
  have inside : me < parties.length := (List.getElem?_eq_some_iff.mp found).1
  have here' : (parties.set me new)[me]? = some new := List.getElem?_set_self inside
  have there : ∀ other, other ≠ me → (parties.set me new)[other]? = parties[other]? :=
    fun other different => List.getElem?_set_ne (Ne.symm different)
  have entries : ∀ here, (parties.map (entry here))[me]? = some (entry here old) := by
    intro here
    rw [List.getElem?_map, found]
    rfl
  have mapped : ∀ here, (parties.set me new).map (entry here) =
      (parties.map (entry here)).set me (entry here old ++ more here) := by
    intro here
    rw [List.map_set, grows here]
  constructor
  case held =>
    intro here
    rw [guards here]
    constructor
    · rintro (stayed | ⟨taken, left⟩)
      · exact ⟨me, new, here', stayed⟩
      · obtain ⟨other, party, foundOther, insideOther⟩ := (lanes.held here).mp taken
        have different : other ≠ me := by
          rintro rfl
          cases found.symm.trans foundOther
          exact left insideOther
        exact ⟨other, party, (there other different).trans foundOther, insideOther⟩
    · rintro ⟨other, party, foundOther, insideOther⟩
      by_cases same : other = me
      · subst same
        cases here'.symm.trans foundOther
        exact .inl insideOther
      · rw [there other same] at foundOther
        refine .inr ⟨(lanes.held here).mpr ⟨other, party, foundOther, insideOther⟩, fun mine => same ?_⟩
        exact lanes.exclusive here other me party old foundOther found insideOther mine
  case exclusive =>
    intro here first second party rival foundFirst foundSecond insideFirst insideSecond
    by_cases firstMe : first = me
    · by_cases secondMe : second = me
      · exact firstMe.trans secondMe.symm
      · subst firstMe
        cases here'.symm.trans foundFirst
        rw [there second secondMe] at foundSecond
        exact lanes.exclusive here first second old rival found foundSecond (stays here insideFirst) insideSecond
    · rw [there first firstMe] at foundFirst
      by_cases secondMe : second = me
      · subst secondMe
        cases here'.symm.trans foundSecond
        exact lanes.exclusive here first second party old foundFirst found insideFirst (stays here insideSecond)
      · rw [there second secondMe] at foundSecond
        exact lanes.exclusive here first second party rival foundFirst foundSecond insideFirst insideSecond
  case stream =>
    intro here
    rw [adds here, lanes.stream here, mapped here]
    by_cases mine : lane old = some here
    · exact (flatten_set_of_lastToWrite (entries here) (lanes.last here me old found mine)).symm
    · obtain ⟨_, same⟩ := List.getElem?_eq_some_iff.mp (entries here)
      rw [only here mine, List.append_nil, List.append_nil, ← same, List.set_getElem_self]
  case last =>
    intro here other party foundOther insideOther
    rw [mapped here]
    by_cases same : other = me
    · subst same
      cases here'.symm.trans foundOther
      exact (lanes.last here other old found (stays here insideOther)).set_self
    · rw [there other same] at foundOther
      have elsewhere : lane old ≠ some here := fun mine =>
        same (lanes.exclusive here other me party old foundOther found insideOther mine)
      obtain ⟨_, unchanged⟩ := List.getElem?_eq_some_iff.mp (entries here)
      rw [only here elsewhere, List.append_nil, ← unchanged, List.set_getElem_self]
      exact lanes.last here other party foundOther insideOther

/-- What only the party in a lane has to show, when that party goes on. -/
theorem flatten_set (lanes : Lanes lane entry held stream parties) (found : parties[me]? = some old) {here : Lane}
    (inside : lane old = some here) {shown : Party → List α} (outside : ∀ party, lane party ≠ some here → shown party = [])
    (new : Party) : ((parties.set me new).map shown).flatten = shown new := by
  have place : me < parties.length := (List.getElem?_eq_some_iff.mp found).1
  have others : ∀ other party, other ≠ me → parties[other]? = some party → shown party = [] := by
    intro other party different foundOther
    exact outside party fun insideOther => different (lanes.exclusive here other me party old foundOther found insideOther inside)
  have before : ((parties.take me).map shown).flatten = [] := by
    rw [List.flatten_eq_nil_iff]
    intro text member
    obtain ⟨party, taken, rfl⟩ := List.mem_map.mp member
    obtain ⟨other, within, rfl⟩ := List.mem_iff_getElem.mp taken
    rw [List.length_take] at within
    have earlier : other < me := Nat.lt_of_lt_of_le within (Nat.min_le_left _ _)
    exact others other _ (Nat.ne_of_lt earlier) (by rw [List.getElem_take]; exact List.getElem?_eq_getElem _)
  have after : ((parties.drop (me + 1)).map shown).flatten = [] := by
    rw [List.flatten_eq_nil_iff]
    intro text member
    obtain ⟨party, left, rfl⟩ := List.mem_map.mp member
    obtain ⟨other, within, rfl⟩ := List.mem_iff_getElem.mp left
    refine others (me + 1 + other) _ (by omega) ?_
    rw [List.getElem_drop]
    exact List.getElem?_eq_getElem _
  rw [List.set_eq_take_append_cons_drop, if_pos place, List.map_append, List.map_cons, List.flatten_append, List.flatten_cons,
    before, after, List.nil_append, List.append_nil]

end Lanes

end Anyserial.Kit
