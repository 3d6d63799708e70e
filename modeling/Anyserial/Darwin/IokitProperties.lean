import Anyserial.Darwin.Iokit
import Mathlib.Data.List.Basic
import Mathlib.Tactic.Common

/-! The reference counts of the Darwin discovery. Whatever a client call does, it leaves
the older values alone, so that a leak or a misuse can not be made good later on. -/
set_option autoImplicit false

namespace Anyserial.Darwin

variable {before middle after world : World} {gained : Option ServiceHandle} {handle service parent cursor : ServiceHandle}
  {key : String} {hops : Nat}

theorem bind_apply {σ α β : Type} (first : StateM σ α) (next : α → StateM σ β) (s : σ) :
    (first >>= next) s = next (first s).1 (first s).2 := rfl

theorem pure_apply {σ α : Type} (value : α) (s : σ) : (pure value : StateM σ α) s = (value, s) := rfl

theorem get_apply (world : World) : (get : Client World) world = (world, world) := rfl

/-- The world has moved on, and the caller has one more reference on what was gained. -/
structure Extends (gained : Option ServiceHandle) (before after : World) : Prop where
  registry : after.registry = before.registry
  faults : after.faults = before.faults
  clock : before.clock ≤ after.clock
  owned : ∀ handle, after.owned handle = before.owned handle + if gained = some handle then 1 else 0
  misused : before.misused <+: after.misused
  objects : before.objects <+: after.objects

/-- No handle was used without a reference, and every value that was created is released. -/
structure Clean (before after : World) : Prop where
  misused : after.misused = before.misused
  released : ∀ object ∈ after.objects.drop before.objects.length, object.refs = 0

theorem Extends.refl (world : World) : Extends none world world := by
  constructor
  case registry => rfl
  case faults => rfl
  case clock => exact Nat.le_refl _
  case owned => exact fun _ => rfl
  case misused => exact List.prefix_refl _
  case objects => exact List.prefix_refl _

theorem Extends.trans (first : Extends none before middle) (second : Extends gained middle after) :
    Extends gained before after := by
  constructor
  case registry => exact second.registry.trans first.registry
  case faults => exact second.faults.trans first.faults
  case clock => exact Nat.le_trans first.clock second.clock
  case owned =>
    intro handle
    rw [second.owned, first.owned]
    rfl
  case misused => exact first.misused.trans second.misused
  case objects => exact first.objects.trans second.objects

/-- The reference that was gained first is still there. -/
theorem Extends.keep (first : Extends gained before middle) (second : Extends none middle after) :
    Extends gained before after := by
  constructor
  case registry => exact second.registry.trans first.registry
  case faults => exact second.faults.trans first.faults
  case clock => exact Nat.le_trans first.clock second.clock
  case owned =>
    intro handle
    rw [second.owned, first.owned]
    rfl
  case misused => exact first.misused.trans second.misused
  case objects => exact first.objects.trans second.objects

theorem Clean.refl (world : World) : Clean world world := by
  constructor
  case misused => rfl
  case released =>
    rw [List.drop_length]
    exact nofun

theorem clean_of_same (misused : after.misused = before.misused) (objects : after.objects = before.objects) :
    Clean before after := by
  constructor
  case misused => exact misused
  case released =>
    rw [objects, List.drop_length]
    exact nofun

/-- What is not clean stays so. -/
theorem clean_trans_iff {first second : Option ServiceHandle} (earlier : Extends first before middle)
    (later : Extends second middle after) : Clean before after ↔ Clean before middle ∧ Clean middle after := by
  obtain ⟨uses, used⟩ := earlier.misused
  obtain ⟨more, usedMore⟩ := later.misused
  obtain ⟨created, made⟩ := earlier.objects
  obtain ⟨further, madeMore⟩ := later.objects
  have whole : after.objects.drop before.objects.length = created ++ further := by
    rw [← madeMore, ← made, List.append_assoc, List.drop_left]
  have half : middle.objects.drop before.objects.length = created := by rw [← made, List.drop_left]
  have rest : after.objects.drop middle.objects.length = further := by rw [← madeMore, List.drop_left]
  constructor
  · intro clean
    have none : uses ++ more = [] := by
      have same := clean.misused
      rw [← usedMore, ← used, List.append_assoc] at same
      exact List.append_right_eq_self.mp same
    obtain ⟨rfl, rfl⟩ := List.append_eq_nil_iff.mp none
    have released := clean.released
    rw [whole] at released
    constructor
    · exact ⟨by rw [← used, List.append_nil], half ▸ fun object member => released object (List.mem_append_left _ member)⟩
    · exact ⟨by rw [← usedMore, List.append_nil], rest ▸ fun object member => released object (List.mem_append_right _ member)⟩
  · intro ⟨first, second⟩
    constructor
    case misused => exact second.misused.trans first.misused
    case released =>
      rw [whole]
      intro object member
      rcases List.mem_append.mp member with early | late
      · exact first.released object (half ▸ early)
      · exact second.released object (rest ▸ late)

/-- The call keeps the references, and it is clean. -/
def Sound {α : Type} (call : Client α) (world : World) : Prop :=
  Extends none world (call world).2 ∧ Clean world (call world).2

section Kernel

theorem sound_fault : Sound fault world := by
  refine ⟨?_, clean_of_same rfl rfl⟩
  constructor
  case registry => rfl
  case faults => rfl
  case clock => exact Nat.le_succ _
  case owned => exact fun _ => rfl
  case misused => exact List.prefix_refl _
  case objects => exact List.prefix_refl _

theorem fault_eq {failed : Bool} (answer : world.faults world.clock = failed) :
    fault world = (failed, { world with clock := world.clock + 1 }) := by
  unfold fault
  rw [answer]

theorem use_of_owned (owned : 0 < world.owned handle) : use handle world = (true, world) := if_pos owned

theorem use_of_unowned (unowned : world.owned handle = 0) :
    use handle world = (false, { world with misused := world.misused ++ [handle] }) := by
  unfold use
  rw [if_neg (by omega)]

theorem extends_retain : Extends (some handle) world (retain handle world).2 := by
  constructor
  case registry => rfl
  case faults => rfl
  case clock => exact Nat.le_refl _
  case owned =>
    intro other
    by_cases same : other = handle
    · subst same
      simp [retain]
    · simp [retain, same, Ne.symm same]
  case misused => exact List.prefix_refl _
  case objects => exact List.prefix_refl _

/-- Releasing a reference that was gained gives the counts of before. -/
theorem release_spec (lent : Extends (some handle) before world) :
    Extends none before (release handle world).2 ∧ (Clean before (release handle world).2 ↔ Clean before world) ∧
      (release handle world).2.clock = world.clock := by
  have gained := lent.owned handle
  rw [if_pos rfl] at gained
  have owned : 0 < world.owned handle := by omega
  have released : (release handle world).2 =
      { world with owned := Function.update world.owned handle (world.owned handle - 1) } := by
    simp only [release, ioObjectRelease, bind_apply, use_of_owned owned]
    rfl
  rw [released]
  refine ⟨?_, ⟨fun clean => ⟨clean.misused, clean.released⟩, fun clean => ⟨clean.misused, clean.released⟩⟩, rfl⟩
  constructor
  case registry => exact lent.registry
  case faults => exact lent.faults
  case clock => exact lent.clock
  case owned =>
    intro other
    by_cases same : other = handle
    · subst same
      simp [gained]
    · have kept := lent.owned other
      rw [if_neg fun equal => same (Option.some.inj equal).symm] at kept
      simpa [Function.update_of_ne same] using kept
  case misused => exact lent.misused
  case objects => exact lent.objects

end Kernel

theorem Sound.pure {α : Type} (value : α) : Sound (pure value) world := ⟨.refl world, .refl world⟩

theorem Sound.bind {α β : Type} {first : Client α} {next : α → Client β} (sound : Sound first world)
    (rest : Sound (next (first world).1) (first world).2) : Sound (first >>= next) world := by
  have whole : Extends none world ((first >>= next) world).2 := sound.1.trans rest.1
  exact ⟨whole, (clean_trans_iff sound.1 rest.1).mpr ⟨sound.2, rest.2⟩⟩

section Properties

/-- What comes of reading a property of a handle that is owned: nothing, or a value that
the caller has to release. -/
inductive Reads (service : ServiceHandle) (key : String) (world : World) (pointer : Nat) (after : World) : Prop where
  | absent (nothing : pointer = 0) (clean : Clean world after)
      (why : world.faults world.clock = true ∨ world.faults (world.clock + 1) = true ∨
        world.registry.property service key = none)
  | present (value : CFValue) (held : pointer = after.objects.length)
      (objects : after.objects = world.objects ++ [⟨.string key, 0⟩, ⟨value, 1⟩])
      (misused : after.misused = world.misused)
      (found : world.registry.property service key = some value)
      (answered : world.faults world.clock = false ∧ world.faults (world.clock + 1) = false)

/-- The clock after the read. -/
def readClock (world : World) (clock : Nat) : Nat := if world.faults clock then clock + 1 else clock + 2

theorem modify_at_length {α : Type} (earlier rest : List α) (entry : α) (change : α → α) :
    (earlier ++ entry :: rest).modify earlier.length change = earlier ++ change entry :: rest := by
  induction earlier with
  | nil => rfl
  | cons first earlier ih => simpa [List.modify_cons] using ih

/-- A value is found at the place where it was created. -/
theorem cfRelease_spec (world : World) (earlier rest : List CFObject) (object : CFObject)
    (objects : world.objects = earlier ++ object :: rest) :
    cfRelease (earlier.length + 1) world =
      ((), { world with objects := earlier ++ { object with refs := object.refs - 1 } :: rest }) := by
  have changed := modify_at_length earlier rest object fun object => { object with refs := object.refs - 1 }
  rw [← objects] at changed
  exact congrArg (fun objects => ((), { world with objects := objects })) changed

theorem createCFProperty_of_absent (owned : 0 < world.owned service)
    (why : world.faults world.clock = true ∨ world.registry.property service key = none) :
    ioRegistryEntryCreateCFProperty service key world = (0, { world with clock := world.clock + 1 }) := by
  have touched : use service { world with clock := world.clock + 1 } = (true, { world with clock := world.clock + 1 }) :=
    use_of_owned owned
  cases answer : world.faults world.clock with
  | true => simp only [ioRegistryEntryCreateCFProperty, bind_apply, fault_eq answer, touched, Bool.true_or, if_true, pure_apply]
  | false =>
    have missing := why.resolve_left (by rw [answer]; decide)
    simp only [ioRegistryEntryCreateCFProperty, bind_apply, fault_eq answer, touched, Bool.not_true, Bool.or_false,
      Bool.false_eq_true, if_false, get_apply, missing, pure_apply]

theorem createCFProperty_of_present {value : CFValue} (owned : 0 < world.owned service)
    (answered : world.faults world.clock = false) (found : world.registry.property service key = some value) :
    ioRegistryEntryCreateCFProperty service key world =
      (world.objects.length + 1, { world with clock := world.clock + 1, objects := world.objects ++ [⟨value, 1⟩] }) := by
  have touched : use service { world with clock := world.clock + 1 } = (true, { world with clock := world.clock + 1 }) :=
    use_of_owned owned
  simp only [ioRegistryEntryCreateCFProperty, bind_apply, fault_eq answered, touched, Bool.not_true, Bool.or_false,
    Bool.false_eq_true, if_false, get_apply, found]
  rfl

/-- A step that only creates values. -/
theorem extends_create {clock : Nat} (later : world.clock ≤ clock) (created : List CFObject) :
    Extends none world { world with clock := clock, objects := world.objects ++ created } := by
  constructor
  case registry => rfl
  case faults => rfl
  case clock => exact later
  case owned => exact fun _ => rfl
  case misused => exact List.prefix_refl _
  case objects => exact List.prefix_append _ _

theorem clean_create {clock : Nat} {created : List CFObject} (released : ∀ object ∈ created, object.refs = 0) :
    Clean world { world with clock := clock, objects := world.objects ++ created } := by
  constructor
  case misused => rfl
  case released =>
    rw [List.drop_left]
    exact released

theorem readProperty_spec (owned : 0 < world.owned service) (key : String) :
    Extends none world (readProperty service key world).2 ∧
      (readProperty service key world).2.clock = readClock world world.clock ∧
      Reads service key world (readProperty service key world).1 (readProperty service key world).2 := by
  cases early : world.faults world.clock with
  | true =>
    have read : readProperty service key world = (0, { world with clock := world.clock + 1 }) := by
      simp only [readProperty, cfStringCreateWithCString, bind_apply, fault_eq early, if_true, pure_apply]
    rw [read]
    refine ⟨sound_fault.1, by simp [readClock, early], .absent rfl sound_fault.2 (.inl early)⟩
  | false =>
    have clocked : readClock world world.clock = world.clock + 2 := by simp [readClock, early]
    let keyed : World := { world with clock := world.clock + 1, objects := world.objects ++ [⟨.string key, 1⟩] }
    have created : cfStringCreateWithCString key world = (world.objects.length + 1, keyed) := by
      simp only [cfStringCreateWithCString, bind_apply, fault_eq early, Bool.false_eq_true, if_false]
      rfl
    have continues : readProperty service key world =
        (do
          let value ← ioRegistryEntryCreateCFProperty service key
          cfRelease (world.objects.length + 1)
          return value : Client Nat) keyed := by
      simp only [readProperty, bind_apply, created, Nat.add_one_ne_zero, if_false]
    by_cases why : keyed.faults keyed.clock = true ∨ keyed.registry.property service key = none
    · have missed : ioRegistryEntryCreateCFProperty service key keyed = (0, { keyed with clock := keyed.clock + 1 }) :=
        createCFProperty_of_absent owned why
      have freed : cfRelease (world.objects.length + 1) { keyed with clock := keyed.clock + 1 } =
          ((), { world with clock := world.clock + 2, objects := world.objects ++ [⟨.string key, 0⟩] }) :=
        cfRelease_spec { keyed with clock := keyed.clock + 1 } world.objects [] ⟨.string key, 1⟩ rfl
      have read : readProperty service key world =
          (0, { world with clock := world.clock + 2, objects := world.objects ++ [⟨.string key, 0⟩] }) := by
        rw [continues, bind_apply, missed, bind_apply, freed]
        rfl
      rw [read]
      refine ⟨extends_create (by omega) _, clocked.symm, .absent rfl (clean_create ?_) (.inr why)⟩
      intro object member
      rw [List.mem_singleton.mp member]
    · obtain ⟨answered, present⟩ := not_or.mp why
      obtain ⟨value, found⟩ := Option.ne_none_iff_exists'.mp present
      have answered : keyed.faults keyed.clock = false := Bool.eq_false_iff.mpr answered
      have given : ioRegistryEntryCreateCFProperty service key keyed = (keyed.objects.length + 1,
          { keyed with clock := keyed.clock + 1, objects := keyed.objects ++ [⟨value, 1⟩] }) :=
        createCFProperty_of_present owned answered found
      have objects : keyed.objects ++ [⟨value, 1⟩] = world.objects ++ ⟨.string key, 1⟩ :: [⟨value, 1⟩] :=
        List.append_assoc ..
      have freed : cfRelease (world.objects.length + 1)
            { keyed with clock := keyed.clock + 1, objects := keyed.objects ++ [⟨value, 1⟩] } =
          ((), { world with clock := world.clock + 2, objects := world.objects ++ [⟨.string key, 0⟩, ⟨value, 1⟩] }) :=
        cfRelease_spec _ world.objects [⟨value, 1⟩] ⟨.string key, 1⟩ objects
      have read : readProperty service key world = (world.objects.length + 2,
          { world with clock := world.clock + 2, objects := world.objects ++ [⟨.string key, 0⟩, ⟨value, 1⟩] }) := by
        rw [continues, bind_apply, given, bind_apply, freed]
        simp [keyed, pure_apply]
      rw [read]
      exact ⟨extends_create (by omega) _, clocked.symm,
        .present value (by simp) rfl rfl found ⟨early, answered⟩⟩

/-- The decoders only take the time of a call. -/
def OnlyTicks {α : Type} (call : Client α) : Prop :=
  ∀ world, (call world).2 = { world with clock := world.clock + 1 }

theorem onlyTicks_cfstringToStr (pointer : Nat) : OnlyTicks (cfstringToStr pointer) := by
  intro world
  simp only [cfstringToStr, bind_apply, cfValue, fault]
  rcases (world.objects[pointer - 1]?).map CFObject.value with _ | _ | _ | _
  all_goals rfl

theorem onlyTicks_cfnumberToInt (pointer : Nat) : OnlyTicks (cfnumberToInt pointer) := by
  intro world
  simp only [cfnumberToInt, bind_apply, cfValue, fault]
  rcases (world.objects[pointer - 1]?).map CFObject.value with _ | _ | _ | _
  all_goals rfl

theorem sound_getDecoded {α : Type} {decode : Nat → Client (Option α)} (ticks : ∀ pointer, OnlyTicks (decode pointer))
    (owned : 0 < world.owned service) (key : String) : Sound (getDecoded decode service key) world := by
  obtain ⟨extended, _, reads⟩ := readProperty_spec owned key
  unfold Sound getDecoded
  rw [bind_apply]
  generalize (readProperty service key world).1 = pointer at *
  generalize (readProperty service key world).2 = middle at *
  cases reads with
  | absent nothing clean why =>
    rw [nothing, if_pos rfl]
    exact ⟨extended, clean⟩
  | present value held objects misused found answered =>
    let decoded : World := { middle with clock := middle.clock + 1 }
    have created : decoded.objects = (world.objects ++ [⟨.string key, 0⟩]) ++ ⟨value, 1⟩ :: [] := by
      simp only [decoded, objects, List.append_assoc]
      rfl
    have place : pointer = (world.objects ++ [(⟨.string key, 0⟩ : CFObject)]).length + 1 := by
      rw [held, objects]
      simp
    have freed : (cfRelease pointer decoded).2 =
        { decoded with objects := (world.objects ++ [⟨.string key, 0⟩]) ++ [⟨value, 0⟩] } := by
      rw [place, cfRelease_spec decoded _ [] ⟨value, 1⟩ created]
      rfl
    rw [if_neg (by omega), bind_apply, ticks pointer middle, bind_apply]
    change Extends none world (cfRelease pointer decoded).2 ∧ Clean world (cfRelease pointer decoded).2
    rw [freed]
    constructor
    · constructor
      case registry => exact extended.registry
      case faults => exact extended.faults
      case clock => exact Nat.le_succ_of_le extended.clock
      case owned => exact extended.owned
      case misused => exact extended.misused
      case objects =>
        rw [List.append_assoc]
        exact List.prefix_append _ _
    · constructor
      case misused => exact misused
      case released =>
        rw [List.append_assoc, List.drop_left]
        intro object member
        rcases List.mem_cons.mp member with rfl | member
        · rfl
        · rw [List.mem_singleton.mp member]

theorem sound_getString (owned : 0 < world.owned service) (key : String) : Sound (getString service key) world :=
  sound_getDecoded onlyTicks_cfstringToStr owned key

theorem sound_getInt (owned : 0 < world.owned service) (key : String) : Sound (getInt service key) world :=
  sound_getDecoded onlyTicks_cfnumberToInt owned key

end Properties

section Climb

/-- No call fails from here on. -/
def Reliable (world : World) : Prop := ∀ n, world.clock ≤ n → world.faults n = false

/-- The nearest ancestor within so many hops that exposes `idVendor`. -/
def nearest (registry : Registry) : Nat → ServiceHandle → Option ServiceHandle
  | 0, _ => none
  | hops + 1, entry =>
      match registry.parent entry with
      | none => none
      | some parent =>
          if parent = 0 then none
          else if (registry.property parent usbVendorIdKey).isSome then some parent
          else nearest registry hops parent

/-- Every handle that the walk asks for its parent is owned by somebody all along, and no
ancestor that it reaches has its `idVendor` read. -/
def Spared (world : World) : Nat → Nat → ServiceHandle → Prop
  | 0, _, _ => True
  | hops + 1, clock, cursor =>
      0 < world.owned cursor ∧
        ∀ parent, world.faults clock = false → world.registry.parent cursor = some parent → parent ≠ 0 →
          (world.faults (clock + 1) = true ∨ world.faults (clock + 2) = true ∨
            world.registry.property parent usbVendorIdKey = none) ∧
          Spared world hops (readClock world (clock + 1)) parent

theorem spared_congr (registry : after.registry = before.registry) (faults : after.faults = before.faults)
    (owned : after.owned = before.owned) (hops clock : Nat) (cursor : ServiceHandle) :
    Spared after hops clock cursor ↔ Spared before hops clock cursor := by
  induction hops generalizing clock cursor with
  | zero => rfl
  | succ hops ih => simp only [Spared, readClock, registry, faults, owned, ih]

theorem not_clean_of_misuse (misused : after.misused = before.misused ++ [handle]) : ¬Clean before after := by
  intro clean
  have same := clean.misused
  rw [misused] at same
  cases List.append_right_eq_self.mp same

/-- What comes of asking a cursor for its parent. -/
inductive Asks (cursor : ServiceHandle) (world : World) (asked : (Nat × ServiceHandle) × World) : Prop where
  | misuse (unowned : world.owned cursor = 0) (refused : asked.1.1 ≠ 0) (extended : Extends none world asked.2)
      (misused : asked.2.misused = world.misused ++ [cursor])
  | orphan (owned : 0 < world.owned cursor) (refused : asked.1.1 ≠ 0 ∨ asked.1.2 = 0) (sound : Extends none world asked.2)
      (clean : Clean world asked.2)
      (why : world.faults world.clock = true ∨ ∀ parent, world.registry.parent cursor = some parent → parent = 0)
  | parent (parent : ServiceHandle) (owned : 0 < world.owned cursor) (real : parent ≠ 0) (same : asked.1 = (0, parent))
      (lent : Extends (some parent) world asked.2) (clean : Clean world asked.2)
      (clock : asked.2.clock = world.clock + 1) (answered : world.faults world.clock = false)
      (found : world.registry.parent cursor = some parent)

theorem getParentEntry_spec (cursor : ServiceHandle) (world : World) :
    Asks cursor world (ioRegistryEntryGetParentEntry cursor world) := by
  let ticked : World := { world with clock := world.clock + 1 }
  have sound : Sound fault world := sound_fault
  by_cases owned : 0 < world.owned cursor
  · have touched : use cursor ticked = (true, ticked) := use_of_owned owned
    cases answer : world.faults world.clock with
    | true =>
      have refused : ioRegistryEntryGetParentEntry cursor world = ((1, 0), ticked) := by
        simp only [ioRegistryEntryGetParentEntry, bind_apply, fault_eq answer, ticked, touched, Bool.true_or, if_true, pure_apply]
      rw [refused]
      exact .orphan owned (.inl Nat.one_ne_zero) sound.1 sound.2 (.inl answer)
    | false =>
      have continues : ioRegistryEntryGetParentEntry cursor world =
          (match world.registry.parent cursor with
            | none => pure (1, 0)
            | some parent => do
                if parent ≠ 0 then retain parent
                return (0, parent) : Client (Nat × ServiceHandle)) ticked := by
        simp only [ioRegistryEntryGetParentEntry, bind_apply, fault_eq answer, touched, ticked, Bool.not_true, Bool.or_false,
          Bool.false_eq_true, if_false]
        rfl
      rw [continues]
      cases found : world.registry.parent cursor with
      | none => exact .orphan owned (.inl Nat.one_ne_zero) sound.1 sound.2 (.inr fun parent never => by cases found.symm.trans never)
      | some parent =>
        by_cases null : parent = 0
        · subst null
          exact .orphan owned (.inr rfl) sound.1 sound.2 (.inr fun parent same => (Option.some.inj (found.symm.trans same)).symm)
        · simp only [bind_apply, if_pos null]
          exact .parent parent owned null rfl (sound.1.trans extends_retain) (clean_of_same rfl rfl) rfl answer found
  · have unowned : world.owned cursor = 0 := by omega
    have touched : use cursor ticked = (false, { ticked with misused := ticked.misused ++ [cursor] }) := use_of_unowned unowned
    have refused : ioRegistryEntryGetParentEntry cursor world =
        ((1, 0), { ticked with misused := ticked.misused ++ [cursor] }) := by
      simp only [ioRegistryEntryGetParentEntry, bind_apply, fault_eq rfl, ticked, touched, Bool.not_false, Bool.or_true, if_true,
        pure_apply]
    rw [refused]
    refine .misuse unowned Nat.one_ne_zero ?_ rfl
    constructor
    case registry => rfl
    case faults => rfl
    case clock => exact Nat.le_succ _
    case owned => exact fun _ => rfl
    case misused => exact List.prefix_append _ _
    case objects => exact List.prefix_refl _

/-- The climb ends at a parent that is not there. -/
theorem climb_of_failed (failed : (ioRegistryEntryGetParentEntry cursor world).1.1 ≠ 0 ∨
      (ioRegistryEntryGetParentEntry cursor world).1.2 = 0) :
    climb (hops + 1) cursor world = (none, (ioRegistryEntryGetParentEntry cursor world).2) := by
  simp only [climb, bind_apply]
  rw [if_pos failed]
  rfl

/-- The climb reads the parent that it was given. -/
theorem climb_of_parent {asked : World} (given : ioRegistryEntryGetParentEntry cursor world = ((0, parent), asked))
    (real : parent ≠ 0) :
    climb (hops + 1) cursor world =
      if (readProperty parent usbVendorIdKey asked).1 ≠ 0 then (some parent, (readProperty parent usbVendorIdKey asked).2)
      else climb hops parent (release parent (readProperty parent usbVendorIdKey asked).2).2 := by
  simp only [climb, bind_apply, given]
  rw [if_neg (by simp [real]), bind_apply]
  split <;> rfl

theorem spared_of_parent (owned : 0 < world.owned cursor) (answered : world.faults world.clock = false)
    (found : world.registry.parent cursor = some parent) (real : parent ≠ 0) :
    Spared world (hops + 1) world.clock cursor ↔
      (world.faults (world.clock + 1) = true ∨ world.faults (world.clock + 2) = true ∨
        world.registry.property parent usbVendorIdKey = none) ∧
      Spared world hops (readClock world (world.clock + 1)) parent := by
  constructor
  · intro spared
    exact spared.2 parent answered found real
  · refine fun spared => ⟨owned, fun other _ foundOther _ => ?_⟩
    obtain rfl := Option.some.inj (found.symm.trans foundOther)
    exact spared

/-- The value that says that the search is over is not released. -/
theorem Reads.leaks {pointer : Nat} {read : World} (reads : Reads parent key world pointer read) (held : pointer ≠ 0) :
    ¬Clean world read := by
  cases reads with
  | absent nothing _ _ => exact absurd nothing held
  | present value _ objects _ _ _ =>
    intro clean
    have released := clean.released ⟨value, 1⟩ (by rw [objects, List.drop_left]; simp)
    exact absurd released Int.one_ne_zero

/-- One hop for each step of the induction. -/
theorem climb_spec (hops : Nat) (world : World) (cursor : ServiceHandle) :
    Extends (climb hops cursor world).1 world (climb hops cursor world).2 ∧
      (Clean world (climb hops cursor world).2 ↔ Spared world hops world.clock cursor) ∧
      (Spared world hops world.clock cursor →
        (climb hops cursor world).1 = none ∧ (Reliable world → nearest world.registry hops cursor = none)) := by
  induction hops generalizing world cursor with
  | zero => exact ⟨.refl world, ⟨fun _ => trivial, fun _ => .refl world⟩, fun _ => ⟨rfl, fun _ => rfl⟩⟩
  | succ hops ih =>
    have asks := getParentEntry_spec cursor world
    cases asks with
    | misuse unowned refused extended misused =>
      rw [climb_of_failed (.inl refused)]
      have never : ¬Spared world (hops + 1) world.clock cursor := fun spared => absurd spared.1 (by omega)
      exact ⟨extended, ⟨fun clean => absurd clean (not_clean_of_misuse misused), fun spared => absurd spared never⟩,
        fun spared => absurd spared never⟩
    | orphan owned refused extended clean why =>
      rw [climb_of_failed refused]
      refine ⟨extended, ⟨fun _ => ⟨owned, fun parent answered found real => ?_⟩, fun _ => clean⟩, fun _ => ⟨rfl, fun reliable => ?_⟩⟩
      · rcases why with failed | null
        · cases failed.symm.trans answered
        · exact absurd (null parent found) real
      · rcases why with failed | null
        · cases failed.symm.trans (reliable _ (Nat.le_refl _))
        · unfold nearest
          cases found : world.registry.parent cursor with
          | none => rfl
          | some parent => exact if_pos (null parent found)
    | parent parent owned real same lent clean clock answered found =>
      have given : ioRegistryEntryGetParentEntry cursor world =
          ((0, parent), (ioRegistryEntryGetParentEntry cursor world).2) := Prod.ext same rfl
      generalize (ioRegistryEntryGetParentEntry cursor world).2 = asked at *
      rw [climb_of_parent given real, spared_of_parent owned answered found real]
      have mine : 0 < asked.owned parent := by
        rw [lent.owned, if_pos rfl]
        omega
      obtain ⟨extended, readAt, reads⟩ := readProperty_spec mine usbVendorIdKey
      generalize (readProperty parent usbVendorIdKey asked).1 = pointer at *
      generalize (readProperty parent usbVendorIdKey asked).2 = read at *
      have whole : Extends (some parent) world read := lent.keep extended
      have readClocked : readClock asked asked.clock = readClock world (world.clock + 1) := by
        unfold readClock
        rw [lent.faults, clock]
      cases reads with
      | present value held objects misused exposed answeredToo =>
        have found : pointer ≠ 0 := by
          rw [held, objects]
          simp
        have leaks : ¬Clean world read := by
          rw [clean_trans_iff lent extended]
          intro both
          exact Reads.leaks (.present value held objects misused exposed answeredToo) found both.2
        have seen : ¬(world.faults (world.clock + 1) = true ∨ world.faults (world.clock + 2) = true ∨
            world.registry.property parent usbVendorIdKey = none) := by
          rw [lent.faults, clock] at answeredToo
          rw [lent.registry] at exposed
          rw [answeredToo.1, answeredToo.2, exposed]
          simp
        rw [if_pos found]
        exact ⟨whole, ⟨fun clean => absurd clean leaks, fun spared => absurd spared.1 seen⟩, fun spared => absurd spared.1 seen⟩
      | absent nothing unread why =>
        obtain ⟨back, dropped, clockBack⟩ := release_spec whole
        generalize (release parent read).2 = freed at *
        rw [lent.faults, lent.registry, clock] at why
        have cleanSoFar : Clean world freed := dropped.mpr ((clean_trans_iff lent extended).mpr ⟨clean, unread⟩)
        obtain ⟨extendedOn, cleanOn, noneOn⟩ := ih freed parent
        have spared : Spared freed hops freed.clock parent ↔ Spared world hops (readClock world (world.clock + 1)) parent := by
          rw [clockBack, readAt, readClocked]
          exact spared_congr back.registry back.faults (funext fun other => back.owned other) hops _ parent
        rw [if_neg (not_not.mpr nothing), clean_trans_iff back extendedOn, cleanOn, spared]
        refine ⟨back.trans extendedOn, ⟨fun both => ⟨why, both.2⟩, fun both => ⟨cleanSoFar, both.2⟩⟩, fun both => ?_⟩
        obtain ⟨nobody, missing⟩ := noneOn (spared.mpr both.2)
        refine ⟨nobody, fun reliable => ?_⟩
        have hidden : world.registry.property parent usbVendorIdKey = none := by
          rcases why with failed | failed | hidden
          · cases failed.symm.trans (reliable _ (by omega))
          · cases failed.symm.trans (reliable _ (by omega))
          · exact hidden
        have reliableOn : Reliable freed := by
          intro n later
          rw [back.faults]
          exact reliable n (Nat.le_trans back.clock later)
        have further := missing reliableOn
        rw [back.registry] at further
        simp only [nearest, found, if_neg real, hidden, Option.isSome_none, Bool.false_eq_true, if_false]
        exact further

theorem findUsbParent_spec (world : World) (service : ServiceHandle) :
    Extends (findUsbParent service world).1 world (findUsbParent service world).2 ∧
      (Clean world (findUsbParent service world).2 ↔ Spared world maxHops world.clock service) :=
  have spec := climb_spec maxHops world service
  ⟨spec.1, spec.2.1⟩

end Climb

section Loops

variable {α : Type}

/-- A call that gives back a reference that was gained before it. -/
def ReturnsLoan (handle : ServiceHandle) (call : Client α) : Prop :=
  ∀ before world, Extends (some handle) before world →
    Extends none before (call world).2 ∧ (Clean before (call world).2 ↔ Clean before world)

theorem returnsLoan_release (value : α) : ReturnsLoan handle (do release handle; return value) := by
  intro before world lent
  obtain ⟨extended, clean, _⟩ := release_spec lent
  exact ⟨extended, clean⟩

theorem owned_of_lent (lent : Extends (some handle) before world) : 0 < world.owned handle := by
  rw [lent.owned, if_pos rfl]
  omega

theorem ReturnsLoan.bind {β : Type} {first : Client β} {next : β → Client α}
    (sound : ∀ world, 0 < world.owned handle → Sound first world) (rest : ∀ value, ReturnsLoan handle (next value)) :
    ReturnsLoan handle (first >>= next) := by
  intro before world lent
  obtain ⟨extended, clean⟩ := sound world (owned_of_lent lent)
  obtain ⟨whole, same⟩ := rest (first world).1 before (first world).2 (lent.keep extended)
  refine ⟨whole, same.trans ?_⟩
  rw [clean_trans_iff lent extended]
  exact and_iff_left clean

/-- The body of a loop keeps the references, and it is clean exactly when it is spared. -/
def BodySpec (body : ServiceHandle → α → Client (Bool × α)) (spared : ServiceHandle → α → World → Prop) : Prop :=
  ∀ service result world, 0 < world.owned service →
    Extends none world (body service result world).2 ∧
      (Clean world (body service result world).2 ↔ spared service result world)

/-- Every service that the loop comes to is spared in the state where its body runs. -/
def LoopSpared (iterator : ServiceHandle) (body : ServiceHandle → α → Client (Bool × α))
    (spared : ServiceHandle → α → World → Prop) : List ServiceHandle → α → World → Prop
  | [], _, _ => True
  | next :: rest, result, world =>
      let began := ioIteratorNext iterator next world
      let ended := body began.1 result began.2
      began.1 = 0 ∨ (spared began.1 result began.2 ∧
        (ended.1.1 = true ∨ LoopSpared iterator body spared rest ended.1.2 (release began.1 ended.2).2))

theorem ioIteratorNext_spec {iterator : ServiceHandle} (owned : 0 < world.owned iterator) (next : ServiceHandle) :
    ((ioIteratorNext iterator next world).1 = 0 ∧ Sound (ioIteratorNext iterator next) world) ∨
      ((ioIteratorNext iterator next world).1 = next ∧ next ≠ 0 ∧
        Extends (some next) world (ioIteratorNext iterator next world).2 ∧
        Clean world (ioIteratorNext iterator next world).2) := by
  let ticked : World := { world with clock := world.clock + 1 }
  have touched : use iterator ticked = (true, ticked) := use_of_owned owned
  have sound : Sound fault world := sound_fault
  cases answer : world.faults world.clock with
  | true =>
    have ended : ioIteratorNext iterator next world = (0, ticked) := by
      simp only [ioIteratorNext, bind_apply, fault_eq answer, ticked, touched, Bool.true_or, if_true, pure_apply]
    refine .inl ⟨congrArg Prod.fst ended, ?_⟩
    unfold Sound
    rw [ended]
    exact sound
  | false =>
    by_cases null : next = 0
    · subst null
      have ended : ioIteratorNext iterator 0 world = (0, ticked) := by
        simp only [ioIteratorNext, bind_apply, fault_eq answer, ticked, touched, decide_true, Bool.or_true, if_true,
          pure_apply]
      refine .inl ⟨congrArg Prod.fst ended, ?_⟩
      unfold Sound
      rw [ended]
      exact sound
    · have given : ioIteratorNext iterator next world = (next, (retain next ticked).2) := by
        simp only [ioIteratorNext, bind_apply, fault_eq answer, ticked, touched, null]
        rfl
      rw [given]
      exact .inr ⟨rfl, null, sound.1.trans extends_retain, clean_of_same rfl rfl⟩

theorem forServices_spec {body : ServiceHandle → α → Client (Bool × α)} {spared : ServiceHandle → α → World → Prop}
    (bodySpec : BodySpec body spared) {iterator : ServiceHandle} (services : List ServiceHandle) (result : α) (world : World)
    (owned : 0 < world.owned iterator) :
    Extends none world (forServices iterator body services result world).2 ∧
      (Clean world (forServices iterator body services result world).2 ↔
        LoopSpared iterator body spared services result world) := by
  induction services generalizing result world with
  | nil =>
    simp only [forServices, bind_apply, pure_apply]
    rcases ioIteratorNext_spec owned 0 with ⟨_, sound⟩ | ⟨_, never, _⟩
    · exact ⟨sound.1, ⟨fun _ => trivial, fun _ => sound.2⟩⟩
    · exact absurd rfl never
  | cons next rest ih =>
    simp only [forServices, bind_apply, LoopSpared]
    rcases ioIteratorNext_spec owned next with ⟨ended, sound⟩ | ⟨given, real, lent, clean⟩
    · rw [if_pos ended]
      exact ⟨sound.1, ⟨fun _ => .inl ended, fun _ => sound.2⟩⟩
    · rw [given, if_neg real, bind_apply]
      generalize (ioIteratorNext iterator next world).2 = began at *
      obtain ⟨extended, cleanBody⟩ := bodySpec next result began (owned_of_lent lent)
      generalize ended : body next result began = ran at *
      obtain ⟨⟨returns, further⟩, after⟩ := ran
      obtain ⟨back, same, _⟩ := release_spec (lent.keep extended)
      have cleanTurn : Clean world (release next after).2 ↔ spared next result began := by
        rw [same, clean_trans_iff lent extended, cleanBody]
        exact and_iff_right clean
      rw [bind_apply]
      cases returns with
      | true =>
        refine ⟨back, cleanTurn.trans ⟨fun spared => .inr ⟨spared, .inl rfl⟩, fun spared => ?_⟩⟩
        exact (spared.resolve_left real).1
      | false =>
        have ownedNext : 0 < (release next after).2.owned iterator := by
          rw [back.owned]
          exact owned
        obtain ⟨extendedOn, cleanOn⟩ := ih further (release next after).2 ownedNext
        refine ⟨back.trans extendedOn, ?_⟩
        change Clean world (forServices iterator body rest further (release next after).2).2 ↔ _
        rw [clean_trans_iff back extendedOn, cleanTurn, cleanOn]
        constructor
        · intro both
          exact .inr ⟨both.1, .inr both.2⟩
        · intro spared
          obtain ⟨here, later⟩ := spared.resolve_left real
          exact ⟨here, later.resolve_left Bool.false_ne_true⟩

/-- The same for the whole iteration, in which the matcher and the iterator are released. -/
def WalkSpared (body : ServiceHandle → α → Client (Bool × α)) (spared : ServiceHandle → α → World → Prop) (result : α)
    (world : World) : Prop :=
  let matched := ioServiceMatching world
  let iterating := ioServiceGetMatchingServices matched.1 matched.2
  matched.1 = 0 ∨ iterating.1.1 ≠ 0 ∨
    LoopSpared iterating.1.2 body spared iterating.2.registry.services result iterating.2

theorem ioServiceMatching_spec (world : World) :
    ((ioServiceMatching world).1 = 0 ∧ Sound ioServiceMatching world) ∨
      ioServiceMatching world =
        (world.objects.length + 1, { world with clock := world.clock + 1, objects := world.objects ++ [⟨.other, 1⟩] }) := by
  have sound : Sound fault world := sound_fault
  cases answer : world.faults world.clock with
  | true =>
    have failed : ioServiceMatching world = (0, { world with clock := world.clock + 1 }) := by
      simp only [ioServiceMatching, bind_apply, fault_eq answer, if_true, pure_apply]
    refine .inl ⟨congrArg Prod.fst failed, ?_⟩
    unfold Sound
    rw [failed]
    exact sound
  | false =>
    refine .inr ?_
    simp only [ioServiceMatching, bind_apply, fault_eq answer, Bool.false_eq_true, if_false]
    rfl

/-- The dictionary is released; the iterator carries a reference. -/
theorem ioServiceGetMatchingServices_spec (world : World) :
    let matched : World := { world with clock := world.clock + 1, objects := world.objects ++ [⟨.other, 1⟩] }
    let iterating := ioServiceGetMatchingServices (world.objects.length + 1) matched
    (iterating.1.1 ≠ 0 ∧ Extends none world iterating.2 ∧ Clean world iterating.2) ∨
      (iterating.1.1 = 0 ∧ Extends (some iterating.1.2) world iterating.2 ∧ Clean world iterating.2) := by
  intro matched iterating
  let freed : World := { world with clock := world.clock + 2, objects := world.objects ++ [⟨.other, 0⟩] }
  have extended : Extends none world freed := extends_create (by omega) _
  have clean : Clean world freed := clean_create fun object member => by rw [List.mem_singleton.mp member]
  have released : cfRelease (world.objects.length + 1) { matched with clock := matched.clock + 1 } = ((), freed) :=
    cfRelease_spec { matched with clock := matched.clock + 1 } world.objects [] ⟨.other, 1⟩ rfl
  cases answer : matched.faults matched.clock with
  | true =>
    have failed : iterating = ((1, 0), freed) := by
      simp only [iterating, ioServiceGetMatchingServices, bind_apply, fault_eq answer, released, if_true, pure_apply]
    rw [failed]
    exact .inl ⟨Nat.one_ne_zero, extended, clean⟩
  | false =>
    have given : iterating = ((0, world.registry.iterator), (retain world.registry.iterator freed).2) := by
      simp only [iterating, ioServiceGetMatchingServices, bind_apply, fault_eq answer, released, Bool.false_eq_true, if_false]
      rfl
    rw [given]
    exact .inr ⟨rfl, extended.trans extends_retain, ⟨clean.misused, clean.released⟩⟩

theorem overSerialServices_spec {body : ServiceHandle → α → Client (Bool × α)} {spared : ServiceHandle → α → World → Prop}
    (bodySpec : BodySpec body spared) (result : α) (world : World) :
    Extends none world (overSerialServices body result world).2 ∧
      (Clean world (overSerialServices body result world).2 ↔ WalkSpared body spared result world) := by
  simp only [overSerialServices, bind_apply, WalkSpared]
  rcases ioServiceMatching_spec world with ⟨null, sound⟩ | matched
  · rw [if_pos null]
    exact ⟨sound.1, ⟨fun _ => .inl null, fun _ => sound.2⟩⟩
  · have iterates := ioServiceGetMatchingServices_spec world
    rw [matched, if_neg (Nat.succ_ne_zero _), bind_apply]
    simp only at iterates ⊢
    generalize ioServiceGetMatchingServices _ _ = iterating at *
    obtain ⟨⟨kr, iterator⟩, after⟩ := iterating
    rcases iterates with ⟨failed, extended, clean⟩ | ⟨answered, lent, clean⟩
    · rw [if_pos failed]
      exact ⟨extended, ⟨fun _ => .inr (.inl failed), fun _ => clean⟩⟩
    · rw [if_neg (not_not.mpr answered)]
      obtain ⟨extended, cleanLoop⟩ := forServices_spec bodySpec after.registry.services result after (owned_of_lent lent)
      obtain ⟨back, same, _⟩ := release_spec (lent.keep extended)
      refine ⟨back, ?_⟩
      change Clean world (release iterator (forServices iterator body after.registry.services result after).2).2 ↔ _
      rw [same, clean_trans_iff lent extended, cleanLoop]
      constructor
      · intro both
        exact .inr (.inr both.2)
      · intro spared
        have loop := (spared.resolve_left (Nat.succ_ne_zero _)).resolve_left (not_not.mpr answered)
        exact ⟨clean, loop⟩

end Loops

end Anyserial.Darwin
