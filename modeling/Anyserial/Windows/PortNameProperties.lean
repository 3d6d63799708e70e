import Anyserial.Windows.Discovery
import Anyserial.Windows.Kernel32

/-! The canonical name of a port on Windows: two spellings have the same one exactly when
they differ in device prefixes and letter case. -/
set_option autoImplicit false

namespace Anyserial

open Kit

section Cores

variable {name core rest start : List Char} {prefixes : List (List Char)}

theorem hasDevicePrefix_iff : hasDevicePrefix name = true ↔ ∃ start ∈ windowsDevicePrefixes, start <+: name := by
  simp only [hasDevicePrefix, List.any_eq_true, List.isPrefixOf_iff_prefix]

theorem length_of_mem (known : start ∈ windowsDevicePrefixes) : start.length = 4 := by
  have all : ∀ start ∈ windowsDevicePrefixes, start.length = 4 := by decide
  exact all start known

theorem strip_append (known : start ∈ windowsDevicePrefixes) :
    stripDevicePrefixes (start ++ name) = stripDevicePrefixes name := by
  have found : hasDevicePrefix (start ++ name) = true := hasDevicePrefix_iff.mpr ⟨start, known, List.prefix_append start name⟩
  rw [stripDevicePrefixes, dif_pos found, List.drop_left' (length_of_mem known)]

theorem strip_flatten (known : ∀ start ∈ prefixes, start ∈ windowsDevicePrefixes) :
    stripDevicePrefixes (prefixes.flatten ++ name) = stripDevicePrefixes name := by
  induction prefixes with
  | nil => rfl
  | cons start prefixes ih =>
    rw [List.flatten_cons, List.append_assoc, strip_append (known start List.mem_cons_self)]
    exact ih fun other member => known other (List.mem_cons_of_mem _ member)

theorem strip_bare (bare : hasDevicePrefix name = false) : stripDevicePrefixes name = name := by
  rw [stripDevicePrefixes, dif_neg (by simp [bare])]

/-- What a name is without its device prefixes. -/
structure IsCore (name core : List Char) : Prop where
  stripped : ∃ prefixes : List (List Char), (∀ start ∈ prefixes, start ∈ windowsDevicePrefixes) ∧ name = prefixes.flatten ++ core
  bare : hasDevicePrefix core = false

theorem isCore_strip (name : List Char) : IsCore name (stripDevicePrefixes name) := by
  induction name using stripDevicePrefixes.induct with
  | case1 name found ih =>
    obtain ⟨start, known, rest, rfl⟩ := hasDevicePrefix_iff.mp found
    rw [List.drop_left' (length_of_mem known)] at ih
    rw [strip_append known]
    obtain ⟨⟨prefixes, all, same⟩, bare⟩ := ih
    refine ⟨⟨start :: prefixes, ?_, ?_⟩, bare⟩
    · rintro other (_ | ⟨_, member⟩)
      · exact known
      · exact all other member
    · rw [List.flatten_cons, List.append_assoc, ← same]
  | case2 name bare =>
    have bare : hasDevicePrefix name = false := by simpa using bare
    rw [strip_bare bare]
    exact ⟨⟨[], nofun, rfl⟩, bare⟩

/-- A name has one core. -/
theorem isCore_iff : IsCore name core ↔ core = stripDevicePrefixes name := by
  constructor
  · rintro ⟨⟨prefixes, known, rfl⟩, bare⟩
    rw [strip_flatten known, strip_bare bare]
  · rintro rfl
    exact isCore_strip name

def isMark (c : Char) : Bool := c = '\\' || c = '.' || c = '?'

/-- The device prefixes have no letters. -/
theorem isMark_of_mem (known : start ∈ windowsDevicePrefixes) : ∀ c ∈ start, isMark c = true := by
  have all : windowsDevicePrefixes.all (fun start => start.all isMark) = true := by decide
  exact List.all_eq_true.mp (List.all_eq_true.mp all start known)

theorem toUpper_eq_mark {c mark : Char} (known : isMark mark = true) : c.toUpper = mark ↔ c = mark := by
  have all : (c.toUpper = '\\' ↔ c = '\\') ∧ (c.toUpper = '.' ↔ c = '.') ∧ (c.toUpper = '?' ↔ c = '?') :=
    ascii_cases
      (motive := fun c => (c.toUpper = '\\' ↔ c = '\\') ∧ (c.toUpper = '.' ↔ c = '.') ∧ (c.toUpper = '?' ↔ c = '?'))
      (by decide +kernel) (fun c beyond => by simp only [toUpper_beyond beyond, and_self]) c
  obtain ⟨backslash, dot, question⟩ := all
  simp only [isMark, Bool.or_eq_true, decide_eq_true_eq] at known
  obtain (rfl | rfl) | rfl := known
  · exact backslash
  · exact dot
  · exact question

theorem prefix_toUpper (marks : ∀ c ∈ start, isMark c = true) : start <+: name.map Char.toUpper ↔ start <+: name := by
  induction start generalizing name with
  | nil => simp
  | cons mark start ih =>
    cases name with
    | nil => simp
    | cons c name =>
      have next : start <+: name.map Char.toUpper ↔ start <+: name :=
        ih fun other member => marks other (List.mem_cons_of_mem _ member)
      have first := toUpper_eq_mark (c := c) (marks mark List.mem_cons_self)
      rw [List.map_cons, List.cons_prefix_cons, List.cons_prefix_cons, next, eq_comm, first, eq_comm]

theorem hasDevicePrefix_toUpper (name : List Char) : hasDevicePrefix (name.map Char.toUpper) = hasDevicePrefix name := by
  rw [Bool.eq_iff_iff, hasDevicePrefix_iff, hasDevicePrefix_iff]
  constructor
  · rintro ⟨start, known, begins⟩
    exact ⟨start, known, (prefix_toUpper (isMark_of_mem known)).mp begins⟩
  · rintro ⟨start, known, begins⟩
    exact ⟨start, known, (prefix_toUpper (isMark_of_mem known)).mpr begins⟩

/-- Stripping and upper-casing commute. -/
theorem strip_toUpper (name : List Char) : stripDevicePrefixes (name.map Char.toUpper) = (stripDevicePrefixes name).map Char.toUpper := by
  obtain ⟨⟨prefixes, known, same⟩, bare⟩ := isCore_strip name
  have upper : prefixes.flatten.map Char.toUpper = prefixes.flatten := by
    conv_rhs => rw [← List.map_id prefixes.flatten]
    refine List.map_congr_left fun c member => ?_
    obtain ⟨start, listed, inside⟩ := List.mem_flatten.mp member
    exact (toUpper_eq_mark (isMark_of_mem (known start listed) c inside)).mpr rfl
  conv_lhs => rw [same, List.map_append, upper, strip_flatten known, strip_bare (by rw [hasDevicePrefix_toUpper, bare])]

end Cores

section Canonical

variable (mapping : CaseMapping) (fs : FileSystem) {path other : String}

def IsAscii (path : String) : Prop := ∀ c ∈ path.toList, c.toNat < 128

instance (path : String) : Decidable (IsAscii path) := List.decidableBAll _ path.toList

theorem upper_ascii {name : List Char} (ascii : ∀ c ∈ name, c.toNat < 128) : name.flatMap mapping.upper = name.map Char.toUpper := by
  induction name with
  | nil => rfl
  | cons c name ih =>
    rw [List.flatMap_cons, List.map_cons, mapping.ascii c (ascii c List.mem_cons_self),
      ih fun d member => ascii d (List.mem_cons_of_mem _ member)]
    rfl

theorem strip_subset (name : List Char) : ∀ c ∈ stripDevicePrefixes name, c ∈ name := by
  obtain ⟨⟨prefixes, _, same⟩, _⟩ := isCore_strip name
  intro c member
  rw [same]
  exact List.mem_append_right _ member

/-- The canonical name on Windows. -/
abbrev canonical (path : String) : String := canonicalPortName mapping fs "win32" path

theorem canonical_toList (path : String) :
    (canonical mapping fs path).toList = (stripDevicePrefixes path.toList).flatMap mapping.upper := by
  simp [canonicalPortName]

theorem canonical_ascii (ascii : IsAscii path) :
    (canonical mapping fs path).toList = (stripDevicePrefixes path.toList).map Char.toUpper := by
  rw [canonical_toList, upper_ascii mapping fun c member => ascii c (strip_subset _ c member)]

theorem toUpper_ascii {c : Char} (ascii : c.toNat < 128) : c.toUpper.toNat < 128 := by
  have all : ∀ n < 128, (Char.ofNat n).toUpper.toNat < 128 := by decide +kernel
  exact Char.ofNat_toNat c ▸ all c.toNat ascii

theorem isAscii_canonical (ascii : IsAscii path) : IsAscii (canonical mapping fs path) := by
  intro c member
  rw [canonical_ascii mapping fs ascii] at member
  obtain ⟨d, inside, rfl⟩ := List.mem_map.mp member
  exact toUpper_ascii (ascii d (strip_subset _ d inside))

theorem map_toUpper_eq_iff {first second : List Char} :
    first.map Char.toUpper = second.map Char.toUpper ↔ first.map Char.toLower = second.map Char.toLower := by
  constructor
  · intro same
    simpa [Function.comp_def, toLower_toUpper] using congrArg (List.map Char.toLower) same
  · intro same
    simpa [Function.comp_def, toUpper_toLower] using congrArg (List.map Char.toUpper) same

/-- The cores of the two names are equal up to letter case. -/
def SamePort (path other : String) : Prop :=
  ∃ core core', IsCore path.toList core ∧ IsCore other.toList core' ∧ core.map Char.toLower = core'.map Char.toLower

theorem canonical_eq_iff (ascii : IsAscii path) (ascii' : IsAscii other) :
    canonical mapping fs path = canonical mapping fs other ↔ SamePort path other := by
  rw [← String.toList_inj, canonical_ascii mapping fs ascii, canonical_ascii mapping fs ascii', map_toUpper_eq_iff]
  constructor
  · intro same
    exact ⟨_, _, isCore_strip _, isCore_strip _, same⟩
  · rintro ⟨core, core', isCore, isCore', same⟩
    rwa [← isCore_iff.mp isCore, ← isCore_iff.mp isCore']

/-- The record is of the port that the path names. -/
def InClass (path : String) (info : PortInfo) : Prop := canonical mapping fs info.device = canonical mapping fs path

/-- The first record of the port in one enumeration. -/
def IsFirst (ports : List PortInfo) (path : String) (info : PortInfo) : Prop :=
  InClass mapping fs path info ∧ ∃ before after, ports = before ++ info :: after ∧ ∀ earlier ∈ before, ¬InClass mapping fs path earlier

theorem find?_eq_some_iff {ports : List PortInfo} {info : PortInfo} :
    (ports.find? fun info => canonical mapping fs info.device = canonical mapping fs path) = some info ↔
      IsFirst mapping fs ports path info := by
  rw [List.find?_eq_some_iff_append]
  simp only [decide_eq_true_eq, Bool.not_eq_true', decide_eq_false_iff_not]
  rfl

theorem resolvePortInfo_eq_some {setupapi registry : List PortInfo} {info : PortInfo} :
    Windows.resolvePortInfo mapping fs setupapi registry path = some info ↔
      IsFirst mapping fs setupapi path info ∨
        (∀ other ∈ setupapi, ¬InClass mapping fs path other) ∧ IsFirst mapping fs registry path info := by
  simp only [Windows.resolvePortInfo]
  constructor
  · intro resolved
    split at resolved
    · rename_i first found
      cases resolved
      exact .inl ((find?_eq_some_iff mapping fs).mp found)
    · rename_i missing
      exact .inr ⟨by simpa [InClass] using List.find?_eq_none.mp missing, (find?_eq_some_iff mapping fs).mp resolved⟩
  · rintro (first | ⟨missing, first⟩)
    · rw [(find?_eq_some_iff mapping fs).mpr first]
    · have nothing : (setupapi.find? fun info => canonical mapping fs info.device = canonical mapping fs path) = none :=
        List.find?_eq_none.mpr (by simpa [InClass] using missing)
      rw [nothing]
      exact (find?_eq_some_iff mapping fs).mpr first

/-- What the canonical name is on Windows. -/
structure CanonicalNames : Prop where
  core : ∀ path : String, ∃! core, IsCore path.toList core
  idempotent : ∀ path, IsAscii path → canonical mapping fs (canonical mapping fs path) = canonical mapping fs path
  bare : ∀ path, IsAscii path → hasDevicePrefix (canonical mapping fs path).toList = false
  prefixed : ∀ (path : String) (prefixes : List (List Char)), (∀ start ∈ prefixes, start ∈ windowsDevicePrefixes) →
    canonical mapping fs (String.ofList (prefixes.flatten ++ path.toList)) = canonical mapping fs path
  recased : ∀ path other, IsAscii path → IsAscii other → path.toList.map Char.toLower = other.toList.map Char.toLower →
    canonical mapping fs path = canonical mapping fs other
  classes : ∀ path other, IsAscii path → IsAscii other →
    (canonical mapping fs path = canonical mapping fs other ↔ SamePort path other)
  normalised : ∀ path, canonical mapping fs (Windows.normaliseComPath path) = canonical mapping fs path
  resolved : ∀ setupapi registry path info, Windows.resolvePortInfo mapping fs setupapi registry path = some info ↔
    IsFirst mapping fs setupapi path info ∨
      (∀ other ∈ setupapi, ¬InClass mapping fs path other) ∧ IsFirst mapping fs registry path info
  spellings : ∀ setupapi registry path other, IsAscii path → IsAscii other → SamePort path other →
    Windows.resolvePortInfo mapping fs setupapi registry path = Windows.resolvePortInfo mapping fs setupapi registry other

theorem canonical_prefixed {prefixes : List (List Char)} (known : ∀ start ∈ prefixes, start ∈ windowsDevicePrefixes) :
    canonical mapping fs (String.ofList (prefixes.flatten ++ path.toList)) = canonical mapping fs path := by
  rw [← String.toList_inj, canonical_toList, canonical_toList, String.toList_ofList, strip_flatten known]

theorem canonical_names : CanonicalNames mapping fs := by
  constructor
  case core => exact fun path => ⟨_, isCore_strip path.toList, fun core isCore => isCore_iff.mp isCore⟩
  case idempotent =>
    intro path ascii
    have bare := (isCore_strip path.toList).bare
    rw [← String.toList_inj, canonical_ascii mapping fs (isAscii_canonical mapping fs ascii), canonical_ascii mapping fs ascii,
      strip_toUpper, strip_bare bare, List.map_map]
    exact List.map_congr_left fun c _ => toUpper_toUpper c
  case bare =>
    intro path ascii
    rw [canonical_ascii mapping fs ascii, hasDevicePrefix_toUpper]
    exact (isCore_strip path.toList).bare
  case prefixed => exact fun path prefixes known => canonical_prefixed mapping fs known
  case recased =>
    intro path other ascii ascii' same
    rw [← String.toList_inj, canonical_ascii mapping fs ascii, canonical_ascii mapping fs ascii', ← strip_toUpper, ← strip_toUpper,
      map_toUpper_eq_iff.mpr same]
  case classes => exact fun path other ascii ascii' => canonical_eq_iff mapping fs ascii ascii'
  case normalised =>
    intro path
    unfold Windows.normaliseComPath
    split
    · rfl
    · have whole : "\\\\.\\" ++ path = String.ofList ([['\\', '\\', '.', '\\']].flatten ++ path.toList) := by
        rw [← String.toList_inj, String.toList_append]
        simp
      rw [whole]
      exact canonical_prefixed mapping fs (by decide)
  case resolved => exact fun setupapi registry path info => resolvePortInfo_eq_some mapping fs
  case spellings =>
    intro setupapi registry path other ascii ascii' same
    have equal := (canonical_eq_iff mapping fs ascii ascii').mpr same
    simp only [Windows.resolvePortInfo, equal]

/-- Nothing on Windows reads the file system for a name. -/
def bareRoot : FileSystem where
  nodes := []
  cwd := []
  maxLinks := 0
  unique := .nil
  proper _ member := absurd member List.not_mem_nil
  tree _ member := absurd member List.not_mem_nil
  inDirectory := .inl rfl

/-- One port under two spellings: the registry has the bare name in upper case, and `setupapi` another port. -/
theorem canonical_names_of_com3 :
    Windows.resolvePortInfo plainMapping bareRoot [{ device := "COM4" }] [{ device := "COM3" }] "\\\\?\\com3" =
        some { device := "COM3" } ∧
      canonical plainMapping bareRoot "\\\\.\\\\\\?\\com3" = canonical plainMapping bareRoot "COM3" := by
  have names : CanonicalNames plainMapping bareRoot := canonical_names plainMapping bareRoot
  have ascii : IsAscii "\\\\?\\com3" := by decide +kernel
  have cores : SamePort "\\\\?\\com3" "COM3" :=
    ⟨_, _, isCore_strip _, isCore_strip _, by decide +kernel⟩
  have other : ¬SamePort "COM4" "\\\\?\\com3" := by
    rintro ⟨core, core', isCore, isCore', same⟩
    rw [isCore_iff.mp isCore, isCore_iff.mp isCore'] at same
    exact absurd same (by decide +kernel)
  constructor
  · refine (names.resolved _ _ _ _).mpr (.inr ⟨?_, ?_, [], [], rfl, ?_⟩)
    · intro info member
      cases List.mem_singleton.mp member
      exact fun alike => other ((names.classes _ _ (by decide +kernel) ascii).mp alike)
    · exact ((names.classes _ _ ascii (by decide +kernel)).mpr cores).symm
    · exact fun _ member => absurd member List.not_mem_nil
  · exact (names.classes _ _ (by decide +kernel) (by decide +kernel)).mpr
      ⟨_, _, isCore_strip _, isCore_strip _, by decide +kernel⟩

end Canonical

end Anyserial
