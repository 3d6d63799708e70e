import Anyserial.Linux.DiscoveryProperties

/-! The one name that all paths to a port share outside Windows, and the search for a port
by any of them. -/
set_option autoImplicit false

namespace Anyserial.Kit

section Least

variable {α β : Type} [PartialOrder β] {key : α → β} {test : α → Bool} {entry : α} {entries : List α}

/-- In a list without two entries of one key, in the order of the keys, the first match is
the least one. -/
theorem find?_eq_some_iff_least (sorted : entries.Pairwise fun first second => key first ≤ key second)
    (apart : ∀ first ∈ entries, ∀ second ∈ entries, key first = key second → first = second) :
    entries.find? test = some entry ↔
      entry ∈ entries ∧ test entry = true ∧ ∀ other ∈ entries, test other = true → key entry ≤ key other := by
  induction entries with
  | nil => simp
  | cons head rest ih =>
    obtain ⟨above, sorted⟩ := List.pairwise_cons.mp sorted
    cases matched : test head with
    | true =>
      rw [List.find?_cons_of_pos matched, Option.some.injEq]
      constructor
      · rintro rfl
        refine ⟨List.mem_cons_self, matched, fun other member _ => ?_⟩
        rcases List.mem_cons.mp member with rfl | later
        · exact le_refl _
        · exact above other later
      · rintro ⟨member, _, least⟩
        have below : key entry ≤ key head := least head List.mem_cons_self matched
        rcases List.mem_cons.mp member with rfl | later
        · rfl
        · exact apart head List.mem_cons_self entry member (le_antisymm (above entry later) below)
    | false =>
      have onward := ih sorted fun first inside second inside' =>
        apart first (List.mem_cons_of_mem _ inside) second (List.mem_cons_of_mem _ inside')
      have skipped : ∀ other, test other = true → (other ∈ head :: rest ↔ other ∈ rest) := by
        intro other passes
        rw [List.mem_cons, or_iff_right_iff_imp]
        rintro rfl
        rw [matched] at passes
        cases passes
      rw [List.find?_cons_of_neg (by simp [matched]), onward]
      constructor
      · rintro ⟨member, passes, least⟩
        exact ⟨List.mem_cons_of_mem _ member, passes, fun other inside hits => least other ((skipped other hits).mp inside) hits⟩
      · rintro ⟨member, passes, least⟩
        exact ⟨(skipped entry passes).mp member, passes, fun other inside => least other (List.mem_cons_of_mem _ inside)⟩

end Least

end Anyserial.Kit

namespace Anyserial

open Kit

section Names

variable {mapping : CaseMapping} {fs : FileSystem} {platform path other : String} {place : Location}

theorem canonicalPortName_of_resolve (posix : platform ≠ "win32") (arrives : fs.resolve path = some place) :
    canonicalPortName mapping fs platform path = FileSystem.text place := by
  simp only [canonicalPortName, if_neg posix, arrives]

theorem canonicalPortName_of_missing (posix : platform ≠ "win32") (missing : fs.resolve path = none) :
    canonicalPortName mapping fs platform path = path := by
  simp only [canonicalPortName, if_neg posix, missing]

/-- The canonical name leads to where the path leads. -/
theorem resolve_canonicalPortName (posix : platform ≠ "win32") :
    fs.resolve (canonicalPortName mapping fs platform path) = fs.resolve path := by
  cases arrives : fs.resolve path with
  | none => rw [canonicalPortName_of_missing posix arrives, arrives]
  | some place =>
    rw [canonicalPortName_of_resolve posix arrives]
    exact (FileSystem.isPlace_of_resolve arrives).resolve_text

theorem canonicalPortName_eq_iff (posix : platform ≠ "win32") :
    canonicalPortName mapping fs platform path = canonicalPortName mapping fs platform other ↔
      path = other ∨ (fs.resolve path).isSome ∧ fs.resolve path = fs.resolve other := by
  constructor
  · intro same
    have alike : fs.resolve path = fs.resolve other := calc
      fs.resolve path = fs.resolve (canonicalPortName mapping fs platform path) := (resolve_canonicalPortName posix).symm
      _ = fs.resolve (canonicalPortName mapping fs platform other) := congrArg fs.resolve same
      _ = fs.resolve other := resolve_canonicalPortName posix
    cases arrives : fs.resolve path with
    | none =>
      rw [canonicalPortName_of_missing posix arrives, canonicalPortName_of_missing posix (alike ▸ arrives)] at same
      exact .inl same
    | some place => exact .inr ⟨rfl, arrives ▸ alike⟩
  · rintro (rfl | ⟨present, alike⟩)
    · rfl
    · obtain ⟨place, arrives⟩ := Option.isSome_iff_exists.mp present
      rw [canonicalPortName_of_resolve posix arrives, canonicalPortName_of_resolve posix (alike ▸ arrives)]

/-- What the canonical name is outside Windows. -/
structure NamesPlaces (mapping : CaseMapping) (fs : FileSystem) (platform : String) : Prop where
  leads : ∀ path, fs.resolve (canonicalPortName mapping fs platform path) = fs.resolve path
  idempotent : ∀ path, canonicalPortName mapping fs platform (canonicalPortName mapping fs platform path) =
    canonicalPortName mapping fs platform path
  classes : ∀ path other, canonicalPortName mapping fs platform path = canonicalPortName mapping fs platform other ↔
    path = other ∨ (fs.resolve path).isSome ∧ fs.resolve path = fs.resolve other

/-- Outside Windows two paths have one canonical name exactly when they lead to one place of
the file system, or are the same path. -/
theorem canonical_name_of_place (mapping : CaseMapping) (fs : FileSystem) {platform : String} (posix : platform ≠ "win32") :
    NamesPlaces mapping fs platform := by
  constructor
  case leads => exact fun path => resolve_canonicalPortName posix
  case idempotent =>
    intro path
    cases arrives : fs.resolve path with
    | none => rw [canonicalPortName_of_missing posix arrives, canonicalPortName_of_missing posix arrives]
    | some place =>
      rw [canonicalPortName_eq_iff posix, resolve_canonicalPortName posix, arrives]
      exact .inr ⟨rfl, rfl⟩
  case classes => exact fun path other => canonicalPortName_eq_iff posix

/-- The alias that udev keeps, in a tree that has it, and the path it stands for. -/
theorem canonical_name_of_place_of_alias :
    NamesPlaces plainMapping Linux.aliasedTree "linux" ∧
      canonicalPortName plainMapping Linux.aliasedTree "linux" "/dev/serial/by-id/usb-FTDI-port0" =
        canonicalPortName plainMapping Linux.aliasedTree "linux" "/dev/ttyUSB0" := by
  have names : NamesPlaces plainMapping Linux.aliasedTree "linux" :=
    canonical_name_of_place plainMapping Linux.aliasedTree (by decide)
  exact ⟨names, (names.classes _ _).mpr (.inr ⟨by decide +kernel, by decide +kernel⟩)⟩

end Names

namespace Linux

variable {mapping : CaseMapping} {fs : FileSystem} {sysRoot devRoot : List String} {filters : PortFilters} {info other : PortInfo}
  {path path' : String}

/-- No two listed ports have one device. -/
theorem eq_of_device (listed : info ∈ enumeratePorts fs sysRoot devRoot) (listed' : other ∈ enumeratePorts fs sysRoot devRoot)
    (same : info.device = other.device) : info = other := by
  obtain ⟨_, name, _, _, _, resolved⟩ := mem_enumeratePorts.mp listed
  obtain ⟨_, name', _, _, _, resolved'⟩ := mem_enumeratePorts.mp listed'
  have named : name = name' := by
    obtain ⟨_, _, _, rfl⟩ := resolveEntry_eq_some.mp resolved
    obtain ⟨_, _, _, rfl⟩ := resolveEntry_eq_some.mp resolved'
    obtain ⟨before, spelled⟩ := FileSystem.text_snoc devRoot
    have whole : before ++ name = before ++ name' := (spelled name).symm.trans (same.trans (spelled name'))
    simpa using whole
  rw [named, resolved'] at resolved
  exact (Option.some.inj resolved).symm

/-- The port has the metadata that the search is for, and the path that it is for, if any,
leads to the port. -/
structure Meets (fs : FileSystem) (filters : PortFilters) (info : PortInfo) : Prop where
  vid : ∀ vid, filters.vid = some vid → info.vid = some vid
  pid : ∀ pid, filters.pid = some pid → info.pid = some pid
  serialNumber : ∀ serialNumber, filters.serialNumber = some serialNumber → info.serialNumber = some serialNumber
  device : ∀ path, filters.device = some path → path = info.device ∨ LeadsTo fs path info

/-- What the search for a port finds. -/
structure Searches (mapping : CaseMapping) (fs : FileSystem) (sysRoot devRoot : List String) : Prop where
  found : ∀ filters info, findSerialPort mapping fs "linux" (enumeratePorts fs sysRoot devRoot) filters = some info ↔
    info ∈ enumeratePorts fs sysRoot devRoot ∧ Meets fs filters info ∧
      ∀ other ∈ enumeratePorts fs sysRoot devRoot, Meets fs filters other → info.device ≤ other.device
  nothing : ∀ filters, findSerialPort mapping fs "linux" (enumeratePorts fs sysRoot devRoot) filters = none ↔
    ∀ info ∈ enumeratePorts fs sysRoot devRoot, ¬Meets fs filters info
  spellings : ∀ (filters : PortFilters) path path', (fs.resolve path).isSome → fs.resolve path = fs.resolve path' →
    findSerialPort mapping fs "linux" (enumeratePorts fs sysRoot devRoot) { filters with device := some path } =
      findSerialPort mapping fs "linux" (enumeratePorts fs sysRoot devRoot) { filters with device := some path' }

/-- A filter that is given lets through what equals it. -/
theorem unconstrained_or_eq_iff {α : Type} {wanted actual : Option α} :
    (wanted = none ∨ actual = wanted) ↔ ∀ value, wanted = some value → actual = some value := by
  cases wanted with
  | none => simp
  | some value => simp

/-- The test of the search is what the filters ask for. -/
theorem matches_iff_meets :
    ((filters.vid = none ∨ info.vid = filters.vid) ∧ (filters.pid = none ∨ info.pid = filters.pid) ∧
      (filters.serialNumber = none ∨ info.serialNumber = filters.serialNumber) ∧
        (filters.device.map (canonicalPortName mapping fs "linux") = none ∨
          some (canonicalPortName mapping fs "linux" info.device) = filters.device.map (canonicalPortName mapping fs "linux"))) ↔
      Meets fs filters info := by
  have named : (filters.device.map (canonicalPortName mapping fs "linux") = none ∨
      some (canonicalPortName mapping fs "linux" info.device) = filters.device.map (canonicalPortName mapping fs "linux")) ↔
        ∀ path, filters.device = some path → path = info.device ∨ LeadsTo fs path info := by
    cases filters.device with
    | none => simp
    | some path =>
      simp only [Option.map_some, reduceCtorEq, false_or, Option.some.injEq, forall_eq']
      rw [eq_comm]
      exact canonicalPortName_eq_iff (by decide)
  rw [unconstrained_or_eq_iff, unconstrained_or_eq_iff, unconstrained_or_eq_iff, named]
  constructor
  · rintro ⟨vid, pid, serialNumber, device⟩
    exact ⟨vid, pid, serialNumber, device⟩
  · intro meets
    exact ⟨meets.vid, meets.pid, meets.serialNumber, meets.device⟩

/-- The search finds the port with the least path among those that meet the filters, by
whichever path to it is asked for. -/
theorem search_finds_by_any_name (mapping : CaseMapping) (fs : FileSystem) (sysRoot devRoot : List String) :
    Searches mapping fs sysRoot devRoot := by
  constructor
  case found =>
    intro filters info
    simp only [findSerialPort]
    rw [find?_eq_some_iff_least sorted_enumeratePorts fun _ listed _ listed' => eq_of_device listed listed']
    simp only [decide_eq_true_eq, matches_iff_meets]
  case nothing =>
    intro filters
    simp only [findSerialPort, List.find?_eq_none, decide_eq_true_eq, matches_iff_meets]
  case spellings =>
    intro filters path path' present alike
    have named : canonicalPortName mapping fs "linux" path = canonicalPortName mapping fs "linux" path' :=
      (canonicalPortName_eq_iff (by decide)).mpr (.inr ⟨present, alike⟩)
    simp only [findSerialPort, Option.map_some, named]

end Linux

end Anyserial
