import Mathlib.Data.List.Sort
import Anyserial.Linux.Discovery

/-! Enumeration against the resolution of one path. Both build the record of an entry
under `/sys/class/tty`, and they differ in how they come to its name: the resolution takes
the last component of the path as it is spelled, and follows no link. -/
set_option autoImplicit false

namespace Anyserial.Kit.FileSystem

variable {fs : FileSystem}

/-- No directory lists a name twice. -/
theorem nodup_children (here : Location) : (fs.children here).Nodup := by
  rw [List.Nodup, children, List.pairwise_filterMap]
  apply (List.pairwise_map.mp fs.unique).imp
  intro entry other apart name named name' named' same
  subst same
  exact apart ((spelled_of_child named).trans (spelled_of_child named').symm)

/-- The paths below one directory begin with the same text. -/
theorem text_snoc (root : Location) : ∃ before, ∀ name, text (root ++ [name]) = before ++ name := by
  cases root with
  | nil => exact ⟨"/", fun name => by simp [text]⟩
  | cons first rest =>
    refine ⟨"/" ++ "/".intercalate (first :: rest) ++ "/", fun name => ?_⟩
    rw [text, String.intercalate_append_of_ne_nil (by simp) (by simp)]
    simp [String.append_assoc]

theorem text_mono (root : Location) {first second : String} (ordered : first ≤ second) :
    text (root ++ [first]) ≤ text (root ++ [second]) := by
  obtain ⟨before, spelled⟩ := text_snoc root
  rw [spelled, spelled, String.le_iff_toList_le, String.toList_append, String.toList_append]
  induction before.toList with
  | nil => exact String.le_iff_toList_le.mp ordered
  | cons c rest ih => exact List.cons_le_cons c ih

end Anyserial.Kit.FileSystem

namespace Anyserial.Linux

open Kit

section Entries

variable {fs : FileSystem} {sysRoot devRoot : List String} {name path : String} {info : PortInfo}

/-- The name is that of an entry with a device that is not virtual. -/
def NamesPort (fs : FileSystem) (sysRoot : List String) (name : String) : Prop :=
  name ≠ "" ∧ ∃ target, fs.resolveFromRoot (sysRoot ++ [name, "device"]) = some target ∧ "virtual" ∉ target

/-- The path leads to a node, and the port's own path leads to the same one. -/
def LeadsTo (fs : FileSystem) (path : String) (info : PortInfo) : Prop :=
  (fs.resolve path).isSome ∧ fs.resolve path = fs.resolve info.device

theorem resolveEntry_eq_some : resolveEntry fs sysRoot devRoot name = some info ↔
    ∃ target, fs.resolveFromRoot (sysRoot ++ [name, "device"]) = some target ∧ "virtual" ∉ target ∧
      portInfo fs devRoot name target = info := by
  unfold resolveEntry
  constructor
  · intro resolved
    split at resolved
    · cases resolved
    · rename_i target arrives
      split at resolved
      · cases resolved
      · rename_i real
        cases resolved
        exact ⟨target, arrives, real, rfl⟩
  · rintro ⟨target, arrives, real, rfl⟩
    simp only [arrives, real, if_false]

theorem name_of_resolveEntry (resolved : resolveEntry fs sysRoot devRoot name = some info) : info.name = some name := by
  obtain ⟨_, _, _, rfl⟩ := resolveEntry_eq_some.mp resolved
  rfl

/-- What has a device is a directory below the root of the class. -/
theorem entry_of_device {target : Location} (arrives : fs.resolveFromRoot (sysRoot ++ [name, "device"]) = some target) :
    fs.isDir (sysRoot ++ [name]) = true ∧
      ∃ root, fs.resolveFromRoot sysRoot = some root ∧ IsDirectory fs.nodes root ∧
        (ProperName name → name ∈ fs.children root) := by
  have walks := FileSystem.walks_of_walk arrives
  have root : IsDirectory fs.nodes [] := .inl rfl
  constructor
  · have whole : sysRoot ++ [name, "device"] = (sysRoot ++ [name]) ++ "device" :: [] := by simp
    obtain ⟨left, middle, reached, inside, _⟩ := walks.split root whole
    simpa [FileSystem.isDir, FileSystem.resolveFromRoot, reached.walk_eq] using inside
  · have whole : sysRoot ++ [name, "device"] = sysRoot ++ name :: ["device"] := rfl
    obtain ⟨left, middle, reached, inside, onward⟩ := walks.split root whole
    exact ⟨middle, reached.walk_eq, inside, onward.mem_children⟩

theorem resolvePortInfo_eq_some : resolvePortInfo fs sysRoot devRoot path = some info ↔
    ttyName path ≠ "" ∧ resolveEntry fs sysRoot devRoot (ttyName path) = some info := by
  simp only [resolvePortInfo]
  constructor
  · intro resolved
    split at resolved
    · cases resolved
    · rename_i named
      split at resolved
      · exact ⟨named, resolved⟩
      · cases resolved
  · rintro ⟨named, resolved⟩
    obtain ⟨target, arrives, _⟩ := resolveEntry_eq_some.mp resolved
    simp only [named, if_false, (entry_of_device arrives).1, if_true, resolved]

theorem resolvePortInfo_isSome :
    (resolvePortInfo fs sysRoot devRoot path).isSome = true ↔ NamesPort fs sysRoot (ttyName path) := by
  rw [Option.isSome_iff_exists]
  constructor
  · rintro ⟨info, resolved⟩
    obtain ⟨named, resolved⟩ := resolvePortInfo_eq_some.mp resolved
    obtain ⟨target, arrives, real, _⟩ := resolveEntry_eq_some.mp resolved
    exact ⟨named, target, arrives, real⟩
  · rintro ⟨named, target, arrives, real⟩
    exact ⟨_, resolvePortInfo_eq_some.mpr ⟨named, resolveEntry_eq_some.mpr ⟨target, arrives, real, rfl⟩⟩⟩

theorem mem_enumeratePorts : info ∈ enumeratePorts fs sysRoot devRoot ↔
    ∃ root name, fs.resolveFromRoot sysRoot = some root ∧ IsDirectory fs.nodes root ∧ name ∈ fs.children root ∧
      resolveEntry fs sysRoot devRoot name = some info := by
  cases arrives : fs.resolveFromRoot sysRoot with
  | none => simp [enumeratePorts, FileSystem.isDir, arrives]
  | some root =>
    by_cases inside : IsDirectory fs.nodes root
    · simp [enumeratePorts, FileSystem.isDir, arrives, inside]
    · simp [enumeratePorts, FileSystem.isDir, arrives, inside]

theorem nodup_names : ((enumeratePorts fs sysRoot devRoot).map PortInfo.name).Nodup := by
  unfold enumeratePorts
  split
  · rw [List.Nodup, List.pairwise_map, List.pairwise_filterMap]
    have distinct : ((fs.resolveFromRoot sysRoot).elim [] fs.children).Nodup := by
      cases fs.resolveFromRoot sysRoot with
      | none => exact .nil
      | some root => exact FileSystem.nodup_children root
    apply ((List.mergeSort_perm _ _).nodup_iff.mpr distinct).imp
    intro first second apart info resolved info' resolved' same
    rw [name_of_resolveEntry resolved, name_of_resolveEntry resolved'] at same
    exact apart (Option.some.inj same)
  · exact .nil

theorem sorted_enumeratePorts :
    (enumeratePorts fs sysRoot devRoot).Pairwise fun first second => first.device ≤ second.device := by
  unfold enumeratePorts
  split
  · rw [List.pairwise_filterMap]
    apply (List.pairwise_mergeSort' (· ≤ ·) ((fs.resolveFromRoot sysRoot).elim [] fs.children)).imp
    intro first second ordered info resolved info' resolved'
    obtain ⟨_, _, _, rfl⟩ := resolveEntry_eq_some.mp resolved
    obtain ⟨_, _, _, rfl⟩ := resolveEntry_eq_some.mp resolved'
    exact FileSystem.text_mono devRoot ordered
  · exact .nil

/-- The entry of a listed port is what the resolution of its name finds. -/
theorem resolvePortInfo_of_mem (listed : info ∈ enumeratePorts fs sysRoot devRoot) (named : info.name = some (ttyName path)) :
    resolvePortInfo fs sysRoot devRoot path = some info := by
  obtain ⟨root, name, _, _, member, resolved⟩ := mem_enumeratePorts.mp listed
  rw [name_of_resolveEntry resolved, Option.some.injEq] at named
  subst named
  obtain ⟨node, present⟩ := Option.isSome_iff_exists.mp (FileSystem.mem_children.mp member)
  exact resolvePortInfo_eq_some.mpr ⟨(FileSystem.proper_of_node present).1, resolved⟩

/-- The listing has exactly the entries whose device is real, each once and in order. -/
structure Enumerates (fs : FileSystem) (sysRoot devRoot : List String) : Prop where
  listed : ∀ info, info ∈ enumeratePorts fs sysRoot devRoot ↔
    ∃ root name target, fs.resolveFromRoot sysRoot = some root ∧ IsDirectory fs.nodes root ∧ name ∈ fs.children root ∧
      fs.resolveFromRoot (sysRoot ++ [name, "device"]) = some target ∧ "virtual" ∉ target ∧ portInfo fs devRoot name target = info
  once : ((enumeratePorts fs sysRoot devRoot).map PortInfo.name).Nodup
  sorted : (enumeratePorts fs sysRoot devRoot).Pairwise fun first second => first.device ≤ second.device

/-- Resolving the path agrees with the listing. -/
structure ResolvesAlike (fs : FileSystem) (sysRoot devRoot : List String) (path : String) : Prop where
  listed : ∀ info ∈ enumeratePorts fs sysRoot devRoot, LeadsTo fs path info → resolvePortInfo fs sysRoot devRoot path = some info
  unlisted : (∀ info ∈ enumeratePorts fs sysRoot devRoot, ¬LeadsTo fs path info) → resolvePortInfo fs sysRoot devRoot path = none

theorem enumerates (fs : FileSystem) (sysRoot devRoot : List String) : Enumerates fs sysRoot devRoot where
  listed info := by simp only [mem_enumeratePorts, resolveEntry_eq_some, exists_and_left]
  once := nodup_names
  sorted := sorted_enumeratePorts

theorem resolvesAlike_iff (fs : FileSystem) (sysRoot devRoot : List String) (path : String) :
    ResolvesAlike fs sysRoot devRoot path ↔
      (∀ info ∈ enumeratePorts fs sysRoot devRoot, LeadsTo fs path info → info.name = some (ttyName path)) ∧
        ((∀ info ∈ enumeratePorts fs sysRoot devRoot, ¬LeadsTo fs path info) → ¬NamesPort fs sysRoot (ttyName path)) := by
  constructor
  · intro alike
    constructor
    · intro info listed leads
      obtain ⟨_, resolved⟩ := resolvePortInfo_eq_some.mp (alike.listed info listed leads)
      exact name_of_resolveEntry resolved
    · intro elsewhere names
      have resolved : (resolvePortInfo fs sysRoot devRoot path).isSome = true := resolvePortInfo_isSome.mpr names
      rw [alike.unlisted elsewhere] at resolved
      cases resolved
  · rintro ⟨named, unnamed⟩
    constructor
    case listed => exact fun info listed leads => resolvePortInfo_of_mem listed (named info listed leads)
    case unlisted =>
      intro elsewhere
      rw [← Option.not_isSome_iff_eq_none, resolvePortInfo_isSome]
      exact unnamed elsewhere

/-- The listing is right on every tree. The resolution agrees with it exactly on the paths
whose last component is the name of the port they lead to, or the name of no port when
they lead to none. -/
theorem resolution_agrees_iff (fs : FileSystem) (sysRoot devRoot : List String) :
    Enumerates fs sysRoot devRoot ∧
      ∀ path, ResolvesAlike fs sysRoot devRoot path ↔
        (∀ info ∈ enumeratePorts fs sysRoot devRoot, LeadsTo fs path info → info.name = some (ttyName path)) ∧
          ((∀ info ∈ enumeratePorts fs sysRoot devRoot, ¬LeadsTo fs path info) → ¬NamesPort fs sysRoot (ttyName path)) :=
  ⟨enumerates fs sysRoot devRoot, resolvesAlike_iff fs sysRoot devRoot⟩

/-- One USB port with the alias that udev keeps for it. -/
def aliasedTree : FileSystem where
  nodes :=
    [(["sys"], .dir), (["sys", "class"], .dir), (["sys", "class", "tty"], .dir),
      (["sys", "class", "tty", "ttyUSB0"], .link "../../devices/usb1/ttyUSB0"), (["sys", "devices"], .dir),
      (["sys", "devices", "usb1"], .dir), (["sys", "devices", "usb1", "idVendor"], .file (some "0403\n")),
      (["sys", "devices", "usb1", "idProduct"], .file (some "6001\n")), (["sys", "devices", "usb1", "ttyUSB0"], .dir),
      (["sys", "devices", "usb1", "ttyUSB0", "device"], .link ".."), (["dev"], .dir), (["dev", "ttyUSB0"], .device),
      (["dev", "serial"], .dir), (["dev", "serial", "by-id"], .dir),
      (["dev", "serial", "by-id", "usb-FTDI-port0"], .link "../../ttyUSB0")]
  cwd := ["dev"]
  maxLinks := 40
  unique := by decide +kernel
  proper := by decide +kernel
  tree := by decide +kernel
  inDirectory := by decide +kernel

/-- The alias leads to the listed port, and its own name is in no directory of ttys. -/
theorem alias_not_resolved : ¬ResolvesAlike aliasedTree defaultSysRoot defaultDevRoot "/dev/serial/by-id/usb-FTDI-port0" := by
  intro alike
  have entry : resolveEntry aliasedTree defaultSysRoot defaultDevRoot "ttyUSB0" =
      some (portInfo aliasedTree defaultDevRoot "ttyUSB0" ["sys", "devices", "usb1"]) := by decide +kernel
  have listed := mem_enumeratePorts.mpr ⟨["sys", "class", "tty"], "ttyUSB0", by decide +kernel, by decide +kernel,
    by decide +kernel, entry⟩
  have leads : LeadsTo aliasedTree "/dev/serial/by-id/usb-FTDI-port0"
      (portInfo aliasedTree defaultDevRoot "ttyUSB0" ["sys", "devices", "usb1"]) :=
    ⟨by decide +kernel, by decide +kernel⟩
  have missed : resolvePortInfo aliasedTree defaultSysRoot defaultDevRoot "/dev/serial/by-id/usb-FTDI-port0" = none := by
    decide +kernel
  cases (alike.listed _ listed leads).symm.trans missed

end Entries

end Anyserial.Linux
