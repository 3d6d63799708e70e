import Mathlib.Data.List.Basic
import Mathlib.Data.List.Induction

/-! A file system with symbolic links, and the resolution of paths in it: components are
walked one by one, and a link is replaced by its target as long as the budget lasts. -/
set_option autoImplicit false

namespace Anyserial.Kit

/-- `text` is `none` when the file cannot be read. -/
inductive Node where
  | dir
  | file (text : Option String)
  | link (target : String)
  | device
  deriving DecidableEq

/-- A node that no walk goes through. -/
def Node.isLeaf : Node → Bool
  | .file _ | .device => true
  | .dir | .link _ => false

/-- A place in the tree, from the root on. -/
abbrev Location := List String

/-- What an entry of a directory may be called. -/
def ProperName (name : String) : Prop :=
  name ≠ "" ∧ name ≠ "." ∧ name ≠ ".." ∧ '/' ∉ name.toList

instance (name : String) : Decidable (ProperName name) := inferInstanceAs (Decidable (_ ∧ _))

def IsDirectory (nodes : List (Location × Node)) (here : Location) : Prop := here = [] ∨ nodes.lookup here = some .dir

instance (nodes : List (Location × Node)) (here : Location) : Decidable (IsDirectory nodes here) :=
  inferInstanceAs (Decidable (_ ∨ _))

structure FileSystem where
  nodes : List (Location × Node)
  cwd : Location
  maxLinks : Nat
  unique : (nodes.map Prod.fst).Nodup
  proper : ∀ entry ∈ nodes, ∀ name ∈ entry.1, ProperName name
  tree : ∀ entry ∈ nodes, IsDirectory nodes entry.1.dropLast
  inDirectory : IsDirectory nodes cwd

namespace FileSystem

variable (fs : FileSystem)

def node (here : Location) : Option Node := fs.nodes.lookup here

/-- The names in a directory. -/
def children (here : Location) : List String :=
  fs.nodes.filterMap fun entry =>
    match entry.1.getLast? with
    | some name => if entry.1.dropLast = here then some name else none
    | none => none

def components (path : String) : List String := (path.toList.splitOn '/').map String.ofList

/-- Where the walk along a path begins. -/
def start (path : String) (here : Location) : Location := if path.toList.head? = some '/' then [] else here

/-- The walk that hands over to `follow` at a link. -/
def walkWith (follow : Location → List String → Option Location) : Location → List String → Option Location
  | here, [] => some here
  | here, name :: rest =>
      if name = "" ∨ name = "." then walkWith follow here rest
      else if name = ".." then walkWith follow here.dropLast rest
      else
        match fs.node (here ++ [name]) with
        | none => none
        | some .dir => walkWith follow (here ++ [name]) rest
        | some (.link target) => if target = "" then none else follow (start target here) (components target ++ rest)
        | some (.file _) | some .device => if rest = [] then some (here ++ [name]) else none

theorem walkWith_cons (follow : Location → List String → Option Location) (here : Location) (name : String)
    (rest : List String) : fs.walkWith follow here (name :: rest) =
      if name = "" ∨ name = "." then fs.walkWith follow here rest
      else if name = ".." then fs.walkWith follow here.dropLast rest
      else
        match fs.node (here ++ [name]) with
        | none => none
        | some .dir => fs.walkWith follow (here ++ [name]) rest
        | some (.link target) => if target = "" then none else follow (start target here) (components target ++ rest)
        | some (.file _) | some .device => if rest = [] then some (here ++ [name]) else none := rfl

/-- The walk with a budget of links. -/
def walk : Nat → Location → List String → Option Location
  | 0 => fs.walkWith fun _ _ => none
  | links + 1 => fs.walkWith (walk links)

theorem walk_zero : fs.walk 0 = fs.walkWith fun _ _ => none := rfl

theorem walk_succ (links : Nat) : fs.walk (links + 1) = fs.walkWith (fs.walk links) := rfl

/-- An empty path names nothing. -/
def resolve (path : String) : Option Location :=
  if path = "" then none else fs.walk fs.maxLinks (start path fs.cwd) (components path)

/-- The place that a path from the root on leads to. -/
def resolveFromRoot (names : List String) : Option Location := fs.walk fs.maxLinks [] names

def isDir (names : List String) : Bool :=
  match fs.resolveFromRoot names with
  | some here => IsDirectory fs.nodes here
  | none => false

def isFile (names : List String) : Bool :=
  match (fs.resolveFromRoot names).bind fs.node with
  | some (.file _) => true
  | _ => false

/-- What a file holds; `none` when the path leads to no readable file. -/
def readText (names : List String) : Option String :=
  match (fs.resolveFromRoot names).bind fs.node with
  | some (.file text) => text
  | _ => none

def text (here : Location) : String := "/" ++ "/".intercalate here

section Walk

variable {fs} {here found : Location} {name : String} {before rest : List String} {links : Nat}

theorem mem_nodes_of_node {node : Node} (present : fs.node here = some node) : (here, node) ∈ fs.nodes := by
  obtain ⟨first, last, split, _⟩ := List.lookup_eq_some_iff.mp present
  simp [split]

theorem isDirectory_dropLast (directory : IsDirectory fs.nodes here) : IsDirectory fs.nodes here.dropLast := by
  rcases directory with rfl | present
  · exact .inl rfl
  · exact fs.tree _ (mem_nodes_of_node present)

theorem isDirectory_start (path : String) (directory : IsDirectory fs.nodes here) :
    IsDirectory fs.nodes (start path here) := by
  unfold start
  split
  · exact .inl rfl
  · exact directory

/-- An entry that a directory lists under a name lies at that name. -/
theorem spelled_of_child {entry : Location × Node} (named : (match entry.1.getLast? with
    | some name => if entry.1.dropLast = here then some name else none
    | none => none) = some name) : entry.1 = here ++ [name] := by
  split at named
  · rename_i last found
    split at named
    · rename_i parent
      cases named
      rw [← parent]
      exact (List.dropLast_append_getLast? name found).symm
    · cases named
  · cases named

theorem mem_children : name ∈ fs.children here ↔ (fs.node (here ++ [name])).isSome := by
  constructor
  · intro member
    obtain ⟨entry, listed, named⟩ := List.mem_filterMap.mp member
    obtain ⟨place, node⟩ := entry
    dsimp only at named
    split at named
    · rename_i last same
      split at named
      · rename_i parent
        cases named
        have whole : here ++ [name] = place := by
          rw [← parent]
          exact List.dropLast_append_getLast? name same
        rw [FileSystem.node, whole]
        cases found : fs.nodes.lookup place with
        | some _ => rfl
        | none => simpa using List.lookup_eq_none_iff.mp found _ listed
      · cases named
    · cases named
  · intro present
    obtain ⟨node, found⟩ := Option.isSome_iff_exists.mp present
    refine List.mem_filterMap.mpr ⟨_, mem_nodes_of_node found, ?_⟩
    simp

end Walk

/-- One component of a path: where it leads, what is left of the budget, and the
components that come in its place. -/
inductive Enters (fs : FileSystem) : Nat → Location → String → Nat → Location → List String → Prop where
  | stay {links : Nat} {here : Location} {name : String} (skips : name = "" ∨ name = ".") :
      Enters fs links here name links here []
  | up {links : Nat} {here : Location} : Enters fs links here ".." links here.dropLast []
  | down {links : Nat} {here : Location} {name : String} (present : fs.node (here ++ [name]) = some .dir) :
      Enters fs links here name links (here ++ [name]) []
  | through {links : Nat} {here : Location} {name target : String} (present : fs.node (here ++ [name]) = some (.link target))
      (nonempty : target ≠ "") :
      Enters fs (links + 1) here name links (start target here) (components target)

/-- A walk that arrives, by the way it goes. -/
inductive Walks (fs : FileSystem) : Nat → Location → List String → Location → Prop where
  | done {links : Nat} {here : Location} : Walks fs links here [] here
  | step {links left : Nat} {here there found : Location} {name : String} {names rest : List String}
      (enters : Enters fs links here name left there names) (onward : Walks fs left there (names ++ rest) found) :
      Walks fs links here (name :: rest) found
  | leaf {links : Nat} {here : Location} {name : String} {node : Node} (present : fs.node (here ++ [name]) = some node)
      (isLeaf : node.isLeaf = true) :
      Walks fs links here [name] (here ++ [name])

section Arrival

variable {fs} {here there found : Location} {name next : String} {names first rest : List String} {links left : Nat}

theorem walks_of_walkWith {follow : Location → List String → Option Location}
    (followed : ∀ here names found, follow here names = some found → ∃ left, links = left + 1 ∧ Walks fs left here names found)
    (arrives : fs.walkWith follow here names = some found) : Walks fs links here names found := by
  induction names generalizing here with
  | nil =>
    cases arrives
    exact .done
  | cons name rest ih =>
    rw [walkWith_cons] at arrives
    split at arrives
    · rename_i skips
      exact .step (.stay skips) (ih arrives)
    · split at arrives
      · rename_i same
        exact same ▸ .step .up (ih arrives)
      · have last {node : Node} (present : fs.node (here ++ [name]) = some node) (isLeaf : node.isLeaf = true)
            (ends : (if rest = [] then some (here ++ [name]) else none) = some found) : Walks fs links here (name :: rest) found := by
          split at ends
          · rename_i nothing
            cases ends
            subst nothing
            exact .leaf present isLeaf
          · cases ends
        split at arrives
        · cases arrives
        · rename_i present
          exact .step (.down present) (ih arrives)
        · rename_i target present
          split at arrives
          · cases arrives
          · rename_i nonempty
            obtain ⟨left, rfl, onward⟩ := followed _ _ _ arrives
            exact .step (.through present nonempty) onward
        · rename_i text present
          exact last present rfl arrives
        · rename_i present
          exact last present rfl arrives

theorem walks_of_walk (arrives : fs.walk links here names = some found) : Walks fs links here names found := by
  induction links generalizing here names found with
  | zero =>
    refine walks_of_walkWith (fun here names found never => ?_) arrives
    cases never
  | succ links ih => exact walks_of_walkWith (fun _ _ _ onward => ⟨links, rfl, ih onward⟩) arrives

theorem proper_of_node {node : Node} (present : fs.node (here ++ [name]) = some node) : ProperName name :=
  fs.proper _ (mem_nodes_of_node present) name (by simp)

theorem walk_stay (skips : name = "" ∨ name = ".") : fs.walk links here (name :: rest) = fs.walk links here rest := by
  cases links <;> simp [walk_zero, walk_succ, walkWith_cons, skips]

theorem walk_up : fs.walk links here (".." :: rest) = fs.walk links here.dropLast rest := by
  cases links <;> simp [walk_zero, walk_succ, walkWith_cons]

theorem walk_down (present : fs.node (here ++ [name]) = some .dir) :
    fs.walk links here (name :: rest) = fs.walk links (here ++ [name]) rest := by
  obtain ⟨nonempty, notHere, notUp, _⟩ := proper_of_node present
  cases links <;> simp [walk_zero, walk_succ, walkWith_cons, nonempty, notHere, notUp, present]

theorem walk_through {target : String} (present : fs.node (here ++ [name]) = some (.link target)) (given : target ≠ "") :
    fs.walk (links + 1) here (name :: rest) = fs.walk links (start target here) (components target ++ rest) := by
  obtain ⟨nonempty, notHere, notUp, _⟩ := proper_of_node present
  simp [walk_succ, walkWith_cons, nonempty, notHere, notUp, present, given]

theorem walk_leaf {node : Node} (present : fs.node (here ++ [name]) = some node) (isLeaf : node.isLeaf = true) :
    fs.walk links here [name] = some (here ++ [name]) := by
  obtain ⟨nonempty, notHere, notUp, _⟩ := proper_of_node present
  cases node with
  | dir | link target => cases isLeaf
  | file text | device => cases links <;> simp [walk_zero, walk_succ, walkWith_cons, nonempty, notHere, notUp, present]

/-- Every way to arrive is the walk itself. -/
theorem Walks.walk_eq (walks : Walks fs links here names found) : fs.walk links here names = some found := by
  induction walks with
  | @done links here => cases links <;> rfl
  | step enters _ ih =>
    cases enters with
    | stay skips => exact (walk_stay skips).trans ih
    | up => exact walk_up.trans ih
    | down present => exact (walk_down present).trans ih
    | through present given => exact (walk_through present given).trans ih
  | leaf present isLeaf => exact walk_leaf present isLeaf

theorem Enters.isDirectory (enters : Enters fs links here name left there names) (directory : IsDirectory fs.nodes here) :
    IsDirectory fs.nodes there := by
  cases enters with
  | stay => exact directory
  | up => exact isDirectory_dropLast directory
  | down present => exact .inr present
  | through => exact isDirectory_start _ directory

/-- A walk that goes on comes by a directory. -/
theorem Walks.split (walks : Walks fs links here names found) (directory : IsDirectory fs.nodes here)
    (whole : names = first ++ next :: rest) : ∃ left middle, Walks fs links here first middle ∧ IsDirectory fs.nodes middle ∧
      Walks fs left middle (next :: rest) found := by
  induction walks generalizing first with
  | done => simp at whole
  | @step links left here there found name names' rest' enters onward ih =>
    cases first with
    | nil =>
      cases whole
      exact ⟨links, here, .done, directory, .step enters onward⟩
    | cons name first =>
      cases whole
      have whole : names' ++ (first ++ next :: rest) = (names' ++ first) ++ next :: rest := (List.append_assoc ..).symm
      obtain ⟨left, middle, reached, inside, after⟩ := ih (enters.isDirectory directory) whole
      exact ⟨left, middle, .step enters reached, inside, after⟩
  | @leaf links here name node present isLeaf =>
    cases first with
    | nil =>
      cases whole
      exact ⟨links, here, .done, directory, .leaf present isLeaf⟩
    | cons name first => simp at whole

/-- The first component of a walk from a directory that names neither it nor its parent is listed in it. -/
theorem Walks.mem_children (walks : Walks fs links here (name :: rest) found) (proper : ProperName name) :
    name ∈ fs.children here := by
  obtain ⟨nonempty, notHere, notUp, _⟩ := proper
  rw [FileSystem.mem_children]
  cases walks with
  | step enters onward =>
    cases enters with
    | stay skips => exact absurd skips (not_or.mpr ⟨nonempty, notHere⟩)
    | up => exact absurd rfl notUp
    | down present | through present => simp [present]
  | leaf present => simp [present]

end Arrival

/-- Where a walk may end: at a directory, or at a node that no walk goes through. -/
def IsPlace (fs : FileSystem) (here : Location) : Prop :=
  IsDirectory fs.nodes here ∨ ∃ node, fs.node here = some node ∧ node.isLeaf = true

section Place

variable {fs} {here found : Location} {names : List String} {links : Nat}

theorem Walks.isPlace (walks : Walks fs links here names found) (directory : IsDirectory fs.nodes here) : fs.IsPlace found := by
  induction walks with
  | done => exact .inl directory
  | step enters _ ih => exact ih (enters.isDirectory directory)
  | leaf present isLeaf => exact .inr ⟨_, present, isLeaf⟩

theorem isPlace_of_resolve {path : String} (arrives : fs.resolve path = some found) : fs.IsPlace found := by
  unfold resolve at arrives
  split at arrives
  · cases arrives
  · exact (walks_of_walk arrives).isPlace (isDirectory_start path fs.inDirectory)

theorem IsPlace.proper (place : fs.IsPlace here) : ∀ name ∈ here, ProperName name := by
  rcases place with (rfl | present) | ⟨node, present, _⟩
  · intro name member
    cases member
  · exact fs.proper _ (mem_nodes_of_node present)
  · exact fs.proper _ (mem_nodes_of_node present)

/-- The walk from the root on along the names of a directory comes by that directory. -/
theorem walk_directory (directory : IsDirectory fs.nodes here) (rest : List String) :
    fs.walk links [] (here ++ rest) = fs.walk links here rest := by
  induction here using List.reverseRecOn generalizing rest with
  | nil => rfl
  | append_singleton here name ih =>
    have present : fs.node (here ++ [name]) = some .dir := directory.resolve_left (by simp)
    have above : IsDirectory fs.nodes here := by simpa using isDirectory_dropLast directory
    rw [List.append_assoc, List.singleton_append, ih above, walk_down present]

theorem walk_done : fs.walk links here [] = some here := by cases links <;> rfl

theorem IsPlace.walk_eq (place : fs.IsPlace here) : fs.walk links [] here = some here := by
  rcases place with directory | ⟨node, present, isLeaf⟩
  · rw [← List.append_nil here, walk_directory directory, walk_done, List.append_nil]
  · cases here using List.reverseRecOn with
    | nil => exact walk_done
    | append_singleton here name =>
      have above : IsDirectory fs.nodes here := by simpa using fs.tree _ (mem_nodes_of_node present)
      rw [walk_directory above, walk_leaf present isLeaf]

theorem components_text (proper : ∀ name ∈ here, ProperName name) (nonempty : here ≠ []) :
    components (text here) = "" :: here := by
  have apart : ∀ letters ∈ [] :: here.map String.toList, '/' ∉ letters := by
    intro letters member
    rcases List.mem_cons.mp member with rfl | member
    · simp
    · obtain ⟨name, listed, rfl⟩ := List.mem_map.mp member
      exact (proper name listed).2.2.2
  have spelled : (text here).toList = ['/'].intercalate ([] :: here.map String.toList) := by
    rw [List.intercalate_cons_of_ne_nil (by simpa using nonempty)]
    simp [text, String.toList_intercalate]
  rw [components, spelled, List.splitOn_intercalate '/' apart (by simp)]
  simp [Function.comp_def]

/-- The text of a place leads to that place. -/
theorem IsPlace.resolve_text (place : fs.IsPlace here) : fs.resolve (text here) = some here := by
  have rooted : start (text here) fs.cwd = [] := by simp [start, text]
  have spelled : text here ≠ "" := by simp [text]
  rw [resolve, if_neg spelled, rooted]
  by_cases root : here = []
  · subst root
    have slash : components (text []) = ["", ""] := by decide
    rw [slash, walk_stay (.inl rfl), walk_stay (.inl rfl), walk_done]
  · rw [components_text place.proper root, walk_stay (.inl rfl), place.walk_eq]

end Place

end FileSystem

end Anyserial.Kit
