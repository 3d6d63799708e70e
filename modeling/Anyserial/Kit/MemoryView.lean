import Mathlib.Data.List.Basic
import Mathlib.Algebra.BigOperators.Group.List.Basic
import Mathlib.Tactic.Ring

/-! Strided views of a memory, as Python's `memoryview` has them: the length is that of the
outermost dimension, and slices are taken along it. -/
set_option autoImplicit false

namespace Anyserial.Kit

/-- An extent and a stride in bytes. -/
structure Dim where
  extent : Nat
  stride : Int
  deriving DecidableEq

/-- `dims` are listed from the outermost one on. Nothing here depends on the format of the
items. -/
structure MemoryView where
  memory : Int → BitVec 8
  start : Int
  itemsize : Nat
  dims : List Dim

/-- The number of items. -/
def extent (dims : List Dim) : Nat := (dims.map Dim.extent).prod

/-- Where the items begin, the last index moving fastest. -/
def addresses (start : Int) : List Dim → List Int
  | [] => [start]
  | dim :: rest => (List.range dim.extent).flatMap fun i : Nat => addresses (start + i * dim.stride) rest

/-- Every stride is the size of what lies inside it. One item has no stride. -/
def inOrder (itemsize : Nat) : List Dim → Bool
  | [] => true
  | dim :: rest => (dim.extent ≤ 1 || dim.stride = (itemsize * extent rest : Nat)) && inOrder itemsize rest

namespace MemoryView

def nbytes (view : MemoryView) : Nat := view.itemsize * extent view.dims

/-- What `bytes(view)` is. -/
def tobytes (view : MemoryView) : List (BitVec 8) :=
  (addresses view.start view.dims).flatMap fun address => (List.range view.itemsize).map fun k : Nat => view.memory (address + k)

def contiguousAlong (view : MemoryView) (dims : List Dim) : Bool :=
  match dims with
  | [] => true
  | [dim] => dim.extent = 1 || dim.stride = view.itemsize
  | dims => view.nbytes = 0 || inOrder view.itemsize dims

def isC (view : MemoryView) : Bool := view.contiguousAlong view.dims

def isFortran (view : MemoryView) : Bool := view.contiguousAlong view.dims.reverse

/-- `view.contiguous` -/
def contiguous (view : MemoryView) : Bool := view.isC || view.isFortran

inductive Refusal where
  | typeError | bufferError
  deriving DecidableEq, Repr

/-- `view.cast('B')`. Bytes are a target for every source format. -/
def castB (view : MemoryView) : Except Refusal MemoryView :=
  if view.isC = false then .error .typeError
  -- Of several dimensions, or of none, no extent may be zero.
  else if view.dims.length ≠ 1 ∧ 0 ∈ view.dims.map Dim.extent then .error .typeError
  else .ok ⟨view.memory, view.start, 1, [⟨view.nbytes, 1⟩]⟩

/-- `memoryview(data)` of a bytes object. -/
def ofBytes (data : List (BitVec 8)) : MemoryView :=
  ⟨fun address => data.getD address.toNat 0, 0, 1, [⟨data.length, 1⟩]⟩

/-- `len(view)`: a view without dimensions has none. -/
def len (view : MemoryView) : Except Refusal Nat :=
  match view.dims with
  | [] => .error .typeError
  | dim :: _ => .ok dim.extent

/-- `view[offset:]` for an offset in range. -/
def drop (view : MemoryView) (offset : Nat) : MemoryView :=
  match view.dims with
  | [] => view
  | dim :: rest =>
      { view with start := view.start + offset * dim.stride, dims := ⟨dim.extent - offset, dim.stride⟩ :: rest }

end MemoryView

section Addresses

variable {α : Type} {start : Int} {dims rest : List Dim} {dim : Dim} {itemsize : Nat}

@[simp] theorem extent_nil : extent [] = 1 := rfl

@[simp] theorem extent_cons : extent (dim :: rest) = dim.extent * extent rest := by
  rw [extent, List.map_cons, List.prod_cons, extent]

theorem length_addresses (dims : List Dim) (start : Int) : (addresses start dims).length = extent dims := by
  induction dims generalizing start with
  | nil => rfl
  | cons dim rest ih => simp [addresses, List.length_flatMap, ih]

/-- Rows of equal length, one after the other. -/
theorem flatMap_rows (rows columns : Nat) (f : Nat → α) :
    ((List.range rows).flatMap fun i => (List.range columns).map fun j => f (i * columns + j)) =
      (List.range (rows * columns)).map f := by
  induction rows with
  | zero => simp
  | succ rows ih =>
    rw [List.range_succ, List.flatMap_append, ih, Nat.succ_mul, List.range_add, List.map_append, List.map_map]
    simp [Function.comp_def]

/-- The items of an array in C order lie one after the other. -/
theorem addresses_inOrder (ordered : inOrder itemsize dims = true) (start : Int) :
    addresses start dims = (List.range (extent dims)).map fun i => start + (i * itemsize : Nat) := by
  induction dims generalizing start with
  | nil => simp [addresses]
  | cons dim rest ih =>
    obtain ⟨strided, ordered⟩ := Bool.and_eq_true_iff.mp ordered
    have row (i : Nat) (inside : i < dim.extent) : addresses (start + i * dim.stride) rest =
        (List.range (extent rest)).map fun j => start + ((i * extent rest + j) * itemsize : Nat) := by
      rw [ih ordered]
      refine List.map_congr_left fun j _ => ?_
      rcases Bool.or_eq_true_iff.mp strided with single | known
      · have first : i = 0 := by
          have := of_decide_eq_true single
          omega
        simp [first]
      · rw [of_decide_eq_true known]
        push_cast
        ring
    rw [addresses, List.flatMap_congr fun i member => row i (List.mem_range.mp member), extent_cons]
    exact flatMap_rows dim.extent (extent rest) fun index : Nat => start + (index * itemsize : Nat)

theorem addresses_single (single : extent dims = 1) (start : Int) : addresses start dims = [start] := by
  induction dims generalizing start with
  | nil => rfl
  | cons dim rest ih =>
    rw [extent_cons] at single
    have one := Nat.eq_one_of_mul_eq_one_right single
    have ones := Nat.eq_one_of_mul_eq_one_left single
    simp [addresses, one, ih ones]

end Addresses

namespace MemoryView

variable {view bytes : MemoryView} {dim : Dim} {rest : List Dim}

theorem length_tobytes (view : MemoryView) : view.tobytes.length = view.nbytes := by
  simp [tobytes, List.length_flatMap, length_addresses, nbytes, Nat.mul_comm]

theorem addresses_of_isC (positive : 0 < view.itemsize) (ordered : view.isC = true) :
    addresses view.start view.dims = (List.range (extent view.dims)).map fun i => view.start + (i * view.itemsize : Nat) := by
  unfold isC contiguousAlong at ordered
  split at ordered
  · rename_i scalar
    simp [scalar, addresses]
  · rename_i dim line
    rcases Bool.or_eq_true_iff.mp ordered with single | known
    · simp [line, addresses, of_decide_eq_true single]
    · exact line ▸ addresses_inOrder (by simpa [inOrder] using .inr (of_decide_eq_true known)) _
  · rcases Bool.or_eq_true_iff.mp ordered with nothing | known
    · have none : extent view.dims = 0 := by
        rcases Nat.mul_eq_zero.mp (of_decide_eq_true nothing) with zero | none
        · exact absurd zero (Nat.pos_iff_ne_zero.mp positive)
        · exact none
      rw [none, List.range_zero, List.map_nil, ← List.length_eq_zero_iff, length_addresses, none]
    · exact addresses_inOrder known _

/-- A view in C order is a stretch of its memory. -/
theorem tobytes_of_isC (ordered : view.isC = true) :
    view.tobytes = (List.range view.nbytes).map fun k : Nat => view.memory (view.start + k) := by
  rcases Nat.eq_zero_or_pos view.itemsize with nothing | positive
  · have empty : view.nbytes = 0 := by rw [nbytes, nothing, Nat.zero_mul]
    rw [empty, List.range_zero, List.map_nil, ← List.length_eq_zero_iff, length_tobytes, empty]
  have rows := flatMap_rows (extent view.dims) view.itemsize fun index : Nat => view.memory (view.start + index)
  rw [nbytes, Nat.mul_comm, ← rows, tobytes, addresses_of_isC positive ordered, List.flatMap_map]
  refine List.flatMap_congr fun i _ => List.map_congr_left fun k _ => ?_
  push_cast
  rw [add_assoc]

/-- A view that a cast to bytes returns. -/
structure Bytewise (view : MemoryView) (data : List (BitVec 8)) : Prop where
  items : view.itemsize = 1
  line : view.dims = [⟨data.length, 1⟩]
  tobytes : view.tobytes = data

theorem bytewise_line {memory : Int → BitVec 8} {start : Int} {data : List (BitVec 8)}
    (reads : (List.range data.length).map (fun k : Nat => memory (start + k)) = data) :
    Bytewise ⟨memory, start, 1, [⟨data.length, 1⟩]⟩ data := by
  refine ⟨rfl, rfl, (tobytes_of_isC (by simp [isC, contiguousAlong])).trans ?_⟩
  simpa [nbytes] using reads

theorem bytewise_of_castB (cast : view.castB = .ok bytes) : Bytewise bytes view.tobytes := by
  unfold castB at cast
  split at cast
  · cases cast
  · rename_i ordered
    split at cast
    · cases cast
    · cases cast
      have same := tobytes_of_isC (by simpa using ordered)
      rw [← length_tobytes]
      exact bytewise_line (by rw [length_tobytes, ← same])

theorem bytewise_ofBytes (data : List (BitVec 8)) : Bytewise (ofBytes data) data := by
  refine bytewise_line (List.ext_getElem (by simp) fun i _ inside => ?_)
  simp [inside]

/-- Every row along the outermost dimension is one byte, and the bytes lie one after the other. -/
structure ByteRows (view : MemoryView) : Prop where
  items : view.itemsize = 1
  rows : ∃ dim rest, view.dims = dim :: rest ∧ extent rest = 1
  ordered : view.isC = true

theorem Bytewise.byteRows {data : List (BitVec 8)} (bytewise : Bytewise view data) : ByteRows view where
  items := bytewise.items
  rows := ⟨_, _, bytewise.line, rfl⟩
  ordered := by simp [isC, contiguousAlong, bytewise.line, bytewise.items]

theorem ByteRows.len (rows : ByteRows view) : view.len = .ok view.tobytes.length := by
  obtain ⟨dim, rest, shape, single⟩ := rows.rows
  simp [MemoryView.len, shape, length_tobytes, nbytes, rows.items, single]

theorem tobytes_rows (items : view.itemsize = 1) (shape : view.dims = dim :: rest) (single : extent rest = 1) :
    view.tobytes = (List.range dim.extent).map fun i : Nat => view.memory (view.start + i * dim.stride) := by
  have places : addresses view.start (dim :: rest) = (List.range dim.extent).map fun i : Nat => view.start + i * dim.stride := by
    simp only [addresses, addresses_single single]
    exact List.map_eq_flatMap.symm
  rw [tobytes, shape, places, List.flatMap_map, List.map_eq_flatMap]
  simp [items]

theorem ByteRows.tobytes_drop (rows : ByteRows view) (offset : Nat) : (view.drop offset).tobytes = view.tobytes.drop offset := by
  obtain ⟨dim, rest, shape, single⟩ := rows.rows
  have dropped : (view.drop offset).dims = ⟨dim.extent - offset, dim.stride⟩ :: rest := by rw [drop, shape]
  have items : (view.drop offset).itemsize = 1 := by rw [drop, shape]; exact rows.items
  have start : (view.drop offset).start = view.start + offset * dim.stride := by rw [drop, shape]
  have memory : (view.drop offset).memory = view.memory := by rw [drop, shape]
  rw [tobytes_rows items dropped single, tobytes_rows rows.items shape single, start, memory]
  refine List.ext_getElem (by simp) fun i _ _ => ?_
  rw [List.getElem_drop, List.getElem_map, List.getElem_map, List.getElem_range, List.getElem_range]
  congr 1
  push_cast
  ring

theorem ByteRows.isC_drop (rows : ByteRows view) {offset : Nat} (inside : offset < view.tobytes.length) :
    (view.drop offset).isC = true := by
  obtain ⟨dim, rest, shape, single⟩ := rows.rows
  rw [length_tobytes, nbytes, shape, extent_cons, single, rows.items, Nat.one_mul, Nat.mul_one] at inside
  have ordered := rows.ordered
  simp only [isC, contiguousAlong, drop, shape] at ordered ⊢
  cases rest with
  | nil =>
    simp only [Bool.or_eq_true, decide_eq_true_eq] at ordered ⊢
    rcases ordered with one | known
    · exact .inl (by omega)
    · exact .inr known
  | cons next rest =>
    simp only [Bool.or_eq_true, decide_eq_true_eq, nbytes, shape, extent_cons, inOrder, Bool.and_eq_true] at ordered ⊢
    rw [extent_cons] at single
    rw [rows.items, single] at ordered
    rw [rows.items, single]
    rcases ordered with nothing | ⟨strided, inner⟩
    · omega
    · refine .inr ⟨?_, inner⟩
      rcases strided with one | known
      · exact .inl (by omega)
      · exact .inr known

end MemoryView

end Anyserial.Kit
