import Anyserial.Stream.Buffer

/-! Which buffers `send_buffer` writes whole. The loop counts bytes and slices along the
outermost dimension, so the two must agree. -/
set_option autoImplicit false

namespace Anyserial

open Kit

section Flat

variable {path : String} {view data : MemoryView} {bytes : Bytes} {offset : Nat} {replies : List Reply}

/-- The loop on bytes that lie one after the other. -/
def sendFlat (path : String) (bytes : Bytes) : Nat → List Reply → Sent
  | offset, [] => ⟨[], if offset < bytes.length then .waiting else .returned⟩
  | offset, reply :: replies =>
      if offset < bytes.length then
        match reply with
        | .accepts count =>
            let written := (bytes.drop offset).take count
            (sendFlat path bytes (offset + written.length) replies).after written
        | .fails err =>
            if (PyExc.osError err).isRetry then sendFlat path bytes offset replies
            else ⟨[], .raised (errnoToException (.osError err) .io path)⟩
      else ⟨[], .returned⟩

/-- On rows of one byte the loop is that on the bytes of the view. -/
theorem sendFrom_byteRows (rows : view.ByteRows) (offset : Nat) (replies : List Reply) :
    sendFrom path view view.tobytes.length offset replies = sendFlat path view.tobytes offset replies := by
  induction replies generalizing offset with
  | nil => rfl
  | cons reply replies ih =>
    by_cases inside : offset < view.tobytes.length
    · cases reply with
      | accepts count => simp only [sendFrom, sendFlat, inside, if_true, rows.isC_drop inside, rows.tobytes_drop, ih]
      | fails err => simp only [sendFrom, sendFlat, inside, if_true, rows.isC_drop inside, ih]
    · cases reply <;> simp only [sendFrom, sendFlat, inside, if_false]

/-- The loop on bytes returns with every byte written, and refuses nothing. -/
theorem sendFlat_sends (path : String) (bytes : Bytes) (offset : Nat) (replies : List Reply) :
    ((sendFlat path bytes offset replies).ending = .returned → (sendFlat path bytes offset replies).data = bytes.drop offset) ∧
      ∀ refusal, (sendFlat path bytes offset replies).ending ≠ .refused refusal := by
  induction replies generalizing offset with
  | nil =>
    by_cases inside : offset < bytes.length
    · simp [sendFlat, inside]
    · simp [sendFlat, inside, Nat.not_lt.mp inside]
  | cons reply replies ih =>
    by_cases inside : offset < bytes.length
    · cases reply with
      | accepts count =>
        simp only [sendFlat, inside, if_true]
        obtain ⟨sends, refuses⟩ := ih (offset + ((bytes.drop offset).take count).length)
        refine ⟨fun returned => ?_, refuses⟩
        rw [Sent.after, sends returned, ← List.drop_drop, List.length_take, List.take_eq_take_min, List.take_append_drop]
      | fails err =>
        simp only [sendFlat, inside, if_true]
        split
        · exact ih offset
        · exact ⟨nofun, nofun⟩
    · cases reply <;> simp [sendFlat, inside, Nat.not_lt.mp inside]

theorem sendView_byteRows (path : String) (rows : view.ByteRows) (replies : List Reply) :
    ((sendView path view replies).ending = .returned → (sendView path view replies).data = view.tobytes) ∧
      ∀ refusal, (sendView path view replies).ending ≠ .refused refusal := by
  unfold sendView
  simp only [rows.len]
  split
  · rename_i nothing
    exact ⟨fun _ => (List.length_eq_zero_iff.mp nothing).symm, nofun⟩
  · rw [sendFrom_byteRows rows]
    exact sendFlat_sends path view.tobytes 0 replies

/-- Rows without bytes: no write makes progress. -/
theorem sendFrom_empty (path : String) {total : Nat} (some : 0 < total) (ordered : (view.drop 0).isC = true)
    (nothing : (view.drop 0).tobytes = [])
    (replies : List Reply) : (sendFrom path view total 0 replies).ending ≠ .returned ∧
      ∀ refusal, (sendFrom path view total 0 replies).ending ≠ .refused refusal := by
  induction replies with
  | nil => simp [sendFrom, some]
  | cons reply replies ih =>
    cases reply with
    | accepts count => simpa [sendFrom, some, ordered, nothing, Sent.after] using ih
    | fails err =>
      simp only [sendFrom, some, if_true, ordered]
      split
      · exact ih
      · exact ⟨nofun, nofun⟩

theorem drop_zero (view : MemoryView) : view.drop 0 = view := by
  obtain ⟨memory, start, itemsize, dims⟩ := view
  cases dims with
  | nil => rfl
  | cons dim rest => simp [MemoryView.drop]

end Flat

section Buffers

variable {path : String} {data : MemoryView} {dim : Dim} {rest : List Dim}

/-- However the writes go: what returns has written `bytes(data)`, and the view refuses nothing. -/
def SendsAll (path : String) (data : MemoryView) : Prop :=
  ∀ replies, ((sendBuffer path data replies).ending = .returned → (sendBuffer path data replies).data = data.tobytes) ∧
    ∀ refusal, (sendBuffer path data replies).ending ≠ .refused refusal

/-- Items of several bytes: the buffer is copied, or can be cast. -/
def Castable (data : MemoryView) : Prop :=
  data.contiguous = false ∨ data.isC = true ∧ (data.dims.length = 1 ∨ 0 ∉ data.dims.map Dim.extent)

/-- Items of one byte: the outermost dimension is empty, or its rows have one byte at most. -/
def Sliceable (data : MemoryView) : Prop :=
  ∃ dim rest, data.dims = dim :: rest ∧ (dim.extent = 0 ∨ data.isC = true ∧ extent rest ≤ 1)

theorem castB_refused_iff : (∃ refusal, data.castB = .error refusal) ↔
    ¬(data.isC = true ∧ (data.dims.length = 1 ∨ 0 ∉ data.dims.map Dim.extent)) := by
  unfold MemoryView.castB
  split
  · rename_i unordered
    simp [unordered]
  · rename_i ordered
    rw [Bool.not_eq_false] at ordered
    split
    · rename_i empty
      simp [empty.1, empty.2]
    · rename_i plain
      have castable : data.dims.length = 1 ∨ 0 ∉ data.dims.map Dim.extent := by
        by_contra not
        rw [not_or, not_not] at not
        exact plain not
      simp only [ordered, castable]
      simp

theorem sendsAll_of_castable (wide : data.itemsize ≠ 1) (castable : Castable data) : SendsAll path data := by
  intro replies
  simp only [sendBuffer, wide, ne_eq, not_false_iff, if_true]
  rcases castable with scattered | ⟨ordered, plain⟩
  · have bytewise := MemoryView.bytewise_ofBytes data.tobytes
    obtain ⟨sends, refuses⟩ := sendView_byteRows path bytewise.byteRows replies
    simp only [scattered, Bool.false_eq_true, if_false]
    exact ⟨fun returned => (sends returned).trans bytewise.tobytes, refuses⟩
  · have contiguous : data.contiguous = true := by simp [MemoryView.contiguous, ordered]
    simp only [contiguous, if_true]
    cases cast : data.castB with
    | ok view =>
      have bytewise := MemoryView.bytewise_of_castB cast
      obtain ⟨sends, refuses⟩ := sendView_byteRows path bytewise.byteRows replies
      exact ⟨fun returned => (sends returned).trans bytewise.tobytes, refuses⟩
    | error refusal => exact absurd ⟨ordered, plain⟩ (castB_refused_iff.mp ⟨refusal, cast⟩)

theorem castable_of_sendsAll (wide : data.itemsize ≠ 1) (sendsAll : SendsAll path data) : Castable data := by
  by_contra not
  obtain ⟨contiguous, uncastable⟩ := not_or.mp not
  rw [Bool.not_eq_false] at contiguous
  obtain ⟨_, accepted⟩ := sendsAll []
  obtain ⟨refusal, refused⟩ := castB_refused_iff.mpr uncastable
  exact accepted refusal (by simp [sendBuffer, wide, contiguous, refused])

theorem sendBuffer_narrow (narrow : data.itemsize = 1) (replies : List Reply) :
    sendBuffer path data replies = sendView path data replies := by
  simp [sendBuffer, narrow]

theorem sendView_rows (shape : data.dims = dim :: rest) (some : dim.extent ≠ 0) (replies : List Reply) :
    sendView path data replies = sendFrom path data dim.extent 0 replies := by
  simp [sendView, MemoryView.len, shape, some]

theorem sendsAll_of_sliceable (narrow : data.itemsize = 1) (sliceable : Sliceable data) : SendsAll path data := by
  obtain ⟨dim, rest, shape, rows⟩ := sliceable
  have size : data.nbytes = dim.extent * extent rest := by simp [MemoryView.nbytes, shape, narrow]
  intro replies
  rw [sendBuffer_narrow narrow]
  by_cases empty : dim.extent = 0
  · have nothing : data.tobytes = [] := by
      rw [← List.length_eq_zero_iff, MemoryView.length_tobytes, size, empty, Nat.zero_mul]
    simp [sendView, MemoryView.len, shape, empty, nothing]
  · obtain ⟨ordered, small⟩ := rows.resolve_left empty
    by_cases single : extent rest = 1
    · obtain ⟨sends, refuses⟩ := sendView_byteRows path ⟨narrow, ⟨dim, rest, shape, single⟩, ordered⟩ replies
      exact ⟨sends, refuses⟩
    · have nothing : data.tobytes = [] := by
        rw [← List.length_eq_zero_iff, MemoryView.length_tobytes, size]
        exact Nat.mul_eq_zero.mpr (.inr (by omega))
      rw [sendView_rows shape empty]
      obtain ⟨returns, refuses⟩ := sendFrom_empty path (Nat.pos_of_ne_zero empty) ((drop_zero data).symm ▸ ordered)
        ((drop_zero data).symm ▸ nothing) replies
      exact ⟨fun returned => absurd returned returns, refuses⟩

/-- Rows of several bytes: a first write of as many bytes as there are rows ends the loop. -/
theorem cut_short (path : String) (narrow : data.itemsize = 1) (shape : data.dims = dim :: rest) (some : dim.extent ≠ 0)
    (ordered : data.isC = true)
    (wide : 1 < extent rest) : sendBuffer path data [.accepts dim.extent] = ⟨data.tobytes.take dim.extent, .returned⟩ ∧
      (data.tobytes.take dim.extent).length < data.tobytes.length := by
  have size : data.tobytes.length = dim.extent * extent rest := by simp [MemoryView.length_tobytes, MemoryView.nbytes, shape, narrow]
  have more : dim.extent < dim.extent * extent rest := by
    calc dim.extent = dim.extent * 1 := (Nat.mul_one _).symm
      _ < dim.extent * extent rest := Nat.mul_lt_mul_of_pos_left wide (Nat.pos_of_ne_zero some)
  have written : (data.tobytes.take dim.extent).length = dim.extent := by
    rw [List.length_take, size]
    omega
  constructor
  · rw [sendBuffer_narrow narrow, sendView_rows shape some]
    simp [sendFrom, Nat.pos_of_ne_zero some, drop_zero, ordered, written, Sent.after]
  · rw [written, size]
    exact more

theorem sliceable_of_sendsAll (narrow : data.itemsize = 1) (sendsAll : SendsAll path data) : Sliceable data := by
  cases shape : data.dims with
  | nil =>
    obtain ⟨_, accepted⟩ := sendsAll []
    refine absurd ?_ (accepted .typeError)
    simp [sendBuffer_narrow narrow, sendView, MemoryView.len, shape]
  | cons dim rest =>
    refine ⟨dim, rest, shape, or_iff_not_imp_left.mpr fun some => ?_⟩
    have ordered : data.isC = true := by
      by_contra unordered
      obtain ⟨_, accepted⟩ := sendsAll [.accepts 0]
      refine accepted .bufferError ?_
      rw [sendBuffer_narrow narrow, sendView_rows shape some]
      simp [sendFrom, Nat.pos_of_ne_zero some, drop_zero, unordered]
    refine ⟨ordered, Nat.not_lt.mp fun wide => ?_⟩
    obtain ⟨short, less⟩ := cut_short path narrow shape some ordered wide
    obtain ⟨sends, _⟩ := sendsAll [.accepts dim.extent]
    rw [short] at sends
    exact absurd (congrArg List.length (sends rfl)) (Nat.ne_of_lt less)

/-- Every byte of the buffer is written, whatever the writes report, exactly when items of
several bytes can be copied or cast, and items of one byte can be sliced byte by byte. -/
theorem sendsAll_iff (path : String) (data : MemoryView) :
    SendsAll path data ↔ (data.itemsize ≠ 1 ∧ Castable data) ∨ (data.itemsize = 1 ∧ Sliceable data) := by
  by_cases narrow : data.itemsize = 1
  · simp only [narrow, ne_eq, not_true_eq_false, false_and, true_and, false_or]
    exact ⟨sliceable_of_sendsAll narrow, sendsAll_of_sliceable narrow⟩
  · simp only [narrow, ne_eq, not_false_eq_true, true_and, false_and, or_false]
    exact ⟨castable_of_sendsAll narrow, sendsAll_of_castable narrow⟩

/-- Two rows of two bytes, as `memoryview(b"abcd").cast("B", (2, 2))` has them. -/
def grid : MemoryView := ⟨fun address => BitVec.ofNat 8 (97 + address.toNat), 0, 1, [⟨2, 2⟩, ⟨2, 1⟩]⟩

/-- A first write of two bytes is taken for the whole grid. -/
theorem grid_cut_short : ¬SendsAll "/dev/ttyUSB0" grid := by
  intro sendsAll
  obtain ⟨sends, _⟩ := sendsAll [.accepts 2]
  exact absurd (sends (by decide +kernel)) (by decide +kernel)

end Buffers

end Anyserial
