import Anyserial.Mock.Backend

/-! What each method of the in-memory backend does to the two inboxes: a read takes from the
front of the own one, a write adds to the end of the peer's. -/
set_option autoImplicit false

namespace Anyserial.Mock

open Kit

variable {side : Side} {pair before middle after : Pair} {removed added : Bytes}

@[simp] theorem edit_ends (pair : Pair) (side : Side) (change : MockState → MockState) :
    (pair.edit side change).ends side = change (pair.ends side) := by
  simp [Pair.edit]

theorem edit_ends_of_ne (pair : Pair) {side other : Side} (different : other ≠ side) (change : MockState → MockState) :
    (pair.edit side change).ends other = pair.ends other := by
  simp [Pair.edit, different]

@[simp] theorem edit_ends_peer (pair : Pair) (side : Side) (change : MockState → MockState) :
    (pair.edit side change).ends side.peer = pair.ends side.peer :=
  edit_ends_of_ne pair side.peer_ne change

@[simp] theorem edit_peer_ends (pair : Pair) (side : Side) (change : MockState → MockState) :
    (pair.edit side.peer change).ends side = pair.ends side :=
  edit_ends_of_ne pair side.ne_peer change

/-- The bytes that left the own inbox and those that entered the peer's. -/
structure Traffic (side : Side) (before after : Pair) (removed added : Bytes) : Prop where
  own : before.inbox side = removed ++ after.inbox side
  peer : after.inbox side.peer = before.inbox side.peer ++ added

theorem Traffic.refl (side : Side) (pair : Pair) : Traffic side pair pair [] [] := ⟨rfl, (List.append_nil _).symm⟩

theorem Traffic.trans {gone more : Bytes} (first : Traffic side before middle removed added)
    (second : Traffic side middle after gone more) : Traffic side before after (removed ++ gone) (added ++ more) := by
  constructor
  · rw [first.own, second.own, List.append_assoc]
  · rw [second.peer, first.peer, List.append_assoc]

/-- A change that is not one of the inboxes. -/
theorem traffic_edit {change : MockState → MockState} (same : (change (pair.ends side)).sock.inbox = pair.inbox side) :
    Traffic side pair (pair.edit side change) [] [] := by
  constructor
  · simp [Pair.inbox, same]
  · simp [Pair.inbox]

def Silent (side : Side) (before after : Pair) : Prop := Traffic side before after [] []

instance : Std.Refl (Silent side) := ⟨Traffic.refl side⟩

instance : IsTrans Pair (Silent side) := ⟨fun _ _ _ first second => Traffic.trans first second⟩

section Socket

theorem silent_recvEmpty : Keeps (Silent side) (recvEmpty side) := by
  intro pair
  simp only [recvEmpty, ends_bind, ends_get, ends_ite, ends_set, ends_throw, ends_pure]
  exact ⟨fun _ => traffic_edit rfl, fun _ => ⟨fun _ => .refl side pair, fun _ => .refl side pair⟩⟩

theorem ends_recvEmpty {raised : PyExc → Pair → Prop} {returned : Bytes → Pair → Prop}
    (onReturn : ∀ after, Silent side pair after → returned [] after)
    (onRaise : ∀ exc after, Silent side pair after → raised exc after) :
    Ends (recvEmpty side) pair returned raised := by
  simp only [recvEmpty, ends_bind, ends_get, ends_ite, ends_set, ends_throw, ends_pure]
  refine ⟨fun _ => onRaise _ _ (traffic_edit rfl), fun _ => ⟨fun _ => onReturn _ (.refl side pair), fun _ => ?_⟩⟩
  exact onRaise _ _ (.refl side pair)

theorem ends_recv {size : Nat} {raised : PyExc → Pair → Prop} {returned : Bytes → Pair → Prop}
    (onReturn : ∀ bytes after, bytes.length ≤ size → Traffic side pair after bytes [] → returned bytes after)
    (onRaise : ∀ exc after, Silent side pair after → raised exc after) :
    Ends (recv side size) pair returned raised := by
  simp only [recv, ends_bind, ends_get, ends_ite, ends_set, ends_throw, ends_pure]
  refine ⟨fun _ => onReturn [] pair (Nat.zero_le _) (.refl side pair), fun _ => ⟨fun _ => onRaise _ _ (.refl side pair),
    fun _ => ⟨fun _ => ?_, fun _ => ?_⟩⟩⟩
  · exact ends_recvEmpty (fun after silent => onReturn [] after (Nat.zero_le _) silent) onRaise
  · refine onReturn _ _ (List.length_take_le _ _) ⟨?_, ?_⟩
    · simp [Pair.inbox, MockState.setInbox, MockState.setSock]
    · simp [Pair.inbox]

theorem ends_sendSocket {data : Bytes} {raised : PyExc → Pair → Prop} {returned : Int → Pair → Prop}
    (onReturn : ∀ count after, Traffic side pair after [] (data.take count) → count ≤ data.length → returned count after)
    (onRaise : ∀ exc after, Silent side pair after → raised exc after) :
    Ends (sendSocket side data) pair returned raised := by
  simp only [sendSocket, ends_bind, ends_get, ends_ite, ends_set, ends_throw, ends_pure]
  have refused : ∀ exc, raised exc pair := fun exc => onRaise exc pair (.refl side pair)
  refine ⟨fun _ => refused _, fun _ => ⟨fun _ => refused _, fun _ => ⟨fun _ => refused _, fun _ => ?_⟩⟩⟩
  refine onReturn _ _ ⟨?_, ?_⟩ (List.length_take_le' _ _)
  · simp [Pair.inbox]
  · simp [Pair.inbox, MockState.setInbox, MockState.setSock]

theorem traffic_closeSocket (pair : Pair) (side : Side) :
    Traffic side pair (pair.closeSocket side) (pair.inbox side) [] := by
  constructor
  · simp [Pair.closeSocket, Pair.inbox, MockState.setSock]
  · simp [Pair.closeSocket, Pair.inbox, MockState.setSock]

end Socket

section Methods

theorem offered_prefix (faults : FaultPlan) (data : Bytes) : faults.offered data <+: data := by
  unfold FaultPlan.offered
  cases faults.shortWriteMax with
  | none => exact List.prefix_refl data
  | some maximum =>
    dsimp only [sliceTo]
    split
    · exact List.take_prefix _ _
    · exact List.take_prefix _ _

theorem ends_readNonblocking {buffer : ReadBuffer} {raised : PyExc → Pair → Prop} {returned : Bytes → Pair → Prop}
    (onReturn : ∀ bytes after, bytes.length ≤ buffer.nbytes → Traffic side pair after bytes [] → returned bytes after)
    (onRaise : ∀ exc after, Silent side pair after → raised exc after) :
    Ends (readNonblocking side buffer) pair returned raised := by
  simp only [readNonblocking, editFaults, ends_bind, ends_get, ends_ite, ends_modify, ends_throw, ends_pure]
  have injected : ∀ exc (plan : MockState → FaultPlan), raised exc (pair.edit side fun state => state.setFaults (plan state)) :=
    fun exc plan => onRaise exc _ (traffic_edit rfl)
  refine ⟨fun _ => injected _ _, fun _ => ⟨fun _ => injected _ _, fun _ => ⟨fun _ => ?_, fun _ =>
    ⟨fun _ => injected _ _, fun _ => ⟨fun _ => injected _ _, fun _ => ⟨fun _ => ends_recv onReturn onRaise, fun _ => ?_⟩⟩⟩⟩⟩⟩
  · exact onReturn [] pair (Nat.zero_le _) (.refl side pair)
  · exact onRaise _ pair (.refl side pair)

theorem ends_writeNonblocking {data : Bytes} {raised : PyExc → Pair → Prop} {returned : Int → Pair → Prop}
    (onReturn : ∀ count after, Traffic side pair after [] (data.take count) → count ≤ data.length → returned count after)
    (onRaise : ∀ exc after, Silent side pair after → raised exc after) :
    Ends (writeNonblocking side data) pair returned raised := by
  simp only [writeNonblocking, editFaults, ends_bind, ends_get, ends_ite, ends_modify, ends_throw, ends_pure]
  have injected : ∀ exc (plan : MockState → FaultPlan), raised exc (pair.edit side fun state => state.setFaults (plan state)) :=
    fun exc plan => onRaise exc _ (traffic_edit rfl)
  refine ⟨fun _ => onRaise _ _ (.refl side pair), fun _ => ⟨fun _ => injected _ _, fun _ => ⟨fun _ => injected _ _,
    fun _ => ⟨fun _ => ?_, fun _ => ?_⟩⟩⟩⟩
  · exact onReturn 0 pair (.refl side pair) (Nat.zero_le _)
  · have lead := offered_prefix (pair.ends side).faults data
    refine ends_sendSocket (fun count after traffic short => ?_) onRaise
    have same : ((pair.ends side).faults.offered data).take count = data.take count := by
      rw [List.prefix_iff_eq_take.mp lead, List.take_take, Nat.min_eq_left short]
    exact onReturn count after (same ▸ traffic) (le_trans short lead.length_le)

theorem backend_honest (side : Side) : (backend side).Honest := by
  constructor
  · intro buffer bytes before after ran
    have ends : Ends (readNonblocking side buffer) before (fun bytes _ => bytes.length ≤ buffer.nbytes) fun _ _ => True :=
      ends_readNonblocking (fun _ _ short _ => short) fun _ _ _ => trivial
    exact (ends_iff.mp ends).1 bytes after ran
  · intro data count before after ran
    have ends : Ends (writeNonblocking side data) before (fun count _ => count ≤ data.length) fun _ _ => True :=
      ends_writeNonblocking (fun _ _ _ short => by exact_mod_cast short) fun _ _ _ => trivial
    exact (ends_iff.mp ends).1 count after ran

/-- Bytes are dropped from the own inbox, and the peer's is as it was. -/
def Discards (side : Side) (before after : Pair) : Prop := ∃ removed, Traffic side before after removed []

instance : Std.Refl (Discards side) := ⟨fun pair => ⟨[], .refl side pair⟩⟩

instance : IsTrans Pair (Discards side) := by
  constructor
  intro before middle after first second
  obtain ⟨removed, first⟩ := first
  obtain ⟨gone, second⟩ := second
  exact ⟨removed ++ gone, first.trans second⟩

theorem discards_recv {size : Nat} : Keeps (Discards side) (recv side size) :=
  fun _ => ends_recv (fun bytes _ _ traffic => ⟨bytes, traffic⟩) fun _ _ silent => ⟨[], silent⟩

theorem discards_drainInput (passes : Nat) : Keeps (Discards side) (drainInput side passes) := by
  induction passes with
  | zero => exact .pure ()
  | succ passes ih => exact discards_recv.bind fun _ => .ite (fun _ => .pure ()) fun _ => ih

theorem discards_resetInputBuffer : Keeps (Discards side) (resetInputBuffer side) :=
  Keeps.get.bind fun _ => (discards_drainInput _).tryCatch fun _ => .ite (fun _ => .pure ()) fun _ => .throw _

theorem discards_close : Keeps (Discards side) (close side) := by
  refine .modify fun pair => ?_
  have marked : Traffic side pair (pair.edit side fun state => { state with isOpen := false }) [] [] := traffic_edit rfl
  dsimp only
  split
  · exact ⟨[], marked⟩
  · exact ⟨_, marked.trans (traffic_closeSocket _ side)⟩

theorem silent_inputWaiting : Keeps (Silent side) (inputWaiting side) := by
  have looked : Keeps (Silent side) (peek side 65536) := by
    intro pair
    simp only [peek, ends_bind, ends_get, ends_ite, ends_throw, ends_pure]
    have same : Silent side pair pair := .refl side pair
    exact ⟨fun _ => same, fun _ => ⟨fun _ => silent_recvEmpty pair, fun _ => same⟩⟩
  exact (looked.bind fun _ => .pure _).tryCatch fun _ => .ite (fun _ => .pure _) fun _ => .throw _

end Methods

end Anyserial.Mock
