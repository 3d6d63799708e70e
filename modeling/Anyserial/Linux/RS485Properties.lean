import Anyserial.Linux.LowLatencyProperties
import Anyserial.Posix.TermiosApplyProperties
import Mathlib.Tactic.NormNum

/-! The RS-485 payload round trip, and what applying, reconfiguring and closing
do to the snapshot and to the device. -/
set_option autoImplicit false

namespace Anyserial.Linux

open Kit Posix

/-- A payload of the exact size whose padding is zero. -/
structure ZeroPadded (payload : Bytes) : Prop where
  size : payload.length = serRs485Size
  padding : payload.drop 14 = RS485State.padding

theorem RS485State.fromBytes_of_zeroPadded {payload : Bytes} (padded : ZeroPadded payload) :
    fromBytes payload = .ok (decode payload) := by
  simp only [fromBytes, padded.size, Nat.lt_irrefl, if_false]

theorem RS485State.decode_fits (payload : Bytes) : (decode payload).Fits :=
  ⟨unpackU32_lt _, unpackU32_lt _, unpackU32_lt _, BitVec.isLt _, BitVec.isLt _⟩

/-- Encoding what was decoded gives the payload back, byte for byte. -/
theorem RS485State.toBytes_decode {payload : Bytes} (padded : ZeroPadded payload) :
    (decode payload).toBytes = .ok payload := by
  have size := padded.size
  simp only [serRs485Size] at size
  have addresses : (payload.drop 12).head?.getD 0 :: (payload.drop 13).head?.getD 0 :: payload.drop 14 = payload.drop 12 := by
    have twelve : 12 < payload.length := by omega
    have thirteen : 13 < payload.length := by omega
    rw [List.drop_eq_getElem_cons twelve, List.drop_eq_getElem_cons thirteen]
    rfl
  have eight : (payload.drop 8).take 4 ++ payload.drop 12 = payload.drop 8 := by
    have rest := List.take_append_drop 4 (payload.drop 8)
    rwa [List.drop_drop] at rest
  have four : (payload.drop 4).take 4 ++ payload.drop 8 = payload.drop 4 := by
    have rest := List.take_append_drop 4 (payload.drop 4)
    rwa [List.drop_drop] at rest
  rw [toBytes, if_pos (decode_fits payload)]
  simp only [Except.ok.injEq, decode, BitVec.ofNat_toNat, BitVec.setWidth_eq]
  rw [packU32_unpackU32 (by simp; omega), packU32_unpackU32 (by simp; omega), packU32_unpackU32 (by simp; omega),
    ← padded.padding]
  simp only [List.append_assoc, List.cons_append, List.nil_append, addresses, eight, four, List.take_append_drop]

theorem RS485State.toBytes_zeroPadded {state : RS485State} {payload : Bytes} (packed : state.toBytes = .ok payload) :
    ZeroPadded payload := by
  unfold toBytes at packed
  split at packed
  · cases packed
    exact ⟨rfl, rfl⟩
  · cases packed

/-- Every delay that is accepted fits the field of the struct. -/
theorem secondsToMs_le {seconds : Number} {ms : Nat} (accepted : secondsToMs seconds = .ok ms) :
    ms ≤ delayMsMax := by
  unfold secondsToMs at accepted
  split at accepted
  · cases accepted
    exact Nat.zero_le _
  · cases rounded : roundNumber (seconds.scale 1000) with
    | error exc => simp [rounded, bind, Except.bind] at accepted
    | ok product =>
      simp only [rounded, bind, Except.bind, pure, Except.pure] at accepted
      split at accepted
      · cases accepted
        exact Nat.zero_le _
      · split at accepted
        · cases accepted
          exact Nat.le_refl _
        · cases accepted
          rename_i small
          omega

theorem RS485State.withFlagsFrom_fits {state merged : RS485State} {config : RS485Config} (fits : state.Fits)
    (accepted : state.withFlagsFrom config = .ok merged) : merged.Fits := by
  unfold withFlagsFrom fromConfig at accepted
  cases before : secondsToMs config.delayBeforeSend with
  | error exc => simp [before, bind, Except.bind] at accepted
  | ok beforeMs =>
    cases after : secondsToMs config.delayAfterSend with
    | error exc => simp [before, after, bind, Except.bind] at accepted
    | ok afterMs =>
      simp only [before, after, bind, Except.bind, pure, Except.pure, Except.ok.injEq] at accepted
      subst accepted
      have beforeSmall : beforeMs < 2 ^ 32 := Nat.lt_succ_of_le (secondsToMs_le before)
      have afterSmall : afterMs < 2 ^ 32 := Nat.lt_succ_of_le (secondsToMs_le after)
      refine ⟨?_, beforeSmall, afterSmall, fits.2.2.2.1, fits.2.2.2.2⟩
      exact Nat.or_lt_two_pow (clearBits_lt fits.1) (Nat.and_lt_two_pow _ (by decide))

variable {state merged : RS485State} {rs485 earlier : RS485Config}

theorem RS485State.decode_toBytes {payload : Bytes} (fits : state.Fits) (packed : state.toBytes = .ok payload) :
    decode payload = state := by
  rw [toBytes, if_pos fits] at packed
  cases packed
  obtain ⟨flags, before, after, recv, dest⟩ := fits
  change RS485State.mk (unpackU32 (packU32 state.flags)) (unpackU32 (packU32 state.delayRtsBeforeSend))
    (unpackU32 (packU32 state.delayRtsAfterSend)) (BitVec.ofNat 8 state.addrRecv).toNat (BitVec.ofNat 8 state.addrDest).toNat = _
  rw [unpackU32_packU32 flags, unpackU32_packU32 before, unpackU32_packU32 after, BitVec.toNat_ofNat, BitVec.toNat_ofNat,
    Nat.mod_eq_of_lt recv, Nat.mod_eq_of_lt dest]

theorem encoded_of_withFlagsFrom (accepted : state.withFlagsFrom rs485 = .ok merged) :
    ∃ encoded, fromConfig rs485 = .ok encoded := by
  cases built : fromConfig rs485 with
  | error exc => simp [RS485State.withFlagsFrom, built, bind, Except.bind] at accepted
  | ok encoded => exact ⟨encoded, rfl⟩

/-- The flags and the delays of an earlier configuration leave no trace. -/
theorem withFlagsFrom_withFlagsFrom (first : state.withFlagsFrom earlier = .ok merged) :
    merged.withFlagsFrom rs485 = state.withFlagsFrom rs485 := by
  obtain ⟨encoded, built⟩ := encoded_of_withFlagsFrom first
  simp only [RS485State.withFlagsFrom, built, bind, Except.bind, pure, Except.pure, Except.ok.injEq] at first
  cases first
  cases rebuilt : fromConfig rs485 with
  | error exc => simp [RS485State.withFlagsFrom, rebuilt, bind, Except.bind]
  | ok final =>
    have within : encoded.flags &&& ownedMask &&& ownedMask = encoded.flags &&& ownedMask := by
      rw [Nat.and_assoc, Nat.and_self]
    have forgotten : clearBits (clearBits state.flags ownedMask ||| (encoded.flags &&& ownedMask)) ownedMask =
        clearBits state.flags ownedMask := by
      simp only [clearBits_eq_assign, assign_or]
      exact assign_clear within
    simp only [RS485State.withFlagsFrom, rebuilt, bind, Except.bind, pure, Except.pure, forgotten]

variable {world : LinuxWorld} {fd : Int}

theorem ends_readRs485 {returned : RS485State → LinuxWorld → Prop} {raised : PyExc → LinuxWorld → Prop}
    (held : world.host.Holds fd) :
    Ends (readRs485 fd) world returned raised ↔
      (∀ err, world.host.faults .tiocgrs485 .probe = some err → raised (.osError err) world) ∧
        (world.host.faults .tiocgrs485 .probe = none →
          (∀ state, RS485State.fromBytes world.host.device.rs485 = .ok state → returned state world) ∧
          (∀ exc, RS485State.fromBytes world.host.device.rs485 = .error exc → raised exc world)) := by
  simp only [readRs485, ends_bind, ends_fcntlCall held, ends_getDevice, ends_liftExcept]

/-- The world after `TIOCSRS485` accepted a payload. -/
def withRs485 (world : LinuxWorld) (payload : Bytes) : LinuxWorld :=
  { world with host := { world.host with device := { world.host.device with rs485 := payload } } }

theorem ends_writeRs485 {state : RS485State} {phase : Phase} {returned : Unit → LinuxWorld → Prop}
    {raised : PyExc → LinuxWorld → Prop} (held : world.host.Holds fd) :
    Ends (writeRs485 fd state phase) world returned raised ↔
      (∀ payload, state.toBytes = .ok payload →
        (∀ err, world.host.faults .tiocsrs485 phase = some err → raised (.osError err) world) ∧
          (world.host.faults .tiocsrs485 phase = none → returned () (withRs485 world payload))) ∧
        (∀ exc, state.toBytes = .error exc → raised exc world) := by
  simp only [writeRs485, ends_bind, ends_fcntlCall held, ends_liftExcept, ends_modifyDevice]
  rfl

/-- Giving the snapshot back would leave `payload`; without one the device shows it. -/
structure OwesRs485 (payload : Bytes) (world : LinuxWorld) : Prop where
  saved : ∀ state, world.backend.slots.savedRs485 = some state → state.toBytes = .ok payload
  unsaved : world.backend.slots.savedRs485 = none → world.host.device.rs485 = payload
  padded : ZeroPadded world.host.device.rs485

/-- The snapshot fits the struct it goes back into. -/
def SavedFits (world : LinuxWorld) : Prop :=
  ∀ state, world.backend.slots.savedRs485 = some state → state.Fits

theorem RS485State.Fits.toBytes_ok {state : RS485State} (fits : state.Fits) : ∃ payload, state.toBytes = .ok payload :=
  ⟨_, if_pos fits⟩

theorem RS485State.Fits.toBytes_ne_error {state : RS485State} {exc : PyExc} (fits : state.Fits) :
    state.toBytes ≠ .error exc := by
  rw [toBytes, if_pos fits]
  nofun

/-- An invariant of the RS-485 steps: what holds after them of the snapshot they find. -/
def KeepsSnapshot (before after : LinuxWorld) : Prop :=
  (SavedFits before → SavedFits after) ∧ ∀ payload, OwesRs485 payload before → OwesRs485 payload after

theorem KeepsSnapshot.of_same {before after : LinuxWorld}
    (slot : after.backend.slots.savedRs485 = before.backend.slots.savedRs485)
    (device : after.host.device.rs485 = before.host.device.rs485) : KeepsSnapshot before after :=
  ⟨fun fits state saved => fits state (slot ▸ saved), fun _ owes =>
    ⟨fun state saved => owes.saved state (slot ▸ saved), fun unsaved => device.trans (owes.unsaved (slot ▸ unsaved)),
      device ▸ owes.padded⟩⟩

theorem KeepsSnapshot.trans {before middle after : LinuxWorld} (first : KeepsSnapshot before middle)
    (second : KeepsSnapshot middle after) : KeepsSnapshot before after :=
  ⟨fun fits => second.1 (first.1 fits), fun payload owes => second.2 payload (first.2 payload owes)⟩

/-- The world after the first successful read: the snapshot is taken if there is none. -/
def withSnapshot (world : LinuxWorld) (current : RS485State) : LinuxWorld :=
  { world with
    backend := { world.backend with slots :=
      { world.backend.slots with savedRs485 := world.backend.slots.savedRs485.or (some current) } } }

theorem withSnapshot_keeps {current : RS485State}
    (read : RS485State.fromBytes world.host.device.rs485 = .ok current) :
    KeepsSnapshot world (withSnapshot world current) := by
  have decoded : current = RS485State.decode world.host.device.rs485 := by
    unfold RS485State.fromBytes at read
    split at read
    · cases read
    · exact (Except.ok.inj read).symm
  cases saved : world.backend.slots.savedRs485 with
  | some state => exact .of_same (by simp [withSnapshot, saved]) rfl
  | none =>
    have taken : (withSnapshot world current).backend.slots.savedRs485 = some current := by simp [withSnapshot, saved]
    refine ⟨fun _ state found => ?_, fun payload owes => ⟨fun state found => ?_, fun unsaved => ?_, owes.padded⟩⟩
    · rw [taken] at found
      cases found
      rw [decoded]
      exact RS485State.decode_fits _
    · rw [taken] at found
      cases found
      rw [decoded, RS485State.toBytes_decode owes.padded, owes.unsaved saved]
    · rw [taken] at unsaved
      cases unsaved

private theorem withRs485_keeps {before : LinuxWorld} {current state : RS485State} {payload : Bytes}
    (kept : KeepsSnapshot before (withSnapshot world current)) (packed : state.toBytes = .ok payload) :
    KeepsSnapshot before (withRs485 (withSnapshot world current) payload) := by
  have held : (withSnapshot world current).backend.slots.savedRs485 ≠ none := by
    cases saved : world.backend.slots.savedRs485 <;> simp [withSnapshot, saved]
  exact ⟨kept.1, fun target owes => ⟨(kept.2 target owes).saved, fun unsaved => absurd unsaved held,
    RS485State.toBytes_zeroPadded packed⟩⟩

/-- However an apply ends, the snapshot still leads back to where it led before. -/
theorem applyRs485_keeps {config : RS485Config} {policy : UnsupportedPolicy}
    (held : world.host.Holds world.backend.fd) :
    Ends (applyRs485 config policy) world (fun _ after => KeepsSnapshot world after)
      (fun _ after => KeepsSnapshot world after) := by
  have same : KeepsSnapshot world world := .of_same rfl rfl
  simp only [applyRs485, ends_bind, ends_getBackend, ends_exceptOSError, ends_map, ends_readRs485 held]
  refine ⟨fun err _ => ⟨fun _ => ?_, fun _ => same⟩, fun _ => ⟨fun current read => ?_, fun exc _ => ⟨fun _ => ?_, fun _ => same⟩⟩⟩
  · rw [ends_handleUnsupported]
    exact ⟨fun _ => same, fun _ => .of_same rfl rfl, fun _ => same⟩
  · have kept := withSnapshot_keeps read
    have heldAfter : (withSnapshot world current).host.Holds world.backend.fd := held
    simp only [ends_modifySlots, ends_liftExcept]
    refine ⟨fun merged _ => ?_, fun _ _ => kept⟩
    refine (ends_writeRs485 heldAfter).mpr ⟨fun payload packed => ⟨fun err _ => ⟨fun _ => ?_, fun _ => kept⟩, fun _ => ?_⟩,
      fun exc _ => ⟨fun _ => ?_, fun _ => kept⟩⟩
    · rw [ends_handleUnsupported]
      exact ⟨fun _ => kept, fun _ => kept.trans (.of_same rfl rfl), fun _ => kept⟩
    · exact withRs485_keeps kept packed
    · rw [ends_handleUnsupported]
      exact ⟨fun _ => kept, fun _ => kept.trans (.of_same rfl rfl), fun _ => kept⟩
  · rw [ends_handleUnsupported]
    exact ⟨fun _ => same, fun _ => .of_same rfl rfl, fun _ => same⟩

/-- Giving the snapshot back never raises while the descriptor is held, and empties the slot. -/
theorem restoreRs485_spec (held : world.host.Holds fd) (fits : SavedFits world) :
    Ends (restoreRs485 fd) world
      (fun _ after => after.backend.slots.savedRs485 = none ∧
        (world.host.faults .tiocsrs485 .restore = none → ∀ payload, OwesRs485 payload world →
          after.host.device.rs485 = payload))
      (fun _ _ => False) := by
  simp only [restoreRs485, ends_bind, ends_getBackend]
  cases saved : world.backend.slots.savedRs485 with
  | none => exact ⟨saved, fun _ _ owes => owes.unsaved saved⟩
  | some state =>
    have heldAfter : { world with backend := { world.backend with slots :=
        { world.backend.slots with savedRs485 := none } } }.host.Holds fd := held
    simp only [ends_bind, ends_modifySlots, ends_suppressOSError, ends_writeRs485 heldAfter]
    refine ⟨fun payload packed => ⟨fun err refused => ⟨fun _ => ?_, by simp [PyExc.isOSError]⟩, fun _ => ?_⟩, fun exc broken => ?_⟩
    · exact ⟨trivial, fun accepted => absurd refused (by simp [accepted])⟩
    · refine ⟨rfl, fun _ target owes => ?_⟩
      exact Except.ok.inj (packed.symm.trans (owes.saved state saved))
    · exact absurd broken (fits state saved).toBytes_ne_error

end Anyserial.Linux
