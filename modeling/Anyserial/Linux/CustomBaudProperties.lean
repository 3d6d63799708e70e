import Anyserial.Linux.TermiosProperties
import Anyserial.Posix.CommitProperties
import Anyserial.Posix.PipelineProperties

/-! The two paths to the terminal on Linux leave the same attributes: `TCSETS2` with
`BOTHER` differs from `tcsetattr` in the speeds and in the baud slot only. -/
set_option autoImplicit false

namespace Anyserial.Linux

open Kit Posix

/-- What the kernel reads out of a packed `struct termios2`. -/
def Termios2Attrs.toKernel (attrs : Termios2Attrs) : KernelTermios where
  iflag := BitVec.ofNat 32 attrs.iflag
  oflag := BitVec.ofNat 32 attrs.oflag
  cflag := BitVec.ofNat 32 attrs.cflag
  lflag := BitVec.ofNat 32 attrs.lflag
  line := BitVec.ofNat 8 attrs.line
  cc := Vector.ofFn fun index => (attrs.cc[index.val]?).getD 0
  ispeed := BitVec.ofNat 32 attrs.ispeed
  ospeed := BitVec.ofNat 32 attrs.ospeed

theorem ofPayload_pack {attrs : Termios2Attrs} {payload : Bytes} (packed : attrs.pack = .ok payload)
    (size : attrs.cc.length = nccs2) : KernelTermios.ofPayload payload = attrs.toKernel := by
  by_cases fits : attrs.Fits
  · rw [Termios2Attrs.pack, if_pos fits, List.take_left' size] at packed
    cases packed
    obtain ⟨iflag, oflag, cflag, lflag, _, ispeed, ospeed⟩ := fits
    let speeds := packU32 attrs.ispeed ++ packU32 attrs.ospeed
    let payload := packU32 attrs.iflag ++ packU32 attrs.oflag ++ packU32 attrs.cflag ++ packU32 attrs.lflag ++
      [BitVec.ofNat 8 attrs.line] ++ attrs.cc ++ packU32 attrs.ispeed ++ packU32 attrs.ospeed
    have tail : payload.drop 17 = attrs.cc ++ speeds := List.append_assoc ..
    have after : payload.drop 36 = speeds := by
      rw [show 36 = 17 + nccs2 from rfl, ← List.drop_drop, tail, List.drop_left' size]
    have words : ∀ value, value < 2 ^ 32 → BitVec.ofNat 32 (unpackU32 (packU32 value)) = BitVec.ofNat 32 value :=
      fun value small => by rw [unpackU32_packU32 small]
    have cc : (Vector.ofFn fun index : Fin nccs2 => (payload[17 + index.val]?).getD 0) =
        Vector.ofFn fun index : Fin nccs2 => (attrs.cc[index.val]?).getD 0 := by
      congr 1
      funext index
      rw [← List.getElem?_drop, tail, List.getElem?_append_left (by rw [size]; exact index.isLt)]
    have first : BitVec.ofNat 32 (unpackU32 ((payload.drop 36).take 4)) = BitVec.ofNat 32 attrs.ispeed := by
      rw [after]
      exact words _ ispeed
    have second : BitVec.ofNat 32 (unpackU32 ((payload.drop 40).take 4)) = BitVec.ofNat 32 attrs.ospeed := by
      rw [show 40 = 36 + 4 from rfl, ← List.drop_drop, after]
      exact words _ ospeed
    change KernelTermios.mk (BitVec.ofNat 32 (unpackU32 (packU32 attrs.iflag)))
      (BitVec.ofNat 32 (unpackU32 (packU32 attrs.oflag))) (BitVec.ofNat 32 (unpackU32 (packU32 attrs.cflag)))
      (BitVec.ofNat 32 (unpackU32 (packU32 attrs.lflag))) _ _ _ _ = _
    rw [words _ iflag, words _ oflag, words _ cflag, words _ lflag, cc, first, second]
    rfl
  · rw [Termios2Attrs.pack, if_neg fits] at packed
    cases packed

/-- The attributes that the builders of the custom path start from. -/
def customStart (termios : KernelTermios) : TermiosAttrs where
  iflag := termios.iflag.toNat
  oflag := termios.oflag.toNat
  cflag := termios.cflag.toNat
  lflag := termios.lflag.toNat
  ispeed := 0
  ospeed := 0
  cc := termios.cc.toList.map fun byte => CcValue.int byte.toNat

/-- The struct that carries the attributes to the kernel. -/
def customTermios2 (termios : KernelTermios) (config : SerialConfig) (attrs : TermiosAttrs) : Termios2Attrs where
  iflag := attrs.iflag
  oflag := attrs.oflag
  cflag := markBother attrs.cflag
  lflag := attrs.lflag
  line := termios.line.toNat
  cc := ccBytes attrs.cc
  ispeed := config.baudrate
  ospeed := config.baudrate

theorem requestedTermios2_eq (termios : KernelTermios) (config : SerialConfig) :
    requestedTermios2 (currentTermios2 termios) config =
      customTermios2 termios config <$> linuxTermios.applyAll (customStart termios) config := by
  rw [requestedTermios2_eq_applyAll]
  change (linuxTermios.applyAll (customStart termios) config >>= fun attrs => pure (customTermios2 termios config attrs)) = _
  cases linuxTermios.applyAll (customStart termios) config with
  | error exc => rfl
  | ok attrs => rfl

theorem length_ccBytes (cc : List CcValue) : (ccBytes cc).length = nccs2 := by
  simp [ccBytes, nccs2]

variable {world : LinuxWorld} {fd : Int} {config : SerialConfig}

/-- The custom path, on any descriptor and at any rate. -/
theorem applyCustomBaudConfig_commits : Ends (applyCustomBaudConfig fd config) world
    (fun _ after => config.baudrate < 2 ^ 32 ∧ linuxTermios.Representable config ∧
      after = withTermios world (customTermios2 world.host.device.termios config
        (linuxTermios.built config (customStart world.host.device.termios))).toKernel)
    (fun _ after => after = world ∧ (world.host.Admits fd .tcgets2 → world.host.Admits fd .tcsets2 →
      config.baudrate < 2 ^ 32 → ¬linuxTermios.Representable config)) := by
  simp only [applyCustomBaudConfig, readTermios2, writeTermios2, Termios2Attrs.unpack_toPayload, ends_bind, ends_getDevice,
    ends_liftExcept, ends_modifyDevice]
  refine ends_fcntlCall_admits (fun read => ⟨fun current same => ?_, by simp⟩) fun refused exc =>
    ⟨rfl, fun read => absurd read refused⟩
  cases same
  rcases TermiosModule.applyAll_rejects linuxTermios (customStart world.host.device.termios) config with
    ⟨fine, _⟩ | ⟨bad, message, rejected⟩
  · have built : requestedTermios2 (currentTermios2 world.host.device.termios) config = .ok (customTermios2
        world.host.device.termios config (linuxTermios.built config (customStart world.host.device.termios))) := by
      rw [requestedTermios2_eq, TermiosModule.applyAll_eq fine]
      rfl
    have fits := requestedTermios2_fits_iff built
    refine ⟨fun updated same => ?_, fun exc failed => absurd (built.symm.trans failed) (by simp)⟩
    cases built.symm.trans same
    refine ⟨fun payload packed => ?_, fun exc tooLarge => ⟨rfl, fun _ _ rate => ?_⟩⟩
    · have rate : config.baudrate < 2 ^ 32 := by
        refine fits.mp (Decidable.byContradiction fun wide => ?_)
        rw [Termios2Attrs.pack, if_neg wide] at packed
        cases packed
      rw [ofPayload_pack packed (length_ccBytes _)]
      exact ends_fcntlCall_admits (fun _ => ⟨rate, fine, rfl⟩) fun refused exc => ⟨rfl, fun _ written => absurd written refused⟩
    · obtain ⟨payload, packed⟩ := Termios2Attrs.pack_fits (fits.mpr rate)
      cases packed.symm.trans tooLarge
  · have failed : requestedTermios2 (currentTermios2 world.host.device.termios) config =
        .error (unsupportedFeature message) := by
      rw [requestedTermios2_eq, rejected]
      rfl
    exact ⟨fun updated same => absurd (failed.symm.trans same) (by simp), fun exc _ => ⟨rfl, fun _ _ _ => bad⟩⟩

/-- The attributes of the kernel agree in all but the speeds and the baud slot, which
the custom path leaves at `BOTHER`; the rest of the device is untouched. -/
structure SameButRate (prior committed after : Device) : Prop where
  iflag : after.termios.iflag = committed.termios.iflag
  oflag : after.termios.oflag = committed.termios.oflag
  cflag : clearBits after.termios.cflag.toNat cbaud = clearBits committed.termios.cflag.toNat cbaud
  slot : after.termios.cflag.toNat &&& cbaud = bother
  lflag : after.termios.lflag = committed.termios.lflag
  line : after.termios.line = committed.termios.line
  cc : after.termios.cc = committed.termios.cc
  rest : { after with termios := prior.termios } = prior ∧ { committed with termios := prior.termios } = prior

/-- The control characters that either path writes: those of the device but `VMIN` and `VTIME`. -/
def committedByte (termios : KernelTermios) (index : Fin nccs2) : Byte :=
  if index.val = linuxTermios.vtime then 0
  else if index.val = linuxTermios.vmin then 1
  else termios.cc.get index

theorem length_ccList (termios : KernelTermios) : (ccList termios).length = nccs := by
  unfold ccList
  split <;> simp [nccs, nccs2]

theorem ccList_other (termios : KernelTermios) {index : Fin nccs2} (notVmin : index.val ≠ linuxTermios.vmin)
    (notVtime : index.val ≠ linuxTermios.vtime) :
    (ccList termios)[index.val]? = some (.bytes [termios.cc.get index]) := by
  have inside : index.val < 19 := index.isLt
  have read : ((termios.cc.toList ++ List.replicate (nccs - nccs2) 0).map fun byte => CcValue.bytes [byte])[index.val]? =
      some (.bytes [termios.cc.get index]) := by
    rw [List.getElem?_map, List.getElem?_append_left (by simp [nccs2, inside])]
    simp [nccs2, inside, Vector.get]
  unfold ccList
  split
  · rw [List.getElem?_set_ne notVtime.symm, List.getElem?_set_ne notVmin.symm]
    exact read
  · exact read

/-- Once raw mode has set its two slots, every byte is decided by the rest of the list. -/
theorem committed_slots {termios : KernelTermios} {cc : List CcValue} (long : nccs2 ≤ cc.length) (index : Fin nccs2)
    (others : index.val ≠ linuxTermios.vmin → index.val ≠ linuxTermios.vtime →
      (cc[index.val]?).map CcValue.toByte = some (termios.cc.get index)) :
    ((((cc.set linuxTermios.vmin (.int 1)).set linuxTermios.vtime (.int 0))[index.val]?).map CcValue.toByte).getD 0 =
      committedByte termios index := by
  have inside : index.val < cc.length := Nat.lt_of_lt_of_le index.isLt long
  unfold committedByte
  by_cases isVtime : index.val = linuxTermios.vtime
  · have room : linuxTermios.vtime < cc.length := isVtime ▸ inside
    simp [isVtime, room, CcValue.toByte]
  · by_cases isVmin : index.val = linuxTermios.vmin
    · have room : linuxTermios.vmin < cc.length := isVmin ▸ inside
      have differ : linuxTermios.vtime ≠ linuxTermios.vmin := by decide
      simp [isVmin, differ, differ.symm, room, CcValue.toByte]
    · rw [List.getElem?_set_ne (Ne.symm isVtime), List.getElem?_set_ne (Ne.symm isVmin), others isVmin isVtime]
      simp [isVtime, isVmin]

theorem ccBytes_read {cc : List CcValue} (long : nccs2 ≤ cc.length) (index : Fin nccs2) :
    (ccBytes cc)[index.val]? = (cc[index.val]?).map CcValue.toByte := by
  have room : index.val < ((cc.take nccs2).map CcValue.toByte).length := by
    rw [List.length_map, List.length_take, Nat.min_eq_left long]
    exact index.isLt
  rw [ccBytes, List.getElem?_append_left room, List.getElem?_map, List.getElem?_take_of_lt index.isLt]

theorem committed_custom (termios : KernelTermios) (index : Fin nccs2) :
    ((ccBytes (linuxTermios.built config (customStart termios)).cc)[index.val]?).getD 0 = committedByte termios index := by
  have long : nccs2 ≤ (customStart termios).cc.length := by simp [customStart]
  rw [ccBytes_read (by simpa [TermiosModule.built] using long)]
  apply committed_slots long
  intro _ _
  simp [customStart, CcValue.toByte, Vector.get]

theorem committed_standard (device : Device) (speed : Nat) (index : Fin nccs2) :
    (((linuxTermios.built config { TermiosDevice.tcgetattr device with ispeed := speed, ospeed := speed }).cc[index.val]?).map
      CcValue.toByte).getD 0 = committedByte device.termios index := by
  apply committed_slots
  · have long : (ccList device.termios).length = nccs := length_ccList _
    exact Nat.le_trans (by decide) (Nat.le_of_eq long.symm)
  · intro notVmin notVtime
    have read : ((TermiosDevice.tcgetattr device).cc)[index.val]? = _ := ccList_other device.termios notVmin notVtime
    rw [read]
    rfl

theorem markBother_eq (cflag : Nat) : markBother cflag = assign cflag cbaud bother := rfl

theorem speed_within {rate speed : Nat} (known : linuxTermios.baudrateToSpeed rate = .ok speed) :
    speed &&& cbaud = speed ∧ speed < 2 ^ 32 := by
  have table : ∀ entry ∈ linuxTermios.standardBaudRates, entry.2 &&& cbaud = entry.2 ∧ entry.2 < 2 ^ 32 := by decide
  cases found : linuxTermios.standardBaudRates.lookup rate with
  | none => simp [TermiosModule.baudrateToSpeed, found] at known
  | some code =>
    obtain ⟨first, last, split, _⟩ := List.lookup_eq_some_iff.mp found
    simp only [TermiosModule.baudrateToSpeed, found] at known
    cases known
    exact table (rate, speed) (by simp [split])

/-- The two commits from one device. -/
theorem sameButRate {rate speed : Nat} {positive : 0 < rate} (known : linuxTermios.baudrateToSpeed rate = .ok speed)
    (fine : linuxTermios.Representable config) (device : Device) : SameButRate device
      (TermiosDevice.tcsetattr (linuxTermios.built (atRate config rate positive)
        { TermiosDevice.tcgetattr device with ispeed := speed, ospeed := speed }) device)
      { device with termios := (customTermios2 device.termios config
        (linuxTermios.built config (customStart device.termios))).toKernel } := by
  obtain ⟨within, small⟩ := speed_within known
  let cflag := assignAll (linuxTermios.controlWrites config) device.termios.cflag.toNat
  have masks : ∀ mask ∈ linuxTermios.settable, mask < 2 ^ 32 := by decide
  have start : (customStart device.termios).WordsFit 32 :=
    ⟨BitVec.isLt _, BitVec.isLt _, BitVec.isLt _, BitVec.isLt _⟩
  have fits : cflag < 2 ^ 32 :=
    ((TermiosModule.applyAll_builds (TermiosModule.applyAll_eq fine)).wordsFit 32 masks start).cflag
  have both : ∀ value, value &&& cbaud = value → value < 2 ^ 32 →
      (BitVec.ofNat 32 (assign cflag cbaud value)).toNat = assign cflag cbaud value := by
    intro value _ small
    rw [BitVec.toNat_ofNat]
    exact Nat.mod_eq_of_lt (Nat.or_lt_two_pow (clearBits_lt fits) small)
  have bothers : bother &&& cbaud = bother ∧ bother < 2 ^ 32 := by decide
  constructor
  case iflag | oflag | lflag => rfl
  case line => exact BitVec.ofNat_toNat ..
  case cflag =>
    change clearBits (BitVec.ofNat 32 (assign cflag cbaud bother)).toNat cbaud =
      clearBits (BitVec.ofNat 32 (assign cflag cbaud speed)).toNat cbaud
    rw [both bother bothers.1 bothers.2, both speed within small, clearBits_eq_assign, clearBits_eq_assign,
      assign_clear bothers.1, assign_clear within]
  case slot =>
    change (BitVec.ofNat 32 (assign cflag cbaud bother)).toNat &&& cbaud = bother
    rw [both bother bothers.1 bothers.2, assign_and_within (Nat.and_self _), bothers.1]
  case cc =>
    change Vector.ofFn _ = Vector.ofFn _
    congr 1
    funext index
    exact (committed_custom device.termios index).trans (committed_standard device speed index).symm
  case rest => exact ⟨rfl, rfl⟩

end Anyserial.Linux
