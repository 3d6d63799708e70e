import Anyserial.Linux.CustomBaudProperties

/-! The payload of `TCGETS2` and `TCSETS2`: the codec, and what the custom-rate path
makes of any payload it reads. -/
set_option autoImplicit false

namespace Anyserial.Linux

open Kit Posix

variable {buf written : Bytes} {attrs : Termios2Attrs} {config : SerialConfig}

section Codec

/-- A payload of the exact size is what the kernel copies out for some attributes. -/
theorem Termios2Attrs.unpack_ofPayload (size : buf.length = termios2Size) :
    unpack buf = .ok (currentTermios2 (.ofPayload buf)) := by
  have word : ∀ bytes : Bytes, (BitVec.ofNat 32 (unpackU32 bytes)).toNat = unpackU32 bytes := fun bytes => by
    rw [BitVec.toNat_ofNat]
    exact Nat.mod_eq_of_lt (unpackU32_lt bytes)
  have cc : (buf.drop 17).take nccs2 = (KernelTermios.ofPayload buf).cc.toList := by
    have whole : buf.length = 44 := size
    apply List.ext_getElem
    · simp [whole, nccs2]
    · intro index inside _
      simp only [List.length_take, List.length_drop, whole] at inside
      have present : 17 + index < buf.length := by omega
      simp [KernelTermios.ofPayload, present]
  rw [unpack, if_neg (by simp [size])]
  simp only [currentTermios2, cc]
  simp only [KernelTermios.ofPayload, word]

theorem currentTermios2_fits (termios : KernelTermios) : (currentTermios2 termios).Fits :=
  ⟨BitVec.isLt _, BitVec.isLt _, BitVec.isLt _, BitVec.isLt _, BitVec.isLt _, BitVec.isLt _, BitVec.isLt _⟩

theorem take_drop_append (bytes : Bytes) (start count : Nat) :
    (bytes.drop start).take count ++ bytes.drop (start + count) = bytes.drop start := by
  have whole := List.take_append_drop count (bytes.drop start)
  rwa [List.drop_drop] at whole

/-- Packing what was unpacked gives the payload back. -/
theorem Termios2Attrs.pack_of_unpack (unpacked : unpack buf = .ok attrs) : attrs.pack = .ok buf := by
  by_cases size : buf.length = termios2Size
  · have whole : buf.length = 44 := size
    have fits : attrs.Fits := by
      rw [unpack_ofPayload size] at unpacked
      cases unpacked
      exact currentTermios2_fits _
    rw [unpack, if_neg (by simp [size])] at unpacked
    cases unpacked
    have line : (buf.drop 16).head?.getD 0 :: buf.drop 17 = buf.drop 16 := by
      have inside : 16 < buf.length := by omega
      rw [List.drop_eq_getElem_cons inside]
      rfl
    have last : (buf.drop 40).take 4 = buf.drop 40 := List.take_of_length_le (by simp [whole])
    have cc : ((buf.drop 17).take nccs2).length = nccs2 := by simp [whole, nccs2]
    have ispeed : (buf.drop 36).take 4 ++ buf.drop 40 = buf.drop 36 := take_drop_append ..
    have chars : (buf.drop 17).take nccs2 ++ buf.drop 36 = buf.drop 17 := take_drop_append ..
    have lflag : (buf.drop 12).take 4 ++ buf.drop 16 = buf.drop 12 := take_drop_append ..
    have cflag : (buf.drop 8).take 4 ++ buf.drop 12 = buf.drop 8 := take_drop_append ..
    have oflag : (buf.drop 4).take 4 ++ buf.drop 8 = buf.drop 4 := take_drop_append ..
    rw [pack, if_pos fits]
    simp only [Except.ok.injEq, BitVec.ofNat_toNat, BitVec.setWidth_eq]
    rw [packU32_unpackU32 (by simp [whole]), packU32_unpackU32 (by simp [whole]), packU32_unpackU32 (by simp [whole]),
      packU32_unpackU32 (by simp [whole]), packU32_unpackU32 (by simp [whole]), packU32_unpackU32 (by simp [whole]),
      List.take_left' cc, last]
    simp only [List.append_assoc, List.cons_append, List.nil_append, ispeed, chars, line, lflag, cflag, oflag,
      List.take_append_drop]
  · rw [unpack, if_pos size] at unpacked
    cases unpacked

theorem Termios2Attrs.length_of_pack (packed : attrs.pack = .ok buf) : buf.length = termios2Size := by
  by_cases fits : attrs.Fits
  · rw [pack, if_pos fits] at packed
    cases packed
    simp [termios2Size, nccs2]
  · rw [pack, if_neg fits] at packed
    cases packed

theorem currentTermios2_toKernel (fits : attrs.Fits) (size : attrs.cc.length = nccs2) :
    currentTermios2 attrs.toKernel = attrs := by
  obtain ⟨iflag, oflag, cflag, lflag, line, ispeed, ospeed⟩ := fits
  have cc : (Termios2Attrs.toKernel attrs).cc.toList = attrs.cc := by
    apply List.ext_getElem
    · simp [size]
    · intro index inside present
      simp [Termios2Attrs.toKernel, present]
  simp only [currentTermios2, cc]
  simp only [Termios2Attrs.toKernel, BitVec.toNat_ofNat, Nat.mod_eq_of_lt iflag, Nat.mod_eq_of_lt oflag,
    Nat.mod_eq_of_lt cflag, Nat.mod_eq_of_lt lflag, Nat.mod_eq_of_lt line, Nat.mod_eq_of_lt ispeed, Nat.mod_eq_of_lt ospeed]

/-- Unpacking what was packed gives the attributes back. -/
theorem Termios2Attrs.unpack_of_pack (fits : attrs.Fits) (size : attrs.cc.length = nccs2) (packed : attrs.pack = .ok buf) :
    unpack buf = .ok attrs := by
  rw [unpack_ofPayload (length_of_pack packed), ofPayload_pack packed size, currentTermios2_toKernel fits size]

end Codec

section Overlay

variable {before after : Termios2Attrs}

/-- The payload that the custom path hands to `TCSETS2`. -/
def customOverlay (buf : Bytes) (config : SerialConfig) : Except PyExc Bytes := do
  let current ← Termios2Attrs.unpack buf
  let updated ← requestedTermios2 current config
  updated.pack

/-- The rate of the configuration is in force, and all that no builder owns is as before. -/
structure CustomOverlays (config : SerialConfig) (before after : Termios2Attrs) : Prop where
  ispeed : after.ispeed = config.baudrate
  ospeed : after.ospeed = config.baudrate
  slot : after.cflag &&& cbaud = bother
  line : after.line = before.line
  vmin : after.cc[linuxTermios.vmin]? = some 1
  vtime : after.cc[linuxTermios.vtime]? = some 0
  cc : ∀ index, index ≠ linuxTermios.vmin → index ≠ linuxTermios.vtime → after.cc[index]? = before.cc[index]?
  iflag : clearBits after.iflag linuxTermios.ownedInput = clearBits before.iflag linuxTermios.ownedInput
  oflag : clearBits after.oflag linuxTermios.opost = clearBits before.oflag linuxTermios.opost
  cflag : clearBits after.cflag (linuxTermios.ownedControl ||| cbaud) =
    clearBits before.cflag (linuxTermios.ownedControl ||| cbaud)
  lflag : clearBits after.lflag linuxTermios.localModes = clearBits before.lflag linuxTermios.localModes

/-- Two words that agree once a mask is cleared agree outside it. -/
theorem and_of_clearBits_eq {word other mask field : Nat} (same : clearBits word mask = clearBits other mask)
    (apart : mask &&& field = 0) : word &&& field = other &&& field := by
  rw [clearBits_eq_assign, clearBits_eq_assign] at same
  rw [← assign_and_disjoint (Nat.zero_and mask) apart, same, assign_and_disjoint (Nat.zero_and mask) apart]

theorem clearBits_or (word mask other : Nat) : clearBits word (mask ||| other) = clearBits (clearBits word mask) other := by
  have none : assign 0 other 0 = 0 := by simp [assign]
  simp only [clearBits_eq_assign, assign_assign, none]

theorem ccBytes_written (termios : KernelTermios) (config : SerialConfig) (index : Fin nccs2) :
    (ccBytes (linuxTermios.built config (customStart termios)).cc)[index.val]? = some (committedByte termios index) := by
  have inside : index.val < (ccBytes (linuxTermios.built config (customStart termios)).cc).length := by
    rw [length_ccBytes]
    exact index.isLt
  have read : ((ccBytes (linuxTermios.built config (customStart termios)).cc)[index.val]?).getD 0 = committedByte termios index :=
    committed_custom termios index
  rw [List.getElem?_eq_getElem inside] at read ⊢
  exact congrArg some read

theorem customOverlays (termios : KernelTermios) (config : SerialConfig) :
    CustomOverlays config (currentTermios2 termios)
      (customTermios2 termios config (linuxTermios.built config (customStart termios))) := by
  have outside : linuxTermios.SameOutside (customStart termios) (linuxTermios.built config (customStart termios)) :=
    linuxTermios.built_sameOutside linuxTermios_disjointFields
  have bothers : bother &&& cbaud = bother := by decide
  constructor
  case ispeed | ospeed | line => rfl
  case slot =>
    change markBother _ &&& cbaud = bother
    rw [markBother_eq, assign_and_within (Nat.and_self _), bothers]
  case vmin => exact ccBytes_written termios config ⟨linuxTermios.vmin, by decide⟩
  case vtime => exact ccBytes_written termios config ⟨linuxTermios.vtime, by decide⟩
  case cc =>
    intro index notVmin notVtime
    change (ccBytes _)[index]? = termios.cc.toList[index]?
    by_cases inside : index < nccs2
    · have read := ccBytes_written termios config ⟨index, inside⟩
      simp only [committedByte, notVmin, notVtime, if_false] at read
      rw [read]
      simp [Vector.get, inside]
    · have first : (ccBytes (linuxTermios.built config (customStart termios)).cc).length ≤ index := by
        rw [length_ccBytes]
        omega
      rw [List.getElem?_eq_none first, List.getElem?_eq_none (by simpa using inside)]
  case iflag => exact outside.iflag
  case oflag => exact outside.oflag
  case cflag =>
    have slot : ∀ word, clearBits (markBother word) cbaud = clearBits word cbaud := fun word => by
      rw [markBother_eq, clearBits_eq_assign, clearBits_eq_assign, assign_clear bothers]
    calc clearBits (markBother (linuxTermios.built config (customStart termios)).cflag) (linuxTermios.ownedControl ||| cbaud)
        = clearBits (linuxTermios.built config (customStart termios)).cflag (linuxTermios.ownedControl ||| cbaud) := by
          rw [Nat.or_comm, clearBits_or, slot, ← clearBits_or]
      _ = clearBits (currentTermios2 termios).cflag (linuxTermios.ownedControl ||| cbaud) := by
          rw [clearBits_or, clearBits_or, outside.cflag]
          rfl
  case lflag => exact outside.lflag

theorem requestedTermios2_of_fine (termios : KernelTermios) (fine : linuxTermios.Representable config) :
    requestedTermios2 (currentTermios2 termios) config =
      .ok (customTermios2 termios config (linuxTermios.built config (customStart termios))) := by
  rw [requestedTermios2_eq, TermiosModule.applyAll_eq fine]
  rfl

/-- What is packed for the kernel is what the kernel gives out again. -/
theorem pack_toKernel (fits : attrs.Fits) (size : attrs.cc.length = nccs2) : attrs.pack = .ok attrs.toKernel.toPayload := by
  have packed := Termios2Attrs.pack_of_unpack (Termios2Attrs.unpack_toPayload attrs.toKernel)
  rwa [currentTermios2_toKernel fits size] at packed

theorem customOverlay_eq (termios : KernelTermios) (rate : config.baudrate < 2 ^ 32) (fine : linuxTermios.Representable config)
    (unpacked : Termios2Attrs.unpack buf = .ok (currentTermios2 termios)) :
    let updated := customTermios2 termios config (linuxTermios.built config (customStart termios))
    updated.Fits ∧ customOverlay buf config = .ok updated.toKernel.toPayload := by
  intro updated
  have built := requestedTermios2_of_fine termios fine
  have fits : updated.Fits := (requestedTermios2_fits_iff built).mpr rate
  have packed : updated.pack = .ok updated.toKernel.toPayload := pack_toKernel fits (length_ccBytes _)
  refine ⟨fits, ?_⟩
  simp only [customOverlay, unpacked, built, bind, Except.bind]
  exact packed

/-- The two directions of the codec. -/
structure Termios2Codec : Prop where
  decodes : ∀ buf : Bytes, buf.length = termios2Size → (Termios2Attrs.unpack buf >>= Termios2Attrs.pack) = .ok buf
  encodes : ∀ attrs : Termios2Attrs, attrs.Fits → attrs.cc.length = nccs2 → (attrs.pack >>= Termios2Attrs.unpack) = .ok attrs

theorem termios2Codec : Termios2Codec := by
  constructor
  case decodes =>
    intro buf size
    have unpacked := Termios2Attrs.unpack_ofPayload size
    rw [unpacked]
    exact Termios2Attrs.pack_of_unpack unpacked
  case encodes =>
    intro attrs fits size
    obtain ⟨payload, packed⟩ := Termios2Attrs.pack_fits fits
    rw [packed]
    exact Termios2Attrs.unpack_of_pack fits size packed

/-- Any payload of the size and any rate that fits the struct: an accepted request is packed,
and what is written decodes to the request over what was read. A configuration that the
builders reject never gets as far as the packing. -/
theorem termios2_readModifyWrite (buf : Bytes) (config : SerialConfig) (size : buf.length = termios2Size)
    (rate : config.baudrate < 2 ^ 32) :
    (∃ before, Termios2Attrs.unpack buf = .ok before ∧
      (linuxTermios.Representable config → ∃ written after, customOverlay buf config = .ok written ∧
        Termios2Attrs.unpack written = .ok after ∧ CustomOverlays config before after) ∧
      (¬linuxTermios.Representable config →
        ∃ message, requestedTermios2 before config = .error (unsupportedFeature message)) ∧
      ∀ updated, requestedTermios2 before config = .ok updated → updated.Fits ∧ ∃ written, updated.pack = .ok written) ∧
    Termios2Codec ∧
    ∀ (world : LinuxWorld) (fd : Int), world.host.device.termios.toPayload = buf →
      Ends (applyCustomBaudConfig fd config) world
        (fun _ after => customOverlay buf config = .ok after.host.device.termios.toPayload ∧
          after = withTermios world after.host.device.termios)
        (fun _ after => after = world) := by
  refine ⟨⟨_, Termios2Attrs.unpack_ofPayload size, fun fine => ?_, fun bad => ?_, fun updated built => ?_⟩, termios2Codec,
    fun world fd same => ?_⟩
  · obtain ⟨fits, written⟩ := customOverlay_eq (.ofPayload buf) rate fine (Termios2Attrs.unpack_ofPayload size)
    refine ⟨_, _, written, Termios2Attrs.unpack_toPayload _, ?_⟩
    rw [currentTermios2_toKernel fits (length_ccBytes _)]
    exact customOverlays (.ofPayload buf) config
  · rcases requestedTermios2_rejects (.ofPayload buf) config with ⟨fine, _⟩ | ⟨_, rejected⟩
    · exact absurd fine bad
    · exact rejected
  · have fits := (requestedTermios2_fits_iff built).mpr rate
    exact ⟨fits, Termios2Attrs.pack_fits fits⟩
  · refine applyCustomBaudConfig_commits.mono (fun _ after committed => ?_) fun _ after failed => failed.1
    obtain ⟨_, fine, rfl⟩ := committed
    have unpacked : Termios2Attrs.unpack buf = .ok (currentTermios2 world.host.device.termios) :=
      same ▸ Termios2Attrs.unpack_toPayload _
    exact ⟨(customOverlay_eq _ rate fine unpacked).2, rfl⟩

/-- A console with the usual control characters, in the PPP discipline and with one flag in
each word that no builder owns. -/
def consoleTermios : KernelTermios where
  iflag := 0x4500
  oflag := 0x5
  cflag := 0x20000CBD
  lflag := 0x8A3B
  line := 3
  cc := #v[3, 28, 127, 21, 4, 0, 1, 0, 17, 19, 26, 0, 18, 15, 23, 22, 0, 0, 0]
  ispeed := 9600
  ospeed := 9600

/-- A rate that no code names: the discipline, the control characters and the foreign flags stay. -/
theorem termios2_readModifyWrite_at_250000 :
    ∃ written after, customOverlay consoleTermios.toPayload { baudrate := 250000 } = .ok written ∧
      Termios2Attrs.unpack written = .ok after ∧ after.ispeed = 250000 ∧ after.cflag &&& cbaud = bother ∧
      after.line = 3 ∧ after.cc[0]? = some 3 ∧ after.cc[8]? = some 17 ∧
      after.iflag &&& 0x4000 = 0x4000 ∧ after.oflag &&& 0x4 = 0x4 ∧ after.cflag &&& 0x20000000 = 0x20000000 ∧
      after.lflag &&& 0x10 = 0x10 := by
  obtain ⟨⟨before, decoded, overlays, _⟩, _⟩ :=
    termios2_readModifyWrite consoleTermios.toPayload { baudrate := 250000 } (by decide +kernel) (by decide)
  obtain ⟨written, after, packed, unpacked, kept⟩ := overlays ⟨by decide, by decide, by decide, rfl⟩
  cases (Termios2Attrs.unpack_toPayload consoleTermios).symm.trans decoded
  refine ⟨written, after, packed, unpacked, kept.ispeed, kept.slot, kept.line, ?_, ?_, ?_, ?_, ?_, ?_⟩
  · exact kept.cc 0 (by decide) (by decide)
  · exact kept.cc 8 (by decide) (by decide)
  · exact (and_of_clearBits_eq kept.iflag (by decide)).trans (by decide)
  · exact (and_of_clearBits_eq kept.oflag (by decide)).trans (by decide)
  · exact (and_of_clearBits_eq kept.cflag (by decide)).trans (by decide)
  · exact (and_of_clearBits_eq kept.lflag (by decide)).trans (by decide)

end Overlay

end Anyserial.Linux
