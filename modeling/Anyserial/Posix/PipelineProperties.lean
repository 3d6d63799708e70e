import Anyserial.Posix.CommitProperties
import Anyserial.Linux.Device

/-! The builder pipeline as a whole. Each flag word is a list of field writes, and
the attributes that come out decode back to the configuration. -/
set_option autoImplicit false

namespace Anyserial.Posix

open Kit

/-- The fields of `cflag` that the builders write. -/
inductive ControlField where
  | csize | parenb | parodd | cmspar | cstopb | cread | clocal | rtsCts | hupcl
  deriving DecidableEq

/-- The fields of `iflag`: the mapping flags of raw mode and the software handshake. -/
inductive InputField where
  | mapping | ixon | ixoff | ixany
  deriving DecidableEq

/-- What the flag words say about the line. -/
structure LineSettings where
  byteSize : ByteSize
  parity : Parity
  stopBits : StopBits
  flowControl : FlowControl
  hangupOnClose : Bool
  deriving DecidableEq

def lineSettings (config : SerialConfig) : LineSettings :=
  ⟨config.byteSize, config.parity, config.stopBits, config.flowControl, config.hangupOnClose⟩

namespace TermiosModule

variable (termios : TermiosModule)

def control : ControlField → Nat
  | .csize => termios.csize
  | .parenb => termios.parenb
  | .parodd => termios.parodd
  | .cmspar => termios.cmspar
  | .cstopb => termios.cstopb
  | .cread => termios.cread
  | .clocal => termios.clocal
  | .rtsCts => termios.rtsCtsMask
  | .hupcl => termios.hupcl

def input : InputField → Nat
  | .mapping => termios.ignbrk ||| termios.brkint ||| termios.parmrk ||| termios.istrip ||| termios.inlcr |||
      termios.igncr ||| termios.icrnl
  | .ixon => termios.ixon
  | .ixoff => termios.ixoff
  | .ixany => termios.ixany

def localModes : Nat := termios.echo ||| termios.echonl ||| termios.icanon ||| termios.isig ||| termios.iexten

/-- The constants of the platform name disjoint fields. Only `CMSPAR` and the
hardware handshake may be missing. -/
structure DisjointFields : Prop where
  control : ∀ first second, first ≠ second → termios.control first &&& termios.control second = 0
  input : ∀ first second, first ≠ second → termios.input first &&& termios.input second = 0
  sizeWithin : ∀ size, termios.byteSizeBits size &&& termios.csize = termios.byteSizeBits size
  sizesDiffer : ∀ first second, termios.byteSizeBits first = termios.byteSizeBits second → first = second
  parenb : termios.parenb ≠ 0
  parodd : termios.parodd ≠ 0
  cstopb : termios.cstopb ≠ 0
  hupcl : termios.hupcl ≠ 0
  handshake : termios.ixon ||| termios.ixoff ≠ 0
  slots : termios.vmin ≠ termios.vtime

/-- A flag that spans a mask: `none` stands for a half-set one. -/
def switch (word mask : Nat) : Option Bool :=
  if word &&& mask = 0 then some false else if word &&& mask = mask then some true else none

def decodeByteSize (cflag : Nat) : Option ByteSize :=
  [ByteSize.five, .six, .seven, .eight].find? fun size => cflag &&& termios.csize = termios.byteSizeBits size

def decodeParity (cflag : Nat) : Parity :=
  if cflag &&& termios.parenb = 0 then .none
  else if cflag &&& termios.cmspar ≠ 0 then if cflag &&& termios.parodd ≠ 0 then .mark else .space
  else if cflag &&& termios.parodd ≠ 0 then .odd else .even

/-- The settings that the attributes stand for. -/
def decode (attrs : TermiosAttrs) : Option LineSettings := do
  let byteSize ← termios.decodeByteSize attrs.cflag
  let twoStopBits ← switch attrs.cflag termios.cstopb
  let xonXoff ← switch attrs.iflag (termios.ixon ||| termios.ixoff)
  let rtsCts ← switch attrs.cflag termios.rtsCtsMask
  let hangup ← switch attrs.cflag termios.hupcl
  pure
    { byteSize
      parity := termios.decodeParity attrs.cflag
      stopBits := if twoStopBits then .two else .one
      flowControl := { xonXoff, rtsCts }
      hangupOnClose := hangup }

/-- Serial-raw mode is in force. -/
structure Raw (attrs : TermiosAttrs) : Prop where
  mapping : attrs.iflag &&& termios.input .mapping = 0
  ixany : attrs.iflag &&& termios.ixany = 0
  opost : attrs.oflag &&& termios.opost = 0
  modes : attrs.lflag &&& termios.localModes = 0
  receiver : attrs.cflag &&& (termios.cread ||| termios.clocal) = termios.cread ||| termios.clocal
  vmin : attrs.cc[termios.vmin]? = some (.int 1)
  vtime : attrs.cc[termios.vtime]? = some (.int 0)

def ownedControl : Nat :=
  termios.csize ||| termios.parenb ||| termios.parodd ||| termios.cmspar ||| termios.cstopb ||| termios.cread |||
    termios.clocal ||| termios.rtsCtsMask ||| termios.hupcl

def ownedInput : Nat := termios.input .mapping ||| termios.ixon ||| termios.ixoff ||| termios.ixany

/-- The attributes agree on every bit and slot that no builder owns. -/
structure SameOutside (before after : TermiosAttrs) : Prop where
  ispeed : after.ispeed = before.ispeed
  ospeed : after.ospeed = before.ospeed
  iflag : clearBits after.iflag termios.ownedInput = clearBits before.iflag termios.ownedInput
  oflag : clearBits after.oflag termios.opost = clearBits before.oflag termios.opost
  cflag : clearBits after.cflag termios.ownedControl = clearBits before.cflag termios.ownedControl
  lflag : clearBits after.lflag termios.localModes = clearBits before.lflag termios.localModes
  slots : after.cc.length = before.cc.length
  cc : ∀ slot, slot ≠ termios.vmin → slot ≠ termios.vtime → after.cc[slot]? = before.cc[slot]?

section Writes

variable (config : SerialConfig)

def parityMask : Nat := termios.control .parenb ||| termios.control .parodd ||| termios.control .cmspar

def parityBits : Parity → Nat
  | .none => 0
  | .even => termios.control .parenb
  | .odd => termios.control .parenb ||| termios.control .parodd
  | .mark => termios.control .parenb ||| termios.control .parodd ||| termios.control .cmspar
  | .space => termios.control .parenb ||| termios.control .cmspar

def rawBits : Nat := termios.byteSizeBits .eight ||| termios.control .cread ||| termios.control .clocal

/-- The bits of a flag that is on or off. -/
def flagBits (on : Bool) (field : ControlField) : Nat := if on then termios.control field else 0

/-- What the pipeline writes to `cflag`, builder by builder. -/
def controlWrites : List (Nat × Nat) :=
  [(termios.control .csize ||| termios.control .parenb ||| termios.rawBits, termios.rawBits),
    (termios.control .csize, termios.byteSizeBits config.byteSize),
    (termios.parityMask, termios.parityBits config.parity),
    (termios.control .cstopb, termios.flagBits (config.stopBits = .two) .cstopb),
    (termios.control .rtsCts, termios.flagBits config.flowControl.rtsCts .rtsCts),
    (termios.control .hupcl, termios.flagBits config.hangupOnClose .hupcl)]

/-- What it writes to `iflag`. -/
def inputWrites : List (Nat × Nat) :=
  [(termios.input .mapping ||| termios.input .ixon, 0),
    (termios.input .ixon ||| termios.input .ixoff ||| termios.input .ixany,
      if config.flowControl.xonXoff then termios.input .ixon ||| termios.input .ixoff else 0)]

/-- The attributes that the pipeline makes of `attrs`. -/
def built (attrs : TermiosAttrs) : TermiosAttrs where
  iflag := assignAll (termios.inputWrites config) attrs.iflag
  oflag := assign attrs.oflag termios.opost 0
  cflag := assignAll (termios.controlWrites config) attrs.cflag
  lflag := assign attrs.lflag termios.localModes 0
  ispeed := attrs.ispeed
  ospeed := attrs.ospeed
  cc := (attrs.cc.set termios.vmin (.int 1)).set termios.vtime (.int 0)

end Writes

variable {termios} {attrs other : TermiosAttrs} {config : SerialConfig}

theorem applyRawMode_eq : termios.applyRawMode attrs =
    { attrs with
      iflag := assign attrs.iflag (termios.input .mapping ||| termios.ixon) 0
      oflag := assign attrs.oflag termios.opost 0
      lflag := assign attrs.lflag termios.localModes 0
      cflag := assign attrs.cflag (termios.csize ||| termios.parenb ||| termios.rawBits) termios.rawBits
      cc := (attrs.cc.set termios.vmin (.int 1)).set termios.vtime (.int 0) } := by
  rw [← assign_widen, applyRawMode]
  simp only [clearBits_eq_assign, assign_or, input, control, localModes, rawBits, byteSizeBits]

theorem applyParity_eq {parity : Parity} (fine : parity = .mark ∨ parity = .space → termios.cmspar ≠ 0) :
    termios.applyParity attrs parity =
      .ok { attrs with cflag := assign attrs.cflag termios.parityMask (termios.parityBits parity) } := by
  have cleared : (if termios.cmspar ≠ 0 then
        clearBits (clearBits attrs.cflag (termios.parenb ||| termios.parodd)) termios.cmspar
      else clearBits attrs.cflag (termios.parenb ||| termios.parodd)) = assign attrs.cflag termios.parityMask 0 := by
    by_cases missing : termios.cmspar = 0
    · simp [missing, clearBits_eq_assign, parityMask, control]
    · have both : assign 0 termios.cmspar 0 = 0 := by simp [assign]
      simp only [ne_eq, missing, not_false_eq_true, if_true, clearBits_eq_assign, assign_assign, both, parityMask,
        control]
  cases parity with
  | none => simp only [applyParity, cleared, parityBits]
  | even => simp only [applyParity, cleared, assign_or, parityBits, control]
  | odd => simp only [applyParity, cleared, assign_or, parityBits, control]
  | mark => simp only [applyParity, cleared, assign_or, parityBits, control, fine (.inl rfl), if_false]
  | space => simp only [applyParity, cleared, assign_or, parityBits, control, fine (.inr rfl), if_false]

theorem applyStopBits_eq {stopBits : StopBits} (fine : stopBits ≠ .onePointFive) :
    termios.applyStopBits attrs stopBits =
      .ok { attrs with cflag := assign attrs.cflag termios.cstopb (termios.flagBits (stopBits = .two) .cstopb) } := by
  cases stopBits with
  | one => simp [applyStopBits, clearBits_eq_assign, flagBits]
  | onePointFive => exact absurd rfl fine
  | two => simp [applyStopBits, or_eq_assign, flagBits, control]

theorem applyFlowControl_eq {flow : FlowControl} (rtsCts : flow.rtsCts = true → termios.rtsCtsMask ≠ 0)
    (dtrDsr : flow.dtrDsr = false) : termios.applyFlowControl attrs flow =
      .ok { attrs with
        iflag := assign attrs.iflag (termios.ixon ||| termios.ixoff ||| termios.ixany)
          (if flow.xonXoff then termios.ixon ||| termios.ixoff else 0)
        cflag := assign attrs.cflag termios.rtsCtsMask (termios.flagBits flow.rtsCts .rtsCts) } := by
  have handshake : ¬(flow.rtsCts = true ∧ termios.rtsCtsMask = 0) := fun missing => rtsCts missing.1 missing.2
  have cleared : (if termios.rtsCtsMask ≠ 0 then assign attrs.cflag termios.rtsCtsMask 0 else attrs.cflag) =
      assign attrs.cflag termios.rtsCtsMask 0 := by
    by_cases missing : termios.rtsCtsMask = 0
    · simp [missing, assign_zero_mask]
    · simp [missing]
  simp only [applyFlowControl, handshake, dtrDsr, clearBits_eq_assign, cleared, if_false, Bool.false_eq_true]
  cases flow.xonXoff <;> cases flow.rtsCts <;> simp [flagBits, control]

theorem applyHangup_eq {hangup : Bool} : termios.applyHangup attrs hangup =
    { attrs with cflag := assign attrs.cflag termios.hupcl (termios.flagBits hangup .hupcl) } := by
  cases hangup with
  | true => simp [applyHangup, or_eq_assign, flagBits, control]
  | false => simp [applyHangup, clearBits_eq_assign, flagBits]

/-- An accepted configuration is a list of writes for each word. -/
theorem applyAll_eq (fine : termios.Representable config) :
    termios.applyAll attrs config = .ok (termios.built config attrs) := by
  simp only [applyAll, applyRawMode_eq, applyByteSize, clearBits_eq_assign, applyParity_eq fine.parity,
    applyStopBits_eq fine.stopBits, applyFlowControl_eq fine.rtsCts fine.dtrDsr, applyHangup_eq, bind, Except.bind, pure,
    Except.pure, assign_or]
  rfl

theorem within_controlWrites (fields : termios.DisjointFields) : Within (termios.controlWrites config) := by
  intro write member
  simp only [controlWrites, List.mem_cons, List.not_mem_nil, or_false] at member
  rcases member with rfl | rfl | rfl | rfl | rfl | rfl
  · exact and_or_cancel
  · exact fields.sizeWithin _
  · cases config.parity <;>
      simp [parityBits, parityMask, Nat.and_or_distrib_left, Nat.and_or_distrib_right, fields.control]
  · cases decide (config.stopBits = .two) <;> simp [flagBits]
  · cases config.flowControl.rtsCts <;> simp [flagBits]
  · cases config.hangupOnClose <;> simp [flagBits]

theorem within_inputWrites (fields : termios.DisjointFields) : Within (termios.inputWrites config) := by
  intro write member
  simp only [inputWrites, List.mem_cons, List.not_mem_nil, or_false] at member
  rcases member with rfl | rfl
  · exact Nat.zero_and _
  · cases config.flowControl.xonXoff <;> simp [Nat.and_or_distrib_left, Nat.and_or_distrib_right, fields.input]

section Reads

variable (fields : termios.DisjointFields) (config) (word : Nat)

include fields

theorem size_reads : assignAll (termios.controlWrites config) word &&& termios.csize = termios.byteSizeBits config.byteSize := by
  have misses : Misses ((termios.controlWrites config).drop 2) (termios.control .csize) := by
    simp [Misses, controlWrites, parityMask, Nat.and_or_distrib_right, fields.control]
  exact (assignAll_and_at rfl (Nat.and_self _) (within_controlWrites fields) misses).trans (fields.sizeWithin _)

theorem parity_reads {field : ControlField} (inside : termios.control field &&& termios.parityMask = termios.control field)
    (apart : field ≠ .cstopb ∧ field ≠ .rtsCts ∧ field ≠ .hupcl) :
    assignAll (termios.controlWrites config) word &&& termios.control field =
      termios.parityBits config.parity &&& termios.control field := by
  have misses : Misses ((termios.controlWrites config).drop 3) (termios.control field) := by
    simp [Misses, controlWrites, fields.control, apart.1.symm, apart.2.1.symm, apart.2.2.symm]
  exact assignAll_and_at rfl inside (within_controlWrites fields) misses

theorem flag_reads {on : Bool} {field : ControlField} {index : Nat}
    (found : (termios.controlWrites config)[index]? = some (termios.control field, termios.flagBits on field))
    (misses : Misses ((termios.controlWrites config).drop (index + 1)) (termios.control field)) :
    assignAll (termios.controlWrites config) word &&& termios.control field = termios.flagBits on field := by
  rw [assignAll_and_at found (Nat.and_self _) (within_controlWrites fields) misses]
  cases on <;> simp [flagBits]

theorem stopBits_reads : assignAll (termios.controlWrites config) word &&& termios.cstopb =
    termios.flagBits (config.stopBits = .two) .cstopb := by
  have found : (termios.controlWrites config)[3]? = some (_, _) := rfl
  exact flag_reads config fields word found (by simp [Misses, controlWrites, fields.control])

theorem rtsCts_reads : assignAll (termios.controlWrites config) word &&& termios.rtsCtsMask =
    termios.flagBits config.flowControl.rtsCts .rtsCts := by
  have found : (termios.controlWrites config)[4]? = some (_, _) := rfl
  exact flag_reads config fields word found (by simp [Misses, controlWrites, fields.control])

theorem hangup_reads : assignAll (termios.controlWrites config) word &&& termios.hupcl =
    termios.flagBits config.hangupOnClose .hupcl := by
  have found : (termios.controlWrites config)[5]? = some (_, _) := rfl
  exact flag_reads config fields word found (by simp [Misses, controlWrites])

theorem receiver_reads : assignAll (termios.controlWrites config) word &&& (termios.cread ||| termios.clocal) =
    termios.cread ||| termios.clocal := by
  let receiver := termios.control .cread ||| termios.control .clocal
  have raw : termios.rawBits = termios.byteSizeBits .eight ||| receiver := Nat.or_assoc ..
  have inside : receiver &&& (termios.control .csize ||| termios.control .parenb ||| termios.rawBits) = receiver := by
    rw [raw, ← Nat.or_assoc]
    exact and_or_cancel
  have misses : Misses ((termios.controlWrites config).drop 1) receiver := by
    simp [Misses, controlWrites, receiver, parityMask, Nat.and_or_distrib_left, Nat.and_or_distrib_right, fields.control]
  have found : (termios.controlWrites config)[0]? = some (_, _) := rfl
  calc assignAll (termios.controlWrites config) word &&& receiver
      = termios.rawBits &&& receiver := assignAll_and_at found inside (within_controlWrites fields) misses
    _ = receiver := by rw [raw, Nat.and_comm, and_or_cancel]

theorem handshake_reads : assignAll (termios.inputWrites config) word &&& (termios.ixon ||| termios.ixoff) =
    if config.flowControl.xonXoff then termios.ixon ||| termios.ixoff else 0 := by
  let handshake := termios.input .ixon ||| termios.input .ixoff
  have inside : handshake &&& (handshake ||| termios.input .ixany) = handshake := by
    rw [Nat.or_comm handshake]
    exact and_or_cancel
  have found : (termios.inputWrites config)[1]? = some (_, _) := rfl
  have misses : Misses ((termios.inputWrites config).drop 2) handshake := by simp [Misses, inputWrites]
  refine (assignAll_and_at found inside (within_inputWrites fields) misses).trans ?_
  cases config.flowControl.xonXoff with
  | false => simp
  | true => exact Nat.and_self _

theorem mapping_reads : assignAll (termios.inputWrites config) word &&& termios.input .mapping = 0 := by
  have found : (termios.inputWrites config)[0]? = some (_, _) := rfl
  have misses : Misses ((termios.inputWrites config).drop 1) (termios.input .mapping) := by
    simp [Misses, inputWrites, Nat.and_or_distrib_right, fields.input]
  have inside : termios.input .mapping &&& (termios.input .mapping ||| termios.input .ixon) = termios.input .mapping := by
    rw [Nat.or_comm]
    exact and_or_cancel
  exact (assignAll_and_at found inside (within_inputWrites fields) misses).trans (Nat.zero_and _)

theorem ixany_reads : assignAll (termios.inputWrites config) word &&& termios.ixany = 0 := by
  have found : (termios.inputWrites config)[1]? = some (_, _) := rfl
  have misses : Misses ((termios.inputWrites config).drop 2) (termios.input .ixany) := by simp [Misses, inputWrites]
  refine (assignAll_and_at found and_or_cancel (within_inputWrites fields) misses).trans ?_
  cases config.flowControl.xonXoff with
  | false => simp
  | true => simp [Nat.and_or_distrib_right, fields.input]

end Reads

theorem switch_reads {word mask : Nat} {on : Bool} (present : on = true → mask ≠ 0)
    (reads : word &&& mask = if on then mask else 0) : switch word mask = some on := by
  cases on with
  | false => simp [switch, reads]
  | true => simp [switch, reads, present rfl]

theorem decodeByteSize_reads (fields : termios.DisjointFields) {word : Nat} {size : ByteSize}
    (reads : word &&& termios.csize = termios.byteSizeBits size) : termios.decodeByteSize word = some size := by
  have differ : ∀ other, termios.byteSizeBits size = termios.byteSizeBits other ↔ size = other :=
    fun other => ⟨fields.sizesDiffer size other, fun same => same ▸ rfl⟩
  simp only [decodeByteSize, reads, differ]
  cases size <;> rfl

theorem decodeParity_reads (fields : termios.DisjointFields) (word : Nat)
    (fine : config.parity = .mark ∨ config.parity = .space → termios.cmspar ≠ 0) :
    termios.decodeParity (assignAll (termios.controlWrites config) word) = config.parity := by
  have inside : ∀ field, field = .parenb ∨ field = .parodd ∨ field = .cmspar →
      termios.control field &&& termios.parityMask = termios.control field := by
    rintro field (rfl | rfl | rfl) <;> simp [parityMask, Nat.and_or_distrib_left, fields.control]
  have parenb := parity_reads config fields word (inside .parenb (by simp)) (by decide)
  have parodd := parity_reads config fields word (inside .parodd (by simp)) (by decide)
  have cmspar := parity_reads config fields word (inside .cmspar (by simp)) (by decide)
  have present : termios.control .parenb ≠ 0 ∧ termios.control .parodd ≠ 0 := ⟨fields.parenb, fields.parodd⟩
  change (if _ &&& termios.control .parenb = 0 then Parity.none
    else if _ &&& termios.control .cmspar ≠ 0 then if _ &&& termios.control .parodd ≠ 0 then .mark else .space
    else if _ &&& termios.control .parodd ≠ 0 then .odd else .even) = _
  rw [parenb, parodd, cmspar]
  cases chosen : config.parity with
  | none => simp [parityBits]
  | odd => simp [parityBits, Nat.and_or_distrib_right, fields.control, present]
  | even => simp [parityBits, fields.control, present]
  | mark =>
    have supported : termios.control .cmspar ≠ 0 := fine (.inl chosen)
    simp [parityBits, Nat.and_or_distrib_right, fields.control, present, supported]
  | space =>
    have supported : termios.control .cmspar ≠ 0 := fine (.inr chosen)
    simp [parityBits, Nat.and_or_distrib_right, fields.control, present, supported]

theorem decode_built (fields : termios.DisjointFields) (fine : termios.Representable config) :
    termios.decode (termios.built config attrs) = some (lineSettings config) := by
  have size := decodeByteSize_reads fields (size_reads config fields attrs.cflag)
  have parity := decodeParity_reads fields attrs.cflag fine.parity
  have stopBits := switch_reads (fun _ => fields.cstopb) (stopBits_reads config fields attrs.cflag)
  have rtsCts := switch_reads fine.rtsCts (rtsCts_reads config fields attrs.cflag)
  have hangup := switch_reads (fun _ => fields.hupcl) (hangup_reads config fields attrs.cflag)
  have xonXoff := switch_reads (fun _ => fields.handshake) (handshake_reads config fields attrs.iflag)
  have twoOrOne : (if decide (config.stopBits = .two) then StopBits.two else .one) = config.stopBits := by
    cases chosen : config.stopBits with
    | one => rfl
    | onePointFive => exact absurd chosen fine.stopBits
    | two => rfl
  have flow : { xonXoff := config.flowControl.xonXoff, rtsCts := config.flowControl.rtsCts } = config.flowControl := by
    cases chosen : config.flowControl with
    | mk xonXoff rtsCts dtrDsr =>
      have unset : dtrDsr = false := by simpa [chosen] using fine.dtrDsr
      rw [unset]
  calc termios.decode (termios.built config attrs)
      = some ⟨config.byteSize, config.parity, if decide (config.stopBits = .two) then .two else .one,
          { xonXoff := config.flowControl.xonXoff, rtsCts := config.flowControl.rtsCts }, config.hangupOnClose⟩ := by
        simp only [decode, built, size, parity, stopBits, rtsCts, hangup, xonXoff]
        rfl
    _ = some (lineSettings config) := by rw [twoOrOne, flow]; rfl

theorem raw_built (fields : termios.DisjointFields) (vmin : termios.vmin < attrs.cc.length)
    (vtime : termios.vtime < attrs.cc.length) : termios.Raw (termios.built config attrs) := by
  constructor
  case mapping => exact mapping_reads config fields attrs.iflag
  case ixany => exact ixany_reads config fields attrs.iflag
  case opost => exact assign_and_within (Nat.and_self _) |>.trans (Nat.zero_and _)
  case modes => exact assign_and_within (Nat.and_self _) |>.trans (Nat.zero_and _)
  case receiver => exact receiver_reads config fields attrs.cflag
  case vmin => simp [built, vmin, fields.slots.symm]
  case vtime => simp [built, vtime]

variable (config) in
theorem owned_controlWrites (fields : termios.DisjointFields) : owned (termios.controlWrites config) = termios.ownedControl := by
  have absorbed : termios.csize ||| termios.cs8 = termios.csize := by
    apply Nat.eq_of_testBit_eq
    intro i
    rw [Nat.testBit_or]
    cases set : termios.cs8.testBit i with
    | true => simp [testBit_of_within (fields.sizeWithin .eight) set]
    | false => simp
  calc owned (termios.controlWrites config)
      = termios.csize ||| termios.cs8 ||| termios.parenb ||| termios.parodd ||| termios.cmspar ||| termios.cstopb |||
          termios.cread ||| termios.clocal ||| termios.rtsCtsMask ||| termios.hupcl := by
        simp only [owned, controlWrites, parityMask, rawBits, control, byteSizeBits, Nat.or_zero]
        ac_rfl
    _ = termios.ownedControl := by rw [absorbed, ownedControl]

variable (termios config) in
theorem owned_inputWrites : owned (termios.inputWrites config) = termios.ownedInput := by
  simp only [owned, inputWrites, ownedInput, input, Nat.or_zero]
  ac_rfl

/-- No builder touches what the pipeline does not own. -/
theorem built_sameOutside (fields : termios.DisjointFields) : termios.SameOutside attrs (termios.built config attrs) := by
  constructor
  case ispeed | ospeed => rfl
  case iflag =>
    simp only [clearBits_eq_assign, ← owned_inputWrites termios config]
    exact assignAll_outside (within_inputWrites fields)
  case oflag | lflag =>
    simp only [clearBits_eq_assign]
    exact assign_self
  case cflag =>
    simp only [clearBits_eq_assign, ← owned_controlWrites config fields]
    exact assignAll_outside (within_controlWrites fields)
  case slots => simp [built]
  case cc =>
    intro slot notVmin notVtime
    simp [built, notVmin.symm, notVtime.symm]

/-- What the pipeline owns has no say in the result. -/
theorem built_congr (fields : termios.DisjointFields) (same : termios.SameOutside attrs other) :
    termios.built config other = termios.built config attrs := by
  have iflag : assignAll (termios.inputWrites config) other.iflag = assignAll (termios.inputWrites config) attrs.iflag := by
    apply assignAll_congr
    simpa only [clearBits_eq_assign, owned_inputWrites] using same.iflag
  have cflag : assignAll (termios.controlWrites config) other.cflag = assignAll (termios.controlWrites config) attrs.cflag := by
    apply assignAll_congr
    simpa only [clearBits_eq_assign, owned_controlWrites config fields] using same.cflag
  have oflag : assign other.oflag termios.opost 0 = assign attrs.oflag termios.opost 0 := by
    simpa only [clearBits_eq_assign] using same.oflag
  have lflag : assign other.lflag termios.localModes 0 = assign attrs.lflag termios.localModes 0 := by
    simpa only [clearBits_eq_assign] using same.lflag
  have cc : (other.cc.set termios.vmin (.int 1)).set termios.vtime (.int 0) =
      (attrs.cc.set termios.vmin (.int 1)).set termios.vtime (.int 0) := by
    apply List.ext_getElem?
    intro slot
    by_cases isVtime : slot = termios.vtime
    · simp [isVtime, List.getElem?_set, same.slots]
    · by_cases isVmin : slot = termios.vmin
      · simp [isVmin, List.getElem?_set, same.slots]
      · simpa [isVtime, isVmin, List.getElem?_set, eq_comm] using same.cc slot isVmin isVtime
  simp only [built, iflag, oflag, cflag, lflag, same.ispeed, same.ospeed, cc]

theorem representable_atRate {rate : Nat} {positive : 0 < rate} :
    termios.Representable (atRate config rate positive) ↔ termios.Representable config :=
  ⟨fun fine => ⟨fine.parity, fine.stopBits, fine.rtsCts, fine.dtrDsr⟩,
    fun fine => ⟨fine.parity, fine.stopBits, fine.rtsCts, fine.dtrDsr⟩⟩

/-- The speeds and the rate have no say in the rest of the attributes. -/
theorem applyAll_sameButSpeeds {rate : Nat} {positive : 0 < rate} (same : SameButSpeeds attrs other) :
    (termios.Representable config ∧ ∃ first second, termios.applyAll attrs config = .ok first ∧
        termios.applyAll other (atRate config rate positive) = .ok second ∧ SameButSpeeds first second ∧
        (first.ispeed = attrs.ispeed ∧ first.ospeed = attrs.ospeed) ∧
        second.ispeed = other.ispeed ∧ second.ospeed = other.ospeed) ∨
      (¬termios.Representable config ∧ ∃ message, termios.applyAll attrs config = .error (unsupportedFeature message) ∧
        ∃ message, termios.applyAll other (atRate config rate positive) = .error (unsupportedFeature message)) := by
  rcases applyAll_rejects termios attrs config with ⟨fine, _⟩ | ⟨bad, message, rejected⟩
  · refine .inl ⟨fine, _, _, applyAll_eq fine, applyAll_eq (representable_atRate.mpr fine), ?_, ⟨rfl, rfl⟩, rfl, rfl⟩
    constructor
    case iflag => exact congrArg (assignAll _) same.iflag
    case oflag => exact congrArg (assign · termios.opost 0) same.oflag
    case cflag => exact congrArg (assignAll _) same.cflag
    case lflag => exact congrArg (assign · termios.localModes 0) same.lflag
    case cc => exact congrArg (fun cc => (cc.set termios.vmin (.int 1)).set termios.vtime (.int 0)) same.cc
  · rcases applyAll_rejects termios other (atRate config rate positive) with ⟨fine, _⟩ | ⟨_, other, refused⟩
    · exact absurd (representable_atRate.mp fine) bad
    · exact .inr ⟨bad, message, rejected, other, refused⟩

/-- What the pipeline makes of a configuration that it accepts. -/
structure Correct (termios : TermiosModule) (config : SerialConfig) (before after : TermiosAttrs) : Prop where
  decodes : termios.decode after = some (lineSettings config)
  raw : termios.Raw after
  outside : termios.SameOutside before after
  independent : ∀ other, termios.SameOutside before other → termios.applyAll other config = .ok after
  idempotent : termios.applyAll after config = .ok after

/-- The pipeline rejects exactly what the platform cannot represent, and what it
accepts is the configuration in raw mode, whatever the attributes were before. -/
theorem applyAll_correct (fields : termios.DisjointFields) (vmin : termios.vmin < attrs.cc.length)
    (vtime : termios.vtime < attrs.cc.length) (config : SerialConfig) :
    (termios.Representable config ∧ ∃ after, termios.applyAll attrs config = .ok after ∧
        Correct termios config attrs after) ∨
      (¬termios.Representable config ∧ ∃ message, termios.applyAll attrs config = .error (unsupportedFeature message)) := by
  rcases applyAll_rejects termios attrs config with ⟨fine, _⟩ | rejected
  · have outside : termios.SameOutside attrs (termios.built config attrs) := built_sameOutside fields
    have independent : ∀ other, termios.SameOutside attrs other →
        termios.applyAll other config = .ok (termios.built config attrs) := by
      intro other same
      rw [applyAll_eq fine, built_congr fields same]
    exact .inl ⟨fine, _, applyAll_eq fine, decode_built fields fine, raw_built fields vmin vtime, outside, independent,
      independent _ outside⟩
  · exact .inr rejected

end TermiosModule

end Anyserial.Posix

namespace Anyserial.Linux

open Posix

theorem linuxTermios_disjointFields : linuxTermios.DisjointFields := by
  constructor
  case control => intro first second; cases first <;> cases second <;> decide
  case input => intro first second; cases first <;> cases second <;> decide
  case sizeWithin => intro size; cases size <;> decide
  case sizesDiffer => intro first second; cases first <;> cases second <;> decide
  all_goals decide

def canonicalAttrs : TermiosAttrs where
  iflag := 0xffff
  oflag := 0xffff
  cflag := 0xffffffff
  lflag := 0xffff
  ispeed := 0o15
  ospeed := 0o15
  cc := List.replicate nccs (.bytes [0])

/-- Odd parity over a word with every bit set. -/
theorem applyAll_correct_on_linux :
    ∃ after, linuxTermios.applyAll canonicalAttrs { parity := .odd, stopBits := .two } = .ok after ∧
      TermiosModule.Correct linuxTermios { parity := .odd, stopBits := .two } canonicalAttrs after := by
  have representable : linuxTermios.Representable { parity := .odd, stopBits := .two } := by
    constructor <;> decide
  have vmin : linuxTermios.vmin < canonicalAttrs.cc.length := by decide
  have vtime : linuxTermios.vtime < canonicalAttrs.cc.length := by decide
  rcases TermiosModule.applyAll_correct linuxTermios_disjointFields vmin vtime { parity := .odd, stopBits := .two } with
    ⟨_, accepted⟩ | ⟨rejected, _⟩
  · exact accepted
  · exact absurd representable rejected

end Anyserial.Linux
