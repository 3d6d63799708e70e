import Anyserial.Windows.BackendProperties

/-! What the overlay of a configuration does to a `DCB`: what can be read back of it, and
what is left of the settings that were there. -/
set_option autoImplicit false

namespace Anyserial.Windows

open Kit

variable {dcb first second : Dcb} {config : SerialConfig} {world : WindowsWorld} {path : String} {handle : Handle}

def flag (on : Bool) : BitVec 1 := if on then 1 else 0

/-- The overlay field by field. -/
theorem applyConfig_eq (dcb : Dcb) (config : SerialConfig) :
    dcb.applyConfig config =
      { dcbLength := BitVec.ofNat 32 dcbSize
        baudRate := BitVec.ofNat 32 config.baudrate
        fBinary := 1
        fParity := if config.parity = .none then 0 else 1
        fOutxCtsFlow := flag config.flowControl.rtsCts
        fOutxDsrFlow := flag config.flowControl.dtrDsr
        fDtrControl := if config.flowControl.dtrDsr then dtrControlHandshake else dtrControlEnable
        fDsrSensitivity := 0
        fTXContinueOnXoff := 0
        fOutX := flag config.flowControl.xonXoff
        fInX := flag config.flowControl.xonXoff
        fErrorChar := 0
        fNull := 0
        fRtsControl := if config.flowControl.rtsCts then rtsControlHandshake else rtsControlEnable
        fAbortOnError := 0
        fDummy2 := dcb.fDummy2
        wReserved := dcb.wReserved
        xonLim := if config.flowControl.xonXoff then 2048 else dcb.xonLim
        xoffLim := if config.flowControl.xonXoff then 512 else dcb.xoffLim
        byteSize := byteSizeToWin32 config.byteSize
        parity := parityToWin32 config.parity
        stopBits := stopBitsToWin32 config.stopBits
        xonChar := if config.flowControl.xonXoff then xonChar else dcb.xonChar
        xoffChar := if config.flowControl.xonXoff then xoffChar else dcb.xoffChar
        errorChar := dcb.errorChar
        eofChar := dcb.eofChar
        evtChar := dcb.evtChar
        wReserved1 := dcb.wReserved1 } := by
  unfold Dcb.applyConfig
  generalize config.flowControl = flow
  obtain ⟨xonXoff, rtsCts, dtrDsr⟩ := flow
  cases xonXoff <;> cases rtsCts <;> cases dtrDsr <;> rfl

section RoundTrip

theorem win32ToParity_parityToWin32 (parity : Parity) : win32ToParity (parityToWin32 parity) = some parity := by
  cases parity <;> rfl

theorem win32ToStopBits_stopBitsToWin32 (stopBits : StopBits) :
    win32ToStopBits (stopBitsToWin32 stopBits) = some stopBits := by
  cases stopBits <;> rfl

theorem win32ToByteSize_byteSizeToWin32 (byteSize : ByteSize) :
    win32ToByteSize (byteSizeToWin32 byteSize) = some byteSize := by
  cases byteSize <;> rfl

/-- What a reader of the line settings has to find for a configuration. -/
def SerialConfig.reading (config : SerialConfig) : DcbReading :=
  { baudrate := config.baudrate
    byteSize := config.byteSize
    parity := config.parity
    stopBits := config.stopBits
    xonXoff := config.flowControl.xonXoff
    rtsCts := config.flowControl.rtsCts
    dtrDsr := config.flowControl.dtrDsr
    fBinary := 1
    fAbortOnError := 0
    fParity := if config.parity = .none then 0 else 1 }

/-- Everything but the rate is always read back. -/
theorem read_applyConfig (dcb : Dcb) (config : SerialConfig) :
    (dcb.applyConfig config).read = .ok { SerialConfig.reading config with baudrate := config.baudrate % 2 ^ 32 } := by
  have flow : ∀ on : Bool, decide (flag on ≠ 0) = on := by
    intro on
    cases on <;> rfl
  have rts : ∀ on : Bool, decide (flag on ≠ 0 ∧ (if on then rtsControlHandshake else rtsControlEnable) = rtsControlHandshake) = on := by
    intro on
    cases on <;> rfl
  have dtr : ∀ on : Bool, decide (flag on ≠ 0 ∧ (if on then dtrControlHandshake else dtrControlEnable) = dtrControlHandshake) = on := by
    intro on
    cases on <;> rfl
  have parity : (if config.parity = .none then (0 : BitVec 1) else 1).toNat = if config.parity = .none then 0 else 1 := by
    split <;> rfl
  rw [applyConfig_eq]
  simp only [Dcb.read, win32ToParity_parityToWin32, win32ToStopBits_stopBitsToWin32, win32ToByteSize_byteSizeToWin32,
    SerialConfig.reading, BitVec.toNat_ofNat, and_self, flow, rts, dtr, parity]
  rfl

/-- The overlay can be read back exactly when the rate fits its field; it never rejects a
configuration. -/
theorem dcb_roundTrip_iff (dcb : Dcb) (config : SerialConfig) :
    (dcb.applyConfig config).read = .ok (SerialConfig.reading config) ↔ config.baudrate < 2 ^ 32 := by
  rw [read_applyConfig, Except.ok.injEq]
  constructor
  · intro same
    have rate : config.baudrate % 2 ^ 32 = config.baudrate := congrArg DcbReading.baudrate same
    exact rate ▸ Nat.mod_lt _ (by decide)
  · intro fits
    rw [Nat.mod_eq_of_lt fits]
    rfl

/-- The rate `2 ^ 32 + 9600` is accepted and set to 9600. -/
theorem large_rate_is_changed :
    ¬∀ (dcb : Dcb) (config : SerialConfig), (dcb.applyConfig config).read = .ok (SerialConfig.reading config) := by
  intro readsBack
  have same := (read_applyConfig .zero { baudrate := 2 ^ 32 + 9600 }).symm.trans (readsBack _ _)
  have rate : (2 ^ 32 + 9600) % 2 ^ 32 = 2 ^ 32 + 9600 := congrArg DcbReading.baudrate (Except.ok.inj same)
  exact absurd rate (by decide)

end RoundTrip

section Overlay

/-- The fields that belong to the driver. -/
structure SameReserved (first second : Dcb) : Prop where
  fDummy2 : first.fDummy2 = second.fDummy2
  wReserved : first.wReserved = second.wReserved
  wReserved1 : first.wReserved1 = second.wReserved1

/-- The settings that the overlay does not touch: three characters never, and those of the
software flow control only when it is on. -/
structure SameLeft (config : SerialConfig) (first second : Dcb) : Prop where
  errorChar : first.errorChar = second.errorChar
  eofChar : first.eofChar = second.eofChar
  evtChar : first.evtChar = second.evtChar
  software : config.flowControl.xonXoff = false → first.xonChar = second.xonChar ∧ first.xoffChar = second.xoffChar ∧
    first.xonLim = second.xonLim ∧ first.xoffLim = second.xoffLim

theorem applyConfig_reserved (dcb : Dcb) (config : SerialConfig) : SameReserved (dcb.applyConfig config) dcb := by
  rw [applyConfig_eq]
  exact ⟨rfl, rfl, rfl⟩

theorem applyConfig_same_iff (reserved : SameReserved first second) :
    first.applyConfig config = second.applyConfig config ↔ SameLeft config first second := by
  constructor
  · intro same
    constructor
    case errorChar => simpa only [applyConfig_eq] using congrArg Dcb.errorChar same
    case eofChar => simpa only [applyConfig_eq] using congrArg Dcb.eofChar same
    case evtChar => simpa only [applyConfig_eq] using congrArg Dcb.evtChar same
    case software =>
      intro off
      have xon := congrArg Dcb.xonChar same
      have xoff := congrArg Dcb.xoffChar same
      have xonLim := congrArg Dcb.xonLim same
      have xoffLim := congrArg Dcb.xoffLim same
      simp only [applyConfig_eq, off, Bool.false_eq_true, if_false] at xon xoff xonLim xoffLim
      exact ⟨xon, xoff, xonLim, xoffLim⟩
  · intro same
    rw [applyConfig_eq, applyConfig_eq, reserved.fDummy2, reserved.wReserved, reserved.wReserved1, same.errorChar,
      same.eofChar, same.evtChar]
    cases software : config.flowControl.xonXoff with
    | true => rfl
    | false =>
      obtain ⟨xon, xoff, xonLim, xoffLim⟩ := same.software software
      simp only [xon, xoff, xonLim, xoffLim]

def lineDcb (world : WindowsWorld) : Dcb := world.host.device.dcb

theorem sameDcb_kernelCall {call : Kernel32Call} : Keeps (SameView lineDcb) (kernelCall call handle) := by
  intro world
  rw [ends_kernelCall]
  exact ⟨fun _ _ => rfl, fun _ => rfl⟩

theorem sameDcb_modifyBackend {f : WindowsBackend → WindowsBackend} :
    Keeps (SameView lineDcb) (modifyBackend f) := .modify fun _ => rfl

theorem sameDcb_attach : Keeps (SameView lineDcb) (attach handle) := by
  have registers : Keeps (SameView lineDcb) (registerIocp handle) :=
    sameDcb_kernelCall.bind fun _ => Keeps.bind (Keeps.get.map _) fun _ => .ite (fun _ => .throw _) fun _ => .pure ()
  have masks : Keeps (SameView lineDcb) (setCommMask handle evAllModem) :=
    sameDcb_kernelCall.bind fun _ => Keeps.modify fun _ => rfl
  refine Keeps.bind (Keeps.get.map _) fun backend => .ite (fun _ => registers.bind fun _ => masks) fun _ => ?_
  exact sameDcb_modifyBackend.bind fun _ => registers.bind fun _ => masks

theorem sameDcb_createFile {file : String} : Keeps (SameView lineDcb) (createFile file) := by
  intro world
  rw [ends_createFile]
  exact ⟨fun _ _ => rfl, fun _ => rfl⟩

/-- What is written back is the overlay of what was read. -/
theorem applyDcb_dcb :
    Ends (applyDcb config) world (fun _ after => lineDcb after = (lineDcb world).applyConfig config) fun _ _ => True := by
  simp only [applyDcb, ends_bind, ends_getBackend, ends_getHost, ends_kernelCall, ends_modifyDevice]
  exact ⟨fun _ _ => trivial, fun _ => ⟨fun _ _ => trivial, fun _ => rfl⟩⟩

theorem configure_dcb :
    Ends (configure config) world (fun _ after => lineDcb after = (lineDcb world).applyConfig config) fun _ _ => True := by
  have checked : Keeps (SameView lineDcb) raiseIfClosed :=
    Keeps.bind (Keeps.get.map _) fun _ => .ite (fun _ => .pure ()) fun _ => .throw _
  rw [configure, ends_bind]
  refine (checked world).mono (fun _ opened same => ?_) fun _ _ _ => trivial
  rw [ends_bind, ends_getBackend, ends_bind, ends_translating]
  refine applyDcb_dcb.mono (fun _ applied overlaid => ?_) fun _ _ _ => ⟨fun _ => trivial, fun _ => trivial⟩
  exact overlaid.trans (congrArg (Dcb.applyConfig · config) same)

theorem setUpComm_dcb :
    Ends (setUpComm handle config) world (fun _ after => lineDcb after = (lineDcb world).applyConfig config) fun _ _ => True := by
  rw [setUpComm, ends_bind]
  refine (sameDcb_kernelCall world).mono (fun _ opened same => ?_) fun _ _ _ => trivial
  rw [ends_bind, ends_modifyDevice, ends_bind]
  refine applyDcb_dcb.mono (fun _ applied overlaid => ?_) fun _ _ _ => trivial
  rw [ends_bind]
  refine (sameDcb_kernelCall applied).mono (fun _ set kept => ?_) fun _ _ _ => trivial
  exact kept.trans (overlaid.trans (congrArg (Dcb.applyConfig · config) same))

theorem openPort_dcb :
    Ends (openPort path config) world (fun _ after => lineDcb after = (lineDcb world).applyConfig config) fun _ _ => True := by
  simp only [openPort, ends_bind, ends_getBackend, ends_ite, ends_throw]
  refine ⟨fun _ => trivial, fun _ => ?_⟩
  simp only [ends_modifyBackend, ends_getHost]
  cases detectRuntime world.host.eventLoop with
  | error exc => trivial
  | ok flavour =>
    simp only [ends_bind, ends_modifyBackend, ends_translating]
    refine (sameDcb_createFile _).mono (fun handle created same => ?_) fun _ _ _ => ⟨fun _ => trivial, fun _ => trivial⟩
    rw [ends_exceptOSError]
    refine setUpComm_dcb.mono (fun _ ready overlaid => ?_) fun exc failed _ => ⟨fun _ => ?_, fun _ => trivial⟩
    · refine (sameDcb_attach ready).mono (fun _ attached kept => ?_) fun _ _ _ => trivial
      exact kept.trans (overlaid.trans (congrArg (Dcb.applyConfig · config) same))
    · rw [ends_bind]
      exact ends_of_forall (fun _ _ => trivial) fun _ _ => trivial

/-- Two prior DCBs that agree on the reserved fields become equal exactly when they agree on
the settings that the overlay leaves, and the overlay is what an open or a reconfiguration
puts on the line. -/
theorem overlay_forgets_iff (config : SerialConfig) (first second : Dcb) (reserved : SameReserved first second) :
    (first.applyConfig config = second.applyConfig config ↔ SameLeft config first second) ∧
      (∀ dcb : Dcb, SameReserved (dcb.applyConfig config) dcb) ∧
      ∀ world after : WindowsWorld, (configure config world = .ok () after ∨ ∃ path, openPort path config world = .ok () after) →
        lineDcb after = (lineDcb world).applyConfig config := by
  refine ⟨applyConfig_same_iff reserved, fun dcb => applyConfig_reserved dcb config, fun world after ran => ?_⟩
  rcases ran with ran | ⟨path, ran⟩
  · exact (ends_of_ok ran).mp configure_dcb
  · exact (ends_of_ok ran).mp openPort_dcb

/-- With software flow control on, only the three characters of the driver are left. -/
theorem overlay_forgets_flow_characters :
    let config : SerialConfig := { flowControl := { xonXoff := true } }
    Dcb.zero.applyConfig config = ({ Dcb.zero with xonChar := 1, xoffLim := 7 } : Dcb).applyConfig config :=
  (overlay_forgets_iff { flowControl := { xonXoff := true } } .zero { Dcb.zero with xonChar := 1, xoffLim := 7 }
    ⟨rfl, rfl, rfl⟩).1.mpr ⟨rfl, rfl, rfl, nofun⟩

/-- The error character of the previous program stays. -/
theorem error_character_is_left :
    ¬∀ (config : SerialConfig) (first second : Dcb), SameReserved first second →
      first.applyConfig config = second.applyConfig config := by
  intro forgets
  have same := forgets {} .zero { Dcb.zero with errorChar := 1 } ⟨rfl, rfl, rfl⟩
  exact absurd (congrArg Dcb.errorChar same) (by decide)

end Overlay

end Anyserial.Windows
