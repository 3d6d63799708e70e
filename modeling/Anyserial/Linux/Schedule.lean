import Anyserial.Kit.Snapshots
import Anyserial.Linux.PathProperties
import Anyserial.Linux.RS485CodecProperties
import Anyserial.Linux.SharedDevice

/-! Which opens and closes of a schedule come to pass, and the parts of the device that each
of them sets or gives back. The arguments of the opens and the device before the first of
them decide both. -/
set_option autoImplicit false

namespace Anyserial.Linux

open Kit Posix

section Decidability

variable {path : String} {host : Host Device} {config : SerialConfig}

def TimerText.isNumber : TimerText → Bool
  | .number _ => true
  | .garbage _ => false

theorem timerReadable_iff {sysfs : Sysfs} :
    TimerReadable sysfs path ↔ (ftdiTimerText sysfs path).all TimerText.isNumber = true := by
  cases found : ftdiTimerText sysfs path with
  | none => simp [TimerReadable, found]
  | some text => cases text <;> simp [TimerReadable, found, TimerText.isNumber]

theorem encodable_iff {rs485 : Option RS485Config} :
    Encodable rs485 ↔ rs485.all (fun chosen => (fromConfig chosen).isOk) = true := by
  cases rs485 with
  | none => simp [Encodable]
  | some chosen => cases built : fromConfig chosen <;> simp [Encodable, built, Except.isOk, Except.toBool]

instance (termios : TermiosModule) : Decidable (termios.Representable config) :=
  decidable_of_iff ((config.parity = .mark ∨ config.parity = .space → termios.cmspar ≠ 0) ∧ config.stopBits ≠ .onePointFive ∧
      (config.flowControl.rtsCts = true → termios.rtsCtsMask ≠ 0) ∧ config.flowControl.dtrDsr = false)
    ⟨fun ⟨parity, stopBits, rtsCts, dtrDsr⟩ => ⟨parity, stopBits, rtsCts, dtrDsr⟩,
      fun fine => ⟨fine.parity, fine.stopBits, fine.rtsCts, fine.dtrDsr⟩⟩

instance (faults : Faults) : Decidable (TermiosAccepts config faults) := inferInstanceAs (Decidable (_ ∧ _))

instance : Decidable (TimerReadable host.device.sysfs path) := decidable_of_iff _ timerReadable_iff.symm

instance : Decidable (Encodable config.rs485) := decidable_of_iff _ encodable_iff.symm

instance : Decidable (Openable path host config) :=
  decidable_of_iff ((host.pathError path).isNone = true ∧ TermiosAccepts config noFaults ∧
      (config.lowLatency = true → TimerReadable host.device.sysfs path) ∧ Encodable config.rs485)
    ⟨fun ⟨clean, accepted, readable, encodable⟩ => ⟨Option.isNone_iff_eq_none.mp clean, accepted, readable, encodable⟩,
      fun fine => ⟨Option.isNone_iff_eq_none.mpr fine.clean, fine.accepted, fine.readable, fine.encodable⟩⟩

end Decidability

/-- The arguments of an open. -/
structure Opening where
  path : String
  config : SerialConfig

/-- A turn that came to pass, with the arguments of the open that it is or that it ends. -/
inductive Passage where
  | opens (who : Nat) (opening : Opening)
  | closes (who : Nat) (opening : Opening)

/-- `openings` says who is open. -/
structure Schedule where
  openings : Nat → Option Opening := fun _ => none
  passages : List Passage := []

/-- Nothing comes of an open of an open instance, of an open that is refused and of a close
of a closed instance. -/
def Schedule.take (host : Host Device) (schedule : Schedule) : Turn → Schedule
  | .openPort who path config =>
      if (schedule.openings who).isNone ∧ Openable path host config then
        { openings := Function.update schedule.openings who (some ⟨path, config⟩)
          passages := schedule.passages ++ [.opens who ⟨path, config⟩] }
      else schedule
  | .close who =>
      match schedule.openings who with
      | some opening =>
          { openings := Function.update schedule.openings who none
            passages := schedule.passages ++ [.closes who opening] }
      | none => schedule

def schedule (host : Host Device) (turns : List Turn) : Schedule := turns.foldl (Schedule.take host) {}

/-- A kind of part of the device. `asked` is the part that an open sets on a device that is as
at first, and the setting; `saved` is the part that a backend has saved, and its snapshot. -/
structure Feature (Key Setting Value Entry : Type) where
  part : Part Setting Value Entry
  entry : Device → Key → Entry
  asked : Device → Opening → Option (Key × Setting)
  saved : Slots → Option (Key × Value)
  saved_empty : saved {} = none

/-- The flags word of the serial struct. -/
def flagsFeature : Feature Unit Unit (BitVec 32) (Vector (BitVec 32) 32) where
  part :=
    { put := serialRegister.write
      put_put := serialRegister.write_write
      tune := fun _ => fastSerial
      tune_tune := fun _ _ serial => fastSerial_of_isFast (isFast_fastSerial serial) }
  entry device _ := device.serial
  asked _ opening := if opening.config.lowLatency then some ((), ()) else none
  saved slots := slots.savedAsyncFlags.map ((), ·)
  saved_empty := rfl

def TtyEntry.withTimer (value : Int) (entry : TtyEntry) : TtyEntry := { entry with latencyTimer := some (.number value) }

theorem map_withTimer_withTimer (first second : Int) (entry : Option TtyEntry) :
    (entry.map (TtyEntry.withTimer first)).map (TtyEntry.withTimer second) = entry.map (TtyEntry.withTimer second) := by
  cases entry <;> rfl

/-- The FTDI timers, by the names of their terminals. -/
def timerFeature : Feature String Unit Int (Option TtyEntry) where
  part :=
    { put := fun value entry => entry.map (TtyEntry.withTimer value)
      put_put := map_withTimer_withTimer
      tune := fun _ entry => entry.map (TtyEntry.withTimer ftdiLatencyTimerTargetMs)
      tune_tune := fun _ _ => map_withTimer_withTimer _ _ }
  entry device := device.sysfs
  asked device opening :=
    if opening.config.lowLatency then (foundTimer device.sysfs opening.path).map fun timer => (timer.path, ()) else none
  saved slots := slots.ftdiTimer.map fun timer => (timer.path, timer.originalMs)
  saved_empty := rfl

/-- A configuration that has an encoding. -/
abbrev EncodableRs485 := { rs485 : RS485Config // (fromConfig rs485).isOk = true }

/-- What an apply makes of the payload of the kernel. -/
def overlaid (rs485 : RS485Config) (payload : Bytes) : Bytes := (overlay payload rs485).toOption.getD payload

/-- The payload that gives a snapshot back. -/
def RS485State.payload (state : RS485State) : Bytes := state.toBytes.toOption.getD []

theorem overlay_ok {payload : Bytes} (rs485 : EncodableRs485) (size : serRs485Size ≤ payload.length) :
    ∃ merged, overlay payload rs485.val = .ok merged := by
  obtain ⟨_, _, _, _, written, _, merged⟩ | ⟨exc, failed, _⟩ := overlay_cases rs485.val size
  · exact ⟨written, merged⟩
  · have encodable := rs485.property
    rw [failed] at encodable
    cases encodable

theorem overlaid_overlaid (first second : EncodableRs485) (payload : Bytes) :
    overlaid second.val (overlaid first.val payload) = overlaid second.val payload := by
  by_cases size : serRs485Size ≤ payload.length
  · obtain ⟨merged, written⟩ := overlay_ok first size
    obtain ⟨last, writtenLast⟩ := overlay_ok second size
    have forgotten : overlay merged second.val = overlay payload second.val := overlay_overlay size written
    simp [overlaid, written, writtenLast, forgotten, Except.toOption]
  · have short : ∀ rs485, overlay payload rs485 = .error (RS485State.shortPayload payload.length) := by
      intro rs485
      rw [overlay, RS485State.fromBytes, if_pos (by omega)]
      rfl
    simp [overlaid, short, Except.toOption]

def rs485Feature : Feature Unit EncodableRs485 Bytes Bytes where
  part :=
    { put := fun payload _ => payload
      put_put := fun _ _ _ => rfl
      tune := fun rs485 => overlaid rs485.val
      tune_tune := overlaid_overlaid }
  entry device _ := device.rs485
  asked _ opening := opening.config.rs485.bind fun rs485 =>
    if encodable : (fromConfig rs485).isOk = true then some ((), ⟨rs485, encodable⟩) else none
  saved slots := slots.savedRs485.map fun state => ((), state.payload)
  saved_empty := rfl

namespace Feature

variable {Key Setting Value Entry : Type} [DecidableEq Key] (feature : Feature Key Setting Value Entry)

/-- How an open sets the part `key`. -/
def setting (device : Device) (key : Key) (opening : Opening) : Option Setting :=
  ((feature.asked device opening).filter fun asked => asked.1 = key).map Prod.snd

/-- What a passage does to the part `key`. -/
def event (device : Device) (key : Key) : Passage → Option (Event Nat Setting)
  | .opens who opening => (feature.setting device key opening).map (.takes who)
  | .closes who opening => (feature.setting device key opening).map fun _ => .gives who

/-- The events of the part `key`. -/
def journal (host : Host Device) (turns : List Turn) (key : Key) : List (Event Nat Setting) :=
  (schedule host turns).passages.filterMap (feature.event host.device key)

/-- The schedule leads every part of the kind back to where it was. -/
def GivenBack (host : Host Device) (turns : List Turn) : Prop :=
  ∀ key, Event.Restores
    (fun setting => feature.part.tune setting (feature.entry host.device key) = feature.entry host.device key)
    (feature.journal host turns key)

end Feature

/-- The schedule leads the flags, the timers and the RS-485 state back to where they were. -/
structure GivesBack (host : Host Device) (turns : List Turn) : Prop where
  flags : flagsFeature.GivenBack host turns
  timers : timerFeature.GivenBack host turns
  rs485 : rs485Feature.GivenBack host turns

end Anyserial.Linux
