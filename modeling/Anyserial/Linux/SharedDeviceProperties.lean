import Anyserial.Linux.LifecycleProperties
import Anyserial.Linux.Schedule

/-! Backends that share a device, over every order of opens and closes: when the flags, the
timers and the RS-485 state end as they were before the first open. -/
set_option autoImplicit false

namespace Anyserial.Linux

open Kit Posix

variable {shared : Shared} {turn : Turn} {who : Nat} {before after : LinuxWorld} {path : String} {config : SerialConfig}

section Timers

variable {first now sysfs : Sysfs} {name : String}

def TtyEntry.kind (entry : TtyEntry) : Option String × Option Bool := (entry.driver, entry.latencyTimer.map TimerText.isNumber)

/-- The drivers are the same, and so are the timer files that hold a number. -/
def TimersAlike (first now : Sysfs) : Prop := ∀ name, (now name).map TtyEntry.kind = (first name).map TtyEntry.kind

def HoldsNumber (sysfs : Sysfs) (name : String) : Prop := (timerText sysfs name).map TimerText.isNumber = some true

theorem HoldsNumber.isSome (number : HoldsNumber sysfs name) : (timerText sysfs name).isSome = true := by
  cases found : timerText sysfs name with
  | none => simp [HoldsNumber, found] at number
  | some text => rfl

theorem TimersAlike.trans {middle : Sysfs} (early : TimersAlike first middle) (late : TimersAlike middle now) :
    TimersAlike first now := fun name => (late name).trans (early name)

theorem TimersAlike.holdsNumber (alike : TimersAlike first now) (number : HoldsNumber first name) : HoldsNumber now name := by
  have bound : ∀ sysfs : Sysfs, (timerText sysfs name).map TimerText.isNumber = ((sysfs name).map TtyEntry.kind).bind Prod.snd := by
    intro sysfs
    cases entry : sysfs name <;> simp [timerText, entry, TtyEntry.kind]
  rw [HoldsNumber, bound] at number ⊢
  rw [alike name, number]

theorem timersAlike_setTimer {value : Int} (number : HoldsNumber sysfs name) : TimersAlike sysfs (setTimer name value sysfs) := by
  intro other
  by_cases same : other = name
  · subst same
    cases entry : sysfs other with
    | none => simp [setTimer, entry]
    | some found =>
      have kind : found.latencyTimer.map TimerText.isNumber = some true := by
        simpa [HoldsNumber, timerText, entry] using number
      simp [setTimer, entry, TtyEntry.kind, kind, TimerText.isNumber]
  · simp [setTimer, same]

theorem holdsNumber_of_ftdi {value : Int} (found : ftdiTimerText sysfs path = some (.number value)) :
    HoldsNumber sysfs (ttyName path) := by
  rw [HoldsNumber, timerText_of_ftdi found]
  rfl

theorem timersAlike_tunedSysfs : TimersAlike sysfs (tunedSysfs sysfs path) := by
  unfold tunedSysfs
  split
  · rename_i value found
    exact timersAlike_setTimer (holdsNumber_of_ftdi found)
  · exact fun _ => rfl

theorem TimersAlike.ftdi (alike : TimersAlike first now) :
    (ftdiTimerText now path).map TimerText.isNumber = (ftdiTimerText first path).map TimerText.isNumber := by
  have bound : ∀ sysfs : Sysfs, (ftdiTimerText sysfs path).map TimerText.isNumber =
      ((sysfs (ttyName path)).map TtyEntry.kind).bind fun kind => if kind.1 = some ftdiDriverName then kind.2 else none := by
    intro sysfs
    cases entry : sysfs (ttyName path) with
    | none => simp [ftdiTimerText, entry]
    | some found => by_cases driver : found.driver = some ftdiDriverName <;> simp [ftdiTimerText, entry, TtyEntry.kind, driver]
  rw [bound, bound, alike]

theorem TimersAlike.readable_iff (alike : TimersAlike first now) : TimerReadable now path ↔ TimerReadable first path := by
  have shape : ∀ sysfs : Sysfs, (ftdiTimerText sysfs path).all TimerText.isNumber =
      ((ftdiTimerText sysfs path).map TimerText.isNumber).all id := by
    intro sysfs
    cases ftdiTimerText sysfs path <;> rfl
  rw [timerReadable_iff, timerReadable_iff, shape, shape, alike.ftdi]

/-- The same terminals have a timer to save. -/
theorem TimersAlike.foundTimer (alike : TimersAlike first now) :
    (foundTimer now path).map FtdiLatencyTimer.path = (foundTimer first path).map FtdiLatencyTimer.path := by
  have bound : ∀ sysfs : Sysfs, (Linux.foundTimer sysfs path).map FtdiLatencyTimer.path =
      if (ftdiTimerText sysfs path).map TimerText.isNumber = some true then some (ttyName path) else none := by
    intro sysfs
    unfold Linux.foundTimer
    cases ftdiTimerText sysfs path with
    | none => rfl
    | some text => cases text <;> rfl
  rw [bound, bound, alike.ftdi]

end Timers

namespace Feature

variable {Key Setting Value Entry : Type} [DecidableEq Key] (feature : Feature Key Setting Value Entry)

/-- An open sets the part that it asks for, and saves what leads back. -/
def Takes (opening : Opening) (before after : LinuxWorld) : Prop :=
  match feature.asked before.host.device opening with
  | none =>
      feature.saved after.backend.slots = none ∧ feature.entry after.host.device = feature.entry before.host.device
  | some (key, setting) => ∃ value, feature.saved after.backend.slots = some (key, value) ∧
      feature.entry after.host.device = Function.update (feature.entry before.host.device) key
        (feature.part.tune setting (feature.entry before.host.device key)) ∧
      feature.part.put value (feature.entry after.host.device key) = feature.entry before.host.device key

/-- A close puts back what was saved. -/
def Gives (before after : LinuxWorld) : Prop :=
  feature.entry after.host.device =
    match feature.saved before.backend.slots with
    | none => feature.entry before.host.device
    | some (key, value) =>
        Function.update (feature.entry before.host.device) key (feature.part.put value (feature.entry before.host.device key))

end Feature

section Features

theorem flags_takes (applied : Applied path before.host.device config.lowLatency config after) :
    flagsFeature.Takes ⟨path, config⟩ before after := by
  obtain ⟨serial, _, flags, _⟩ := applied.lowLatency
  cases fast : config.lowLatency with
  | false =>
    have unasked : flagsFeature.asked before.host.device ⟨path, config⟩ = none := by simp [flagsFeature, fast]
    rw [fast, if_neg Bool.false_ne_true] at serial flags
    simp only [Feature.Takes, unasked]
    exact ⟨by simp [flagsFeature, flags], funext fun _ => serial⟩
  | true =>
    have asked : flagsFeature.asked before.host.device ⟨path, config⟩ = some ((), ()) := by simp [flagsFeature, fast]
    rw [fast, if_pos rfl] at serial flags
    simp only [Feature.Takes, asked]
    refine ⟨serialFlags before.host.device.serial, by simp [flagsFeature, flags], funext fun key => ?_, ?_⟩
    · cases key
      rw [Function.update_self]
      exact serial
    · show serialRegister.write _ after.host.device.serial = before.host.device.serial
      rw [serial, fastSerial, serialRegister.write_write, write_serialFlags]

theorem setTimer_apply (path : String) (value : Int) (sysfs : Sysfs) :
    setTimer path value sysfs = Function.update sysfs path (timerFeature.part.put value (sysfs path)) := by
  funext name
  by_cases same : name = path
  · subst same
    rw [Function.update_self]
    exact if_pos rfl
  · simp [setTimer, same]

theorem timer_takes (applied : Applied path before.host.device config.lowLatency config after) :
    timerFeature.Takes ⟨path, config⟩ before after := by
  obtain ⟨_, sysfs, _, timer⟩ := applied.lowLatency
  have untouched : timerFeature.asked before.host.device ⟨path, config⟩ = none → after.backend.slots.ftdiTimer = none →
      after.host.device.sysfs = before.host.device.sysfs → timerFeature.Takes ⟨path, config⟩ before after := by
    intro unasked unsaved same
    simp only [Feature.Takes, unasked]
    exact ⟨by simp [timerFeature, unsaved], same⟩
  cases fast : config.lowLatency with
  | false =>
    rw [fast, if_neg Bool.false_ne_true] at sysfs timer
    exact untouched (by simp [timerFeature, fast]) timer sysfs
  | true =>
    rw [fast, if_pos rfl] at sysfs timer
    cases found : ftdiTimerText before.host.device.sysfs path with
    | none =>
      have missing : foundTimer before.host.device.sysfs path = none := by simp [foundTimer, found]
      exact untouched (by simp [timerFeature, fast, missing]) (timer.trans missing) (by rw [sysfs, tunedSysfs, found])
    | some text =>
      obtain ⟨value, rfl⟩ := applied.readable fast text found
      have saved : foundTimer before.host.device.sysfs path = some ⟨ttyName path, value⟩ := by simp [foundTimer, found]
      have asked : timerFeature.asked before.host.device ⟨path, config⟩ = some (ttyName path, ()) := by
        simp [timerFeature, fast, saved]
      simp only [Feature.Takes, asked]
      have tuned : after.host.device.sysfs = Function.update before.host.device.sysfs (ttyName path)
          (timerFeature.part.put ftdiLatencyTimerTargetMs (before.host.device.sysfs (ttyName path))) := by
        rw [sysfs, tunedSysfs, found, ← setTimer_apply]
      refine ⟨value, by simp [timerFeature, timer, saved], tuned, ?_⟩
      show timerFeature.part.put value (after.host.device.sysfs (ttyName path)) = before.host.device.sysfs (ttyName path)
      rw [tuned, Function.update_self, timerFeature.part.put_put]
      have read : (timerRegister (ttyName path)).read before.host.device.sysfs = some value := by
        simp [timerRegister, timerText_of_ftdi found]
      have same : setTimer (ttyName path) value before.host.device.sysfs = before.host.device.sysfs :=
        (timerRegister (ttyName path)).write_read _ _ read
      rw [setTimer_apply] at same
      have entry := congrFun same (ttyName path)
      rwa [Function.update_self] at entry

theorem RS485State.payload_of_ok {state : RS485State} {bytes : Bytes} (packed : state.toBytes = .ok bytes) :
    state.payload = bytes := by
  rw [payload, packed]
  rfl

theorem RS485State.payload_decode {payload : Bytes} (padded : ZeroPadded payload) : (decode payload).payload = payload :=
  payload_of_ok (toBytes_decode padded)

theorem rs485_takes (applied : Applied path before.host.device config.lowLatency config after)
    (padded : ZeroPadded before.host.device.rs485) (paddedAfter : ZeroPadded after.host.device.rs485) :
    rs485Feature.Takes ⟨path, config⟩ before after := by
  have holds := applied.rs485
  cases chosen : config.rs485 with
  | none =>
    have unasked : rs485Feature.asked before.host.device ⟨path, config⟩ = none := by simp [rs485Feature, chosen]
    have plain := holds.plain chosen
    simp only [Feature.Takes, unasked]
    refine ⟨by simp [rs485Feature, holds.saved, chosen], funext fun _ => ?_⟩
    show after.host.device.rs485 = before.host.device.rs485
    rw [← RS485State.payload_decode padded, ← plain, RS485State.payload_decode paddedAfter]
  | some rs485 =>
    have merged := holds.merged rs485 chosen
    have encodable : (fromConfig rs485).isOk = true := by
      obtain ⟨encoded, built⟩ := encoded_of_withFlagsFrom merged
      rw [built]
      rfl
    have asked : rs485Feature.asked before.host.device ⟨path, config⟩ = some ((), ⟨rs485, encodable⟩) := by
      simp [rs485Feature, chosen, encodable]
    have written : overlay before.host.device.rs485 rs485 = .ok after.host.device.rs485 := by
      simp only [overlay, RS485State.fromBytes_of_zeroPadded padded, merged, bind, Except.bind]
      exact RS485State.toBytes_decode paddedAfter
    simp only [Feature.Takes, asked]
    refine ⟨before.host.device.rs485, ?_, funext fun key => ?_, rfl⟩
    · simp [rs485Feature, holds.saved, chosen, RS485State.payload_decode padded]
    · cases key
      rw [Function.update_self]
      show after.host.device.rs485 = overlaid rs485 before.host.device.rs485
      rw [overlaid, written]
      rfl

/-- What makes a close of the backend put everything back. -/
structure Settleable (world : LinuxWorld) : Prop where
  faults : world.host.faults = noFaults
  fits : SavedFits world
  timer : ∀ timer, world.backend.slots.ftdiTimer = some timer → HoldsNumber world.host.device.sysfs timer.path
  padded : ZeroPadded world.host.device.rs485

theorem Settleable.restores (settleable : Settleable before) : RestoresLowLatency before.host.faults := by
  rw [settleable.faults]
  exact ⟨rfl, rfl, rfl⟩

theorem Settleable.owes (settleable : Settleable before) : OwesLowLatency (owedSerial before) (owedSysfs before) before :=
  ⟨rfl, rfl, fun timer saved => (settleable.timer timer saved).isSome⟩

theorem flags_gives (tornDown : TornDown before after) (settleable : Settleable before) :
    flagsFeature.Gives before after := by
  obtain ⟨serial, _⟩ := tornDown.lowLatency settleable.restores _ _ settleable.owes
  unfold owedSerial at serial
  funext key
  cases saved : before.backend.slots.savedAsyncFlags with
  | none =>
    rw [saved] at serial
    simpa [Feature.Gives, flagsFeature, saved] using serial
  | some flags =>
    rw [saved] at serial
    simpa [Feature.Gives, flagsFeature, saved] using serial

theorem timer_gives (tornDown : TornDown before after) (settleable : Settleable before) :
    timerFeature.Gives before after := by
  obtain ⟨_, sysfs⟩ := tornDown.lowLatency settleable.restores _ _ settleable.owes
  unfold owedSysfs at sysfs
  cases saved : before.backend.slots.ftdiTimer with
  | none =>
    rw [saved] at sysfs
    simpa [Feature.Gives, timerFeature, saved] using sysfs
  | some timer =>
    rw [saved] at sysfs
    have written : after.host.device.sysfs = setTimer timer.path timer.originalMs before.host.device.sysfs := sysfs
    rw [setTimer_apply] at written
    simpa [Feature.Gives, timerFeature, saved] using written

theorem rs485_gives (tornDown : TornDown before after) (settleable : Settleable before) :
    rs485Feature.Gives before after := by
  have accepted : before.host.faults .tiocsrs485 .restore = none := by rw [settleable.faults]; rfl
  funext key
  cases saved : before.backend.slots.savedRs485 with
  | none =>
    have same := tornDown.rs485 accepted before.host.device.rs485
      ⟨by simp [saved], fun _ => rfl, settleable.padded⟩
    simpa [Feature.Gives, rs485Feature, saved] using same
  | some state =>
    obtain ⟨bytes, packed⟩ := (settleable.fits state saved).toBytes_ok
    have given := tornDown.rs485 accepted bytes ⟨by simp [saved, packed], by simp [saved], settleable.padded⟩
    simpa [Feature.Gives, rs485Feature, saved, RS485State.payload_of_ok packed] using given

end Features

section Turns

/-- Everything that a turn can do to its backend. -/
inductive Turned (before after : LinuxWorld) : Turn → Prop where
  | opened (who : Nat) (path : String) (config : SerialConfig) (closed : before.backend.isOpen = false)
      (openable : Openable path before.host config) (moved : Opened before after)
      (applied : Applied path before.host.device config.lowLatency config after) :
      Turned before after (.openPort who path config)
  | openFailed (who : Nat) (path : String) (config : SerialConfig) (closed : before.backend.isOpen = false)
      (refused : ¬Openable path before.host config) (moved : OpenFailed before after) :
      Turned before after (.openPort who path config)
  | refused (who : Nat) (path : String) (config : SerialConfig) (isOpen : before.backend.isOpen = true)
      (same : after = before) : Turned before after (.openPort who path config)
  | tornDown (who : Nat) (isOpen : before.backend.isOpen = true) (moved : TornDown before after) :
      Turned before after (.close who)
  | idle (who : Nat) (closed : before.backend.isOpen = false) (same : after = before) : Turned before after (.close who)

theorem Applied.openable {device : Device} {opener : Bool} {host : Host Device}
    (applied : Applied path device opener config after) (clean : host.pathError path = none)
    (readable : config.lowLatency = true → TimerReadable host.device.sysfs path) : Openable path host config :=
  ⟨clean, applied.accepted, readable, applied.rs485.encodable⟩

theorem turned (turn : Turn) (empty : before.backend.isOpen = false → before.backend.slots = {}) (settleable : Settleable before)
    (held : before.backend.isOpen = true → before.host.Holds before.backend.fd) :
    Turned before (finalState turn.perform before) turn := by
  cases turn with
  | openPort who path config =>
    cases isOpen : before.backend.isOpen with
    | true =>
      have ends : Ends (Linux.openPort path config) before (fun _ after => Turned before after (.openPort who path config))
          fun _ after => Turned before after (.openPort who path config) :=
        (openPort_of_open isOpen).mono (fun _ _ never => never.elim) fun _ _ same => .refused who path config isOpen same
      exact ends.finalState
    | false =>
      have ends : Ends (Linux.openPort path config) before (fun _ after => Turned before after (.openPort who path config))
          fun _ after => Turned before after (.openPort who path config) :=
        ((openPort_spec isOpen (empty isOpen) settleable.fits).and
          (openPort_applied config before path isOpen (empty isOpen) settleable.faults settleable.padded.size)).mono
          (fun _ _ moved => .opened who path config isOpen
            (moved.2.2.openable moved.2.1 moved.2.2.readable) moved.1 moved.2.2)
          fun _ _ moved => .openFailed who path config isOpen moved.2 moved.1
      exact ends.finalState
  | close who =>
    cases isOpen : before.backend.isOpen with
    | true =>
      have ends : Ends Linux.close before (fun _ after => Turned before after (.close who))
          fun _ after => Turned before after (.close who) :=
        (close_spec (held isOpen) settleable.fits).mono (fun _ _ moved => .tornDown who isOpen moved)
          fun _ _ raised => .tornDown who isOpen raised.2
      exact ends.finalState
    | false =>
      have ends : Ends Linux.close before (fun _ after => Turned before after (.close who))
          fun _ after => Turned before after (.close who) := (close_of_closed isOpen).mpr (.idle who isOpen rfl)
      exact ends.finalState

/-- What every turn keeps, of its own backend and of what the others hold. -/
structure Kept (before after : LinuxWorld) : Prop where
  fits : SavedFits after
  closed : after.backend.isOpen = false → after.backend.slots = {}
  held : after.backend.isOpen = true → after.host.Holds after.backend.fd
  others : ∀ fd, before.host.Holds fd → fd ≠ before.backend.fd → after.host.Holds fd ∧ fd ≠ after.backend.fd
  alike : TimersAlike before.host.device.sysfs after.host.device.sysfs
  timer : ∀ timer, after.backend.slots.ftdiTimer = some timer → HoldsNumber after.host.device.sysfs timer.path
  padded : ZeroPadded after.host.device.rs485

theorem owes_of_empty (empty : before.backend.slots = {}) :
    OwesLowLatency before.host.device.serial before.host.device.sysfs before :=
  LowLatencyRestored.owes ⟨by rw [empty], by rw [empty], rfl, rfl⟩

theorem kept_of_opened (opened : Opened before after) (applied : Applied path before.host.device config.lowLatency config after)
    (empty : before.backend.slots = {}) (settleable : Settleable before) : Kept before after := by
  have owesRs485 : OwesRs485 before.host.device.rs485 after :=
    opened.snapshot.2 _ ⟨by simp [empty], fun _ => rfl, settleable.padded⟩
  have nonneg : 0 ≤ after.backend.fd := opened.fd ▸ lowestUnused_nonneg _
  obtain ⟨_, sysfs, _, saved⟩ := applied.lowLatency
  have alike : TimersAlike before.host.device.sysfs after.host.device.sysfs := by
    rw [sysfs]
    split
    · exact timersAlike_tunedSysfs
    · exact fun _ => rfl
  refine ⟨opened.snapshot.1 settleable.fits, ?_, fun _ => ⟨nonneg, ?_⟩, fun fd holds _ => ⟨⟨holds.1, ?_⟩, ?_⟩, alike, ?_,
    owesRs485.padded⟩
  · intro closed
    simp [PosixBackend.isOpen, nonneg] at closed
  · rw [opened.openFds, opened.fd]
    exact List.mem_cons_self ..
  · rw [opened.openFds]
    exact List.mem_cons_of_mem _ holds.2
  · rw [opened.fd]
    exact fun same => lowestUnused_notMem _ (same ▸ holds.2)
  · intro timer kept
    rw [saved] at kept
    split at kept
    · unfold foundTimer at kept
      split at kept
      · rename_i value found
        cases kept
        exact alike.holdsNumber (holdsNumber_of_ftdi found)
      · cases kept
    · cases kept

theorem kept_of_openFailed (failed : OpenFailed before after) (empty : before.backend.slots = {}) (settleable : Settleable before) :
    Kept before after := by
  obtain ⟨_, sysfs⟩ := failed.lowLatency settleable.restores _ _ (owes_of_empty empty)
  have accepted : before.host.faults .tiocsrs485 .restore = none := by rw [settleable.faults]; rfl
  have rs485 := failed.rs485 accepted before.host.device.rs485 ⟨by simp [empty], fun _ => rfl, settleable.padded⟩
  have negative : after.backend.fd < 0 := by simpa [PosixBackend.isOpen] using failed.closed
  refine ⟨by simp [SavedFits, failed.slots], fun _ => failed.slots, fun isOpen => ?_, fun fd holds _ => ⟨⟨holds.1, ?_⟩, ?_⟩,
    fun name => by rw [sysfs], by simp [failed.slots], rs485 ▸ settleable.padded⟩
  · rw [failed.closed] at isOpen
    cases isOpen
  · rw [failed.openFds]
    exact holds.2
  · exact fun same => absurd holds.1 (by omega)

theorem kept_of_tornDown (tornDown : TornDown before after) (settleable : Settleable before) : Kept before after := by
  obtain ⟨_, sysfs⟩ := tornDown.lowLatency settleable.restores _ _ settleable.owes
  have accepted : before.host.faults .tiocsrs485 .restore = none := by rw [settleable.faults]; rfl
  refine ⟨by simp [SavedFits, tornDown.slots], fun _ => tornDown.slots, fun isOpen => ?_,
    fun fd holds apart => ⟨⟨holds.1, ?_⟩, ?_⟩, ?_, by simp [tornDown.slots], ?_⟩
  · simp [PosixBackend.isOpen, tornDown.fd] at isOpen
  · rw [tornDown.openFds]
    exact (List.mem_erase_of_ne apart).mpr holds.2
  · rw [tornDown.fd]
    exact fun same => absurd holds.1 (by omega)
  · rw [sysfs]
    cases saved : before.backend.slots.ftdiTimer with
    | none =>
      simp only [owedSysfs, saved]
      exact fun _ => rfl
    | some timer =>
      simp only [owedSysfs, saved]
      exact timersAlike_setTimer (settleable.timer timer saved)
  · cases saved : before.backend.slots.savedRs485 with
    | none =>
      rw [tornDown.rs485 accepted before.host.device.rs485 ⟨by simp [saved], fun _ => rfl, settleable.padded⟩]
      exact settleable.padded
    | some state =>
      obtain ⟨bytes, packed⟩ := (settleable.fits state saved).toBytes_ok
      rw [tornDown.rs485 accepted bytes ⟨by simp [saved, packed], by simp [saved], settleable.padded⟩]
      exact RS485State.toBytes_zeroPadded packed

/-- Every backend is closed with empty slots or owns a descriptor of its own, and can give
back what it saved. -/
structure Sound (shared : Shared) : Prop where
  closed : ∀ who, (shared.view who).backend.isOpen = false → (shared.view who).backend.slots = {}
  held : ∀ who, (shared.view who).backend.isOpen = true → shared.host.Holds (shared.view who).backend.fd
  apart : ∀ who other, who ≠ other → (shared.view who).backend.isOpen = true →
    (shared.view who).backend.fd ≠ (shared.view other).backend.fd
  settleable : ∀ who, Settleable (shared.view who)

theorem sound_start {host : Host Device} (padded : ZeroPadded host.device.rs485) : Sound (Shared.start host) where
  closed _ _ := rfl
  held _ := nofun
  apart _ _ _ := nofun
  settleable _ := ⟨rfl, nofun, nofun, padded⟩

theorem Sound.turned (sound : Sound shared) (turn : Turn) :
    Turned (shared.view turn.who) (finalState turn.perform (shared.view turn.who)) turn :=
  Linux.turned turn (sound.closed turn.who) (sound.settleable turn.who) (sound.held turn.who)

theorem Sound.kept (sound : Sound shared) (turn : Turn) :
    Kept (shared.view turn.who) (finalState turn.perform (shared.view turn.who)) := by
  have settleable := sound.settleable turn.who
  have unmoved : Kept (shared.view turn.who) (shared.view turn.who) :=
    ⟨settleable.fits, sound.closed turn.who, sound.held turn.who, fun _ holds apart => ⟨holds, apart⟩, fun _ => rfl,
      settleable.timer, settleable.padded⟩
  have turned := sound.turned turn
  generalize finalState turn.perform (shared.view turn.who) = after at turned ⊢
  cases turned with
  | opened who path config closed openable moved applied => exact kept_of_opened moved applied (sound.closed who closed) settleable
  | openFailed who path config closed refused moved => exact kept_of_openFailed moved (sound.closed who closed) settleable
  | refused who path config isOpen same => exact same ▸ unmoved
  | tornDown who isOpen moved => exact kept_of_tornDown moved settleable
  | idle who closed same => exact same ▸ unmoved

theorem view_step_self (shared : Shared) (turn : Turn) :
    ((shared.step turn).view turn.who).backend = (finalState turn.perform (shared.view turn.who)).backend := by
  simp [Shared.step, Shared.view]

theorem view_step_other (apart : who ≠ turn.who) :
    ((shared.step turn).view who).backend = (shared.view who).backend := by
  simp [Shared.step, Shared.view, apart]

theorem Sound.step (sound : Sound shared) (turn : Turn) : Sound (shared.step turn) := by
  have kept := sound.kept turn
  have others : ∀ who, who ≠ turn.who → (shared.view who).backend.isOpen = true →
      (shared.step turn).host.Holds (shared.view who).backend.fd ∧
        (shared.view who).backend.fd ≠ (finalState turn.perform (shared.view turn.who)).backend.fd :=
    fun who apart isOpen => kept.others _ (sound.held who isOpen) (sound.apart who turn.who apart isOpen)
  constructor
  case closed =>
    intro who
    by_cases mine : who = turn.who
    · rw [mine, view_step_self]
      exact kept.closed
    · rw [view_step_other mine]
      exact sound.closed who
  case held =>
    intro who
    by_cases mine : who = turn.who
    · rw [mine, view_step_self]
      exact kept.held
    · rw [view_step_other mine]
      exact fun isOpen => (others who mine isOpen).1
  case apart =>
    intro who other different
    by_cases mine : who = turn.who
    · have notMine : other ≠ turn.who := fun same => different (mine.trans same.symm)
      rw [mine, view_step_self, view_step_other notMine]
      intro isOpen
      cases otherOpen : (shared.view other).backend.isOpen with
      | true => exact (others other notMine otherOpen).2.symm
      | false =>
        intro same
        rw [PosixBackend.isOpen, same] at isOpen
        rw [PosixBackend.isOpen, isOpen] at otherOpen
        cases otherOpen
    · rw [view_step_other mine]
      intro isOpen
      by_cases mineOther : other = turn.who
      · rw [mineOther, view_step_self]
        exact (others who mine isOpen).2
      · rw [view_step_other mineOther]
        exact sound.apart who other different isOpen
  case settleable =>
    intro who
    refine ⟨rfl, ?_, ?_, kept.padded⟩
    · unfold SavedFits
      by_cases mine : who = turn.who
      · rw [mine, view_step_self]
        exact kept.fits
      · rw [view_step_other mine]
        exact (sound.settleable who).fits
    · by_cases mine : who = turn.who
      · rw [mine, view_step_self]
        exact kept.timer
      · rw [view_step_other mine]
        exact fun timer saved => kept.alike.holdsNumber ((sound.settleable who).timer timer saved)

end Turns

section Schedules

variable {host : Host Device} {schedule : Schedule}

/-- What a turn makes of its backend, of the device and of the schedule. -/
inductive Came (before after : LinuxWorld) (schedule : Schedule) : Turn → Schedule → Prop where
  | opened (who : Nat) (opening : Opening) (free : schedule.openings who = none) (moved : Opened before after)
      (applied : Applied opening.path before.host.device opening.config.lowLatency opening.config after) :
      Came before after schedule (.openPort who opening.path opening.config)
        ⟨Function.update schedule.openings who (some opening), schedule.passages ++ [.opens who opening]⟩
  | closed (who : Nat) (opening : Opening) (held : schedule.openings who = some opening) (moved : TornDown before after) :
      Came before after schedule (.close who)
        ⟨Function.update schedule.openings who none, schedule.passages ++ [.closes who opening]⟩
  | nothing (turn : Turn) (isOpen : after.backend.isOpen = before.backend.isOpen)
      (slots : after.backend.slots = before.backend.slots) (same : Shared.Restored before.host.device after.host.device) :
      Came before after schedule turn schedule

/-- The schedule knows who is open, and the opens that the device takes are those that it
took at first. -/
structure Follows (host : Host Device) (shared : Shared) (schedule : Schedule) : Prop where
  sound : Sound shared
  encodes : shared.host.fsEncodes = host.fsEncodes
  alike : TimersAlike host.device.sysfs shared.host.device.sysfs
  isOpen : ∀ who, (shared.instances who).isOpen = (schedule.openings who).isSome

theorem follows_start (padded : ZeroPadded host.device.rs485) : Follows host (Shared.start host) {} where
  sound := sound_start padded
  encodes := rfl
  alike _ := rfl
  isOpen _ := rfl

theorem Follows.openable_iff (follows : Follows host shared schedule) :
    Openable path (shared.view who).host config ↔ Openable path host config := by
  have clean : (shared.view who).host.pathError path = host.pathError path := by
    simp [Host.pathError, Shared.view, follows.encodes]
  have readable : TimerReadable (shared.view who).host.device.sysfs path ↔ TimerReadable host.device.sysfs path :=
    follows.alike.readable_iff
  constructor
  · exact fun openable => ⟨clean ▸ openable.clean, openable.accepted, fun fast => readable.mp (openable.readable fast), openable.encodable⟩
  · exact fun openable => ⟨clean ▸ openable.clean, openable.accepted, fun fast => readable.mpr (openable.readable fast), openable.encodable⟩

theorem Follows.free (follows : Follows host shared schedule) (closed : (shared.view who).backend.isOpen = false) :
    schedule.openings who = none := by
  rw [← Option.not_isSome_iff_eq_none, ← follows.isOpen who]
  exact ne_true_of_eq_false closed

theorem Follows.held (follows : Follows host shared schedule) (isOpen : (shared.view who).backend.isOpen = true) :
    ∃ opening, schedule.openings who = some opening :=
  Option.isSome_iff_exists.mp ((follows.isOpen who).symm.trans isOpen)

theorem take_closes {opening : Opening} (held : schedule.openings who = some opening) :
    schedule.take host (.close who) =
      ⟨Function.update schedule.openings who none, schedule.passages ++ [.closes who opening]⟩ := by
  simp only [Schedule.take, held]

theorem take_idle (free : schedule.openings who = none) : schedule.take host (.close who) = schedule := by
  simp only [Schedule.take, free]

theorem Follows.came (follows : Follows host shared schedule) (turn : Turn) :
    Came (shared.view turn.who) (finalState turn.perform (shared.view turn.who)) schedule turn (schedule.take host turn) := by
  have settleable := follows.sound.settleable turn.who
  have turned := follows.sound.turned turn
  generalize finalState turn.perform (shared.view turn.who) = after at turned ⊢
  cases turned with
  | opened who path config closed openable moved applied =>
    have free : schedule.openings who = none := follows.free closed
    have came : schedule.take host (.openPort who path config) = _ :=
      if_pos ⟨by rw [free]; rfl, follows.openable_iff.mp openable⟩
    rw [came]
    exact .opened who ⟨path, config⟩ free moved applied
  | openFailed who path config closed refused moved =>
    have came : schedule.take host (.openPort who path config) = schedule :=
      if_neg fun both => refused (follows.openable_iff.mpr both.2)
    have empty : (shared.view who).backend.slots = {} := follows.sound.closed who closed
    obtain ⟨serial, sysfs⟩ := moved.lowLatency settleable.restores _ _ (owes_of_empty empty)
    have owesRs485 : OwesRs485 (shared.view who).host.device.rs485 (shared.view who) :=
      ⟨by simp [empty], fun _ => rfl, settleable.padded⟩
    have rs485 := moved.rs485 rfl _ owesRs485
    rw [came]
    exact .nothing _ (moved.closed.trans closed.symm) (moved.slots.trans empty.symm) ⟨serial, sysfs, rs485⟩
  | refused who path config isOpen same =>
    obtain ⟨opening, held⟩ : ∃ opening, schedule.openings who = some opening := follows.held isOpen
    have came : schedule.take host (.openPort who path config) = schedule := if_neg fun both => by simp [held] at both
    rw [came, same]
    exact .nothing _ rfl rfl ⟨rfl, rfl, rfl⟩
  | tornDown who isOpen moved =>
    obtain ⟨opening, held⟩ : ∃ opening, schedule.openings who = some opening := follows.held isOpen
    rw [take_closes held]
    exact .closed who opening held moved
  | idle who closed same =>
    have free : schedule.openings who = none := follows.free closed
    rw [take_idle free, same]
    exact .nothing _ rfl rfl ⟨rfl, rfl, rfl⟩

theorem fsEncodes_step (shared : Shared) (turn : Turn) : (shared.step turn).host.fsEncodes = shared.host.fsEncodes := by
  have kept : Keeps (SameView fun world : LinuxWorld => world.host.fsEncodes) turn.perform := by
    cases turn with
    | openPort who path config => exact keeps_openPort lifecycleMoves_fsEncodes
    | close who => exact keeps_close lifecycleMoves_fsEncodes
  exact (kept (shared.view turn.who)).finalState

/-- Only the backend whose turn it is moves. -/
theorem instances_step (shared : Shared) (turn : Turn) : (shared.step turn).instances =
    Function.update shared.instances turn.who (finalState turn.perform (shared.view turn.who)).backend := rfl

theorem Came.isOpen {next : Schedule} (came : Came before after schedule turn next)
    (known : ∀ who, (shared.instances who).isOpen = (schedule.openings who).isSome)
    (mine : before.backend = shared.instances turn.who) (who : Nat) :
    (Function.update shared.instances turn.who after.backend who).isOpen = (next.openings who).isSome := by
  cases came with
  | opened opener opening free moved applied =>
    simp only [Turn.who]
    by_cases same : who = opener
    · subst same
      rw [Function.update_self, Function.update_self]
      exact decide_eq_true (moved.fd ▸ lowestUnused_nonneg _)
    · rw [Function.update_of_ne same, Function.update_of_ne same, known]
  | closed closer opening held moved =>
    simp only [Turn.who]
    by_cases same : who = closer
    · subst same
      rw [Function.update_self, Function.update_self, PosixBackend.isOpen, moved.fd]
      rfl
    · rw [Function.update_of_ne same, Function.update_of_ne same, known]
  | nothing _ isOpen slots unchanged =>
    by_cases same : who = turn.who
    · subst same
      rw [Function.update_self, isOpen, mine, known]
    · rw [Function.update_of_ne same, known]

theorem Follows.step (follows : Follows host shared schedule) (turn : Turn) :
    Follows host (shared.step turn) (schedule.take host turn) where
  sound := follows.sound.step turn
  encodes := (fsEncodes_step shared turn).trans follows.encodes
  alike := follows.alike.trans (follows.sound.kept turn).alike
  isOpen := (follows.came turn).isOpen follows.isOpen rfl

end Schedules

namespace Feature

variable {Key Setting Value Entry : Type} [DecidableEq Key] {feature : Feature Key Setting Value Entry}
variable {host : Host Device} {schedule : Schedule}

/-- What a feature needs of the turns. -/
structure Lawful (feature : Feature Key Setting Value Entry) : Prop where
  takes : ∀ before after opening, Settleable before → Kept before after →
    Applied opening.path before.host.device opening.config.lowLatency opening.config after → feature.Takes opening before after
  gives : ∀ before after, Settleable before → TornDown before after → feature.Gives before after
  keeps : ∀ original device, Shared.Restored original device → feature.entry device = feature.entry original
  asked : ∀ (first now : Device) opening, TimersAlike first.sysfs now.sysfs →
    feature.asked now opening = feature.asked first opening

theorem flags_lawful : flagsFeature.Lawful where
  takes _ _ _ _ _ applied := flags_takes applied
  gives _ _ settleable tornDown := flags_gives tornDown settleable
  keeps _ _ same := funext fun _ => same.serial
  asked _ _ _ _ := rfl

theorem timer_lawful : timerFeature.Lawful where
  takes _ _ _ _ _ applied := timer_takes applied
  gives _ _ settleable tornDown := timer_gives tornDown settleable
  keeps _ _ same := same.sysfs
  asked first now opening alike := by
    have paths : ∀ sysfs, (foundTimer sysfs opening.path).map (fun timer => (timer.path, ())) =
        ((foundTimer sysfs opening.path).map FtdiLatencyTimer.path).map fun path => (path, ()) := by
      intro sysfs
      cases foundTimer sysfs opening.path <;> rfl
    simp only [timerFeature, paths, alike.foundTimer]

theorem rs485_lawful : rs485Feature.Lawful where
  takes _ _ _ settleable kept applied := rs485_takes applied settleable.padded kept.padded
  gives _ _ settleable tornDown := rs485_gives tornDown settleable
  keeps _ _ same := funext fun _ => same.rs485
  asked _ _ _ _ := rfl

variable (feature) in
/-- What the slots have saved of the part `key`. -/
def savedOf (key : Key) (slots : Slots) : Option Value :=
  ((feature.saved slots).filter fun saved => saved.1 = key).map Prod.snd

variable (feature) in
def sharing (host : Host Device) (shared : Shared) (schedule : Schedule) (key : Key) : Sharing Nat Setting Value Entry where
  entry := feature.entry shared.host.device key
  held who := feature.savedOf key (shared.instances who).slots
  journal := schedule.passages.filterMap (feature.event host.device key)

variable (feature) in
/-- Every open backend has saved the part that its open asked for. -/
def Keyed (host : Host Device) (shared : Shared) (schedule : Schedule) : Prop :=
  ∀ who, (feature.saved (shared.instances who).slots).map Prod.fst =
    ((schedule.openings who).bind (feature.asked host.device)).map Prod.fst

theorem Lawful.step (lawful : feature.Lawful) (follows : Follows host shared schedule) (keyed : feature.Keyed host shared schedule)
    (turn : Turn) : feature.Keyed host (shared.step turn) (schedule.take host turn) := by
  intro who
  have came := follows.came turn
  have settleable := follows.sound.settleable turn.who
  have kept := follows.sound.kept turn
  have before : (shared.view turn.who).backend = shared.instances turn.who := rfl
  have alike : TimersAlike host.device.sysfs (shared.view turn.who).host.device.sysfs := follows.alike
  rw [instances_step]
  generalize finalState turn.perform (shared.view turn.who) = after at came kept ⊢
  generalize schedule.take host turn = next at came ⊢
  cases came with
  | opened opener opening free moved applied =>
    simp only [Turn.who] at *
    by_cases same : who = opener
    · subst same
      have takes := lawful.takes _ _ opening settleable kept applied
      rw [Function.update_self, Function.update_self, Option.bind_some, ← lawful.asked _ _ opening alike]
      unfold Takes at takes
      split at takes
      · rename_i unasked
        rw [takes.1, unasked]
        rfl
      · rename_i key setting asked
        obtain ⟨value, saved, _⟩ := takes
        rw [saved, asked]
        rfl
    · rw [Function.update_of_ne same, Function.update_of_ne same, keyed]
  | closed closer opening held moved =>
    simp only [Turn.who] at *
    by_cases same : who = closer
    · subst same
      rw [Function.update_self, Function.update_self, moved.slots, feature.saved_empty]
      rfl
    · rw [Function.update_of_ne same, Function.update_of_ne same, keyed]
  | nothing _ isOpen slots unchanged =>
    by_cases same : who = turn.who
    · subst same
      rw [Function.update_self, slots, before, keyed]
    · rw [Function.update_of_ne same, keyed]

theorem savedOf_empty (key : Key) : feature.savedOf key {} = none := by
  rw [savedOf, feature.saved_empty]
  rfl

theorem savedOf_none {slots : Slots} (unsaved : feature.saved slots = none) (key : Key) : feature.savedOf key slots = none := by
  rw [savedOf, unsaved]
  rfl

theorem savedOf_some {slots : Slots} {touched : Key} {value : Value} (saved : feature.saved slots = some (touched, value))
    (key : Key) : feature.savedOf key slots = if touched = key then some value else none := by
  rw [savedOf, saved]
  by_cases same : touched = key <;> simp [same]

theorem setting_none {device : Device} {opening : Opening} (unasked : feature.asked device opening = none) (key : Key) :
    feature.setting device key opening = none := by
  rw [setting, unasked]
  rfl

theorem setting_some {device : Device} {opening : Opening} {touched : Key} {chosen : Setting}
    (asked : feature.asked device opening = some (touched, chosen)) (key : Key) :
    feature.setting device key opening = if touched = key then some chosen else none := by
  rw [setting, asked]
  by_cases same : touched = key <;> simp [same]

theorem sharing_step (schedule : Schedule) (shared : Shared) (turn : Turn) (next : Schedule) (key : Key) :
    feature.sharing host (shared.step turn) next key =
      { entry := feature.entry (finalState turn.perform (shared.view turn.who)).host.device key
        held := Function.update (feature.sharing host shared schedule key).held turn.who
          (feature.savedOf key (finalState turn.perform (shared.view turn.who)).backend.slots)
        journal := next.passages.filterMap (feature.event host.device key) } := by
  ext1
  case entry => rfl
  case journal => rfl
  case held =>
    funext other
    by_cases mine : other = turn.who
    · subst mine
      simp [sharing, instances_step]
    · simp [sharing, instances_step, mine]

/-- A turn moves each part as its own events say. -/
theorem Lawful.moves (lawful : feature.Lawful) (follows : Follows host shared schedule) (keyed : feature.Keyed host shared schedule)
    (turn : Turn) (key : Key) : Sharing.Moves feature.part (feature.sharing host shared schedule key)
      (feature.sharing host (shared.step turn) (schedule.take host turn) key) := by
  have came := follows.came turn
  have settleable := follows.sound.settleable turn.who
  have kept := follows.sound.kept turn
  have alike : TimersAlike host.device.sysfs (shared.view turn.who).host.device.sysfs := follows.alike
  rw [sharing_step schedule]
  generalize finalState turn.perform (shared.view turn.who) = after at came kept ⊢
  generalize schedule.take host turn = next at came ⊢
  -- A turn that touches another part, or none, or whose backend had nothing of this one.
  have stays : feature.entry after.host.device key = feature.entry shared.host.device key →
      feature.savedOf key after.backend.slots = feature.savedOf key (shared.instances turn.who).slots →
      next.passages.filterMap (feature.event host.device key) = schedule.passages.filterMap (feature.event host.device key) →
      Sharing.Moves feature.part (feature.sharing host shared schedule key)
        { entry := feature.entry after.host.device key
          held := Function.update (feature.sharing host shared schedule key).held turn.who (feature.savedOf key after.backend.slots)
          journal := next.passages.filterMap (feature.event host.device key) } := by
    intro entry saved silent
    refine .keeps ?_
    rw [entry, saved, silent]
    exact Sharing.ext rfl (Function.update_eq_self ..) rfl
  cases came with
  | opened opener opening free moved applied =>
    have takes := lawful.takes _ _ opening settleable kept applied
    have empty : (shared.instances opener).slots = {} := by
      refine follows.sound.closed opener ?_
      rw [Shared.view, follows.isOpen, free]
      rfl
    have unsaved : feature.savedOf key (shared.instances opener).slots = none := by rw [empty, savedOf_empty]
    unfold Takes at takes
    rw [lawful.asked _ _ opening alike] at takes
    cases asked : feature.asked host.device opening with
    | none =>
      rw [asked] at takes
      refine stays (congrFun takes.2 key) ((savedOf_none takes.1 key).trans unsaved.symm) ?_
      simp [event, setting_none asked]
    | some chosen =>
      obtain ⟨touched, setting⟩ := chosen
      rw [asked] at takes
      obtain ⟨value, saved, entry, leads⟩ := takes
      by_cases same : touched = key
      · subst same
        refine .takes opener value setting ?_ leads ?_ ?_
        · exact (congrFun entry touched).trans (Function.update_self ..)
        · simp only [savedOf_some saved, if_true, Turn.who]
        · simp [sharing, event, setting_some asked]
      · refine stays ?_ ?_ ?_
        · exact (congrFun entry key).trans (Function.update_of_ne (Ne.symm same) ..)
        · rw [savedOf_some saved, if_neg same]
          exact unsaved.symm
        · simp [event, setting_some asked, same]
  | closed closer opening held moved =>
    have gives := lawful.gives _ _ settleable moved
    have freed : feature.savedOf key after.backend.slots = none := by rw [moved.slots, savedOf_empty]
    have keys := keyed closer
    rw [held, Option.bind_some] at keys
    unfold Gives at gives
    cases saved : feature.saved (shared.instances closer).slots with
    | none =>
      have unasked : feature.asked host.device opening = none := by simpa [saved] using keys.symm
      rw [show feature.saved (shared.view (Turn.close closer).who).backend.slots = none from saved] at gives
      refine stays (congrFun gives key) (freed.trans (savedOf_none saved key).symm) ?_
      simp [event, setting_none unasked]
    | some kept =>
      obtain ⟨touched, value⟩ := kept
      rw [show feature.saved (shared.view (Turn.close closer).who).backend.slots = some (touched, value) from saved] at gives
      obtain ⟨⟨asked, setting⟩, chosen, rfl⟩ : ∃ chosen, feature.asked host.device opening = some chosen ∧ chosen.1 = touched := by
        rw [saved] at keys
        exact Option.map_eq_some_iff.mp keys.symm
      by_cases same : asked = key
      · subst same
        refine .gives closer value ?_ ?_ ?_ ?_
        · simp [sharing, savedOf_some saved]
        · exact (congrFun gives asked).trans (Function.update_self ..)
        · rw [freed]
          rfl
        · simp [sharing, event, setting_some chosen]
      · refine stays ?_ ?_ ?_
        · exact (congrFun gives key).trans (Function.update_of_ne (Ne.symm same) ..)
        · rw [freed]
          exact ((savedOf_some saved key).trans (if_neg same)).symm
        · simp [event, setting_some chosen, same]
  | nothing _ isOpen slots unchanged =>
    refine stays (congrFun (lawful.keeps _ _ unchanged) key) ?_ rfl
    rw [slots]
    rfl

end Feature

section Runs

variable {host : Host Device} {Key Setting Value Entry : Type} [DecidableEq Key] {feature : Feature Key Setting Value Entry}

theorem run_concat (host : Host Device) (turns : List Turn) (turn : Turn) :
    Shared.run host (turns ++ [turn]) = (Shared.run host turns).step turn := by
  simp [Shared.run]

theorem schedule_concat (host : Host Device) (turns : List Turn) (turn : Turn) :
    schedule host (turns ++ [turn]) = (schedule host turns).take host turn := by
  simp [schedule]

theorem run_follows (padded : ZeroPadded host.device.rs485) (turns : List Turn) :
    Follows host (Shared.run host turns) (schedule host turns) := by
  induction turns using List.reverseRecOn with
  | nil => exact follows_start padded
  | append_singleton taken turn ih =>
    rw [run_concat, schedule_concat]
    exact ih.step turn

theorem run_accounted (lawful : feature.Lawful) (padded : ZeroPadded host.device.rs485) (key : Key) (turns : List Turn) :
    feature.Keyed host (Shared.run host turns) (schedule host turns) ∧
      Sharing.Accounted feature.part (feature.entry host.device key)
        (feature.sharing host (Shared.run host turns) (schedule host turns) key) := by
  induction turns using List.reverseRecOn with
  | nil =>
    constructor
    · intro who
      show (feature.saved {}).map Prod.fst = none
      rw [feature.saved_empty]
      rfl
    · exact Sharing.accounted_start (fun _ => Feature.savedOf_empty key) rfl rfl
  | append_singleton taken turn ih =>
    obtain ⟨keyed, accounted⟩ := ih
    rw [run_concat, schedule_concat]
    have follows := run_follows padded taken
    exact ⟨lawful.step follows keyed turn, (lawful.moves follows keyed turn key).accounted accounted⟩

theorem feature_restored_iff (lawful : feature.Lawful) (padded : ZeroPadded host.device.rs485) (turns : List Turn) :
    feature.entry (Shared.run host turns).host.device = feature.entry host.device ↔ feature.GivenBack host turns :=
  funext_iff.trans (forall_congr' fun key => (run_accounted lawful padded key turns).2.restored)

/-- The device is as before the first open, when the last backend is closed or at any other
time, exactly if the order of the opens and closes leads each part of it back there. -/
theorem shared_device_restored_iff (host : Host Device) (padded : ZeroPadded host.device.rs485) (turns : List Turn) :
    Shared.Restored host.device (Shared.run host turns).host.device ↔ GivesBack host turns := by
  have flags := feature_restored_iff Feature.flags_lawful padded turns
  have timers := feature_restored_iff Feature.timer_lawful padded turns
  have rs485 := feature_restored_iff Feature.rs485_lawful padded turns
  constructor
  · intro restored
    constructor
    case flags => exact flags.mp (funext fun _ => restored.serial)
    case timers => exact timers.mp restored.sysfs
    case rs485 => exact rs485.mp (funext fun _ => restored.rs485)
  · intro gives
    constructor
    case serial => exact congrFun (flags.mpr gives.flags) ()
    case sysfs => exact timers.mpr gives.timers
    case rs485 => exact congrFun (rs485.mpr gives.rs485) ()

theorem instances_untouched {turns : List Turn} (untouched : ∀ turn ∈ turns, turn.who ≠ who) :
    (Shared.run host turns).instances who = .fresh {} := by
  induction turns using List.reverseRecOn with
  | nil => rfl
  | append_singleton taken turn ih =>
    rw [run_concat]
    have apart : who ≠ turn.who := (untouched turn (by simp)).symm
    exact (Function.update_of_ne apart ..).trans (ih fun earlier member => untouched earlier (List.mem_append_left _ member))

def fastOpening : Opening := ⟨"/dev/ttyUSB0", { SerialConfig.defaults with lowLatency := true, rs485 := some .defaults }⟩

def fastOpen (who : Nat) : Turn := .openPort who fastOpening.path fastOpening.config

def nestedTurns : List Turn := [fastOpen 0, fastOpen 1, .close 1, .close 0]

/-- The backend that was opened first is closed first. -/
def overlappedTurns : List Turn := [fastOpen 0, fastOpen 1, .close 0, .close 1]

theorem nested_allClosed : (Shared.run ftdiHost nestedTurns).AllClosed := by
  intro who
  match who with
  | 0 => decide +kernel
  | 1 => decide +kernel
  | rest + 2 => rw [instances_untouched (by simp [nestedTurns, fastOpen, Turn.who])]; rfl

theorem overlapped_allClosed : (Shared.run ftdiHost overlappedTurns).AllClosed := by
  intro who
  match who with
  | 0 => decide +kernel
  | 1 => decide +kernel
  | rest + 2 => rw [instances_untouched (by simp [overlappedTurns, fastOpen, Turn.who])]; rfl

theorem nested_passages : (schedule ftdiHost nestedTurns).passages =
    [.opens 0 fastOpening, .opens 1 fastOpening, .closes 1 fastOpening, .closes 0 fastOpening] := by
  have openable : Openable fastOpening.path ftdiHost fastOpening.config := by decide +kernel
  simp [schedule, nestedTurns, fastOpen, Schedule.take, openable]

/-- Whatever the open sets, the second backend gives it back before the first does. -/
theorem nested_givenBack : feature.GivenBack ftdiHost nestedTurns := by
  intro key
  rw [Feature.journal, nested_passages]
  cases chosen : feature.setting ftdiHost.device key fastOpening with
  | none =>
    simp only [List.filterMap_cons, List.filterMap_nil, Feature.event, chosen, Option.map_none]
    exact .start
  | some setting =>
    simp only [List.filterMap_cons, List.filterMap_nil, Feature.event, chosen, Option.map_some]
    have inner : Event.Nested [.takes 1 setting, .gives 1] := .around [] 1 setting .idle (by simp)
    have nested : Event.Nested [.takes 0 setting, .takes 1 setting, .gives 1, .gives 0] :=
      .around _ 0 setting inner (by simp [Event.holder])
    exact Event.Restores.start.nested nested

theorem shared_device_restored_when_nested : (Shared.run ftdiHost nestedTurns).AllClosed ∧
    Shared.Restored ftdiHost.device (Shared.run ftdiHost nestedTurns).host.device :=
  ⟨nested_allClosed, (shared_device_restored_iff ftdiHost ⟨rfl, rfl⟩ nestedTurns).mpr
    ⟨nested_givenBack, nested_givenBack, nested_givenBack⟩⟩

/-- The second backend saved what the first had written, and leaves it behind. -/
theorem overlapped_not_restored :
    ZeroPadded ftdiHost.device.rs485 ∧ (Shared.run ftdiHost overlappedTurns).AllClosed ∧
      (Shared.run ftdiHost overlappedTurns).host.device.serial ≠ ftdiHost.device.serial ∧
      timerText (Shared.run ftdiHost overlappedTurns).host.device.sysfs "ttyUSB0" ≠
        timerText ftdiHost.device.sysfs "ttyUSB0" ∧
      (Shared.run ftdiHost overlappedTurns).host.device.rs485 ≠ ftdiHost.device.rs485 :=
  ⟨⟨rfl, rfl⟩, overlapped_allClosed, by decide +kernel, by decide +kernel, by decide +kernel⟩

end Runs

end Anyserial.Linux
