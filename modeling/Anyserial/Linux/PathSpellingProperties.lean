import Anyserial.Linux.DiscoveryProperties
import Anyserial.Linux.Lifecycle
import Anyserial.Linux.LowLatencyProperties

/-! The FTDI timer under the names of one port. The tuning looks for the timer under the
last component of the path as it is spelled, while the descriptor follows the links. -/
set_option autoImplicit false

namespace Anyserial.Linux

open Kit Posix

section Runs

variable {world after : LinuxWorld} {path : String}

/-- The timer file that a tuning of `path` comes to. -/
def visibleTimer (world : LinuxWorld) (path : String) : Option TimerText :=
  if world.host.faults .sysfsResolve .probe = none then ftdiTimerText world.host.device.sysfs path else none

def withSysfs (sysfs : Sysfs) (world : LinuxWorld) : LinuxWorld :=
  { world with host := { world.host with device := { world.host.device with sysfs := sysfs } } }

theorem visibleTimer_eq_some {text : TimerText} : visibleTimer world path = some text ↔
    world.host.faults .sysfsResolve .probe = none ∧ ftdiTimerText world.host.device.sysfs path = some text := by
  unfold visibleTimer
  split
  · rename_i accepted
    simp [accepted]
  · rename_i refused
    simp [refused]

theorem ends_ftdiLatencyTimerPath {returned : Option String → LinuxWorld → Prop} {raised : PyExc → LinuxWorld → Prop} :
    Ends (ftdiLatencyTimerPath path) world returned raised ↔
      returned ((visibleTimer world path).map fun _ => ttyName path) world := by
  simp only [ftdiLatencyTimerPath, ends_bind, ends_getHost]
  cases accepted : world.host.faults .sysfsResolve .probe with
  | some err => simp [visibleTimer, accepted]
  | none =>
    cases entered : world.host.device.sysfs (ttyName path) with
    | none => simp [visibleTimer, accepted, ftdiTimerText, entered]
    | some entry =>
      by_cases driver : entry.driver = some ftdiDriverName
      · cases timer : entry.latencyTimer with
        | none => simp [visibleTimer, accepted, ftdiTimerText, entered, driver, timer]
        | some text => simp [visibleTimer, accepted, ftdiTimerText, entered, driver, timer]
      · simp [visibleTimer, accepted, ftdiTimerText, entered, driver]

theorem setTimer_same {name : String} {value : Int} {sysfs : Sysfs} (reads : timerText sysfs name = some (.number value)) :
    setTimer name value sysfs = sysfs :=
  (timerRegister name).write_read value sysfs (by simp [timerRegister, reads])

/-- Writing back what the file held undoes every later write to it. -/
theorem setTimer_setTimer {name : String} {value : Int} {sysfs : Sysfs} (between : Int)
    (reads : timerText sysfs name = some (.number value)) :
    setTimer name value (setTimer name between sysfs) = sysfs :=
  ((timerRegister name).write_write between value sysfs).trans (setTimer_same reads)

/-- The run that finds no timer, and the run that finds a number. -/
theorem tune_eq_ok {saved : Option FtdiLatencyTimer} : tuneFtdiLatencyTimer path world = .ok saved after ↔
    (visibleTimer world path = none ∧ saved = none ∧ after = world) ∨
      ∃ value, visibleTimer world path = some (.number value) ∧ world.host.faults .sysfsRead .probe = none ∧
        (value ≠ ftdiLatencyTimerTargetMs → world.host.faults .sysfsWrite .apply = none) ∧
        saved = some ⟨ttyName path, value⟩ ∧
        after = withSysfs (setTimer (ttyName path) ftdiLatencyTimerTargetMs world.host.device.sysfs) world := by
  rw [eq_ok_iff_ends, tuneFtdiLatencyTimer, ends_bind, ends_ftdiLatencyTimerPath]
  cases seen : visibleTimer world path with
  | none => simp [eq_comm]
  | some text =>
    have held := timerText_of_ftdi (visibleTimer_eq_some.mp seen).2
    simp only [Option.map_some, ends_bind, readLatencyTimer, writeLatencyTimer, ends_getHost, ends_refuse, held]
    cases text with
    | garbage text =>
      simp only [ends_throw]
      constructor
      · rintro ⟨accepted, never⟩
        exact (never (Option.eq_none_iff_forall_ne_some.mpr accepted)).elim
      · rintro (⟨seen, _⟩ | ⟨value, seen, _⟩)
        · cases seen
        · cases seen
    | number value =>
      simp only [ends_pure, ends_whenever, ends_bind, ends_getHost, ends_refuse, ends_ite, ends_modifyDevice, ends_throw, held]
      constructor
      · rintro ⟨accepted, goesOn⟩
        have readable := Option.eq_none_iff_forall_ne_some.mpr accepted
        obtain ⟨writes, atTarget⟩ := goesOn readable
        refine .inr ⟨value, rfl, readable, ?_⟩
        by_cases same : value = ftdiLatencyTimerTargetMs
        · obtain ⟨saves, stays⟩ := atTarget (by simp [same])
          refine ⟨fun other => absurd same other, saves.symm, ?_⟩
          rw [setTimer_same (same ▸ held), ← stays]
          rfl
        · obtain ⟨accepted, goesOn⟩ := writes (by simp [same])
          have writable := Option.eq_none_iff_forall_ne_some.mpr accepted
          obtain ⟨saves, written⟩ := (goesOn writable).1 rfl
          exact ⟨fun _ => writable, saves.symm, written.symm⟩
      · rintro (⟨seen, _⟩ | ⟨value, seen, readable, writable, rfl, rfl⟩)
        · cases seen
        · cases seen
          refine ⟨fun err refused => by simp [readable] at refused, fun _ => ⟨fun other => ?_, fun same => ?_⟩⟩
          · have writable := writable (by simpa using other)
            refine ⟨fun err refused => by simp [writable] at refused, fun _ => ⟨fun _ => ⟨rfl, rfl⟩, fun missing => missing rfl⟩⟩
          · have same : value = ftdiLatencyTimerTargetMs := by simpa using same
            refine ⟨rfl, ?_⟩
            rw [setTimer_same (same ▸ held)]
            rfl

theorem restore_eq_ok {name : String} {value : Int} : restoreFtdiLatencyTimer ⟨name, value⟩ world = .ok () after ↔
    world.host.faults .sysfsWrite .restore = none ∧ (timerText world.host.device.sysfs name).isSome = true ∧
      after = withSysfs (setTimer name value world.host.device.sysfs) world := by
  rw [eq_ok_iff_ends, restoreFtdiLatencyTimer, writeLatencyTimer]
  simp only [ends_bind, ends_getHost, ends_refuse, ends_ite, ends_modifyDevice, ends_throw]
  constructor
  · rintro ⟨accepted, goesOn⟩
    have writable := Option.eq_none_iff_forall_ne_some.mpr accepted
    obtain ⟨written, there⟩ := goesOn writable
    exact ⟨writable, by_contra there, (written (by_contra there)).2.symm⟩
  · rintro ⟨writable, there, rfl⟩
    exact ⟨fun err refused => by simp [writable] at refused, fun _ => ⟨fun _ => ⟨trivial, rfl⟩, fun missing => missing there⟩⟩

end Runs

section Spelling

variable {world : LinuxWorld} {path node : String}

/-- The same backend, opened under another name. -/
def spelled (path : String) (world : LinuxWorld) : LinuxWorld := { world with backend := { world.backend with path := path } }

/-- What is to happen when the terminal at `node` is tuned under the name `path`. -/
structure TunesNode (world : LinuxWorld) (path node : String) : Prop where
  integer : ∀ value, ftdiTimerText world.host.device.sysfs node = some (.number value) →
    ∃ after, after = withSysfs (setTimer (ttyName node) ftdiLatencyTimerTargetMs world.host.device.sysfs) world ∧
      tuneFtdiLatencyTimer path world = .ok (some ⟨ttyName node, value⟩) after ∧
        restoreFtdiLatencyTimer ⟨ttyName node, value⟩ after = .ok () world
  other : (∀ value, ftdiTimerText world.host.device.sysfs node ≠ some (.number value)) →
    tuneFtdiLatencyTimer path world = .ok none world

/-- The name makes no difference to the timer nor to low-latency mode as a whole. -/
structure SpelledAlike (world : LinuxWorld) (path node : String) : Prop where
  tunes : TunesNode world path node
  same : tuneFtdiLatencyTimer path world = tuneFtdiLatencyTimer node world
  mode : ∀ policy, SameUpTo (spelled "") (enableLowLatencyMode policy (spelled path world))
    (enableLowLatencyMode policy (spelled node world))

/-- Both names come to the timer of the node, and none of its calls is refused. -/
def ComesToTimer (world : LinuxWorld) (path node : String) : Prop :=
  ttyName path = ttyName node ∧ ∃ value, visibleTimer world node = some (.number value) ∧
    world.host.faults .sysfsRead .probe = none ∧
      (value ≠ ftdiLatencyTimerTargetMs → world.host.faults .sysfsWrite .apply = none) ∧
        world.host.faults .sysfsWrite .restore = none

/-- The node has no timer that holds a number, and neither name comes to one. -/
def ComesToNothing (world : LinuxWorld) (path node : String) : Prop :=
  (∀ value, ftdiTimerText world.host.device.sysfs node ≠ some (.number value)) ∧
    visibleTimer world path = none ∧ visibleTimer world node = none

theorem visibleTimer_congr (same : ttyName path = ttyName node) : visibleTimer world path = visibleTimer world node := by
  simp only [visibleTimer, ftdiTimerText, same]

theorem tune_congr (same : ttyName path = ttyName node) :
    (tuneFtdiLatencyTimer path : Py LinuxWorld _) = tuneFtdiLatencyTimer node := by
  simp only [tuneFtdiLatencyTimer, ftdiLatencyTimerPath, same]

theorem tunesNode_of_timer (comes : ComesToTimer world path node) : TunesNode world path node := by
  obtain ⟨same, value, seen, readable, writable, restorable⟩ := comes
  obtain ⟨_, found⟩ := visibleTimer_eq_some.mp seen
  constructor
  case integer =>
    intro value' found'
    cases found.symm.trans found'
    have held := timerText_of_ftdi found
    refine ⟨_, rfl, ?_, ?_⟩
    · exact tune_eq_ok.mpr (.inr ⟨value, (visibleTimer_congr same).trans seen, readable, writable, same ▸ rfl, same ▸ rfl⟩)
    · refine restore_eq_ok.mpr ⟨restorable, timerText_setTimer_isSome (by simp [held]), ?_⟩
      show world = withSysfs (setTimer _ value (setTimer _ _ world.host.device.sysfs)) world
      rw [setTimer_setTimer _ held]
      rfl
  case other => exact fun other => absurd found (other value)

theorem tunesNode_of_nothing (comes : ComesToNothing world path node) : TunesNode world path node := by
  obtain ⟨other, hidden, _⟩ := comes
  constructor
  case integer => exact fun value found => absurd found (other value)
  case other => exact fun _ => tune_eq_ok.mpr (.inl ⟨hidden, rfl, rfl⟩)

theorem unaware_getHost : Unaware (spelled path) (getHost : Py LinuxWorld _) := .look fun _ => rfl

theorem unaware_getDevice : Unaware (spelled path) (getDevice : Py LinuxWorld _) := .look fun _ => rfl

theorem unaware_modifyDevice {f : Device → Device} : Unaware (spelled path) (modifyDevice f : Py LinuxWorld _) := .modify fun _ => rfl

theorem unaware_modifySlots {f : Slots → Slots} : Unaware (spelled path) (modifySlots f) := .modify fun _ => rfl

theorem unaware_refuse {raised : OSErr → PyExc} (result : Option OSErr) :
    Unaware (spelled path) (refuse raised result : Py LinuxWorld _) := by
  cases result with
  | none => exact .pure ()
  | some err => exact .throw _

theorem unaware_fcntlCall {fd : Int} {call : Syscall} {phase : Phase} :
    Unaware (spelled path) (fcntlCall fd call phase : Py LinuxWorld Unit) := by
  intro world
  show (if fd < 0 then throw negativeDescriptor else refuse .osError (world.host.refusal fd call phase)) (spelled path world) = _
  exact Unaware.ite (.throw _) (unaware_refuse _) world

theorem unaware_exceptOSError {α : Type} {body : Py LinuxWorld α} {handler : PyExc → Py LinuxWorld α}
    (tried : Unaware (spelled path) body) (handled : ∀ exc, Unaware (spelled path) (handler exc)) :
    Unaware (spelled path) (exceptOSError body handler) :=
  .tryCatch tried fun exc => .ite (handled exc) (.throw exc)

theorem unaware_handleUnsupported {exc : PyExc} {policy : UnsupportedPolicy} {feature : String} :
    Unaware (spelled path) (handleUnsupported exc policy feature) := by
  cases policy with
  | raise => exact .throw _
  | warn => exact Unaware.modify fun _ => rfl
  | ignore => exact .pure ()

theorem unaware_enableLowLatency {fd : Int} : Unaware (spelled path) (enableLowLatency fd : Py LinuxWorld _) := by
  have reads : Unaware (spelled path) (readSerialFlags fd : Py LinuxWorld _) :=
    unaware_fcntlCall.bind fun _ => unaware_getDevice.bind fun _ => .pure _
  have writes (flags : BitVec 32) (phase : Phase) : Unaware (spelled path) (writeSerialFlags fd flags phase : Py LinuxWorld _) :=
    unaware_fcntlCall.bind fun _ => unaware_getDevice.bind fun _ => unaware_fcntlCall.bind fun _ => unaware_modifyDevice
  exact reads.bind fun original => .ite (.pure original) ((writes _ _).bind fun _ => .pure original)

theorem unaware_enableFlags {policy : UnsupportedPolicy} : Unaware (spelled path) (enableFlags policy) := by
  intro world
  have body : Unaware (spelled path) (do
      let original ← enableLowLatency world.backend.fd
      modifySlots fun slots => { slots with savedAsyncFlags := some original }) :=
    unaware_enableLowLatency.bind fun _ => unaware_modifySlots
  exact unaware_exceptOSError body (fun _ => unaware_handleUnsupported.bind fun _ => unaware_modifySlots) world

theorem unaware_tuneFtdiLatencyTimer {name : String} : Unaware (spelled path) (tuneFtdiLatencyTimer name : Py LinuxWorld _) := by
  have finds : Unaware (spelled path) (ftdiLatencyTimerPath name : Py LinuxWorld _) := by
    refine unaware_getHost.bind fun host => ?_
    dsimp only
    split
    · exact .ite (.pure _) (.pure _)
    · exact .pure _
  refine finds.bind fun found => ?_
  cases found with
  | none => exact .pure _
  | some file =>
    have reads : Unaware (spelled path) (readLatencyTimer file : Py LinuxWorld _) := by
      refine unaware_getHost.bind fun host => (unaware_refuse _).bind fun _ => ?_
      split
      · exact .pure _
      · exact .throw _
      · exact .throw _
    have writes (value : Int) : Unaware (spelled path) (writeLatencyTimer file value .apply : Py LinuxWorld _) :=
      unaware_getHost.bind fun _ => (unaware_refuse _).bind fun _ => .ite unaware_modifyDevice (.throw _)
    exact reads.bind fun original => (Unaware.ite (writes _) (.pure ())).bind fun _ => .pure _

/-- The second half of low-latency mode, for a given name. -/
def tuneNamed (path : String) (policy : UnsupportedPolicy) : Py LinuxWorld Unit :=
  exceptOSError
    (do
      let saved ← tuneFtdiLatencyTimer path
      modifySlots fun slots => { slots with ftdiTimer := saved })
    fun exc => do
      handleUnsupported exc policy "FTDI latency_timer"
      modifySlots fun slots => { slots with ftdiTimer := none }

theorem tuneTimer_spelled {policy : UnsupportedPolicy} :
    tuneTimer policy (spelled path world) = moveState (spelled path) (tuneNamed path policy world) := by
  have unaware : Unaware (spelled path) (tuneNamed path policy) :=
    unaware_exceptOSError (unaware_tuneFtdiLatencyTimer.bind fun _ => unaware_modifySlots) fun _ =>
      unaware_handleUnsupported.bind fun _ => unaware_modifySlots
  exact unaware world

theorem tuneNamed_congr {policy : UnsupportedPolicy} (same : tuneFtdiLatencyTimer path world = tuneFtdiLatencyTimer node world) :
    tuneNamed path policy world = tuneNamed node policy world := by
  have body : (do let saved ← tuneFtdiLatencyTimer path; modifySlots fun slots => { slots with ftdiTimer := saved }) world =
      (do let saved ← tuneFtdiLatencyTimer node; modifySlots fun slots => { slots with ftdiTimer := saved }) world := by
    simp only [bind, EStateM.bind, same]
  simp only [tuneNamed, exceptOSError, tryCatch, tryCatchThe, MonadExceptOf.tryCatch, EStateM.tryCatch, body]

/-- What the tuning looks at before it writes. -/
def timerView (world : LinuxWorld) : Faults × Sysfs := (world.host.faults, world.host.device.sysfs)

theorem keeps_enableFlags_timerView {policy : UnsupportedPolicy} : Keeps (SameView timerView) (enableFlags policy) := by
  have writes {fd : Int} {flags : BitVec 32} {phase : Phase} : Keeps (SameView timerView) (writeSerialFlags fd flags phase) :=
    keeps_fcntlCall.bind fun _ => keeps_getDevice.bind fun _ => keeps_fcntlCall.bind fun _ => Keeps.modify fun _ => rfl
  have enables {fd : Int} : Keeps (SameView timerView) (enableLowLatency fd) :=
    (keeps_fcntlCall.bind fun _ => keeps_getDevice.bind fun _ => .pure _).bind fun original =>
      .ite (fun _ => .pure original) fun _ => writes.bind fun _ => .pure original
  intro world
  have body : Keeps (SameView timerView) (do
      let original ← enableLowLatency world.backend.fd
      modifySlots fun slots => { slots with savedAsyncFlags := some original }) :=
    enables.bind fun _ => Keeps.modify fun _ => rfl
  have handled (exc : PyExc) : Keeps (SameView timerView) (do
      handleUnsupported exc policy "ASYNC_LOW_LATENCY"
      modifySlots fun slots => { slots with savedAsyncFlags := none }) :=
    (keeps_handleUnsupported (fun _ _ => rfl) exc policy _).bind fun _ => Keeps.modify fun _ => rfl
  exact keeps_exceptOSError body handled world

/-- The flags do not depend on the name, and the timer does not change before its turn. -/
theorem sameMode (same : ∀ after, timerView after = timerView world →
    tuneFtdiLatencyTimer path after = tuneFtdiLatencyTimer node after) (policy : UnsupportedPolicy) :
    SameUpTo (spelled "") (enableLowLatencyMode policy (spelled path world)) (enableLowLatencyMode policy (spelled node world)) := by
  have kept : Ends (enableFlags policy) world (fun _ after => SameView timerView world after)
      fun _ after => SameView timerView world after := keeps_enableFlags_timerView world
  unfold Ends at kept
  simp only [enableLowLatencyMode, bind, EStateM.bind, unaware_enableFlags world]
  cases ran : enableFlags policy world with
  | error exc after => exact ⟨rfl, rfl⟩
  | ok value after =>
    rw [ran] at kept
    simp only [moveState, tuneTimer_spelled, tuneNamed_congr (same after kept)]
    exact SameUpTo.moveState _ fun _ => rfl

theorem spelledAlike_of_comes (comes : ComesToTimer world path node ∨ ComesToNothing world path node) :
    SpelledAlike world path node := by
  rcases comes with timer | nothing
  · obtain ⟨same, _⟩ := id timer
    have congr := tune_congr same
    exact ⟨tunesNode_of_timer timer, congrFun congr world, sameMode fun after _ => congrFun congr after⟩
  · have silent {name : String} {after : LinuxWorld} (hidden : visibleTimer world name = none)
        (view : timerView after = timerView world) : tuneFtdiLatencyTimer name after = .ok none after := by
      obtain ⟨faults, sysfs⟩ := Prod.mk.inj view
      refine tune_eq_ok.mpr (.inl ⟨?_, rfl, rfl⟩)
      rwa [visibleTimer, faults, sysfs]
    obtain ⟨_, hidden, hiddenNode⟩ := id nothing
    have same (after : LinuxWorld) (view : timerView after = timerView world) :
        tuneFtdiLatencyTimer path after = tuneFtdiLatencyTimer node after :=
      (silent hidden view).trans (silent hiddenNode view).symm
    exact ⟨tunesNode_of_nothing nothing, same world rfl, sameMode same⟩

theorem comes_of_spelledAlike (alike : SpelledAlike world path node) : ComesToTimer world path node ∨ ComesToNothing world path node := by
  by_cases integer : ∃ value, ftdiTimerText world.host.device.sysfs node = some (.number value)
  · obtain ⟨value, found⟩ := integer
    obtain ⟨after, rfl, tuned, restored⟩ := alike.tunes.integer value found
    obtain ⟨restorable, _⟩ := restore_eq_ok.mp restored
    obtain ⟨_, nothing, _⟩ | ⟨value', seen, readable, writable, saves, _⟩ := tune_eq_ok.mp tuned
    · cases nothing
    · obtain ⟨accepted, _⟩ := visibleTimer_eq_some.mp seen
      obtain ⟨same, number⟩ := FtdiLatencyTimer.mk.inj (Option.some.inj saves)
      subst number
      exact .inl ⟨same.symm, value, visibleTimer_eq_some.mpr ⟨accepted, found⟩, readable, writable, restorable⟩
  · have other : ∀ value, ftdiTimerText world.host.device.sysfs node ≠ some (.number value) :=
      fun value found => integer ⟨value, found⟩
    have hidden {name : String} (tuned : tuneFtdiLatencyTimer name world = .ok none world) : visibleTimer world name = none := by
      obtain ⟨hidden, _⟩ | ⟨_, _, _, _, saves, _⟩ := tune_eq_ok.mp tuned
      · exact hidden
      · cases saves
    have nothing := alike.tunes.other other
    exact .inr ⟨other, hidden nothing, hidden (alike.same.symm.trans nothing)⟩

/-- Two names, of one node or not, are tuned alike exactly when the one ends as the other does
and there is a timer to tune, or when neither leads to a timer. -/
theorem spelledAlike_iff (world : LinuxWorld) (path node : String) :
    SpelledAlike world path node ↔ ComesToTimer world path node ∨ ComesToNothing world path node :=
  ⟨comes_of_spelledAlike, spelledAlike_of_comes⟩

theorem spelledAlike_own_name :
    aliasedTree.resolve "serial/../ttyUSB0" = some ["dev", "ttyUSB0"] ∧
      SpelledAlike (start ftdiHost) "serial/../ttyUSB0" "/dev/ttyUSB0" := by
  have leads : aliasedTree.resolve "serial/../ttyUSB0" = some ["dev", "ttyUSB0"] := by decide +kernel
  have comes : ComesToTimer (start ftdiHost) "serial/../ttyUSB0" "/dev/ttyUSB0" :=
    ⟨by decide +kernel, 16, by decide +kernel, rfl, fun _ => rfl, rfl⟩
  exact ⟨leads, (spelledAlike_iff (start ftdiHost) "serial/../ttyUSB0" "/dev/ttyUSB0").mpr (.inl comes)⟩

/-- Under its alias the port is not tuned at all. -/
theorem alias_not_tuned :
    aliasedTree.resolve "/dev/serial/by-id/usb-FTDI-port0" = some ["dev", "ttyUSB0"] ∧
      ¬SpelledAlike (start ftdiHost) "/dev/serial/by-id/usb-FTDI-port0" (FileSystem.text ["dev", "ttyUSB0"]) := by
  refine ⟨by decide +kernel, fun alike => ?_⟩
  have found : ftdiTimerText (start ftdiHost).host.device.sysfs (FileSystem.text ["dev", "ttyUSB0"]) = some (.number 16) := by
    decide +kernel
  have hidden : visibleTimer (start ftdiHost) "/dev/serial/by-id/usb-FTDI-port0" = none := by decide +kernel
  obtain ⟨after, _, tuned, _⟩ := alike.tunes.integer 16 found
  cases tuned.symm.trans (tune_eq_ok.mpr (.inl ⟨hidden, rfl, rfl⟩))

end Spelling

end Anyserial.Linux
