import Anyserial.Windows.DcbProperties
import Anyserial.Windows.StepProperties

/-! The settings of the line over whole runs of the port: the device is always set to the
configuration that the port reports, and it is driven on a break while a `send_break` sleeps. -/
set_option autoImplicit false

namespace Anyserial.Windows

open Kit

variable {state next final : AsyncState} {port : AsyncPort} {call : Anyserial.Call} {frame : Frame} {me : Nat}
  {progress : AsyncProgress} {path : String} {config : SerialConfig} {handle : Handle} {world : WindowsWorld}

def AsyncState.device (state : AsyncState) : CommDevice := state.port.backend.windows.host.device

section Configuration

/-- The device has the settings of the configuration that the port and its backend report.
`prior` is the DCB that the open found. -/
structure Configured (prior : Dcb) (state : AsyncState) : Prop where
  reads : state.device.dcb.read =
    .ok { SerialConfig.reading state.port.config with baudrate := state.port.config.baudrate % 2 ^ 32 }
  reserved : SameReserved state.device.dcb prior
  timeouts : state.device.timeouts = buildReadAnyTimeouts
  backend : state.port.backend.windows.backend.config = some state.port.config

/-- The settings that a configuration is made of. -/
structure SameConfiguration (before after : AsyncState) : Prop where
  dcb : after.device.dcb = before.device.dcb
  timeouts : after.device.timeouts = before.device.timeouts
  config : after.port.config = before.port.config
  backend : after.port.backend.windows.backend.config = before.port.backend.windows.backend.config

/-- The task `me` has just applied its configuration. -/
structure Reconfigured (before after : AsyncState) (me : Nat) : Prop where
  waited : ∃ acquired, before.frame me = some (.configure after.port.config, .configuring after.port.config acquired)
  returned : ∃ value, after.tasks[me]? = some ⟨.configure after.port.config, .returned value⟩
  dcb : after.device.dcb = before.device.dcb.applyConfig after.port.config
  timeouts : after.device.timeouts = before.device.timeouts
  backend : after.port.backend.windows.backend.config = some after.port.config

theorem sameConfiguration_of_settings (same : (settings next.port).dcb = (settings state.port).dcb ∧
    (settings next.port).timeouts = (settings state.port).timeouts ∧ (settings next.port).config = (settings state.port).config ∧
    (settings next.port).backend = (settings state.port).backend) : SameConfiguration state next :=
  ⟨same.1, same.2.1, same.2.2.1, congrArg WindowsBackend.config same.2.2.2⟩

/-- No first segment of a call changes the configuration. -/
theorem Moves.configuration {before after : View} (moves : Moves progress before after call) :
    after.dcb = before.dcb ∧ after.timeouts = before.timeouts ∧ after.config = before.config ∧ after.backend = before.backend := by
  cases call with
  | resetInputBuffer =>
    obtain rfl | rfl := moves
    · exact ⟨rfl, rfl, rfl, rfl⟩
    · exact ⟨rfl, rfl, rfl, rfl⟩
  | sendBreak duration =>
    cases progress with
    | parked frame =>
      obtain ⟨_, rfl⟩ := moves
      exact ⟨rfl, rfl, rfl, rfl⟩
    | returned value | raised exc =>
      have same : after = { before with breakOn := after.breakOn } := moves
      rw [same]
      exact ⟨rfl, rfl, rfl, rfl⟩
  | _ =>
    obtain rfl : after = before := moves
    exact ⟨rfl, rfl, rfl, rfl⟩

/-- A resumption changes it only when a `configure` returns. -/
theorem Goes.configuration {before : AsyncPort} {after : View} (goes : Goes before progress after frame) :
    (after.dcb = (portView before).dcb ∧ after.timeouts = (portView before).timeouts ∧
      after.config = (portView before).config ∧ after.backend = (portView before).backend) ∨
      ∃ config acquired value, frame = .configuring config acquired ∧ progress = .returned value ∧
        after = reconfigured config (portView before) := by
  cases frame with
  | breaking =>
    obtain ⟨_, rfl⟩ := goes
    exact .inl ⟨rfl, rfl, rfl, rfl⟩
  | configuring config acquired =>
    cases progress with
    | parked next => exact goes.elim
    | returned value => exact .inr ⟨config, acquired, value, rfl, rfl, goes⟩
    | raised exc =>
      obtain rfl : after = portView before := goes
      exact .inl ⟨rfl, rfl, rfl, rfl⟩
  | _ =>
    obtain rfl : after = portView before := goes
    exact .inl ⟨rfl, rfl, rfl, rfl⟩

theorem configuration_of_stepped {label : AsyncLabel} (stepped : Stepped state label next) :
    SameConfiguration state next ∨ ∃ me, Reconfigured state next me := by
  cases stepped with
  | @call call cancelled refusals progress port settled began =>
    exact .inl (sameConfiguration_of_settings began.moves.configuration)
  | @resume label me refusals call frame cancelled taken sent before progress port resumes found serves same refused settled went =>
    have inside := lt_of_frame found
    have start : settings before = settings state.port := same.settings
    obtain ⟨dcb, timeouts, config, backend⟩ | ⟨config, acquired, value, rfl, rfl, after⟩ := went.moves.configuration
    · refine .inl (sameConfiguration_of_settings ⟨?_, ?_, ?_, ?_⟩)
      · exact dcb.trans (congrArg Settings.dcb start)
      · exact timeouts.trans (congrArg Settings.timeouts start)
      · exact config.trans (congrArg Settings.config start)
      · exact backend.trans (congrArg Settings.backend start)
    · obtain rfl : call = .configure config := serves.1
      have set : settings port = (reconfigured config (portView before)).toSettings := congrArg View.toSettings after
      have applied : port.config = config := congrArg Settings.config set
      have overlaid : (settings before).dcb.applyConfig config = (settings state.port).dcb.applyConfig port.config := by
        rw [start, applied]
      refine .inr ⟨me, ?_, ?_, ?_, ?_, ?_⟩
      · exact ⟨acquired, applied.symm ▸ found⟩
      · exact ⟨value, applied.symm ▸ List.getElem?_set_self inside⟩
      · exact (congrArg Settings.dcb set).trans overlaid
      · exact (congrArg Settings.timeouts set).trans (congrArg Settings.timeouts start)
      · exact (congrArg (fun settings => settings.backend.config) set).trans (congrArg some applied.symm)
  | complete found waited waits same =>
    have kept := same.settings
    exact .inl (sameConfiguration_of_settings (by rw [kept]; exact ⟨rfl, rfl, rfl, rfl⟩))
  | aclose kept closes => exact .inl ⟨kept.dcb, kept.timeouts, kept.config, kept.backend⟩
  | line same =>
    have kept := same.settings
    exact .inl (sameConfiguration_of_settings (by rw [kept]; exact ⟨rfl, rfl, rfl, rfl⟩))

theorem Configured.same {prior : Dcb} (configured : Configured prior state) (same : SameConfiguration state next) :
    Configured prior next :=
  ⟨by rw [same.dcb, same.config]; exact configured.reads, same.dcb ▸ configured.reserved, same.timeouts.trans configured.timeouts,
    by rw [same.backend, same.config]; exact configured.backend⟩

theorem SameReserved.trans {first second third : Dcb} (one : SameReserved first second) (two : SameReserved second third) :
    SameReserved first third :=
  ⟨one.fDummy2.trans two.fDummy2, one.wReserved.trans two.wReserved, one.wReserved1.trans two.wReserved1⟩

theorem Configured.reconfigured {prior : Dcb} (configured : Configured prior state) (applied : Reconfigured state next me) :
    Configured prior next := by
  constructor
  case reads =>
    rw [applied.dcb]
    exact read_applyConfig _ _
  case reserved =>
    rw [applied.dcb]
    exact (applyConfig_reserved _ _).trans configured.reserved
  case timeouts => exact applied.timeouts.trans configured.timeouts
  case backend => exact applied.backend

def lineTimeouts (world : WindowsWorld) : CommTimeouts := world.host.device.timeouts

theorem sameTimeouts_kernelCall {call : Kernel32Call} : Keeps (SameView lineTimeouts) (kernelCall call handle) := by
  intro world
  rw [ends_kernelCall]
  exact ⟨fun _ _ => rfl, fun _ => rfl⟩

theorem sameTimeouts_attach : Keeps (SameView lineTimeouts) (attach handle) := by
  have registers : Keeps (SameView lineTimeouts) (registerIocp handle) :=
    sameTimeouts_kernelCall.bind fun _ => Keeps.bind (Keeps.get.map _) fun _ => .ite (fun _ => .throw _) fun _ => .pure ()
  have masks : Keeps (SameView lineTimeouts) (setCommMask handle evAllModem) :=
    sameTimeouts_kernelCall.bind fun _ => Keeps.modify fun _ => rfl
  refine Keeps.bind (Keeps.get.map _) fun backend => .ite (fun _ => registers.bind fun _ => masks) fun _ => ?_
  exact .bind (.modify fun _ => rfl) fun _ => registers.bind fun _ => masks

/-- The last call that sets up the handle sets the timeouts. -/
theorem setUpComm_timeouts :
    Ends (setUpComm handle config) world (fun _ after => lineTimeouts after = buildReadAnyTimeouts) fun _ _ => True := by
  simp only [setUpComm, ends_bind, ends_kernelCall, ends_modifyDevice]
  refine ⟨fun _ _ => trivial, fun _ => ends_of_forall (fun _ _ => ⟨fun _ _ => trivial, fun _ => rfl⟩) fun _ _ => trivial⟩

/-- The timeouts and the configuration that an open leaves behind. -/
theorem openPort_settings :
    Ends (openPort path config) world
      (fun _ after => lineTimeouts after = buildReadAnyTimeouts ∧ after.backend.config = some config) fun _ _ => True := by
  simp only [openPort, ends_bind, ends_getBackend, ends_ite, ends_throw]
  refine ⟨fun _ => trivial, fun _ => ?_⟩
  simp only [ends_modifyBackend, ends_getHost]
  cases detectRuntime world.host.eventLoop with
  | error exc => trivial
  | ok flavour =>
    simp only [ends_bind, ends_modifyBackend]
    refine ends_of_forall (fun handle created => ?_) fun _ _ => trivial
    rw [ends_exceptOSError]
    refine setUpComm_timeouts.mono (fun _ ready set => ?_) fun exc failed _ => ⟨fun _ => ?_, fun _ => trivial⟩
    · exact (sameTimeouts_attach ready).mono (fun _ attached kept => ⟨kept.trans set, trivial⟩) fun _ _ _ => trivial
    · rw [ends_bind]
      exact ends_of_forall (fun _ _ => trivial) fun _ _ => trivial

/-- What the port starts its run with. -/
theorem configured_opened {opened after : WindowsWorld} (opens : openSerialPort path config world = .ok opened after) (line : Line) :
    Configured (lineDcb world) (.opened opened line config) := by
  have set : Ends (openSerialPort path config) world
      (fun opened _ => lineDcb opened = (lineDcb world).applyConfig config ∧ lineTimeouts opened = buildReadAnyTimeouts ∧
        opened.backend.config = some config) fun _ _ => True := by
    rw [openSerialPort, ends_bind]
    exact (openPort_dcb.and openPort_settings).mono (fun _ _ done => done) fun _ _ _ => trivial
  obtain ⟨dcb, timeouts, backend⟩ := (ends_of_ok opens).mp set
  constructor
  case reads => exact (congrArg Dcb.read dcb).trans (read_applyConfig _ _)
  case reserved =>
    change SameReserved (lineDcb opened) (lineDcb world)
    rw [dcb]
    exact applyConfig_reserved _ _
  case timeouts => exact timeouts
  case backend => exact backend

/-- The configuration was given to the open, or to a call of `configure` that has returned. -/
def Requested (config : SerialConfig) (state : AsyncState) : Prop :=
  state.port.config = config ∨ ∃ (me : Nat) (value : Value),
    state.tasks[me]? = some (⟨.configure state.port.config, .returned value⟩ : AsyncTask)

/-- A task that has returned is left as it is. -/
theorem returned_of_stepped {label : AsyncLabel} (stepped : Stepped state label next) {value : Value}
    (found : state.tasks[me]? = some ⟨call, .returned value⟩) : next.tasks[me]? = some ⟨call, .returned value⟩ := by
  have other : ∀ {mover : Nat} {moving : Anyserial.Call} {frame : Frame} {task : AsyncTask}, state.frame mover = some (moving, frame) →
      (state.tasks.set mover task)[me]? = some ⟨call, .returned value⟩ := by
    intro mover moving frame task parked
    have different : mover ≠ me := by
      intro same
      subst same
      cases (tasks_of_frame parked).symm.trans found
    rw [List.getElem?_set_ne different]
    exact found
  cases stepped with
  | call settled began => exact getElem?_concat_iff.mpr (.inl found)
  | resume resumes parked serves same refused settled went => exact other parked
  | complete parked waited waits same => exact other parked
  | aclose kept closes => exact found
  | line same => exact found

/-- In every run from a port that was opened, whatever is refused or cancelled in it, the device
is set to the configuration that the port reports. That is the one given to the open or to a
call of `configure` that has returned, and only the return of such a call changes it. -/
theorem device_follows_configuration {opened after : WindowsWorld} {line : Line} {labels : List AsyncLabel} (fresh : line.Fresh)
    (opens : openSerialPort path config world = .ok opened after)
    (ran : run asyncStep (.opened opened line config) labels = some final) :
    Configured (lineDcb world) final ∧ Requested config final ∧
      ∀ label next, asyncStep final label = some next → SameConfiguration final next ∨ ∃ me, Reconfigured final next me := by
  have known : IntactState False final ∧ Configured (lineDcb world) final ∧ Requested config final := by
    refine run_invariant (fun state => IntactState False state ∧ Configured (lineDcb world) state ∧ Requested config state)
      ⟨intact_of_fresh opened config fresh, configured_opened opens line, .inl rfl⟩ (fun state label next known stepped => ?_) ran
    obtain ⟨intact, configured, requested⟩ := known
    have moved := stepped_of_asyncStep intact stepped
    refine ⟨intact_of_step intact stepped, ?_⟩
    obtain same | ⟨me, applied⟩ := configuration_of_stepped moved
    · refine ⟨configured.same same, ?_⟩
      obtain first | ⟨me, value, found⟩ := requested
      · exact .inl (same.config.trans first)
      · exact .inr ⟨me, value, same.config ▸ returned_of_stepped moved found⟩
    · obtain ⟨value, found⟩ := applied.returned
      exact ⟨configured.reconfigured applied, .inr ⟨me, value, found⟩⟩
  obtain ⟨intact, configured, requested⟩ := known
  exact ⟨configured, requested, fun label next stepped => configuration_of_stepped (stepped_of_asyncStep intact stepped)⟩

theorem openSerialPort_of_openPort {after : WindowsWorld} (ran : openPort path config world = .ok () after) :
    openSerialPort path config world = .ok after after := by
  change EStateM.bind (openPort path config) (fun _ => get) world = _
  rw [EStateM.bind, ran]
  rfl

/-- Of two calls of `configure`, the second one is refused by the driver. -/
theorem device_follows_configuration_of_refused :
    ∃ final, run asyncStep (.opened (finalState (openPort "COM3" .defaults) ⟨{}, comHost .proactor {}⟩) silentLine .defaults)
        [.call (.configure { baudrate := 9600 }) false {}, .call (.configure { baudrate := 19200 }) false {},
          .wake 0 {}, .wake 1 { faults := refusing .setCommState }] = some final ∧
      final.port.config = { baudrate := 9600 } ∧ Configured .zero final ∧ Requested .defaults final := by
  have outcome : (run asyncStep (.opened (finalState (openPort "COM3" .defaults) ⟨{}, comHost .proactor {}⟩) silentLine .defaults)
      [.call (.configure { baudrate := 9600 }) false {}, .call (.configure { baudrate := 19200 }) false {},
        .wake 0 {}, .wake 1 { faults := refusing .setCommState }]).map (fun final => final.port.config) =
      some { baudrate := 9600 } := by decide +kernel
  have opens : returns (openPort "COM3" .defaults) ⟨{}, comHost .proactor {}⟩ = true := by decide +kernel
  obtain ⟨final, ran, config⟩ := Option.map_eq_some_iff.mp outcome
  obtain ⟨configured, requested, _⟩ :=
    device_follows_configuration ⟨rfl, rfl⟩ (openSerialPort_of_openPort (eq_ok_of_returns opens)) ran
  exact ⟨final, ran, config, configured, requested⟩

end Configuration

section Break

/-- A `send_break` sleeps. -/
def Breaking (state : AsyncState) (me : Nat) : Prop := ∃ call, state.frame me = some (call, .breaking)

/-- No step leaves the break on for good: the kernel ends every break that it is asked to end,
and the port is not closed while one sleeps. -/
def EndsBreaks (state : AsyncState) : AsyncLabel → Prop
  | .call (.sendBreak duration) _ refusals => refusals.sleeps duration = true ∨ refusals.line .clearCommBreak = none
  | .wake me refusals => Breaking state me → refusals.line .clearCommBreak = none
  | .cancel me _ refusals => Breaking state me → refusals.line .clearCommBreak = none
  | .aclose (.resume _ _) _ => state.port.closed = true ∨ ∀ me, ¬Breaking state me
  | _ => True

/-- The line is driven on a break exactly while a call sleeps, on a handle that is open. -/
structure BreakHeld (state : AsyncState) : Prop where
  on : state.line.breakOn = true ↔ ∃ me, Breaking state me
  live : ∀ me, Breaking state me → (settings state.port).backend.handle ∈ (settings state.port).live

theorem breaking_iff_of_frame (found : state.frame me = some (call, frame)) : Breaking state me ↔ frame = .breaking := by
  constructor
  · intro asleep
    obtain ⟨_, same⟩ := asleep
    cases same.symm.trans found
    rfl
  · intro same
    exact ⟨call, same ▸ found⟩

theorem sendBreak_of_breaking {sent : Bytes} (serves : Frame.breaking.Serves call sent) : ∃ duration, call = .sendBreak duration :=
  serves.1

theorem breaking_of_sendBreak {sent : Bytes} {duration : Number} (serves : frame.Serves (.sendBreak duration) sent) :
    frame = .breaking := by
  cases frame with
  | reading => exact serves.1.elim
  | writing => cases serves.1
  | flushing => simp [Frame.Serves] at serves
  | breaking => rfl
  | configuring => cases serves.1

/-- One break at a time. -/
theorem breaking_unique {other : Nat} (intact : IntactState False state) (mine : Breaking state me) (others : Breaking state other) :
    me = other := by
  obtain ⟨senders, carried, intact⟩ := intact
  obtain ⟨call, found⟩ := mine
  obtain ⟨rival, foundRival⟩ := others
  exact intact.streamsIntact.exclusive .sending me other _ _ (tasks_of_frame found) (tasks_of_frame foundRival) rfl rfl

theorem Moves.breakOn {before after : View} (moves : Moves progress before after call) :
    (∃ duration frame, call = .sendBreak duration ∧ progress = .parked frame ∧ before.backend.handle ∈ before.live ∧
      after = { before with breakOn := true }) ∨
    ((∀ duration frame, call = .sendBreak duration → progress ≠ .parked frame) ∧
      ((∀ duration, call ≠ .sendBreak duration) → after.breakOn = before.breakOn) ∧
      after.backend = before.backend ∧ after.live = before.live) := by
  cases call with
  | resetInputBuffer =>
    obtain rfl | rfl := moves
    · exact .inr ⟨by simp, fun _ => rfl, rfl, rfl⟩
    · exact .inr ⟨by simp, fun _ => rfl, rfl, rfl⟩
  | sendBreak duration =>
    cases progress with
    | parked frame => exact .inl ⟨duration, frame, rfl, rfl, moves.1, moves.2⟩
    | returned value | raised exc =>
      have same : after = { before with breakOn := after.breakOn } := moves
      rw [same]
      exact .inr ⟨by simp, fun other => absurd rfl (other duration), rfl, rfl⟩
  | _ =>
    obtain rfl : after = before := moves
    exact .inr ⟨by simp, fun _ => rfl, rfl, rfl⟩

/-- A first segment that does not go to sleep leaves the line as it found it, where a break that
has no sleep is released. -/
theorem Began.breakOn {before after : AsyncPort} (began : Began call before progress after)
    (awake : ∀ duration frame, call = .sendBreak duration → progress ≠ .parked frame)
    (level : (∀ duration, call ≠ .sendBreak duration) → (portView after).breakOn = (portView before).breakOn)
    (released : ∀ duration, call = .sendBreak duration →
      before.backend.sleeps duration = true ∨ before.backend.refused .clearCommBreak = none)
    (quiet : before.guarded .sending = false → before.backend.line.breakOn = false) :
    after.backend.line.breakOn = before.backend.line.breakOn := by
  by_cases breaks : ∃ duration, call = .sendBreak duration
  · obtain ⟨duration, rfl⟩ := breaks
    obtain same | ⟨free, unslept⟩ := began.unslept fun frame => awake duration frame rfl
    · exact same
    · obtain ⟨_, same, slept⟩ := unslept.call
      cases same
      obtain sleeps | granted := released _ rfl
      · cases slept.symm.trans sleeps
      · exact (unslept.released granted).trans (quiet free).symm
  · exact level (not_exists.mp breaks)

/-- What a resumption leaves alone when its call was not asleep in a break. -/
theorem Goes.breakOn {before : AsyncPort} {after : View} (goes : Goes before progress after frame) (awake : frame ≠ .breaking) :
    after.breakOn = (portView before).breakOn ∧ after.backend.handle = (portView before).backend.handle ∧
      after.live = (portView before).live := by
  cases frame with
  | breaking => exact absurd rfl awake
  | configuring config acquired =>
    cases progress with
    | parked next => exact goes.elim
    | returned value | raised exc =>
      cases goes
      exact ⟨rfl, rfl, rfl⟩
  | _ =>
    obtain rfl : after = portView before := goes
    exact ⟨rfl, rfl, rfl⟩

theorem BreakHeld.of_same (held : BreakHeld state) (breaking : ∀ other, Breaking next other ↔ Breaking state other)
    (on : (settings next.port).breakOn = (settings state.port).breakOn)
    (live : ∀ me, Breaking state me → (settings next.port).backend.handle ∈ (settings next.port).live) : BreakHeld next := by
  constructor
  case on =>
    have same : next.line.breakOn = state.line.breakOn := on
    rw [same, held.on]
    simp only [breaking]
  case live => exact fun me asleep => live me ((breaking me).mp asleep)

theorem breaking_concat_iff {other : Nat} : Breaking ⟨port, state.tasks ++ [⟨call, progress⟩]⟩ other ↔
    Breaking state other ∨ other = state.tasks.length ∧ progress = .parked .breaking := by
  unfold Breaking
  simp only [frame_concat_iff]
  constructor
  · intro asleep
    obtain ⟨_, earlier | ⟨rfl, same⟩⟩ := asleep
    · exact .inl ⟨_, earlier⟩
    · exact .inr ⟨rfl, (congrArg AsyncTask.progress same).symm⟩
  · intro asleep
    obtain ⟨_, earlier⟩ | ⟨rfl, rfl⟩ := asleep
    · exact ⟨_, .inl earlier⟩
    · exact ⟨call, .inr ⟨rfl, rfl⟩⟩

theorem breaking_set_iff {other : Nat} (inside : me < state.tasks.length) :
    Breaking ⟨port, state.tasks.set me ⟨call, progress⟩⟩ other ↔
      me = other ∧ progress = .parked .breaking ∨ me ≠ other ∧ Breaking state other := by
  unfold Breaking
  simp only [frame_set_iff inside]
  constructor
  · intro asleep
    obtain ⟨_, ⟨rfl, same⟩ | ⟨different, found⟩⟩ := asleep
    · exact .inl ⟨rfl, congrArg AsyncTask.progress same⟩
    · exact .inr ⟨different, _, found⟩
  · intro asleep
    obtain ⟨rfl, rfl⟩ | ⟨different, other, found⟩ := asleep
    · exact ⟨call, .inl ⟨rfl, rfl⟩⟩
    · exact ⟨other, .inr ⟨different, found⟩⟩

/-- Nobody sleeps while the guard of the senders is free. -/
theorem BreakHeld.quiet (intact : IntactState False state) (held : BreakHeld state) (free : state.port.guarded .sending = false) :
    state.port.backend.line.breakOn = false := by
  by_contra on
  obtain ⟨me, call, found⟩ := held.on.mp (Bool.not_eq_false _ ▸ on)
  obtain ⟨senders, carried, intact⟩ := intact
  have guarded := (intact.streamsIntact.guards .sending).mpr ⟨me, _, tasks_of_frame found, rfl⟩
  cases free.symm.trans guarded

theorem breakHeld_call {cancelled : Bool} {refusals : Refusals} (intact : IntactState False state) (held : BreakHeld state)
    (ends : EndsBreaks state (.call call cancelled refusals)) (began : Began call (facing refusals state.port) progress port) :
    BreakHeld ⟨port, state.tasks ++ [⟨call, progress⟩]⟩ := by
  obtain ⟨duration, frame, rfl, rfl, live, after⟩ | ⟨other, level, backend, live⟩ := began.moves.breakOn
  · -- The call that goes to sleep is the one whose break is on now.
    obtain rfl : frame = .breaking := breaking_of_sendBreak began.fits
    have set : settings port = { settings state.port with breakOn := true } := congrArg View.toSettings after
    constructor
    case on =>
      have driven : port.backend.line.breakOn = true := congrArg Settings.breakOn set
      exact ⟨fun _ => ⟨state.tasks.length, breaking_concat_iff.mpr (.inr ⟨rfl, rfl⟩)⟩, fun _ => driven⟩
    case live =>
      intro me _
      dsimp only
      rw [set]
      exact live
  · have awake : progress ≠ .parked .breaking := by
      intro asleep
      subst asleep
      obtain ⟨duration, rfl⟩ := sendBreak_of_breaking began.fits
      exact other duration .breaking rfl rfl
    have on : port.backend.line.breakOn = state.port.backend.line.breakOn := by
      refine began.breakOn other level (fun duration same => ?_) fun free => held.quiet intact free
      subst same
      exact ends
    refine held.of_same (fun other => ?_) on fun me asleep => ?_
    · rw [breaking_concat_iff]
      simp [awake]
    · have same : (settings port).backend = (settings state.port).backend := backend
      have sameLive : (settings port).live = (settings state.port).live := live
      dsimp only
      rw [same, sameLive]
      exact held.live me asleep

theorem breakHeld_resume {before : AsyncPort} {taken sent : Bytes} {cancelled : Bool} {refusals : Refusals}
    (intact : IntactState False state) (held : BreakHeld state)
    (found : state.frame me = some (call, frame)) (serves : frame.Serves call taken) (same : SameSettings state.port before)
    (refused : before.backend.refused = refusals.line) (went : WentOn frame cancelled call sent before progress port)
    (ends : Breaking state me → refusals.line .clearCommBreak = none) :
    BreakHeld ⟨port, state.tasks.set me ⟨call, progress⟩⟩ := by
  have inside := lt_of_frame found
  have start : settings before = settings state.port := same.settings
  by_cases asleep : frame = .breaking
  · subst asleep
    have mine : Breaking state me := (breaking_iff_of_frame found).mpr rfl
    obtain ⟨unparked, after⟩ := went.moves
    have live : before.backend.windows.backend.handle ∈ before.backend.windows.host.live := by
      have open' : (settings before).backend.handle ∈ (settings before).live := start ▸ held.live me mine
      exact open'
    rw [if_pos ⟨live, refused ▸ ends mine⟩] at after
    have gone : ∀ other, ¬Breaking ⟨port, state.tasks.set me ⟨call, progress⟩⟩ other := by
      intro other still
      obtain ⟨rfl, parked⟩ | ⟨different, others⟩ := (breaking_set_iff inside).mp still
      · exact unparked _ parked
      · exact different (breaking_unique intact mine others)
    constructor
    case on =>
      have released : port.backend.line.breakOn = false := congrArg (fun view => view.toSettings.breakOn) after
      constructor
      · intro on
        cases released.symm.trans on
      · exact fun still => absurd still.choose_spec (gone _)
    case live => exact fun other still => absurd still (gone other)
  · have awake : progress ≠ .parked .breaking := by
      intro parked
      subst parked
      obtain ⟨duration, rfl⟩ := sendBreak_of_breaking went.fits
      exact asleep (breaking_of_sendBreak serves)
    obtain ⟨on, handle, live⟩ := went.moves.breakOn asleep
    have notMine : ¬Breaking state me := fun mine => asleep ((breaking_iff_of_frame found).mp mine)
    refine held.of_same (fun other => ?_) (on.trans (congrArg Settings.breakOn start)) fun other still => ?_
    · rw [breaking_set_iff inside]
      by_cases mine : me = other
      · subst mine
        simp [awake, notMine]
      · simp [mine]
    · have sameHandle : (settings port).backend.handle = (settings state.port).backend.handle :=
        handle.trans (congrArg (fun settings => settings.backend.handle) start)
      have sameLive : (settings port).live = (settings state.port).live := live.trans (congrArg Settings.live start)
      dsimp only
      rw [sameHandle, sameLive]
      exact held.live other still

theorem breakHeld_step {label : AsyncLabel} (intact : IntactState False state) (held : BreakHeld state)
    (ends : EndsBreaks state label) (stepped : Stepped state label next) : BreakHeld next := by
  cases stepped with
  | call settled began => exact breakHeld_call intact held ends began
  | @resume label me refusals call frame cancelled taken sent before progress port resumes found serves same refused settled went =>
    refine breakHeld_resume intact held found serves same refused went ?_
    obtain rfl | ⟨moved, rfl⟩ := resumes
    · exact ends
    · exact ends
  | @complete me moved failed call frame done port found waited waits same =>
    have inside := lt_of_frame found
    have kept := same.settings
    refine held.of_same (fun other => ?_) (by rw [kept]) fun other asleep => ?_
    · rw [breaking_set_iff inside]
      by_cases mine : me = other
      · subst mine
        have notMine : ¬Breaking state me := by
          rw [breaking_iff_of_frame found]
          intro asleep
          subst asleep
          cases waited
        simp only [true_and, ne_eq, not_true_eq_false, false_and, or_false]
        constructor
        · intro parked
          cases parked
          cases waits
        · exact fun mine => absurd mine notMine
      · simp [mine]
    · dsimp only
      rw [kept]
      exact held.live other asleep
  | @aclose label refusals port kept closes =>
    refine held.of_same (fun _ => Iff.rfl) kept.breakOn fun other asleep => ?_
    obtain ⟨⟨closer, result, rfl⟩, isOpen⟩ | ⟨live, backend⟩ := closes
    · obtain closed | quiet := ends
      · cases isOpen.symm.trans closed
      · exact absurd asleep (quiet other)
    · dsimp only
      rw [live, backend]
      exact held.live other asleep
  | line same =>
    have kept := same.settings
    refine held.of_same (fun _ => Iff.rfl) (by rw [kept]) fun other asleep => ?_
    dsimp only
    rw [kept]
    exact held.live other asleep

/-- In every run whose steps leave no break on for good, the line is driven on a break exactly
while a `send_break` sleeps, whatever the other calls do, and one call sleeps at a time. -/
theorem break_held_while_asleep {windows : WindowsWorld} {line : Line} {labels : List AsyncLabel} (fresh : line.Fresh)
    (quiet : line.breakOn = false) (ran : run asyncStep (.opened windows line config) labels = some final)
    (ends : ∀ taken label rest state, labels = taken ++ label :: rest →
      run asyncStep (.opened windows line config) taken = some state → EndsBreaks state label) :
    (final.line.breakOn = true ↔ ∃ me, Breaking final me) ∧ ∀ me other, Breaking final me → Breaking final other → me = other := by
  have start : BreakHeld (.opened windows line config) := by
    have nobody : ∀ me, ¬Breaking (.opened windows line config) me := by
      intro me asleep
      obtain ⟨call, found⟩ := asleep
      cases tasks_of_frame found
    constructor
    case on =>
      constructor
      · intro on
        cases quiet.symm.trans on
      · exact fun asleep => absurd asleep.choose_spec (nobody _)
    case live => exact fun me asleep => absurd asleep (nobody me)
  obtain ⟨intact, held⟩ := run_invariant_along (fun state => IntactState False state ∧ BreakHeld state) EndsBreaks
    ⟨intact_of_fresh windows config fresh, start⟩ (fun state label next admitted known stepped =>
      ⟨intact_of_step known.1 stepped, breakHeld_step known.1 known.2 admitted (stepped_of_asyncStep known.1 stepped)⟩) ran ends
  exact ⟨held.on, fun me other mine others => breaking_unique intact mine others⟩

/-- A break that is cancelled while a receive waits, and another one that a send may not interrupt. -/
def brokenRun : List AsyncLabel :=
  [.call (.sendBreak (.int 1)) false {}, .call (.receive 4) false {}, .cancel 0 0 {},
    .call (.sendBreak (.float (.finite (1 / 4)))) false {}, .call (.send [7]) false {}]

theorem break_held_while_asleep_of_two :
    ∃ final, run asyncStep (.opened openedOnProactor silentLine .defaults) brokenRun = some final ∧
      final.line.breakOn = true ∧ (∃ me, Breaking final me) ∧
        ∀ me other, Breaking final me → Breaking final other → me = other := by
  have outcome : (run asyncStep (.opened openedOnProactor silentLine .defaults) brokenRun).map (fun final => final.line.breakOn) =
      some true := by decide +kernel
  obtain ⟨final, ran, on⟩ := Option.map_eq_some_iff.mp outcome
  have ends : ∀ label ∈ brokenRun, ∀ state, EndsBreaks state label := by
    intro label member state
    simp only [brokenRun, List.mem_cons, List.not_mem_nil, or_false] at member
    obtain rfl | rfl | rfl | rfl | rfl := member
    · exact .inl rfl
    · trivial
    · exact fun _ => rfl
    · exact .inl rfl
    · trivial
  obtain ⟨held, unique⟩ := break_held_while_asleep ⟨rfl, rfl⟩ rfl ran fun taken label rest state split _ =>
    ends label (split ▸ List.mem_append_right _ List.mem_cons_self) state
  exact ⟨final, ran, on, held.mp on, unique⟩

end Break

end Anyserial.Windows
