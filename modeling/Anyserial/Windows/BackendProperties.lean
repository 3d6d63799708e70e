import Anyserial.Kit.Ownership
import Anyserial.Windows.Backend

/-! What an open of the Windows backend leaves behind, for every step that fails. Up to
the completion port a failure closes the handle; after it the handle is lost. -/
set_option autoImplicit false

namespace Anyserial.Windows

open Kit

variable {world before middle after : WindowsWorld} {handle : Handle} {call : Kernel32Call} {path : String}
  {config : SerialConfig}

/-- The world after a call was made on a handle. -/
def logged (world : WindowsWorld) (call : Kernel32Call) (handle : Handle) : WindowsWorld :=
  { world with host := { world.host with trace := ⟨call, handle, handle ∈ world.host.live⟩ :: world.host.trace } }

section Rules

variable {α : Type} {returned : α → WindowsWorld → Prop} {raised : WinExc → WindowsWorld → Prop}

@[simp] theorem ends_getBackend {returned : WindowsBackend → WindowsWorld → Prop} :
    Ends getBackend world returned raised ↔ returned world.backend world := Iff.rfl

@[simp] theorem ends_getHost {returned : WinHost → WindowsWorld → Prop} :
    Ends getHost world returned raised ↔ returned world.host world := Iff.rfl

@[simp] theorem ends_exceptOSError {body : Win α} {handler : WinExc → Win α} :
    Ends (exceptOSError body handler) world returned raised ↔
      Ends body world returned fun exc t =>
        (exc.isOSError = true → Ends (handler exc) t returned raised) ∧ (exc.isOSError = false → raised exc t) := by
  simp only [exceptOSError, ends_tryCatch, ends_ite, ends_throw, Bool.not_eq_true]

@[simp] theorem ends_translating {body : Win α} {context : Context} :
    Ends (translating context path body) world returned raised ↔
      Ends body world returned fun exc t =>
        (exc.isOSError = true → raised (winerrorToException exc context path) t) ∧ (exc.isOSError = false → raised exc t) := by
  simp only [translating, ends_exceptOSError, ends_throw]

variable {returned : Unit → WindowsWorld → Prop}

@[simp] theorem ends_modifyBackend {f : WindowsBackend → WindowsBackend} :
    Ends (modifyBackend f) world returned raised ↔ returned () { world with backend := f world.backend } := Iff.rfl

@[simp] theorem ends_modifyHost {f : WinHost → WinHost} :
    Ends (modifyHost f) world returned raised ↔ returned () { world with host := f world.host } := Iff.rfl

@[simp] theorem ends_modifyDevice {f : CommDevice → CommDevice} :
    Ends (modifyDevice f) world returned raised ↔
      returned () { world with host := { world.host with device := f world.host.device } } := Iff.rfl

@[simp] theorem ends_record : Ends (record call handle) world returned raised ↔ returned () (logged world call handle) := Iff.rfl

@[simp] theorem ends_refuse {result : Option WinErr} :
    Ends (refuse result) world returned raised ↔
      (∀ err, result = some err → raised (.osError err) world) ∧ (result = none → returned () world) := by
  cases result <;> simp [refuse]

@[simp] theorem ends_suppressOSError {body : Win Unit} :
    Ends (suppressOSError body) world returned raised ↔
      Ends body world returned fun exc t =>
        (exc.isOSError = true → returned () t) ∧ (exc.isOSError = false → raised exc t) := by
  simp only [suppressOSError, ends_exceptOSError, ends_pure]

@[simp] theorem ends_kernelCall :
    Ends (kernelCall call handle) world returned raised ↔
      (∀ err, world.host.refusal handle call = some err → raised (.osError err) (logged world call handle)) ∧
        (world.host.refusal handle call = none → returned () (logged world call handle)) := by
  simp only [kernelCall, ends_bind, ends_record, ends_getHost, ends_refuse]
  rfl

end Rules

theorem unusedHandle_notMem (live : List Handle) : unusedHandle live ∉ live := by
  unfold unusedHandle
  cases found : (List.range (live.length + 1)).find? fun n => n + 1 ∉ live with
  | some n => simpa using List.find?_some found
  | none =>
    obtain ⟨n, inside, unused⟩ := exists_fresh Nat.succ_injective live
    exact absurd unused (by simpa using List.find?_eq_none.mp found n inside)

/-- No handle was closed that was not open. -/
def ClosesOnlyLive (before after : WindowsWorld) : Prop :=
  ∀ event ∈ after.host.trace, event ∈ before.host.trace ∨ (event.call = .closeHandle → event.valid = true)

theorem ClosesOnlyLive.trans (first : ClosesOnlyLive before middle) (second : ClosesOnlyLive middle after) :
    ClosesOnlyLive before after := by
  intro event member
  rcases second event member with earlier | fine
  · exact first event earlier
  · exact .inr fine

/-- What the calls on a handle leave alone. -/
structure SameHandles (before after : WindowsWorld) : Prop where
  live : after.host.live = before.host.live
  faults : after.host.faults = before.host.faults
  eventLoop : after.host.eventLoop = before.host.eventLoop
  closes : ClosesOnlyLive before after

instance : Std.Refl SameHandles := ⟨fun _ => ⟨rfl, rfl, rfl, fun _ => .inl⟩⟩

instance : IsTrans WindowsWorld SameHandles where
  trans _ _ _ first second :=
    ⟨second.live.trans first.live, second.faults.trans first.faults, second.eventLoop.trans first.eventLoop,
      first.closes.trans second.closes⟩

theorem sameHandles_logged (other : call ≠ .closeHandle) : SameHandles world (logged world call handle) := by
  refine ⟨rfl, rfl, rfl, fun event member => ?_⟩
  rcases List.mem_cons.mp member with rfl | earlier
  · exact .inr fun same => absurd same other
  · exact .inl earlier

/-- The calls that `open` makes before the handle goes to the completion port. -/
def SetsUp (faults : WinFaults) : Prop :=
  faults.refused .setupComm = none ∧ faults.refused .getCommState = none ∧ faults.refused .setCommState = none ∧
    faults.refused .setCommTimeouts = none

/-- The calls after them. -/
def Attaches (faults : WinFaults) : Prop :=
  faults.refused .registerIocp = none ∧ faults.registrationCancelled = false ∧ faults.refused .setCommMask = none

/-- The backend and the handles are as they were, whatever was written to the device. -/
structure Touched (before after : WindowsWorld) : Prop extends SameHandles before after where
  backend : after.backend = before.backend

instance : Std.Refl Touched := ⟨fun world => ⟨Std.Refl.refl world, rfl⟩⟩

instance : IsTrans WindowsWorld Touched where
  trans _ _ _ first second :=
    ⟨IsTrans.trans _ _ _ first.toSameHandles second.toSameHandles, second.backend.trans first.backend⟩

theorem keeps_kernelCall (other : call ≠ .closeHandle) : Keeps Touched (kernelCall call handle) := by
  intro world
  have touched : Touched world (logged world call handle) := ⟨sameHandles_logged other, rfl⟩
  rw [ends_kernelCall]
  exact ⟨fun _ _ => touched, fun _ => touched⟩

theorem keeps_modifyDevice {f : CommDevice → CommDevice} : Keeps Touched (modifyDevice f) :=
  Keeps.modify fun _ => ⟨⟨rfl, rfl, rfl, fun _ => .inl⟩, rfl⟩

theorem keeps_getBackend : Keeps Touched getBackend := Keeps.get.map _

theorem keeps_getHost : Keeps Touched getHost := Keeps.get.map _

theorem keeps_applyDcb : Keeps Touched (applyDcb config) :=
  keeps_getBackend.bind fun _ => (keeps_kernelCall (by decide)).bind fun _ => keeps_getHost.bind fun _ =>
    (keeps_kernelCall (by decide)).bind fun _ => keeps_modifyDevice

theorem keeps_setUpComm : Keeps Touched (setUpComm handle config) :=
  (keeps_kernelCall (by decide)).bind fun _ => keeps_modifyDevice.bind fun _ => keeps_applyDcb.bind fun _ =>
    (keeps_kernelCall (by decide)).bind fun _ => keeps_modifyDevice

theorem WinHost.refusal_of_live {host : WinHost} (isLive : handle ∈ host.live) :
    host.refusal handle call = host.faults.refused call := if_pos isLive

/-- The steps that are undone on failure go through exactly when none of them is refused. -/
theorem setUpComm_spec (isLive : handle ∈ world.host.live) (owned : world.backend.handle = handle) :
    Ends (setUpComm handle config) world (fun _ after => SetsUp world.host.faults ∧ Touched world after)
      (fun exc after => (¬SetsUp world.host.faults ∧ ∃ err, exc = .osError err) ∧ Touched world after) := by
  have accepts : Ends (setUpComm handle config) world (fun _ _ => SetsUp world.host.faults)
      (fun exc _ => ¬SetsUp world.host.faults ∧ ∃ err, exc = .osError err) := by
    subst owned
    have refusal : ∀ call, world.host.refusal world.backend.handle call = world.host.faults.refused call :=
      fun call => WinHost.refusal_of_live isLive
    simp only [setUpComm, applyDcb, ends_bind, ends_getBackend, ends_getHost, ends_modifyDevice, ends_kernelCall]
    let refusalOf := world.host.refusal world.backend.handle
    change (∀ err, refusalOf .setupComm = some err → _) ∧ (refusalOf .setupComm = none →
      (∀ err, refusalOf .getCommState = some err → _) ∧ (refusalOf .getCommState = none →
        (∀ err, refusalOf .setCommState = some err → _) ∧ (refusalOf .setCommState = none →
          (∀ err, refusalOf .setCommTimeouts = some err → _) ∧ (refusalOf .setCommTimeouts = none → _))))
    simp only [refusalOf, refusal, SetsUp]
    have stopped : ∀ {call err}, world.host.faults.refused call = some err → world.host.faults.refused call ≠ none :=
      fun refused => by simp [refused]
    refine ⟨fun err refused => ⟨fun all => stopped refused all.1, err, rfl⟩, fun setup => ?_⟩
    refine ⟨fun err refused => ⟨fun all => stopped refused all.2.1, err, rfl⟩, fun read => ?_⟩
    refine ⟨fun err refused => ⟨fun all => stopped refused all.2.2.1, err, rfl⟩, fun written => ?_⟩
    exact ⟨fun err refused => ⟨fun all => stopped refused all.2.2.2, err, rfl⟩, fun timeouts => ⟨setup, read, written, timeouts⟩⟩
  exact (accepts.and (keeps_setUpComm world)).mono (fun _ _ ended => ended) fun _ _ ended => ended

/-- What registering the handle leaves alone. -/
structure SameOwner (before after : WindowsWorld) : Prop extends SameHandles before after where
  handle : after.backend.handle = before.backend.handle

instance : Std.Refl SameOwner := ⟨fun world => ⟨Std.Refl.refl world, rfl⟩⟩

instance : IsTrans WindowsWorld SameOwner where
  trans _ _ _ first second :=
    ⟨IsTrans.trans _ _ _ first.toSameHandles second.toSameHandles, second.handle.trans first.handle⟩

theorem Touched.sameOwner (touched : Touched before after) : SameOwner before after :=
  ⟨touched.toSameHandles, congrArg WindowsBackend.handle touched.backend⟩

theorem keeps_attach : Keeps SameOwner (attach handle) := by
  have calls : ∀ call, call ≠ .closeHandle → Keeps SameOwner (kernelCall call handle) :=
    fun call other => (keeps_kernelCall other).mono fun _ _ => Touched.sameOwner
  have registers : Keeps SameOwner (registerIocp handle) :=
    (calls _ (by decide)).bind fun _ => Keeps.bind (Keeps.get.map _) fun _ => .ite (fun _ => .throw _) fun _ => .pure ()
  have masks : Keeps SameOwner (setCommMask handle evAllModem) :=
    (calls _ (by decide)).bind fun _ => keeps_modifyDevice.mono fun _ _ => Touched.sameOwner
  refine Keeps.bind (Keeps.get.map _) fun backend => .ite (fun _ => registers.bind fun _ => masks) fun _ => ?_
  exact .bind (.modify fun _ => ⟨⟨rfl, rfl, rfl, fun _ => .inl⟩, rfl⟩) fun _ => registers.bind fun _ => masks

/-- Registering goes through exactly when none of its steps fails. -/
theorem attach_spec (isLive : handle ∈ world.host.live) :
    Ends (attach handle) world (fun _ after => Attaches world.host.faults ∧ SameOwner world after)
      (fun _ after => ¬Attaches world.host.faults ∧ SameOwner world after) := by
  have accepts : Ends (attach handle) world (fun _ _ => Attaches world.host.faults) (fun _ _ => ¬Attaches world.host.faults) := by
    have refusal : ∀ call, world.host.refusal handle call = world.host.faults.refused call :=
      fun call => WinHost.refusal_of_live isLive
    have registers : ∀ backend : WindowsBackend,
        Ends (do registerIocp handle; setCommMask handle evAllModem) { world with backend := backend }
          (fun _ _ => Attaches world.host.faults) (fun _ _ => ¬Attaches world.host.faults) := by
      intro backend
      simp only [registerIocp, setCommMask, ends_bind, ends_getHost, ends_modifyDevice, ends_kernelCall, ends_ite, ends_throw,
        ends_pure]
      let refusalOf := world.host.refusal handle
      change (∀ err, refusalOf .registerIocp = some err → _) ∧ (refusalOf .registerIocp = none →
        (world.host.faults.registrationCancelled = true → _) ∧ (¬world.host.faults.registrationCancelled = true →
          (∀ err, refusalOf .setCommMask = some err → _) ∧ (refusalOf .setCommMask = none → _)))
      simp only [refusalOf, refusal, Attaches]
      refine ⟨fun err refused all => by simp [refused] at all, fun registered => ⟨fun cancelled all => ?_, fun ran => ?_⟩⟩
      · simp [cancelled] at all
      · exact ⟨fun err refused all => by simp [refused] at all, fun masked => ⟨registered, by simpa using ran, masked⟩⟩
    rw [attach, ends_bind, ends_getBackend]
    by_cases flavour : world.backend.runtime = some .trio
    · rw [if_pos flavour]
      exact registers world.backend
    · rw [if_neg flavour, ends_bind, ends_modifyBackend]
      exact registers _
  exact (accepts.and (keeps_attach world)).mono (fun _ _ ended => ended) fun _ _ ended => ended

section Lifecycle

/-- The call that opens a path. -/
def createCall (path : String) : Kernel32Call := .createFile (wideString path)

/-- The world after `CreateFileW` handed out a handle. -/
def withHandle (world : WindowsWorld) (path : String) : WindowsWorld :=
  { world with host := { (logged world (createCall path) 0).host with
    live := unusedHandle world.host.live :: world.host.live } }

theorem ends_createFile {returned : Handle → WindowsWorld → Prop} {raised : WinExc → WindowsWorld → Prop} :
    Ends (createFile path) world returned raised ↔
      (∀ err, world.host.faults.refused (createCall path) = some err →
        raised (.osError err) (logged world (createCall path) 0)) ∧
      (world.host.faults.refused (createCall path) = none →
        returned (unusedHandle world.host.live) (withHandle world path)) := by
  simp only [createFile, ends_bind, ends_getHost, ends_record, ends_refuse, ends_modifyHost, ends_pure]
  rfl

/-- The world after an open handle was closed. -/
def withoutHandle (world : WindowsWorld) (handle : Handle) : WindowsWorld :=
  { world with host := { world.host with
    live := world.host.live.erase handle
    trace := ⟨.closeHandle, handle, true⟩ :: world.host.trace } }

/-- A suppressed close of an open handle always gets rid of it. -/
theorem ends_suppressed_closeHandle (isLive : handle ∈ world.host.live) {returned : Unit → WindowsWorld → Prop}
    {raised : WinExc → WindowsWorld → Prop} (next : returned () (withoutHandle world handle)) :
    Ends (suppressOSError (closeHandle handle)) world returned raised := by
  have event : logged world .closeHandle handle =
      { world with host := { world.host with trace := ⟨.closeHandle, handle, true⟩ :: world.host.trace } } := by
    simp [logged, isLive]
  simp only [ends_suppressOSError, closeHandle, ends_bind, ends_getHost, ends_record, event, ends_modifyHost, ends_refuse]
  exact ⟨fun err _ => ⟨fun _ => next, by simp [WinExc.isOSError]⟩, fun _ => next⟩

theorem closesOnlyLive_withoutHandle : ClosesOnlyLive world (withoutHandle world handle) := by
  intro event member
  rcases List.mem_cons.mp member with rfl | earlier
  · exact .inr fun _ => rfl
  · exact .inl earlier

structure Idle (backend : WindowsBackend) : Prop where
  isOpen : backend.isOpen = false
  handle : backend.handle = 0
  handleWrapper : backend.handleWrapper = none

/-- The backend is as before its first open, and every handle taken since was closed once. -/
structure LetGo (before after : WindowsWorld) : Prop where
  idle : Idle after.backend
  live : after.host.live = before.host.live
  closes : ClosesOnlyLive before after

/-- The backend is open and holds one handle more. -/
structure Owns (before after : WindowsWorld) : Prop where
  isOpen : after.backend.isOpen = true
  live : after.host.live = after.backend.handle :: before.host.live
  closes : ClosesOnlyLive before after

/-- Any number of closes, each with its own refusals. -/
def closeAll : List WinFaults → Win Unit
  | [] => pure ()
  | faults :: rest => do
      modifyHost fun host => { host with faults := faults }
      aclose
      closeAll rest

theorem suppressed_kernelCall (other : call ≠ .closeHandle) :
    Ends (suppressOSError (kernelCall call handle)) world (fun _ after => Touched world after) (fun _ _ => False) := by
  have touched : Touched world (logged world call handle) := ⟨sameHandles_logged other, rfl⟩
  rw [ends_suppressOSError, ends_kernelCall]
  exact ⟨fun err _ => ⟨fun _ => touched, nofun⟩, fun _ => touched⟩

theorem suppressed_setCommMask {mask : Nat} :
    Ends (suppressOSError (setCommMask handle mask)) world (fun _ after => Touched world after) (fun _ _ => False) := by
  have touched : Touched world (logged world .setCommMask handle) := ⟨sameHandles_logged (by decide), rfl⟩
  simp only [ends_suppressOSError, setCommMask, ends_bind, ends_kernelCall, ends_modifyDevice]
  refine ⟨fun err _ => ⟨fun _ => touched, by simp [WinExc.isOSError]⟩, fun _ => ?_⟩
  exact ⟨⟨touched.live, touched.faults, touched.eventLoop, touched.closes⟩, touched.backend⟩

theorem aclose_of_idle (idle : Idle world.backend) {returned : Unit → WindowsWorld → Prop}
    {raised : WinExc → WindowsWorld → Prop} : Ends aclose world returned raised ↔ returned () world := by
  simp only [aclose, ends_bind, ends_getBackend, idle.isOpen, Bool.false_eq_true, if_false, ends_pure]

/-- Closing an open backend gives its handle back, whatever is refused on the way. -/
theorem aclose_of_live (isOpen : world.backend.isOpen = true) (isLive : world.backend.handle ∈ world.host.live) :
    Ends aclose world
      (fun _ after => Idle after.backend ∧ after.host.live = world.host.live.erase world.backend.handle ∧
        ClosesOnlyLive world after)
      (fun _ _ => False) := by
  simp only [aclose, ends_bind, ends_getBackend, isOpen, if_true, ends_modifyBackend]
  refine suppressed_setCommMask.mono (fun _ masked first => ?_) fun _ _ never => never
  refine (suppressed_kernelCall (by decide)).mono (fun _ purged second => ?_) fun _ _ never => never
  have touched := IsTrans.trans _ _ _ first second
  have live : purged.host.live = world.host.live := touched.live
  have backend : purged.backend = { world.backend with isOpen := false, handle := 0, handleWrapper := none } := touched.backend
  have idle : Idle purged.backend := by
    rw [backend]
    exact ⟨rfl, rfl, rfl⟩
  refine ends_suppressed_closeHandle (live ▸ isLive) ⟨idle, ?_, touched.closes.trans closesOnlyLive_withoutHandle⟩
  change purged.host.live.erase world.backend.handle = world.host.live.erase world.backend.handle
  rw [live]

theorem aclose_owned (owns : Owns before world) :
    Ends aclose world (fun _ after => LetGo before after) (fun _ _ => False) := by
  have isLive : world.backend.handle ∈ world.host.live := by simp [owns.live]
  refine (aclose_of_live owns.isOpen isLive).mono (fun _ closed ended => ?_) fun _ _ never => never
  obtain ⟨idle, live, closes⟩ := ended
  refine ⟨idle, ?_, owns.closes.trans closes⟩
  rw [live, owns.live]
  exact List.erase_cons_head ..

/-- However often it is closed, the handle goes once. -/
theorem closeAll_owned (owns : Owns before world) (first : WinFaults) (rest : List WinFaults) :
    Ends (closeAll (first :: rest)) world (fun _ after => LetGo before after) (fun _ _ => False) := by
  have again : ∀ (rest : List WinFaults) (world : WindowsWorld), LetGo before world →
      Ends (closeAll rest) world (fun _ after => LetGo before after) (fun _ _ => False) := by
    intro rest
    induction rest with
    | nil => exact fun _ letGo => letGo
    | cons faults rest ih =>
      intro world letGo
      have idle : Idle ({ world with host := { world.host with faults := faults } } : WindowsWorld).backend := letGo.idle
      simp only [closeAll, ends_bind, ends_modifyHost, aclose_of_idle idle]
      exact ih _ ⟨letGo.idle, letGo.live, letGo.closes⟩
  have owned : Owns before { world with host := { world.host with faults := first } } := ⟨owns.isOpen, owns.live, owns.closes⟩
  rw [closeAll, ends_bind, ends_modifyHost, ends_bind]
  exact (aclose_owned owned).mono (fun _ closed letGo => again rest closed letGo) fun _ _ never => never

/-- A `SerialError` or the cancellation. -/
def WinExc.IsDomain : WinExc → Prop
  | .raised (.serialError _ _) => True
  | .raised .cancelled => True
  | _ => False

theorem winerrorToException_isDomain {exc : WinExc} {context : Context} (os : ∃ err, exc = .osError err) :
    (winerrorToException exc context path).IsDomain := by
  obtain ⟨err, rfl⟩ := os
  trivial

/-- Either the open returns with one handle that any number of closes closes once, or
it raises and has let go of everything. -/
def AllOrNothing (path : String) (config : SerialConfig) (world : WindowsWorld) : Prop :=
  Ends (openPort path config) world
    (fun _ after => Owns world after ∧ ∀ first rest,
      Ends (closeAll (first :: rest)) after (fun _ last => LetGo world last) fun _ _ => False)
    (fun exc after => exc.IsDomain ∧ LetGo world after)

/-- Once a loop is found and the handle is set up, nothing after it fails. -/
def CleansUp (path : String) (host : WinHost) : Prop :=
  ∀ flavour, detectRuntime host.eventLoop = .ok flavour →
    host.faults.refused (createCall (normaliseComPath path)) = none → SetsUp host.faults → Attaches host.faults

theorem detectRuntime_raises {loop : EventLoop} {exc : PyExc} (failed : detectRuntime loop = .error exc) :
    (WinExc.raised exc).IsDomain := by
  cases loop <;> cases failed <;> trivial

variable (path config) in
/-- From the state before the first open: what the caller gets, and what is left when
the open fails after the handle went to the completion port. -/
theorem openPort_spec (idle : Idle world.backend) :
    Ends (openPort path config) world
      (fun _ after => CleansUp path world.host ∧ Owns world after)
      (fun exc after => (CleansUp path world.host ∧ exc.IsDomain ∧ LetGo world after) ∨
        (¬CleansUp path world.host ∧ after.host.live ≠ world.host.live)) := by
  simp only [openPort, ends_bind, ends_getBackend, idle.isOpen, Bool.false_eq_true, if_false, ends_modifyBackend, ends_getHost]
  cases detected : detectRuntime world.host.eventLoop with
  | error exc =>
    have cleansUp : CleansUp path world.host := fun flavour same => absurd (detected.symm.trans same) (by simp)
    exact .inl ⟨cleansUp, detectRuntime_raises detected, ⟨rfl, idle.handle, idle.handleWrapper⟩, rfl, fun _ => .inl⟩
  | ok flavour =>
    simp only [ends_bind, ends_modifyBackend, ends_translating, ends_createFile]
    let call := createCall (normaliseComPath path)
    have cleansUp_iff : CleansUp path world.host ↔
        (world.host.faults.refused call = none → SetsUp world.host.faults → Attaches world.host.faults) :=
      ⟨fun cleansUp => cleansUp flavour detected, fun fine _ _ => fine⟩
    have creating : ClosesOnlyLive world (logged world call 0) := (sameHandles_logged (by simp [call, createCall])).closes
    refine ⟨fun err refused => ⟨fun _ => .inl ⟨cleansUp_iff.mpr fun created => ?_, trivial, ?_⟩, by simp [WinExc.isOSError]⟩,
      fun created => ?_⟩
    · exact absurd refused (by simp [show world.host.faults.refused call = none from created, call])
    · exact ⟨⟨rfl, idle.handle, idle.handleWrapper⟩, rfl, creating⟩
    let handle := unusedHandle world.host.live
    let owner : WindowsWorld := { withHandle world (normaliseComPath path) with
      backend := { world.backend with path := path, runtime := some flavour, handle := handle, isOpen := false } }
    have isLive : handle ∈ owner.host.live := List.mem_cons_self ..
    have closes : ClosesOnlyLive world owner := creating
    have sets : Ends (setUpComm handle config) owner _ _ := setUpComm_spec isLive rfl
    rw [ends_exceptOSError]
    refine sets.mono (fun _ ready done => ?_) fun exc failed done => ?_
    · obtain ⟨setsUp, touched⟩ := done
      have readyLive : handle ∈ ready.host.live := touched.live ▸ isLive
      refine (attach_spec readyLive).mono (fun _ attached done => ?_) fun exc attached done => ?_
      · obtain ⟨attaches, same⟩ := done
        have live : attached.host.live = handle :: world.host.live := same.live.trans touched.live
        have owned : attached.backend.handle = handle :=
          same.handle.trans (congrArg WindowsBackend.handle touched.backend)
        refine ⟨cleansUp_iff.mpr fun _ _ => touched.faults ▸ attaches, rfl, ?_, (closes.trans touched.closes).trans same.closes⟩
        change attached.host.live = attached.backend.handle :: world.host.live
        rw [live, owned]
      · obtain ⟨refused, same⟩ := done
        have live : attached.host.live = handle :: world.host.live := same.live.trans touched.live
        refine .inr ⟨fun cleansUp => refused (touched.faults.symm ▸ cleansUp_iff.mp cleansUp created setsUp), ?_⟩
        rw [live]
        exact List.cons_ne_self _ _
    · obtain ⟨⟨refused, err, rfl⟩, touched⟩ := done
      have failedLive : handle ∈ failed.host.live := touched.live ▸ isLive
      refine ⟨fun _ => ?_, by simp [WinExc.isOSError]⟩
      simp only [ends_bind, ends_modifyBackend, ends_throw]
      refine ends_suppressed_closeHandle failedLive (.inl ⟨cleansUp_iff.mpr fun _ setsUp => absurd setsUp refused, trivial, ?_⟩)
      constructor
      case idle =>
        exact ⟨rfl, rfl, (congrArg WindowsBackend.handleWrapper touched.backend).trans idle.handleWrapper⟩
      case live =>
        change failed.host.live.erase handle = world.host.live
        rw [touched.live]
        exact List.erase_cons_head ..
      case closes => exact (closes.trans touched.closes).trans closesOnlyLive_withoutHandle

variable (path config) in
/-- An open is all-or-nothing exactly when nothing fails once the handle is set up. -/
theorem open_allOrNothing_iff (idle : Idle world.backend) : AllOrNothing path config world ↔ CleansUp path world.host := by
  have spec := openPort_spec path config idle
  constructor
  · intro kept
    refine Classical.byContradiction fun leaks =>
      not_ends_nowhere ((kept.and spec).mono (fun _ after ended => ?_) fun exc after ended => ?_)
    · exact leaks ended.2.1
    · obtain ⟨⟨_, letGo⟩, ⟨cleansUp, _⟩ | ⟨_, lost⟩⟩ := ended
      · exact leaks cleansUp
      · exact lost letGo.live
  · intro cleansUp
    refine spec.mono (fun _ after ended => ⟨ended.2, closeAll_owned ended.2⟩) fun exc after ended => ?_
    rcases ended with ⟨_, domain, letGo⟩ | ⟨leaks, _⟩
    · exact ⟨domain, letGo⟩
    · exact absurd cleansUp leaks

/-- A machine with one port, and a loop to run on. -/
def comHost (eventLoop : EventLoop) (faults : WinFaults) : WinHost where
  device := ⟨.zero, (0, 0), ⟨0, 0, 0, 0, 0⟩, 0⟩
  live := [1]
  eventLoop := eventLoop
  faults := faults

def refusing (call : Kernel32Call) : WinFaults where
  refused other := if other = call then some ⟨errorGenFailure, 22, "A device attached to the system is not functioning", none⟩
    else none

/-- A refused `SetCommState` is undone. -/
theorem open_allOrNothing_when_dcb_refused :
    AllOrNothing "COM3" { baudrate := 9600 } ⟨{}, comHost .proactor (refusing .setCommState)⟩ := by
  have idle : Idle ({} : WindowsBackend) := ⟨rfl, rfl, rfl⟩
  refine (open_allOrNothing_iff "COM3" _ idle).mpr fun flavour _ _ setsUp => ?_
  exact absurd setsUp.2.2.1 (by decide)

/-- How an operation of the backend ended, the backend it left, and the open handles. -/
def settle (body : Win Unit) (world : WindowsWorld) : Option WinExc × WindowsBackend × List Handle :=
  match body world with
  | .ok _ after => (none, after.backend, after.host.live)
  | .error exc after => (some exc, after.backend, after.host.live)

/-- A refused `SetCommMask` leaves the handle open, in the backend and in the process, and the
error of the system goes to the caller as it is. No close gives the handle back. -/
theorem refused_mask_leaks_handle :
    settle (openPort "COM3" {}) ⟨{}, comHost .proactor (refusing .setCommMask)⟩ =
      (some (.osError ⟨errorGenFailure, 22, "A device attached to the system is not functioning", none⟩),
        { path := "COM3", handle := 2, handleWrapper := some 2, runtime := some .asyncio }, [2, 1]) ∧
    settle (do tryCatch (openPort "COM3" {}) fun _ => pure (); closeAll [{}]) ⟨{}, comHost .proactor (refusing .setCommMask)⟩ =
      (none, { path := "COM3", handle := 2, handleWrapper := some 2, runtime := some .asyncio }, [2, 1]) := by
  decide +kernel

end Lifecycle

end Anyserial.Windows
