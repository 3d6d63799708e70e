import Anyserial.Posix.IoctlProperties
import Anyserial.Posix.Machine
import Anyserial.Stream.ClosedProperties

/-! What the segments of a port keep of the world of a POSIX backend. -/
set_option autoImplicit false

namespace Anyserial.Posix

open Kit

variable {ε δ α : Type} {subclass : Subclass ε δ} {loop : EventLoop (World ε δ)}

instance : Std.Refl (@SameFd ε δ) := ⟨fun _ => ⟨rfl, rfl⟩⟩

instance : IsTrans (World ε δ) SameFd :=
  ⟨fun _ _ _ first second => ⟨second.fd.trans first.fd, second.openFds.trans first.openFds⟩⟩

instance : Std.Refl (@SameBreak ε δ) := ⟨fun _ => rfl⟩

instance : IsTrans (World ε δ) SameBreak := ⟨fun _ _ _ first second => second.trans first⟩

/-- Both worlds of the backend are related, and the port is as open as it was. -/
structure OnPort (related : World ε δ → World ε δ → Prop) (before after : Port (World ε δ)) : Prop where
  world : related before.backend after.backend
  teardown : after.teardown = before.teardown

section Keeps

variable {related : World ε δ → World ε δ → Prop} [Std.Refl related]

instance : Std.Refl (OnPort related) := ⟨fun port => ⟨Std.Refl.refl port.backend, rfl⟩⟩

omit [Std.Refl related] in
theorem keeps_onPort {body : Py (World ε δ) α} (kept : Keeps related body) :
    Keeps (OnPort related) (Port.onBackend body) := by
  intro port
  rw [Port.ends_onBackend]
  exact (kept port.backend).mono (fun _ _ moved => ⟨moved, rfl⟩) fun _ _ moved => ⟨moved, rfl⟩

theorem onPort_setGuard (port : Port (World ε δ)) (direction : Direction) (held : Bool) :
    OnPort related port (port.setGuard direction held) := by
  cases direction <;> exact ⟨Std.Refl.refl port.backend, rfl⟩

variable [IsTrans (World ε δ) related]

instance : IsTrans (Port (World ε δ)) (OnPort related) :=
  ⟨fun _ _ _ first second => ⟨IsTrans.trans _ _ _ first.world second.world, second.teardown.trans first.teardown⟩⟩

omit [IsTrans (World ε δ) related] in
theorem keeps_of_unchanged {body : Py (World ε δ) Unit} {raised : PyExc → Prop}
    (unchanged : ∀ world, Ends body world (fun _ after => after = world) fun exc after => after = world ∧ raised exc) :
    Keeps related body := by
  intro world
  refine (unchanged world).mono (fun _ after same => ?_) fun _ after same => ?_
  · rw [same]
    exact Std.Refl.refl world
  · rw [same.1]
    exact Std.Refl.refl world

/-- The moves of the segments, whatever is run in place of the break calls and of a
reconfiguration. -/
theorem segmentMoves_onPort (lawful : Lawful loop) {line : Bool → Py (World ε δ) Unit}
    {apply : SerialConfig → Py (World ε δ) Unit} (configure : ∀ config, Keeps related (apply config))
    (setBreak : ∀ on, Keeps related (line on))
    (controlBits : ∀ (world : World ε δ) bits, related world { world with host := { world.host with controlBits := bits } }) :
    SegmentMoves { subclass.backend with setBreak := line, configure := apply } loop (OnPort related) := by
  have preserves : SyncSerialBackend.Preserves { subclass.backend with setBreak := line, configure := apply } related :=
    preserves_syncBackend configure setBreak controlBits
  exact {
    readNonblocking := fun buffer => keeps_onPort (preserves.readNonblocking buffer)
    writeNonblocking := fun data => keeps_onPort (preserves.writeNonblocking data)
    applied := fun config => keeps_onPort (preserves.configure config)
    resetInputBuffer := keeps_onPort preserves.resetInputBuffer
    resetOutputBuffer := keeps_onPort preserves.resetOutputBuffer
    setBreak := fun on => keeps_onPort (preserves.setBreak on)
    tcdrainBlocking := keeps_onPort preserves.tcdrainBlocking
    modemLines := keeps_onPort preserves.modemLines
    setControlLines := fun rts dtr => keeps_onPort (preserves.setControlLines rts dtr)
    inputWaiting := keeps_onPort preserves.inputWaiting
    outputWaiting := keeps_onPort preserves.outputWaiting
    waitReadable := fun fd => keeps_onPort (keeps_of_unchanged (lawful.waitReadable fd))
    waitWritable := fun fd => keeps_onPort (keeps_of_unchanged (lawful.waitWritable fd))
    config := fun _ _ => ⟨Std.Refl.refl _, rfl⟩
    configureLock := fun _ _ => ⟨Std.Refl.refl _, rfl⟩ }

end Keeps

/-- No segment moves the descriptor. -/
theorem segmentMoves_sameFd (lawful : Lawful loop) :
    SegmentMoves subclass.backend loop (OnPort SameFd) :=
  segmentMoves_onPort lawful subclass.configureDescriptor
    (fun _ => keeps_onDescriptor fun _ => keeps_setBreak fun _ _ => ⟨rfl, rfl⟩) fun _ _ => ⟨rfl, rfl⟩

/-- The four backends keep the promise of the protocol about their descriptor. -/
theorem Subclass.steady (subclass : Subclass ε δ) : subclass.backend.Steady :=
  steady_syncBackend fun config => (subclass.configureDescriptor config).mono fun _ _ same => same.fd

/-- The port is closed, or its backend holds a descriptor. -/
def HoldsWhileOpen (port : Port (World ε δ)) : Prop :=
  port.closed = false → port.backend.host.Holds port.backend.backend.fd

theorem HoldsWhileOpen.moved {before after : Port (World ε δ)} (onOpen : HoldsWhileOpen before)
    (same : OnPort SameFd before after) : HoldsWhileOpen after := by
  intro isOpen
  have before : before.closed = false := by
    unfold Port.closed at isOpen ⊢
    rwa [← same.teardown]
  unfold Host.Holds
  rw [same.world.fd, same.world.openFds]
  exact onOpen before

theorem holdsWhileOpen_prepare {turn : Turn} {state : State (World ε δ)} (onOpen : HoldsWhileOpen state.port) :
    HoldsWhileOpen (turn.prepare state).port := onOpen

section Tasks

variable {entries after : List α} {me : Nat} {entry : α}

/-- The list has one more entry, or one entry of it was replaced. -/
def Writes (before after : List α) (me : Nat) (entry : α) : Prop :=
  ∀ other found, after[other]? = some found ↔ (other = me ∧ found = entry) ∨ (other ≠ me ∧ before[other]? = some found)

theorem writes_concat : Writes entries (entries ++ [entry]) entries.length entry := by
  intro other found
  constructor
  · intro here
    rcases getElem?_concat_cases here with earlier | last
    · exact .inr ⟨(Nat.ne_of_lt (List.getElem?_eq_some_iff.mp earlier).1), earlier⟩
    · exact .inl last
  · rintro (⟨rfl, rfl⟩ | ⟨_, earlier⟩)
    · simp
    · exact getElem?_concat_of_getElem? earlier

theorem writes_set (inside : me < entries.length) : Writes entries (entries.set me entry) me entry := by
  intro other found
  by_cases same : other = me
  · subst same
    simp [List.getElem?_set_self inside, eq_comm]
  · simp [List.getElem?_set_ne (Ne.symm same), same]

end Tasks

section Translation

/-- What `errno_to_exception` is made for: an error of the system, or one of the package. -/
def Translatable (exc : PyExc) : Prop := (∃ err, exc = .osError err) ∨ ∃ cls err, exc = .serialError cls err

theorem Translatable.isOSError {exc : PyExc} (translatable : Translatable exc) : exc.isOSError = true := by
  rcases translatable with ⟨err, rfl⟩ | ⟨cls, err, rfl⟩
  · rfl
  · rfl

theorem Translatable.translated {exc : PyExc} (translatable : Translatable exc) (context : Context) (path : String) :
    ∃ cls err, errnoToException exc context path = .serialError cls err := by
  rcases translatable with ⟨err, rfl⟩ | ⟨cls, err, rfl⟩
  · exact ⟨_, _, rfl⟩
  · exact ⟨cls, err, rfl⟩

theorem translatable_require {request : Option Nat} {name : String} {world : World ε δ} :
    Ends (require request name) world (fun _ after => after = world) fun exc after => after = world ∧ Translatable exc := by
  cases request with
  | some code => rfl
  | none => exact ⟨rfl, .inr ⟨_, _, rfl⟩⟩

/-- The world after a break call was accepted. -/
def withBreak (world : World ε δ) (on : Bool) : World ε δ := { world with host := { world.host with breakOn := on } }

theorem setBreak_spec {world : World ε δ} {fd : Int} {termios : TermiosModule} {on : Bool} (held : world.host.Holds fd) :
    Ends (setBreak termios fd on) world (fun _ after => after = withBreak world on)
      (fun exc after => after = world ∧ Translatable exc) := by
  rw [setBreak, ends_bind]
  refine translatable_require.mono (fun _ after same => ?_) fun _ _ refused => refused
  subst same
  rw [ends_bind, ends_fcntlCall held]
  exact ⟨fun err _ => ⟨rfl, .inl ⟨err, rfl⟩⟩, fun _ => rfl⟩

end Translation

end Anyserial.Posix
