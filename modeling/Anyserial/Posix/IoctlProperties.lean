import Anyserial.Posix.Ioctl
import Anyserial.Posix.HostProperties

/-! What the methods of a POSIX backend return, and what they raise. -/
set_option autoImplicit false

namespace Anyserial.Posix

open Kit

variable {ε δ : Type} {world : World ε δ}

theorem ends_osCall {fd : Int} {call : Syscall} {returned : Unit → World ε δ → Prop}
    {raised : PyExc → World ε δ → Prop} :
    Ends (osCall fd call) world returned raised ↔
      (∀ err, world.host.refusal fd call .apply = some err → raised (.osError err) world) ∧
        (world.host.refusal fd call .apply = none → returned () world) := by
  simp only [osCall, ends_bind, ends_get, ends_refuse]

theorem readv_fits {fd : Int} {buffer : ReadBuffer} :
    Ends (readv fd buffer) world (fun bytes _ => bytes.length ≤ buffer.nbytes) fun _ _ => True := by
  simp only [readv, ends_ite, ends_bind, ends_osCall, ends_getHost, ends_pure, ends_throw]
  exact ⟨fun _ => ⟨fun _ _ => trivial, fun _ => List.length_take_le _ _⟩, fun _ => trivial⟩

theorem osWrite_fits {fd : Int} {data : Bytes} :
    Ends (osWrite fd data) world (fun count _ => count ≤ data.length) fun _ _ => True := by
  simp only [osWrite, ends_bind, ends_osCall, ends_getHost, ends_pure]
  exact ⟨fun _ _ => trivial, fun _ => min_le_right _ _⟩

/-- A read stays in its buffer and a write takes no more than it was given, on every
POSIX backend. -/
theorem syncBackend_honest {termios : TermiosModule} {openPort : String → SerialConfig → Py (World ε δ) Unit}
    {close : Py (World ε δ) Unit} {configure : SerialConfig → Py (World ε δ) Unit} :
    (syncBackend termios openPort close configure).Honest where
  read buffer bytes before after ran := by
    have fits : Ends (onDescriptor fun fd => readv fd buffer) before (fun bytes _ => bytes.length ≤ buffer.nbytes)
        fun _ _ => True := by
      simp only [onDescriptor, ends_bind, ends_getBackend]
      exact readv_fits
    exact (ends_iff.mp fits).1 bytes after ran
  write data count before after ran := by
    have fits : Ends (onDescriptor fun fd => osWrite fd data) before (fun count _ => count ≤ data.length)
        fun _ _ => True := by
      simp only [onDescriptor, ends_bind, ends_getBackend]
      exact osWrite_fits
    exact (ends_iff.mp fits).1 count after ran

section Keeps

variable {α : Type} {related : World ε δ → World ε δ → Prop} [Std.Refl related]

theorem keeps_osCall {fd : Int} {call : Syscall} : Keeps related (osCall fd call) := by
  intro world
  rw [ends_osCall]
  exact ⟨fun _ _ => Std.Refl.refl world, fun _ => Std.Refl.refl world⟩

theorem keeps_require {request : Option Nat} {name : String} :
    Keeps related (require request name : Py (World ε δ) Nat) := by
  cases request with
  | some code => exact .pure _
  | none => exact .throw _

variable [IsTrans (World ε δ) related]

theorem keeps_onDescriptor {call : Int → Py (World ε δ) α} (kept : ∀ fd, Keeps related (call fd)) :
    Keeps related (onDescriptor call) :=
  keeps_getBackend.bind fun _ => kept _

theorem keeps_ioctlInt {fd : Int} {request : Option Nat} {name : String} {call : Syscall} {reply : Replies → BitVec 32} :
    Keeps related (ioctlInt fd request name call reply) :=
  keeps_require.bind fun _ => keeps_fcntlCall.bind fun _ => keeps_getHost.bind fun _ => .pure _

theorem keeps_readv {fd : Int} {buffer : ReadBuffer} : Keeps related (readv fd buffer) :=
  .ite (fun _ => keeps_osCall.bind fun _ => keeps_getHost.bind fun _ => .pure _) fun _ => .throw _

theorem keeps_osWrite {fd : Int} {data : Bytes} : Keeps related (osWrite fd data) :=
  keeps_osCall.bind fun _ => keeps_getHost.bind fun _ => .pure _

theorem keeps_getModemLines {termios : TermiosModule} {fd : Int} : Keeps related (getModemLines termios fd) :=
  keeps_ioctlInt.bind fun _ => .pure _

theorem keeps_inputWaiting {termios : TermiosModule} {fd : Int} : Keeps related (inputWaiting termios fd) :=
  keeps_ioctlInt.map _

theorem keeps_outputWaiting {termios : TermiosModule} {fd : Int} : Keeps related (outputWaiting termios fd) :=
  keeps_ioctlInt.map _

theorem keeps_setControlLines {termios : TermiosModule} {fd : Int} {rts dtr : Option Bool}
    (controlBits : ∀ (world : World ε δ) bits, related world { world with host := { world.host with controlBits := bits } }) :
    Keeps related (setControlLines termios fd rts dtr) := by
  refine .bind (keeps_whenever ?_) fun _ => keeps_whenever ?_
  · exact keeps_require.bind fun _ => keeps_fcntlCall.bind fun _ => .modify fun world => controlBits world _
  · exact keeps_require.bind fun _ => keeps_fcntlCall.bind fun _ => .modify fun world => controlBits world _

theorem keeps_setBreak {termios : TermiosModule} {on : Bool} {fd : Int}
    (breakOn : ∀ (world : World ε δ) on, related world { world with host := { world.host with breakOn := on } }) :
    Keeps related (setBreak termios fd on) :=
  keeps_require.bind fun _ => keeps_fcntlCall.bind fun _ => .modify fun world => breakOn world on

/-- What the inherited methods keep, whatever is run in place of the break calls and of a
reconfiguration. -/
theorem preserves_syncBackend {termios : TermiosModule} {openPort : String → SerialConfig → Py (World ε δ) Unit}
    {close : Py (World ε δ) Unit} {line : Bool → Py (World ε δ) Unit} {apply : SerialConfig → Py (World ε δ) Unit}
    (configure : ∀ config, Keeps related (apply config)) (setBreak : ∀ on, Keeps related (line on))
    (controlBits : ∀ (world : World ε δ) bits, related world { world with host := { world.host with controlBits := bits } }) :
    SyncSerialBackend.Preserves { syncBackend termios openPort close apply with setBreak := line } related where
  readNonblocking buffer := keeps_onDescriptor fun fd => (keeps_readv : Keeps related (readv fd buffer))
  writeNonblocking data := keeps_onDescriptor fun fd => (keeps_osWrite : Keeps related (osWrite fd data))
  configure := configure
  resetInputBuffer := keeps_onDescriptor fun _ => keeps_termiosCall
  resetOutputBuffer := keeps_onDescriptor fun _ => keeps_termiosCall
  setBreak := setBreak
  tcdrainBlocking := keeps_onDescriptor fun fd => (keeps_termiosCall : Keeps related (termiosCall fd .tcdrain))
  modemLines := keeps_onDescriptor fun _ => keeps_getModemLines
  setControlLines rts dtr := keeps_onDescriptor fun fd =>
    (keeps_setControlLines controlBits : Keeps related (setControlLines termios fd rts dtr))
  inputWaiting := keeps_onDescriptor fun _ => keeps_inputWaiting
  outputWaiting := keeps_onDescriptor fun _ => keeps_outputWaiting

end Keeps

/-- The descriptor is that of the open, unless a reconfiguration changes it. -/
theorem steady_syncBackend {termios : TermiosModule} {openPort : String → SerialConfig → Py (World ε δ) Unit}
    {close : Py (World ε δ) Unit} {configure : SerialConfig → Py (World ε δ) Unit}
    (kept : ∀ config, Keeps (fun before after => after.backend.fd = before.backend.fd) (configure config)) :
    (syncBackend termios openPort close configure).Steady :=
  preserves_syncBackend kept (fun _ => keeps_onDescriptor fun _ => keeps_setBreak fun _ _ => rfl) fun _ _ => rfl

end Anyserial.Posix
