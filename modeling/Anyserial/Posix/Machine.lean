import Anyserial.Posix.Ioctl
import Anyserial.Stream.Machine

/-! A port on a POSIX backend, driven by any number of tasks. The kernel answers the
calls of every step as it likes. -/
set_option autoImplicit false

namespace Anyserial.Posix

open Kit

variable {ε δ : Type}

/-- The descriptor is the one it was, as open as it was. -/
structure SameFd (before after : World ε δ) : Prop where
  fd : after.backend.fd = before.backend.fd
  openFds : after.host.openFds = before.host.openFds

/-- The line is in break when it was. -/
def SameBreak (before after : World ε δ) : Prop := after.host.breakOn = before.host.breakOn

/-- What a subclass of `PosixBackend` overrides. None of its methods touches the break,
and a reconfiguration stays on the descriptor. -/
structure Subclass (ε δ : Type) where
  termios : TermiosModule
  openPort : String → SerialConfig → Py (World ε δ) Unit
  close : Py (World ε δ) Unit
  configure : SerialConfig → Py (World ε δ) Unit
  configureDescriptor : ∀ config, Keeps SameFd (configure config)
  configureBreak : ∀ config, Keeps SameBreak (configure config)
  closeBreak : Keeps SameBreak close

def Subclass.backend (subclass : Subclass ε δ) : SyncSerialBackend (World ε δ) :=
  syncBackend subclass.termios subclass.openPort subclass.close subclass.configure

/-- A step of the port with the kernel's answers to it. -/
structure Turn where
  faults : Faults
  replies : Replies
  label : Label

def Turn.prepare (turn : Turn) (state : State (World ε δ)) : State (World ε δ) :=
  let world := state.port.backend
  let answering : World ε δ := { world with host := { world.host with faults := turn.faults, replies := turn.replies } }
  { state with port := { state.port with backend := answering } }

def turnStep (subclass : Subclass ε δ) (loop : EventLoop (World ε δ)) (state : State (World ε δ)) (turn : Turn) :
    Option (State (World ε δ)) :=
  step subclass.backend loop (turn.prepare state) turn.label

/-- The loop leaves the backend alone. A wait on a descriptor is refused when another
task waits on it or when it is being closed, and a sleep when no double is as long. -/
structure Lawful (loop : EventLoop (World ε δ)) : Prop where
  waitReadable : ∀ fd world, Ends (loop.waitReadable fd) world (fun _ after => after = world)
    fun exc after => after = world ∧ (exc = .closedResourceError ∨ ∃ action, exc = .busyResourceError action)
  waitWritable : ∀ fd world, Ends (loop.waitWritable fd) world (fun _ after => after = world)
    fun exc after => after = world ∧ (exc = .closedResourceError ∨ ∃ action, exc = .busyResourceError action)
  notifyClosing : ∀ fd world, Ends (loop.notifyClosing fd) world (fun _ after => after = world)
    fun exc after => after = world ∧ (exc.isOSError = true ∨ ∃ message, exc = .valueError message)
  sleeps : ∀ duration world, loop.sleeps world duration = false → duration.TooLarge

theorem lawful_quietLoop : Lawful (quietLoop : EventLoop (World ε δ)) :=
  ⟨fun _ _ => rfl, fun _ _ => rfl, fun _ _ => rfl, by simp [quietLoop]⟩

end Anyserial.Posix
