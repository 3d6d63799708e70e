import Anyserial.Linux.Lifecycle
import Mathlib.Logic.Function.Basic

/-! Any number of Linux backends on one device: they are opened and closed in any order,
and the kernel accepts every call. -/
set_option autoImplicit false

namespace Anyserial.Linux

open Kit Posix

inductive Turn where
  | openPort (who : Nat) (path : String) (config : SerialConfig)
  | close (who : Nat)

def Turn.who : Turn → Nat
  | .openPort someone _ _ => someone
  | .close someone => someone

def Turn.perform : Turn → Py LinuxWorld Unit
  | .openPort _ path config => Linux.openPort path config
  | .close _ => Linux.close

structure Shared where
  instances : Nat → LinuxBackend
  host : Host Device

namespace Shared

/-- The world as one of the instances sees it. -/
def view (shared : Shared) (who : Nat) : LinuxWorld := ⟨shared.instances who, { shared.host with faults := noFaults }⟩

def step (shared : Shared) (turn : Turn) : Shared :=
  let after := finalState turn.perform (shared.view turn.who)
  ⟨Function.update shared.instances turn.who after.backend, after.host⟩

/-- Instances that were just constructed. -/
def start (host : Host Device) : Shared := ⟨fun _ => .fresh {}, host⟩

def run (host : Host Device) (turns : List Turn) : Shared := turns.foldl step (start host)

def AllClosed (shared : Shared) : Prop := ∀ who, (shared.instances who).isOpen = false

/-- The flags, the timers and the RS-485 state of the device are the original ones. -/
structure Restored (original device : Device) : Prop where
  serial : device.serial = original.serial
  sysfs : device.sysfs = original.sysfs
  rs485 : device.rs485 = original.rs485

end Shared

end Anyserial.Linux
