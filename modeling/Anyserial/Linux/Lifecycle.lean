import Anyserial.Linux.Backend

/-! Whole runs of one Linux backend: the caller opens, reconfigures and closes it in
any order, and the kernel refuses calls of each operation as it likes. -/
set_option autoImplicit false

namespace Anyserial.Linux

open Kit Posix

inductive Operation where
  | openPort (path : String) (config : SerialConfig)
  | configure (config : SerialConfig)
  | close

def Operation.perform : Operation → Py LinuxWorld Unit
  | .openPort path config => Linux.openPort path config
  | .configure config => Linux.configure config
  | .close => Linux.close

/-- One operation, with the calls that the kernel refuses while it runs. -/
structure Step where
  operation : Operation
  faults : Faults

/-- The world in which the step starts. -/
def Step.prepare (step : Step) (world : LinuxWorld) : LinuxWorld :=
  { world with host := { world.host with faults := step.faults } }

/-- The step is taken; the caller survives whatever it raises. -/
def exec (world : LinuxWorld) (step : Step) : LinuxWorld :=
  finalState step.operation.perform (step.prepare world)

/-- A backend that was just constructed. -/
def start (host : Host Device) : LinuxWorld := ⟨.fresh {}, host⟩

def execAll (host : Host Device) (steps : List Step) : LinuxWorld := steps.foldl exec (start host)

/-- The step closes the backend, or it is an open that cleans up after itself. -/
def Step.TearsDown (step : Step) (world : LinuxWorld) : Prop :=
  match step.operation with
  | .openPort path config =>
      world.backend.isOpen = false ∧ Raises (Linux.openPort path config) (step.prepare world)
  | .configure _ => False
  | .close => True

/-- An FTDI adapter with the default timer, in plain UART mode. -/
def ftdiDevice : Device where
  termios := .zero
  serial := .replicate 32 0
  serialWrites := []
  rs485 := List.replicate 32 0
  sysfs name := if name = "ttyUSB0" then some ⟨some ftdiDriverName, some (.number 16)⟩ else none

def ftdiHost : Host Device := { device := ftdiDevice, openFds := [0, 1, 2] }

/-- An open terminal that takes two bytes at a time and always has two to read. -/
def polledTerminal : LinuxWorld :=
  let opened := finalState (Linux.openPort "/dev/ttyUSB0" .defaults) (start ftdiHost)
  { opened with host := { opened.host with replies := { incoming := [1, 2], accepts := 2 } } }

end Anyserial.Linux
