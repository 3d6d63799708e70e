import Anyserial.Linux.Device

/-! Low-latency mode: `ASYNC_LOW_LATENCY` and the FTDI `latency_timer` in sysfs. -/
set_option autoImplicit false

namespace Anyserial.Linux

open Posix

def asyncLowLatency : BitVec 32 := 0x2000

variable {ε : Type}

/-- The `flags` slot of `struct serial_struct`. -/
abbrev flagsIndex : Nat := 4

theorem flagsIndex_lt : flagsIndex < 32 := by decide

def readSerialFlags (fd : Int) : Py (World ε Device) (BitVec 32) := do
  fcntlCall fd .tiocgserial .probe
  let device ← getDevice
  pure (device.serial.get ⟨flagsIndex, by decide⟩)

/-- Reads the whole struct again and replaces the flags slot only. -/
def writeSerialFlags (fd : Int) (flags : BitVec 32) (phase : Phase) : Py (World ε Device) Unit := do
  fcntlCall fd .tiocgserial phase
  let device ← getDevice
  let buf := device.serial.set flagsIndex flags
  fcntlCall fd .tiocsserial phase
  modifyDevice fun device => { device with serial := buf, serialWrites := buf :: device.serialWrites }

/-- Returns the original flags; no write is issued when the bit is already set. -/
def enableLowLatency (fd : Int) : Py (World ε Device) (BitVec 32) := do
  let original ← readSerialFlags fd
  if original &&& asyncLowLatency ≠ 0 then pure original
  else do
    writeSerialFlags fd (original ||| asyncLowLatency) .apply
    pure original

def restoreSerialFlags (fd : Int) (original : BitVec 32) : Py (World ε Device) Unit :=
  writeSerialFlags fd original .restore

def ftdiDriverName : String := "ftdi_sio"

def ftdiLatencyTimerTargetMs : Int := 1

/-- The saved timer. `path` names the entry under `/sys/class/tty`. -/
structure FtdiLatencyTimer where
  path : String
  originalMs : Int
  deriving DecidableEq

/-- `Path(device_path).name`: the last component that is neither empty nor a dot. -/
def ttyName (devicePath : String) : String :=
  (((devicePath.toList.splitOn '/').map String.ofList).filter fun part => part ≠ "" ∧ part ≠ ".").getLastD ""

/-- Resolving the driver link may fail, and that counts as a terminal without an
FTDI driver. -/
def ftdiLatencyTimerPath (devicePath : String) : Py (World ε Device) (Option String) := do
  let host ← getHost
  let name := ttyName devicePath
  match host.faults .sysfsResolve .probe, host.device.sysfs name with
  | none, some entry =>
      if entry.driver = some ftdiDriverName ∧ entry.latencyTimer.isSome then pure (some name) else pure none
  | _, _ => pure none

def notAnInteger : PyExc := .valueError "invalid literal for int() with base 10"

def missingFile (path : String) : OSErr := ⟨.enoent, "No such file or directory", some path⟩

def timerText (sysfs : Sysfs) (path : String) : Option TimerText :=
  (sysfs path).bind TtyEntry.latencyTimer

def readLatencyTimer (path : String) : Py (World ε Device) Int := do
  let host ← getHost
  refuse .osError (host.faults .sysfsRead .probe)
  match timerText host.device.sysfs path with
  | some (.number value) => pure value
  | some (.garbage _) => throw notAnInteger
  | none => throw (.osError (missingFile path))

def setTimer (path : String) (valueMs : Int) (sysfs : Sysfs) : Sysfs := fun name =>
  if name = path then (sysfs name).map fun entry => { entry with latencyTimer := some (.number valueMs) }
  else sysfs name

def writeLatencyTimer (path : String) (valueMs : Int) (phase : Phase) : Py (World ε Device) Unit := do
  let host ← getHost
  refuse .osError (host.faults .sysfsWrite phase)
  if (timerText host.device.sysfs path).isSome then
    modifyDevice fun device => { device with sysfs := setTimer path valueMs device.sysfs }
  else throw (.osError (missingFile path))

/-- Returns the saved timer, or `none` when the device is not an FTDI port. -/
def tuneFtdiLatencyTimer (devicePath : String) : Py (World ε Device) (Option FtdiLatencyTimer) := do
  let path ← ftdiLatencyTimerPath devicePath
  match path with
  | none => pure none
  | some path => do
      let original ← readLatencyTimer path
      whenever (original ≠ ftdiLatencyTimerTargetMs) (writeLatencyTimer path ftdiLatencyTimerTargetMs .apply)
      pure (some ⟨path, original⟩)

def restoreFtdiLatencyTimer (saved : FtdiLatencyTimer) : Py (World ε Device) Unit :=
  writeLatencyTimer saved.path saved.originalMs .restore

end Anyserial.Linux
