import Anyserial.Kit.FileSystem
import Anyserial.Kit.Text

/-! What the discovery of every platform reports, and the one name that all spellings of
a port share. -/
set_option autoImplicit false

namespace Anyserial

open Kit

structure PortInfo where
  device : String
  name : Option String := none
  description : Option String := none
  hwid : Option String := none
  vid : Option Int := none
  pid : Option Int := none
  serialNumber : Option String := none
  manufacturer : Option String := none
  product : Option String := none
  location : Option String := none
  interface : Option String := none
  deriving DecidableEq, Repr

/-- What `str.upper` puts in the place of a character. It depends on the version of
Unicode outside ASCII. -/
structure CaseMapping where
  upper : Char → List Char
  ascii : ∀ c, c.toNat < 128 → upper c = [c.toUpper]

/-- The mapping of a Unicode without letters outside ASCII. -/
def plainMapping : CaseMapping where
  upper c := [c.toUpper]
  ascii _ _ := rfl

/-- `_WINDOWS_DEVICE_PREFIXES`: both are four characters long. -/
def windowsDevicePrefixes : List (List Char) := [['\\', '\\', '.', '\\'], ['\\', '\\', '?', '\\']]

def hasDevicePrefix (name : List Char) : Bool := windowsDevicePrefixes.any fun start => start.isPrefixOf name

/-- The loop of `canonical_port_name`: every round takes four characters. -/
def stripDevicePrefixes (name : List Char) : List Char :=
  if _found : hasDevicePrefix name then stripDevicePrefixes (name.drop 4) else name
termination_by name.length
decreasing_by
  cases name with
  | nil => cases _found
  | cons c rest =>
    rw [List.length_drop, List.length_cons]
    omega

/-- `canonical_port_name`; `platform` is a value of `sys.platform`. -/
def canonicalPortName (mapping : CaseMapping) (fs : FileSystem) (platform path : String) : String :=
  if platform = "win32" then String.ofList ((stripDevicePrefixes path.toList).flatMap mapping.upper)
  else
    match fs.resolve path with
    | some place => FileSystem.text place
    | none => path

/-- The filters of `find_serial_port`; one that is `none` is no constraint. -/
structure PortFilters where
  vid : Option Int := none
  pid : Option Int := none
  serialNumber : Option String := none
  device : Option String := none
  deriving DecidableEq, Repr

/-- `find_serial_port`; `ports` is what the selected enumeration returns. -/
def findSerialPort (mapping : CaseMapping) (fs : FileSystem) (platform : String) (ports : List PortInfo) (filters : PortFilters) :
    Option PortInfo :=
  let wanted := filters.device.map (canonicalPortName mapping fs platform)
  ports.find? fun p =>
    (filters.vid = none ∨ p.vid = filters.vid) ∧ (filters.pid = none ∨ p.pid = filters.pid) ∧
      (filters.serialNumber = none ∨ p.serialNumber = filters.serialNumber) ∧
        (wanted = none ∨ some (canonicalPortName mapping fs platform p.device) = wanted)

end Anyserial
