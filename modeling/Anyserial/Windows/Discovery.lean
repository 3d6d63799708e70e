import Anyserial.Discovery
import Anyserial.Kit.Pattern

/-! The native discovery of Windows: the IDs of a device, read by patterns, and the lookup
of one port in the records that the two enumerations built. -/
set_option autoImplicit false

namespace Anyserial.Windows

open Kit

/-- A letter of a pattern under `re.IGNORECASE`: three characters outside ASCII count as
an `S` or an `I` as well. -/
def sameLetter (letter c : Char) : Bool :=
  c.toLower = letter.toLower || letter.toLower = 's' && c = '\u017f' || letter.toLower = 'i' && (c = '\u0131' || c = '\u0130')

def literal (word : String) : Pattern := .classes (word.toList.map sameLetter)

def isHexDigit (c : Char) : Bool := (hexDigit c).isSome

/-- `[0-9A-F]{count}` -/
def hexRun (count : Nat) : Pattern := .classes (List.replicate count isHexDigit)

def notBackslash (c : Char) : Bool := c ≠ '\\'

/-- `(?:mark([^\\]+))?` -/
def segment (mark : String) : Pattern := .optional (.chain [literal mark, .group (.plus notBackslash)])

/-- `_USB_INSTANCE_ID_RE` -/
def usbInstanceIdRe : Pattern :=
  .chain [literal "USB\\VID_", .group (hexRun 4), literal "&PID_", .group (hexRun 4),
    .optional (.chain [literal "&MI_", hexRun 2]), segment "\\"]

/-- `_FTDIBUS_INSTANCE_ID_RE` -/
def ftdibusInstanceIdRe : Pattern :=
  .chain [literal "FTDIBUS\\VID_", .group (hexRun 4), literal "+PID_", .group (hexRun 4), segment "+"]

def isPairMark (c : Char) : Bool := c = '&' || c = '+'

/-- `_HWID_VID_PID_RE` -/
def hwidVidPidRe : Pattern :=
  .chain [literal "VID_", .group (hexRun 4), .char isPairMark, literal "PID_", .group (hexRun 4)]

/-- `m.group(index)` -/
def groupText (m : Found) (index : Nat) : Option String := (m.groups[index - 1]?).join.map String.ofList

/-- `int(m.group(index), 16)`: the groups it is used on are hex digits. -/
def intGroup (m : Found) (index : Nat) : Option Int := (groupText m index).bind intBase16

def usbSerialNumber (segment : Option String) : Option String :=
  match segment with
  | none => none
  | some segment => if segment = "" ∨ '&' ∈ segment.toList then none else some segment

/-- The port letter that the driver of FTDI appends is taken off again. -/
def ftdiSerialNumber (segment : Option String) : Option String :=
  match segment with
  | none => none
  | some segment =>
      if segment = "" ∨ '&' ∈ segment.toList then none
      else
        match segment.toList.getLast? with
        | some letter =>
            if 1 < segment.toList.length ∧ 'A' ≤ letter ∧ letter ≤ 'Z' then some (String.ofList segment.toList.dropLast)
            else some segment
        | none => some segment

def parseInstanceId (instanceId : Option String) : Option Int × Option Int × Option String :=
  match instanceId with
  | none => (none, none, none)
  | some instanceId =>
      match usbInstanceIdRe.preferred instanceId.toList with
      | some m => (intGroup m 1, intGroup m 2, usbSerialNumber (groupText m 3))
      | none =>
          match ftdibusInstanceIdRe.preferred instanceId.toList with
          | some m => (intGroup m 1, intGroup m 2, ftdiSerialNumber (groupText m 3))
          | none => (none, none, none)

def parseHardwareId (hwid : Option String) : Option Int × Option Int :=
  match hwid with
  | none => (none, none)
  | some hwid =>
      match hwidVidPidRe.search hwid.toList with
      | some m => (intGroup m 1, intGroup m 2)
      | none => (none, none)

def parseDeviceIds (instanceId hardwareId : Option String) : Option Int × Option Int × Option String :=
  let ids := parseInstanceId instanceId
  if ids.1.isSome then ids
  else
    let (vid, pid) := parseHardwareId hardwareId
    (vid, pid, none)

/-- `setupapi` and `registry` are what the two enumerations return. -/
def resolvePortInfo (mapping : CaseMapping) (fs : FileSystem) (setupapi registry : List PortInfo) (path : String) :
    Option PortInfo :=
  let wanted := canonicalPortName mapping fs "win32" path
  match setupapi.find? fun info => canonicalPortName mapping fs "win32" info.device = wanted with
  | some info => some info
  | none => registry.find? fun info => canonicalPortName mapping fs "win32" info.device = wanted

end Anyserial.Windows
