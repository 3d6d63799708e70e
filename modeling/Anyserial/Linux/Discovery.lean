import Mathlib.Data.String.Basic
import Anyserial.Discovery
import Anyserial.Linux.LowLatency

/-! The native discovery of Linux: the entries of `/sys/class/tty`, and the USB device above
the one that an entry links to. -/
set_option autoImplicit false

namespace Anyserial.Linux

open Kit

/-- The part of a port's metadata that comes from the USB ancestor. -/
structure UsbInfo where
  vid : Option Int := none
  pid : Option Int := none
  serialNumber : Option String := none
  manufacturer : Option String := none
  product : Option String := none
  location : Option String := none
  interface : Option String := none
  deriving DecidableEq

def defaultSysRoot : List String := ["sys", "class", "tty"]

def defaultDevRoot : List String := ["dev"]

def parseHex (value : Option String) : Option Int := value.bind intBase16

def formatHwid (info : UsbInfo) : Option String :=
  match info.vid, info.pid with
  | some vid, some pid =>
      let serial := match info.serialNumber with
        | some serialNumber => if serialNumber.isEmpty then [] else ["SER=" ++ serialNumber]
        | none => []
      let location := match info.location with
        | some location => if location.isEmpty then [] else ["LOCATION=" ++ location]
        | none => []
      some (" ".intercalate (["USB VID:PID=" ++ upperHex vid ++ ":" ++ upperHex pid] ++ serial ++ location))
  | _, _ => none

section Tree

variable (fs : FileSystem)

/-- `_read_text`: an attribute that is empty or cannot be read counts as missing. -/
def readText (path : List String) : Option String :=
  (fs.readText path).bind fun text => if strip text = "" then none else some (strip text)

/-- `_find_usb_device`: the root itself is never looked at. -/
def findUsbDevice (start : Location) : Option Location :=
  (start.inits.reverse.filter (· ≠ [])).find? fun place => fs.isFile (place ++ ["idVendor"])

def resolveUsb (deviceTarget : Location) : UsbInfo :=
  let interface := readText fs (deviceTarget ++ ["interface"])
  match findUsbDevice fs deviceTarget with
  | none => { interface := interface }
  | some usbDev =>
      { vid := parseHex (readText fs (usbDev ++ ["idVendor"]))
        pid := parseHex (readText fs (usbDev ++ ["idProduct"]))
        serialNumber := readText fs (usbDev ++ ["serial"])
        manufacturer := readText fs (usbDev ++ ["manufacturer"])
        product := readText fs (usbDev ++ ["product"])
        location := usbDev.getLast?
        interface := interface }

variable (sysRoot devRoot : List String)

/-- The record of the entry `name` whose `device` link leads to `deviceTarget`. -/
def portInfo (name : String) (deviceTarget : Location) : PortInfo :=
  let usb := resolveUsb fs deviceTarget
  { device := FileSystem.text (devRoot ++ [name])
    name := some name
    description := usb.product
    hwid := formatHwid usb
    vid := usb.vid
    pid := usb.pid
    serialNumber := usb.serialNumber
    manufacturer := usb.manufacturer
    product := usb.product
    location := usb.location
    interface := usb.interface }

/-- `_resolve_entry` -/
def resolveEntry (name : String) : Option PortInfo :=
  match fs.resolveFromRoot (sysRoot ++ [name, "device"]) with
  | none => none
  | some deviceTarget => if "virtual" ∈ deviceTarget then none else some (portInfo fs devRoot name deviceTarget)

/-- `ttyName` is the name of a `Path`. -/
def resolvePortInfo (path : String) : Option PortInfo :=
  let name := ttyName path
  if name = "" then none
  else if fs.isDir (sysRoot ++ [name]) then resolveEntry fs sysRoot devRoot name
  else none

def enumeratePorts : List PortInfo :=
  if fs.isDir sysRoot then
    let entries := (fs.resolveFromRoot sysRoot).elim [] fs.children
    (entries.mergeSort fun first second => first ≤ second).filterMap (resolveEntry fs sysRoot devRoot)
  else []

end Tree

end Anyserial.Linux
