import Anyserial.Darwin.Iokit
import Anyserial.Discovery

/-! The Darwin port discovery: the services that IOKit lists, resolved to ports with the
metadata of their USB ancestor. -/
set_option autoImplicit false

namespace Anyserial.Darwin

open Kit

structure UsbInfo where
  vid : Option Int := none
  pid : Option Int := none
  serialNumber : Option String := none
  manufacturer : Option String := none
  product : Option String := none
  location : Option String := none
  deriving DecidableEq, Repr

def ioCalloutDeviceKey : String := "IOCalloutDevice"

def ioDialinDeviceKey : String := "IODialinDevice"

def usbProductIdKey : String := "idProduct"

def usbSerialNumberKey : String := "USB Serial Number"

def usbVendorNameKey : String := "USB Vendor Name"

def usbProductNameKey : String := "USB Product Name"

def usbLocationIdKey : String := "locationID"

section Text

def deviceBaseName (device : String) : Option String :=
  let tail := String.ofList (device.toList.reverse.takeWhile (· ≠ '/')).reverse
  if tail.isEmpty then none else some tail

/-- The low 32 bits, in lower case. -/
def formatLocation (locationId : Option Int) : Option String :=
  locationId.map fun value => String.ofList (hexDigits 8 (value % 2 ^ 32))

def formatHwid (info : UsbInfo) : Option String :=
  match info.vid, info.pid with
  | some vid, some pid =>
      let serial := match info.serialNumber with
        | some serialNumber => if serialNumber.isEmpty then [] else ["SER=" ++ serialNumber]
        | none => []
      let location := match info.location with
        | some location => if location.isEmpty then [] else ["LOCATION=" ++ location]
        | none => []
      some (" ".intercalate (["USB VID:PID=" ++ upperHex vid ++ ":" ++ upperHex pid] ++ serial ++ location))
  | _, _ => none

end Text

def resolveUsb (service : ServiceHandle) : Client UsbInfo := do
  match ← findUsbParent service with
  | none => return {}
  | some parent =>
      let locationId ← getInt parent usbLocationIdKey
      let vid ← getInt parent usbVendorIdKey
      let pid ← getInt parent usbProductIdKey
      let serialNumber ← getString parent usbSerialNumberKey
      let manufacturer ← getString parent usbVendorNameKey
      let product ← getString parent usbProductNameKey
      release parent
      return ⟨vid, pid, serialNumber, manufacturer, product, formatLocation locationId⟩

def resolveService (service : ServiceHandle) : Client (Option PortInfo) := do
  let callout ← getString service ioCalloutDeviceKey
  let dialin ← getString service ioDialinDeviceKey
  match callout <|> dialin with
  | none => return none
  | some device =>
      let usb ← resolveUsb service
      return some
        { device := device
          name := deviceBaseName device
          description := usb.product
          hwid := formatHwid usb
          vid := usb.vid
          pid := usb.pid
          serialNumber := usb.serialNumber
          manufacturer := usb.manufacturer
          product := usb.product
          location := usb.location
          interface := none }

/-- The two device nodes of a service. -/
def deviceNodes (service : ServiceHandle) : Client (Option String × Option String) := do
  let callout ← getString service ioCalloutDeviceKey
  let dialin ← getString service ioDialinDeviceKey
  return (callout, dialin)

/-- A service without a device node is given up before its USB ancestor is looked for. -/
theorem resolveService_continues (service : ServiceHandle) (world : World) : resolveService service world =
    (match (deviceNodes service world).1.1 <|> (deviceNodes service world).1.2 with
      | none => return none
      | some device => do
          let usb ← resolveUsb service
          return some ⟨device, deviceBaseName device, usb.product, formatHwid usb, usb.vid, usb.pid, usb.serialNumber,
            usb.manufacturer, usb.product, usb.location, none⟩ : Client (Option PortInfo)) (deviceNodes service world).2 := rfl

def enumerateBody (service : ServiceHandle) (ports : List PortInfo) : Client (Bool × List PortInfo) := do
  match ← resolveService service with
  | some info => return (false, ports ++ [info])
  | none => return (false, ports)

def enumeratePorts : Client (List PortInfo) := do
  let ports ← overSerialServices enumerateBody []
  return ports.mergeSort fun first second => first.device ≤ second.device

def resolveBody (path : String) (service : ServiceHandle) (_ : Option PortInfo) : Client (Bool × Option PortInfo) := do
  let callout ← getString service ioCalloutDeviceKey
  let dialin ← getString service ioDialinDeviceKey
  if callout = some path ∨ dialin = some path then
    return (true, ← resolveService service)
  return (false, none)

def resolvePortInfo (path : String) : Client (Option PortInfo) := overSerialServices (resolveBody path) none

end Anyserial.Darwin
