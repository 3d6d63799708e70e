import Mathlib.Algebra.Group.Int.Defs
import Mathlib.Logic.Function.Basic
import Mathlib.Data.Nat.Notation

/-! The IOKit client of the Darwin discovery, over a registry whose handles and
CoreFoundation values are counted. Any call may fail, and a call on a handle that nobody
owns is recorded and fails. -/
set_option autoImplicit false

namespace Anyserial.Darwin

abbrev ServiceHandle := Nat

/-- A value of the types that the properties of a serial service have. -/
inductive CFValue where
  | string (text : String)
  | number (value : Int)
  | other
  deriving DecidableEq, Repr

/-- The `IOService` plane. A parent of zero is the null handle. -/
structure Registry where
  parent : ServiceHandle → Option ServiceHandle
  property : ServiceHandle → String → Option CFValue
  services : List ServiceHandle
  iterator : ServiceHandle
  iterator_pos : 0 < iterator

structure CFObject where
  value : CFValue
  refs : Int
  deriving DecidableEq, Repr

structure World where
  registry : Registry
  /-- Whether the call with this number fails. -/
  faults : Nat → Bool
  clock : Nat
  /-- The references that the process has on each handle. -/
  owned : ServiceHandle → Nat
  /-- The values it was given, with their references; a pointer is one more than the index. -/
  objects : List CFObject
  /-- The handles that were used while nobody owned them. -/
  misused : List ServiceHandle

abbrev Client (α : Type) := StateM World α

section Kernel

def fault : Client Bool := fun world => (world.faults world.clock, { world with clock := world.clock + 1 })

def use (handle : ServiceHandle) : Client Bool := fun world =>
  if 0 < world.owned handle then (true, world) else (false, { world with misused := world.misused ++ [handle] })

def retain (handle : ServiceHandle) : Client Unit := fun world =>
  ((), { world with owned := Function.update world.owned handle (world.owned handle + 1) })

def ioObjectRelease (handle : ServiceHandle) : Client Unit := do
  let _ ← use handle
  modify fun world => { world with owned := Function.update world.owned handle (world.owned handle - 1) }

/-- The kernel's return code and the parent, which carries a reference of its own. -/
def ioRegistryEntryGetParentEntry (entry : ServiceHandle) : Client (Nat × ServiceHandle) := do
  let failed ← fault
  let known ← use entry
  if failed || !known then return (1, 0)
  match (← get).registry.parent entry with
  | none => return (1, 0)
  | some parent =>
      if parent ≠ 0 then retain parent
      return (0, parent)

def cfCreate (value : CFValue) : Client Nat := fun world =>
  (world.objects.length + 1, { world with objects := world.objects ++ [⟨value, 1⟩] })

def cfRelease (pointer : Nat) : Client Unit :=
  modify fun world =>
    { world with objects := world.objects.modify (pointer - 1) fun object => { object with refs := object.refs - 1 } }

def cfStringCreateWithCString (text : String) : Client Nat := do
  if ← fault then return 0
  cfCreate (.string text)

/-- `key` is the text of the key object. -/
def ioRegistryEntryCreateCFProperty (entry : ServiceHandle) (key : String) : Client Nat := do
  let failed ← fault
  let known ← use entry
  if failed || !known then return 0
  match (← get).registry.property entry key with
  | none => return 0
  | some value => cfCreate value

def cfValue (pointer : Nat) : Client (Option CFValue) := fun world =>
  ((world.objects[pointer - 1]?).map CFObject.value, world)

end Kernel

section Plumbing

/-- A value that is not a string has no text. -/
def cfstringToStr (pointer : Nat) : Client (Option String) := do
  let failed ← fault
  match ← cfValue pointer with
  | some (.string text) =>
      let text := String.ofList (text.toList.takeWhile (· ≠ '\x00'))
      return if failed || text.isEmpty then none else some text
  | _ => return none

def cfnumberToInt (pointer : Nat) : Client (Option Int) := do
  let failed ← fault
  match ← cfValue pointer with
  | some (.number value) => return if failed || value < -2 ^ 63 || 2 ^ 63 ≤ value then none else some value
  | _ => return none

end Plumbing

def usbVendorIdKey : String := "idVendor"

/-- The value carries a reference that the caller has to release. -/
def readProperty (service : ServiceHandle) (key : String) : Client Nat := do
  let cfKey ← cfStringCreateWithCString key
  if cfKey = 0 then return 0
  let value ← ioRegistryEntryCreateCFProperty service key
  cfRelease cfKey
  return value

/-- Both getters decode a value and release it. -/
def getDecoded {α : Type} (decode : Nat → Client (Option α)) (service : ServiceHandle) (key : String) : Client (Option α) := do
  let pointer ← readProperty service key
  if pointer = 0 then return none
  let decoded ← decode pointer
  cfRelease pointer
  return decoded

def getString : ServiceHandle → String → Client (Option String) := getDecoded cfstringToStr

def getInt : ServiceHandle → String → Client (Option Int) := getDecoded cfnumberToInt

def release (service : ServiceHandle) : Client Unit := ioObjectRelease service

def maxHops : Nat := 32

/-- The walk from a cursor with so many hops left. -/
def climb : Nat → ServiceHandle → Client (Option ServiceHandle)
  | 0, _ => return none
  | hops + 1, cursor => do
      let (kr, parent) ← ioRegistryEntryGetParentEntry cursor
      if kr ≠ 0 ∨ parent = 0 then return none
      let value ← readProperty parent usbVendorIdKey
      if value ≠ 0 then return some parent
      release parent
      climb hops parent

def findUsbParent (service : ServiceHandle) : Client (Option ServiceHandle) := climb maxHops service

section Iteration

/-- A null dictionary when IOKit cannot build the matcher. -/
def ioServiceMatching : Client Nat := do
  if ← fault then return 0
  cfCreate .other

/-- The dictionary is consumed whether or not the call fails. -/
def ioServiceGetMatchingServices (matching : Nat) : Client (Nat × ServiceHandle) := do
  let failed ← fault
  cfRelease matching
  if failed then return (1, 0)
  let iterator := (← get).registry.iterator
  retain iterator
  return (0, iterator)

/-- `next` is what the iterator is at; zero is its end. -/
def ioIteratorNext (iterator next : ServiceHandle) : Client ServiceHandle := do
  let failed ← fault
  let known ← use iterator
  if failed || !known || next = 0 then return 0
  retain next
  return next

variable {α : Type}

/-- The loop over the services. Its body says whether it returns from within the loop, and
the service is released either way. -/
def forServices (iterator : ServiceHandle) (body : ServiceHandle → α → Client (Bool × α)) :
    List ServiceHandle → α → Client α
  | [], result => do
      let _ ← ioIteratorNext iterator 0
      return result
  | next :: rest, result => do
      let service ← ioIteratorNext iterator next
      if service = 0 then return result
      let (returns, result) ← body service result
      release service
      if returns then return result
      forServices iterator body rest result

/-- `for service in client.list_serial_services()`; the generator releases its iterator
when the loop ends or is left. -/
def overSerialServices (body : ServiceHandle → α → Client (Bool × α)) (result : α) : Client α := do
  let matching ← ioServiceMatching
  if matching = 0 then return result
  let (kr, iterator) ← ioServiceGetMatchingServices matching
  if kr ≠ 0 then return result
  let result ← forServices iterator body (← get).registry.services result
  ioObjectRelease iterator
  return result

end Iteration

end Anyserial.Darwin
