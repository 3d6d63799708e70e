import Anyserial.Darwin.Discovery
import Anyserial.Darwin.IokitProperties

/-! The reference discipline of the Darwin discovery: one search for a USB ancestor, and
the walks that make one search for each port. -/
set_option autoImplicit false

namespace Anyserial.Darwin

variable {world : World} {service handle : ServiceHandle} {path : String}

/-- What `find_usb_parent` promises of its handles and values. -/
structure Disciplined (world : World) (service : ServiceHandle) : Prop where
  misused : (findUsbParent service world).2.misused = world.misused
  found : Reliable world → (findUsbParent service world).1 = nearest world.registry maxHops service
  owned : ∀ handle, (findUsbParent service world).2.owned handle =
    world.owned handle + if (findUsbParent service world).1 = some handle then 1 else 0
  older : world.objects <+: (findUsbParent service world).2.objects
  released : ∀ object ∈ (findUsbParent service world).2.objects.drop world.objects.length, object.refs = 0

/-- A walk ends with the references it started with, and it used no handle without one. -/
structure SameCounts (before after : World) : Prop where
  misused : after.misused = before.misused
  owned : after.owned = before.owned
  older : before.objects <+: after.objects
  released : ∀ object ∈ after.objects.drop before.objects.length, object.refs = 0

theorem disciplined_iff (world : World) (service : ServiceHandle) :
    Disciplined world service ↔ Spared world maxHops world.clock service := by
  obtain ⟨extended, clean, nobody⟩ := climb_spec maxHops world service
  constructor
  · intro disciplined
    exact clean.mp ⟨disciplined.misused, disciplined.released⟩
  · intro spared
    obtain ⟨none, missing⟩ := nobody spared
    constructor
    case misused => exact (clean.mpr spared).misused
    case found => exact fun reliable => none.trans (missing reliable).symm
    case owned => exact extended.owned
    case older => exact extended.objects
    case released => exact (clean.mpr spared).released

theorem sameCounts_iff {after : World} (extended : Extends none world after) : SameCounts world after ↔ Clean world after := by
  constructor
  · intro same
    exact ⟨same.misused, same.released⟩
  · intro clean
    exact ⟨clean.misused, funext extended.owned, extended.objects, clean.released⟩

theorem resolveUsb_spec (world : World) (service : ServiceHandle) :
    Extends none world (resolveUsb service world).2 ∧
      (Clean world (resolveUsb service world).2 ↔ Spared world maxHops world.clock service) := by
  obtain ⟨extended, clean⟩ := findUsbParent_spec world service
  unfold resolveUsb
  rw [bind_apply, ← clean]
  generalize (findUsbParent service world).2 = after at *
  cases found : (findUsbParent service world).1 with
  | none =>
    rw [found] at extended
    exact ⟨extended, Iff.rfl⟩
  | some parent =>
    rw [found] at extended
    have gets : ReturnsLoan parent (do
        let locationId ← getInt parent usbLocationIdKey
        let vid ← getInt parent usbVendorIdKey
        let pid ← getInt parent usbProductIdKey
        let serialNumber ← getString parent usbSerialNumberKey
        let manufacturer ← getString parent usbVendorNameKey
        let product ← getString parent usbProductNameKey
        release parent
        return (⟨vid, pid, serialNumber, manufacturer, product, formatLocation locationId⟩ : UsbInfo)) := by
      refine .bind (fun _ owned => sound_getInt owned _) fun _ => ?_
      refine .bind (fun _ owned => sound_getInt owned _) fun _ => ?_
      refine .bind (fun _ owned => sound_getInt owned _) fun _ => ?_
      refine .bind (fun _ owned => sound_getString owned _) fun _ => ?_
      refine .bind (fun _ owned => sound_getString owned _) fun _ => ?_
      refine .bind (fun _ owned => sound_getString owned _) fun _ => ?_
      exact returnsLoan_release _
    exact gets world after extended

theorem sound_deviceNodes (owned : 0 < world.owned service) : Sound (deviceNodes service) world := by
  have first : Sound (getString service ioCalloutDeviceKey) world := sound_getString owned _
  refine first.bind (Sound.bind (sound_getString ?_ _) (.pure _))
  rw [first.1.owned]
  exact owned

/-- A service without a device node is skipped before the search. -/
def ServiceSpared (service : ServiceHandle) (world : World) : Prop :=
  let nodes := deviceNodes service world
  (nodes.1.1 <|> nodes.1.2) = none ∨ Spared nodes.2 maxHops nodes.2.clock service

theorem resolveService_spec (owned : 0 < world.owned service) :
    Extends none world (resolveService service world).2 ∧
      (Clean world (resolveService service world).2 ↔ ServiceSpared service world) := by
  obtain ⟨extended, clean⟩ := sound_deviceNodes owned
  have spared : ServiceSpared service world ↔
      (((deviceNodes service world).1.1 <|> (deviceNodes service world).1.2) = none ∨
        Spared (deviceNodes service world).2 maxHops (deviceNodes service world).2.clock service) :=
    Iff.rfl
  rw [resolveService_continues, spared]
  generalize (deviceNodes service world).1 = named at *
  generalize (deviceNodes service world).2 = after at *
  cases device : named.1 <|> named.2 with
  | none => exact ⟨extended, ⟨fun _ => .inl rfl, fun _ => clean⟩⟩
  | some path =>
    obtain ⟨extendedOn, cleanOn⟩ := resolveUsb_spec after service
    change Extends none world (resolveUsb service after).2 ∧ (Clean world (resolveUsb service after).2 ↔ _)
    refine ⟨extended.trans extendedOn, ?_⟩
    rw [clean_trans_iff extended extendedOn, cleanOn]
    constructor
    · intro both
      exact .inr both.2
    · intro spared
      exact ⟨clean, spared.resolve_left (by simp)⟩

theorem enumerateBody_spec : BodySpec enumerateBody fun service _ world => ServiceSpared service world := by
  intro service ports world owned
  have resolved := resolveService_spec owned
  unfold enumerateBody
  rw [bind_apply]
  cases (resolveService service world).1 with
  | none => exact resolved
  | some info => exact resolved

/-- Only a service whose path it is gets resolved. -/
def PathSpared (path : String) (service : ServiceHandle) (world : World) : Prop :=
  let nodes := deviceNodes service world
  ¬(nodes.1.1 = some path ∨ nodes.1.2 = some path) ∨ ServiceSpared service nodes.2

theorem resolveBody_spec (path : String) : BodySpec (resolveBody path) fun service _ world => PathSpared path service world := by
  intro service result world owned
  obtain ⟨extended, clean⟩ := sound_deviceNodes owned
  have continues : resolveBody path service result world =
      (if (deviceNodes service world).1.1 = some path ∨ (deviceNodes service world).1.2 = some path then do
          return (true, ← resolveService service)
        else return (false, none) : Client (Bool × Option PortInfo)) (deviceNodes service world).2 :=
    rfl
  have spared : PathSpared path service world ↔
      (¬((deviceNodes service world).1.1 = some path ∨ (deviceNodes service world).1.2 = some path) ∨
        ServiceSpared service (deviceNodes service world).2) :=
    Iff.rfl
  rw [continues]
  beta_reduce
  rw [spared]
  generalize (deviceNodes service world).1 = named at *
  generalize (deviceNodes service world).2 = after at *
  by_cases asked : named.1 = some path ∨ named.2 = some path
  · have mine : 0 < after.owned service := by
      rw [extended.owned]
      exact owned
    obtain ⟨extendedOn, cleanOn⟩ := resolveService_spec mine
    simp only [if_pos asked, bind_apply, pure_apply]
    refine ⟨extended.trans extendedOn, ?_⟩
    rw [clean_trans_iff extended extendedOn, cleanOn]
    constructor
    · intro both
      exact .inr both.2
    · intro spared
      exact ⟨clean, spared.resolve_left (not_not.mpr asked)⟩
  · rw [if_neg asked]
    exact ⟨extended, ⟨fun _ => .inl asked, fun _ => clean⟩⟩

/-- The search keeps the reference discipline exactly when no handle is used after it was
released and no `idVendor` is read; the walks end with the counts they started with exactly
when every search they make does. -/
theorem reference_discipline_iff (world : World) :
    (∀ service, Disciplined world service ↔ Spared world maxHops world.clock service) ∧
      (SameCounts world (enumeratePorts world).2 ↔
        WalkSpared enumerateBody (fun service _ world => ServiceSpared service world) [] world) ∧
      ∀ path, SameCounts world (resolvePortInfo path world).2 ↔
        WalkSpared (resolveBody path) (fun service _ world => PathSpared path service world) none world := by
  refine ⟨disciplined_iff world, ?_, fun path => ?_⟩
  · obtain ⟨extended, clean⟩ := overSerialServices_spec enumerateBody_spec [] world
    exact (sameCounts_iff extended).trans clean
  · obtain ⟨extended, clean⟩ := overSerialServices_spec (resolveBody_spec path) none world
    exact (sameCounts_iff extended).trans clean

/-- A serial service below a USB device, with one node between them. -/
def usbSerial : Registry where
  parent entry := if entry = 1 then some 2 else if entry = 2 then some 3 else none
  property entry key :=
    if entry = 1 ∧ key = ioCalloutDeviceKey then some (.string "/dev/cu.usbserial")
    else if entry = 3 ∧ key = usbVendorIdKey then some (.number 1027)
    else none
  services := [1]
  iterator := 9
  iterator_pos := by decide

/-- The service is listed, no call fails, and nobody else has a reference. -/
def freshWorld (registry : Registry) : World :=
  ⟨registry, fun _ => false, 0, fun entry => if entry = 1 then 1 else 0, [], []⟩

/-- The second hop uses the handle that the first one has released. -/
theorem second_hop_uses_a_released_handle :
    ¬∀ (world : World) (service : ServiceHandle), 0 < world.owned service → Disciplined world service := by
  intro disciplined
  have promised := disciplined (freshWorld usbSerial) 1 (by decide)
  have used : (findUsbParent 1 (freshWorld usbSerial)).2.misused = [2] := by decide +kernel
  have none : (freshWorld usbSerial).misused = [] := rfl
  cases used.symm.trans (promised.misused.trans none)

end Anyserial.Darwin
