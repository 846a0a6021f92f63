import HostConfig.Lib.Traverse
import HostConfig.Netbox.Loader

/-!
# `Netbox.Views` — what the loader sees of a host

A view is what `load_host_intent` reads of a host: the name of the device and the slug of its role, and of
every interface, in the order of the listing, the name, the MTU, the text of the primary MAC, the untagged
VLAN, the custom fields and the addresses. There is no id in it, and nothing of other hosts.

`loadHostIntent_of_view` says that the loader reads nothing else: Netboxes that show the same view of a host
give the same intent, or the same error. What is written to Netbox elsewhere, and which ids its objects
have, makes no difference to a host.
-/

namespace HostConfig
namespace Netbox

open Models Traverse

/-! ## Views -/

structure InterfaceView where
  name : String
  mtu : Option Int
  mac : Option String
  untaggedVlan : Option VlanRecord
  customFields : List (String × JsonValue)
  addresses : Except String (List String)

structure DeviceView where
  name : Option String
  role : Option String
  interfaces : Except String (List InterfaceView)

namespace Client

def interfaceView (client : Client) (iface : InterfaceRecord) : InterfaceView where
  name := iface.name
  mtu := iface.mtu
  mac := iface.primaryMacAddress.map macText
  untaggedVlan := iface.untaggedVlan
  customFields := iface.customFields.getD []
  addresses := (client.ipAddressesFilter iface.id).map fun ips => ips.map (·.address)

def deviceView (client : Client) (device : Device) : DeviceView where
  name := device.name
  role := roleSlug device
  interfaces := (client.interfacesFilter device.id).map fun ifaces => ifaces.map client.interfaceView

/-- What `load_host_intent` sees of the host with this asset tag, if there is one. -/
def view (client : Client) (assetTag : String) : Except String (Option DeviceView) :=
  (client.devicesGet assetTag).map fun device => device.map client.deviceView

end Client

/-! ## Records with the same view -/

section Readers

variable {c c' : Client} {a a' : InterfaceRecord} {assetTag : String}

theorem readMac_eq (iface : InterfaceRecord) : readMac iface assetTag =
    match iface.primaryMacAddress.map macText with
    | none      => .error (queryError "read_mac" (.noPrimaryMac iface.name) assetTag)
    | some text => .ok (String.ofList (lower text.toList)) := by
  unfold readMac
  cases iface.primaryMacAddress <;> rfl

theorem fetchSingleIp_eq (client : Client) (iface : InterfaceRecord) : fetchSingleIp client iface assetTag =
    match (client.ipAddressesFilter iface.id).map fun ips => ips.map (·.address) with
    | .error e => .error (queryError "list_ip_addresses" (.raised e) assetTag)
    | .ok [ip] => (IPv4Interface.parse ip).elim (.error (.addressValueError ip)) .ok
    | .ok ips  => .error (queryError "list_ip_addresses" (.ipCount iface.name ips.length) assetTag) := by
  unfold fetchSingleIp
  cases client.ipAddressesFilter iface.id with
  | error e => rfl
  | ok ips =>
    match ips with
    | []           => rfl
    | [ip]         =>
      simp only [Except.map, List.map_cons, List.map_nil]
      cases IPv4Interface.parse ip.address <;> rfl
    | _ :: _ :: ips => simp [Except.map]

variable (h : c.interfaceView a = c'.interfaceView a')

include h

/-- **What the loader reads off an interface is in its view.** The name, -/
theorem name_of_view : a.name = a'.name := congrArg InterfaceView.name h

/-- the MAC, -/
theorem readMac_of_view : readMac a assetTag = readMac a' assetTag := by
  have hmac : a.primaryMacAddress.map macText = a'.primaryMacAddress.map macText :=
    congrArg InterfaceView.mac h
  rw [readMac_eq, readMac_eq, hmac, name_of_view h]

/-- the MTU, -/
theorem readMtu_of_view (default : Int) : readMtu a default = readMtu a' default := by
  have hmtu : a.mtu = a'.mtu := congrArg InterfaceView.mtu h
  unfold readMtu
  rw [hmtu]

/-- the VLAN's id -/
theorem readVlanId_of_view : readVlanId a assetTag = readVlanId a' assetTag := by
  have hvlan : a.untaggedVlan = a'.untaggedVlan := congrArg InterfaceView.untaggedVlan h
  unfold readVlanId
  rw [hvlan, name_of_view h]

/-- and role, -/
theorem readVlanRole_of_view : readVlanRole a assetTag = readVlanRole a' assetTag := by
  have hvlan : a.untaggedVlan = a'.untaggedVlan := congrArg InterfaceView.untaggedVlan h
  unfold readVlanRole
  rw [hvlan, name_of_view h]

/-- the number of VFs -/
theorem readSriovVfs_of_view (default : Int) : readSriovVfs a default = readSriovVfs a' default := by
  have hfields : a.customFields.getD [] = a'.customFields.getD [] := congrArg InterfaceView.customFields h
  unfold readSriovVfs
  rw [hfields]

/-- and the address; -/
theorem fetchSingleIp_of_view : fetchSingleIp c a assetTag = fetchSingleIp c' a' assetTag := by
  have haddresses : _ = (c'.ipAddressesFilter a'.id).map fun ips => ips.map (·.address) :=
    congrArg InterfaceView.addresses h
  rw [fetchSingleIp_eq, fetchSingleIp_eq, name_of_view h]
  rw [show (c.ipAddressesFilter a.id).map (fun ips => ips.map (·.address)) = _ from haddresses]

/-- hence a VLAN, -/
theorem buildVlan_of_view : buildVlan c assetTag a = buildVlan c' assetTag a' := by
  unfold buildVlan
  rw [readVlanId_of_view h, readVlanRole_of_view h, fetchSingleIp_of_view h, readMtu_of_view h,
    name_of_view h]

/-- a RoCE underlay -/
theorem buildRoceUnderlay_of_view : buildRoceUnderlay c assetTag a = buildRoceUnderlay c' assetTag a' := by
  unfold buildRoceUnderlay
  rw [readMac_of_view h, fetchSingleIp_of_view h, readSriovVfs_of_view h, readMtu_of_view h, name_of_view h]

/-- and an InfiniBand underlay. -/
theorem buildIbUnderlay_of_view : buildIbUnderlay c assetTag a = buildIbUnderlay c' assetTag a' := by
  unfold buildIbUnderlay
  rw [readMac_of_view h, fetchSingleIp_of_view h, readMtu_of_view h, name_of_view h]

end Readers

/-! ## Listings with the same views -/

section Builders

variable {c c' : Client} {l l' : List InterfaceRecord} {assetTag : String}
  (h : l.map c.interfaceView = l'.map c'.interfaceView)

include h

/-- Equal listings of views have equal interfaces of each name, -/
theorem byName_of_view (name : String) :
    (byName l name).map c.interfaceView = (byName l' name).map c'.interfaceView := by
  unfold byName
  refine map_find?_of_map (by rw [List.map_reverse, List.map_reverse, h]) ?_
  intro a a' ha
  rw [name_of_view ha]

/-- so the same NICs -/
theorem buildNsNic_of_view (assetTag name : String) :
    buildNsNic l assetTag name = buildNsNic l' assetTag name := by
  have hfound := byName_of_view h name
  unfold buildNsNic
  cases hname : byName l name with
  | none =>
    rw [hname, Option.map_none] at hfound
    rw [Option.map_eq_none_iff.mp hfound.symm]
  | some a =>
    rw [hname, Option.map_some] at hfound
    obtain ⟨a', ha', hview⟩ := Option.map_eq_some_iff.mp hfound.symm
    rw [ha']
    dsimp only
    rw [readMac_of_view hview.symm, readMtu_of_view hview.symm]

/-- and the same bond. -/
theorem buildBond_of_view (nsNics : List BondMember) :
    buildBond l nsNics assetTag = buildBond l' nsNics assetTag := by
  have hfound := byName_of_view h bondName
  unfold buildBond
  cases hname : byName l bondName with
  | none =>
    rw [hname, Option.map_none] at hfound
    rw [Option.map_eq_none_iff.mp hfound.symm]
  | some a =>
    rw [hname, Option.map_some] at hfound
    obtain ⟨a', ha', hview⟩ := Option.map_eq_some_iff.mp hfound.symm
    rw [ha']
    dsimp only
    rw [readMtu_of_view hview.symm]

/-- A loop over the interfaces whose names are of one shape. -/
theorem mapM_filter_of_view {Part : Type} {isClass : String → Bool}
    {build build' : InterfaceRecord → Except PyExc Part}
    (hbuild : ∀ a a', c.interfaceView a = c'.interfaceView a' → build a = build' a') :
    (l.filter fun i => isClass i.name).mapM build = (l'.filter fun i => isClass i.name).mapM build' := by
  refine mapM_of_map (map_filter_of_map h ?_) hbuild
  intro a a' ha
  rw [name_of_view ha]

end Builders

/-! ## The loader -/

section Loader

variable {c c' : Client} {device device' : Device} {assetTag : String}

/-- The device is fetched from both, or the same exception is raised. -/
theorem fetchDevice_of_view (h : c.view assetTag = c'.view assetTag) :
    (∃ e, fetchDevice c assetTag = .error e ∧ fetchDevice c' assetTag = .error e) ∨
      ∃ device device', fetchDevice c assetTag = .ok device ∧ fetchDevice c' assetTag = .ok device' ∧
        c.deviceView device = c'.deviceView device' := by
  unfold Client.view at h
  unfold fetchDevice
  cases hc : c.devicesGet assetTag with
  | error e =>
    rw [hc] at h
    cases hc' : c'.devicesGet assetTag with
    | error e' =>
      rw [hc'] at h
      obtain rfl := Except.error.inj h
      exact .inl ⟨_, rfl, rfl⟩
    | ok found =>
      rw [hc'] at h
      cases h
  | ok found =>
    rw [hc] at h
    cases hc' : c'.devicesGet assetTag with
    | error e' =>
      rw [hc'] at h
      cases h
    | ok found' =>
      rw [hc'] at h
      have hfound : found.map c.deviceView = found'.map c'.deviceView := Except.ok.inj h
      match found, found' with
      | none, none                  => exact .inl ⟨_, rfl, rfl⟩
      | some device, some device'   => exact .inr ⟨device, device', rfl, rfl, Option.some.inj hfound⟩
      | none, some _ | some _, none => cases hfound

/-- So are its interfaces. -/
theorem fetchInterfaces_of_view (assetTag : String) (h : c.deviceView device = c'.deviceView device') :
    (∃ e, fetchInterfaces c device assetTag = .error e ∧ fetchInterfaces c' device' assetTag = .error e) ∨
      ∃ l l', fetchInterfaces c device assetTag = .ok l ∧ fetchInterfaces c' device' assetTag = .ok l' ∧
        l.map c.interfaceView = l'.map c'.interfaceView := by
  have hlisting : (c.interfacesFilter device.id).map (fun l => l.map c.interfaceView) =
      (c'.interfacesFilter device'.id).map fun l => l.map c'.interfaceView := congrArg DeviceView.interfaces h
  unfold fetchInterfaces
  cases hc : c.interfacesFilter device.id with
  | error e =>
    rw [hc] at hlisting
    cases hc' : c'.interfacesFilter device'.id with
    | error e' =>
      rw [hc'] at hlisting
      obtain rfl := Except.error.inj hlisting
      exact .inl ⟨_, rfl, rfl⟩
    | ok l' =>
      rw [hc'] at hlisting
      cases hlisting
  | ok l =>
    rw [hc] at hlisting
    cases hc' : c'.interfacesFilter device'.id with
    | error e' =>
      rw [hc'] at hlisting
      cases hlisting
    | ok l' =>
      rw [hc'] at hlisting
      exact .inr ⟨l, l', rfl, rfl, Except.ok.inj hlisting⟩

/-- The role is in the device's view. -/
theorem parseRole_of_view (h : c.deviceView device = c'.deviceView device') :
    parseRole device assetTag = parseRole device' assetTag := by
  have hname : device.name = device'.name := congrArg DeviceView.name h
  have hrole : roleSlug device = roleSlug device' := congrArg DeviceView.role h
  unfold parseRole
  rw [hrole, hname]

/-- **The loader reads nothing of Netbox but the view of the host.** -/
theorem loadHostIntent_of_view (h : c.view assetTag = c'.view assetTag) :
    loadHostIntent c assetTag = loadHostIntent c' assetTag := by
  unfold loadHostIntent
  rcases fetchDevice_of_view h with ⟨e, hdevice, hdevice'⟩ | ⟨device, device', hdevice, hdevice', hview⟩
  · rw [hdevice, hdevice']
    rfl
  rw [hdevice, hdevice']
  show (fetchInterfaces c device assetTag >>= _) = (fetchInterfaces c' device' assetTag >>= _)
  rcases fetchInterfaces_of_view assetTag hview with ⟨e, hlist, hlist'⟩ | ⟨l, l', hlist, hlist', hviews⟩
  · rw [hlist, hlist']
    rfl
  rw [hlist, hlist']
  show (parseRole device assetTag >>= _) = (parseRole device' assetTag >>= _)
  have hname : device.name = device'.name := congrArg DeviceView.name hview
  have hnics : buildNsNics l assetTag = buildNsNics l' assetTag := by
    unfold buildNsNics
    rw [funext fun name => buildNsNic_of_view hviews assetTag name]
  have hbond : ∀ nsNics, buildBond l nsNics assetTag = buildBond l' nsNics assetTag :=
    buildBond_of_view hviews
  have hvlans : buildVlans c l assetTag = buildVlans c' l' assetTag :=
    mapM_filter_of_view hviews fun _ _ => buildVlan_of_view
  have hroce : buildRoceUnderlays c l assetTag = buildRoceUnderlays c' l' assetTag := by
    unfold buildRoceUnderlays
    rw [mapM_filter_of_view hviews fun _ _ => buildRoceUnderlay_of_view]
  have hib : buildIbUnderlays c l assetTag = buildIbUnderlays c' l' assetTag := by
    unfold buildIbUnderlays
    rw [mapM_filter_of_view hviews fun _ _ => buildIbUnderlay_of_view]
  rw [parseRole_of_view hview, hnics, hvlans, hroce, hib, hname]
  simp only [hbond]

end Loader

end Netbox
end HostConfig
