import HostConfig.Models.Tree
import HostConfig.Netbox.Provenance
import HostConfig.Render.Stanzas

/-!
# `Netbox.Conventions` — what the loader takes for granted

Three conventions that neither the loader nor the rules of the intent check. A VLAN child is an interface
called `bond0.` and the id of its VLAN: the loader reads the name from the interface and the id from the
VLAN, and looks at the prefix of the name only (`vlansNamed_iff`). MTUs do not grow along the interface
tree: the rules compare those of the bond and the VLANs, the MTUs of the NICs and the bond are read from
their interfaces as they are (`mtuMonotone_iff`). The default gateway is the first host of the network of
the management address: it is never compared with the addresses of the host (`gateway_of_ok`).
-/

namespace HostConfig
namespace Netbox

open Models Traverse

variable {client : Client} {assetTag : String} {i : HostIntent}

/-! ## VLAN names -/

/-- The name of the VLAN child with this id. -/
def vlanName (vlanId : Int) : String := vlanNamePrefix ++ toString vlanId

/-- Every VLAN child has the name of its id, and the ids are distinct. -/
structure VlansNamed (i : HostIntent) : Prop where
  names : ∀ vlan ∈ i.vlans, vlan.name.val = vlanName vlan.vlanId.val
  ids : (i.vlans.map (·.vlanId.val)).Nodup

/-- The interfaces of the device that have the prefix are called after the ids of their VLANs. -/
def NamedByVlan (client : Client) (assetTag : String) : Prop :=
  ∀ device, client.devicesGet assetTag = .ok (some device) →
    ∀ interfaces, client.interfacesFilter device.id = .ok interfaces →
      ∀ iface ∈ interfaces, isVlanName iface.name = true →
        ∀ untagged, iface.untaggedVlan = some untagged → iface.name = vlanName untagged.vid

/-- Names that follow the ids tell these apart: the names are distinct. -/
theorem nodup_vlanIds (h : ∀ vlan ∈ i.vlans, vlan.name.val = vlanName vlan.vlanId.val) :
    (i.vlans.map (·.vlanId.val)).Nodup := by
  have hnames : (i.vlans.map (·.name.val)).Nodup := List.Nodup.of_append_right i.satisfies.uniqueNames
  rw [List.map_congr_left h] at hnames
  have hmap : i.vlans.map (fun vlan => vlanName vlan.vlanId.val) =
      (i.vlans.map (·.vlanId.val)).map fun id : Nat => vlanName id := by
    rw [List.map_map]
    rfl
  rw [hmap] at hnames
  exact List.Nodup.of_map _ hnames

/-- **The VLAN children are called after their ids exactly when the interfaces they are read from are.** -/
theorem vlansNamed_iff (h : loadHostIntent client assetTag = .ok i) :
    VlansNamed i ↔ NamedByVlan client assetTag := by
  obtain ⟨device, interfaces, hbuilt⟩ := built_of_ok h
  have hvlans := hbuilt.parts.vlans
  have hlisted : NamedByVlan client assetTag ↔ ∀ iface ∈ interfaces, isVlanName iface.name = true →
      ∀ untagged, iface.untaggedVlan = some untagged → iface.name = vlanName untagged.vid :=
    forall_listed_iff hbuilt.found hbuilt.listing
  rw [hlisted]
  constructor
  · intro hnamed iface hiface hprefix untagged huntagged
    -- the child that was made of the interface
    obtain ⟨vlan, hvlan, hread⟩ := exists_of_mem_left hvlans iface (List.mem_filter.mpr ⟨hiface, hprefix⟩)
    obtain ⟨untagged', huntagged', hid, -⟩ := hread.untagged
    obtain rfl := Option.some.inj (huntagged.symm.trans huntagged')
    calc iface.name = vlan.name.val := hread.name.symm
      _ = vlanName vlan.vlanId.val := hnamed.names vlan hvlan
      _ = vlanName untagged.vid := by rw [hid]
  · intro hnamed
    have hnames : ∀ vlan ∈ i.vlans, vlan.name.val = vlanName vlan.vlanId.val := by
      intro vlan hvlan
      obtain ⟨iface, hiface, hread⟩ := exists_of_mem_right hvlans vlan hvlan
      obtain ⟨hmem, hprefix⟩ := List.mem_filter.mp hiface
      obtain ⟨untagged, huntagged, hid, -⟩ := hread.untagged
      rw [hread.name, hid]
      exact hnamed iface hmem hprefix untagged huntagged
    exact ⟨hnames, nodup_vlanIds hnames⟩

theorem vlansNamed_iff_cpu : ∃ i, loadHostIntent cpuClient "SN-CPU-001" = .ok i ∧
    (VlansNamed i ↔ NamedByVlan cpuClient "SN-CPU-001") := by
  obtain ⟨i, hload⟩ := cpuClient_loads
  exact ⟨i, hload, vlansNamed_iff hload⟩

/-- The `cpu` fixture with the storage VLAN on VLAN 100 as well. -/
def sharedVidClient : Client :=
  oneDevice "SN-CPU-001" cpuDevice
    (cpuInterfaces.map fun iface =>
      if iface.name = "bond0.200" then vlanRecord 14 "bond0.200" 9000 100 "storage" else iface)
    cpuAddresses

theorem sharedVid_not_vlansNamed :
    ∃ i, loadHostIntent sharedVidClient "SN-CPU-001" = .ok i ∧ ¬ VlansNamed i := by
  have hrun : (loadHostIntent sharedVidClient "SN-CPU-001").toOption.map
      (fun i => decide (i.vlans.map (·.vlanId.val)).Nodup) = some false := by decide +kernel
  obtain ⟨i, hload, hids⟩ := exists_ok_of_check hrun
  refine ⟨i, hload, ?_⟩
  intro h
  exact of_decide_eq_false hids h.ids

/-! ## MTUs -/

/-- The interface of the bond has no larger MTU than those of the N-S NICs, defaults included. -/
def NicsCoverBond (client : Client) (assetTag : String) : Prop :=
  ∀ device, client.devicesGet assetTag = .ok (some device) →
    ∀ interfaces, client.interfacesFilter device.id = .ok interfaces →
      ∀ bondIface, byName interfaces bondName = some bondIface →
        ∀ name ∈ nsNicNames, ∀ iface, byName interfaces name = some iface →
          readMtu bondIface 9000 ≤ readMtu iface 9000

/-- The members of a loaded bond have the MTUs of their interfaces. -/
theorem membersCoverBond_iff (h : loadHostIntent client assetTag = .ok i) :
    (∀ nic ∈ i.nsNics, nic.name.val ∈ i.bond.members → i.bond.mtu.val ≤ nic.mtu.val) ↔
      NicsCoverBond client assetTag := by
  obtain ⟨device, interfaces, hstages⟩ := stages_of_ok h
  obtain ⟨-, hmembers, bondIface, hbond, hbondMtu⟩ := bond_of_buildBond hstages.bond
  have hnics := mapM_eq_ok_iff.mp hstages.nsNics
  have hlisted : NicsCoverBond client assetTag ↔ ∀ bondIface, byName interfaces bondName = some bondIface →
      ∀ name ∈ nsNicNames, ∀ iface, byName interfaces name = some iface →
        readMtu bondIface 9000 ≤ readMtu iface 9000 := forall_listed_iff hstages.found hstages.listing
  rw [hlisted]
  constructor
  · intro hcover bondIface' hbond' name hname iface hiface
    obtain rfl := Option.some.inj (hbond.symm.trans hbond')
    -- the NIC that was made of the interface
    obtain ⟨nic, hnic, hbuilt⟩ := exists_of_mem_left hnics name hname
    obtain ⟨-, iface', hiface', hread⟩ := nicRead_of_byName hbuilt
    obtain rfl := Option.some.inj (hiface.symm.trans hiface')
    have hmember : nic.name.val ∈ i.bond.members := hmembers ▸ List.mem_map_of_mem hnic
    rw [← hbondMtu, ← hread.mtu]
    exact Int.ofNat_le.mpr (hcover nic hnic hmember)
  · intro hcover nic hnic _
    obtain ⟨name, hname, hbuilt⟩ := exists_of_mem_right hnics nic hnic
    obtain ⟨-, iface, hiface, hread⟩ := nicRead_of_byName hbuilt
    have hle := hcover bondIface hbond name hname iface hiface
    rw [← hbondMtu, ← hread.mtu] at hle
    exact Int.ofNat_le.mp hle

/-- **MTUs never grow from the bond to its children, and do not from a NIC to the bond exactly when no
    member has a smaller MTU than the bond**: for a loaded intent, when none is recorded with one. -/
theorem mtuMonotone_iff (i : HostIntent) :
    (∀ vlan ∈ i.vlans, vlan.mtu.val ≤ i.bond.mtu.val) ∧
    (MtuMonotone i.toHostIntentFields ↔
      ∀ nic ∈ i.nsNics, nic.name.val ∈ i.bond.members → i.bond.mtu.val ≤ nic.mtu.val) ∧
    ∀ client assetTag, loadHostIntent client assetTag = .ok i →
      (MtuMonotone i.toHostIntentFields ↔ NicsCoverBond client assetTag) := by
  refine ⟨i.satisfies.mtuMonotone, mtuMonotone_iff_members i, ?_⟩
  intro client assetTag h
  rw [mtuMonotone_iff_members]
  exact membersCoverBond_iff h

/-! ## The default gateway -/

open Render in
/-- The default route of the rendered Netplan: that of the VLAN's stanza, through this gateway. -/
def RoutesVia (i : HostIntent) (vlan : VlanChild) (gateway : IPv4Address) : Prop :=
  ∀ lines ∈ netplanDocuments i, ∃ doc, readNetplan lines = some doc ∧
    ∃ s ∈ doc.vlans, s.name = .str vlan.name.val ∧ s.routes = [Route.default gateway]

open Render in
theorem routesVia_of_gateway {vlan : VlanChild} {gateway : IPv4Address} (hvlan : vlan ∈ i.vlans)
    (hgateway : vlan.gateway = some gateway) : RoutesVia i vlan gateway := by
  intro lines hlines
  refine ⟨_, readNetplan_netplanDocuments i lines hlines, VlanStanza.ofVlan vlan, ?_, rfl, ?_⟩
  · exact List.mem_map_of_mem ((canonicalize_vlans_perm _).mem_iff.mpr hvlan)
  · show vlan.gateway.toList.map Route.default = _
    rw [hgateway]
    rfl

open Render in
/-- **The derived gateway is the first host of the management network.** It is inside the network, and up to
    `/30` neither its first nor its last address; the host has it as an address of its own exactly when an
    interface was given that first host, the management interface itself when its number within the network
    is that of the first host. -/
theorem gateway_of_ok (h : loadHostIntent client assetTag = .ok i) :
    ∃ mgmt ∈ i.vlans, mgmt.role = .mgmt ∧ (∀ vlan ∈ i.vlans, vlan.role = .mgmt → vlan = mgmt) ∧
      ∃ gateway, mgmt.gateway = some gateway ∧ RoutesVia i mgmt gateway ∧
        mgmt.address.firstHost = some gateway ∧ mgmt.address.Contains gateway ∧
        (mgmt.address.prefixlen.val ≤ 30 →
          mgmt.address.networkAddress < gateway.toNat ∧
            gateway.toNat + 1 < mgmt.address.networkAddress + mgmt.address.blockSize) ∧
        (gateway ∈ i.ips ↔
          ∃ ip ∈ i.ips, ip.toNat = mgmt.address.networkAddress + mgmt.address.firstHostNumber) ∧
        (gateway = mgmt.address.ip ↔
          mgmt.address.ip.toNat % mgmt.address.blockSize = mgmt.address.firstHostNumber) := by
  obtain ⟨mgmt, hmgmt, hrole, hunique, gateway, hgateway⟩ := exists_mgmt i
  obtain ⟨device, interfaces, hbuilt⟩ := built_of_ok h
  obtain ⟨iface, -, hread⟩ := exists_of_mem_right hbuilt.parts.vlans mgmt hmgmt
  have hfirst : mgmt.address.firstHost = some gateway := by
    have hderived := hread.gateway
    rw [if_pos hrole, hgateway] at hderived
    exact hderived.symm
  have hnumber := IPv4Interface.firstHost_eq_some_iff.mp hfirst
  refine ⟨mgmt, hmgmt, hrole, hunique, gateway, hgateway, routesVia_of_gateway hmgmt hgateway,
    hfirst, IPv4Interface.contains_firstHost hfirst, IPv4Interface.firstHost_between hfirst, ⟨?_, ?_⟩, ?_⟩
  · intro hmem
    exact ⟨gateway, hmem, hnumber⟩
  · rintro ⟨ip, hip, hipNumber⟩
    rwa [IPv4Address.ext (hnumber.trans hipNumber.symm)]
  · rw [← IPv4Interface.firstHost_eq_ip_iff, hfirst, Option.some.injEq]

theorem gateway_of_ok_cpu : ∃ i, loadHostIntent cpuClient "SN-CPU-001" = .ok i ∧
    ∃ mgmt ∈ i.vlans, ∃ gateway, mgmt.gateway = some gateway ∧ mgmt.address.Contains gateway := by
  obtain ⟨i, hload⟩ := cpuClient_loads
  obtain ⟨mgmt, hmgmt, -, -, gateway, hgateway, -, -, hcontains, -⟩ := gateway_of_ok hload
  exact ⟨i, hload, mgmt, hmgmt, gateway, hgateway, hcontains⟩

/-- The `cpu` fixture with the first host of the management network as the management address. -/
def firstHostClient : Client :=
  oneDevice "SN-CPU-001" cpuDevice cpuInterfaces
    [(13, "10.42.10.1/24"), (14, "10.42.20.11/24"), (15, "10.42.30.11/24")]

/-- The default route points at the host itself. -/
theorem firstHost_own_gateway :
    ∃ i, loadHostIntent firstHostClient "SN-CPU-001" = .ok i ∧
      ∃ mgmt ∈ i.vlans, ∃ gateway, mgmt.gateway = some gateway ∧ gateway = mgmt.address.ip ∧
        gateway ∈ i.ips := by
  have hrun : (loadHostIntent firstHostClient "SN-CPU-001").toOption.map
      (fun i => i.vlans.any fun vlan => vlan.gateway = some vlan.address.ip && vlan.address.ip ∈ i.ips) =
        some true := by decide +kernel
  obtain ⟨i, hload, hany⟩ := exists_ok_of_check hrun
  obtain ⟨mgmt, hmgmt, hvalues⟩ := List.any_eq_true.mp hany
  obtain ⟨hgateway, hmem⟩ := (Bool.and_eq_true _ _).mp hvalues
  exact ⟨i, hload, mgmt, hmgmt, mgmt.address.ip, of_decide_eq_true hgateway, rfl, of_decide_eq_true hmem⟩

end Netbox
end HostConfig
