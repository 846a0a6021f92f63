import HostConfig.Netbox.RaisedRules
import HostConfig.Render.Stanzas

/-!
# `Render.Devices` — the devices a Netplan document defines

A document defines one device for each of its stanzas, and finds the hardware of an Ethernet stanza by MAC.
Both the names and the MACs have to be told apart. The intent's rules compare the names of NICs, underlays
and VLANs, but not that of the bond, and no MACs: `distinctDevices_iff` and `distinctMatches_iff` say what
is left to the caller. A loaded intent has no device called like its bond (`distinctDevices_of_ok`); its
MACs are distinct where the recorded ones are, in canonical form.
-/

namespace HostConfig

namespace Models

/-- The NICs of a host, of all three kinds. -/
def HostIntentFields.nics (p : HostIntentFields) : List PhysIface :=
  p.nsNics.map (·.toPhysIface) ++ p.roceUnderlays.map (·.toPhysIface) ++ p.ibUnderlays.map (·.toPhysIface)

end Models

namespace Render

open Models Netbox Traverse

/-! ## Names and MACs of a document -/

/-- The names of the devices the document defines. -/
def Netplan.deviceNames (doc : Netplan) : List Seg :=
  doc.ethernets.map (·.name) ++ doc.bonds.map (·.name) ++ doc.vlans.map (·.name)

/-- The MACs its Ethernet stanzas match. -/
def Netplan.matchedMacs (doc : Netplan) : List Seg := doc.ethernets.map (·.macaddress)

/-- The NICs give the Ethernet stanzas their names and MACs. -/
theorem ethernets_perm_nics (i : HostIntent) {β : Type} {g : Ethernet → β} {f : PhysIface → β}
    (hns : ∀ nic, g (.ofNsNic nic) = f nic.toPhysIface) (hroce : ∀ nic, g (.ofRoce nic) = f nic.toPhysIface)
    (hib : ∀ nic, g (.ofIb nic) = f nic.toPhysIface) :
    ((ethernets i.role (canonicalize i.toHostIntentFields)).map g).Perm (i.nics.map f) := by
  refine ((ethernets_perm i).map g).trans ?_
  unfold HostIntentFields.nics
  simp only [List.map_append, List.map_map]
  refine .of_eq (congrArg₂ _ (congrArg₂ _ ?_ ?_) ?_)
  · exact List.map_congr_left fun nic _ => hns nic
  · exact List.map_congr_left fun nic _ => hroce nic
  · exact List.map_congr_left fun nic _ => hib nic

theorem names_eq_nics (p : HostIntentFields) :
    p.names = p.nics.map (·.name.val) ++ p.vlans.map (·.name.val) := by
  unfold HostIntentFields.names ifaceNames HostIntentFields.nics
  simp only [List.map_append, List.map_map]
  rfl

/-- Both renderings of the document define the same devices: those of the interfaces, and the bond. -/
theorem deviceNames_perm (i : HostIntent) : ∀ lines ∈ netplanDocuments i, ∃ doc,
    readNetplan lines = some doc ∧
    doc.deviceNames.Perm ((i.bond.name.val :: i.names).map Seg.str) := by
  intro lines hlines
  refine ⟨_, readNetplan_netplanDocuments i lines hlines, ?_⟩
  have hethernets := ethernets_perm_nics i (g := (·.name)) (f := fun nic =>
      Seg.str nic.name.val) (fun _ => rfl)
    (fun _ => rfl) (fun _ => rfl)
  have hvlans : (((canonicalize i.toHostIntentFields).vlans.map VlanStanza.ofVlan).map (·.name)).Perm
      (i.vlans.map fun vlan => Seg.str vlan.name.val) := by
    rw [List.map_map]
    exact (canonicalize_vlans_perm i.toHostIntentFields).map _
  have hall := (hethernets.append (List.Perm.refl [Seg.str i.bond.name.val])).append hvlans
  refine hall.trans ?_
  rw [names_eq_nics, List.map_cons, List.map_append, List.map_map, List.map_map, List.append_assoc]
  -- the bond's name moves to the front
  exact List.perm_middle

/-- Both renderings match the same MACs: those of the NICs. -/
theorem matchedMacs_perm (i : HostIntent) : ∀ lines ∈ netplanDocuments i, ∃ doc,
    readNetplan lines = some doc ∧
    doc.matchedMacs.Perm ((i.nics.map (·.mac.val)).map Seg.str) := by
  intro lines hlines
  refine ⟨_, readNetplan_netplanDocuments i lines hlines, ?_⟩
  rw [List.map_map]
  exact ethernets_perm_nics i (fun _ => rfl) (fun _ => rfl) (fun _ => rfl)

theorem seg_str_injective : Function.Injective Seg.str := by
  intro a b h
  exact Tok.str.inj (Seg.tok.inj h)

/-- What both documents list up to order is listed once in both exactly when it is listed once. -/
theorem nodup_documents_iff {i : HostIntent} {field : Netplan → List Seg} {texts : List String}
    (h : ∀ lines ∈ netplanDocuments i, ∃ doc, readNetplan lines = some doc ∧
      (field doc).Perm (texts.map Seg.str)) :
    (∀ lines ∈ netplanDocuments i, ∃ doc, readNetplan lines = some doc ∧ (field doc).Nodup) ↔
      texts.Nodup := by
  constructor
  · intro hnodup
    obtain ⟨doc, hread, hperm⟩ := h _ List.mem_cons_self
    obtain ⟨doc', hread', hdoc⟩ := hnodup _ List.mem_cons_self
    obtain rfl := Option.some.inj (hread.symm.trans hread')
    exact (List.nodup_map_iff seg_str_injective).mp (hperm.nodup_iff.mp hdoc)
  · intro hnodup lines hlines
    obtain ⟨doc, hread, hperm⟩ := h lines hlines
    exact ⟨doc, hread, hperm.nodup_iff.mpr ((List.nodup_map_iff seg_str_injective).mpr hnodup)⟩

/-! ## Distinct devices -/

/-- No two devices of the rendered Netplan have one name. -/
def DistinctDevices (i : HostIntent) : Prop :=
  ∀ lines ∈ netplanDocuments i, ∃ doc, readNetplan lines = some doc ∧ doc.deviceNames.Nodup

/-- **The devices have distinct names exactly when no NIC, underlay or VLAN is called like the bond.** -/
theorem distinctDevices_iff (i : HostIntent) : DistinctDevices i ↔ i.bond.name.val ∉ i.names := by
  unfold DistinctDevices
  rw [nodup_documents_iff (deviceNames_perm i), List.nodup_cons]
  constructor
  · exact And.left
  · intro h
    exact ⟨h, i.satisfies.uniqueNames⟩

/-- A VLAN called like the bond it is on. -/
def bondVlanFields : HostIntentFields :=
  { cpuFields with
    vlans := cpuFields.vlans.map fun v => if v.name.val = "bond0.100" then
      { v with name := cpuFields.bond.name } else v }

def bondVlanIntent : HostIntent := { bondVlanFields with valid := by decide }

theorem bondVlan_not_distinctDevices : ¬ DistinctDevices bondVlanIntent := by
  unfold DistinctDevices
  rw [nodup_documents_iff (deviceNames_perm bondVlanIntent)]
  decide

/-- **What the loader loads has distinct devices**: none of its name classes has the bond's name. -/
theorem distinctDevices_of_ok {client : Client} {assetTag : String} {i : HostIntent}
    (h : loadHostIntent client assetTag = .ok i) : DistinctDevices i := by
  obtain ⟨device, interfaces, hbuilt⟩ := built_of_ok h
  have hparts := hbuilt.parts
  rw [distinctDevices_iff, hparts.bondName, names_eq_nics]
  unfold HostIntentFields.nics
  simp only [List.map_append, List.mem_append, List.mem_map, List.map_map, not_or, not_exists, not_and,
    Function.comp_apply]
  obtain ⟨roce, hroce, hroceSorted⟩ := hparts.roceUnderlays
  obtain ⟨ib, hib, hibSorted⟩ := hparts.ibUnderlays
  -- the other names of the loader's classes do not begin with `b`
  have hhead : bondName.toList.head? = some 'b' := rfl
  refine ⟨⟨⟨?ns, ?roce⟩, ?ib⟩, ?vlan⟩
  case ns =>
    intro nic hnic hname
    have hmem : nic.name.val ∈ nsNicNames := hparts.nsNicNames ▸ List.mem_map_of_mem hnic
    rw [hname] at hmem
    exact absurd ((head_of_nsNicName hmem).symm.trans hhead) (by decide)
  case roce =>
    intro nic hnic hname
    obtain ⟨iface, hiface, hread⟩ := exists_of_mem_right hroce nic (hroceSorted.mem_iff.mp hnic)
    have hnumbered := (List.mem_filter.mp hiface).2
    rw [← hread.name, hname] at hnumbered
    exact absurd ((head_of_isNumbered rfl hnumbered).symm.trans hhead) (by decide)
  case ib =>
    intro nic hnic hname
    obtain ⟨iface, hiface, hread⟩ := exists_of_mem_right hib nic (hibSorted.mem_iff.mp hnic)
    have hnumbered := (List.mem_filter.mp hiface).2
    rw [← hread.name, hname] at hnumbered
    exact absurd ((head_of_isNumbered rfl hnumbered).symm.trans hhead) (by decide)
  case vlan =>
    -- and those of the VLANs go on after it
    intro vlan hvlan hname
    obtain ⟨iface, hiface, hread⟩ := exists_of_mem_right hparts.vlans vlan hvlan
    have hprefix := (List.mem_filter.mp hiface).2
    rw [← hread.name, hname] at hprefix
    exact absurd hprefix (by decide)

/-! ## Unambiguous matches -/

/-- No two Ethernet stanzas of the rendered Netplan match one MAC. -/
def DistinctMatches (i : HostIntent) : Prop :=
  ∀ lines ∈ netplanDocuments i, ∃ doc, readNetplan lines = some doc ∧ doc.matchedMacs.Nodup

theorem distinctMatches_iff_macs (i : HostIntent) : DistinctMatches i ↔ (i.nics.map (·.mac.val)).Nodup :=
  nodup_documents_iff (matchedMacs_perm i)

/-- The primary MAC of an interface in canonical form, if it has one. -/
def recordedMac (iface : InterfaceRecord) : Option (List Char) :=
  iface.primaryMacAddress.map fun primary => canonicalMac (macText primary)

theorem recordedMac_of_nicRead {iface : InterfaceRecord} {default : Int} {nic : PhysIface}
    (h : NicRead iface default nic) : some nic.mac.val.toList = recordedMac iface := by
  obtain ⟨primary, hprimary, hmac⟩ := h.mac
  unfold recordedMac
  rw [hprimary, hmac]
  rfl

/-- The MACs of a loaded intent are the recorded ones. -/
theorem macs_perm_recorded {client : Client} {assetTag : String} {device : Device}
    {interfaces : List InterfaceRecord} {i : HostIntent} (h : Stages client assetTag device interfaces i) :
    (i.nics.map fun nic => some nic.mac.val.toList).Perm ((nicIfaces interfaces).map recordedMac) := by
  have hns := forall₂_of_buildNsNics h.nsNics
  obtain ⟨roce, hroce, hroceSorted⟩ := roceRead_of_buildRoceUnderlays h.roceUnderlays
  obtain ⟨ib, hib, hibSorted⟩ := ibRead_of_buildIbUnderlays h.ibUnderlays
  unfold nicIfaces HostIntentFields.nics
  simp only [List.map_append, List.map_map]
  refine List.Perm.append (List.Perm.append ?_ ?_) ?_
  · exact .of_eq (map_of_forall₂ (fun _ _ hread => recordedMac_of_nicRead hread) hns)
  · refine (hroceSorted.map _).trans (.of_eq ?_)
    exact map_of_forall₂ (fun _ _ hread => recordedMac_of_nicRead hread.toNicRead) hroce
  · refine (hibSorted.map _).trans (.of_eq ?_)
    exact map_of_forall₂ (fun _ _ hread => recordedMac_of_nicRead hread.toNicRead) hib

/-- **The stanzas match distinct MACs exactly when the NICs have distinct MACs**; those of a
    loaded intent do exactly when the interfaces it was made of are recorded with distinct MACs,
    however these are written. -/
theorem distinctMatches_iff (i : HostIntent) :
    (DistinctMatches i ↔ (i.nics.map (·.mac.val)).Nodup) ∧
    ∀ client assetTag, loadHostIntent client assetTag = .ok i →
      (DistinctMatches i ↔ ∀ device, client.devicesGet assetTag = .ok (some device) →
        ∀ interfaces, client.interfacesFilter device.id = .ok interfaces →
          ((nicIfaces interfaces).map recordedMac).Nodup) := by
  refine ⟨distinctMatches_iff_macs i, ?_⟩
  intro client assetTag hload
  obtain ⟨device, interfaces, hstages⟩ := stages_of_ok hload
  have hinj : Function.Injective fun mac : String => some mac.toList := by
    intro a b hab
    exact String.toList_inj.mp (Option.some.inj hab)
  have hmacs : (i.nics.map (·.mac.val)).Nodup ↔ ((nicIfaces interfaces).map recordedMac).Nodup := by
    rw [← (macs_perm_recorded hstages).nodup_iff, ← List.nodup_map_iff hinj, List.map_map]
    rfl
  rw [distinctMatches_iff_macs, hmacs]
  exact (forall_listed_iff (P := fun _ interfaces => ((nicIfaces interfaces).map recordedMac).Nodup)
    hstages.found hstages.listing).symm

/-- The `cpu` fixture with the MAC of `nsa`, in capitals, on `nsb` too. -/
def sharedMacClient : Client :=
  oneDevice "SN-CPU-001" cpuDevice
    (cpuInterfaces.map fun iface => if iface.name = "nsb" then
      nicRecord 11 "nsb" "AA:BB:CC:00:01:01" else iface)
    cpuAddresses

theorem sharedMac_not_distinctMatches :
    ∃ i, loadHostIntent sharedMacClient "SN-CPU-001" = .ok i ∧ ¬ DistinctMatches i := by
  have hrun : (loadHostIntent sharedMacClient "SN-CPU-001").toOption.map
      (fun i => decide (i.nics.map (·.mac.val)).Nodup) = some false := by decide +kernel
  obtain ⟨i, hload, hmacs⟩ := exists_ok_of_check hrun
  refine ⟨i, hload, ?_⟩
  rw [distinctMatches_iff_macs]
  exact of_decide_eq_false hmacs

end Render
end HostConfig
