import HostConfig.Fixtures.Acceptance
import HostConfig.Netbox.Faithful
import HostConfig.Render.Decode

/-!
# `Fixtures.Pipeline` — from a fixture to what cloud-init reads

`netplanOf` is what the network of a host should be, read off its fixture: a NIC for every interface of the
loader's names, the bond, and a VLAN for every sub-interface of the bond. `populate_serves` follows it all
the way: the fixtures are written to Netbox, the host's intent is loaded from there, the file is rendered,
and a YAML reader that takes the served text gets this network. Nothing is lost or doubled on the way, and
nothing of another host gets in.

The text has its values without quotes, so they have to be plain strings (`Render.Decode`); `Plain` says it
of the fixture.
-/

namespace HostConfig
namespace Fixtures

open Netbox Render Service Models Traverse

variable {fixtures : List HostFixture} {fx : HostFixture} {spec : InterfaceSpec} {n n' : NetboxState}
  {refreshes : Bool} {i : HostIntent} {id : Nat} {default : Int}

/-! ## The network a fixture asks for -/

namespace InterfaceSpec

/-- The MAC, as the models keep it. -/
def macaddress (spec : InterfaceSpec) : String := String.ofList (canonicalMac (spec.mac.getD ""))

/-- The address, as `ipaddress` writes it. -/
def address (spec : InterfaceSpec) : Option IPv4Interface := (truthy spec.ip).bind IPv4Interface.parse

def ethernet (spec : InterfaceSpec) (default : Int) (addresses : List String) (vfs : Option Int) :
    LoadedEthernet where
  name := spec.name
  macaddress := spec.macaddress
  setName := spec.name
  mtu := (nonzero spec.mtu).getD default
  addresses := addresses
  virtualFunctionCount := vfs

def nsNic (spec : InterfaceSpec) : LoadedEthernet := spec.ethernet 9000 [] none

def roceUnderlay (spec : InterfaceSpec) : LoadedEthernet :=
  spec.ethernet 9000 (spec.address.toList.map (·.str)) (sriovVfsOf spec).toOption

def ibUnderlay (spec : InterfaceSpec) : LoadedEthernet :=
  spec.ethernet 2044 (spec.address.toList.map (·.str)) none

def bond (spec : InterfaceSpec) : LoadedBond where
  name := spec.name
  interfaces := nsNicNames
  mtu := (nonzero spec.mtu).getD 9000

end InterfaceSpec

namespace HostFixture

/-- The default route is over the management VLAN, to the first host of its network. -/
def gateway (fx : HostFixture) (spec : InterfaceSpec) : Option IPv4Address :=
  if ((nonzero spec.untaggedVlan).bind fx.vlanRecord).map (·.name) = some "mgmt" then
    spec.address.bind (·.firstHost)
  else none

def vlan (fx : HostFixture) (spec : InterfaceSpec) : LoadedVlan where
  name := spec.name
  id := spec.untaggedVlan.getD 0
  link := bondName
  mtu := (nonzero spec.mtu).getD 1500
  addresses := spec.address.toList.map (·.str)
  gateways := (fx.gateway spec).toList.map (·.str)
  nameservers := []

/-- The interfaces of a class, by name. -/
def named (fx : HostFixture) (isClass : String → Bool) : List InterfaceSpec :=
  fx.interfaces.filter fun spec => isClass spec.name

def netplanOf (fx : HostFixture) : LoadedNetplan where
  ethernets := (fx.named (· ∈ nsNicNames)).map (·.nsNic) ++
    (fx.named (isNumbered roceNicPrefix)).map (·.roceUnderlay) ++
      (fx.named (isNumbered ibNicPrefix)).map (·.ibUnderlay)
  bonds := (fx.named (· = bondName)).map (·.bond)
  vlans := (fx.named isVlanName).map fx.vlan

end HostFixture

/-- The same network, the entries of a mapping in any order. -/
structure SameNetwork (d d' : LoadedNetplan) : Prop where
  ethernets : d.ethernets.Perm d'.ethernets
  bonds : d.bonds = d'.bonds
  vlans : d.vlans.Perm d'.vlans

/-! ## The records of a fixture's host -/

/-- The record is of this interface. -/
def RecordOf (fx : HostFixture) (spec : InterfaceSpec) (record : InterfaceRecord) : Prop :=
  ∃ id, fx.interfaces[id]? = some spec ∧ record = fx.interfaceRecord id spec

section Record

variable {record : InterfaceRecord} (hrecord : RecordOf fx spec record)

include hrecord

/-- A record shows what its specification says: the name, -/
theorem RecordOf.name : record.name = spec.name := by
  obtain ⟨id, -, rfl⟩ := hrecord
  rfl

/-- the MTU, or the default where it is none or zero, -/
theorem RecordOf.mtu (default : Int) : readMtu record default = (nonzero spec.mtu).getD default := by
  obtain ⟨id, -, rfl⟩ := hrecord
  rfl

/-- the MAC, -/
theorem RecordOf.mac {nic : PhysIface} (h : NicRead record default nic) :
    spec.mac.isSome = true ∧ nic.mac.val = spec.macaddress := by
  obtain ⟨id, -, rfl⟩ := hrecord
  obtain ⟨primary, hprimary, hmac⟩ := h.mac
  obtain ⟨mac, htruthy, rfl⟩ := Option.map_eq_some_iff.mp hprimary
  rw [macText_self] at hmac
  rw [← String.toList_inj, hmac, InterfaceSpec.macaddress, eq_of_truthy htruthy, String.toList_ofList]
  exact ⟨rfl, rfl⟩

/-- hence the whole Ethernet device, -/
theorem RecordOf.ethernet {nic : PhysIface} (h : NicRead record default nic) (address : Option IPv4Interface)
    (vfs : Option Nat) : LoadedEthernet.ofNic nic address vfs =
      spec.ethernet default (address.toList.map (·.str)) (vfs.map Int.ofNat) := by
  unfold LoadedEthernet.ofNic InterfaceSpec.ethernet
  rw [(hrecord.mac h).2, h.name, hrecord.name, h.mtu, hrecord.mtu default]

/-- the address, -/
theorem RecordOf.address {address : IPv4Interface} (h : AddressRead fx.client record address) :
    spec.address = some address := by
  obtain ⟨id, hid, rfl⟩ := hrecord
  obtain ⟨ip, hips, hparse⟩ := h
  have hlist : ((truthy spec.ip).toList.map fun ip => (⟨ip⟩ : IpRecord)) = [ip] := by
    have hclient : Except.ok ((fx.interfaces[((id : Int)).toNat]?.bind fun spec => truthy spec.ip).toList.map
        fun ip => (⟨ip⟩ : IpRecord)) = .ok [ip] := hips
    rw [Int.toNat_natCast, hid] at hclient
    exact Except.ok.inj hclient
  unfold InterfaceSpec.address
  cases htruthy : truthy spec.ip with
  | none => simp [htruthy] at hlist
  | some text =>
    rw [htruthy] at hlist
    obtain rfl := List.singleton_inj.mp hlist
    exact hparse

/-- a RoCE underlay, -/
theorem RecordOf.roce {nic : RoceUnderlay} (h : RoceRead fx.client record nic) :
    .ofRoce nic = spec.roceUnderlay := by
  have hvfs : sriovVfsOf spec = .ok (nic.sriovVfs.val : Int) := by
    obtain ⟨id, -, rfl⟩ := hrecord
    exact h.sriovVfs
  unfold LoadedEthernet.ofRoce InterfaceSpec.roceUnderlay
  rw [hrecord.ethernet h.toNicRead, hrecord.address h.address, hvfs]
  rfl

/-- an InfiniBand underlay -/
theorem RecordOf.ib {nic : InfinibandUnderlay} (h : IbRead fx.client record nic) :
    .ofIb nic = spec.ibUnderlay := by
  unfold LoadedEthernet.ofIb InterfaceSpec.ibUnderlay
  rw [hrecord.ethernet h.toNicRead, hrecord.address h.address]
  rfl

/-- and a VLAN. -/
theorem RecordOf.vlan {vlan : VlanChild} (h : Netbox.VlanFrom fx.client record vlan) :
    .ofVlan vlan = fx.vlan spec := by
  have haddress := hrecord.address h.address
  obtain ⟨untagged, huntagged, hvid, hrole⟩ := h.untagged
  have hfound : (nonzero spec.untaggedVlan).bind fx.vlanRecord = some untagged := by
    obtain ⟨id, -, rfl⟩ := hrecord
    exact huntagged
  -- the record is looked up under the id it has
  obtain ⟨vid, hnonzero, hlisted⟩ := Option.bind_eq_some_iff.mp hfound
  obtain ⟨listed, hfind, rfl⟩ := Option.map_eq_some_iff.mp hlisted
  have hlistedVid := List.find?_some hfind
  have hid : listed.vid = vid := of_decide_eq_true hlistedVid
  have huntaggedVlan : spec.untaggedVlan = some vid := (Option.filter_eq_some_iff.mp hnonzero).1
  have hmgmt : vlan.role = .mgmt ↔ listed.name = "mgmt" := by
    rw [show listed.name = vlan.role.value from hrole.symm]
    cases vlan.role <;> decide
  have hgateway : vlan.gateway = fx.gateway spec := by
    rw [h.gateway]
    unfold HostFixture.gateway
    rw [hfound, haddress]
    simp [hmgmt]
  unfold LoadedVlan.ofVlan HostFixture.vlan
  rw [h.name, hrecord.name, hvid, huntaggedVlan, h.parent, h.mtu, hrecord.mtu, haddress, hgateway, h.dns, hid]
  rfl

end Record

/-! ## The listing, class by class -/

section Listing

variable {Part : Type} {Reads : InterfaceRecord → Part → Prop} (isClass : String → Bool)

def records (fx : HostFixture) : List InterfaceRecord :=
  fx.interfaces.zipIdx.map fun e => fx.interfaceRecord e.2 e.1

/-- Each record of a fixture is that of a specification. -/
theorem recordOf_of_mem {record : InterfaceRecord} (h : record ∈ records fx) :
    ∃ spec ∈ fx.interfaces, RecordOf fx spec record := by
  obtain ⟨e, he, rfl⟩ := List.mem_map.mp h
  have hget := List.mk_mem_zipIdx_iff_getElem?.mp he
  exact ⟨e.1, List.mem_of_getElem? hget, e.2, hget, rfl⟩

/-- The records of a class stand in the order of its interfaces. -/
theorem records_named :
    List.Forall₂ (RecordOf fx) (fx.named isClass) ((records fx).filter fun record =>
      isClass record.name) := by
  have hrecords : (records fx).filter (fun record => isClass record.name) =
      (fx.interfaces.zipIdx.filter fun e => isClass e.1.name).map fun e => fx.interfaceRecord e.2 e.1 := by
    unfold records
    rw [List.filter_map]
    rfl
  have hspecs : fx.named isClass = (fx.interfaces.zipIdx.filter fun e => isClass e.1.name).map Prod.fst := by
    unfold HostFixture.named
    rw [← List.zipIdx_map_fst 0 fx.interfaces, List.filter_map, List.zipIdx_map_fst]
    rfl
  rw [hrecords, hspecs, List.forall₂_map_left_iff, List.forall₂_map_right_iff, List.forall₂_same]
  intro e he
  exact ⟨e.2, List.mk_mem_zipIdx_iff_getElem?.mp (List.mem_of_mem_filter he), rfl⟩

/-- What is made of the records of a class is what is made of its interfaces. -/
theorem map_of_class {β : Type} {loaded : Part → β} {told : InterfaceSpec → β} {parts : List Part}
    (hreads : List.Forall₂ Reads ((records fx).filter fun record => isClass record.name) parts)
    (htold : ∀ spec record part, RecordOf fx spec record → Reads record part → loaded part = told spec) :
    parts.map loaded = (fx.named isClass).map told := by
  have hparts := forall₂_comp (records_named isClass) hreads
  refine map_of_forall₂ ?_ hparts
  rintro spec part ⟨record, hrecord, hread⟩
  exact htold spec record part hrecord hread

end Listing

/-! ## The network of a loaded intent -/

section Loaded

variable (hnames : (names fx).Nodup) (hload : loadHostIntent fx.client fx.assetTag = .ok i)

/-- The load of a fixture goes through its own records. -/
theorem stages_of_client (hload : loadHostIntent fx.client fx.assetTag = .ok i) :
    ∃ device, Stages fx.client fx.assetTag device (records fx) i ∧ device.name = some fx.hostname := by
  obtain ⟨device, interfaces, hstages⟩ := stages_of_ok hload
  obtain rfl := Except.ok.inj hstages.listing
  have hfound := Except.ok.inj hstages.found
  rw [if_pos rfl] at hfound
  obtain rfl := Option.some.inj hfound
  exact ⟨_, hstages, rfl⟩

include hnames hload

/-- There is one interface of each name of an N-S NIC, and it is the NIC's. -/
theorem nsNics_perm : (i.nsNics.map LoadedEthernet.ofNsNic).Perm
    ((fx.named (· ∈ nsNicNames)).map (·.nsNic)) := by
  obtain ⟨device, hstages, -⟩ := stages_of_client hload
  have hnicNames := names_of_buildNsNics hstages.nsNics
  -- both sides have distinct names, so they are compared as sets
  have hnodup : (i.nsNics.map LoadedEthernet.ofNsNic).Nodup := by
    refine List.Nodup.of_map LoadedEthernet.name ?_
    rw [List.map_map]
    show (i.nsNics.map (·.name.val)).Nodup
    rw [hnicNames]
    decide
  have hnodup' : ((fx.named (· ∈ nsNicNames)).map (·.nsNic)).Nodup := by
    refine List.Nodup.of_map LoadedEthernet.name ?_
    rw [List.map_map]
    exact hnames.sublist (List.filter_sublist.map _)
  have hnic : ∀ nic ∈ i.nsNics, ∃ spec ∈ fx.interfaces, spec.name = nic.name.val ∧
      LoadedEthernet.ofNsNic nic = spec.nsNic := by
    intro nic hnic
    obtain ⟨name, -, hbuilt⟩ := exists_of_mem_mapM hstages.nsNics nic hnic
    obtain ⟨-, record, hmem, hread⟩ := nicRead_of_buildNsNic hbuilt
    obtain ⟨spec, hspec, hrecord⟩ := recordOf_of_mem hmem
    exact ⟨spec, hspec, hrecord.name.symm.trans hread.name.symm, hrecord.ethernet hread none none⟩
  rw [List.perm_ext_iff_of_nodup hnodup hnodup']
  intro e
  rw [List.mem_map, List.mem_map]
  constructor
  · rintro ⟨nic, hmem, rfl⟩
    obtain ⟨spec, hspec, hname, heq⟩ := hnic nic hmem
    have hclass : spec.name ∈ nsNicNames := by
      rw [hname, ← hnicNames]
      exact List.mem_map_of_mem hmem
    exact ⟨spec, List.mem_filter.mpr ⟨hspec, decide_eq_true hclass⟩, heq.symm⟩
  · rintro ⟨spec, hmem, rfl⟩
    obtain ⟨hspec, hclass⟩ := List.mem_filter.mp hmem
    have hname := of_decide_eq_true hclass
    rw [← hnicNames] at hname
    obtain ⟨nic, hnicMem, hnicName⟩ := List.mem_map.mp hname
    obtain ⟨spec', hspec', hname', heq⟩ := hnic nic hnicMem
    obtain rfl := spec_unique hnames hspec hspec' (hnicName.symm.trans hname'.symm)
    exact ⟨nic, hnicMem, heq⟩

/-- The bond is the interface called `bond0`. -/
theorem bond_eq : [LoadedBond.ofBond (canonicalize i.toHostIntentFields).bond] =
    (fx.named (· = bondName)).map (·.bond) := by
  obtain ⟨device, hstages, -⟩ := stages_of_client hload
  obtain ⟨hname, hmembers, record, hby, hmtu⟩ := bond_of_buildBond hstages.bond
  obtain ⟨hmem, hrecordName⟩ := mem_of_byName hby
  obtain ⟨spec, hspec, hrecord⟩ := recordOf_of_mem hmem
  have hspecName : spec.name = bondName := hrecord.name.symm.trans hrecordName
  have hsingle : fx.named (· = bondName) = [spec] := by
    refine List.perm_singleton.mp ((List.perm_ext_iff_of_nodup ?_ (List.nodup_singleton spec)).mpr ?_)
    · exact hnames.of_map.filter _
    · intro spec'
      unfold HostFixture.named
      rw [List.mem_filter, decide_eq_true_iff, List.mem_singleton]
      constructor
      · rintro ⟨hspec', hname'⟩
        exact spec_unique hnames hspec' hspec (hname'.trans hspecName.symm)
      · rintro rfl
        exact ⟨hspec, hspecName⟩
  -- the members are in order already
  have hsorted : StableSort.sortedBy (· ≤ ·) id i.bond.members = nsNicNames := by
    rw [hmembers, names_of_buildNsNics hstages.nsNics]
    decide
  rw [hsingle, List.map_singleton]
  show [LoadedBond.mk i.bond.name.val (StableSort.sortedBy (· ≤ ·) id i.bond.members) i.bond.mtu.val] = _
  unfold InterfaceSpec.bond
  rw [hname, hsorted, hmtu, hrecord.mtu, hspecName]

/-- **The network of the intent is the fixture's.** -/
theorem sameNetwork_of_load : SameNetwork (.ofIntent (canonicalize i.toHostIntentFields)) fx.netplanOf := by
  obtain ⟨device, hstages, -⟩ := stages_of_client hload
  obtain ⟨roce, hroce, hroceSorted⟩ := roceRead_of_buildRoceUnderlays hstages.roceUnderlays
  obtain ⟨ib, hib, hibSorted⟩ := ibRead_of_buildIbUnderlays hstages.ibUnderlays
  have hroceTold := map_of_class (isNumbered roceNicPrefix) hroce fun _ _ _ hrecord hread =>
      hrecord.roce hread
  have hibTold := map_of_class (isNumbered ibNicPrefix) hib fun _ _ _ hrecord hread => hrecord.ib hread
  have hvlans := (mapM_eq_ok_iff.mp hstages.vlans).imp fun _ _ => vlanFrom_of_buildVlan
  have hvlansTold := map_of_class isVlanName hvlans fun _ _ _ hrecord hfrom => hrecord.vlan hfrom
  constructor
  case ethernets =>
    refine (List.Perm.append (List.Perm.append ?_ ?_) ?_)
    · exact ((canonicalize_nsNics_perm _).map _).trans (nsNics_perm hnames hload)
    · rw [← hroceTold]
      exact ((canonicalize_roceUnderlays_perm _).trans hroceSorted).map _
    · rw [← hibTold]
      exact ((canonicalize_ibUnderlays_perm _).trans hibSorted).map _
  case bonds =>
    rw [HostFixture.netplanOf, ← bond_eq hnames hload]
    rfl
  case vlans =>
    rw [HostFixture.netplanOf, ← hvlansTold]
    exact (canonicalize_vlans_perm _).map _

end Loaded

/-! ## What is served -/

/-- What the files have of the fixture without quotes is read as it is written. -/
structure Plain (fx : HostFixture) : Prop where
  assetTag : Yaml.PlainString fx.assetTag
  hostname : Yaml.PlainString fx.hostname
  names : ∀ spec ∈ fx.interfaces, Yaml.PlainString spec.name
  macs : ∀ spec ∈ fx.interfaces, spec.mac.isSome = true → Yaml.PlainString spec.macaddress

/-- A host is served its identity and its network, if it is served, whichever loader reads the files. -/
structure Serves (client : Client) (fx : HostFixture) : Prop where
  metaData : ∀ content, handleRender client fx.assetTag .metaData = .file content → ∃ text : String,
    content = text.toUTF8 ∧ ∀ loader : Yaml.SafeLoader, loader.load text.toList =
      some (.map [(.str "instance-id", .str fx.assetTag), (.str "local-hostname", .str fx.hostname)])
  networkConfig : ∀ content, handleRender client fx.assetTag .networkConfig = .file content → ∃ text : String,
    content = text.toUTF8 ∧ ∀ loader : Yaml.SafeLoader, ∃ d,
      (loader.load text.toList).bind loadNetplan = some d ∧
      SameNetwork d fx.netplanOf

/-- Plain fixtures load plain values. -/
theorem plainValues_of_load (hplain : Plain fx) (hload : loadHostIntent fx.client fx.assetTag = .ok i) :
    PlainValues i.toHostIntentFields := by
  obtain ⟨device, hstages, hdevice⟩ := stages_of_client hload
  have hnic : ∀ (default : Int) (nic : PhysIface), (∃ record ∈ records fx, NicRead record default nic) →
      PlainNic nic := by
    rintro default nic ⟨record, hmem, hread⟩
    obtain ⟨spec, hspec, hrecord⟩ := recordOf_of_mem hmem
    obtain ⟨hsome, hmac⟩ := hrecord.mac hread
    constructor
    · rw [hread.name, hrecord.name]
      exact hplain.names spec hspec
    · rw [hmac]
      exact hplain.macs spec hspec hsome
  constructor
  case assetTag =>
    rw [hstages.tag]
    exact hplain.assetTag
  case hostname =>
    rw [hstages.hostname, hdevice]
    exact hplain.hostname
  case nsNics =>
    intro nic hmem
    obtain ⟨name, -, hbuilt⟩ := exists_of_mem_mapM hstages.nsNics nic hmem
    exact hnic 9000 _ (nicRead_of_buildNsNic hbuilt).2
  case roceUnderlays =>
    intro nic hmem
    obtain ⟨roce, hroce, hsorted⟩ := roceRead_of_buildRoceUnderlays hstages.roceUnderlays
    obtain ⟨record, hrecord, hread⟩ := exists_of_mem_right hroce nic (hsorted.mem_iff.mp hmem)
    exact hnic 9000 _ ⟨record, List.mem_of_mem_filter hrecord, hread.toNicRead⟩
  case ibUnderlays =>
    intro nic hmem
    obtain ⟨ib, hib, hsorted⟩ := ibRead_of_buildIbUnderlays hstages.ibUnderlays
    obtain ⟨record, hrecord, hread⟩ := exists_of_mem_right hib nic (hsorted.mem_iff.mp hmem)
    exact hnic 2044 _ ⟨record, List.mem_of_mem_filter hrecord, hread.toNicRead⟩
  case bond =>
    rw [(bond_of_buildBond hstages.bond).1]
    decide +kernel
  case vlans =>
    intro vlan hmem
    obtain ⟨record, hrecord, hbuilt⟩ := exists_of_mem_mapM hstages.vlans vlan hmem
    obtain ⟨spec, hspec, hof⟩ := recordOf_of_mem (List.mem_of_mem_filter hrecord)
    have hname : vlan.name.val = spec.name := (vlanRead_of_buildVlan hbuilt).name.trans hof.name
    exact IfName.plainKey (hname ▸ hplain.names spec hspec)

/-- The files of a loaded host are read back as its fixture. -/
theorem decodes_of_load (loader : Yaml.SafeLoader) (hplain : Plain fx)
    (hload : loadHostIntent fx.client fx.assetTag = .ok i) : Decodes loader i := by
  refine decodes_of_plainValues loader (plainValues_of_load hplain hload) ?_
  intro vlan hmem _ searchDomain hsearch
  obtain ⟨device, hstages, -⟩ := stages_of_client hload
  obtain ⟨record, -, hbuilt⟩ := exists_of_mem_mapM hstages.vlans vlan hmem
  rw [(vlanFrom_of_buildVlan hbuilt).searchDomain] at hsearch
  cases hsearch

/-- **What is served for a fixture alone is what its specification says.** -/
theorem serves_client (hplain : Plain fx) (hnames : (names fx).Nodup) : Serves fx.client fx := by
  have hfile : ∀ kind content, handleRender fx.client fx.assetTag kind = .file content →
      ∃ i, loadHostIntent fx.client fx.assetTag = .ok i ∧ content = renderFor i kind := by
    intro kind content h
    unfold handleRender at h
    split at h
    · rename_i i hload
      exact ⟨i, hload, (Response.file.inj h).symm⟩
    · rename_i e hload
      cases e <;> cases h
  constructor
  case metaData =>
    intro content h
    obtain ⟨i, hload, rfl⟩ := hfile _ _ h
    obtain ⟨device, hstages, hdevice⟩ := stages_of_client hload
    have hhostname : i.hostname.val = fx.hostname := by
      rw [hstages.hostname, hdevice]
      rfl
    refine ⟨_, rfl, fun loader => ?_⟩
    rw [(decodes_of_load loader hplain hload).1, hstages.tag, hhostname]
  case networkConfig =>
    intro content h
    obtain ⟨i, hload, rfl⟩ := hfile _ _ h
    exact ⟨_, rfl, fun loader => ⟨_, (decodes_of_load loader hplain hload).2,
      sameNetwork_of_load hnames hload⟩⟩

/-- **Compatible fixtures are all written to an empty Netbox, and each host is served the
    network of its fixture.** -/
theorem populate_serves (hempty : n.Empty) (hn : n.Sound) (hcompatible : Compatible fixtures)
    (htags : (fixtures.map (·.assetTag)).Nodup) :
    ∃ report n', populate refreshes fixtures n = .ok (report, n') ∧
      ∀ fx ∈ fixtures, (names fx).Nodup → Plain fx → Serves n'.client fx := by
  obtain ⟨report, n', hrun⟩ : ∃ report n', populate refreshes fixtures n = .ok (report, n') :=
    returns_of_compatible hempty hn hcompatible
  refine ⟨report, n', hrun, ?_⟩
  intro fx hfx hnames hplain
  have hview := view_of_populate (grounded_of_empty hempty) htags hfx (newHost_of_empty hempty hnames) hrun
  have hrender : ∀ kind, handleRender n'.client fx.assetTag kind =
      handleRender fx.client fx.assetTag kind := by
    intro kind
    unfold handleRender
    rw [loadHostIntent_of_view hview]
  obtain ⟨hmeta, hnetwork⟩ := serves_client hplain hnames
  constructor
  case metaData =>
    intro content h
    rw [hrender] at h
    exact hmeta content h
  case networkConfig =>
    intro content h
    rw [hrender] at h
    exact hnetwork content h

/-- The host is served, and its network is the one of the fixture. -/
theorem populate_serves_twoHosts : ∃ report netbox content,
    populate false twoHosts noObjects = .ok (report, netbox) ∧
    handleRender netbox.client cpuFixture.assetTag .networkConfig = .file content ∧
      ∃ text : String, content = text.toUTF8 ∧ ∀ loader : Yaml.SafeLoader,
        ∃ d, (loader.load text.toList).bind loadNetplan = some d ∧ SameNetwork d cpuFixture.netplanOf := by
  obtain ⟨_, _, hreturns, -⟩ := twoHosts_populate
  have hcompatible := compatible_of_returns empty_noObjects sound_noObjects hreturns
  obtain ⟨report, netbox, hrun, hserves⟩ : ∃ report netbox,
      populate false twoHosts noObjects = .ok (report, netbox) ∧ _ :=
    populate_serves empty_noObjects sound_noObjects hcompatible (by decide)
  have hnames : (names cpuFixture).Nodup := by decide
  have hmem : cpuFixture ∈ twoHosts := by simp [twoHosts]
  have hplain : Plain cpuFixture := by
    constructor
    case assetTag | hostname | names | macs => decide +kernel
  have hview := view_of_populate (grounded_of_empty empty_noObjects) (by decide) hmem
    (newHost_of_empty empty_noObjects hnames) hrun
  have hok : (loadHostIntent cpuFixture.client cpuFixture.assetTag).isOk = true := by decide +kernel
  obtain ⟨i, hload⟩ := exists_ok_of_isOk hok
  have hfile : handleRender netbox.client cpuFixture.assetTag .networkConfig = .file
      (renderFor i .networkConfig) := by
    unfold handleRender
    rw [loadHostIntent_of_view hview, hload]
  exact ⟨report, netbox, _, hrun, hfile, (hserves cpuFixture hmem hnames hplain).networkConfig _ hfile⟩

end Fixtures
end HostConfig
