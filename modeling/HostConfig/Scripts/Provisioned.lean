import HostConfig.Render.Devices
import HostConfig.Scripts.Interfaces

/-!
# `Scripts.Provisioned` — the validator on a host that runs what it was served

The Netplan document of a host says which devices its kernel shows, with which MTUs and which of them with
an address. `Shows` is that the records of `ip -j addr` are as the document says, and `Provisioned` that the
rest of the host is as the document leaves it. On such a host the validator and the renderer agree up to two
conventions of the inventory: `validator_agrees` says exactly when the exit status is 0.
-/

namespace HostConfig
namespace Scripts

open Models Netbox Render Traverse

/-! ## The devices of a document -/

/-- A device, as a document defines it. -/
structure Device where
  name : String
  mtu : Seg
  addressed : Bool
deriving DecidableEq

/-- An Ethernet device is renamed to its `set-name`. -/
def devices (doc : Netplan) : List Device :=
  doc.ethernets.map (fun e => ⟨e.setName.text, e.mtu, !e.addresses.isEmpty⟩) ++
    doc.bonds.map (fun b => ⟨b.name.text, b.mtu, false⟩) ++
    doc.vlans.map (fun v => ⟨v.name.text, v.mtu, !v.addresses.isEmpty⟩)

def nicDevice (addressed : Bool) (nic : PhysIface) : Device := ⟨nic.name.val, Seg.int nic.mtu.val, addressed⟩

def bondDevice (bond : Bond) : Device := ⟨bond.name.val, Seg.int bond.mtu.val, false⟩

def vlanDevice (vlan : VlanChild) : Device := ⟨vlan.name.val, Seg.int vlan.mtu.val, true⟩

/-- The devices of an intent. -/
def intentDevices (p : HostIntentFields) : List Device :=
  p.nsNics.map (fun nic => nicDevice false nic.toPhysIface) ++
    p.roceUnderlays.map (fun nic => nicDevice true nic.toPhysIface) ++
    p.ibUnderlays.map (fun nic => nicDevice true nic.toPhysIface) ++ [bondDevice p.bond] ++
      p.vlans.map vlanDevice

/-- Either rendering of the document defines the devices of the intent. -/
theorem devices_perm {i : HostIntent} {lines : List Line} {doc : Netplan}
    (hlines : lines ∈ netplanDocuments i)
    (hread : readNetplan lines = some doc) : (devices doc).Perm (intentDevices i.toHostIntentFields) := by
  obtain rfl := Option.some.inj ((readNetplan_netplanDocuments i lines hlines).symm.trans hread)
  have hethernets := (ethernets_perm i).map fun e => Device.mk e.setName.text e.mtu (!e.addresses.isEmpty)
  have hvlans := ((canonicalize_vlans_perm i.toHostIntentFields).map VlanStanza.ofVlan).map fun v =>
    Device.mk v.name.text v.mtu (!v.addresses.isEmpty)
  refine ((hethernets.append_right _).append hvlans).trans (.of_eq ?_)
  simp only [intentDevices, List.map_append, List.map_map]
  rfl

/-! ## The host -/

/-- The kernel shows each device up, with its MTU, and with an address exactly if it is given one. Nothing
    else has an IPv4 address but the loopback. -/
structure Shows (doc : Netplan) (records : List Record) : Prop where
  named : ∀ rec ∈ records, rec.ifname.isSome = true
  distinct : (records.map Record.ifname).Nodup
  readable : ∀ rec ∈ records, (∃ up, isUp rec = .ok up) ∧ ∃ locals, ipv4s rec = .ok locals
  device : ∀ d ∈ devices doc, ∃ rec ∈ records, rec.ifname = some d.name ∧ rec.up = true ∧
    rec.hasIpv4 = d.addressed ∧
    ∃ mtu : Nat, rec.get "mtu" .null = .int mtu ∧ d.mtu = .int mtu
  others : ∀ rec ∈ records, rec.hasIpv4 = true → rec.ifname = some "lo" ∨ ∃ d ∈ devices doc,
    rec.ifname = some d.name

/-- The document is in effect, and cloud-init and the modules are as the user-data leaves them. -/
structure Provisioned (py : Python) (probe : Probe) (cfg : Config) (doc : Netplan) : Prop where
  file : (probe.readText cfg.netplanPath).isSome = true
  bonding : ∀ bond ∈ doc.bonds, (probe.readText ("/proc/net/bonding/" ++ bond.name.text)).isSome = true
  shows : ∃ records, ipAddrJson py probe = .ok records ∧ Shows doc records
  route : (∃ vlan ∈ doc.vlans, vlan.routes ≠ []) → RouteInEffect probe
  cloudInit : probe.haveTool "cloud-init" = true → isIn "error" (cloudInitText probe) = false
  modules : (probe.run ["lsmod"]).rc = 0 → ModulesLoaded probe

section

variable {records : List Record} {rec : Record} {name : String} {doc : Netplan} {py : Python}

/-! ## The intent -/

variable {client : Client} {assetTag : String} {i : HostIntent} {d : Device}

/-- One VLAN of each role. -/
theorem length_vlans (i : HostIntent) : i.vlans.length = 3 := by
  have hlength : ∀ roles : List VlanRole,
      roles.length = roles.count .mgmt + roles.count .storage + roles.count .ingress := by
    intro roles
    induction roles with
    | nil => rfl
    | cons role roles ih => cases role <;> simp [ih] <;> omega
  have hroles := hlength (i.vlans.map (·.role))
  rw [List.length_map, ← roleCount_eq_count, ← roleCount_eq_count, ← roleCount_eq_count,
    i.satisfies.vlanRoles,
    i.satisfies.vlanRoles, i.satisfies.vlanRoles] at hroles
  exact hroles

/-- The names of a loaded gpu-h200 host, by the kind of the device. -/
theorem mem_intentDevices (hload : loadHostIntent client assetTag = .ok i) (hrole : i.role = .gpuH200)
    (hd : d ∈ intentDevices i.toHostIntentFields) :
    (d.name ∈ "bond0" :: nsNicNames ∧ d.addressed = false) ∨
      (∃ nic ∈ i.ibUnderlays, d = nicDevice true nic.toPhysIface ∧ isNumbered ibNicPrefix d.name = true) ∨
      ∃ vlan ∈ i.vlans, d = vlanDevice vlan ∧ isVlanName d.name = true := by
  obtain ⟨device, interfaces, hbuilt⟩ := built_of_ok hload
  have hparts := hbuilt.parts
  obtain ⟨ib, hib, hsorted⟩ := hparts.ibUnderlays
  unfold intentDevices at hd
  rw [HostIntent.roceUnderlays_eq_nil (by rw [hrole]; rfl)] at hd
  simp only [List.mem_append, List.mem_map, List.mem_singleton, List.map_nil, List.not_mem_nil,
    or_false] at hd
  rcases hd with ((⟨nic, hnic, rfl⟩ | ⟨nic, hnic, rfl⟩) | rfl) | ⟨vlan, hvlan, rfl⟩
  · have hname : nic.name.val ∈ nsNicNames := hparts.nsNicNames ▸ List.mem_map_of_mem hnic
    exact .inl ⟨List.mem_cons_of_mem _ hname, rfl⟩
  · obtain ⟨iface, hiface, hread⟩ := exists_of_mem_right hib nic (hsorted.mem_iff.mp hnic)
    refine .inr (.inl ⟨nic, hnic, rfl, ?_⟩)
    show isNumbered ibNicPrefix nic.name.val = true
    rw [hread.name]
    exact (List.mem_filter.mp hiface).2
  · left
    refine ⟨?_, rfl⟩
    rw [show (bondDevice i.bond).name = bondName from hparts.bondName]
    exact List.mem_cons_self
  · obtain ⟨iface, hiface, hread⟩ := exists_of_mem_right hparts.vlans vlan hvlan
    refine .inr (.inr ⟨vlan, hvlan, rfl, ?_⟩)
    show isVlanName vlan.name.val = true
    rw [hread.name]
    exact (List.mem_filter.mp hiface).2

theorem head_of_rail (k : Nat) : ("ib" ++ toString k).toList.head? = some 'i' := by
  rw [String.toList_append]
  rfl

/-- A rail's name is that of an underlay, if of anything with an address. -/
theorem rail_of_device (hload : loadHostIntent client assetTag = .ok i) (hrole : i.role = .gpuH200)
    (hd : d ∈ intentDevices i.toHostIntentFields) {k : Nat} (hname : d.name = "ib" ++ toString k) :
    ∃ nic ∈ i.ibUnderlays, d = nicDevice true nic.toPhysIface := by
  have hhead : d.name.toList.head? = some 'i' := hname ▸ head_of_rail k
  rcases mem_intentDevices hload hrole hd with ⟨hbond, -⟩ | ⟨nic, hnic, hdevice, -⟩ | ⟨vlan, -, -, hvlan⟩
  · have hother : ∀ name ∈ "bond0" :: nsNicNames, name.toList.head? ≠ some 'i' := by decide
    exact absurd hhead (hother d.name hbond)
  · exact ⟨nic, hnic, hdevice⟩
  · rw [head_of_isVlanName hvlan] at hhead
    cases hhead

/-- What is shown under a rail's name, with an address, is an underlay of the intent, -/
theorem rail_of_shown (hload : loadHostIntent client assetTag = .ok i) (hrole : i.role = .gpuH200)
    (hdevices : (devices doc).Perm (intentDevices i.toHostIntentFields))
    (hshows : Shows doc records) {k : Nat}
    (hrec : rec ∈ records) (hname : rec.ifname = some ("ib" ++ toString k))
    (haddressed : rec.hasIpv4 = true) :
    ∃ nic ∈ i.ibUnderlays, nic.name.val = "ib" ++ toString k ∧ rec.get "mtu" .null = .int nic.mtu.val := by
  have hdevice : ∃ d ∈ devices doc, rec.ifname = some d.name := by
    rcases hshows.others rec hrec haddressed with hlo | hdevice
    · have hhead := head_of_rail k
      rw [← Option.some.inj (hlo.symm.trans hname)] at hhead
      exact absurd hhead (by decide)
    · exact hdevice
  obtain ⟨d, hd, hdname⟩ := hdevice
  have hdname' : d.name = "ib" ++ toString k := Option.some.inj (hdname.symm.trans hname)
  obtain ⟨nic, hnic, rfl⟩ := rail_of_device hload hrole (hdevices.mem_iff.mp hd) hdname'
  refine ⟨nic, hnic, hdname', ?_⟩
  -- the record of the device is this one
  obtain ⟨rec', hrec', hname', -, -, mtu, hmtu, hint⟩ := hshows.device _ hd
  obtain rfl := List.inj_on_of_nodup_map hshows.distinct hrec' hrec (hname'.trans hdname.symm)
  have heq : nic.mtu.val = mtu := by simpa [nicDevice] using hint
  rw [hmtu, heq]

/-- and each underlay is shown, up and with its address. -/
theorem shown_of_rail (hdevices : (devices doc).Perm (intentDevices i.toHostIntentFields))
    (hshows : Shows doc records) {nic : InfinibandUnderlay} (hnic : nic ∈ i.ibUnderlays) :
    ∃ rec ∈ records, rec.ifname = some nic.name.val ∧
      rec.up = true ∧ rec.hasIpv4 = true ∧ rec.get "mtu" .null = .int nic.mtu.val := by
  have hmem : nicDevice true nic.toPhysIface ∈ intentDevices i.toHostIntentFields := by
    unfold intentDevices
    simp only [List.mem_append]
    exact .inl (.inl (.inr (List.mem_map_of_mem hnic)))
  obtain ⟨rec, hrec, hname, hup, haddressed, mtu, hmtu, hint⟩ := hshows.device _ (hdevices.mem_iff.mpr hmem)
  refine ⟨rec, hrec, hname, hup, haddressed, ?_⟩
  have heq : nic.mtu.val = mtu := by simpa [nicDevice] using hint
  rw [hmtu, heq]

/-- The bond is shown up. -/
theorem shown_of_bond (hdevices : (devices doc).Perm (intentDevices i.toHostIntentFields))
    (hshows : Shows doc records) : ∃ rec ∈ records, rec.ifname = some i.bond.name.val ∧ rec.up = true := by
  have hmem : bondDevice i.bond ∈ intentDevices i.toHostIntentFields := by simp [intentDevices]
  obtain ⟨rec, hrec, hname, hup, -⟩ := hshows.device _ (hdevices.mem_iff.mpr hmem)
  exact ⟨rec, hrec, hname, hup⟩

/-- The kernel shows exactly the three VLANs of the intent, each with its address. -/
theorem countP_vlans (hload : loadHostIntent client assetTag = .ok i) (hrole : i.role = .gpuH200)
    (hdevices : (devices doc).Perm (intentDevices i.toHostIntentFields)) (hshows : Shows doc records) :
    (records.countP fun r => isVlanOf py bondName r && (r.up && r.hasIpv4)) = 3 := by
  have hvlan_of : ∀ {rec : Record} {name : String}, rec.ifname = some name →
      isVlanOf py bondName rec = isVlanName name := fun hname => isVlanOf_iff hname
  have hshown : (((records.filter fun r =>
      isVlanOf py bondName r && (r.up && r.hasIpv4))).map Record.ifname).Nodup :=
    hshows.distinct.sublist (List.filter_sublist.map _)
  have hnames : (i.vlans.map fun vlan => some vlan.name.val).Nodup := by
    have hunique := i.satisfies.uniqueNames
    rw [names_eq_nics] at hunique
    have hvlans := (List.nodup_append'.mp hunique).2.1
    have hsome := hvlans.map (Option.some_injective String)
    rwa [List.map_map] at hsome
  have hperm := (List.perm_ext_iff_of_nodup hshown hnames).mpr ?_
  · rw [List.countP_eq_length_filter, ← length_vlans i, ← List.length_map Record.ifname, hperm.length_eq,
      List.length_map]
  intro name
  simp only [List.mem_map, List.mem_filter, Bool.and_eq_true]
  constructor
  · rintro ⟨rec, ⟨hrec, hvlan, -, haddressed⟩, rfl⟩
    -- a record with the prefix and an address is that of a VLAN
    rcases hshows.others rec hrec haddressed with hlo | ⟨d, hd, hname⟩
    · rw [hvlan_of hlo] at hvlan
      exact absurd hvlan (by decide)
    · rw [hvlan_of hname] at hvlan
      have hhead := head_of_isVlanName hvlan
      rcases mem_intentDevices hload hrole (hdevices.mem_iff.mp hd) with ⟨hbond, -⟩ | ⟨nic, -, -, hib⟩ |
        ⟨vlan, hmem, rfl, -⟩
      · have hother : ∀ name ∈ "bond0" :: nsNicNames, isVlanName name = false := by decide
        rw [hother d.name hbond] at hvlan
        cases hvlan
      · rw [head_of_isNumbered rfl hib] at hhead
        exact absurd hhead (by decide)
      · exact ⟨vlan, hmem, hname.symm⟩
  · rintro ⟨vlan, hvlan, rfl⟩
    have hmem : vlanDevice vlan ∈ intentDevices i.toHostIntentFields :=
      List.mem_append_right _ (List.mem_map_of_mem hvlan)
    obtain ⟨rec, hrec, hname, hup, haddressed, -⟩ := hshows.device _ (hdevices.mem_iff.mpr hmem)
    refine ⟨rec, ⟨hrec, ?_, hup, haddressed⟩, hname⟩
    rw [hvlan_of hname]
    rcases mem_intentDevices hload hrole hmem with ⟨-, hnot⟩ | ⟨nic, -, hdevice, hib⟩ | ⟨_, -, -, hvlanName⟩
    · cases hnot
    · -- an underlay of the VLAN's name
      obtain ⟨device, interfaces, hbuilt⟩ := built_of_ok hload
      obtain ⟨iface, hiface, hread⟩ := exists_of_mem_right hbuilt.parts.vlans vlan hvlan
      show isVlanName vlan.name.val = true
      rw [hread.name]
      exact (List.mem_filter.mp hiface).2
    · exact hvlanName

/-- The one bond of the document is called `bond0`. -/
theorem bond_of_document (hload : loadHostIntent client assetTag = .ok i) {lines : List Line}
    (hlines : lines ∈ netplanDocuments i) (hread : readNetplan lines = some doc) :
    ∃ bond, doc.bonds = [bond] ∧ bond.name.text = bondName := by
  obtain ⟨device, interfaces, hbuilt⟩ := built_of_ok hload
  obtain ⟨doc', hread', -, ⟨bond, hbonds, hname, -⟩, -⟩ := (lossless i).1 lines hlines
  obtain rfl := Option.some.inj (hread.symm.trans hread')
  refine ⟨bond, hbonds, ?_⟩
  rw [hname]
  exact hbuilt.parts.bondName

/-- A default route is written for the management VLAN. -/
theorem exists_routes {lines : List Line} (hlines : lines ∈ netplanDocuments i)
    (hread : readNetplan lines = some doc) : ∃ vlan ∈ doc.vlans, vlan.routes ≠ [] := by
  obtain ⟨hdocuments, -⟩ := lossless i
  obtain ⟨doc', hread', -, -, hvlans⟩ := hdocuments lines hlines
  obtain rfl := Option.some.inj (hread.symm.trans hread')
  obtain ⟨vlan, hvlan⟩ := List.length_eq_one_iff.mp i.satisfies.gatewayCount
  have hmem : vlan ∈ i.vlans.filter (·.gateway.isSome) := by simp [hvlan]
  obtain ⟨hmem, hgateway⟩ := List.mem_filter.mp hmem
  refine ⟨.ofVlan vlan, hvlans.mem_iff.mpr (List.mem_map_of_mem hmem), ?_⟩
  obtain ⟨gateway, hgateway⟩ := Option.isSome_iff_exists.mp hgateway
  simp [VlanStanza.ofVlan, hgateway]

/-- A rail is up, addressed and of this MTU exactly if an underlay of its name has this MTU. -/
theorem rail_iff (hload : loadHostIntent client assetTag = .ok i) (hrole : i.role = .gpuH200)
    (hdevices : (devices doc).Perm (intentDevices i.toHostIntentFields)) (hshows : Shows doc records)
    {k : Nat} {mtu : Int} :
    (∃ rec, iface records ("ib" ++ toString k) = some rec ∧ rec.up = true ∧ rec.hasIpv4 = true ∧
      (rec.get "mtu" .null).isInt mtu = true) ↔
      ∃ nic ∈ i.ibUnderlays, nic.name.val = "ib" ++ toString k ∧ (nic.mtu.val : Int) = mtu := by
  constructor
  · rintro ⟨rec, hfound, -, haddressed, hmtu⟩
    obtain ⟨hrec, hname⟩ := (iface_eq_some_iff hshows.distinct).mp hfound
    obtain ⟨nic, hnic, hnicName, hshown⟩ := rail_of_shown hload hrole hdevices hshows hrec hname haddressed
    refine ⟨nic, hnic, hnicName, ?_⟩
    rw [hshown] at hmtu
    exact of_decide_eq_true hmtu
  · rintro ⟨nic, hnic, hname, hmtu⟩
    obtain ⟨rec, hrec, hrecName, hup, haddressed, hshown⟩ := shown_of_rail hdevices hshows hnic
    refine ⟨rec, (iface_eq_some_iff hshows.distinct).mpr ⟨hrec, hrecName.trans (congrArg some hname)⟩, hup,
      haddressed, ?_⟩
    rw [hshown]
    exact decide_eq_true hmtu

/-- Of the interfaces, only the numbers asked for can fail the run. -/
theorem interfacesInEffect_iff (hload : loadHostIntent client assetTag = .ok i) (hrole : i.role = .gpuH200)
    (hdevices : (devices doc).Perm (intentDevices i.toHostIntentFields)) (hshows : Shows doc records)
    (args : Args) : InterfacesInEffect py args.config records ↔
      args.vlanCount = 3 ∧ ∀ k : Nat, (k : Int) < args.rails →
        ∃ nic ∈ i.ibUnderlays, nic.name.val = "ib" ++ toString k ∧ (nic.mtu.val : Int) = args.ipoibMtu := by
  have hcount : (records.countP fun r => isVlanOf py args.config.bondName r && (r.up && r.hasIpv4)) = 3 :=
    countP_vlans hload hrole hdevices hshows
  constructor
  · intro h
    have hvlans := h.vlans
    rw [hcount] at hvlans
    exact ⟨hvlans.symm, fun k hk => (rail_iff hload hrole hdevices hshows).mp (h.rails k hk)⟩
  · rintro ⟨hvlans, hrails⟩
    refine ⟨?_, ?_, fun k hk => (rail_iff hload hrole hdevices hshows).mpr (hrails k hk)⟩
    · obtain ⟨device, interfaces, hbuilt⟩ := built_of_ok hload
      obtain ⟨rec, hrec, hname, hup⟩ := shown_of_bond hdevices hshows
      have hfound := hname.trans (congrArg some hbuilt.parts.bondName)
      exact ⟨rec, (iface_eq_some_iff hshows.distinct).mpr ⟨hrec, hfound⟩, hup⟩
    · rw [hcount]
      exact hvlans.symm

theorem readable_of_shows (hshows : Shows doc records) (cfg : Config) : Readable py cfg records where
  vlans := fun rec hrec _ => ⟨(hshows.readable rec hrec).1, fun _ => (hshows.readable rec hrec).2⟩
  rails := fun _ _ rec hfound => (hshows.readable rec ((iface_eq_some_iff hshows.distinct).mp hfound).1).2

end

/-- **The validator on a host that runs what it was served.** For every gpu-h200 host the loader
    loads, once either rendering of its Netplan document is in effect the validator exits with 0
    exactly if it is asked for three VLANs and each rail it is asked for is an underlay of the intent,
    of this name and with this MTU. -/
theorem validator_agrees (py : Python) (probe : Probe) (args : Args) (client : Client) (assetTag : String)
    (i : HostIntent) (hload : loadHostIntent client assetTag = .ok i) (hrole : i.role = .gpuH200)
    (lines : List Line)
    (hlines : lines ∈ netplanDocuments i) (doc : Netplan) (hread : readNetplan lines = some doc)
    (h : Provisioned py probe args.config doc) :
    (∃ out, main py probe args = .ok (out, 0)) ↔
      args.vlanCount = 3 ∧ ∀ k : Nat, (k : Int) < args.rails →
        ∃ nic ∈ i.ibUnderlays, nic.name.val = "ib" ++ toString k ∧ (nic.mtu.val : Int) = args.ipoibMtu := by
  have hdevices := devices_perm hlines hread
  obtain ⟨records, hrecords, hshows⟩ := h.shows
  have hbonding : (probe.readText (bondingPath args.config)).isSome = true := by
    obtain ⟨bond, hbonds, hname⟩ := bond_of_document hload hlines hread
    have hpath := h.bonding bond (by simp [hbonds])
    rw [hname] at hpath
    exact hpath
  rw [main_exits_iff, runAll_ok_iff, ← interfacesInEffect_iff hload hrole hdevices hshows args]
  constructor
  · rintro ⟨hrest, -⟩
    obtain ⟨records', hrecords', heffect, -⟩ := hrest.interfaces
    obtain rfl := Except.ok.inj (hrecords.symm.trans hrecords')
    exact heffect
  · intro heffect
    have hroute := h.route (exists_routes hlines hread)
    exact ⟨⟨h.cloudInit, h.file, hbonding, ⟨records, hrecords, heffect, readable_of_shows hshows _⟩, hroute⟩,
      h.modules⟩

/-! ### The repository's `gpu-h200` fixture -/

namespace H200

/-- The eight rails. -/
def ibRecords : List InterfaceRecord := (List.range 8).map fun k =>
  { id := 20 + k, name := "ib" ++ toString k, mtu := some 2044,
    primaryMacAddress := some ⟨some ("aa:bb:cc:00:0e:0" ++ toString k), "aa:bb:cc:00:0e:0" ++ toString k⟩ }

def interfaces : List InterfaceRecord :=
  [nicRecord 10 "nsa" "aa:bb:cc:00:02:01", nicRecord 11 "nsb" "aa:bb:cc:00:02:02",
    { id := 12, name := "bond0", mtu := some 9000 },
    vlanRecord 13 "bond0.100" 1500 100 "mgmt", vlanRecord 14 "bond0.200" 9000 200 "storage",
    vlanRecord 15 "bond0.300" 1500 300 "ingress"] ++ ibRecords

def addresses : List (Int × String) :=
  [(13, "10.42.10.30/24"), (14, "10.42.20.30/24"), (15, "10.42.30.30/24")] ++
    (List.range 8).map fun k => (((20 + k : Nat) : Int), "10.42.10" ++ toString k ++ ".10/24")

def client : Client :=
  oneDevice "SN-GPU-H200-001" { id := 1, name := some "gpu-h200-01", role := some ⟨some "gpu-h200"⟩ } interfaces
    addresses

/-- What `ip -j addr` lists, by name, MTU and address. -/
def listing : List (String × Nat × Option String) :=
  [("nsa", 9000, none), ("nsb", 9000, none)] ++
    (List.range 8).map (fun k => ("ib" ++ toString k, 2044, some ("10.42.10" ++ toString k ++ ".10"))) ++
    [("bond0", 9000, none), ("bond0.100", 1500, some "10.42.10.30"), ("bond0.200", 9000, some "10.42.20.30"),
      ("bond0.300", 1500, some "10.42.30.30")]

def shown : List Device := listing.map fun d => ⟨d.1, .int d.2.1, d.2.2.isSome⟩

theorem loaded : ∃ i, loadHostIntent client "SN-GPU-H200-001" = .ok i ∧ i.role = .gpuH200 ∧
    intentDevices i.toHostIntentFields = shown ∧
    i.ibUnderlays.map (fun nic => (nic.name.val, nic.mtu.val)) =
      (List.range 8).map fun k => ("ib" ++ toString k, 2044) := by
  have hrun : (loadHostIntent client "SN-GPU-H200-001").toOption.map (fun i => decide (i.role = .gpuH200 ∧
      intentDevices i.toHostIntentFields = shown ∧
        i.ibUnderlays.map (fun nic => (nic.name.val, nic.mtu.val)) =
        (List.range 8).map fun k => ("ib" ++ toString k, 2044))) = some true := by
    decide +kernel
  obtain ⟨i, hload, hcheck⟩ := exists_ok_of_check hrun
  exact ⟨i, hload, of_decide_eq_true hcheck⟩

/-! What the host says -/

def recordOf (d : String × Nat × Option String) : Record :=
  [("ifname", .str d.1), ("operstate", .str "UP"), ("mtu", .int d.2.1),
    ("addr_info", .arr (d.2.2.toList.map fun address =>
      .obj [("family", .str "inet"), ("local", .str address)]))]

def recordText (d : String × Nat × Option String) : String :=
  "\x7b\"ifname\": \"" ++ d.1 ++ "\", \"operstate\": \"UP\", \"mtu\": " ++ toString d.2.1 ++
    ", \"addr_info\": [" ++
    (d.2.2.elim "" fun address => "\x7b\"family\": \"inet\", \"local\": \"" ++ address ++ "\"\x7d") ++ "]\x7d"

def addrText : String := "[" ++ ", ".intercalate (listing.map recordText) ++ "]"

def python : Python where
  loads text := if text = addrText then .value (.arr (listing.map (.obj ∘ recordOf))) else .decodeError
  dumps _ := ""
  repr text := "'" ++ text ++ "'"
  str _ := "None"

def probe : Probe where
  run args :=
    if args = ["ip", "-j", "addr"] then ⟨0, addrText, ""⟩
    else if args = ["ip", "route", "show", "default"] then ⟨0, "default via 10.42.10.1 dev bond0.100\n", ""⟩
    else if args = ["lsmod"] then ⟨0, "Module Size Used by\nmlx5_ib 1 0\nib_ipoib 1 0\n", ""⟩
    else ⟨127, "", "not found"⟩
  haveTool _ := false
  readText path :=
    if path = "/etc/netplan/60-lab.yaml" then some "network:\n"
    else if path = "/proc/net/bonding/bond0" then some "Bonding Mode: IEEE 802.3ad Dynamic link aggregation\n"
    else none

theorem ipAddrJson_eq : ipAddrJson python probe = .ok (listing.map recordOf) := by
  have hprints : printsText addrText = true := by
    have hhead : addrText.toList = '[' :: (", ".intercalate (listing.map recordText) ++ "]").toList := by
      unfold addrText
      rw [String.append_assoc, String.toList_append]
      rfl
    exact printsText_of_head hhead (by decide)
  unfold ipAddrJson
  simp only [probe, python]
  simp [hprints, asRecord, Function.comp_def]

/-- The records show what the listing says. -/
theorem shows_of_perm {doc : Netplan} (h : (devices doc).Perm shown) : Shows doc (listing.map recordOf) where
  named := by
    intro rec hrec
    obtain ⟨d, -, rfl⟩ := List.mem_map.mp hrec
    rfl
  distinct := by
    rw [List.map_map]
    decide +kernel
  readable := by
    intro rec hrec
    obtain ⟨⟨name, mtu, address⟩, -, rfl⟩ := List.mem_map.mp hrec
    cases address <;> exact ⟨⟨_, rfl⟩, _, rfl⟩
  device := by
    intro d hd
    obtain ⟨⟨name, mtu, address⟩, hlisted, rfl⟩ := List.mem_map.mp (h.mem_iff.mp hd)
    refine ⟨_, List.mem_map_of_mem hlisted, rfl, rfl, ?_, mtu, rfl, rfl⟩
    cases address <;> rfl
  others := by
    intro rec hrec _
    obtain ⟨d, hlisted, rfl⟩ := List.mem_map.mp hrec
    exact .inr ⟨_, h.mem_iff.mpr (List.mem_map_of_mem hlisted), rfl⟩

end H200

/-- Asked for what the role has by default, the validator finds the fixture's host as it is to be. -/
theorem validator_agrees_h200 : ∃ out, main H200.python H200.probe {} = .ok (out, 0) := by
  obtain ⟨i, hload, hrole, hdevices, hrails⟩ := H200.loaded
  have hlines : renderLines i.toHostIntentFields .networkConfig ∈ netplanDocuments i := List.mem_cons_self
  obtain ⟨doc, hread, -⟩ := (lossless i).1 _ hlines
  have hshown : (devices doc).Perm H200.shown := hdevices ▸ devices_perm hlines hread
  obtain ⟨bond, hbonds, hname⟩ := bond_of_document hload hlines hread
  have hprovisioned : Provisioned H200.python H200.probe ({} : Args).config doc := by
    refine ⟨rfl, ?_, ⟨_, H200.ipAddrJson_eq, H200.shows_of_perm hshown⟩, fun _ =>
      ⟨rfl, ?_⟩, ?_, fun _ => ⟨rfl, ?_, ?_⟩⟩
    · intro bond' hbond
      rw [hbonds, List.mem_singleton] at hbond
      rw [hbond, hname]
      rfl
    · show printsText "default via 10.42.10.1 dev bond0.100\n" = true
      decide
    · intro htool
      cases htool
    · exact mem_loadedModules.mp (by decide)
    · exact mem_loadedModules.mp (by decide)
  refine (validator_agrees H200.python H200.probe {} H200.client "SN-GPU-H200-001" i hload hrole _ hlines doc hread
    hprovisioned).mpr ⟨rfl, ?_⟩
  intro k hk
  have hmem : ("ib" ++ toString k, 2044) ∈ i.ibUnderlays.map fun nic => (nic.name.val, nic.mtu.val) := by
    rw [hrails]
    exact List.mem_map.mpr ⟨k, List.mem_range.mpr (by change (k : Int) < 8 at hk; omega), rfl⟩
  obtain ⟨nic, hnic, heq⟩ := List.mem_map.mp hmem
  obtain ⟨hname, hmtu⟩ := Prod.mk.inj heq
  refine ⟨nic, hnic, hname, ?_⟩
  rw [hmtu]
  rfl

end Scripts
end HostConfig
