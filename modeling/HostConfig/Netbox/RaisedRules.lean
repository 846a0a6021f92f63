import HostConfig.Netbox.Provenance

/-!
# `Netbox.RaisedRules` — which rules a loaded host can violate

The builders settle six of the eleven rules by construction: they make two N-S NICs, a bond of exactly
these, VLANs below this bond with a gateway on the `mgmt` ones only, and their name classes do not overlap.
So an `InvariantError` of the loader is about one of the other five.

`Settled` is what the builders guarantee. The count of gateways is the one rule that needs another one
first: it follows once every VLAN role is played exactly once, and the checks look at the roles before.
-/

namespace HostConfig
namespace Netbox

open Models HostIntentFields Checks Traverse

/-! ## The name classes do not overlap -/

/-- A numbered name starts like its prefix. -/
theorem head_of_isNumbered {c : Char} {cs : List Char} {namePrefix name : String}
    (hp : namePrefix.toList = c :: cs)
    (h : isNumbered namePrefix name = true) : name.toList.head? = some c := by
  rw [isNumbered, Bool.and_eq_true, List.isPrefixOf_iff_prefix, hp] at h
  obtain ⟨rest, hrest⟩ := h.1
  rw [← hrest]
  rfl

/-- The names the loader tells apart differ in the first letter: a VLAN's -/
theorem head_of_isVlanName {name : String} (h : isVlanName name = true) : name.toList.head? = some 'b' := by
  rw [isVlanName, List.isPrefixOf_iff_prefix] at h
  obtain ⟨rest, hrest⟩ := h
  rw [← hrest]
  rfl

/-- and a north-south NIC's. -/
theorem head_of_nsNicName {name : String} (h : name ∈ nsNicNames) : name.toList.head? = some 'n' := by
  rcases List.mem_pair.mp h with rfl | rfl <;> rfl

/-- Names of two classes that start differently are different. -/
theorem disjoint_of_head {l l' : List String} {c d : Char} (hl : ∀ n ∈ l, n.toList.head? = some c)
    (hl' : ∀ n ∈ l', n.toList.head? = some d) (hcd : c ≠ d) : l.Disjoint l' := by
  intro name hname hname'
  have hhead := (hl name hname).symm.trans (hl' name hname')
  exact hcd (Option.some.inj hhead)

variable {client : Client} {assetTag : String} {interfaces : List InterfaceRecord} {p : HostIntentFields}

/-- **The names of the parts are distinct**: each class has the names of different interfaces. -/
theorem nodup_names (h : PartsRead client interfaces p) (hn : (interfaces.map (·.name)).Nodup) :
    p.names.Nodup := by
  obtain ⟨roce, hroce, hroceSorted⟩ := h.roceUnderlays
  obtain ⟨ib, hib, hibSorted⟩ := h.ibUnderlays
  have hvlanNames := map_of_forall₂ (fun _ _ h => h.name) h.vlans
  have hroceNames := (hroceSorted.map (·.name.val)).trans
    (.of_eq (map_of_forall₂ (fun _ _ h => h.name) hroce))
  have hibNames := (hibSorted.map (·.name.val)).trans (.of_eq (map_of_forall₂ (fun _ _ h => h.name) hib))
  have hclass : ∀ kind : InterfaceRecord → Bool, ((interfaces.filter kind).map (·.name)).Nodup := fun kind =>
    hn.sublist (List.filter_sublist.map _)
  have hns : ∀ n ∈ p.nsNics.map (·.name.val), n.toList.head? = some 'n' := by
    rw [h.nsNicNames]
    exact fun n hmem => head_of_nsNicName hmem
  have hvlan : ∀ n ∈ p.vlans.map (·.name.val), n.toList.head? = some 'b' := by
    rw [hvlanNames]
    intro n hmem
    obtain ⟨iface, hiface, rfl⟩ := List.mem_map.mp hmem
    exact head_of_isVlanName (List.mem_filter.mp hiface).2
  have hgpu : ∀ n ∈ p.roceUnderlays.map (·.name.val), n.toList.head? = some 'g' := by
    intro n hmem
    obtain ⟨iface, hiface, rfl⟩ := List.mem_map.mp (hroceNames.mem_iff.mp hmem)
    exact head_of_isNumbered rfl (List.mem_filter.mp hiface).2
  have hinf : ∀ n ∈ p.ibUnderlays.map (·.name.val), n.toList.head? = some 'i' := by
    intro n hmem
    obtain ⟨iface, hiface, rfl⟩ := List.mem_map.mp (hibNames.mem_iff.mp hmem)
    exact head_of_isNumbered rfl (List.mem_filter.mp hiface).2
  -- four distinct lists, no two of which share a name
  have hleft : (p.nsNics.map (·.name.val) ++ p.roceUnderlays.map (·.name.val)).Nodup := by
    refine List.Nodup.append ?_ (hroceNames.nodup_iff.mpr (hclass _)) (disjoint_of_head hns hgpu (by decide))
    rw [h.nsNicNames]
    decide
  have hmid : (p.nsNics.map (·.name.val) ++ p.roceUnderlays.map (·.name.val) ++
      p.ibUnderlays.map (·.name.val)).Nodup := by
    refine List.Nodup.append hleft (hibNames.nodup_iff.mpr (hclass _)) ?_
    exact List.disjoint_append_left.mpr
      ⟨disjoint_of_head hns hinf (by decide), disjoint_of_head hgpu hinf (by decide)⟩
  refine List.Nodup.append hmid (hvlanNames ▸ hclass _) ?_
  exact List.disjoint_append_left.mpr ⟨List.disjoint_append_left.mpr
    ⟨disjoint_of_head hns hvlan (by decide), disjoint_of_head hgpu hvlan (by decide)⟩,
    disjoint_of_head hinf hvlan (by decide)⟩

/-! ## The settled rules -/

/-- What the builders guarantee of the parts, whatever the listing says. -/
structure Settled (p : HostIntentFields) : Prop where
  nsNicCount : p.nsNics.length = 2
  bondMembers : ∀ m ∈ p.bond.members, ∃ n ∈ p.nsNics, n.name.val = m
  vlanParents : ∀ v ∈ p.vlans, v.parent = p.bond.name
  gateways : ∀ v ∈ p.vlans, v.gateway.isSome ↔ v.role = .mgmt
  uniqueNames : p.names.Nodup

/-- However the parts are read, these rules hold of them. -/
theorem settled (h : PartsRead client interfaces p) (hn : (interfaces.map (·.name)).Nodup) : Settled p := by
  -- how the parts are read settles these rules for them
  have hvlan : ∀ v ∈ p.vlans, ∃ iface, VlanRead client iface v := by
    intro v hv
    obtain ⟨iface, -, hread⟩ := exists_of_mem_right h.vlans v hv
    exact ⟨iface, hread⟩
  constructor
  case nsNicCount =>
    have hlen := congrArg List.length h.nsNicNames
    rwa [List.length_map] at hlen
  case bondMembers =>
    intro m hm
    rw [h.bondMembers, ← h.nsNicNames] at hm
    exact List.mem_map.mp hm
  case vlanParents =>
    intro v hv
    obtain ⟨iface, hread⟩ := hvlan v hv
    exact BoundedStr.ext (hread.parent.trans h.bondName.symm)
  case gateways =>
    intro v hv
    obtain ⟨iface, hread⟩ := hvlan v hv
    rw [hread.gateway]
    split
    · rename_i hm
      exact iff_of_true v.address.firstHost_isSome hm
    · rename_i hm
      exact iff_of_false (by decide) hm
  case uniqueNames => exact nodup_names h hn

/-! ## What is left to raise -/

/-- The ids an `InvariantError` of the loader can have, for a host of this role. -/
def raisedRules (role : Role) : List String :=
  ["vlan-roles-incomplete", "mtu-non-monotone", "roce-count-" ++ role.value, "ib-count-" ++ role.value,
   "duplicate-ip"]

/-- Of a settled intent only these rules can be violated. -/
theorem mem_raisedRules (hp : Settled p) {e : InvariantError} (h : HostIntent.ofFields p = .error e) :
    e.invariant ∈ raisedRules p.role := by
  obtain ⟨pre, r, post, hsplit, hpre, hr, htag⟩ :=
    firstError_error p.checks_decide (HostIntent.ofFields_eq_error.mp h)
  rw [htag]
  by_cases hroles : ∀ role, roleCount p.vlans role = 1
  · -- with the roles complete, the gateway rules hold as well
    obtain ⟨hcount, hrole⟩ := (gateway_rules_iff hroles).mpr hp.gateways
    have hmem : r ∈ p.rules := hsplit ▸ List.mem_append_right _ List.mem_cons_self
    simp only [rules, List.mem_cons, List.not_mem_nil, or_false] at hmem
    rcases hmem with rfl | rfl | rfl | rfl | rfl | rfl | rfl | rfl | rfl | rfl | rfl
    · exact absurd hp.nsNicCount hr
    · exact absurd hp.bondMembers hr
    · exact absurd hroles hr
    · exact absurd hp.vlanParents hr
    · exact absurd hcount hr
    · exact absurd hrole hr
    · simp [raisedRules]
    · simp [raisedRules]
    · simp [raisedRules]
    · exact absurd hp.uniqueNames hr
    · simp [raisedRules]
  · -- otherwise the roles are what is raised: only two settled rules stand before them
    have hnot : ("vlan-roles-incomplete", ∀ role, roleCount p.vlans role = 1) ∉ pre := fun hmem =>
      hroles (hpre _ hmem)
    have hfirst := eq_or_mem_of_split
      (A := [("ns-nic-count", p.nsNics.length = 2),
        ("bond-member-unknown", ∀ m ∈ p.bond.members, ∃ n ∈ p.nsNics, n.name.val = m)]) hsplit hnot
    rcases hfirst with rfl | hmem
    · simp [raisedRules]
    · rcases List.mem_pair.mp hmem with rfl | rfl
      · exact absurd hp.nsNicCount hr
      · exact absurd hp.bondMembers hr

/-- **The loader raises five of the eleven rules**, those of the device's role among them, and derives a
    gateway from every address. -/
theorem raised_rules (hd : DistinctNames client assetTag) :
    (∀ e, loadHostIntent client assetTag = .error (.invariantError e) →
      ∃ device role, client.devicesGet assetTag = .ok (some device) ∧ roleSlug device = some role.value ∧
        e.invariant ∈ raisedRules role) ∧
    ∀ address, ∃ gateway, deriveGateway address = .ok gateway := by
  constructor
  · intro e he
    obtain ⟨device, interfaces, p, hbuilt, hof⟩ := built_of_invariantError he
    have hn := hd device hbuilt.found interfaces hbuilt.listing
    exact ⟨device, p.role, hbuilt.found, hbuilt.role, mem_raisedRules (settled hbuilt.parts hn) hof⟩
  · intro address
    obtain ⟨gateway, hgateway, -⟩ := deriveGateway_eq address
    exact ⟨gateway, hgateway⟩

/-- The `cpu` fixture with the management address on the storage VLAN too. -/
def sharedIpClient : Client :=
  oneDevice "SN-CPU-001" cpuDevice cpuInterfaces
    [(13, "10.42.10.11/24"), (14, "10.42.10.11/24"), (15, "10.42.30.11/24")]

theorem raised_rules_sharedIp :
    ∃ e, loadHostIntent sharedIpClient "SN-CPU-001" = .error (.invariantError e) ∧
      e.invariant ∈ raisedRules .cpu := by
  have hraised : loadHostIntent sharedIpClient "SN-CPU-001" =
      .error (.invariantError ⟨"duplicate-ip", .duplicateIp "10.42.10.11" "bond0.100" "bond0.200"⟩) := by
    rfl
  have hd : DistinctNames sharedIpClient "SN-CPU-001" := by
    intro device _ interfaces hinterfaces
    obtain rfl := Except.ok.inj hinterfaces
    decide
  obtain ⟨device, role, hdevice, hrole, hmem⟩ := (raised_rules hd).1 _ hraised
  obtain rfl : cpuDevice = device := Option.some.inj (Except.ok.inj hdevice)
  have hcpu : role = .cpu := by
    cases role with
    | cpu => rfl
    | gpuB300 | gpuB200 | gpuH200 => exact absurd hrole (by decide)
  rw [hcpu] at hmem
  exact ⟨_, hraised, hmem⟩

end Netbox
end HostConfig
