import Mathlib.Data.List.Basic
import HostConfig.Lib.Runs
import HostConfig.Models.Intent

/-!
# `Models.Assign` — attribute assignment on a constructed intent

With `validate_assignment=True`, `m.f = v` validates `v` for the field and re-runs the after-validators of
`m` itself. `HostIntent` has one (the cross-field rules); `Bond`, `VlanChild` and the NIC models have none,
and the uniqueness of `Bond.members` is checked in `Bond.__init__`, which an assignment does not run. So an
assignment on the intent is re-checked and an assignment on one of its parts is not.

`Write` is an assignment whose value is valid for its field, `assign` what it does. `Trusted` is what the
renderer relies on: the rules, and distinct bond members. `Write.Guarded` is the exact condition under which a
write keeps it, `assign_trusted_iff`; each kind of part has a replacement lemma that says which rules a new
value of the part can break.
-/

namespace HostConfig
namespace Models

/-! ## Writes -/

/-- An assignment to a field of a `PhysIface`. -/
inductive PhysWrite
  | name (n : IfName)
  | mac (m : MacAddress)
  | mtu (t : Mtu)

def PhysIface.assign (n : PhysIface) : PhysWrite → PhysIface
  | .name v => { n with name := v }
  | .mac v  => { n with mac := v }
  | .mtu v  => { n with mtu := v }

def BondMember.assign (n : BondMember) (w : PhysWrite) : BondMember :=
  { n with toPhysIface := n.toPhysIface.assign w }

/-- An assignment to a field of a `RoceUnderlay`. -/
inductive RoceWrite
  | phys (w : PhysWrite)
  | sriovVfs (v : BoundedInt 0 128)
  | address (a : IPv4Interface)

def RoceUnderlay.assign (n : RoceUnderlay) : RoceWrite → RoceUnderlay
  | .phys w     => { n with toPhysIface := n.toPhysIface.assign w }
  | .sriovVfs v => { n with sriovVfs := v }
  | .address a  => { n with address := a }

/-- An assignment to a field of an `InfinibandUnderlay`. -/
inductive IbWrite
  | phys (w : PhysWrite)
  | address (a : IPv4Interface)

def InfinibandUnderlay.assign (n : InfinibandUnderlay) : IbWrite → InfinibandUnderlay
  | .phys w    => { n with toPhysIface := n.toPhysIface.assign w }
  | .address a => { n with address := a }

/-- An assignment to a field of the `Bond`. -/
inductive BondWrite
  | name (n : IfName)
  | members (ms : List String) (len : 2 ≤ ms.length ∧ ms.length ≤ 8)
  | mode (m : BondMode)
  | lacpRate (r : LacpRate)
  | transmitHashPolicy (t : TransmitHashPolicy)
  | mtu (t : Mtu)

/-- Assigning `members` checks the length of the list and not that its elements are distinct. -/
def Bond.assign (b : Bond) : BondWrite → Bond
  | .name v               => { b with name := v }
  | .members ms len       => { b with members := ms, membersLen := len }
  | .mode v               => { b with mode := v }
  | .lacpRate v           => { b with lacpRate := v }
  | .transmitHashPolicy v => { b with transmitHashPolicy := v }
  | .mtu v                => { b with mtu := v }

/-- An assignment to a field of a `VlanChild`. -/
inductive VlanWrite
  | name (n : IfName)
  | parent (p : IfName)
  | vlanId (v : VlanId)
  | role (r : VlanRole)
  | mtu (t : Mtu)
  | address (a : IPv4Interface)
  | gateway (g : Option IPv4Address)
  | dns (ds : List IPv4Address)
  | searchDomain (s : Option String)

def VlanChild.assign (v : VlanChild) : VlanWrite → VlanChild
  | .name x         => { v with name := x }
  | .parent x       => { v with parent := x }
  | .vlanId x       => { v with vlanId := x }
  | .role x         => { v with role := x }
  | .mtu x          => { v with mtu := x }
  | .address x      => { v with address := x }
  | .gateway x      => { v with gateway := x }
  | .dns x          => { v with dns := x }
  | .searchDomain x => { v with searchDomain := x }

/-- An assignment on the intent or on a model reachable from it. -/
inductive Write
  | assetTag (t : AssetTag)
  | hostname (h : Hostname)
  | role (r : Role)
  | nsNics (l : List BondMember)
  | bond (b : Bond)
  | vlans (l : List VlanChild)
  | roceUnderlays (l : List RoceUnderlay)
  | ibUnderlays (l : List InfinibandUnderlay)
  | nsNic (i : Nat) (w : PhysWrite)
  | bondField (w : BondWrite)
  | vlan (i : Nat) (w : VlanWrite)
  | roceUnderlay (i : Nat) (w : RoceWrite)
  | ibUnderlay (i : Nat) (w : IbWrite)

/-- `l[i].f = v`, in place; `none` is the `IndexError`. -/
def modifyAt? {α : Type} (l : List α) (i : Nat) (f : α → α) : Option (List α) :=
  if i < l.length then some (l.modify i f) else none

namespace HostIntentFields

/-- The after-validator of the intent, as part of an assignment to one of its own fields. -/
def recheck (p : HostIntentFields) : Option HostIntentFields :=
  match p.checkInvariants with
  | .ok _    => some p
  | .error _ => none

/-- The intent after an assignment that succeeds, `none` if it raises. -/
def assign (p : HostIntentFields) : Write → Option HostIntentFields
  | .assetTag t       => recheck { p with assetTag := t }
  | .hostname h       => recheck { p with hostname := h }
  | .role r           => recheck { p with role := r }
  | .nsNics l         => recheck { p with nsNics := l }
  | .bond b           => recheck { p with bond := b }
  | .vlans l          => recheck { p with vlans := l }
  | .roceUnderlays l  => recheck { p with roceUnderlays := l }
  | .ibUnderlays l    => recheck { p with ibUnderlays := l }
  | .nsNic i w        => (modifyAt? p.nsNics i (·.assign w)).map ({ p with nsNics := · })
  | .bondField w      => some { p with bond := p.bond.assign w }
  | .vlan i w         => (modifyAt? p.vlans i (·.assign w)).map ({ p with vlans := · })
  | .roceUnderlay i w => (modifyAt? p.roceUnderlays i (·.assign w)).map ({ p with roceUnderlays := · })
  | .ibUnderlay i w   => (modifyAt? p.ibUnderlays i (·.assign w)).map ({ p with ibUnderlays := · })

/-- What the renderer trusts of an intent. -/
structure Trusted (p : HostIntentFields) : Prop extends p.Satisfies where
  membersNodup : p.bond.members.Nodup

end HostIntentFields

/-! ## Guards -/

open HostIntentFields

/-- A new interface name: the old one, or one no interface of the intent has. -/
def FreshName (p : HostIntentFields) (old new : IfName) : Prop := new = old ∨ new.val ∉ p.names

/-- A new address: the old one up to the prefix, or one no interface of the intent has. -/
def FreshIp (p : HostIntentFields) (old new : IPv4Interface) : Prop := new.ip = old.ip ∨ new.ip ∉ p.ips

def PhysWrite.GuardedUnderlay (p : HostIntentFields) (n : PhysIface) : PhysWrite → Prop
  | .name x => FreshName p n.name x
  | _       => True

/-- Both N-S NICs are bond members, so neither can be renamed. -/
def PhysWrite.GuardedNs (n : PhysIface) : PhysWrite → Prop
  | .name x => x = n.name
  | _       => True

def RoceWrite.Guarded (p : HostIntentFields) (n : RoceUnderlay) : RoceWrite → Prop
  | .phys w     => w.GuardedUnderlay p n.toPhysIface
  | .sriovVfs _ => True
  | .address a  => FreshIp p n.address a

def IbWrite.Guarded (p : HostIntentFields) (n : InfinibandUnderlay) : IbWrite → Prop
  | .phys w    => w.GuardedUnderlay p n.toPhysIface
  | .address a => FreshIp p n.address a

def BondWrite.Guarded (p : HostIntentFields) : BondWrite → Prop
  | .name x       => x = p.bond.name
  | .members ms _ => ms.Nodup ∧ ∀ m ∈ ms, ∃ n ∈ p.nsNics, n.name.val = m
  | .mtu t        => ∀ v ∈ p.vlans, v.mtu.val ≤ t.val
  | _             => True

def VlanWrite.Guarded (p : HostIntentFields) (v : VlanChild) : VlanWrite → Prop
  | .name x    => FreshName p v.name x
  | .parent x  => x = p.bond.name
  | .role r    => r = v.role
  | .mtu t     => t.val ≤ p.bond.mtu.val
  | .address a => FreshIp p v.address a
  | .gateway g => g.isSome ↔ v.role = .mgmt
  | _          => True

/-- **The writes that keep the invariants.** A write on the intent itself is re-checked, and only a bond
    built from something else than a list can bring duplicate members in; a write on a part must respect the
    rules of the whole by itself. -/
def Write.Guarded : Write → HostIntentFields → Prop
  | .bond b, _           => b.members.Nodup
  | .nsNic i w, p        => ∀ n, p.nsNics[i]? = some n → w.GuardedNs n.toPhysIface
  | .bondField w, p      => w.Guarded p
  | .vlan i w, p         => ∀ v, p.vlans[i]? = some v → w.Guarded p v
  | .roceUnderlay i w, p => ∀ n, p.roceUnderlays[i]? = some n → w.Guarded p n
  | .ibUnderlay i w, p   => ∀ n, p.ibUnderlays[i]? = some n → w.Guarded p n
  | _, _                 => True

/-! ## Replacing one part -/

/-- An element at a known place, and the list with another one in its place. -/
theorem modifyAt?_eq_some {α : Type} {l l' : List α} {i : Nat} {f : α → α} (h : modifyAt? l i f = some l') :
    ∃ xs a ys, l = xs ++ a :: ys ∧ l' = xs ++ f a :: ys ∧ l[i]? = some a := by
  unfold modifyAt? at h
  split at h
  · rename_i hi
    obtain rfl := Option.some.inj h
    refine ⟨l.take i, l[i], l.drop (i + 1), ?_, List.modify_eq_take_cons_drop hi, List.getElem?_eq_getElem hi⟩
    rw [List.getElem_cons_drop, List.take_append_drop]
  · exact absurd h (by simp)

/-- Replacing one element of a duplicate-free list keeps it duplicate-free exactly when the new element is the
    old one or not in the list. -/
theorem nodup_replace {α : Type} {l l' rest : List α} {a b : α} (hl : l.Perm (a :: rest))
    (hl' : l'.Perm (b :: rest)) (h : l.Nodup) : l'.Nodup ↔ b = a ∨ b ∉ l := by
  rw [hl.nodup_iff, List.nodup_cons] at h
  rw [hl'.nodup_iff, List.nodup_cons, hl.mem_iff, List.mem_cons]
  constructor
  · rintro ⟨hb, -⟩
    exact (Classical.em (b = a)).imp_right fun hne => not_or.mpr ⟨hne, hb⟩
  · rintro (rfl | hb)
    · exact h
    · exact ⟨(not_or.mp hb).2, h.2⟩

namespace HostIntentFields

variable {p : HostIntentFields}

/-! Each perm lemma moves the part that is replaced to the front of the list its rule is about. -/

theorem names_nsNic_perm (p : HostIntentFields) (xs ys : List BondMember) (n : BondMember) :
    ({ p with nsNics := xs ++ n :: ys }).names.Perm
      (n.name.val :: ({ p with nsNics := xs ++ ys }).names) := by
  rw [List.perm_iff_count]
  intro a
  simp only [names, ifaceNames, List.map_append, List.map_cons, List.count_append, List.count_cons]
  omega

theorem names_vlan_perm (p : HostIntentFields) (xs ys : List VlanChild) (v : VlanChild) :
    ({ p with vlans := xs ++ v :: ys }).names.Perm (v.name.val :: ({ p with vlans := xs ++ ys }).names) := by
  rw [List.perm_iff_count]
  intro a
  simp only [names, ifaceNames, List.map_append, List.map_cons, List.count_append, List.count_cons]
  omega

theorem names_roce_perm (p : HostIntentFields) (xs ys : List RoceUnderlay) (n : RoceUnderlay) :
    ({ p with roceUnderlays := xs ++ n :: ys }).names.Perm
      (n.name.val :: ({ p with roceUnderlays := xs ++ ys }).names) := by
  rw [List.perm_iff_count]
  intro a
  simp only [names, ifaceNames, List.map_append, List.map_cons, List.count_append, List.count_cons]
  omega

theorem names_ib_perm (p : HostIntentFields) (xs ys : List InfinibandUnderlay) (n : InfinibandUnderlay) :
    ({ p with ibUnderlays := xs ++ n :: ys }).names.Perm
      (n.name.val :: ({ p with ibUnderlays := xs ++ ys }).names) := by
  rw [List.perm_iff_count]
  intro a
  simp only [names, ifaceNames, List.map_append, List.map_cons, List.count_append, List.count_cons]
  omega

theorem ips_vlan_perm (p : HostIntentFields) (xs ys : List VlanChild) (v : VlanChild) :
    ({ p with vlans := xs ++ v :: ys }).ips.Perm (v.address.ip :: ({ p with vlans := xs ++ ys }).ips) := by
  rw [List.perm_iff_count]
  intro a
  simp only [ips, addressed, List.map_append, List.map_cons, List.count_append, List.count_cons]
  omega

theorem ips_roce_perm (p : HostIntentFields) (xs ys : List RoceUnderlay) (n : RoceUnderlay) :
    ({ p with roceUnderlays := xs ++ n :: ys }).ips.Perm
      (n.address.ip :: ({ p with roceUnderlays := xs ++ ys }).ips) := by
  rw [List.perm_iff_count]
  intro a
  simp only [ips, addressed, List.map_append, List.map_cons, List.count_append, List.count_cons]
  omega

theorem ips_ib_perm (p : HostIntentFields) (xs ys : List InfinibandUnderlay) (n : InfinibandUnderlay) :
    ({ p with ibUnderlays := xs ++ n :: ys }).ips.Perm
      (n.address.ip :: ({ p with ibUnderlays := xs ++ ys }).ips) := by
  rw [List.perm_iff_count]
  intro a
  simp only [ips, addressed, List.map_append, List.map_cons, List.count_append, List.count_cons]
  omega

theorem freshName_iff (p : HostIntentFields) (old new : IfName) :
    FreshName p old new ↔ new.val = old.val ∨ new.val ∉ p.names := by
  rw [FreshName, BoundedStr.ext_iff]

/-- The two N-S NICs are exactly the bond members. -/
theorem Trusted.ns_mem_members (h : p.Trusted) {n : BondMember} (hn : n ∈ p.nsNics) :
    n.name.val ∈ p.bond.members := by
  have hsub : p.bond.members ⊆ p.nsNics.map (·.name.val) := fun m hm =>
    List.mem_map.mpr (h.bondMembers m hm)
  have hlen : (p.nsNics.map (·.name.val)).length ≤ p.bond.members.length := by
    rw [List.length_map, h.nsNicCount]
    exact p.bond.membersLen.1
  have hperm := (h.membersNodup.subperm hsub).perm_of_length_le hlen
  exact hperm.mem_iff.mpr (List.mem_map_of_mem hn)

/-- **Replacing an N-S NIC**: only its name matters, and it must stay. -/
theorem Trusted.replace_nsNic_iff (h : p.Trusted) {xs ys : List BondMember} {n n' : BondMember}
    (hp : p.nsNics = xs ++ n :: ys) :
    ({ p with nsNics := xs ++ n' :: ys }).Trusted ↔ n'.name = n.name := by
  have hself : { p with nsNics := xs ++ n :: ys } = p := by rw [← hp]
  have hmem : n ∈ p.nsNics := hp ▸ List.mem_append_right _ List.mem_cons_self
  have hnodup : ({ p with nsNics := xs ++ n :: ys }).names.Nodup := hself ▸ h.uniqueNames
  have hnames : ({ p with nsNics := xs ++ n' :: ys }).names.Nodup ↔ _ :=
    nodup_replace (names_nsNic_perm p xs ys n) (names_nsNic_perm p xs ys n') hnodup
  constructor
  · intro h'
    -- the old name is a bond member, so it is still the name of an N-S NIC, and it was nobody else's
    obtain ⟨m, hm, hname⟩ := h'.bondMembers _ (h.ns_mem_members hmem)
    rw [(names_nsNic_perm p xs ys n).nodup_iff, List.nodup_cons] at hnodup
    rcases List.mem_append.mp hm with hx | hy
    · refine absurd ?_ hnodup.1
      simp only [names, ifaceNames, List.map_append, List.mem_append]
      exact .inl (.inl (.inl (.inl (hname ▸ List.mem_map_of_mem hx))))
    · rcases List.mem_cons.mp hy with rfl | hy
      · exact BoundedStr.ext hname
      · refine absurd ?_ hnodup.1
        simp only [names, ifaceNames, List.map_append, List.mem_append]
        exact .inl (.inl (.inl (.inr (hname ▸ List.mem_map_of_mem hy))))
  · intro hname
    refine { h with
      nsNicCount := ?_, bondMembers := fun m hm => ?_, uniqueNames := hnames.mpr (.inl (by rw [hname])) }
    · rw [← h.nsNicCount, hp]; simp
    · obtain ⟨k, hk, hkm⟩ := h.bondMembers m hm
      rw [hp, List.mem_append, List.mem_cons] at hk
      rcases hk with hk | rfl | hk
      · exact ⟨k, List.mem_append_left _ hk, hkm⟩
      · exact ⟨n', List.mem_append_right _ List.mem_cons_self, hname ▸ hkm⟩
      · exact ⟨k, List.mem_append_right _ (List.mem_cons_of_mem _ hk), hkm⟩

/-- **Replacing the bond.** -/
theorem Trusted.replace_bond_iff (h : p.Trusted) {b : Bond} :
    ({ p with bond := b }).Trusted ↔
      b.name = p.bond.name ∧ b.members.Nodup ∧ (∀ m ∈ b.members, ∃ n ∈ p.nsNics, n.name.val = m) ∧
        ∀ v ∈ p.vlans, v.mtu.val ≤ b.mtu.val := by
  constructor
  · intro h'
    have hne : p.vlans ≠ [] := fun hnil => by simpa [hnil, roleCount] using h.vlanRoles .mgmt
    obtain ⟨v, hv⟩ := List.exists_mem_of_ne_nil _ hne
    exact ⟨(h'.vlanParents v hv).symm.trans (h.vlanParents v hv), h'.membersNodup, h'.bondMembers,
      h'.mtuMonotone⟩
  · rintro ⟨hname, hnodup, hmem, hmtu⟩
    exact { h with
      bondMembers := hmem, vlanParents := fun v hv => (h.vlanParents v hv).trans hname.symm,
      mtuMonotone := hmtu, membersNodup := hnodup }

/-- **Replacing a VLAN.** -/
theorem Trusted.replace_vlan_iff (h : p.Trusted) {xs ys : List VlanChild} {v v' : VlanChild}
    (hp : p.vlans = xs ++ v :: ys) :
    ({ p with vlans := xs ++ v' :: ys }).Trusted ↔
      v'.parent = p.bond.name ∧ v'.role = v.role ∧ (v'.gateway.isSome ↔ v'.role = .mgmt) ∧
        v'.mtu.val ≤ p.bond.mtu.val ∧ FreshName p v.name v'.name ∧ FreshIp p v.address v'.address := by
  have hself : { p with vlans := xs ++ v :: ys } = p := by rw [← hp]
  have hnames : ({ p with vlans := xs ++ v' :: ys }).names.Nodup ↔ FreshName p v.name v'.name := by
    have hiff := nodup_replace (names_vlan_perm p xs ys v) (names_vlan_perm p xs ys v')
      (by rw [hself]; exact h.uniqueNames)
    rw [hiff, hself, freshName_iff]
  have hips : ({ p with vlans := xs ++ v' :: ys }).ips.Nodup ↔ FreshIp p v.address v'.address := by
    have hiff := nodup_replace (ips_vlan_perm p xs ys v) (ips_vlan_perm p xs ys v')
      (by rw [hself]; exact h.uniqueIps)
    rw [hiff, hself, FreshIp]
  have hroles : (∀ role, roleCount (xs ++ v' :: ys) role = 1) ↔ v'.role = v.role := by
    have hold := fun role => hp ▸ h.vlanRoles role
    simp only [roleCount_eq_count, List.map_append, List.map_cons, List.count_append,
      List.count_cons] at hold ⊢
    constructor
    · -- another role would be there twice
      intro hnew
      have ho := hold v'.role
      have hn := hnew v'.role
      simp only [beq_self_eq_true, if_true, beq_iff_eq] at ho hn
      by_contra hne
      rw [if_neg (Ne.symm hne)] at ho
      omega
    · rintro heq role
      rw [heq]
      exact hold role
  -- the VLANs that stay meet their rules already
  have hgw : ∀ u ∈ xs ++ ys, u.gateway.isSome ↔ u.role = .mgmt := fun u hu => h.gateway_iff u <| by
    rw [hp, List.mem_append, List.mem_cons]
    exact (List.mem_append.mp hu).imp_right .inr
  have hother : ∀ u ∈ xs ++ ys, u ∈ p.vlans := fun u hu => by
    rw [hp, List.mem_append, List.mem_cons]
    exact (List.mem_append.mp hu).imp_right .inr
  have hmid : v' ∈ xs ++ v' :: ys := List.mem_append_right _ List.mem_cons_self
  constructor
  · intro h'
    exact ⟨h'.vlanParents v' hmid, hroles.mp h'.vlanRoles, h'.gateway_iff v' hmid, h'.mtuMonotone v' hmid,
      hnames.mp h'.uniqueNames, hips.mp h'.uniqueIps⟩
  · rintro ⟨hparent, hrole, hgateway, hmtu, hname, hip⟩
    have hall : ∀ {P : VlanChild → Prop}, P v' → (∀ u ∈ xs ++ ys, P u) → ∀ u ∈ xs ++ v' :: ys, P u := by
      intro P hv' hrest u hu
      rcases List.mem_append.mp hu with hu | hu
      · exact hrest u (List.mem_append_left _ hu)
      · rcases List.mem_cons.mp hu with rfl | hu
        · exact hv'
        · exact hrest u (List.mem_append_right _ hu)
    have hgws := (gateway_rules_iff (hroles.mpr hrole)).mpr (hall hgateway hgw)
    exact { h with
      vlanRoles := hroles.mpr hrole
      vlanParents := hall hparent fun u hu => h.vlanParents u (hother u hu)
      gatewayCount := hgws.1
      gatewayRole := hgws.2
      mtuMonotone := hall hmtu fun u hu => h.mtuMonotone u (hother u hu)
      uniqueNames := hnames.mpr hname
      uniqueIps := hips.mpr hip }

/-- **Replacing a RoCE underlay.** -/
theorem Trusted.replace_roce_iff (h : p.Trusted) {xs ys : List RoceUnderlay} {n n' : RoceUnderlay}
    (hp : p.roceUnderlays = xs ++ n :: ys) :
    ({ p with roceUnderlays := xs ++ n' :: ys }).Trusted ↔
      FreshName p n.name n'.name ∧ FreshIp p n.address n'.address := by
  have hself : { p with roceUnderlays := xs ++ n :: ys } = p := by rw [← hp]
  have hnames : ({ p with roceUnderlays := xs ++ n' :: ys }).names.Nodup ↔ FreshName p n.name n'.name := by
    have hiff := nodup_replace (names_roce_perm p xs ys n) (names_roce_perm p xs ys n')
      (by rw [hself]; exact h.uniqueNames)
    rw [hiff, hself, freshName_iff]
  have hips : ({ p with roceUnderlays := xs ++ n' :: ys }).ips.Nodup ↔ FreshIp p n.address n'.address := by
    have hiff := nodup_replace (ips_roce_perm p xs ys n) (ips_roce_perm p xs ys n')
      (by rw [hself]; exact h.uniqueIps)
    rw [hiff, hself, FreshIp]
  constructor
  · exact fun h' => ⟨hnames.mp h'.uniqueNames, hips.mp h'.uniqueIps⟩
  · rintro ⟨hname, hip⟩
    refine { h with roceCount := ?_, uniqueNames := hnames.mpr hname, uniqueIps := hips.mpr hip }
    rw [← h.roceCount, hp]
    simp

/-- **Replacing an InfiniBand underlay.** -/
theorem Trusted.replace_ib_iff (h : p.Trusted) {xs ys : List InfinibandUnderlay}
    {n n' : InfinibandUnderlay} (hp : p.ibUnderlays = xs ++ n :: ys) :
    ({ p with ibUnderlays := xs ++ n' :: ys }).Trusted ↔
      FreshName p n.name n'.name ∧ FreshIp p n.address n'.address := by
  have hself : { p with ibUnderlays := xs ++ n :: ys } = p := by rw [← hp]
  have hnames : ({ p with ibUnderlays := xs ++ n' :: ys }).names.Nodup ↔ FreshName p n.name n'.name := by
    have hiff := nodup_replace (names_ib_perm p xs ys n) (names_ib_perm p xs ys n')
      (by rw [hself]; exact h.uniqueNames)
    rw [hiff, hself, freshName_iff]
  have hips : ({ p with ibUnderlays := xs ++ n' :: ys }).ips.Nodup ↔ FreshIp p n.address n'.address := by
    have hiff := nodup_replace (ips_ib_perm p xs ys n) (ips_ib_perm p xs ys n')
      (by rw [hself]; exact h.uniqueIps)
    rw [hiff, hself, FreshIp]
  constructor
  · exact fun h' => ⟨hnames.mp h'.uniqueNames, hips.mp h'.uniqueIps⟩
  · rintro ⟨hname, hip⟩
    refine { h with ibCount := ?_, uniqueNames := hnames.mpr hname, uniqueIps := hips.mpr hip }
    rw [← h.ibCount, hp]
    simp

/-! ## One write -/

theorem recheck_eq_some {q : HostIntentFields} (h : p.recheck = some q) : q = p ∧ p.Satisfies := by
  unfold recheck at h
  split at h
  · rename_i u hok
    exact ⟨(Option.some.inj h).symm, (checkInvariants_ok_iff p).mp hok⟩
  · exact absurd h (by simp)

/-- After a write on the intent itself, only the bond members can be wrong. -/
theorem recheck_trusted_iff {q : HostIntentFields} (h : p.recheck = some q) :
    q.Trusted ↔ p.bond.members.Nodup := by
  obtain ⟨rfl, hsat⟩ := recheck_eq_some h
  exact ⟨fun h' => h'.membersNodup, fun h' => { hsat with membersNodup := h' }⟩

theorem vlanWrite_trusted_iff (h : p.Trusted) {xs ys : List VlanChild} {v : VlanChild}
    (hp : p.vlans = xs ++ v :: ys) (w : VlanWrite) :
    ({ p with vlans := xs ++ v.assign w :: ys }).Trusted ↔ w.Guarded p v := by
  have hv : v ∈ p.vlans := hp ▸ List.mem_append_right _ List.mem_cons_self
  have hparent := h.vlanParents v hv
  have hgateway := h.gateway_iff v hv
  have hmtu := h.mtuMonotone v hv
  rw [h.replace_vlan_iff hp]
  cases w with
  | role r =>
      simp only [VlanChild.assign, VlanWrite.Guarded, FreshName, FreshIp, true_or, and_true, hparent, hmtu,
        true_and]
      refine ⟨And.left, fun hr => ⟨hr, ?_⟩⟩
      rw [hr]
      exact hgateway
  | _ => simp [VlanChild.assign, VlanWrite.Guarded, FreshName, FreshIp, hparent, hgateway, hmtu]

/-- **A write that succeeds on a trusted intent keeps it trusted exactly when it is guarded.** -/
theorem assign_trusted_iff (w : Write) (p q : HostIntentFields) (h : p.Trusted) (hq : p.assign w = some q) :
    q.Trusted ↔ w.Guarded p := by
  -- a field of a part is judged on the part it replaces, a field of the host by the checks that run again
  cases w with
  | bond b => exact recheck_trusted_iff hq
  | nsNic i w =>
      obtain ⟨l, hl, rfl⟩ := Option.map_eq_some_iff.mp hq
      obtain ⟨xs, n, ys, hp, rfl, hi⟩ := modifyAt?_eq_some hl
      rw [h.replace_nsNic_iff hp, Write.Guarded, hi]
      cases w <;> simp [BondMember.assign, PhysIface.assign, PhysWrite.GuardedNs]
  | bondField w =>
      obtain rfl := Option.some.inj hq
      rw [h.replace_bond_iff]
      cases w <;> simp [Bond.assign, Write.Guarded, BondWrite.Guarded, h.membersNodup] <;>
        simp +contextual [h.bondMembers, h.mtuMonotone]
  | vlan i w =>
      obtain ⟨l, hl, rfl⟩ := Option.map_eq_some_iff.mp hq
      obtain ⟨xs, v, ys, hp, rfl, hi⟩ := modifyAt?_eq_some hl
      rw [vlanWrite_trusted_iff h hp, Write.Guarded, hi]
      simp
  | roceUnderlay i w =>
      obtain ⟨l, hl, rfl⟩ := Option.map_eq_some_iff.mp hq
      obtain ⟨xs, n, ys, hp, rfl, hi⟩ := modifyAt?_eq_some hl
      rw [h.replace_roce_iff hp, Write.Guarded, hi]
      rcases w with (_ | _ | _) | _ | _ <;>
        simp [RoceUnderlay.assign, PhysIface.assign, RoceWrite.Guarded, PhysWrite.GuardedUnderlay, FreshName,
          FreshIp]
  | ibUnderlay i w =>
      obtain ⟨l, hl, rfl⟩ := Option.map_eq_some_iff.mp hq
      obtain ⟨xs, n, ys, hp, rfl, hi⟩ := modifyAt?_eq_some hl
      rw [h.replace_ib_iff hp, Write.Guarded, hi]
      rcases w with (_ | _ | _) | _ <;>
        simp [InfinibandUnderlay.assign, PhysIface.assign, IbWrite.Guarded, PhysWrite.GuardedUnderlay,
          FreshName, FreshIp]
  | _ => exact (recheck_trusted_iff hq).trans (iff_true_intro h.membersNodup)

/-! ## Runs of writes -/

/-- The intent after a list of assignments, `none` if one of them raises. -/
def assignAll (p : HostIntentFields) (ws : List Write) : Option HostIntentFields := Runs.run assign p ws

end HostIntentFields

/-- **When a run of assignments keeps the invariants.** Every intent a run of successful assignments passes
    through satisfies the rules and has distinct bond members exactly when the first one has distinct bond
    members and every write of the run is guarded where it is made. -/
theorem assignAll_trusted_iff (i : HostIntent) (ws : List Write) (p : HostIntentFields)
    (hrun : assignAll i.toHostIntentFields ws = some p) :
    (∀ q, Runs.Reached assign i.toHostIntentFields ws q → q.Trusted) ↔
      i.bond.members.Nodup ∧ Runs.GuardedRun assign Write.Guarded i.toHostIntentFields ws := by
  rw [Runs.forall_reached_iff assign (fun p w q => assign_trusted_iff w p q) hrun]
  refine and_congr_left' ⟨fun h => h.membersNodup, fun h => ?_⟩
  exact { i.satisfies with membersNodup := h }

/-- Two writes on the `cpu` intent that succeed and are guarded: a larger bond MTU, a new VLAN name. -/
theorem assignAll_trusted_cpu :
    ∃ p, assignAll cpuIntent.toHostIntentFields
        [.bondField (.mtu ⟨9100, by decide⟩), .vlan 0 (.name ⟨"bond0.101", by decide⟩)] = some p ∧
      ∀ q, Runs.Reached assign cpuIntent.toHostIntentFields
        [.bondField (.mtu ⟨9100, by decide⟩), .vlan 0 (.name ⟨"bond0.101", by decide⟩)] q → q.Trusted := by
  refine ⟨_, rfl, (assignAll_trusted_iff cpuIntent _ _ rfl).mpr ⟨by decide, ?_, ?_⟩⟩
  · show ∀ v ∈ cpuFields.vlans, v.mtu.val ≤ 9100
    decide
  · rintro q hq
    obtain rfl := Option.some.inj hq
    refine ⟨?_, fun t ht => trivial⟩
    intro v hv
    obtain rfl := Option.some.inj hv
    exact .inr (by decide)

/-- Lowering the bond MTU of the `cpu` intent succeeds, and the intent left behind is not one that would
    construct. -/
theorem assign_bond_mtu_breaks :
    ∃ q, assignAll cpuIntent.toHostIntentFields [.bondField (.mtu ⟨1500, by decide⟩)] = some q ∧
      HostIntent.outcome q = some "mtu-non-monotone" ∧ ¬ q.Trusted := by
  refine ⟨_, rfl, by decide, fun h => ?_⟩
  exact absurd h.mtuMonotone (by decide)

end Models
end HostConfig
