import Mathlib.Data.List.Perm.Subperm
import HostConfig.Lib.Traverse
import HostConfig.Models.Intent

/-!
# `Models.Tree` — the interface tree of an intent

The N-S NICs carry the bond, the bond carries the VLAN children; the references between them are names. The
rules of `HostIntent` check every reference and the MTUs of one level. Two things they leave to the
constructor of the bond or to nobody:

* `members_perm_iff` — the bond has both N-S NICs as members, each once, unless two elements of `members` are
  one text, which the constructor notices in a `list` of strings only;
* `mtuMonotone_iff_members` — MTUs do not grow from the bond to its children, and do not from a NIC to the
  bond exactly when no member has a smaller MTU than the bond.
-/

namespace HostConfig
namespace Models

/-! ## The members of the bond -/

namespace HostIntent

/-- The names of the N-S NICs are two and distinct. -/
theorem nodup_nsNicNames (i : HostIntent) : (i.nsNics.map (·.name.val)).Nodup := by
  have hnames : (ifaceNames i.nsNics i.roceUnderlays i.vlans i.ibUnderlays).Nodup := i.satisfies.uniqueNames
  unfold ifaceNames at hnames
  rw [List.append_assoc, List.append_assoc] at hnames
  exact List.Nodup.of_append_left hnames

/-- **The members are the N-S NICs, each once, exactly when none is listed twice**: two
    distinct names among two. -/
theorem members_perm_iff_nodup (i : HostIntent) :
    i.bond.members.Perm (i.nsNics.map (·.name.val)) ↔ i.bond.members.Nodup := by
  constructor
  · intro h
    exact h.nodup_iff.mpr i.nodup_nsNicNames
  · intro h
    have hsub : i.bond.members ⊆ i.nsNics.map (·.name.val) := by
      intro m hm
      obtain ⟨nic, hnic, hname⟩ := i.satisfies.bondMembers m hm
      exact List.mem_map.mpr ⟨nic, hnic, hname⟩
    have hlen : (i.nsNics.map (·.name.val)).length ≤ i.bond.members.length := by
      rw [List.length_map, i.satisfies.nsNicCount]
      exact i.bond.membersLen.1
    exact (List.subperm_of_subset h hsub).perm_of_length_le hlen

end HostIntent

section Constructed

variable {bondName assetTag hostname : String} {members : MembersArg} {mtu : Int} {bond : Bond} {role : Role}
  {nsNics : List BondMember} {vlans : List VlanChild} {roceUnderlays : List RoceUnderlay}
  {ibUnderlays : List InfinibandUnderlay} {i : HostIntent}

/-- **The bond has exactly the two N-S NICs as members, each once, exactly when `members` is a `list` of
    strings or no two of its elements are one text.** -/
theorem members_perm_iff (hbond : Bond.init bondName members mtu = .ok bond)
    (hi : HostIntent.init assetTag hostname role nsNics bond vlans roceUnderlays ibUnderlays = .ok i) :
    i.bond.members.Perm (i.nsNics.map (·.name.val)) ↔
      (∃ names : List String, members = .list (names.map .str)) ∨
        (members.toList.map Member.coerce).Nodup := by
  obtain ⟨hbuild, hlist⟩ := Bond.build_of_init hbond
  obtain ⟨-, htexts, -⟩ := Bond.of_build hbuild
  obtain ⟨-, -, -, -, hb, -, -, -⟩ := HostIntent.init_eq_ok_iff.mp hi
  rw [i.members_perm_iff_nodup, hb, Traverse.map_of_mapM_eq_some htexts,
    List.nodup_map_iff (Option.some_injective String)]
  constructor
  · intro h
    exact .inr h
  · rintro (⟨names, hnames⟩ | h)
    · -- the check ran on these very strings
      have hnodup : (names.map Member.str).Nodup := hlist _ hnames
      rw [hnames] at htexts
      have hmembers : some names = some bond.members := (mapM_coerce_str names).symm.trans htexts
      rw [← Option.some.inj hmembers]
      exact hnodup.of_map
    · exact h

end Constructed

/-- Of a tuple with one of the names as `bytes`. -/
theorem members_perm_iff_cpu :
    cpuIntent.bond.members.Perm (cpuIntent.nsNics.map (·.name.val)) ↔
      (∃ names : List String, MembersArg.other [.str "nsa", .bytes [110, 115, 98]] = .list (names.map .str)) ∨
        ((MembersArg.other [.str "nsa", .bytes [110, 115, 98]]).toList.map Member.coerce).Nodup := by
  have hbond : Bond.init "bond0" (.other [.str "nsa", .bytes [110, 115, 98]]) 9000 = .ok cpuFields.bond := by
    rfl
  have hi : HostIntent.init "SN-CPU-001" "k8s-cp-01.pod07.site03.internal" .cpu cpuFields.nsNics cpuFields.bond
      cpuFields.vlans [] [] = .ok cpuIntent := by
    apply HostIntent.init_eq_ok_iff.mpr
    exact ⟨rfl, rfl, rfl, rfl, rfl, rfl, rfl, rfl⟩
  exact members_perm_iff hbond hi

/-- A bond of `nsa` alone, listed twice. -/
def twiceNsaBond : Bond := { cpuFields.bond with members := ["nsa", "nsa"], membersLen := by decide }

def twiceNsaIntent : HostIntent := { cpuFields with bond := twiceNsaBond, valid := by decide }

/-- Given as a tuple, or in a `list` once as `bytes`, the duplicate passes, and `nsb` is not a member. -/
theorem twiceNsa_not_perm :
    Bond.init "bond0" (.other [.str "nsa", .str "nsa"]) 9000 = .ok twiceNsaBond ∧
      Bond.init "bond0" (.list [.str "nsa", .bytes [110, 115, 97]]) 9000 = .ok twiceNsaBond ∧
      HostIntent.init "SN-CPU-001" "k8s-cp-01.pod07.site03.internal" .cpu cpuFields.nsNics twiceNsaBond
        cpuFields.vlans [] [] = .ok twiceNsaIntent ∧
      ¬ twiceNsaIntent.bond.members.Perm (twiceNsaIntent.nsNics.map (·.name.val)) := by
  refine ⟨rfl, rfl, ?_, ?_⟩
  · apply HostIntent.init_eq_ok_iff.mpr
    exact ⟨rfl, rfl, rfl, rfl, rfl, rfl, rfl, rfl⟩
  · rw [HostIntent.members_perm_iff_nodup]
    decide

/-! ## MTUs along the tree -/

/-- An interface of the N-S part of a host. -/
inductive Node
  | nic (n : BondMember)
  | bond (b : Bond)
  | vlan (v : VlanChild)

def Node.mtu : Node → Nat
  | .nic n  => n.mtu.val
  | .bond b => b.mtu.val
  | .vlan v => v.mtu.val

/-- The references by name: the members of the bond, and the parents of the VLAN children. -/
inductive ParentOf (p : HostIntentFields) : Node → Node → Prop
  | member {nic : BondMember} (hnic : nic ∈ p.nsNics) (hmember : nic.name.val ∈ p.bond.members) :
      ParentOf p (.nic nic) (.bond p.bond)
  | child {vlan : VlanChild} (hvlan : vlan ∈ p.vlans) (hparent : vlan.parent = p.bond.name) :
      ParentOf p (.bond p.bond) (.vlan vlan)

/-- MTUs do not grow from parent to child. -/
def MtuMonotone (p : HostIntentFields) : Prop := ∀ parent child, ParentOf p parent child →
    child.mtu ≤ parent.mtu

/-- **The lower level is always monotone, the upper one exactly when no member NIC has a smaller
    MTU than the bond.** -/
theorem mtuMonotone_iff_members (i : HostIntent) : MtuMonotone i.toHostIntentFields ↔
    ∀ nic ∈ i.nsNics, nic.name.val ∈ i.bond.members → i.bond.mtu.val ≤ nic.mtu.val := by
  constructor
  · intro h nic hnic hmember
    exact h _ _ (.member hnic hmember)
  · intro h parent child hparent
    cases hparent with
    | member hnic hmember => exact h _ hnic hmember
    | child hvlan _ => exact i.satisfies.mtuMonotone _ hvlan

/-- The smallest MTU there is. -/
def smallestMtu : Mtu := ⟨minMtu, by decide⟩

/-- The `cpu` intent with the smallest MTU on `nsa`, below a bond of 9000. -/
def smallNicFields : HostIntentFields :=
  { cpuFields with
    nsNics := cpuFields.nsNics.map fun n => if n.name.val = "nsa" then { n with mtu := smallestMtu } else n }

def smallNicIntent : HostIntent := { smallNicFields with valid := by decide }

theorem smallNic_not_monotone : ¬ MtuMonotone smallNicIntent.toHostIntentFields := by
  intro h
  obtain ⟨nic, hnic, hmember, hmtu⟩ : ∃ nic ∈ smallNicIntent.nsNics,
      nic.name.val ∈ smallNicIntent.bond.members ∧ nic.mtu.val = 1500 := by decide
  have hle := h _ _ (.member hnic hmember)
  have hbond : smallNicIntent.bond.mtu.val = 9000 := rfl
  simp only [Node.mtu] at hle
  omega

end Models
end HostConfig
