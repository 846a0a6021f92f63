import HostConfig.Models.Interface

/-!
# `Models.Vlan` — VLAN sub-interfaces

Three VLANs sit on every host's bond, one for each traffic class. `VlanChild` is field-valid by
construction; that its parent exists and that its role, gateway and MTU fit the other VLANs is not its
business but that of the cross-field rules in `Models.Validators`.
-/

namespace HostConfig
namespace Models

/-- The traffic classes carried over the N-S bond. -/
inductive VlanRole
  | mgmt | storage | ingress
deriving DecidableEq

def VlanRole.value : VlanRole → String
  | .mgmt    => "mgmt"
  | .storage => "storage"
  | .ingress => "ingress"

/-- The members of the enum, in declaration order. -/
def VlanRole.all : List VlanRole := [.mgmt, .storage, .ingress]

/-- `VlanRole(value)` -/
def VlanRole.ofValue (value : String) : Option VlanRole := VlanRole.all.find? (fun r => r.value = value)

/-- A VLAN sub-interface on top of a bond. -/
structure VlanChild where
  name : IfName
  parent : IfName
  vlanId : VlanId
  role : VlanRole
  mtu : Mtu
  address : IPv4Interface
  gateway : Option IPv4Address := none
  dns : List IPv4Address := []
  searchDomain : Option String := none
deriving DecidableEq

def VlanChild.init (name parent : String) (vlanId : Int) (role : VlanRole) (mtu : Int)
    (address : IPv4Interface) (gateway : Option IPv4Address) : Except PyExc VlanChild :=
  match BoundedStr.validate 1 15 name, BoundedStr.validate 1 15 parent,
      BoundedInt.validate minVlanId maxVlanId vlanId, BoundedInt.validate minMtu maxMtu mtu with
  | some name, some parent, some vlanId, some mtu =>
      .ok { name, parent, vlanId, role, mtu, address, gateway }
  | n, p, v, t => .error (invalid "VlanChild"
      [("name", n.isSome), ("parent", p.isSome), ("vlan_id", v.isSome), ("mtu", t.isSome)])

theorem VlanChild.of_init {name parent : String} {vlanId : Int} {role : VlanRole} {mtu : Int}
    {address : IPv4Interface} {gateway : Option IPv4Address} {vlan : VlanChild}
    (h : VlanChild.init name parent vlanId role mtu address gateway = .ok vlan) :
    vlan.name.val = name ∧ vlan.parent.val = parent ∧ (vlan.vlanId.val : Int) = vlanId ∧ vlan.role = role ∧
      (vlan.mtu.val : Int) = mtu ∧ vlan.address = address ∧ vlan.gateway = gateway := by
  unfold VlanChild.init at h
  split at h
  · rename_i hname hparent hid hmtu
    obtain rfl := Except.ok.inj h
    exact ⟨BoundedStr.val_of_validate hname, BoundedStr.val_of_validate hparent,
      BoundedInt.val_of_validate hid, rfl,
      BoundedInt.val_of_validate hmtu, rfl, rfl⟩
  · cases h

/-- The constructor's caller names no resolver. -/
theorem VlanChild.resolvers_of_init {name parent : String} {vlanId : Int} {role : VlanRole} {mtu : Int}
    {address : IPv4Interface} {gateway : Option IPv4Address} {vlan : VlanChild}
    (h : VlanChild.init name parent vlanId role mtu address gateway = .ok vlan) :
    vlan.dns = [] ∧ vlan.searchDomain = none := by
  unfold VlanChild.init at h
  split at h
  · obtain rfl := Except.ok.inj h
    exact ⟨rfl, rfl⟩
  · cases h

end Models
end HostConfig
