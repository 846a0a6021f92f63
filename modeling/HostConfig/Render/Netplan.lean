import HostConfig.Lib.Outline
import HostConfig.Render.Embedded

/-!
# `Render.Netplan` — reading the stanzas of a rendered Netplan document

`readNetplan` reads the lines of a document back: it takes their outline and collects, per section, one
record for each stanza, values still opaque. It knows nothing of intents and works on both renderings of the
document, since the outline sees neither blank lines nor how far the whole is indented (`outline_embed`).

The second half computes the outline of what the templates emit, block by block: `documentForest` is the
document of a context with a given forest of Ethernet stanzas.
-/

namespace HostConfig
namespace Render

open Models Outline

/-! ## The outline of rendered lines -/

def outline (lines : List Line) : Forest Body :=
  parse ((nonblank lines).map (fun l => (l.indent, l.body)))

/-- The lines of a forest: the templates indent by two. -/
def layout (d : Nat) (f : Forest Body) : List Line := (flatten 2 d f).map (fun x => ⟨x.1, x.2⟩)

theorem layout_append (d : Nat) (f g : Forest Body) : layout d (f ++ g) = layout d f ++ layout d g := by
  rw [layout, flatten_append, List.map_append]; rfl

theorem layout_tree (d : Nat) (a : Body) (c : Forest Body) :
    layout d (.tree a c) = ⟨d, a⟩ :: layout (d + 2) c := by
  rw [layout, flatten_tree]; rfl

theorem layout_leaf (d : Nat) (a : Body) : layout d (.leaf a) = [⟨d, a⟩] := rfl

theorem layout_concat {β : Type} (d : Nat) (l : List β) (f : β → Forest Body) :
    layout d (.concat (l.map f)) = l.flatMap (fun b => layout d (f b)) := by
  rw [layout, flatten_concat, List.map_flatMap]; rfl

/-- Indenting a document by some columns lays it out deeper. -/
theorem map_shift_layout (d n : Nat) (f : Forest Body) :
    (layout d f).map (Line.shift n) = layout (d + n) f := by
  rw [layout, layout, ← map_flatten, List.map_map, List.map_map]; rfl

/-- The outline of a laid-out forest is the forest, -/
theorem parse_layout (d : Nat) (f : Forest Body) :
    parse ((layout d f).map (fun l => (l.indent, l.body))) = f := by
  rw [layout, List.map_map]
  exact (congrArg parse (List.map_id _)).trans (parse_flatten (by decide) d f)

/-- also with blank lines in between. -/
theorem outline_eq {lines : List Line} {d : Nat} {f : Forest Body} (h : nonblank lines = layout d f) :
    outline lines = f := by
  rw [outline, h, parse_layout]

/-- **A document and its embedded copy have the same outline.** -/
theorem outline_embed {doc : List Line} {d : Nat} {f : Forest Body} (h : nonblank doc = layout d f) :
    outline (embed doc) = f := by
  refine outline_eq (d := d + 6) ?_
  rw [nonblank_eq_self isBlank_of_mem_embed, embed, h, map_shift_layout]

/-! ## Reading stanzas -/

namespace Read

/-- The values of the lines `k: v` of a block. -/
def values (k : String) (f : Forest Body) : List Seg :=
  f.roots.filterMap fun t => match t.1 with
    | .field k' v => if k' = k then some v else none
    | _ => none

/-- The value of the only line `k: v` of a block. -/
def value (k : String) (f : Forest Body) : Option Seg :=
  match values k f with
  | [v] => some v
  | _   => none

/-- What stands under the lines `k:` of a block. -/
def block (k : String) (f : Forest Body) : Forest Body :=
  .concat (f.roots.filterMap fun t => if t.1 = .key (.lit k) then some t.2 else none)

/-- The values of the list items `- v` of a block. -/
def items (f : Forest Body) : List Seg :=
  f.roots.filterMap fun t => match t.1 with
    | .item v => some v
    | _ => none

/-- The stanzas of a section: every line `k:` with what stands under it. -/
def stanzas (f : Forest Body) : List (Seg × Forest Body) :=
  f.roots.filterMap fun t => match t.1 with
    | .key k => some (k, t.2)
    | _ => none

end Read

open Read

/-- A route of a stanza. -/
structure Route where
  dest : Seg
  via : Seg
deriving DecidableEq

/-- A stanza of `ethernets:`. -/
structure Ethernet where
  name : Seg
  macaddress : Seg
  setName : Seg
  mtu : Seg
  addresses : List Seg
  virtualFunctionCount : Option Seg
  routes : List Route
deriving DecidableEq

/-- A stanza of `bonds:`. -/
structure BondStanza where
  name : Seg
  interfaces : List Seg
  mtu : Seg
  mode : Seg
  lacpRate : Seg
  transmitHashPolicy : Seg
  routes : List Route
deriving DecidableEq

/-- A stanza of `vlans:`. -/
structure VlanStanza where
  name : Seg
  id : Seg
  link : Seg
  mtu : Seg
  addresses : List Seg
  routes : List Route
deriving DecidableEq

/-- A Netplan document. -/
structure Netplan where
  ethernets : List Ethernet
  bonds : List BondStanza
  vlans : List VlanStanza
deriving DecidableEq

/-- A route is a list item `- to: …` with a line `via: …` under it. -/
def readRoutes (f : Forest Body) : Option (List Route) :=
  (block "routes" f).roots.mapM fun t => match t.1 with
    | .itemField "to" dest => (value "via" t.2).map (⟨dest, ·⟩)
    | _ => none

def readEthernet (s : Seg × Forest Body) : Option Ethernet := do
  let macaddress ← value "macaddress" (block "match" s.2)
  let setName ← value "set-name" s.2
  let mtu ← value "mtu" s.2
  let routes ← readRoutes s.2
  return {
    name := s.1, macaddress, setName, mtu, addresses := items (block "addresses" s.2),
    virtualFunctionCount := value "virtual-function-count" s.2, routes }

def readBond (s : Seg × Forest Body) : Option BondStanza := do
  let mtu ← value "mtu" s.2
  let mode ← value "mode" (block "parameters" s.2)
  let lacpRate ← value "lacp-rate" (block "parameters" s.2)
  let transmitHashPolicy ← value "transmit-hash-policy" (block "parameters" s.2)
  let routes ← readRoutes s.2
  return {
    name := s.1, interfaces := items (block "interfaces" s.2), mtu, mode, lacpRate,
      transmitHashPolicy, routes }

def readVlan (s : Seg × Forest Body) : Option VlanStanza := do
  let id ← value "id" s.2
  let link ← value "link" s.2
  let mtu ← value "mtu" s.2
  let routes ← readRoutes s.2
  return { name := s.1, id, link, mtu, addresses := items (block "addresses" s.2), routes }

/-- **Reading a Netplan document.** -/
def readNetplan (lines : List Line) : Option Netplan := do
  let network := block "network" (outline lines)
  let ethernets ← (stanzas (block "ethernets" network)).mapM readEthernet
  let bonds ← (stanzas (block "bonds" network)).mapM readBond
  let vlans ← (stanzas (block "vlans" network)).mapM readVlan
  return { ethernets, bonds, vlans }

/-! ## The outline of what the templates emit -/

/-- A stanza of an N-S NIC; the underlays' stanzas have more at the end. -/
def nicTree (nic : PhysIface) (more : Forest Body) : Forest Body :=
  .tree (.key (.str nic.name.val))
    (.tree (.key (.lit "match")) (.leaf (.field "macaddress" (.str nic.mac.val))) ++
      .leaf (.field "set-name" (.str nic.name.val)) ++
      .leaf (.field "mtu" (.int nic.mtu.val)) ++ more)

def addressesTree (address : IPv4Interface) : Forest Body :=
  .tree (.key (.lit "addresses")) (.leaf (.item (.iface address)))

def nsNicTree (nic : BondMember) : Forest Body := nicTree nic.toPhysIface .nil

def roceTree (nic : RoceUnderlay) : Forest Body :=
  nicTree nic.toPhysIface
    (addressesTree nic.address ++ .leaf (.field "virtual-function-count" (.int nic.sriovVfs.val)))

def ibTree (nic : InfinibandUnderlay) : Forest Body := nicTree nic.toPhysIface (addressesTree nic.address)

def bondTree (bond : Bond) : Forest Body :=
  .tree (.key (.str bond.name.val))
    (.tree (.key (.lit "interfaces")) (.concat (bond.members.map fun m => .leaf (.item (.str m)))) ++
      .leaf (.field "mtu" (.int bond.mtu.val)) ++
      .tree (.key (.lit "parameters"))
        (.leaf (.field "mode" (.str bond.mode.value)) ++
          .leaf (.field "lacp-rate" (.str bond.lacpRate.value)) ++
          .leaf (.field "transmit-hash-policy" (.str bond.transmitHashPolicy.value))))

def routesForest : Option IPv4Address → Forest Body
  | none         => .nil
  | some gateway =>
      .tree (.key (.lit "routes"))
        (.tree (.itemField "to" (.lit "default")) (.leaf (.field "via" (.ip gateway))))

def searchForest : Option String → Forest Body
  | none              => .nil
  | some searchDomain => .tree (.key (.lit "search")) (.leaf (.item (.str searchDomain)))

def nameserversForest (dns : List IPv4Address) (searchDomain : Option String) : Forest Body :=
  if dns = [] then .nil
  else
    .tree (.key (.lit "nameservers"))
      (.tree (.key (.lit "addresses")) (.concat (dns.map fun ns => .leaf (.item (.ip ns)))) ++
        searchForest searchDomain)

def vlanTree (vlan : VlanChild) : Forest Body :=
  .tree (.key (.str vlan.name.val))
    (.leaf (.field "id" (.int vlan.vlanId.val)) ++ .leaf (.field "link" (.str vlan.parent.val)) ++
      .leaf (.field "mtu" (.int vlan.mtu.val)) ++ addressesTree vlan.address ++
      routesForest vlan.gateway ++ nameserversForest vlan.dns vlan.searchDomain)

/-- The Ethernet stanzas of a role's template. -/
def ethernetsForest (role : Role) (ctx : HostIntentFields) : Forest Body :=
  .concat (ctx.nsNics.map nsNicTree) ++
  match role with
  | .cpu               => .nil
  | .gpuB300 | .gpuB200 => .concat (ctx.roceUnderlays.map roceTree)
  | .gpuH200           => .concat (ctx.ibUnderlays.map ibTree)

def documentForest (role : Role) (ctx : HostIntentFields) : Forest Body :=
  .tree (.key (.lit "network"))
    (.leaf (.field "version" (.lit "2")) ++ .leaf (.field "renderer" (.lit "networkd")) ++
      .tree (.key (.lit "ethernets")) (ethernetsForest role ctx) ++
      .tree (.key (.lit "bonds")) (bondTree ctx.bond) ++
      .tree (.key (.lit "vlans")) (.concat (ctx.vlans.map vlanTree)))

/-! Block by block, the outline of the template's lines. -/

theorem layout_items {β : Type} (d : Nat) (l : List β) (v : β → Seg) :
    layout d (.concat (l.map fun b => .leaf (.item (v b)))) = l.map (fun b => ⟨d, .item (v b)⟩) := by
  rw [layout_concat, List.map_eq_flatMap]
  rfl

theorem layout_bondTree (bond : Bond) :
    layout 2 (.tree (.key (.lit "bonds")) (bondTree bond)) = nonblank (NetworkConfig.bonds bond) := by
  rw [NetworkConfig.bonds, nonblank_append, nonblank_append, nonblank_map _ _ fun _ => rfl]
  simp only [bondTree, layout_tree, layout_append, layout_leaf, layout_items, List.append_assoc]
  rfl

theorem layout_routesForest (gateway : Option IPv4Address) :
    layout 6 (routesForest gateway) = NetworkConfig.routes gateway := by
  cases gateway <;> rfl

theorem layout_searchForest (searchDomain : Option String) :
    layout 8 (searchForest searchDomain) = NetworkConfig.search searchDomain := by
  cases searchDomain <;> rfl

theorem layout_nameserversForest (dns : List IPv4Address) (searchDomain : Option String) :
    layout 6 (nameserversForest dns searchDomain) = NetworkConfig.nameservers dns searchDomain := by
  unfold nameserversForest NetworkConfig.nameservers
  split
  · rfl
  · simp only [layout_tree, layout_append, layout_items, Nat.reduceAdd, layout_searchForest]
    rfl

theorem layout_vlanTree (vlan : VlanChild) : layout 4 (vlanTree vlan) = NetworkConfig.vlan vlan := by
  simp only [vlanTree, layout_tree, layout_append, Nat.reduceAdd, layout_routesForest,
    layout_nameserversForest]
  rfl

theorem layout_ethernetsForest (role : Role) (ctx : HostIntentFields) :
    layout 4 (ethernetsForest role ctx) =
      ctx.nsNics.flatMap NetworkConfig.nsNic ++
      match role with
      | .cpu               => []
      | .gpuB300 | .gpuB200 => ctx.roceUnderlays.flatMap NetworkConfig.roceUnderlay
      | .gpuH200           => ctx.ibUnderlays.flatMap NetworkConfig.ibUnderlay := by
  cases role <;> simp only [ethernetsForest, layout_append, layout_concat] <;> rfl

theorem nonblank_nsNics (l : List BondMember) :
    nonblank (l.flatMap NetworkConfig.nsNic) = l.flatMap NetworkConfig.nsNic :=
  nonblank_flatMap l _

theorem nonblank_roceUnderlays (l : List RoceUnderlay) :
    nonblank (l.flatMap NetworkConfig.roceUnderlay) = l.flatMap NetworkConfig.roceUnderlay :=
  nonblank_flatMap l _

theorem nonblank_ibUnderlays (l : List InfinibandUnderlay) :
    nonblank (l.flatMap NetworkConfig.ibUnderlay) = l.flatMap NetworkConfig.ibUnderlay :=
  nonblank_flatMap l _

theorem nonblank_vlan (vlan : VlanChild) : nonblank (NetworkConfig.vlan vlan) = NetworkConfig.vlan vlan := by
  rw [NetworkConfig.vlan, nonblank_append, nonblank_append]
  congr 1
  · cases vlan.gateway <;> rfl
  · unfold NetworkConfig.nameservers
    split
    · rfl
    · rw [nonblank_append, nonblank_append, nonblank_map _ _ fun _ => rfl]
      cases vlan.searchDomain <;> rfl

/-- **The outline of `network-config`.** -/
theorem nonblank_networkConfig (role : Role) (ctx : HostIntentFields) :
    nonblank (template role .networkConfig ctx) = layout 0 (documentForest role ctx) := by
  have hvlans : nonblank (ctx.vlans.flatMap NetworkConfig.vlan) = ctx.vlans.flatMap NetworkConfig.vlan := by
    simp only [nonblank_flatMap, nonblank_vlan]
  cases role <;>
    simp only [template, Cpu.networkConfig, GpuB300.networkConfig, GpuB200.networkConfig, roceNetworkConfig,
      GpuH200.networkConfig, nonblank_append, nonblank_nsNics, nonblank_roceUnderlays,
        nonblank_ibUnderlays, hvlans,
      documentForest, layout_tree, layout_append, layout_concat, layout_vlanTree, layout_ethernetsForest,
      Nat.reduceAdd, ← layout_bondTree, List.append_assoc, List.cons_append, layout_leaf] <;> rfl

end Render
end HostConfig
