import HostConfig.Render.Netplan

/-!
# `Render.Stanzas` — what the rendered documents carry

Reading either rendering of the Netplan document of a valid intent gives one stanza per interface, with that
interface's own values and one default route, on the management VLAN. A role's
template has a loop for only one kind of underlay; that no underlay is dropped is a consequence of the role
counts, `Satisfies.roceCount` and `Satisfies.ibCount`.
-/

namespace HostConfig
namespace Render

open Models Outline Read

/-! ## The stanza of each part -/

def Ethernet.ofNsNic (nic : BondMember) : Ethernet where
  name := .str nic.name.val
  macaddress := .str nic.mac.val
  setName := .str nic.name.val
  mtu := .int nic.mtu.val
  addresses := []
  virtualFunctionCount := none
  routes := []

def Ethernet.ofRoce (nic : RoceUnderlay) : Ethernet where
  name := .str nic.name.val
  macaddress := .str nic.mac.val
  setName := .str nic.name.val
  mtu := .int nic.mtu.val
  addresses := [.iface nic.address]
  virtualFunctionCount := some (.int nic.sriovVfs.val)
  routes := []

def Ethernet.ofIb (nic : InfinibandUnderlay) : Ethernet where
  name := .str nic.name.val
  macaddress := .str nic.mac.val
  setName := .str nic.name.val
  mtu := .int nic.mtu.val
  addresses := [.iface nic.address]
  virtualFunctionCount := none
  routes := []

def BondStanza.ofBond (bond : Bond) : BondStanza where
  name := .str bond.name.val
  interfaces := bond.members.map Seg.str
  mtu := .int bond.mtu.val
  mode := .str bond.mode.value
  lacpRate := .str bond.lacpRate.value
  transmitHashPolicy := .str bond.transmitHashPolicy.value
  routes := []

/-- The default route through a gateway. -/
def Route.default (gateway : IPv4Address) : Route := ⟨.lit "default", .ip gateway⟩

def VlanStanza.ofVlan (vlan : VlanChild) : VlanStanza where
  name := .str vlan.name.val
  id := .int vlan.vlanId.val
  link := .str vlan.parent.val
  mtu := .int vlan.mtu.val
  addresses := [.iface vlan.address]
  routes := vlan.gateway.toList.map Route.default

/-! ## Reading what the templates emit -/

theorem stanzas_append (f g : Forest Body) : stanzas (f ++ g) = stanzas f ++ stanzas g := by
  rw [stanzas, Forest.roots_append, List.filterMap_append]; rfl

theorem stanzas_concat {β : Type} (l : List β) (key : β → Seg) (children : β → Forest Body) :
    stanzas (.concat (l.map fun b => .tree (.key (key b)) (children b))) = l.map fun b =>
      (key b, children b) := by
  induction l with
  | nil => rfl
  | cons b l ih =>
      rw [List.map_cons, Forest.concat_cons, stanzas_append, ih]; rfl

theorem items_concat {β : Type} (l : List β) (v : β → Seg) :
    items (.concat (l.map fun b => .leaf (.item (v b)))) = l.map v := by
  induction l with
  | nil => rfl
  | cons b l ih =>
      rw [List.map_cons, Forest.concat_cons, items, Forest.roots_append, List.filterMap_append,
        List.map_cons, ← ih]
      rfl

/-- Reading a list of stanzas that each read. -/
theorem mapM_map_eq_some {β γ δ : Type} {read : γ → Option δ} {mk : β → γ} {res : β → δ}
    (h : ∀ b, read (mk b) = some (res b)) (l : List β) : (l.map mk).mapM read = some (l.map res) := by
  induction l with
  | nil => rfl
  | cons b l ih => rw [List.map_cons, List.mapM_cons, h, ih]; rfl

theorem mapM_append_eq_some {γ δ : Type} {read : γ → Option δ} {l l' : List γ} {r r' : List δ}
    (h : l.mapM read = some r) (h' : l'.mapM read = some r') : (l ++ l').mapM read = some (r ++ r') := by
  rw [List.mapM_append, h, h']; rfl

theorem readNsNics (l : List BondMember) :
    (stanzas (.concat (l.map nsNicTree))).mapM readEthernet = some (l.map Ethernet.ofNsNic) := by
  refine (congrArg _ (stanzas_concat l _ _)).trans (mapM_map_eq_some ?_ l)
  intro nic
  rfl

theorem readRoceUnderlays (l : List RoceUnderlay) :
    (stanzas (.concat (l.map roceTree))).mapM readEthernet = some (l.map Ethernet.ofRoce) := by
  refine (congrArg _ (stanzas_concat l _ _)).trans (mapM_map_eq_some ?_ l)
  intro nic
  rfl

theorem readIbUnderlays (l : List InfinibandUnderlay) :
    (stanzas (.concat (l.map ibTree))).mapM readEthernet = some (l.map Ethernet.ofIb) := by
  refine (congrArg _ (stanzas_concat l _ _)).trans (mapM_map_eq_some ?_ l)
  intro nic
  rfl

theorem readBond_bondTree (bond : Bond) :
    (stanzas (bondTree bond)).mapM readBond = some [BondStanza.ofBond bond] := by
  have hinterfaces : items (.concat (bond.members.map fun m => .leaf (.item (.str m))) ++ .nil) =
      bond.members.map Seg.str := by
    rw [Forest.append_nil, items_concat]
  rw [BondStanza.ofBond, ← hinterfaces]
  rfl

theorem readVlans (l : List VlanChild) :
    (stanzas (.concat (l.map vlanTree))).mapM readVlan = some (l.map VlanStanza.ofVlan) := by
  refine (congrArg _ (stanzas_concat l _ _)).trans (mapM_map_eq_some ?_ l)
  rintro ⟨name, parent, vlanId, role, mtu, address, gateway, dns, searchDomain⟩
  cases gateway <;> cases dns <;> rfl

/-- The Ethernet stanzas a role's template emits. -/
def ethernets (role : Role) (ctx : HostIntentFields) : List Ethernet :=
  ctx.nsNics.map Ethernet.ofNsNic ++
  match role with
  | .cpu               => []
  | .gpuB300 | .gpuB200 => ctx.roceUnderlays.map Ethernet.ofRoce
  | .gpuH200           => ctx.ibUnderlays.map Ethernet.ofIb

theorem readEthernets (role : Role) (ctx : HostIntentFields) :
    (stanzas (ethernetsForest role ctx)).mapM readEthernet = some (ethernets role ctx) := by
  unfold ethernetsForest
  rw [stanzas_append]
  refine mapM_append_eq_some (readNsNics _) ?_
  cases role with
  | cpu => rfl
  | gpuB300 | gpuB200 => exact readRoceUnderlays _
  | gpuH200 => exact readIbUnderlays _

/-- **What a document of this outline reads as.** -/
theorem readNetplan_of_outline {lines : List Line} {role : Role} {ctx : HostIntentFields}
    (h : outline lines = documentForest role ctx) :
    readNetplan lines = some
      { ethernets := ethernets role ctx, bonds := [BondStanza.ofBond ctx.bond],
        vlans := ctx.vlans.map VlanStanza.ofVlan } := by
  have hethernets : block "ethernets" (block "network" (outline lines)) = ethernetsForest role ctx := by
    rw [h]; exact Forest.append_nil _
  have hbonds : block "bonds" (block "network" (outline lines)) = bondTree ctx.bond := by
    rw [h]; exact Forest.append_nil _
  have hvlans : block "vlans" (block "network" (outline lines)) = .concat (ctx.vlans.map vlanTree) := by
    rw [h]; exact Forest.append_nil _
  simp only [readNetplan, hethernets, hbonds, hvlans, readEthernets, readBond_bondTree, readVlans]
  rfl

/-- The two renderings of the Netplan document of an intent. -/
def netplanDocuments (i : HostIntent) : List (List Line) :=
  [renderLines i.toHostIntentFields .networkConfig, netplanBlock (renderLines i.toHostIntentFields .userData)]

theorem readNetplan_netplanDocuments (i : HostIntent) : ∀ lines ∈ netplanDocuments i,
    readNetplan lines = some
      { ethernets := ethernets i.role (canonicalize i.toHostIntentFields)
        bonds := [BondStanza.ofBond (canonicalize i.toHostIntentFields).bond]
        vlans := (canonicalize i.toHostIntentFields).vlans.map VlanStanza.ofVlan } := by
  have hdoc := nonblank_networkConfig i.role (canonicalize i.toHostIntentFields)
  intro lines hlines
  refine readNetplan_of_outline ?_
  rcases List.mem_pair.mp hlines with rfl | rfl
  · exact outline_eq hdoc
  · rw [renderLines, userData_eq,
      netplanBlock_embed (netplanPath_notMem_beforeNetplan _ _) (embed_networkConfig_head? _ _)]
    exact outline_embed hdoc

/-! ## The `rdma link add` entries of `runcmd` -/

/-- `rdma link add rxe_X type rxe netdev Y || true`, as the pair of `X` and `Y`. -/
def linkAdd : Body → Option (Seg × Seg)
  | .raw [.lit "rdma link add rxe_", x, .lit " type rxe netdev ", y, .lit " || true"] => some (x, y)
  | _ => none

def netplanApply : Line := ⟨2, .item (.lit "netplan apply")⟩

/-- The lines of `runcmd` after `- netplan apply`. -/
def afterApply (userData : List Line) : List Line :=
  ((userData.dropWhile (· ≠ runcmdKey)).dropWhile (· ≠ netplanApply)).tail

/-- The `rdma link add` commands of a list of `runcmd` entries, in order. -/
def entryLinkAdds (entries : Forest Body) : List (Seg × Seg) :=
  entries.roots.flatMap fun entry => match entry.1 with
    | .item _ => entry.2.roots.filterMap (fun command => linkAdd command.1)
    | _ => []

def linkAdds (userData : List Line) : List (Seg × Seg) := entryLinkAdds (outline (afterApply userData))

/-- The entry of one RoCE underlay. -/
def rdmaTree (nic : RoceUnderlay) : Forest Body :=
  .tree (.item (.lit ">-"))
    (.leaf (.raw [.lit "rdma link show rxe_", .str nic.name.val, .lit " > /dev/null 2>&1 ||"]) ++
      .leaf (.raw [.lit "rdma link add rxe_", .str nic.name.val, .lit " type rxe netdev ", .str nic.name.val,
        .lit " || true"]))

theorem entryLinkAdds_append (f g : Forest Body) :
    entryLinkAdds (f ++ g) = entryLinkAdds f ++ entryLinkAdds g := by
  rw [entryLinkAdds, Forest.roots_append, List.flatMap_append]; rfl

theorem entryLinkAdds_concat (l : List RoceUnderlay) :
    entryLinkAdds (.concat (l.map rdmaTree)) = l.map fun nic => (.str nic.name.val, .str nic.name.val) := by
  induction l with
  | nil => rfl
  | cons nic l ih =>
      rw [List.map_cons, Forest.concat_cons, entryLinkAdds_append, ih]; rfl

/-- Everything before `runcmd:` is passed over. -/
theorem afterApply_userData (role : Role) (ctx : HostIntentFields) :
    afterApply (template role .userData ctx) =
      ((runcmdKey :: runcmd role ctx).dropWhile (fun l => decide (l ≠ netplanApply))).tail := by
  have hbefore : ∀ l ∈ beforeNetplan role ctx ++ (UserData.netplanEntry ++
      (embed (template role .networkConfig ctx) ++ [.blank])), decide (l ≠ runcmdKey) = true := by
    intro l hl
    refine decide_eq_true fun heq => ?_
    subst heq
    simp only [List.mem_append] at hl
    rcases hl with hl | hl | hl | hl
    · cases role <;>
        simp [runcmdKey, beforeNetplan, writeFilesHead, otherEntries, UserData.identity,
          UserData.memlockEntry, UserData.infinibandEntry, text,
          Line.blank] at hl
    · revert hl; decide
    · obtain ⟨l', -, hl'⟩ := List.mem_map.mp hl
      have hindent : l'.indent + 6 = 0 := congrArg Line.indent hl'
      omega
    · revert hl; decide
  rw [userData_eq, afterApply]
  have hsplit : beforeNetplan role ctx ++ (UserData.netplanEntry ++
      (embed (template role .networkConfig ctx) ++ .blank :: runcmdKey :: runcmd role ctx)) =
      (beforeNetplan role ctx ++ (UserData.netplanEntry ++
        (embed (template role .networkConfig ctx) ++ [.blank]))) ++ runcmdKey :: runcmd role ctx := by
    simp only [List.append_assoc, List.cons_append, List.nil_append]
  rw [hsplit, List.dropWhile_append_of_pos hbefore]
  rfl

/-- The fixed lines between `- netplan apply` and the loop. -/
def afterApplyHead (role : String) : List Line :=
  ((roceRuncmdHead role).dropWhile (fun l => decide (l ≠ netplanApply))).tail

/-- The fixed lines read as entries without a `rdma link add`, and the loop as one entry per NIC. -/
theorem linkAdds_roce (role : Role) (hrole : role = .gpuB300 ∨ role = .gpuB200) (nics : List RoceUnderlay) :
    entryLinkAdds (outline (afterApplyHead role.value ++ (nics.flatMap rdmaLinkAdd ++ roceRuncmdTail))) =
      nics.map fun nic => (.str nic.name.val, .str nic.name.val) := by
  have hhead : nonblank (afterApplyHead role.value) = layout 2 (outline (afterApplyHead role.value)) := by
    rcases hrole with rfl | rfl <;> rfl
  have htail : nonblank roceRuncmdTail = layout 2 (outline roceRuncmdTail) := rfl
  have hloop : nonblank (nics.flatMap rdmaLinkAdd) = layout 2 (.concat (nics.map rdmaTree)) := by
    rw [nonblank_flatMap, layout_concat]; rfl
  have houtline : outline (afterApplyHead role.value ++ (nics.flatMap rdmaLinkAdd ++ roceRuncmdTail)) =
      outline (afterApplyHead role.value) ++ (.concat (nics.map rdmaTree) ++ outline roceRuncmdTail) := by
    refine outline_eq (d := 2) ?_
    rw [nonblank_append, nonblank_append, hhead, hloop, htail, ← layout_append, ← layout_append]
  have hnone : entryLinkAdds (outline (afterApplyHead role.value)) = [] := by
    rcases hrole with rfl | rfl <;> rfl
  have hnone' : entryLinkAdds (outline roceRuncmdTail) = [] := rfl
  rw [houtline, entryLinkAdds_append, entryLinkAdds_append, hnone, hnone', entryLinkAdds_concat,
    List.append_nil,
    List.nil_append]

/-- **One `rdma link add` per RoCE underlay the template is given**, and none for the other roles. -/
theorem linkAdds_userData (role : Role) (ctx : HostIntentFields) :
    linkAdds (template role .userData ctx) =
      match role with
      | .cpu | .gpuH200 => []
      | .gpuB300 | .gpuB200 => ctx.roceUnderlays.map fun nic => (.str nic.name.val, .str nic.name.val) := by
  rw [linkAdds, afterApply_userData]
  cases role with
  | cpu => rfl
  | gpuH200 => rfl
  | gpuB300 => exact linkAdds_roce .gpuB300 (.inl rfl) ctx.roceUnderlays
  | gpuB200 => exact linkAdds_roce .gpuB200 (.inr rfl) ctx.roceUnderlays

/-! ## Nothing is lost -/

/-- The template of a valid intent's role has a loop for every kind of NIC the intent has. -/
theorem ethernets_perm (i : HostIntent) :
    (ethernets i.role (canonicalize i.toHostIntentFields)).Perm
      (i.nsNics.map Ethernet.ofNsNic ++ i.roceUnderlays.map Ethernet.ofRoce ++
        i.ibUnderlays.map Ethernet.ofIb) := by
  rw [List.append_assoc]
  refine ((canonicalize_nsNics_perm i.toHostIntentFields).map Ethernet.ofNsNic).append ?_
  -- the counts of the role empty the lists its template does not loop over
  cases hrole : i.role with
  | cpu =>
      rw [HostIntent.roceUnderlays_eq_nil (by rw [hrole]; rfl),
        HostIntent.ibUnderlays_eq_nil (by rw [hrole]; rfl)]
      exact .refl _
  | gpuB300 | gpuB200 =>
      rw [HostIntent.ibUnderlays_eq_nil (by rw [hrole]; rfl), List.map_nil, List.append_nil]
      exact (canonicalize_roceUnderlays_perm _).map _
  | gpuH200 =>
      rw [HostIntent.roceUnderlays_eq_nil (by rw [hrole]; rfl), List.map_nil, List.nil_append]
      exact (canonicalize_ibUnderlays_perm _).map _

/-- The `rdma link add` commands are those of the RoCE underlays, which the other roles do not have. -/
theorem linkAdds_perm (i : HostIntent) :
    (linkAdds (renderLines i.toHostIntentFields .userData)).Perm
      (i.roceUnderlays.map fun nic => (.str nic.name.val, .str nic.name.val)) := by
  rw [renderLines, linkAdds_userData]
  cases hrole : i.role with
  | cpu | gpuH200 => rw [HostIntent.roceUnderlays_eq_nil (by rw [hrole]; rfl)]; exact .refl _
  | gpuB300 | gpuB200 => exact (canonicalize_roceUnderlays_perm _).map _

/-- **The templates lose and duplicate nothing.** Both renderings of the Netplan document of a valid intent
    have, up to order, one Ethernet stanza per NIC with that NIC's own values, one bond stanza with exactly
    the bond's members, and one VLAN stanza per VLAN; and `runcmd` adds one rxe device per RoCE underlay. -/
theorem lossless (i : HostIntent) :
    (∀ lines ∈ netplanDocuments i, ∃ doc, readNetplan lines = some doc ∧
      doc.ethernets.Perm (i.nsNics.map Ethernet.ofNsNic ++ i.roceUnderlays.map Ethernet.ofRoce ++
        i.ibUnderlays.map Ethernet.ofIb) ∧
      (∃ bond, doc.bonds = [bond] ∧ bond.name = .str i.bond.name.val ∧
        bond.interfaces.Perm (i.bond.members.map Seg.str)) ∧
      doc.vlans.Perm (i.vlans.map VlanStanza.ofVlan)) ∧
    (linkAdds (renderLines i.toHostIntentFields .userData)).Perm
      (i.roceUnderlays.map fun nic => (.str nic.name.val, .str nic.name.val)) := by
  refine ⟨fun lines hlines => ?_, linkAdds_perm i⟩
  refine ⟨_, readNetplan_netplanDocuments i lines hlines, ethernets_perm i, ⟨_, rfl, rfl, ?_⟩, ?_⟩
  · exact (canonicalize_members_perm i.toHostIntentFields).map _
  · exact (canonicalize_vlans_perm i.toHostIntentFields).map _

/-! ## The default route -/

/-- The default routes of a document, wherever they stand. -/
def defaultRouteCount (lines : List Line) : Nat :=
  lines.countP (fun l => l.body = .itemField "to" (.lit "default"))

theorem defaultRouteCount_append (l l' : List Line) :
    defaultRouteCount (l ++ l') = defaultRouteCount l + defaultRouteCount l' := List.countP_append

/-- Neither blank lines nor indentation matter to the count. -/
theorem defaultRouteCount_embed (doc : List Line) :
    defaultRouteCount (embed doc) = defaultRouteCount doc := by
  rw [defaultRouteCount, embed, List.countP_map, nonblank, List.countP_filter, defaultRouteCount]
  refine List.countP_congr fun l _ => ?_
  cases hb : l.body <;> simp [Line.shift, Line.isBlank, hb]

theorem defaultRouteCount_eq_zero {α : Type} {l : List α} {f : α → List Line}
    (h : ∀ a, defaultRouteCount (f a) = 0) : defaultRouteCount (l.flatMap f) = 0 := by
  induction l with
  | nil => rfl
  | cons a l ih => rw [List.flatMap_cons, defaultRouteCount_append, h, ih]

theorem defaultRouteCount_bonds (bond : Bond) : defaultRouteCount (NetworkConfig.bonds bond) = 0 := by
  rw [NetworkConfig.bonds, defaultRouteCount_append, defaultRouteCount_append, List.map_eq_flatMap,
    defaultRouteCount_eq_zero fun _ => rfl]
  rfl

theorem defaultRouteCount_vlan (vlan : VlanChild) :
    defaultRouteCount (NetworkConfig.vlan vlan) = if vlan.gateway.isSome then 1 else 0 := by
  have hnameservers : defaultRouteCount (NetworkConfig.nameservers vlan.dns vlan.searchDomain) = 0 := by
    unfold NetworkConfig.nameservers
    split
    · rfl
    · rw [defaultRouteCount_append, defaultRouteCount_append, List.map_eq_flatMap,
        defaultRouteCount_eq_zero fun _ => rfl]
      cases vlan.searchDomain <;> rfl
  rw [NetworkConfig.vlan, defaultRouteCount_append, defaultRouteCount_append, hnameservers]
  cases vlan.gateway <;> rfl

theorem defaultRouteCount_vlans (vlans : List VlanChild) :
    defaultRouteCount (vlans.flatMap NetworkConfig.vlan) = (vlans.filter (·.gateway.isSome)).length := by
  induction vlans with
  | nil => rfl
  | cons v vs ih =>
      rw [List.flatMap_cons, defaultRouteCount_append, defaultRouteCount_vlan, ih, List.filter_cons]
      split <;> simp [Nat.add_comm]

/-- A document has as many default routes as the intent has VLANs with a gateway. -/
theorem defaultRouteCount_networkConfig (role : Role) (ctx : HostIntentFields) :
    defaultRouteCount (template role .networkConfig ctx) = (ctx.vlans.filter (·.gateway.isSome)).length := by
  have hns : defaultRouteCount (ctx.nsNics.flatMap NetworkConfig.nsNic) = 0 :=
    defaultRouteCount_eq_zero fun _ => rfl
  have hroce : defaultRouteCount (ctx.roceUnderlays.flatMap NetworkConfig.roceUnderlay) = 0 :=
    defaultRouteCount_eq_zero fun _ => rfl
  have hib : defaultRouteCount (ctx.ibUnderlays.flatMap NetworkConfig.ibUnderlay) = 0 :=
    defaultRouteCount_eq_zero fun _ => rfl
  have hfixed : defaultRouteCount NetworkConfig.header = 0 ∧
      defaultRouteCount NetworkConfig.vlansHeader = 0 :=
    ⟨rfl, rfl⟩
  cases role <;>
    simp only [template, Cpu.networkConfig, GpuB300.networkConfig, GpuB200.networkConfig, roceNetworkConfig,
      GpuH200.networkConfig, defaultRouteCount_append, hns, hroce, hib, hfixed, defaultRouteCount_bonds,
      defaultRouteCount_vlans, Nat.zero_add, Nat.add_zero]

theorem defaultRouteCount_netplanDocuments (i : HostIntent) :
    ∀ lines ∈ netplanDocuments i, defaultRouteCount lines = 1 := by
  have hcount : defaultRouteCount (renderLines i.toHostIntentFields .networkConfig) = 1 := by
    rw [renderLines, defaultRouteCount_networkConfig,
      ((canonicalize_vlans_perm i.toHostIntentFields).filter _).length_eq]
    exact i.satisfies.gatewayCount
  intro lines hlines
  rcases List.mem_pair.mp hlines with rfl | rfl
  · exact hcount
  · rw [renderLines, userData_eq,
      netplanBlock_embed (netplanPath_notMem_beforeNetplan _ _) (embed_networkConfig_head? _ _),
      defaultRouteCount_embed]
    exact hcount

/-- The only route of the document is the default route through `gateway`, in the VLAN
    stanza called `name`. -/
structure OnlyDefaultRoute (doc : Netplan) (name : Seg) (gateway : IPv4Address) : Prop where
  ethernets : ∀ s ∈ doc.ethernets, s.routes = []
  bonds : ∀ s ∈ doc.bonds, s.routes = []
  vlan : ∃ s ∈ doc.vlans, s.name = name ∧ s.routes = [Route.default gateway] ∧
    ∀ s' ∈ doc.vlans, s' ≠ s → s'.name ≠ name ∧ s'.routes = []

/-- No Ethernet stanza carries a route, whatever the NIC. -/
theorem routes_of_mem_ethernets {role : Role} {ctx : HostIntentFields} :
    ∀ s ∈ ethernets role ctx, s.routes = [] := by
  intro s hs
  rcases List.mem_append.mp hs with hs | hs
  · obtain ⟨nic, -, rfl⟩ := List.mem_map.mp hs
    rfl
  · cases role with
    | cpu => exact absurd hs List.not_mem_nil
    | gpuB300 | gpuB200 | gpuH200 =>
        obtain ⟨nic, -, rfl⟩ := List.mem_map.mp hs
        rfl

/-- The VLANs of a valid intent are told apart by name. -/
theorem vlan_eq_of_name (i : HostIntent) {u v : VlanChild} (hu : u ∈ i.vlans) (hv : v ∈ i.vlans)
    (h : u.name.val = v.name.val) : u = v :=
  List.inj_on_of_nodup_map (List.Nodup.of_append_right i.satisfies.uniqueNames) hu hv h

/-- A valid intent has one management VLAN, and it has the gateway. -/
theorem exists_mgmt (i : HostIntent) :
    ∃ v ∈ i.vlans, v.role = .mgmt ∧ (∀ u ∈ i.vlans, u.role = .mgmt → u = v) ∧ ∃ g, v.gateway = some g := by
  obtain ⟨v, hv⟩ := List.length_eq_one_iff.mp (i.satisfies.vlanRoles .mgmt)
  have hmem : ∀ u, u ∈ i.vlans ∧ u.role = .mgmt ↔ u = v := fun u => by
    rw [← List.mem_singleton (a := u) (b := v), ← hv, List.mem_filter, decide_eq_true_iff]
  have hv' := (hmem v).mpr rfl
  exact ⟨v, hv'.1, hv'.2, fun u hu hr => (hmem u).mp ⟨hu, hr⟩,
    Option.isSome_iff_exists.mp ((i.satisfies.gateway_iff v hv'.1).mpr hv'.2)⟩

/-- **One default route, on the management VLAN.** In both renderings of the Netplan document of a valid
    intent there is exactly one default route; it stands in the stanza of the only VLAN whose role is mgmt,
    via that VLAN's gateway, and no other stanza carries a route. -/
theorem unique_default_route (i : HostIntent) :
    ∃ v ∈ i.vlans, v.role = .mgmt ∧ (∀ u ∈ i.vlans, u.role = .mgmt → u = v) ∧
      ∃ gateway, v.gateway = some gateway ∧
        ∀ lines ∈ netplanDocuments i, defaultRouteCount lines = 1 ∧
          ∃ doc, readNetplan lines = some doc ∧ OnlyDefaultRoute doc (.str v.name.val) gateway := by
  obtain ⟨v, hv, hrole, hunique, gateway, hgateway⟩ := exists_mgmt i
  refine ⟨v, hv, hrole, hunique, gateway, hgateway, fun lines hlines => ?_⟩
  refine ⟨defaultRouteCount_netplanDocuments i lines hlines, _,
    readNetplan_netplanDocuments i lines hlines, ?_⟩
  refine ⟨routes_of_mem_ethernets, fun s hs => ?_, VlanStanza.ofVlan v, ?_, rfl, ?_, fun s hs hne => ?_⟩
  · rw [List.mem_singleton.mp hs]; rfl
  · exact List.mem_map_of_mem ((canonicalize_vlans_perm _).mem_iff.mpr hv)
  · rw [VlanStanza.ofVlan, hgateway]; rfl
  · obtain ⟨u, hu, rfl⟩ := List.mem_map.mp hs
    have hu' : u ∈ i.vlans := (canonicalize_vlans_perm _).mem_iff.mp hu
    have huv : u ≠ v := fun h => hne (h ▸ rfl)
    refine ⟨fun hname => huv (vlan_eq_of_name i hu' hv ?_), ?_⟩
    · simpa [VlanStanza.ofVlan] using hname
    · have hnone := i.satisfies.gatewayRole u hu' fun hr => huv (hunique u hu' hr)
      rw [VlanStanza.ofVlan, hnone]; rfl

end Render
end HostConfig
