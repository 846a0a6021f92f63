import HostConfig.Lib.Checks
import HostConfig.Lib.Counter
import HostConfig.Lib.StableSort
import HostConfig.Models.Vlan

/-!
# `Models.Validators` — the cross-field rules of a host intent

One definition per validator, each an `Except InvariantError Unit` as the source computes it (counters,
name sets, a scan with a dictionary of what was seen, a maximum), and beside each its **specification**: a
`Checks.Decides` fact saying under which order-free condition it succeeds and which invariant id it
raises. Callers use the specifications and never unfold a validator.
-/

namespace HostConfig
namespace Models

open Checks

/-- The specifications are about the stable id of the error, not its wording. -/
abbrev Decides := Checks.Decides InvariantError.invariant

def expectedNsNicCount : Nat := 2

/-- `_ROCE_COUNT_BY_ROLE` -/
def roceCountByRole : List (String × Nat) :=
  [("cpu", 0), ("gpu-b300", 8), ("gpu-b200", 8), ("gpu-h200", 0)]

/-- `_IB_COUNT_BY_ROLE` -/
def ibCountByRole : List (String × Nat) :=
  [("cpu", 0), ("gpu-b300", 0), ("gpu-b200", 0), ("gpu-h200", 8)]

/-! ## Structure and references -/

/-- Exactly two N-S NICs. -/
def checkNsNicCount (nsNics : List BondMember) : Except InvariantError Unit :=
  if nsNics.length ≠ expectedNsNicCount then
    .error ⟨"ns-nic-count", .nsNicCount nsNics.length⟩
  else .ok ()

/-- Rule `ns-nic-count`. -/
theorem checkNsNicCount_decides (nsNics : List BondMember) :
    Decides (checkNsNicCount nsNics) ("ns-nic-count", nsNics.length = 2) :=
  (Decides.of_ite rfl).congr not_not

/-- Every name in `bond.members` corresponds to a real `nsNics` entry. -/
def checkBondReferencesNsNics (bond : Bond) (nsNics : List BondMember) : Except InvariantError Unit :=
  let nicNames := nsNics.map (·.name.val)
  let unknown := bond.members.filter (fun m => m ∉ nicNames)
  if unknown ≠ [] then
    .error ⟨"bond-member-unknown",
      .bondMemberUnknown bond.name.val unknown (StableSort.sortedBy (· ≤ ·) id nicNames.dedup)⟩
  else .ok ()

/-- Rule `bond-member-unknown`: the set difference is empty exactly if every member is a name. -/
theorem checkBondReferencesNsNics_decides (bond : Bond) (nsNics : List BondMember) :
    Decides (checkBondReferencesNsNics bond nsNics)
      ("bond-member-unknown", ∀ m ∈ bond.members, m ∈ nsNics.map (·.name.val)) := by
  refine (Decides.of_ite rfl).congr ?_
  rw [not_not, List.filter_eq_nil_iff]
  simp

/-- The VLAN children cover exactly mgmt, storage and ingress, each once. -/
def checkVlanRolesComplete (vlans : List VlanChild) : Except InvariantError Unit :=
  let roles := Counter.ofList (vlans.map (·.role))
  let expected := Counter.ofList [VlanRole.mgmt, .storage, .ingress]
  if Counter.eqv roles expected = false then
    .error ⟨"vlan-roles-incomplete", .vlanRolesIncomplete (roles.map (fun e => (e.1.value, e.2)))⟩
  else .ok ()

/-- The number of VLANs playing `role`. -/
def roleCount (vlans : List VlanChild) (role : VlanRole) : Nat :=
  (vlans.filter (fun v => v.role = role)).length

/-- The dictionary of counts, as a count in the list of the roles. -/
theorem roleCount_eq_count (vlans : List VlanChild) (role : VlanRole) :
    roleCount vlans role = (vlans.map (·.role)).count role := by
  unfold roleCount
  rw [← List.countP_eq_length_filter, List.count, List.countP_map]
  exact List.countP_congr (by simp)

/-- Rule `vlan-roles-incomplete`: no role is missing and none is doubled, so each is there once. -/
theorem checkVlanRolesComplete_decides (vlans : List VlanChild) :
    Decides (checkVlanRolesComplete vlans)
      ("vlan-roles-incomplete", ∀ role, roleCount vlans role = 1) := by
  refine (Decides.of_ite rfl).congr ?_
  rw [Bool.not_eq_false, Counter.eqv_ofList, List.perm_iff_count]
  refine forall_congr' (fun role => ?_)
  rw [roleCount_eq_count]
  cases role <;> simp

/-- Every VLAN's `parent` equals the bond's name. -/
def checkVlanParents (vlans : List VlanChild) (bond : Bond) : Except InvariantError Unit :=
  let bad := (vlans.filter (fun v => v.parent ≠ bond.name)).map (fun v => (v.name.val, v.parent.val))
  if bad ≠ [] then .error ⟨"vlan-parent-mismatch", .vlanParentMismatch bond.name.val bad⟩
  else .ok ()

/-- Rule `vlan-parent-mismatch`. -/
theorem checkVlanParents_decides (vlans : List VlanChild) (bond : Bond) :
    Decides (checkVlanParents vlans bond)
      ("vlan-parent-mismatch", ∀ v ∈ vlans, v.parent = bond.name) := by
  refine (Decides.of_ite rfl).congr ?_
  rw [not_not, List.map_eq_nil_iff, List.filter_eq_nil_iff]
  simp

/-! ## The default gateway -/

/-- Exactly one VLAN carries the default gateway. -/
def checkExactlyOneDefaultGateway (vlans : List VlanChild) : Except InvariantError Unit :=
  let withGw := (vlans.filter (·.gateway.isSome)).map (·.name.val)
  if withGw.length ≠ 1 then .error ⟨"default-gateway-count", .defaultGatewayCount withGw⟩
  else .ok ()

/-- Rule `default-gateway-count`. -/
theorem checkExactlyOneDefaultGateway_decides (vlans : List VlanChild) :
    Decides (checkExactlyOneDefaultGateway vlans)
      ("default-gateway-count", (vlans.filter (·.gateway.isSome)).length = 1) := by
  refine (Decides.of_ite rfl).congr ?_
  rw [not_not, List.length_map]

/-- The VLAN with the default gateway is the mgmt VLAN: a scan that raises at the first other one. -/
def checkDefaultGatewayOnMgmt : List VlanChild → Except InvariantError Unit
  | []      => .ok ()
  | v :: vs =>
      if v.gateway.isSome ∧ v.role ≠ .mgmt then
        .error ⟨"default-gateway-role", .defaultGatewayRole v.name.val v.role.value⟩
      else checkDefaultGatewayOnMgmt vs

/-- Rule `default-gateway-role`. -/
theorem checkDefaultGatewayOnMgmt_decides (vlans : List VlanChild) :
    Decides (checkDefaultGatewayOnMgmt vlans)
      ("default-gateway-role", ∀ v ∈ vlans, v.role ≠ .mgmt → v.gateway = none) := by
  induction vlans with
  | nil => exact ⟨by simp [checkDefaultGatewayOnMgmt], by simp [checkDefaultGatewayOnMgmt]⟩
  | cons v vs ih =>
      by_cases h : v.gateway.isSome ∧ v.role ≠ .mgmt
      · rw [checkDefaultGatewayOnMgmt, if_pos h]
        refine ⟨⟨fun h' => absurd h' (by simp), fun h' => ?_⟩, fun e he => ?_⟩
        · have hnone : v.gateway = none := h' v List.mem_cons_self h.2
          rw [hnone] at h
          exact absurd h.1 (by simp)
        · injection he with he; rw [← he]
      · rw [checkDefaultGatewayOnMgmt, if_neg h]
        refine ih.congr ?_
        rw [List.forall_mem_cons]
        refine ⟨fun h' => ⟨fun hv => ?_, h'⟩, fun h' => h'.2⟩
        exact Option.not_isSome_iff_eq_none.mp (fun hs => h ⟨hs, hv⟩)

/-! ## MTUs and counts -/

/-- The bond's MTU is at least the maximum MTU of its VLAN children. -/
def checkMtuMonotone (bond : Bond) : List VlanChild → Except InvariantError Unit
  | []      => .ok ()
  | v :: vs =>
      let maxChild := vs.foldl (fun m v => max m v.mtu.val) v.mtu.val
      if bond.mtu.val < maxChild then .error ⟨"mtu-non-monotone", .mtuNonMonotone bond.mtu.val maxChild⟩
      else .ok ()

/-- The largest MTU is below a bound exactly if all are. -/
theorem foldl_max_le {vs : List VlanChild} {m b : Nat} :
    vs.foldl (fun m v => max m v.mtu.val) m ≤ b ↔ m ≤ b ∧ ∀ v ∈ vs, v.mtu.val ≤ b := by
  induction vs generalizing m with
  | nil => simp
  | cons v vs ih => rw [List.foldl_cons, ih, List.forall_mem_cons, max_le_iff, and_assoc]

/-- Rule `mtu-non-monotone`: the comparison of the largest MTU is one of each MTU. -/
theorem checkMtuMonotone_decides (bond : Bond) (vlans : List VlanChild) :
    Decides (checkMtuMonotone bond vlans)
      ("mtu-non-monotone", ∀ v ∈ vlans, v.mtu.val ≤ bond.mtu.val) := by
  cases vlans with
  | nil => exact ⟨by simp [checkMtuMonotone], by simp [checkMtuMonotone]⟩
  | cons v vs =>
      refine (Decides.of_ite rfl).congr ?_
      rw [Nat.not_lt, foldl_max_le, List.forall_mem_cons]

/-- The RoCE underlay count matches the host role; an unlisted role counts 0. -/
def checkRoceCountForRole (role : String) (roce : List RoceUnderlay) : Except InvariantError Unit :=
  let expected := (roceCountByRole.lookup role).getD 0
  if roce.length ≠ expected then .error ⟨"roce-count-" ++ role, .roceCount role expected roce.length⟩
  else .ok ()

/-- Rule `roce-count-<role>`; a role without an entry has none. -/
theorem checkRoceCountForRole_decides (role : String) (roce : List RoceUnderlay) :
    Decides (checkRoceCountForRole role roce)
      ("roce-count-" ++ role, roce.length = (roceCountByRole.lookup role).getD 0) :=
  (Decides.of_ite rfl).congr not_not

/-- The InfiniBand underlay count matches the host role; an unlisted role counts 0. -/
def checkIbCountForRole (role : String) (ib : List InfinibandUnderlay) : Except InvariantError Unit :=
  let expected := (ibCountByRole.lookup role).getD 0
  if ib.length ≠ expected then .error ⟨"ib-count-" ++ role, .ibCount role expected ib.length⟩
  else .ok ()

/-- Rule `ib-count-<role>`, likewise. -/
theorem checkIbCountForRole_decides (role : String) (ib : List InfinibandUnderlay) :
    Decides (checkIbCountForRole role ib)
      ("ib-count-" ++ role, ib.length = (ibCountByRole.lookup role).getD 0) :=
  (Decides.of_ite rfl).congr not_not

/-! ## Collisions -/

/-- The scan of `check_unique_ips`: `seen` maps each address text to the interface that carries it. -/
def scanIps (seen : List (String × String)) : List (String × String) → Except InvariantError Unit
  | []                 => .ok ()
  | (ip, name) :: rest =>
      match seen.lookup ip with
      | some first => .error ⟨"duplicate-ip", .duplicateIp ip first name⟩
      | none       => scanIps ((ip, name) :: seen) rest

/-- The scan stops at the first address already seen: it passes if none repeats and none was there
    before. -/
theorem scanIps_decides (seen addressed : List (String × String)) :
    Decides (scanIps seen addressed)
      ("duplicate-ip", (addressed.map (·.1)).Nodup ∧ ∀ a ∈ addressed, seen.lookup a.1 = none) := by
  induction addressed generalizing seen with
  | nil => exact ⟨by simp [scanIps], by simp [scanIps]⟩
  | cons a rest ih =>
      obtain ⟨ip, name⟩ := a
      cases hs : seen.lookup ip with
      | some first =>
          refine ⟨⟨fun h => ?_, fun h => ?_⟩, fun e he => ?_⟩
          · simp [scanIps, hs] at h
          · exact absurd (h.2 _ List.mem_cons_self) (by simp [hs])
          · simp only [scanIps, hs] at he
            injection he with he; rw [← he]
      | none =>
          have hstep : scanIps seen ((ip, name) :: rest) = scanIps ((ip, name) :: seen) rest := by
            simp [scanIps, hs]
          rw [hstep]
          refine (ih ((ip, name) :: seen)).congr ?_
          -- a later entry is unseen when the dictionary lacks it and it is not `ip` itself
          have hlookup : ∀ b : String × String, ((ip, name) :: seen).lookup b.1 = none ↔
              b.1 ≠ ip ∧ seen.lookup b.1 = none := by
            intro b
            by_cases hb : b.1 = ip
            · simp [hb]
            · rw [List.lookup_cons, beq_eq_false_iff_ne.mpr hb]
              exact ⟨fun h => ⟨hb, h⟩, fun h => h.2⟩
          simp only [hlookup, List.map_cons, List.nodup_cons, List.forall_mem_cons, List.mem_map]
          constructor
          · rintro ⟨hnd, hall⟩
            exact ⟨⟨fun ⟨b, hb, hbip⟩ => (hall b hb).1 hbip, hnd⟩, hs, fun b hb => (hall b hb).2⟩
          · rintro ⟨⟨hip, hnd⟩, _, hall⟩
            exact ⟨hnd, fun b hb => ⟨fun hbip => hip ⟨b, hb, hbip⟩, hall b hb⟩⟩

/-- The addressed interfaces of a host, in the order the scan meets them. -/
def addressed (vlans : List VlanChild) (roce : List RoceUnderlay) (ib : List InfinibandUnderlay) :
    List (IPv4Address × String) :=
  vlans.map (fun v => (v.address.ip, v.name.val)) ++ roce.map (fun r => (r.address.ip, r.name.val)) ++
    ib.map (fun i => (i.address.ip, i.name.val))

/-- No two interfaces on the host share an IP address. -/
def checkUniqueIps (vlans : List VlanChild) (roce : List RoceUnderlay) (ib : List InfinibandUnderlay) :
    Except InvariantError Unit :=
  scanIps [] ((addressed vlans roce ib).map (fun a => (a.1.str, a.2)))

/-- Rule `duplicate-ip`, over the VLANs and both kinds of underlays. -/
theorem checkUniqueIps_decides (vlans : List VlanChild) (roce : List RoceUnderlay)
    (ib : List InfinibandUnderlay) :
    Decides (checkUniqueIps vlans roce ib)
      ("duplicate-ip", ((addressed vlans roce ib).map (·.1)).Nodup) := by
  refine (scanIps_decides [] _).congr ?_
  simp only [List.lookup_nil, implies_true, and_true, List.map_map]
  rw [show (Prod.fst ∘ fun a : IPv4Address × String => (a.1.str, a.2)) = IPv4Address.str ∘ Prod.fst from rfl,
    ← List.map_map]
  exact List.nodup_map_iff (fun _ _ h => IPv4Address.str_inj.mp h)

/-- The interface names of a host, in the order they are counted. -/
def ifaceNames (nsNics : List BondMember) (roce : List RoceUnderlay) (vlans : List VlanChild)
    (ib : List InfinibandUnderlay) : List String :=
  nsNics.map (·.name.val) ++ roce.map (·.name.val) ++ ib.map (·.name.val) ++ vlans.map (·.name.val)

/-- Every interface name in the host is distinct. -/
def checkUniqueNames (nsNics : List BondMember) (roce : List RoceUnderlay) (vlans : List VlanChild)
    (ib : List InfinibandUnderlay) : Except InvariantError Unit :=
  let counts := Counter.ofList (ifaceNames nsNics roce vlans ib)
  let dupes := Counter.repeated counts
  if dupes ≠ [] then .error ⟨"duplicate-name", .duplicateName dupes⟩
  else .ok ()

/-- Rule `duplicate-name`: the sorted duplicates are empty exactly if no name repeats. -/
theorem checkUniqueNames_decides (nsNics : List BondMember) (roce : List RoceUnderlay)
    (vlans : List VlanChild) (ib : List InfinibandUnderlay) :
    Decides (checkUniqueNames nsNics roce vlans ib)
      ("duplicate-name", (ifaceNames nsNics roce vlans ib).Nodup) := by
  refine (Decides.of_ite rfl).congr ?_
  rw [not_not, Counter.repeated_ofList]

end Models
end HostConfig
