import Mathlib.Data.List.Basic
import HostConfig.Models.Validators

/-!
# `Models.Intent` — the top-level `HostIntent`

`HostIntentFields` is the record pydantic has built once every field has validated; `checkInvariants` is
the after-validator that runs the eleven cross-field rules; a `HostIntent` is a record on which they all
passed, so a renderer or a loader that holds one has the invariants by construction.

`rules` states the same eleven rules without any order of evaluation inside a rule, and `checks_decide` says
that check number `k` decides rule number `k`. Everything about construction follows from that: it succeeds
exactly when all rules hold, otherwise raises the id of the first rule violated, and neither depends on the
order of any list.
-/

namespace HostConfig
namespace Models

open Checks

/-- Supported host roles. -/
inductive Role
  | cpu | gpuB300 | gpuB200 | gpuH200
deriving DecidableEq

def Role.value : Role → String
  | .cpu     => "cpu"
  | .gpuB300 => "gpu-b300"
  | .gpuB200 => "gpu-b200"
  | .gpuH200 => "gpu-h200"

/-- The members of the enum, in declaration order. -/
def Role.all : List Role := [.cpu, .gpuB300, .gpuB200, .gpuH200]

/-- `Role(value)` -/
def Role.ofValue (value : String) : Option Role := Role.all.find? (fun r => r.value = value)

/-- A host intent whose fields have validated. -/
structure HostIntentFields where
  assetTag : AssetTag
  hostname : Hostname
  role : Role
  nsNics : List BondMember
  bond : Bond
  vlans : List VlanChild
  roceUnderlays : List RoceUnderlay := []
  ibUnderlays : List InfinibandUnderlay := []
deriving DecidableEq

namespace HostIntentFields

/-- `_check_invariants`: every cross-field rule, in the source's order. -/
def checkInvariants (p : HostIntentFields) : Except InvariantError Unit := do
  checkNsNicCount p.nsNics
  checkBondReferencesNsNics p.bond p.nsNics
  checkVlanRolesComplete p.vlans
  checkVlanParents p.vlans p.bond
  checkExactlyOneDefaultGateway p.vlans
  checkDefaultGatewayOnMgmt p.vlans
  checkMtuMonotone p.bond p.vlans
  checkRoceCountForRole p.role.value p.roceUnderlays
  checkIbCountForRole p.role.value p.ibUnderlays
  checkUniqueNames p.nsNics p.roceUnderlays p.vlans p.ibUnderlays
  checkUniqueIps p.vlans p.roceUnderlays p.ibUnderlays
  return ()

/-! ## The rules, declaratively -/

/-- The names of the N-S NICs, the underlays and the VLAN interfaces. -/
def names (p : HostIntentFields) : List String := ifaceNames p.nsNics p.roceUnderlays p.vlans p.ibUnderlays

/-- The addresses of the VLANs and the underlays, prefixes ignored. -/
def ips (p : HostIntentFields) : List IPv4Address :=
  (addressed p.vlans p.roceUnderlays p.ibUnderlays).map (·.1)

/-- The number of RoCE underlays a host of this role has. -/
def expectedRoce (role : Role) : Nat := if role = .gpuB300 ∨ role = .gpuB200 then 8 else 0

/-- The number of IB underlays a host of this role has. -/
def expectedIb (role : Role) : Nat := if role = .gpuH200 then 8 else 0

/-- The rules of a host intent, each with the id reported when it is the first one violated. -/
def rules (p : HostIntentFields) : List (String × Prop) :=
  [("ns-nic-count", p.nsNics.length = 2),
   ("bond-member-unknown", ∀ m ∈ p.bond.members, ∃ n ∈ p.nsNics, n.name.val = m),
   ("vlan-roles-incomplete", ∀ role, roleCount p.vlans role = 1),
   ("vlan-parent-mismatch", ∀ v ∈ p.vlans, v.parent = p.bond.name),
   ("default-gateway-count", (p.vlans.filter (·.gateway.isSome)).length = 1),
   ("default-gateway-role", ∀ v ∈ p.vlans, v.role ≠ .mgmt → v.gateway = none),
   ("mtu-non-monotone", ∀ v ∈ p.vlans, v.mtu.val ≤ p.bond.mtu.val),
   ("roce-count-" ++ p.role.value, p.roceUnderlays.length = expectedRoce p.role),
   ("ib-count-" ++ p.role.value, p.ibUnderlays.length = expectedIb p.role),
   ("duplicate-name", p.names.Nodup),
   ("duplicate-ip", p.ips.Nodup)]

/-- All rules hold. -/
structure Satisfies (p : HostIntentFields) : Prop where
  nsNicCount : p.nsNics.length = 2
  bondMembers : ∀ m ∈ p.bond.members, ∃ n ∈ p.nsNics, n.name.val = m
  vlanRoles : ∀ role, roleCount p.vlans role = 1
  vlanParents : ∀ v ∈ p.vlans, v.parent = p.bond.name
  gatewayCount : (p.vlans.filter (·.gateway.isSome)).length = 1
  gatewayRole : ∀ v ∈ p.vlans, v.role ≠ .mgmt → v.gateway = none
  mtuMonotone : ∀ v ∈ p.vlans, v.mtu.val ≤ p.bond.mtu.val
  roceCount : p.roceUnderlays.length = expectedRoce p.role
  ibCount : p.ibUnderlays.length = expectedIb p.role
  uniqueNames : p.names.Nodup
  uniqueIps : p.ips.Nodup

theorem forall_rules_iff (p : HostIntentFields) : (∀ r ∈ p.rules, r.2) ↔ p.Satisfies := by
  simp only [rules, List.forall_mem_cons, List.not_mem_nil, false_implies, implies_true, and_true]
  constructor
  · rintro ⟨h1, h2, h3, h4, h5, h6, h7, h8, h9, h10, h11⟩
    exact ⟨h1, h2, h3, h4, h5, h6, h7, h8, h9, h10, h11⟩
  · intro h
    exact ⟨h.nsNicCount, h.bondMembers, h.vlanRoles, h.vlanParents, h.gatewayCount, h.gatewayRole,
      h.mtuMonotone, h.roceCount, h.ibCount, h.uniqueNames, h.uniqueIps⟩

/-! ## The checks decide the rules -/

/-- The calls of `checkInvariants`, as a list. -/
def checks (p : HostIntentFields) : List (Except InvariantError Unit) :=
  [checkNsNicCount p.nsNics, checkBondReferencesNsNics p.bond p.nsNics, checkVlanRolesComplete p.vlans,
   checkVlanParents p.vlans p.bond, checkExactlyOneDefaultGateway p.vlans,
   checkDefaultGatewayOnMgmt p.vlans, checkMtuMonotone p.bond p.vlans,
   checkRoceCountForRole p.role.value p.roceUnderlays, checkIbCountForRole p.role.value p.ibUnderlays,
   checkUniqueNames p.nsNics p.roceUnderlays p.vlans p.ibUnderlays,
   checkUniqueIps p.vlans p.roceUnderlays p.ibUnderlays]

theorem checkInvariants_eq (p : HostIntentFields) : p.checkInvariants = firstError p.checks := rfl

theorem expectedRoce_eq (role : Role) : (roceCountByRole.lookup role.value).getD 0 = expectedRoce role := by
  cases role <;> rfl

theorem expectedIb_eq (role : Role) : (ibCountByRole.lookup role.value).getD 0 = expectedIb role := by
  cases role <;> rfl

/-- **Check number `k` decides rule number `k`.** -/
theorem checks_decide (p : HostIntentFields) : List.Forall₂ Decides p.checks p.rules := by
  refine .cons (checkNsNicCount_decides _) <| .cons ?members <| .cons (checkVlanRolesComplete_decides _) <|
    .cons (checkVlanParents_decides _ _) <| .cons (checkExactlyOneDefaultGateway_decides _) <|
    .cons (checkDefaultGatewayOnMgmt_decides _) <| .cons (checkMtuMonotone_decides _ _) <|
    .cons ?roce <| .cons ?ib <| .cons (checkUniqueNames_decides _ _ _ _) <|
    .cons (checkUniqueIps_decides _ _ _) .nil
  case members =>
    refine (checkBondReferencesNsNics_decides _ _).congr ?_
    simp only [List.mem_map]
  case roce =>
    refine (checkRoceCountForRole_decides _ _).congr ?_
    rw [expectedRoce_eq]
  case ib =>
    refine (checkIbCountForRole_decides _ _).congr ?_
    rw [expectedIb_eq]

/-- **The invariant checks pass exactly on the records that satisfy every rule.** -/
theorem checkInvariants_ok_iff (p : HostIntentFields) : p.checkInvariants = .ok () ↔ p.Satisfies := by
  rw [checkInvariants_eq, firstError_ok_iff p.checks_decide, forall_rules_iff]

/-- The two gateway rules together, once each role is played by exactly one VLAN. -/
theorem gateway_rules_iff {vlans : List VlanChild} (hroles : ∀ role, roleCount vlans role = 1) :
    ((vlans.filter (·.gateway.isSome)).length = 1 ∧ ∀ v ∈ vlans, v.role ≠ .mgmt → v.gateway = none) ↔
      ∀ v ∈ vlans, v.gateway.isSome ↔ v.role = .mgmt := by
  constructor
  · rintro ⟨hcount, hrole⟩
    have hsub : ∀ v ∈ vlans, v.gateway.isSome → v.role = .mgmt := fun v hv hg =>
      Classical.byContradiction fun hne => by simp [hrole v hv hne] at hg
    -- the one VLAN with a gateway is the one mgmt VLAN
    have hboth : vlans.filter (·.gateway.isSome) =
        (vlans.filter (fun v => v.role = .mgmt)).filter (·.gateway.isSome) := by
      rw [List.filter_filter]
      refine List.filter_congr fun v hv => ?_
      rw [Bool.eq_iff_iff, Bool.and_eq_true, decide_eq_true_iff]
      exact ⟨fun hg => ⟨hg, hsub v hv hg⟩, And.left⟩
    have hall : (vlans.filter (fun v => v.role = .mgmt)).filter (·.gateway.isSome) =
        vlans.filter (fun v => v.role = .mgmt) :=
      List.filter_sublist.eq_of_length ((hboth ▸ hcount).trans (hroles .mgmt).symm)
    refine fun v hv => ⟨hsub v hv, fun hm => ?_⟩
    exact List.filter_eq_self.mp hall v (List.mem_filter.mpr ⟨hv, decide_eq_true hm⟩)
  · intro h
    refine ⟨?_, fun v hv hne => Option.not_isSome_iff_eq_none.mp fun hg => hne ((h v hv).mp hg)⟩
    rw [← hroles .mgmt, roleCount]
    refine congrArg List.length (List.filter_congr fun v hv => ?_)
    rw [Bool.eq_iff_iff, decide_eq_true_iff]
    exact h v hv

theorem Satisfies.gateway_iff {p : HostIntentFields} (h : p.Satisfies) :
    ∀ v ∈ p.vlans, v.gateway.isSome ↔ v.role = .mgmt :=
  (gateway_rules_iff h.vlanRoles).mp ⟨h.gatewayCount, h.gatewayRole⟩

end HostIntentFields

/-! ## Constructed intents -/

/-- A complete renderable host intent: every invariant check passed. -/
structure HostIntent extends HostIntentFields where
  valid : toHostIntentFields.checkInvariants = .ok ()

namespace HostIntent

open HostIntentFields

theorem satisfies (i : HostIntent) : i.toHostIntentFields.Satisfies :=
  (checkInvariants_ok_iff _).mp i.valid

/-- An intent of a role without RoCE underlays has none. -/
theorem roceUnderlays_eq_nil {i : HostIntent} (h : expectedRoce i.role = 0) :
    i.roceUnderlays = [] :=
  List.eq_nil_of_length_eq_zero (i.satisfies.roceCount.trans h)

/-- An intent of a role without InfiniBand underlays has none. -/
theorem ibUnderlays_eq_nil {i : HostIntent} (h : expectedIb i.role = 0) :
    i.ibUnderlays = [] :=
  List.eq_nil_of_length_eq_zero (i.satisfies.ibCount.trans h)

/-- `HostIntent(…)` on parts whose fields are valid. -/
def ofFields (p : HostIntentFields) : Except InvariantError HostIntent :=
  match h : p.checkInvariants with
  | .ok ()   => .ok { p with valid := h }
  | .error e => .error e

/-- `HostIntent(…)` on the raw strings and built models: field validation, then the invariants. -/
def init (assetTag hostname : String) (role : Role) (nsNics : List BondMember) (bond : Bond)
    (vlans : List VlanChild) (roceUnderlays : List RoceUnderlay) (ibUnderlays : List InfinibandUnderlay) :
    Except PyExc HostIntent :=
  match BoundedStr.validate 1 64 assetTag, BoundedStr.validate 1 253 hostname with
  | some assetTag, some hostname =>
      (ofFields { assetTag, hostname, role, nsNics, bond, vlans, roceUnderlays, ibUnderlays }).mapError
        .invariantError
  | a, h => .error (invalid "HostIntent" [("asset_tag", a.isSome), ("hostname", h.isSome)])

theorem ofFields_eq_ok {p : HostIntentFields} (h : p.checkInvariants = .ok ()) :
    ofFields p = .ok { p with valid := h } := by
  unfold ofFields
  split
  · rfl
  · rename_i he; rw [h] at he; exact absurd he (by simp)

theorem ofFields_eq_error {p : HostIntentFields} {e : InvariantError} :
    ofFields p = .error e ↔ p.checkInvariants = .error e := by
  unfold ofFields
  split
  · rename_i h
    exact ⟨fun h' => absurd h' (by simp), fun h' => absurd (h.symm.trans h') (by simp)⟩
  · rename_i h
    rw [h]; simp

/-- **What construction gives**: an intent with the parts it was given, and it gives every such intent. -/
theorem init_eq_ok_iff {assetTag hostname : String} {role : Role} {nsNics : List BondMember} {bond : Bond}
    {vlans : List VlanChild} {roceUnderlays : List RoceUnderlay} {ibUnderlays : List InfinibandUnderlay}
    {i : HostIntent} :
    init assetTag hostname role nsNics bond vlans roceUnderlays ibUnderlays = .ok i ↔
      i.assetTag.val = assetTag ∧ i.hostname.val = hostname ∧ i.role = role ∧ i.nsNics = nsNics ∧
        i.bond = bond ∧
      i.vlans = vlans ∧ i.roceUnderlays = roceUnderlays ∧ i.ibUnderlays = ibUnderlays := by
  constructor
  · intro h
    unfold init at h
    -- the two strings are validated first, then the invariants are checked
    cases ha : BoundedStr.validate 1 64 assetTag with
    | none => simp [ha] at h
    | some tag =>
      cases hh : BoundedStr.validate 1 253 hostname with
      | none => simp [ha, hh] at h
      | some host =>
        simp only [ha, hh] at h
        cases hc : HostIntentFields.checkInvariants
            { assetTag := tag, hostname := host, role, nsNics, bond, vlans, roceUnderlays, ibUnderlays } with
        | error e =>
          rw [ofFields_eq_error.mpr hc] at h
          cases h
        | ok u =>
          rw [ofFields_eq_ok hc] at h
          rw [← Except.ok.inj h]
          exact ⟨BoundedStr.val_of_validate ha, BoundedStr.val_of_validate hh, rfl, rfl, rfl, rfl, rfl, rfl⟩
  · rintro ⟨rfl, rfl, rfl, rfl, rfl, rfl, rfl, rfl⟩
    unfold init
    rw [BoundedStr.validate_val, BoundedStr.validate_val]
    dsimp only
    rw [ofFields_eq_ok i.valid]
    rfl

/-- The outcome of construction: `none` on success, else the id of the `InvariantError`. -/
def outcome (p : HostIntentFields) : Option String :=
  match ofFields p with
  | .ok _    => none
  | .error e => some e.invariant

theorem outcome_eq (p : HostIntentFields) : outcome p =
    match p.checkInvariants.mapError InvariantError.invariant with
    | .ok _     => none
    | .error id => some id := by
  unfold outcome
  cases h : p.checkInvariants with
  | ok u => rw [ofFields_eq_ok h]; rfl
  | error e => rw [ofFields_eq_error.mpr h]; rfl

end HostIntent

/-! ## The intent of the repository's `cpu` fixture -/

/-- The N-S NICs, bond and VLANs of `make_cpu_intent`. -/
def cpuFields : HostIntentFields where
  assetTag := ⟨"SN-CPU-001", by decide⟩
  hostname := ⟨"k8s-cp-01.pod07.site03.internal", by decide⟩
  role := .cpu
  nsNics :=
    [{ name := ⟨"nsa", by decide⟩, mac := ⟨"aa:bb:cc:00:01:01", by decide⟩, mtu := ⟨9000, by decide⟩ },
     { name := ⟨"nsb", by decide⟩, mac := ⟨"aa:bb:cc:00:01:02", by decide⟩, mtu := ⟨9000, by decide⟩ }]
  bond :=
    { name := ⟨"bond0", by decide⟩, members := ["nsa", "nsb"], membersLen := by decide,
      mtu := ⟨9000, by decide⟩ }
  vlans :=
    [{ name := ⟨"bond0.100", by decide⟩, parent := ⟨"bond0", by decide⟩, vlanId := ⟨100, by decide⟩,
       role := .mgmt, mtu := ⟨1500, by decide⟩, address := ⟨.ofOctets 10 42 10 11, ⟨24, by decide⟩⟩,
       gateway := some (.ofOctets 10 42 10 1) },
     { name := ⟨"bond0.200", by decide⟩, parent := ⟨"bond0", by decide⟩, vlanId := ⟨200, by decide⟩,
       role := .storage, mtu := ⟨9000, by decide⟩, address := ⟨.ofOctets 10 42 20 11, ⟨24, by decide⟩⟩ },
     { name := ⟨"bond0.300", by decide⟩, parent := ⟨"bond0", by decide⟩, vlanId := ⟨300, by decide⟩,
       role := .ingress, mtu := ⟨1500, by decide⟩, address := ⟨.ofOctets 10 42 30 11, ⟨24, by decide⟩⟩ }]

/-- `make_cpu_intent()` -/
def cpuIntent : HostIntent := { cpuFields with valid := by decide }

/-! ## Permuted parts -/

namespace HostIntentFields

/-- `p` and `q` differ only by permutations of the lists and of `bond.members`. -/
structure Permuted (p q : HostIntentFields) : Prop where
  assetTag : p.assetTag = q.assetTag
  hostname : p.hostname = q.hostname
  role : p.role = q.role
  nsNics : p.nsNics.Perm q.nsNics
  bondName : p.bond.name = q.bond.name
  bondMembers : p.bond.members.Perm q.bond.members
  bondMode : p.bond.mode = q.bond.mode
  bondLacpRate : p.bond.lacpRate = q.bond.lacpRate
  bondHashPolicy : p.bond.transmitHashPolicy = q.bond.transmitHashPolicy
  bondMtu : p.bond.mtu = q.bond.mtu
  vlans : p.vlans.Perm q.vlans
  roceUnderlays : p.roceUnderlays.Perm q.roceUnderlays
  ibUnderlays : p.ibUnderlays.Perm q.ibUnderlays

namespace Permuted

variable {p q : HostIntentFields}

theorem names (h : Permuted p q) : p.names.Perm q.names :=
  (((h.nsNics.map _).append (h.roceUnderlays.map _)).append (h.ibUnderlays.map _)).append (h.vlans.map _)

theorem ips (h : Permuted p q) : p.ips.Perm q.ips :=
  (((h.vlans.map _).append (h.roceUnderlays.map _)).append (h.ibUnderlays.map _)).map _

theorem forall_mem_iff {α : Type} {l l' : List α} (h : l.Perm l') {P Q : α → Prop} (hPQ : ∀ a, P a ↔ Q a) :
    (∀ a ∈ l, P a) ↔ ∀ a ∈ l', Q a :=
  forall_congr' fun a => imp_congr h.mem_iff (hPQ a)

/-- **Every rule is insensitive to the order of the lists.** -/
theorem rules (h : Permuted p q) :
    List.Forall₂ (fun r r' => r.1 = r'.1 ∧ (r.2 ↔ r'.2)) p.rules q.rules := by
  refine .cons ⟨rfl, by rw [h.nsNics.length_eq]⟩ <| .cons ⟨rfl, ?_⟩ <| .cons ⟨rfl, ?_⟩ <|
    .cons ⟨rfl, ?_⟩ <| .cons ⟨rfl, by rw [(h.vlans.filter _).length_eq]⟩ <|
    .cons ⟨rfl, forall_mem_iff h.vlans fun _ => Iff.rfl⟩ <| .cons ⟨rfl, ?_⟩ <|
    .cons ⟨by rw [h.role], by rw [h.roceUnderlays.length_eq, h.role]⟩ <|
    .cons ⟨by rw [h.role], by rw [h.ibUnderlays.length_eq, h.role]⟩ <|
    .cons ⟨rfl, h.names.nodup_iff⟩ <| .cons ⟨rfl, h.ips.nodup_iff⟩ .nil
  · exact forall_mem_iff h.bondMembers fun m => exists_congr fun n => and_congr_left' h.nsNics.mem_iff
  · exact forall_congr' fun role => by rw [roleCount, roleCount, (h.vlans.filter _).length_eq]
  · exact forall_mem_iff h.vlans fun v => by rw [h.bondName]
  · exact forall_mem_iff h.vlans fun v => by rw [h.bondMtu]

theorem checkInvariants_mapError (h : Permuted p q) :
    p.checkInvariants.mapError InvariantError.invariant =
      q.checkInvariants.mapError InvariantError.invariant := by
  rw [checkInvariants_eq, checkInvariants_eq]
  exact firstError_congr p.checks_decide q.checks_decide h.rules

theorem satisfies_iff (h : Permuted p q) : p.Satisfies ↔ q.Satisfies := by
  have hmap := h.checkInvariants_mapError
  rw [← checkInvariants_ok_iff, ← checkInvariants_ok_iff]
  cases hp : p.checkInvariants <;> cases hq : q.checkInvariants <;> simp_all [Except.mapError]

end Permuted
end HostIntentFields

/-! ## The construction theorem -/

open HostIntentFields in
/-- **Construction is a decision procedure for the rules.** On any field-valid parts it succeeds exactly
    when every rule holds; otherwise it raises the id of the first rule violated; and permuting any of the
    lists changes neither the outcome nor the id. -/
theorem construction_spec (p : HostIntentFields) :
    ((∃ i, HostIntent.ofFields p = .ok i) ↔ ∀ r ∈ p.rules, r.2) ∧
    (∀ e, HostIntent.ofFields p = .error e →
      ∃ pre r post, p.rules = pre ++ r :: post ∧ (∀ q ∈ pre, q.2) ∧ ¬ r.2 ∧ e.invariant = r.1) ∧
    (∀ q, Permuted p q → HostIntent.outcome p = HostIntent.outcome q) := by
  refine ⟨⟨?_, ?_⟩, ?_, ?_⟩
  · rintro ⟨i, hi⟩
    have hok : p.checkInvariants = .ok () := by
      cases hc : p.checkInvariants with
      | ok u => rfl
      | error e => rw [HostIntent.ofFields_eq_error.mpr hc] at hi; exact absurd hi (by simp)
    exact (firstError_ok_iff p.checks_decide).mp hok
  · intro hr
    exact ⟨_, HostIntent.ofFields_eq_ok ((firstError_ok_iff p.checks_decide).mpr hr)⟩
  · intro e he
    exact firstError_error p.checks_decide (HostIntent.ofFields_eq_error.mp he)
  · intro q hpq
    rw [HostIntent.outcome_eq, HostIntent.outcome_eq, hpq.checkInvariants_mapError]

end Models
end HostConfig
