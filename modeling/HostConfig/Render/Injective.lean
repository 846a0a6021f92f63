import HostConfig.Lib.Traverse
import HostConfig.Render.Decode
import HostConfig.Render.Determinism

/-!
# `Render.Injective` — what the three files say of an intent

The templates leave out the role of a VLAN, and its search domain where it has no name servers. They take
everything else, in canonical order. `SameHost` is that two intents agree on all of it.

What is written can be told from the files, as long as the strings in them are plain: a YAML reader gets the
network back, value by value (`documentValue_inj`), and the only two roles that write the same network
differ in a comment of their user-data. So two intents have the same three files exactly if they are the
same host (`renderFor_eq_iff_sameHost`).
-/

namespace HostConfig

namespace Models

/-- What the templates write of a VLAN. -/
def VlanChild.written (vlan : VlanChild) : VlanChild :=
  { vlan with role := .mgmt, searchDomain := if vlan.dns = [] then none else vlan.searchDomain }

/-- What they write of a context. -/
def HostIntentFields.written (ctx : HostIntentFields) : HostIntentFields :=
  { ctx with vlans := ctx.vlans.map (·.written) }

/-- The same host: lists in any order, but that VLANs of one id keep theirs. -/
structure HostIntentFields.SameHost (p q : HostIntentFields) : Prop where
  assetTag : p.assetTag = q.assetTag
  hostname : p.hostname = q.hostname
  role : p.role = q.role
  nsNics : p.nsNics.Perm q.nsNics
  bondName : p.bond.name = q.bond.name
  bondMembers : p.bond.members.Perm q.bond.members
  bondMode : p.bond.mode = q.bond.mode
  bondLacpRate : p.bond.lacpRate = q.bond.lacpRate
  bondTransmitHashPolicy : p.bond.transmitHashPolicy = q.bond.transmitHashPolicy
  bondMtu : p.bond.mtu = q.bond.mtu
  vlans : ∀ id, (p.vlans.filter (·.vlanId.val = id)).map (·.written) =
    (q.vlans.filter (·.vlanId.val = id)).map (·.written)
  roceUnderlays : p.roceUnderlays.Perm q.roceUnderlays
  ibUnderlays : p.ibUnderlays.Perm q.ibUnderlays

end Models

namespace Render

open Models Outline Forest Yaml StableSort Traverse

/-! ## What is left out -/

theorem vlan_written (vlan : VlanChild) : NetworkConfig.vlan vlan.written = NetworkConfig.vlan vlan := by
  unfold NetworkConfig.vlan NetworkConfig.nameservers VlanChild.written
  by_cases hdns : vlan.dns = []
  · simp [hdns]
  · simp [hdns]

theorem userData_vlan_written (vlan : VlanChild) : UserData.vlan vlan.written = UserData.vlan vlan := by
  rw [← embed_vlan, vlan_written, embed_vlan]

/-- **The templates write no more than that.** -/
theorem template_written (role : Role) (kind : FileKind) (ctx : HostIntentFields) :
    template role kind ctx.written = template role kind ctx := by
  have hvlans : ctx.written.vlans.flatMap NetworkConfig.vlan = ctx.vlans.flatMap NetworkConfig.vlan := by
    simp [HostIntentFields.written, List.flatMap_map, vlan_written]
  have huser : ctx.written.vlans.flatMap UserData.vlan = ctx.vlans.flatMap UserData.vlan := by
    simp [HostIntentFields.written, List.flatMap_map, userData_vlan_written]
  cases kind with
  | metaData => cases role <;> rfl
  | networkConfig =>
    cases role <;>
      simp only [template, Cpu.networkConfig, GpuB300.networkConfig, GpuB200.networkConfig, roceNetworkConfig,
        GpuH200.networkConfig, hvlans] <;> rfl
  | userData =>
    cases role <;>
      simp only [template, Cpu.userData, GpuB300.userData, GpuB200.userData, roceUserData,
        GpuH200.userData, huser] <;>
      rfl

section

variable {p q : HostIntentFields}

/-- The VLANs of each id in order are the canonical order. -/
theorem written_vlans_iff : (canonicalize p).vlans.map (·.written) = (canonicalize q).vlans.map (·.written) ↔
    ∀ id, (p.vlans.filter (·.vlanId.val = id)).map (·.written) =
      (q.vlans.filter (·.vlanId.val = id)).map (·.written) := by
  have hsorted : ∀ r : HostIntentFields, (canonicalize r).vlans.map (·.written) =
      sortedBy (· ≤ ·) (·.vlanId.val) (r.vlans.map (·.written)) := by
    intro r
    exact List.map_insertionSort _ _ _ _ fun _ _ _ _ => Iff.rfl
  rw [hsorted, hsorted, sortedBy_eq_iff]
  simp only [List.filter_map]
  rfl

/-- **The same host is the same context**, as far as it is written. -/
theorem sameHost_iff (hp : p.Satisfies) : p.SameHost q ↔
    (canonicalize p).written = (canonicalize q).written := by
  have hnames : ((p.nsNics.map (·.name.val) ++ p.roceUnderlays.map (·.name.val)) ++
      p.ibUnderlays.map (·.name.val)).Nodup := List.Nodup.of_append_left hp.uniqueNames
  have hsplit : (canonicalize p).written = (canonicalize q).written ↔
      p.assetTag = q.assetTag ∧ p.hostname = q.hostname ∧ p.role = q.role ∧
        (canonicalize p).nsNics = (canonicalize q).nsNics ∧ (canonicalize p).bond = (canonicalize q).bond ∧
        (canonicalize p).vlans.map (·.written) = (canonicalize q).vlans.map (·.written) ∧
        (canonicalize p).roceUnderlays = (canonicalize q).roceUnderlays ∧
        (canonicalize p).ibUnderlays = (canonicalize q).ibUnderlays := by
    rw [HostIntentFields.written, HostIntentFields.written, HostIntentFields.mk.injEq]
    exact Iff.rfl
  have hbond : (canonicalize p).bond = (canonicalize q).bond ↔ p.bond.name = q.bond.name ∧
      (canonicalize p).bond.members = (canonicalize q).bond.members ∧ p.bond.mode = q.bond.mode ∧
      p.bond.lacpRate = q.bond.lacpRate ∧ p.bond.transmitHashPolicy = q.bond.transmitHashPolicy ∧
      p.bond.mtu = q.bond.mtu := by
    rw [Bond.mk.injEq]
    exact Iff.rfl
  rw [hsplit, hbond, written_vlans_iff]
  constructor
  · intro h
    refine ⟨h.assetTag, h.hostname, h.role, ?_,
      ⟨h.bondName, ?_, h.bondMode, h.bondLacpRate, h.bondTransmitHashPolicy,
      h.bondMtu⟩, h.vlans, ?_, ?_⟩
    · exact sortedBy_eq_of_perm (fun a ha b hb => List.inj_on_of_nodup_map
        (List.Nodup.of_append_left (List.Nodup.of_append_left hnames)) ha hb) h.nsNics
    · exact sortedBy_eq_of_perm (fun _ _ _ _ heq => heq) h.bondMembers
    · exact sortedBy_eq_of_perm (fun a ha b hb => List.inj_on_of_nodup_map
        (List.Nodup.of_append_right (List.Nodup.of_append_left hnames)) ha hb) h.roceUnderlays
    · exact sortedBy_eq_of_perm (fun a ha b hb => List.inj_on_of_nodup_map
        (List.Nodup.of_append_right hnames) ha hb) h.ibUnderlays
  · rintro ⟨htag, hhost, hrole, hns, ⟨hname, hmembers, hmode, hrate, hpolicy, hmtu⟩, hvlans, hroce, hib⟩
    have hperm : ∀ {α : Type} {l l' : List α} {s s' : List α}, s.Perm l → s'.Perm l' → s = s' → l.Perm l' :=
      fun hs hs' heq => hs.symm.trans (heq ▸ hs')
    exact ⟨htag, hhost, hrole, hperm (canonicalize_nsNics_perm p) (canonicalize_nsNics_perm q) hns, hname,
      hperm (canonicalize_members_perm p) (canonicalize_members_perm q) hmembers, hmode, hrate,
        hpolicy, hmtu, hvlans,
      hperm (canonicalize_roceUnderlays_perm p) (canonicalize_roceUnderlays_perm q) hroce,
      hperm (canonicalize_ibUnderlays_perm p) (canonicalize_ibUnderlays_perm q) hib⟩

end

/-! ## Values -/

theorem mac_ext {a b : MacAddress} (h : a.val = b.val) : a = b := by
  cases a
  cases b
  simp_all

theorem nicValue_inj {nic nic' : PhysIface} {more more' : List (Value × Value)} :
    nicValue nic more = nicValue nic' more' ↔ nic = nic' ∧ more = more' := by
  constructor
  · intro h
    simp only [nicValue, Prod.mk.injEq, Value.str.injEq, Value.map.injEq, List.cons_append, List.nil_append,
      List.cons.injEq, Value.int.injEq, Nat.cast_inj, and_true, true_and] at h
    obtain ⟨hname, hmac, -, hmtu, hmore⟩ := h
    refine ⟨?_, hmore⟩
    rw [PhysIface.mk.injEq]
    exact ⟨BoundedStr.ext hname, mac_ext hmac, BoundedInt.ext hmtu⟩
  · rintro ⟨rfl, rfl⟩
    rfl

theorem nsNicValue_injective : Function.Injective nsNicValue := by
  rintro ⟨nic⟩ ⟨nic'⟩ h
  exact congrArg BondMember.mk (nicValue_inj.mp h).1

theorem addressesValue_inj {address address' : IPv4Interface} :
    addressesValue address = addressesValue address' ↔ address = address' := by
  simp [addressesValue, IPv4Interface.str_inj]

theorem roceValue_injective : Function.Injective roceValue := by
  rintro ⟨⟨nic, vfs⟩, address⟩ ⟨⟨nic', vfs'⟩, address'⟩ h
  obtain ⟨hnic, hmore⟩ := nicValue_inj.mp h
  simp only [List.cons.injEq, addressesValue_inj, Prod.mk.injEq, Value.int.injEq, Nat.cast_inj,
    and_true, true_and]
    at hmore
  obtain ⟨haddress, hvfs⟩ := hmore
  simp only at hnic haddress hvfs
  rw [hnic, haddress, BoundedInt.ext hvfs]

theorem ibValue_injective : Function.Injective ibValue := by
  rintro ⟨nic, address⟩ ⟨nic', address'⟩ h
  obtain ⟨hnic, hmore⟩ := nicValue_inj.mp h
  simp only [List.cons.injEq, addressesValue_inj, and_true] at hmore
  simp only at hnic hmore
  rw [hnic, hmore]

/-- Only a RoCE underlay has virtual functions. -/
theorem roceValue_ne_ibValue (nic : RoceUnderlay) (nic' : InfinibandUnderlay) :
    roceValue nic ≠ ibValue nic' := by
  intro h
  have hmore := (nicValue_inj.mp h).2
  simp at hmore

theorem lacpRate_value_injective : Function.Injective LacpRate.value := by
  intro a b h
  cases a <;> cases b <;> simp_all [LacpRate.value]

theorem transmitHashPolicy_value_injective : Function.Injective TransmitHashPolicy.value := by
  intro a b h
  cases a <;> cases b <;> simp_all [TransmitHashPolicy.value]

theorem bondValue_injective : Function.Injective bondValue := by
  rintro ⟨name, members, hlen, mode, rate, policy, mtu⟩ ⟨name', members', hlen', mode', rate',
    policy', mtu'⟩ h
  have hstr : Function.Injective Value.str := fun _ _ heq => Value.str.inj heq
  simp only [bondValue, Prod.mk.injEq, Value.str.injEq, Value.map.injEq, Value.seq.injEq, List.cons.injEq,
    Value.int.injEq, Nat.cast_inj, and_true, true_and, hstr.list_map.eq_iff] at h
  obtain ⟨hname, rfl, hmtu, hrate, hpolicy⟩ := h
  obtain rfl : name = name' := BoundedStr.ext hname
  obtain rfl : mtu = mtu' := BoundedInt.ext hmtu
  obtain rfl : mode = mode' := by cases mode; cases mode'; rfl
  obtain rfl : rate = rate' := lacpRate_value_injective hrate
  obtain rfl : policy = policy' := transmitHashPolicy_value_injective hpolicy
  rfl

/-- A search domain that is written out is a plain string. -/
def PlainSearchText (vlan : VlanChild) : Prop :=
  vlan.dns ≠ [] → ∀ searchDomain, vlan.searchDomain = some searchDomain → PlainString searchDomain

theorem scalarSearch_of_text {vlan : VlanChild} (h : PlainSearchText vlan) : ScalarSearch vlan := by
  intro hdns searchDomain hsearch
  rw [leafValue_of_scalar (scalar_of_plainString (h hdns searchDomain hsearch))]
  rfl

/-- The value of a plain search domain. -/
theorem searchValue_written {vlan : VlanChild} (h : PlainSearchText vlan) (hdns : vlan.dns ≠ []) :
    searchValue vlan.searchDomain =
      vlan.searchDomain.toList.map fun searchDomain => (.str "search", .seq [.str searchDomain]) := by
  cases hsearch : vlan.searchDomain with
  | none => rfl
  | some searchDomain =>
    rw [searchValue, leafValue_of_scalar (scalar_of_plainString (h hdns searchDomain hsearch))]
    rfl

/-- The default route and the name servers are told apart by their keys. -/
theorem routesValue_append_inj {gateway gateway' : Option IPv4Address} {dns dns' : List IPv4Address}
    {searchDomain searchDomain' : Option String}
    (h : routesValue gateway ++ nameserversValue dns searchDomain =
      routesValue gateway' ++ nameserversValue dns' searchDomain') :
    gateway = gateway' ∧ nameserversValue dns searchDomain = nameserversValue dns' searchDomain' := by
  have hkey : ∀ (gateway : IPv4Address) (dns : List IPv4Address) (searchDomain : Option String)
      (rest : List (Value × Value)), nameserversValue dns searchDomain ≠ routesValue
        (some gateway) ++ rest := by
    intro gateway dns searchDomain rest
    unfold nameserversValue routesValue
    by_cases hdns : dns = []
    · simp [hdns]
    · simp [hdns]
  cases gateway with
  | none =>
    cases gateway' with
    | none => exact ⟨rfl, h⟩
    | some gateway' => exact absurd h (hkey gateway' dns searchDomain _)
  | some gateway =>
    cases gateway' with
    | none => exact absurd h.symm (hkey gateway dns' searchDomain' _)
    | some gateway' =>
      simp only [routesValue, List.cons_append, List.nil_append, List.cons.injEq, Prod.mk.injEq,
        Value.seq.injEq,
        Value.map.injEq, Value.str.injEq, and_true, true_and] at h
      exact ⟨congrArg some (IPv4Address.str_inj.mp h.1), h.2⟩

/-- What is read of a VLAN is what is written of it. -/
theorem vlanValue_inj {vlan vlan' : VlanChild} (h : PlainSearchText vlan) (h' : PlainSearchText vlan')
    (heq : vlanValue vlan = vlanValue vlan') : vlan.written = vlan'.written := by
  simp only [vlanValue, Prod.mk.injEq, Value.str.injEq, Value.map.injEq, List.cons_append, List.nil_append,
    List.cons.injEq, Value.int.injEq, Nat.cast_inj, addressesValue_inj, true_and] at heq
  obtain ⟨hname, hid, hparent, hmtu, haddress, hmore⟩ := heq
  obtain ⟨hgateway, hns⟩ := routesValue_append_inj hmore
  have hservers : vlan.dns = vlan'.dns ∧ vlan.written.searchDomain = vlan'.written.searchDomain := by
    unfold nameserversValue at hns
    simp only [VlanChild.written]
    by_cases hdns : vlan.dns = []
    · by_cases hdns' : vlan'.dns = []
      · simp [hdns, hdns']
      · simp [hdns, hdns'] at hns
    · by_cases hdns' : vlan'.dns = []
      · simp [hdns, hdns'] at hns
      · have hstr : Function.Injective fun a : IPv4Address => Value.str a.str := by
          intro a b hab
          exact IPv4Address.str_inj.mp (Value.str.inj hab)
        rw [if_neg hdns, if_neg hdns', searchValue_written h hdns, searchValue_written h' hdns'] at hns
        simp only [List.cons.injEq, Prod.mk.injEq, Value.map.injEq, Value.seq.injEq, and_true, true_and,
          hstr.list_map.eq_iff] at hns
        rw [if_neg hdns, if_neg hdns']
        refine ⟨hns.1, ?_⟩
        cases hsearch : vlan.searchDomain <;> cases hsearch' : vlan'.searchDomain <;> simp_all
  unfold VlanChild.written at hservers ⊢
  rw [VlanChild.mk.injEq]
  exact ⟨BoundedStr.ext hname, BoundedStr.ext hparent, BoundedInt.ext hid, rfl, BoundedInt.ext hmtu,
    haddress, hgateway,
    hservers⟩

/-! ## The document -/

/-- The entries of `ethernets`, whatever the role: the underlays it has no loop for are not there. -/
theorem ethernetsValue_eq (i : HostIntent) : ethernetsValue i.role (canonicalize i.toHostIntentFields) =
    (canonicalize i.toHostIntentFields).nsNics.map nsNicValue ++
      ((canonicalize i.toHostIntentFields).roceUnderlays.map roceValue ++
        (canonicalize i.toHostIntentFields).ibUnderlays.map ibValue) := by
  have hroce : HostIntentFields.expectedRoce i.role = 0 →
      (canonicalize i.toHostIntentFields).roceUnderlays = [] := by
    intro hzero
    have hperm := canonicalize_roceUnderlays_perm i.toHostIntentFields
    rw [HostIntent.roceUnderlays_eq_nil hzero] at hperm
    exact List.perm_nil.mp hperm
  have hib : HostIntentFields.expectedIb i.role = 0 →
      (canonicalize i.toHostIntentFields).ibUnderlays = [] := by
    intro hzero
    have hperm := canonicalize_ibUnderlays_perm i.toHostIntentFields
    rw [HostIntent.ibUnderlays_eq_nil hzero] at hperm
    exact List.perm_nil.mp hperm
  unfold ethernetsValue
  cases hrole : i.role with
  | cpu => simp [hroce (by rw [hrole]; rfl), hib (by rw [hrole]; rfl)]
  | gpuB300 | gpuB200 => simp [hib (by rw [hrole]; rfl)]
  | gpuH200 => simp [hroce (by rw [hrole]; rfl)]

/-- **The value of the document gives the network.** -/
theorem documentValue_inj {i j : HostIntent} (hi : ∀ vlan ∈ i.vlans, PlainSearchText vlan)
    (hj : ∀ vlan ∈ j.vlans, PlainSearchText vlan)
    (h : documentValue i.role (canonicalize i.toHostIntentFields) =
      documentValue j.role (canonicalize j.toHostIntentFields)) :
    (canonicalize i.toHostIntentFields).nsNics = (canonicalize j.toHostIntentFields).nsNics ∧
      (canonicalize i.toHostIntentFields).bond = (canonicalize j.toHostIntentFields).bond ∧
      (canonicalize i.toHostIntentFields).vlans.map (·.written) =
        (canonicalize j.toHostIntentFields).vlans.map (·.written) ∧
      (canonicalize i.toHostIntentFields).roceUnderlays = (canonicalize j.toHostIntentFields).roceUnderlays ∧
      (canonicalize i.toHostIntentFields).ibUnderlays = (canonicalize j.toHostIntentFields).ibUnderlays := by
  simp only [documentValue, Value.map.injEq, List.cons.injEq, Prod.mk.injEq, and_true, true_and,
    ethernetsValue_eq] at h
  obtain ⟨hethernets, hbond, hvlans⟩ := h
  -- two N-S NICs come first, in both
  have hlength : ((canonicalize i.toHostIntentFields).nsNics.map nsNicValue).length =
      ((canonicalize j.toHostIntentFields).nsNics.map nsNicValue).length := by
    rw [List.length_map, List.length_map, (canonicalize_nsNics_perm _).length_eq,
      (canonicalize_nsNics_perm _).length_eq, i.satisfies.nsNicCount, j.satisfies.nsNicCount]
  obtain ⟨hns, hunderlays⟩ := List.append_inj hethernets hlength
  obtain ⟨hroce, hib⟩ :=
    (map_append_map_inj roceValue_injective ibValue_injective roceValue_ne_ibValue).mp hunderlays
  refine ⟨nsNicValue_injective.list_map hns, bondValue_injective hbond, ?_, hroce, hib⟩
  refine map_of_map hvlans ?_
  intro vlan hvlan vlan' hvlan' heq
  exact vlanValue_inj (hi vlan ((canonicalize_vlans_perm _).mem_iff.mp hvlan))
    (hj vlan' ((canonicalize_vlans_perm _).mem_iff.mp hvlan')) heq

/-! ## The role -/

/-- The roles are told apart by their underlays, except for the two RoCE roles. -/
theorem role_of_underlays {i j : HostIntent} (hroce : i.roceUnderlays.length = j.roceUnderlays.length)
    (hib : i.ibUnderlays.length = j.ibUnderlays.length) :
    i.role = j.role ∨ i.role = .gpuB300 ∧ j.role = .gpuB200 ∨ i.role = .gpuB200 ∧ j.role = .gpuB300 := by
  rw [i.satisfies.roceCount, j.satisfies.roceCount] at hroce
  rw [i.satisfies.ibCount, j.satisfies.ibCount] at hib
  cases hi : i.role <;> cases hj : j.role <;> simp_all [HostIntentFields.expectedRoce,
    HostIntentFields.expectedIb]

/-- Their user-data differs in the comment that names the role. -/
theorem userData_b300_ne_b200 (ctx : HostIntentFields) :
    chars (roceUserData "gpu-b300" ctx) ≠ chars (roceUserData "gpu-b200" ctx) := by
  intro h
  simp only [roceUserData, roceRuncmdHead, chars_append, List.append_assoc, List.append_cancel_left_eq,
    List.append_cancel_right_eq] at h
  revert h
  decide +kernel

/-! ## The files -/

/-- The strings in the files are plain. -/
structure PlainTexts (p : HostIntentFields) : Prop where
  values : PlainValues p
  searchDomains : ∀ vlan ∈ p.vlans, PlainSearchText vlan

theorem safeLoad_of_plainTexts {i : HostIntent} (h : PlainTexts i.toHostIntentFields) :
    safeLoad (render i.toHostIntentFields .networkConfig).toList =
      some (documentValue i.role (canonicalize i.toHostIntentFields)) := by
  have hmembers : ∀ m ∈ i.bond.members, PlainString m := by
    intro m hm
    obtain ⟨nic, hnic, rfl⟩ := i.satisfies.bondMembers m hm
    exact (h.values.nsNics nic hnic).name
  apply safeLoad_networkConfig
  · constructor
    case nsNics => exact fun nic hnic => h.values.nsNics nic ((canonicalize_nsNics_perm _).mem_iff.mp hnic)
    case roceUnderlays =>
      exact fun nic hnic => h.values.roceUnderlays nic ((canonicalize_roceUnderlays_perm _).mem_iff.mp hnic)
    case ibUnderlays =>
      exact fun nic hnic => h.values.ibUnderlays nic ((canonicalize_ibUnderlays_perm _).mem_iff.mp hnic)
    case bond => exact h.values.bond
    case members => exact fun m hm => hmembers m ((canonicalize_members_perm _).mem_iff.mp hm)
    case vlans =>
      intro vlan hvlan
      have hmem : vlan ∈ i.vlans := (canonicalize_vlans_perm _).mem_iff.mp hvlan
      refine ⟨h.values.vlans vlan hmem, ?_, scalarSearch_of_text (h.searchDomains vlan hmem)⟩
      rw [i.satisfies.vlanParents vlan hmem]
      exact h.values.bond
  · intro hnil
    have hcount := i.satisfies.nsNicCount
    simp [hnil] at hcount
  · intro hnil
    obtain ⟨vlan, hvlan, -⟩ := exists_mgmt i
    simp [hnil] at hvlan

/-- The files give the context, but for the role. -/
theorem written_of_renderFor {i j : HostIntent} (hi : PlainTexts i.toHostIntentFields)
    (hj : PlainTexts j.toHostIntentFields) (h : ∀ kind, renderFor i kind = renderFor j kind) :
    (canonicalize j.toHostIntentFields).written =
      { (canonicalize i.toHostIntentFields).written with role := j.role } := by
  have htexts : ∀ kind, (render i.toHostIntentFields kind).toList =
      (render j.toHostIntentFields kind).toList := by
    intro kind
    rw [(renderFor_eq_iff i j kind).mp (h kind)]
  have hmeta := congrArg safeLoad (htexts .metaData)
  rw [safeLoad_metaData hi.values.assetTag hi.values.hostname,
    safeLoad_metaData hj.values.assetTag hj.values.hostname]
    at hmeta
  simp only [Option.some_inj, Value.map.injEq, List.cons.injEq, Prod.mk.injEq, Value.str.injEq,
    and_true, true_and]
    at hmeta
  have hnetwork := congrArg safeLoad (htexts .networkConfig)
  rw [safeLoad_of_plainTexts hi, safeLoad_of_plainTexts hj, Option.some_inj] at hnetwork
  obtain ⟨hns, hbond, hvlans, hroce, hib⟩ := documentValue_inj hi.searchDomains hj.searchDomains hnetwork
  unfold HostIntentFields.written
  rw [HostIntentFields.mk.injEq]
  exact ⟨(BoundedStr.ext hmeta.1).symm, (BoundedStr.ext hmeta.2).symm, rfl, hns.symm, hbond.symm, hvlans.symm,
    hroce.symm, hib.symm⟩

/-- The user-data of the two RoCE roles is never the same. -/
theorem renderFor_b300_ne_b200 {i j : HostIntent} (hi : i.role = .gpuB300) (hj : j.role = .gpuB200)
    (hctx : (canonicalize j.toHostIntentFields).written =
      { (canonicalize i.toHostIntentFields).written with role := j.role }) :
    renderFor i .userData ≠ renderFor j .userData := by
  intro h
  have hchars := congrArg String.toList ((renderFor_eq_iff i j .userData).mp h)
  rw [toList_render, toList_render, renderLines, renderLines, ← template_written,
    ← template_written j.role, hctx, hi,
    hj] at hchars
  exact userData_b300_ne_b200 (canonicalize i.toHostIntentFields).written hchars

/-- **The three files are those of one host only.** Two intents whose strings are plain have the same three
    files exactly if they are the same host, in all that the templates write. -/
theorem renderFor_eq_iff_sameHost (i j : HostIntent) (hi : PlainTexts i.toHostIntentFields)
    (hj : PlainTexts j.toHostIntentFields) :
    (∀ kind, renderFor i kind = renderFor j kind) ↔ i.SameHost j.toHostIntentFields := by
  rw [sameHost_iff i.satisfies]
  constructor
  · intro h
    have hctx := written_of_renderFor hi hj h
    have hroce : i.roceUnderlays.length = j.roceUnderlays.length := by
      have hlist := congrArg (fun ctx => ctx.roceUnderlays.length) hctx
      simp only [HostIntentFields.written] at hlist
      rw [← (canonicalize_roceUnderlays_perm i.toHostIntentFields).length_eq, ← hlist,
        (canonicalize_roceUnderlays_perm j.toHostIntentFields).length_eq]
    have hib : i.ibUnderlays.length = j.ibUnderlays.length := by
      have hlist := congrArg (fun ctx => ctx.ibUnderlays.length) hctx
      simp only [HostIntentFields.written] at hlist
      rw [← (canonicalize_ibUnderlays_perm i.toHostIntentFields).length_eq, ← hlist,
        (canonicalize_ibUnderlays_perm j.toHostIntentFields).length_eq]
    rcases role_of_underlays hroce hib with hrole | ⟨hi', hj'⟩ | ⟨hi', hj'⟩
    · rw [hctx, ← hrole]
      rfl
    · exact absurd (h .userData) (renderFor_b300_ne_b200 hi' hj' hctx)
    · have hctx' := written_of_renderFor hj hi fun kind => (h kind).symm
      exact absurd (h .userData).symm (renderFor_b300_ne_b200 hj' hi' hctx')
  · intro h kind
    have hrole : i.role = j.role := congrArg (·.role) h
    rw [renderFor_eq_iff, render, render, renderLines, renderLines, ← template_written, h,
      template_written, hrole]

/-- The storage VLAN called ingress, and the other way round. -/
def relabelled (vlan : VlanChild) : VlanChild :=
  { vlan with role := if vlan.role = .storage then .ingress else if vlan.role = .ingress then
    .storage else .mgmt }

def cpuRelabelled : HostIntent where
  toHostIntentFields := { cpuFields with vlans := cpuFields.vlans.map relabelled }
  valid := by decide

/-- The roles of VLANs other than the management VLAN are not written: the two have the same files. -/
theorem renderFor_cpuRelabelled : cpuIntent.vlans ≠ cpuRelabelled.vlans ∧
    ∀ kind, renderFor cpuIntent kind = renderFor cpuRelabelled kind := by
  have hnics : ∀ nic ∈ cpuIntent.nsNics, PlainString nic.name.val ∧
      PlainString nic.mac.val := by decide +kernel
  have hsearch : ∀ vlan ∈ cpuIntent.vlans, vlan.dns = [] := by decide
  have hplain : PlainTexts cpuIntent.toHostIntentFields := by
    refine ⟨?_, fun vlan hvlan hdns => absurd (hsearch vlan hvlan) hdns⟩
    constructor
    case assetTag => decide +kernel
    case hostname => decide +kernel
    case nsNics => exact fun nic hnic => ⟨(hnics nic hnic).1, (hnics nic hnic).2⟩
    case roceUnderlays => exact fun nic hnic => absurd hnic List.not_mem_nil
    case ibUnderlays => exact fun nic hnic => absurd hnic List.not_mem_nil
    case bond => decide +kernel
    case vlans => decide +kernel
  have hplain' : PlainTexts cpuRelabelled.toHostIntentFields := by
    obtain ⟨⟨htag, hhost, hns, hroce, hib, hbond, hvlans⟩, hsearch⟩ := hplain
    refine ⟨⟨htag, hhost, hns, hroce, hib, hbond, ?_⟩, ?_⟩
    · intro vlan hvlan
      obtain ⟨vlan, hmem, rfl⟩ := List.mem_map.mp hvlan
      exact hvlans vlan hmem
    · intro vlan hvlan
      obtain ⟨vlan, hmem, rfl⟩ := List.mem_map.mp hvlan
      exact hsearch vlan hmem
  refine ⟨by decide, (renderFor_eq_iff_sameHost cpuIntent cpuRelabelled hplain hplain').mpr ?_⟩
  refine ⟨rfl, rfl, rfl, .refl _, rfl, .refl _, rfl, rfl, rfl, rfl, ?_, .refl _, .refl _⟩
  intro id
  rw [show cpuRelabelled.vlans = cpuIntent.vlans.map relabelled from rfl, List.filter_map, List.map_map]
  rfl

end Render
end HostConfig
