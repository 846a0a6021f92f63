import Mathlib.Tactic.IntervalCases
import HostConfig.Render.Emitter

/-!
# `Render.Determinism` — when the order of an intent's lists shows in the output

`_canonicalize` sorts every list before a template sees it. NICs, underlays and bond members are sorted by
name, and the names of a valid intent are distinct, so nothing of their input order is left. The VLANs are
sorted by `vlan_id`, which no rule requires to be distinct; the sort is stable, so VLANs with one id are
emitted in the order in which the intent lists them.

That this order then shows in the bytes is `vlans_eq_of_chars`: the text of a list of VLAN stanzas
determines the list, whatever characters the names contain, because a stanza opens with its name and the
text behind the name cannot be read as the end of a longer name (`mid_ne_shift`).
-/

namespace HostConfig
namespace Render

open Models StableSort

/-! ## The text of a VLAN stanza -/

/-- What stands between the name of a VLAN and its id. -/
def mid : List Char := ":\n      id: ".toList

/-- `mid` does not occur again within the next fourteen characters, if it is followed by three characters
    none of which is a colon. -/
theorem mid_ne_shift {w : List Char} (hw : w ≠ []) (hlen : w.length ≤ 14) {x y z : Char} {t u : List Char}
    (hx : x ≠ ':') (hy : y ≠ ':') (hz : z ≠ ':') : mid ++ x :: y :: z :: t ≠ w ++ (mid ++ u) := by
  intro h
  have hpos : 0 < w.length := List.length_pos_iff.mpr hw
  have hcolon : (mid ++ x :: y :: z :: t)[w.length]? = some ':' := by
    rw [h, List.getElem?_append_right (Nat.le_refl _), Nat.sub_self]; rfl
  have hlf : (mid ++ x :: y :: z :: t)[w.length + 1]? = some '\n' := by
    rw [h, List.getElem?_append_right (Nat.le_succ _), Nat.succ_sub (Nat.le_refl _), Nat.sub_self]; rfl
  have hmid : mid = [':', '\n', ' ', ' ', ' ', ' ', ' ', ' ', 'i', 'd', ':', ' '] := by decide
  rw [hmid] at hcolon hlf
  -- the only other colon of `mid` is followed by a space
  generalize w.length = k at hpos hlen hcolon hlf
  clear h hw
  interval_cases k <;> simp_all

/-- The characters of a VLAN stanza: name, `mid`, id, and the rest. -/
theorem chars_vlan (v : VlanChild) : ∃ rest, chars (NetworkConfig.vlan v) =
    List.replicate 4 ' ' ++ (v.name.val.toList ++ (mid ++ (Nat.toDigits 10 v.vlanId.val ++
      ("\n      link: ".toList ++ rest)))) := by
  obtain ⟨more, hmore⟩ : ∃ more, NetworkConfig.vlan v =
      [⟨4, .key (.str v.name.val)⟩, ⟨6, .field "id" (.int v.vlanId.val)⟩,
       ⟨6, .field "link" (.str v.parent.val)⟩] ++ more := ⟨_, rfl⟩
  have hid : (Seg.int v.vlanId.val).text.toList = Nat.toDigits 10 v.vlanId.val := Nat.toList_repr
  refine ⟨v.parent.val.toList ++ '\n' :: chars more, ?_⟩
  rw [hmore, chars_append]
  simp only [chars, List.flatMap_cons, List.flatMap_nil, Line.toList_text, Body.toList_key,
    Body.toList_field, hid,
    List.append_assoc, List.cons_append, List.nil_append, List.append_nil]
  rfl

/-- Three characters at the front, none of them a colon. -/
theorem exists_three_of_notMem {s : List Char} (hlen : 3 ≤ s.length) (hs : ':' ∉ s) :
    ∃ x y z t, s = x :: y :: z :: t ∧ x ≠ ':' ∧ y ≠ ':' ∧ z ≠ ':' := by
  match s, hlen with
  | x :: y :: z :: t, _ =>
      simp only [List.mem_cons, not_or] at hs
      exact ⟨x, y, z, t, rfl, Ne.symm hs.1, Ne.symm hs.2.1, Ne.symm hs.2.2.1⟩

/-- The id of a VLAN and the line that follows it start with three characters none of which is a colon. -/
theorem exists_three_after_mid (v : VlanChild) (rest : List Char) :
    ∃ x y z t, Nat.toDigits 10 v.vlanId.val ++ ("\n      link: ".toList ++ rest) = x :: y :: z :: t ∧
      x ≠ ':' ∧ y ≠ ':' ∧ z ≠ ':' := by
  have hdigits : ':' ∉ Nat.toDigits 10 v.vlanId.val := IPv4Address.notMem_toDigits (by decide) _
  have hlf : ':' ∉ "\n      link".toList := by decide
  obtain ⟨x, y, z, t, ht, hne⟩ := exists_three_of_notMem
    (s := Nat.toDigits 10 v.vlanId.val ++ "\n      link".toList)
    (by rw [List.length_append]; exact Nat.le_add_left_of_le (by decide))
    (by rw [List.mem_append]; exact not_or.mpr ⟨hdigits, hlf⟩)
  refine ⟨x, y, z, t ++ (": ".toList ++ rest), ?_, hne⟩
  have hlink : "\n      link: ".toList = "\n      link".toList ++ ": ".toList := by decide
  rw [hlink, List.append_assoc, ← List.append_assoc, ht]
  rfl

/-- **Two stanzas with different names differ in their text**, whatever follows them. -/
theorem chars_vlan_ne {v v' : VlanChild} (hname : v.name.val ≠ v'.name.val) (r r' : List Char) :
    chars (NetworkConfig.vlan v) ++ r ≠ chars (NetworkConfig.vlan v') ++ r' := by
  intro h
  obtain ⟨rest, hv⟩ := chars_vlan v
  obtain ⟨rest', hv'⟩ := chars_vlan v'
  have hne : v.name.val.toList ≠ v'.name.val.toList := fun heq => hname (String.toList_inj.mp heq)
  have hlen : v.name.val.toList.length ≤ 15 := v.name.bounds.2
  have hlen' : v'.name.val.toList.length ≤ 15 := v'.name.bounds.2
  have hpos : 1 ≤ v.name.val.toList.length := v.name.bounds.1
  have hpos' : 1 ≤ v'.name.val.toList.length := v'.name.bounds.1
  simp only [hv, hv', List.append_assoc] at h
  -- one name continues the other, so `mid` would occur again inside what follows the shorter one
  rcases List.append_eq_append_iff.mp (List.append_cancel_left h) with ⟨w, hw, hmid⟩ | ⟨w, hw, hmid⟩
  · obtain ⟨x, y, z, t, ht, hx, hy, hz⟩ := exists_three_after_mid v (rest ++ r)
    rw [ht] at hmid
    refine mid_ne_shift (w := w) (fun hnil => hne ?_) ?_ hx hy hz hmid
    · rw [hw, hnil, List.append_nil]
    · have := congrArg List.length hw
      rw [List.length_append] at this
      omega
  · obtain ⟨x, y, z, t, ht, hx, hy, hz⟩ := exists_three_after_mid v' (rest' ++ r')
    rw [ht] at hmid
    refine mid_ne_shift (w := w) (fun hnil => hne ?_) ?_ hx hy hz hmid
    · rw [hw, hnil, List.append_nil]
    · have := congrArg List.length hw
      rw [List.length_append] at this
      omega

/-- **The text of a list of VLAN stanzas determines the list**, among the orders of one list. -/
theorem vlans_eq_of_chars {l l' : List VlanChild} (hp : l.Perm l') (hnd : (l.map (·.name.val)).Nodup)
    (h : chars (l.flatMap NetworkConfig.vlan) = chars (l'.flatMap NetworkConfig.vlan)) : l = l' := by
  induction l generalizing l' with
  | nil => exact hp.nil_eq
  | cons v l ih =>
      cases l' with
      | nil => exact absurd hp.length_eq (by simp)
      | cons v' l' =>
          rw [List.flatMap_cons, List.flatMap_cons, chars_append, chars_append] at h
          have heq : v = v' := by
            by_contra hne
            refine chars_vlan_ne (fun hname => hne ?_) _ _ h
            exact List.inj_on_of_nodup_map hnd List.mem_cons_self (hp.mem_iff.mpr List.mem_cons_self) hname
          subst heq
          exact congrArg _ (ih hp.cons_inv (List.nodup_cons.mp hnd).2 (List.append_cancel_left h))

/-! ## Two intents that differ only in the order of their lists -/

/-- The Netplan document without its VLAN stanzas. -/
def beforeVlans (role : Role) (ctx : HostIntentFields) : List Line :=
  template role .networkConfig { ctx with vlans := [] }

theorem networkConfig_eq (role : Role) (ctx : HostIntentFields) :
    template role .networkConfig ctx = beforeVlans role ctx ++ ctx.vlans.flatMap NetworkConfig.vlan := by
  cases role <;>
    simp only [beforeVlans, template, Cpu.networkConfig, GpuB300.networkConfig, GpuB200.networkConfig,
      roceNetworkConfig, GpuH200.networkConfig, List.flatMap_nil, List.append_nil]

section Permuted

variable {i j : HostIntentFields} (h : HostIntentFields.Permuted i j) (hi : i.Satisfies)
include h hi

/-- All that can differ in the context of the templates is the order of the VLANs. -/
theorem canonicalize_of_permuted :
    canonicalize j = { canonicalize i with vlans := (canonicalize j).vlans } := by
  have hnames : ((i.nsNics.map (·.name.val) ++ i.roceUnderlays.map (·.name.val)) ++
      i.ibUnderlays.map (·.name.val)).Nodup := List.Nodup.of_append_left hi.uniqueNames
  have hns : sortedBy (· ≤ ·) (·.name.val) i.nsNics = sortedBy (· ≤ ·) (·.name.val) j.nsNics :=
    sortedBy_eq_of_perm (fun a ha b hb => List.inj_on_of_nodup_map
      (List.Nodup.of_append_left (List.Nodup.of_append_left hnames)) ha hb) h.nsNics
  have hroce : sortedBy (· ≤ ·) (·.name.val) i.roceUnderlays = sortedBy (· ≤ ·) (·.name.val)
      j.roceUnderlays :=
    sortedBy_eq_of_perm (fun a ha b hb => List.inj_on_of_nodup_map
      (List.Nodup.of_append_right (List.Nodup.of_append_left hnames)) ha hb) h.roceUnderlays
  have hib : sortedBy (· ≤ ·) (·.name.val) i.ibUnderlays = sortedBy (· ≤ ·) (·.name.val) j.ibUnderlays :=
    sortedBy_eq_of_perm (fun a ha b hb => List.inj_on_of_nodup_map
      (List.Nodup.of_append_right hnames) ha hb) h.ibUnderlays
  have hmembers : sortedBy (· ≤ ·) id i.bond.members = sortedBy (· ≤ ·) id j.bond.members :=
    sortedBy_eq_of_perm (fun _ _ _ _ heq => heq) h.bondMembers
  obtain ⟨htag, hhost, hrole, -, hbondName, -, hmode, hrate, hpolicy, hmtu, -, -, -⟩ := h
  obtain ⟨itag, ihost, irole, insNics, ⟨ibname, imembers, ilen, imode, irate, ipolicy, imtu⟩, ivlans,
      iroce, iib⟩ := i
  obtain ⟨jtag, jhost, jrole, jnsNics, ⟨jbname, jmembers, jlen, jmode, jrate, jpolicy, jmtu⟩, jvlans,
      jroce, jib⟩ := j
  simp only at htag hhost hrole hbondName hmode hrate hpolicy hmtu
  simp_all [canonicalize]

/-- **The rendered files are equal exactly when the canonical orders of the VLANs are.** -/
theorem render_eq_iff :
    (∀ kind, render i kind = render j kind) ↔ (canonicalize i).vlans = (canonicalize j).vlans := by
  constructor
  · intro heq
    have hchars := congrArg String.toList (heq .networkConfig)
    rw [render, render, toList_renderText, toList_renderText, renderLines, renderLines, networkConfig_eq,
      networkConfig_eq, canonicalize_of_permuted h hi, ← h.role, chars_append, chars_append] at hchars
    refine vlans_eq_of_chars ?_ ?_ (List.append_cancel_left hchars)
    · exact (canonicalize_vlans_perm i).trans (h.vlans.trans (canonicalize_vlans_perm j).symm)
    · exact ((canonicalize_vlans_perm i).map _).nodup_iff.mpr (List.Nodup.of_append_right hi.uniqueNames)
  · intro heq kind
    have hctx : canonicalize j = canonicalize i := by rw [canonicalize_of_permuted h hi, ← heq]
    rw [render, render, renderLines, renderLines, hctx, h.role]

end Permuted

theorem renderFor_eq_iff (i j : HostIntent) (kind : FileKind) :
    renderFor i kind = renderFor j kind ↔
      render i.toHostIntentFields kind = render j.toHostIntentFields kind :=
  String.toByteArray_inj

/-- **When rendering is independent of the input order.** Two valid intents that differ only by permutations
    of their lists render to the same bytes, file by file, exactly when VLANs with one `vlan_id` occur in
    the same order in both. -/
theorem renderFor_eq_iff_of_permuted (i j : HostIntent)
    (h : HostIntentFields.Permuted i.toHostIntentFields j.toHostIntentFields) :
    (∀ kind, renderFor i kind = renderFor j kind) ↔
      ∀ id, i.vlans.filter (·.vlanId.val = id) = j.vlans.filter (·.vlanId.val = id) := by
  simp only [renderFor_eq_iff]
  rw [render_eq_iff h i.satisfies]
  exact sortedBy_eq_iff

/-- The `cpu` intent with its lists reversed. -/
def cpuReversed : HostIntent where
  toHostIntentFields := { cpuFields with
    nsNics := cpuFields.nsNics.reverse
    bond := { cpuFields.bond with members := ["nsb", "nsa"], membersLen := by decide }
    vlans := cpuFields.vlans.reverse }
  valid := by decide

theorem cpuReversed_permuted :
    HostIntentFields.Permuted cpuIntent.toHostIntentFields cpuReversed.toHostIntentFields where
  assetTag := rfl
  hostname := rfl
  role := rfl
  nsNics := (List.reverse_perm _).symm
  bondName := rfl
  bondMembers := List.Perm.swap _ _ _
  bondMode := rfl
  bondLacpRate := rfl
  bondHashPolicy := rfl
  bondMtu := rfl
  vlans := (List.reverse_perm _).symm
  roceUnderlays := .refl _
  ibUnderlays := .refl _

/-- The `cpu` fixture has distinct VLAN ids: reversing its lists changes no byte. -/
theorem renderFor_cpuReversed :
    renderFor cpuIntent .metaData = renderFor cpuReversed .metaData ∧
      renderFor cpuIntent .networkConfig = renderFor cpuReversed .networkConfig ∧
      renderFor cpuIntent .userData = renderFor cpuReversed .userData := by
  have hall : ∀ kind, renderFor cpuIntent kind = renderFor cpuReversed kind := by
    refine (renderFor_eq_iff_of_permuted _ _ cpuReversed_permuted).mpr fun id => ?_
    by_cases h100 : id = 100
    · subst h100; rfl
    by_cases h200 : id = 200
    · subst h200; rfl
    by_cases h300 : id = 300
    · subst h300; rfl
    simp [cpuIntent, cpuReversed, cpuFields, Ne.symm h100, Ne.symm h200, Ne.symm h300]
  exact ⟨hall _, hall _, hall _⟩

/-- The `cpu` intent with the same `vlan_id` on all its VLANs, the last two in either order. -/
def sharedVlanId (swapped : Bool) : HostIntent where
  toHostIntentFields := { cpuFields with
    vlans := match cpuFields.vlans.map (fun v => { v with vlanId := ⟨400, by decide⟩ }) with
      | [mgmt, storage, ingress] => if swapped then [mgmt, ingress, storage] else [mgmt, storage, ingress]
      | vlans => vlans }
  valid := by cases swapped <;> decide

/-- Two valid intents that differ only in the order of their VLANs and render to different bytes. -/
theorem renderFor_sharedVlanId_ne :
    HostIntentFields.Permuted (sharedVlanId false).toHostIntentFields (sharedVlanId true).toHostIntentFields ∧
      ¬ ∀ kind, renderFor (sharedVlanId false) kind = renderFor (sharedVlanId true) kind := by
  have hp : HostIntentFields.Permuted (sharedVlanId false).toHostIntentFields
      (sharedVlanId true).toHostIntentFields :=
    { assetTag := rfl, hostname := rfl, role := rfl, nsNics := .refl _, bondName := rfl,
      bondMembers := .refl _,
      bondMode := rfl, bondLacpRate := rfl, bondHashPolicy := rfl, bondMtu := rfl,
      vlans := .cons _ (.swap _ _ _), roceUnderlays := .refl _, ibUnderlays := .refl _ }
  refine ⟨hp, fun heq => ?_⟩
  simp only [renderFor_eq_iff] at heq
  have hvlans := (render_eq_iff hp (sharedVlanId false).satisfies).mp heq
  exact absurd hvlans (by decide)

end Render
end HostConfig
