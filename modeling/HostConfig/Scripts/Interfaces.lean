import HostConfig.Scripts.Soundness
import Mathlib.Data.Set.Card

/-!
# `Scripts.Interfaces` — what is observed of records, said of interfaces

The checks take the first record of a name, count records, and look at the family of an address entry. `ip
-j addr` gives each interface one record, under its name, and each IPv4 entry with its address:
`WellListed`. In such a listing a record is an interface, so that what a passing run observes it observes of
interfaces (`interfacesInEffect_iff_wellListed`): the VLANs it counts are names, each of them up with an
IPv4 address.
-/

namespace HostConfig
namespace Scripts

open Models

/-- The name of the interface, where the record has one. -/
def Record.ifname (rec : Record) : Option String :=
  match rec.lookup "ifname" with
  | some (.str name) => some name
  | _                => none

/-- Each record is an interface under a name of its own, its state can be read, and its IPv4
    addresses are texts. -/
structure WellListed (records : List Record) : Prop where
  named : ∀ rec ∈ records, rec.ifname.isSome = true
  distinct : (records.map Record.ifname).Nodup
  readable : ∀ rec ∈ records, (∃ up, isUp rec = .ok up) ∧ ∃ locals, ipv4s rec = .ok locals
  texts : ∀ rec ∈ records, ∀ locals, ipv4s rec = .ok locals → ∀ j ∈ locals, ∃ address, j = .str address

section

variable (records : List Record) (name : String)

/-- The interface of this name is up. -/
def IsUp : Prop := ∃ rec ∈ records, rec.ifname = some name ∧ isUp rec = .ok true

/-- It is up and has an IPv4 address. -/
def IsAddressed : Prop := ∃ rec ∈ records, rec.ifname = some name ∧ isUp rec = .ok true ∧
  ∃ locals, ipv4s rec = .ok locals ∧ ∃ address, .str address ∈ locals

def HasMtu (mtu : Int) : Prop := ∃ rec ∈ records, rec.ifname = some name ∧
    (rec.get "mtu" .null).isInt mtu = true

end

/-- The interfaces named after the bond that are up with an IPv4 address. -/
def vlansUp (bondName : String) (records : List Record) : Set String :=
  {name | (bondName ++ ".").toList <+: name.toList ∧ IsAddressed records name}

section

variable {py : Python} {records : List Record} {rec : Record} {name : String} {cfg : Config}

/-! ## One record -/

theorem isStr_ifname : (rec.get "ifname" .null).isStr name = true ↔ rec.ifname = some name := by
  unfold Record.get Record.ifname
  cases rec.lookup "ifname" with
  | none => simp [Json.isStr]
  | some j => cases j <;> simp [Json.isStr]

/-- The record found under a name is the one that has it. -/
theorem iface_eq_some_iff (hdistinct : (records.map Record.ifname).Nodup) :
    iface records name = some rec ↔ rec ∈ records ∧ rec.ifname = some name := by
  have hfound : ∀ {rec : Record}, iface records name = some rec → rec ∈ records ∧ rec.ifname = some name := by
    intro rec hfind
    have hstr : (rec.get "ifname" .null).isStr name = true := by
      have hpred := List.find?_some hfind
      exact hpred
    exact ⟨List.mem_of_find?_eq_some hfind, isStr_ifname.mp hstr⟩
  constructor
  · exact hfound
  · rintro ⟨hmem, hname⟩
    cases hfind : iface records name with
    | none => exact absurd (isStr_ifname.mpr hname) (List.find?_eq_none.mp hfind rec hmem)
    | some rec' =>
      obtain ⟨hmem', hname'⟩ := hfound hfind
      rw [List.inj_on_of_nodup_map hdistinct hmem' hmem (hname'.trans hname.symm)]

theorem isVlanOf_iff {bondName : String} (hname : rec.ifname = some name) :
    isVlanOf py bondName rec = (bondName ++ ".").toList.isPrefixOf name.toList := by
  unfold Record.ifname at hname
  unfold isVlanOf Record.get
  split at hname
  · rename_i name' hlookup
    rw [hlookup, Option.getD_some, ← Option.some.inj hname]
    rfl
  · cases hname

theorem isUp_eq_ok_true_iff : isUp rec = .ok true ↔ rec.up = true := by
  constructor
  · exact up_of_isUp
  · exact isUp_of_up

/-- An IPv4 entry is an address. -/
theorem WellListed.hasIpv4_iff (h : WellListed records) (hrec : rec ∈ records) :
    (∃ locals, ipv4s rec = .ok locals ∧ ∃ address, .str address ∈ locals) ↔ rec.hasIpv4 = true := by
  obtain ⟨-, locals, hlocals⟩ := h.readable rec hrec
  rw [hasIpv4_of_ipv4s hlocals]
  constructor
  · rintro ⟨locals', hlocals', address, hmem⟩
    obtain rfl := Except.ok.inj (hlocals.symm.trans hlocals')
    simp [List.ne_nil_of_mem hmem]
  · intro hnonempty
    obtain ⟨j, hj⟩ := List.exists_mem_of_ne_nil locals (by simpa using hnonempty)
    obtain ⟨address, rfl⟩ := h.texts rec hrec locals hlocals j hj
    exact ⟨locals, hlocals, address, hj⟩

theorem WellListed.isAddressed_iff (h : WellListed records) :
    IsAddressed records name ↔ ∃ rec ∈ records, rec.ifname = some name ∧ (rec.up && rec.hasIpv4) = true := by
  unfold IsAddressed
  refine exists_congr fun rec => and_congr_right fun hrec => and_congr_right fun _ => ?_
  rw [h.hasIpv4_iff hrec, isUp_eq_ok_true_iff, Bool.and_eq_true]

/-! ## The count -/

/-- What is counted in a list are values, if each element has a value of its own. -/
theorem countP_eq_ncard {α β : Type} {l : List α} {f : α → β} (hdistinct : (l.map f).Nodup) (p : α → Bool) :
    l.countP p = Set.ncard {b | ∃ a ∈ l, f a = b ∧ p a = true} := by
  classical
  have hkept : ((l.filter p).map f).Nodup := hdistinct.sublist (List.filter_sublist.map f)
  have hset : {b | ∃ a ∈ l, f a = b ∧ p a = true} = ↑((l.filter p).map f).toFinset := by
    ext b
    simp only [Set.mem_ofPred_eq, List.coe_toFinset, List.mem_map, List.mem_filter]
    constructor
    · rintro ⟨a, hmem, hvalue, hp⟩
      exact ⟨a, ⟨hmem, hp⟩, hvalue⟩
    · rintro ⟨a, ⟨hmem, hp⟩, hvalue⟩
      exact ⟨a, hmem, hvalue, hp⟩
  rw [hset, Set.ncard_coe_finset, List.toFinset_card_of_nodup hkept, List.length_map,
    List.countP_eq_length_filter]

/-- The records `check_vlans` counts are the interfaces. -/
theorem WellListed.countP_vlans_eq_ncard (h : WellListed records) {bondName : String} :
    (records.countP fun r => isVlanOf py bondName r && (r.up && r.hasIpv4)) =
      (vlansUp bondName records).ncard := by
  rw [countP_eq_ncard h.distinct,
    ← Set.ncard_image_of_injective (vlansUp bondName records) (Option.some_injective _)]
  congr 1
  ext value
  simp only [Set.mem_ofPred_eq, Set.mem_image, vlansUp, h.isAddressed_iff, Bool.and_eq_true]
  constructor
  · rintro ⟨rec, hrec, rfl, hvlan, hup⟩
    obtain ⟨name, hname⟩ := Option.isSome_iff_exists.mp (h.named rec hrec)
    rw [isVlanOf_iff hname, List.isPrefixOf_iff_prefix] at hvlan
    exact ⟨name, ⟨hvlan, rec, hrec, hname, hup⟩, hname.symm⟩
  · rintro ⟨name, ⟨hvlan, rec, hrec, hname, hup⟩, rfl⟩
    refine ⟨rec, hrec, hname, ?_, hup⟩
    rw [isVlanOf_iff hname, List.isPrefixOf_iff_prefix]
    exact hvlan

/-! ## The listing -/

/-- A rail is one interface: its state, its address and its MTU are found in one record. -/
theorem WellListed.rail_iff (h : WellListed records) {mtu : Int} :
    (∃ rec, iface records name = some rec ∧ rec.up = true ∧ rec.hasIpv4 = true ∧
      (rec.get "mtu" .null).isInt mtu = true) ↔ IsAddressed records name ∧ HasMtu records name mtu := by
  simp only [iface_eq_some_iff h.distinct, h.isAddressed_iff, HasMtu, Bool.and_eq_true]
  constructor
  · rintro ⟨rec, ⟨hrec, hname⟩, hup, haddressed, hmtu⟩
    exact ⟨⟨rec, hrec, hname, hup, haddressed⟩, rec, hrec, hname, hmtu⟩
  · rintro ⟨⟨rec, hrec, hname, hup, haddressed⟩, rec', hrec', hname', hmtu⟩
    obtain rfl := List.inj_on_of_nodup_map h.distinct hrec' hrec (hname'.trans hname.symm)
    exact ⟨rec', ⟨hrec', hname⟩, hup, haddressed, hmtu⟩

/-- **What is observed of the records is so of the interfaces.** The bond is up, as many interfaces as
    are asked for are named after it and up with an IPv4 address, and each rail is up with an IPv4
    address and the MTU. -/
theorem interfacesInEffect_iff_wellListed (h : WellListed records) :
    InterfacesInEffect py cfg records ↔
      IsUp records cfg.bondName ∧ ((vlansUp cfg.bondName records).ncard : Int) = cfg.vlanCount ∧
        ∀ k : Nat, (k : Int) < cfg.rails →
          IsAddressed records ("ib" ++ toString k) ∧ HasMtu records ("ib" ++ toString k) cfg.ipoibMtu := by
  have hbond : (∃ rec, iface records cfg.bondName = some rec ∧ rec.up = true) ↔
      IsUp records cfg.bondName := by
    unfold IsUp
    refine exists_congr fun rec => ?_
    rw [iface_eq_some_iff h.distinct, and_assoc]
    exact and_congr_right fun _ => and_congr_right fun _ => isUp_eq_ok_true_iff.symm
  constructor
  · rintro ⟨hfound, hvlans, hrails⟩
    rw [h.countP_vlans_eq_ncard] at hvlans
    exact ⟨hbond.mp hfound, hvlans, fun k hk => h.rail_iff.mp (hrails k hk)⟩
  · rintro ⟨hup, hvlans, hrails⟩
    refine ⟨hbond.mpr hup, ?_, fun k hk => h.rail_iff.mpr (hrails k hk)⟩
    rw [h.countP_vlans_eq_ncard]
    exact hvlans

end

end Scripts
end HostConfig
