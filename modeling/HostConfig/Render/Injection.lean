import HostConfig.Lib.TextLines
import HostConfig.Lib.YamlScalar
import HostConfig.Render.Embedded

/-!
# `Render.Injection` — what a field value can do to `user-data`

cloud-init runs `user-data` as root. Its top-level keys are the lines that start in column 0; the templates
write seven of them. Values are substituted as they are, and the models bound the length of a hostname, an
interface name or a search domain, not its characters, so a value with a line break can add lines. A line is
what a YAML reader takes for one: it ends at a line feed, a carriage return, U+0085, U+2028 or U+2029, and
is indented by spaces or tabs.

`Column0Fixed` says that the rendered text has exactly the seven lines in column 0, `NoInjection` which
intents have that property, and `column0Fixed_iff` that this is exact. Where it holds, what follows
`runcmd:` depends on the role and the names of the RoCE underlays only (`fromRuncmd_eq`).
-/

namespace HostConfig
namespace Render

open Models TextLines Yaml

/-! ## Lines and values without line breaks -/

theorem noBreak_mac (m : MacAddress) : NoBreak isBreak m.val.toList := by
  have hbreaks : ∀ b ∈ breaks, Regex.maxCount macRe b = some 0 := List.all_iff_forall_prop.mp (by decide)
  exact noBreak_of_forall fun b hb => m.notMem (hbreaks b hb)

theorem noBreak_int (n : Nat) : NoBreak isBreak (Seg.int n).text.toList := by
  have htext : (Seg.int n).text.toList = Nat.toDigits 10 n := Nat.toList_repr
  have hbreaks : ∀ b ∈ breaks, b.isDigit = false := List.all_iff_forall_prop.mp (by decide)
  rw [htext]
  exact noBreak_of_forall fun b hb => IPv4Address.notMem_toDigits (hbreaks b hb) n

theorem noBreak_chars (a : IPv4Address) : NoBreak isBreak a.chars := by
  have hbreaks : ∀ b ∈ breaks, b.isDigit = false ∧ b ≠ '.' := List.all_iff_forall_prop.mp (by decide)
  exact noBreak_of_forall fun b hb => a.notMem_chars (hbreaks b hb).1 (hbreaks b hb).2

theorem noBreak_ip (a : IPv4Address) : NoBreak isBreak (Seg.ip a).text.toList := by
  have htext : (Seg.ip a).text.toList = a.chars := a.toList_str
  rw [htext]
  exact noBreak_chars a

theorem noBreak_iface (a : IPv4Interface) : NoBreak isBreak (Seg.iface a).text.toList := by
  have htext : (Seg.iface a).text.toList = a.ip.chars ++ '/' :: (Seg.int a.prefixlen.val).text.toList := by
    rw [show (Seg.int a.prefixlen.val).text.toList = Nat.toDigits 10 a.prefixlen.val from Nat.toList_repr]
    exact a.toList_str
  rw [htext, noBreak_append, noBreak_cons]
  exact ⟨noBreak_chars a.ip, by decide, noBreak_int _⟩

/-- A line whose text keeps the lines it adds out of column 0. -/
def Line.Contained (l : Line) : Prop := contained isBreak isWhite l.body.text.toList = true

instance (l : Line) : Decidable l.Contained := inferInstanceAs (Decidable (_ = true))

theorem contained_field {k : String} (hk : NoBreak isBreak k.toList) (d : Nat) (v : Seg) :
    Line.Contained ⟨d, .field k v⟩ ↔ contained isBreak isWhite v.text.toList = true := by
  have hprefix : NoBreak isBreak (k.toList ++ [':', ' ']) := noBreak_append.mpr ⟨hk, by decide⟩
  have htext : (Body.field k v).text.toList = (k.toList ++ [':', ' ']) ++ v.text.toList := by
    rw [Body.toList_field, List.append_assoc]; rfl
  rw [Line.Contained, htext, contained_append_of_noBreak hprefix]

theorem contained_item (d : Nat) (v : Seg) :
    Line.Contained ⟨d, .item v⟩ ↔ contained isBreak isWhite v.text.toList = true := by
  have htext : (Body.item v).text.toList = ['-', ' '] ++ v.text.toList := Body.toList_item v
  rw [Line.Contained, htext, contained_append_of_noBreak (by decide)]

theorem contained_key (d : Nat) (k : Seg) :
    Line.Contained ⟨d, .key k⟩ ↔ contained isBreak isWhite (k.text.toList ++ [':']) = true := by
  rw [Line.Contained, Body.toList_key]

theorem contained_text (d : Nat) (s : String) :
    (text d s).Contained ↔ contained isBreak isWhite s.toList = true := by
  rw [Line.Contained, text, Body.toList_raw, List.flatMap_singleton]
  rfl

theorem contained_item_lit (d : Nat) (s : String) :
    Line.Contained ⟨d, .item (.lit s)⟩ ↔ contained isBreak isWhite s.toList = true := contained_item d _

theorem noBreak_replicate (n : Nat) : NoBreak isBreak (List.replicate n ' ') := by
  intro c hc
  rw [List.eq_of_mem_replicate hc]
  rfl

/-- The indentation of a line plays no part. -/
theorem contained_text_iff (l : Line) : contained isBreak isWhite l.text.toList = true ↔ l.Contained := by
  rw [Line.toList_text, contained_append_of_noBreak (noBreak_replicate l.indent),
    Line.Contained]

/-! ## The names and search domains of an intent -/

/-- A name that can be written as a key. -/
def NameContained (name : String) : Prop := contained isBreak isWhite (name.toList ++ [':']) = true

instance (name : String) : Decidable (NameContained name) := inferInstanceAs (Decidable (_ = true))

/-- The search domain of a VLAN, if it is emitted, stays on its line. -/
def SearchContained (v : VlanChild) : Prop :=
  v.dns ≠ [] → ∀ d, v.searchDomain = some d → contained isBreak isWhite d.toList = true

theorem forall_flatMap {α : Type} {l : List α} {f : α → List Line} {P : Line → Prop} {Q : α → Prop}
    (h : ∀ a, (∀ x ∈ f a, P x) ↔ Q a) : (∀ x ∈ l.flatMap f, P x) ↔ ∀ a ∈ l, Q a := by
  simp only [List.mem_flatMap, forall_exists_index, and_imp]
  exact ⟨fun hx a ha => (h a).mp fun x hxa => hx x a ha hxa, fun hq x a ha hxa => (h a).mpr (hq a ha) x hxa⟩

/-! Block by block, which values the lines depend on. -/

theorem contained_nsNic (nic : BondMember) :
    (∀ l ∈ NetworkConfig.nsNic nic, l.Contained) ↔ NameContained nic.name.val := by
  simp only [NetworkConfig.nsNic, List.forall_mem_cons, List.not_mem_nil, false_implies,
    implies_true, and_true]
  rw [contained_key, contained_key, contained_field (noBreak_of_ofList rfl rfl),
    contained_field (noBreak_of_ofList rfl rfl), contained_field (noBreak_of_ofList rfl rfl)]
  exact ⟨And.left, fun h => ⟨h, by decide, contained_of_noBreak (noBreak_mac nic.mac), contained_of_snoc h,
    contained_of_noBreak (noBreak_int _)⟩⟩

theorem contained_roceUnderlay (nic : RoceUnderlay) :
    (∀ l ∈ NetworkConfig.roceUnderlay nic, l.Contained) ↔ NameContained nic.name.val := by
  simp only [NetworkConfig.roceUnderlay, List.forall_mem_cons, List.not_mem_nil, false_implies,
    implies_true, and_true]
  rw [contained_key, contained_key, contained_field (noBreak_of_ofList rfl rfl),
    contained_field (noBreak_of_ofList rfl rfl), contained_field (noBreak_of_ofList rfl rfl), contained_key,
    contained_item, contained_field (noBreak_of_ofList rfl rfl)]
  exact ⟨And.left, fun h => ⟨h, by decide, contained_of_noBreak (noBreak_mac nic.mac), contained_of_snoc h,
    contained_of_noBreak (noBreak_int _), by decide, contained_of_noBreak (noBreak_iface _),
    contained_of_noBreak (noBreak_int _)⟩⟩

theorem contained_ibUnderlay (nic : InfinibandUnderlay) :
    (∀ l ∈ NetworkConfig.ibUnderlay nic, l.Contained) ↔ NameContained nic.name.val := by
  simp only [NetworkConfig.ibUnderlay, List.forall_mem_cons, List.not_mem_nil, false_implies,
    implies_true, and_true]
  rw [contained_key, contained_key, contained_field (noBreak_of_ofList rfl rfl),
    contained_field (noBreak_of_ofList rfl rfl), contained_field (noBreak_of_ofList rfl rfl), contained_key,
    contained_item]
  exact ⟨And.left, fun h => ⟨h, by decide, contained_of_noBreak (noBreak_mac nic.mac), contained_of_snoc h,
    contained_of_noBreak (noBreak_int _), by decide, contained_of_noBreak (noBreak_iface _)⟩⟩

theorem contained_bonds (bond : Bond) :
    (∀ l ∈ NetworkConfig.bonds bond, l.Contained) ↔
      NameContained bond.name.val ∧ ∀ m ∈ bond.members, contained isBreak isWhite m.toList = true := by
  have hmembers : (∀ l ∈ bond.members.map (fun member => (⟨8, .item (.str member)⟩ : Line)), l.Contained) ↔
      ∀ m ∈ bond.members, contained isBreak isWhite m.toList = true := by
    simp only [List.forall_mem_map, contained_item]
    rfl
  have hlast : ∀ l ∈ [(⟨6, .field "mtu" (.int bond.mtu.val)⟩ : Line), ⟨6, .key (.lit "parameters")⟩,
      ⟨8, .field "mode" (.str bond.mode.value)⟩, ⟨8, .field "lacp-rate" (.str bond.lacpRate.value)⟩,
      ⟨8, .field "transmit-hash-policy" (.str bond.transmitHashPolicy.value)⟩], l.Contained := by
    simp only [List.forall_mem_cons, List.not_mem_nil, false_implies, implies_true, and_true]
    rw [contained_field (noBreak_of_ofList rfl rfl), contained_key,
      contained_field (noBreak_of_ofList rfl rfl),
      contained_field (noBreak_of_ofList rfl rfl), contained_field (noBreak_of_ofList rfl rfl)]
    refine ⟨contained_of_noBreak (noBreak_int _), by decide, ?_, ?_, ?_⟩
    · cases bond.mode; decide
    · cases bond.lacpRate <;> decide
    · cases bond.transmitHashPolicy <;> decide
  rw [NetworkConfig.bonds, List.forall_mem_append, List.forall_mem_append, hmembers,
    iff_true_intro hlast, and_true]
  simp only [List.forall_mem_cons, List.not_mem_nil, false_implies, implies_true, and_true]
  rw [contained_key, contained_key, contained_key]
  exact ⟨fun h => ⟨h.1.2.2.1, h.2⟩, fun h => ⟨⟨by decide, by decide, h.1, by decide⟩, h.2⟩⟩

theorem contained_routes (gateway : Option IPv4Address) :
    ∀ l ∈ NetworkConfig.routes gateway, l.Contained := by
  cases gateway with
  | none => simp [NetworkConfig.routes]
  | some g =>
      simp only [NetworkConfig.routes, List.forall_mem_cons, List.not_mem_nil, false_implies,
        implies_true, and_true]
      rw [contained_key, contained_field (noBreak_of_ofList rfl rfl)]
      exact ⟨by decide, by decide, contained_of_noBreak (noBreak_ip g)⟩

theorem contained_nameservers (v : VlanChild) :
    (∀ l ∈ NetworkConfig.nameservers v.dns v.searchDomain, l.Contained) ↔ SearchContained v := by
  unfold NetworkConfig.nameservers SearchContained
  split
  · rename_i hdns
    simp [hdns]
  · rename_i hdns
    have hips : ∀ l ∈ v.dns.map (fun ns => (⟨10, .item (.ip ns)⟩ : Line)), l.Contained := by
      simp only [List.forall_mem_map, contained_item]
      exact fun ns _ => contained_of_noBreak (noBreak_ip ns)
    rw [List.forall_mem_append, List.forall_mem_append]
    simp only [List.forall_mem_cons, List.not_mem_nil, false_implies, implies_true, and_true, contained_key]
    cases hsearch : v.searchDomain with
    | none =>
        simp only [NetworkConfig.search, List.not_mem_nil, false_implies, implies_true, and_true]
        exact ⟨fun _ _ d hd => absurd hd (by simp), fun _ => ⟨⟨by decide, by decide⟩, hips⟩⟩
    | some d =>
        simp only [NetworkConfig.search, List.forall_mem_cons, List.not_mem_nil, false_implies,
          implies_true, and_true,
          contained_key, contained_item]
        exact ⟨fun h _ d' hd => Option.some.inj hd ▸ h.2.2,
          fun h => ⟨⟨⟨by decide, by decide⟩, hips⟩, by decide, h hdns d rfl⟩⟩

theorem contained_vlan (v : VlanChild) :
    (∀ l ∈ NetworkConfig.vlan v, l.Contained) ↔
      NameContained v.name.val ∧ contained isBreak isWhite v.parent.val.toList = true ∧
        SearchContained v := by
  rw [NetworkConfig.vlan, List.forall_mem_append, List.forall_mem_append, contained_nameservers]
  simp only [List.forall_mem_cons, List.not_mem_nil, false_implies, implies_true, and_true]
  rw [contained_key, contained_field (noBreak_of_ofList rfl rfl), contained_field (noBreak_of_ofList rfl rfl),
    contained_field (noBreak_of_ofList rfl rfl), contained_key, contained_item]
  exact ⟨fun h => ⟨h.1.1.1, h.1.1.2.2.1, h.2⟩, fun h => ⟨⟨⟨h.1, contained_of_noBreak (noBreak_int _), h.2.1,
    contained_of_noBreak (noBreak_int _), by decide, contained_of_noBreak (noBreak_iface _)⟩,
    contained_routes _⟩, h.2.2⟩⟩

/-- The names and values of a context that its role's Netplan document depends on. -/
def DocumentContained (role : Role) (ctx : HostIntentFields) : Prop :=
  ((∀ n ∈ ctx.nsNics, NameContained n.name.val) ∧
    match role with
    | .cpu               => True
    | .gpuB300 | .gpuB200 => ∀ n ∈ ctx.roceUnderlays, NameContained n.name.val
    | .gpuH200           => ∀ n ∈ ctx.ibUnderlays, NameContained n.name.val) ∧
  (NameContained ctx.bond.name.val ∧ ∀ m ∈ ctx.bond.members, contained isBreak isWhite m.toList = true) ∧
  ∀ v ∈ ctx.vlans, NameContained v.name.val ∧ contained isBreak isWhite v.parent.val.toList = true ∧
    SearchContained v

theorem contained_networkConfig (role : Role) (ctx : HostIntentFields) :
    (∀ l ∈ template role .networkConfig ctx, l.Contained) ↔ DocumentContained role ctx := by
  have hheader : ∀ l ∈ NetworkConfig.header, l.Contained := by decide
  have hvlansHeader : ∀ l ∈ NetworkConfig.vlansHeader, l.Contained := by decide
  have hns := forall_flatMap (l := ctx.nsNics) contained_nsNic
  have hroce := forall_flatMap (l := ctx.roceUnderlays) contained_roceUnderlay
  have hib := forall_flatMap (l := ctx.ibUnderlays) contained_ibUnderlay
  have hvlans := forall_flatMap (l := ctx.vlans) contained_vlan
  cases role <;>
    simp only [template, Cpu.networkConfig, GpuB300.networkConfig, GpuB200.networkConfig, roceNetworkConfig,
      GpuH200.networkConfig, DocumentContained, List.forall_mem_append, contained_bonds, hns,
        hroce, hib, hvlans,
      iff_true_intro hheader, iff_true_intro hvlansHeader, true_and, and_true, and_assoc]

/-! ## Valid intents -/

/-- **The intents that cannot inject structure.** No line break in the hostname; no line break in an
    interface name or an emitted search domain that puts what follows it into column 0. -/
structure NoInjection (i : HostIntent) : Prop where
  hostname : NoBreak isBreak i.hostname.val.toList
  names : ∀ n ∈ i.bond.name.val :: i.names, NameContained n
  search : ∀ v ∈ i.vlans, SearchContained v

theorem forall_names_iff (i : HostIntent) {P : String → Prop} : (∀ n ∈ i.names, P n) ↔
    ((∀ n ∈ i.nsNics, P n.name.val) ∧ ∀ n ∈ i.roceUnderlays, P n.name.val) ∧
      (∀ n ∈ i.ibUnderlays, P n.name.val) ∧ ∀ v ∈ i.vlans, P v.name.val := by
  simp only [HostIntentFields.names, ifaceNames, List.forall_mem_append, List.forall_mem_map, and_assoc]

/-- What the document of a valid intent depends on are its names and search domains: the bond members are
    names of N-S NICs, the parents the name of the bond, and there are no underlays of the other kind. -/
theorem documentContained_iff (i : HostIntent) :
    DocumentContained i.role (canonicalize i.toHostIntentFields) ↔
      (∀ n ∈ i.bond.name.val :: i.names, NameContained n) ∧ ∀ v ∈ i.vlans, SearchContained v := by
  -- the canonical intent has the same parts in another order
  have hns {x} : x ∈ (canonicalize i.toHostIntentFields).nsNics ↔ x ∈ i.nsNics :=
    (canonicalize_nsNics_perm i.toHostIntentFields).mem_iff
  have hroce {x} : x ∈ (canonicalize i.toHostIntentFields).roceUnderlays ↔ x ∈ i.roceUnderlays :=
    (canonicalize_roceUnderlays_perm i.toHostIntentFields).mem_iff
  have hib {x} : x ∈ (canonicalize i.toHostIntentFields).ibUnderlays ↔ x ∈ i.ibUnderlays :=
    (canonicalize_ibUnderlays_perm i.toHostIntentFields).mem_iff
  have hvlans {x} : x ∈ (canonicalize i.toHostIntentFields).vlans ↔ x ∈ i.vlans :=
    (canonicalize_vlans_perm i.toHostIntentFields).mem_iff
  have hmembers {x} : x ∈ (canonicalize i.toHostIntentFields).bond.members ↔ x ∈ i.bond.members :=
    (canonicalize_members_perm i.toHostIntentFields).mem_iff
  rw [List.forall_mem_cons, forall_names_iff]
  constructor
  · rintro ⟨⟨hnsOk, hunderlays⟩, ⟨hbond, -⟩, hvlansOk⟩
    refine ⟨⟨hbond, ⟨fun n hn => hnsOk n (hns.mpr hn), ?_⟩, ?_, fun v hv => (hvlansOk v (hvlans.mpr hv)).1⟩,
      fun v hv => (hvlansOk v (hvlans.mpr hv)).2.2⟩
    · intro n hn
      cases hrole : i.role with
      | cpu | gpuH200 =>
        rw [HostIntent.roceUnderlays_eq_nil (by rw [hrole]; rfl)] at hn
        exact absurd hn List.not_mem_nil
      | gpuB300 | gpuB200 => rw [hrole] at hunderlays; exact hunderlays n (hroce.mpr hn)
    · intro n hn
      cases hrole : i.role with
      | cpu | gpuB300 | gpuB200 =>
        rw [HostIntent.ibUnderlays_eq_nil (by rw [hrole]; rfl)] at hn
        exact absurd hn List.not_mem_nil
      | gpuH200 => rw [hrole] at hunderlays; exact hunderlays n (hib.mpr hn)
  · rintro ⟨⟨hbond, ⟨hnsOk, hroceOk⟩, hibOk, hvlansOk⟩, hsearch⟩
    refine ⟨⟨fun n hn => hnsOk n (hns.mp hn), ?_⟩, ⟨hbond, fun m hm => ?_⟩, fun v hv => ?_⟩
    · cases i.role with
      | cpu => trivial
      | gpuB300 | gpuB200 => exact fun n hn => hroceOk n (hroce.mp hn)
      | gpuH200 => exact fun n hn => hibOk n (hib.mp hn)
    · obtain ⟨n, hn, rfl⟩ := i.satisfies.bondMembers m (hmembers.mp hm)
      exact contained_of_snoc (hnsOk n hn)
    · have hv' := hvlans.mp hv
      refine ⟨hvlansOk v hv', ?_, hsearch v hv'⟩
      rw [i.satisfies.vlanParents v hv']
      exact contained_of_snoc hbond

/-! ## The lines of `user-data` in column 0 -/

/-- The lines of the text in column 0, by the template lines they come from. -/
theorem column0_chars (lines : List Line) :
    column0 isBreak isWhite (chars lines) = lines.flatMap fun l => column0 isBreak isWhite l.text.toList :=
  column0_pieces rfl _ lines

/-- A template line that does not start in column 0. -/
def Line.Inner (l : Line) : Prop := 0 < l.indent ∨ l = .blank

instance (l : Line) : Decidable l.Inner := inferInstanceAs (Decidable (_ ∨ _))

theorem starts_of_inner {l : Line} (h : l.Inner) : starts isWhite l.text.toList = false := by
  rcases h with h | rfl
  · obtain ⟨n, hn⟩ := Nat.exists_eq_succ_of_ne_zero (Nat.ne_of_gt h)
    rw [Line.toList_text, hn]
    rfl
  · decide

/-- Indented lines put nothing into column 0 exactly when they are contained. -/
theorem column0_inner_iff {lines : List Line} (h : ∀ l ∈ lines, l.Inner) :
    (lines.flatMap fun l => column0 isBreak isWhite l.text.toList) = [] ↔ ∀ l ∈ lines, l.Contained := by
  rw [List.flatMap_eq_nil_iff]
  refine forall₂_congr fun l hl => ?_
  rw [column0_eq_nil_iff isWhite_of_isBreak (starts_of_inner (h l hl)), contained_text_iff]

/-- The lines between `write_files:` and `runcmd:`. -/
def entries (role : Role) (ctx : HostIntentFields) : List Line :=
  otherEntries role ++ (UserData.netplanEntry ++ (embed (template role .networkConfig ctx) ++ [.blank]))

theorem inner_of_mem_entries {role : Role} {ctx : HostIntentFields} : ∀ l ∈ entries role ctx, l.Inner := by
  have hother : ∀ l ∈ otherEntries role, l.Inner := by cases role <;> decide +kernel
  have hentry : ∀ l ∈ UserData.netplanEntry, l.Inner := by decide
  intro l hl
  simp only [entries, List.mem_append, List.mem_singleton] at hl
  rcases hl with hl | hl | hl | rfl
  · exact hother l hl
  · exact hentry l hl
  · obtain ⟨l', -, rfl⟩ := List.mem_map.mp hl
    exact .inl (Nat.add_pos_right _ (by decide))
  · exact .inr rfl

/-- The entries depend on no more than the document in them. -/
theorem contained_entries_iff (role : Role) (ctx : HostIntentFields) :
    (∀ l ∈ entries role ctx, l.Contained) ↔ DocumentContained role ctx := by
  have hother : ∀ l ∈ otherEntries role, l.Contained := by cases role <;> decide +kernel
  have hentry : ∀ l ∈ UserData.netplanEntry, l.Contained := by decide
  have hblank : ∀ l ∈ [Line.blank], l.Contained := by decide
  rw [entries, List.forall_mem_append, List.forall_mem_append, List.forall_mem_append, iff_true_intro hother,
    iff_true_intro hentry, iff_true_intro hblank, true_and, true_and, and_true,
      ← contained_networkConfig, embed,
    List.forall_mem_map]
  refine ⟨fun h l hl => ?_, fun h l hl => h l (List.mem_filter.mp hl).1⟩
  by_cases hb : l.isBlank = true
  · have hbody : l.body = .blank := of_decide_eq_true hb
    rw [Line.Contained, hbody]
    rfl
  · exact h l (List.mem_filter.mpr ⟨hl, by simpa using hb⟩)

theorem contained_rdmaLinkAdd {nic : RoceUnderlay} (h : NameContained nic.name.val) :
    ∀ l ∈ rdmaLinkAdd nic, l.Contained := by
  have hspace : ∀ rest, contained isBreak isWhite (' ' :: rest) = true →
      contained isBreak isWhite (nic.name.val.toList ++ ' ' :: rest) = true := fun rest hrest => by
    rw [contained_append_cons, contained_snoc_sp (by decide) h, hrest]; rfl
  simp only [rdmaLinkAdd, List.forall_mem_cons, List.not_mem_nil, false_implies, implies_true, and_true]
  refine ⟨by decide, ?_, ?_⟩
  · rw [Line.Contained, Body.toList_raw]
    simp only [List.flatMap_cons, List.flatMap_nil, List.append_nil]
    rw [contained_append_of_noBreak (by decide)]
    exact hspace _ (by decide)
  · rw [Line.Contained, Body.toList_raw]
    simp only [List.flatMap_cons, List.flatMap_nil, List.append_nil]
    rw [contained_append_of_noBreak (by decide)]
    refine hspace _ ?_
    have htext : NoBreak isBreak " type rxe netdev ".toList := noBreak_of_ofList rfl rfl
    have htype : ∀ rest, contained isBreak isWhite (" type rxe netdev ".toList ++ rest) =
        contained isBreak isWhite rest := contained_append_of_noBreak htext
    exact (htype _).trans (hspace _ (by decide))

theorem inner_of_mem_runcmd {role : Role} {ctx : HostIntentFields} : ∀ l ∈ runcmd role ctx, l.Inner := by
  have hroce : ∀ l ∈ ctx.roceUnderlays.flatMap rdmaLinkAdd, l.Inner := by
    intro l hl
    obtain ⟨nic, -, hl⟩ := List.mem_flatMap.mp hl
    simp only [rdmaLinkAdd, List.mem_cons, List.not_mem_nil, or_false] at hl
    rcases hl with rfl | rfl | rfl <;> exact .inl (Nat.zero_lt_succ _)
  cases role with
  | cpu =>
      have hcpu : ∀ l ∈ [(⟨2, .item (.lit "netplan apply")⟩ : Line)], l.Inner := by decide
      exact hcpu
  | gpuB300 | gpuB200 =>
      simp only [runcmd, List.forall_mem_append]
      exact ⟨⟨by decide, hroce⟩, by decide⟩
  | gpuH200 =>
      have hh200 : ∀ l ∈ h200Runcmd.tail, l.Inner := by decide
      exact hh200

theorem contained_h200Runcmd : ∀ l ∈ h200Runcmd.tail, l.Contained := by
  simp only [h200Runcmd, List.tail_cons, List.forall_mem_cons, List.not_mem_nil, false_implies, implies_true,
    and_true, contained_text, contained_item_lit]
  and_intros <;> exact contained_of_noBreak (noBreak_of_ofList rfl rfl)

theorem contained_roceRuncmdTail : ∀ l ∈ roceRuncmdTail, l.Contained := by
  simp only [roceRuncmdTail, List.forall_mem_cons, List.not_mem_nil, false_implies, implies_true, and_true,
    contained_text, contained_item_lit]
  and_intros <;> exact contained_of_noBreak (noBreak_of_ofList rfl rfl)

theorem contained_roceRuncmdFixed : ∀ l ∈ roceRuncmdFixed.tail, l.Contained := by
  simp only [roceRuncmdFixed, List.tail_cons, List.forall_mem_cons, List.not_mem_nil,
    false_implies, implies_true,
    and_true, contained_text, contained_item_lit]
  and_intros <;> exact contained_of_noBreak (noBreak_of_ofList rfl rfl)

theorem contained_roceRuncmdHead {role : String} (hrole : NoBreak isBreak role.toList) :
    ∀ l ∈ (roceRuncmdHead role).tail, l.Contained := by
  have hsplit : (roceRuncmdHead role).tail = roceRuncmdFixed.tail ++
      [text 2 ("# Names match the " ++ role ++ " network-config (gpu0..gpu7 after Netplan renames).")] := rfl
  rw [hsplit, List.forall_mem_append, List.forall_mem_singleton, contained_text]
  refine ⟨contained_roceRuncmdFixed, contained_of_noBreak ?_⟩
  simp only [String.toList_append, noBreak_append]
  exact ⟨⟨noBreak_of_ofList rfl rfl, hrole⟩, noBreak_of_ofList rfl rfl⟩

theorem contained_runcmd {role : Role} {ctx : HostIntentFields}
    (h : ∀ n ∈ ctx.roceUnderlays, NameContained n.name.val) : ∀ l ∈ runcmd role ctx, l.Contained := by
  have hroce : ∀ l ∈ ctx.roceUnderlays.flatMap rdmaLinkAdd, l.Contained := by
    intro l hl
    obtain ⟨nic, hnic, hl⟩ := List.mem_flatMap.mp hl
    exact contained_rdmaLinkAdd (h nic hnic) l hl
  cases role with
  | cpu =>
      exact List.forall_mem_singleton.mpr
        ((contained_item_lit _ _).mpr (contained_of_noBreak (noBreak_of_ofList rfl rfl)))
  | gpuB300 | gpuB200 =>
      simp only [runcmd, List.forall_mem_append]
      exact ⟨⟨contained_roceRuncmdHead (noBreak_of_ofList rfl rfl), hroce⟩, contained_roceRuncmdTail⟩
  | gpuH200 => exact contained_h200Runcmd

/-- The lines before `runcmd:`. -/
def beforeRuncmd (role : Role) (ctx : HostIntentFields) : List Line :=
  UserData.identity ctx ++ (writeFilesHead role ++ entries role ctx)

/-- The lines of a `user-data`: the top-level ones, the entries, and `runcmd`. -/
theorem userData_eq_entries (role : Role) (ctx : HostIntentFields) :
    template role .userData ctx = beforeRuncmd role ctx ++ runcmdKey :: runcmd role ctx := by
  simp only [userData_eq, beforeNetplan, beforeRuncmd, entries, List.append_assoc, List.cons_append,
    List.nil_append]

/-- The seven lines the templates write into column 0, for one hostname. -/
def fixedLines (hostname : String) : List (List Char) :=
  ["#cloud-config".toList, ("hostname: " ++ hostname).toList, ("fqdn: " ++ hostname).toList,
   "manage_etc_hosts: true".toList, "preserve_hostname: false".toList, "write_files:".toList,
     "runcmd:".toList]

theorem column0_writeFilesHead (role : Role) :
    ((writeFilesHead role).flatMap fun l => column0 isBreak isWhite l.text.toList) =
      ["preserve_hostname: false".toList, "write_files:".toList] := by
  cases role <;> decide +kernel

theorem column0_identity (ctx : HostIntentFields) :
    ((UserData.identity ctx).flatMap fun l => column0 isBreak isWhite l.text.toList) =
      "#cloud-config".toList :: (column0 isBreak isWhite ("hostname: " ++ ctx.hostname.val).toList ++
        (column0 isBreak isWhite ("fqdn: " ++ ctx.hostname.val).toList ++
          ["manage_etc_hosts: true".toList])) := by
  have hmarker : column0 isBreak isWhite (text 0 "#cloud-config").text.toList = ["#cloud-config".toList] := by decide
  have hmanage : column0 isBreak isWhite (⟨0, .field "manage_etc_hosts" (.lit "true")⟩ : Line).text.toList =
      ["manage_etc_hosts: true".toList] := by decide
  simp only [UserData.identity, List.flatMap_cons, List.flatMap_nil, List.append_nil, hmarker, hmanage]
  rfl

/-- Seven lines in order, with what a hostname, the entries and `runcmd` may add to them. -/
theorem eq_fixed_iff {α : Type} {a h f m p w r : α} {hs fs is js : List α} (hhs : hs ≠ []) (hfs : fs ≠ []) :
    a :: (hs ++ (fs ++ m :: p :: w :: (is ++ r :: js))) = [a, h, f, m, p, w, r] ↔
      hs = [h] ∧ fs = [f] ∧ is = [] ∧ js = [] := by
  constructor
  · intro heq
    have hlen := congrArg List.length heq
    have hhsLen : 0 < hs.length := List.length_pos_iff.mpr hhs
    have hfsLen : 0 < fs.length := List.length_pos_iff.mpr hfs
    simp only [List.length_append, List.length_cons, List.length_nil] at hlen
    obtain ⟨h', rfl⟩ := List.length_eq_one_iff.mp (show hs.length = 1 by omega)
    obtain ⟨f', rfl⟩ := List.length_eq_one_iff.mp (show fs.length = 1 by omega)
    obtain rfl := List.eq_nil_of_length_eq_zero (show is.length = 0 by omega)
    obtain rfl := List.eq_nil_of_length_eq_zero (show js.length = 0 by omega)
    simp only [List.cons_append, List.nil_append, List.cons.injEq, true_and, and_true] at heq
    exact ⟨by rw [heq.1], by rw [heq.2], rfl, rfl⟩
  · rintro ⟨rfl, rfl, rfl, rfl⟩
    rfl

/-- A line of text in column 0 that ends in a value is one line when the value has no line break. -/
theorem column0_eq_singleton_iff {label value : String} (hlabel : NoBreak isBreak label.toList)
    (hstarts : ∀ rest, starts isWhite (label.toList ++ rest) = true) :
    column0 isBreak isWhite (label ++ value).toList = [(label ++ value).toList] ↔
      NoBreak isBreak value.toList := by
  rw [String.toList_append]
  constructor
  · intro h
    have hline : label.toList ++ value.toList ∈ column0 isBreak isWhite (label.toList ++ value.toList) := by
      rw [h]
      exact List.mem_cons_self
    exact (noBreak_append.mp (noBreak_of_mem_splitOnP (List.mem_filter.mp hline).1)).2
  · intro h
    exact column0_of_noBreak (noBreak_append.mpr ⟨hlabel, h⟩) (hstarts _)

/-- The rendered `user-data` has exactly the templates' seven lines in column 0. -/
def Column0Fixed (i : HostIntent) : Prop :=
  column0 isBreak isWhite (render i.toHostIntentFields .userData).toList = fixedLines i.hostname.val

/-- What stands in column 0 of a rendered `user-data`. -/
theorem column0_userData (i : HostIntent) :
    column0 isBreak isWhite (render i.toHostIntentFields .userData).toList =
      "#cloud-config".toList :: (column0 isBreak isWhite ("hostname: " ++ i.hostname.val).toList ++
        (column0 isBreak isWhite ("fqdn: " ++ i.hostname.val).toList ++
          "manage_etc_hosts: true".toList :: "preserve_hostname: false".toList :: "write_files:".toList ::
            (((entries i.role (canonicalize i.toHostIntentFields)).flatMap fun l =>
              column0 isBreak isWhite l.text.toList) ++
              "runcmd:".toList ::
                ((runcmd i.role (canonicalize i.toHostIntentFields)).flatMap fun l =>
                  column0 isBreak isWhite l.text.toList)))) := by
  have hkey : column0 isBreak isWhite runcmdKey.text.toList = ["runcmd:".toList] := by decide
  rw [render, toList_renderText, column0_chars, renderLines, userData_eq_entries, beforeRuncmd]
  simp only [List.flatMap_append, List.flatMap_cons, column0_identity, column0_writeFilesHead, hkey,
    List.append_assoc, List.cons_append, List.nil_append]
  rfl

/-- **When the top level of `user-data` is the templates' own.** -/
theorem column0Fixed_iff (i : HostIntent) : Column0Fixed i ↔ NoInjection i := by
  have hstarts (rest) : starts isWhite ("hostname: ".toList ++ rest) = true := rfl
  have hstarts' (rest) : starts isWhite ("fqdn: ".toList ++ rest) = true := rfl
  have hhost : column0 isBreak isWhite ("hostname: " ++ i.hostname.val).toList ≠ [] :=
    column0_ne_nil isWhite_of_isBreak (by rw [String.toList_append]; exact hstarts _)
  have hfqdn : column0 isBreak isWhite ("fqdn: " ++ i.hostname.val).toList ≠ [] :=
    column0_ne_nil isWhite_of_isBreak (by rw [String.toList_append]; exact hstarts' _)
  rw [Column0Fixed, column0_userData, fixedLines, eq_fixed_iff hhost hfqdn,
    column0_eq_singleton_iff (noBreak_of_ofList rfl rfl) hstarts,
    column0_eq_singleton_iff (noBreak_of_ofList rfl rfl) hstarts',
    column0_inner_iff inner_of_mem_entries, column0_inner_iff inner_of_mem_runcmd, contained_entries_iff,
    documentContained_iff]
  constructor
  · rintro ⟨hhostname, -, ⟨hnames, hsearch⟩, -⟩
    exact ⟨hhostname, hnames, hsearch⟩
  · rintro ⟨hhostname, hnames, hsearch⟩
    refine ⟨hhostname, hhostname, ⟨hnames, hsearch⟩, contained_runcmd fun n hn => ?_⟩
    have hn' : n ∈ i.roceUnderlays := (canonicalize_roceUnderlays_perm _).mem_iff.mp hn
    exact ((forall_names_iff i).mp (List.forall_mem_cons.mp hnames).2).1.2 n hn'

/-! ## What follows `runcmd:` -/

/-- The text from the line `runcmd:` to the end. -/
def fromRuncmd (text : List Char) : List Char := fromLine isBreak "runcmd:".toList text

/-- A line of text made of a label and a value is not `runcmd:` when the label does not start like it. -/
theorem label_append_ne {label value : String} (h : ∀ rest, label.toList ++ rest ≠ "runcmd:".toList) :
    (label ++ value).toList ≠ "runcmd:".toList := by
  rw [String.toList_append]
  exact h _

/-- Without injection, there are six lines in column 0 before `runcmd:`. -/
theorem column0_beforeRuncmd {i : HostIntent} (h : NoInjection i) :
    ((beforeRuncmd i.role (canonicalize i.toHostIntentFields)).flatMap fun l =>
      column0 isBreak isWhite l.text.toList) =
      (fixedLines i.hostname.val).take 6 := by
  have hentries := (contained_entries_iff i.role _).mpr ((documentContained_iff i).mpr ⟨h.names, h.search⟩)
  have hhost : column0 isBreak isWhite ("hostname: " ++ i.hostname.val).toList =
      [("hostname: " ++ i.hostname.val).toList] :=
    (column0_eq_singleton_iff (noBreak_of_ofList rfl rfl) fun _ => rfl).mpr h.hostname
  have hfqdn : column0 isBreak isWhite ("fqdn: " ++ i.hostname.val).toList =
      [("fqdn: " ++ i.hostname.val).toList] :=
    (column0_eq_singleton_iff (noBreak_of_ofList rfl rfl) fun _ => rfl).mpr h.hostname
  rw [beforeRuncmd, List.flatMap_append, List.flatMap_append, column0_identity, column0_writeFilesHead,
    (column0_inner_iff inner_of_mem_entries).mpr hentries]
  show _ :: (column0 isBreak isWhite ("hostname: " ++ i.hostname.val).toList ++
    (column0 isBreak isWhite ("fqdn: " ++ i.hostname.val).toList ++ _)) ++ _ = _
  rw [hhost, hfqdn]
  rfl

/-- Without injection, no line in front of the template's `runcmd:` is one. -/
theorem ne_runcmd_of_mem {i : HostIntent} (h : NoInjection i) {l : Line}
    (hl : l ∈ beforeRuncmd i.role (canonicalize i.toHostIntentFields)) {line : List Char}
    (hline : line ∈ l.text.toList.splitOnP isBreak) : line ≠ "runcmd:".toList := by
  intro heq
  -- a line `runcmd:` would start in column 0, and the lines that do are known
  have hstarts : starts isWhite line = true := by
    rw [heq]
    rfl
  have hin : line ∈ (beforeRuncmd i.role (canonicalize i.toHostIntentFields)).flatMap
      fun l => column0 isBreak isWhite l.text.toList :=
    List.mem_flatMap.mpr ⟨l, hl, List.mem_filter.mpr ⟨hline, hstarts⟩⟩
  rw [column0_beforeRuncmd h] at hin
  simp only [fixedLines, List.take_succ_cons, List.take_zero, List.mem_cons, List.not_mem_nil,
    or_false] at hin
  subst heq
  have hhostNe : ("hostname: " ++ i.hostname.val).toList ≠ "runcmd:".toList :=
    label_append_ne fun rest hrest => absurd (List.cons.inj hrest).1 (by decide)
  have hfqdnNe : ("fqdn: " ++ i.hostname.val).toList ≠ "runcmd:".toList :=
    label_append_ne fun rest hrest => absurd (List.cons.inj hrest).1 (by decide)
  rcases hin with hin | hin | hin | hin | hin | hin
  · exact absurd hin (by decide)
  · exact hhostNe hin.symm
  · exact hfqdnNe hin.symm
  · exact absurd hin (by decide)
  · exact absurd hin (by decide)
  · exact absurd hin (by decide)

/-- Without injection, the first line `runcmd:` of the text is the template's. -/
theorem fromRuncmd_userData {i : HostIntent} (h : NoInjection i) :
    fromRuncmd (render i.toHostIntentFields .userData).toList =
      chars (runcmdKey :: runcmd i.role (canonicalize i.toHostIntentFields)) := by
  have hkey : chars (runcmdKey :: runcmd i.role (canonicalize i.toHostIntentFields)) =
      "runcmd:".toList ++ '\n' :: chars (runcmd i.role (canonicalize i.toHostIntentFields)) := rfl
  have hpieces : fromRuncmd (chars (beforeRuncmd i.role (canonicalize i.toHostIntentFields)) ++
      chars (runcmdKey :: runcmd i.role (canonicalize i.toHostIntentFields))) =
        fromRuncmd (chars (runcmdKey :: runcmd i.role (canonicalize i.toHostIntentFields))) :=
    fromLine_pieces rfl (fun l : Line => l.text.toList) _ _ fun _ hl _ hline => ne_runcmd_of_mem h hl hline
  rw [render, toList_renderText, renderLines, userData_eq_entries, chars_append, hpieces, hkey]
  exact fromLine_self rfl (by decide) _

/-- The lines of one RoCE underlay in `runcmd`, from its name. -/
def rdmaLines (name : String) : List Line :=
  [⟨2, .item (.lit ">-")⟩,
   ⟨4, .raw [.lit "rdma link show rxe_", .str name, .lit " > /dev/null 2>&1 ||"]⟩,
   ⟨4, .raw [.lit "rdma link add rxe_", .str name, .lit " type rxe netdev ", .str name, .lit " || true"]⟩]

/-- `runcmd` depends on the role and the names of the RoCE underlays. -/
theorem runcmd_eq {i j : HostIntent} (hrole : i.role = j.role)
    (hnames : (i.roceUnderlays.map (·.name.val)).Perm (j.roceUnderlays.map (·.name.val))) :
    runcmd i.role (canonicalize i.toHostIntentFields) = runcmd j.role
      (canonicalize j.toHostIntentFields) := by
  have hsorted : (canonicalize i.toHostIntentFields).roceUnderlays.map (·.name.val) =
      (canonicalize j.toHostIntentFields).roceUnderlays.map (·.name.val) := by
    rw [canonicalize, canonicalize, StableSort.map_sortedBy, StableSort.map_sortedBy]
    exact StableSort.sortedBy_eq_of_perm (fun _ _ _ _ heq => heq) hnames
  have hloop (l : List RoceUnderlay) : l.flatMap rdmaLinkAdd = (l.map (·.name.val)).flatMap rdmaLines := by
    rw [List.flatMap_map]; rfl
  rw [← hrole]
  cases i.role with
  | cpu | gpuH200 => rfl
  | gpuB300 | gpuB200 => rw [runcmd, runcmd, hloop, hloop, hsorted]

/-- **When values cannot inject structure.** For two valid intents of one role with the same RoCE underlay
    names, both `user-data` have exactly the templates' seven lines in column 0 and the same text from
    `runcmd:` to the end, exactly when neither intent injects. -/
theorem no_injection_iff (i j : HostIntent) (hrole : i.role = j.role)
    (hnames : (i.roceUnderlays.map (·.name.val)).Perm (j.roceUnderlays.map (·.name.val))) :
    (Column0Fixed i ∧ Column0Fixed j ∧
      fromRuncmd (render i.toHostIntentFields .userData).toList =
        fromRuncmd (render j.toHostIntentFields .userData).toList) ↔ NoInjection i ∧ NoInjection j := by
  rw [column0Fixed_iff, column0Fixed_iff]
  refine ⟨fun h => ⟨h.1, h.2.1⟩, fun h => ⟨h.1, h.2, ?_⟩⟩
  rw [fromRuncmd_userData h.1, fromRuncmd_userData h.2, runcmd_eq hrole hnames]

/-- The `cpu` intent under another hostname. -/
def cpuNamed (hostname : Hostname) : HostIntent where
  toHostIntentFields := { cpuFields with hostname }
  valid := by
    have hrules := (HostIntentFields.checkInvariants_ok_iff cpuFields).mp cpuIntent.valid
    exact (HostIntentFields.checkInvariants_ok_iff _).mpr { hrules with }

theorem noInjection_cpuNamed {hostname : Hostname} (h : NoBreak isBreak hostname.val.toList) :
    NoInjection (cpuNamed hostname) where
  hostname := h
  names := show ∀ n ∈ cpuFields.bond.name.val :: cpuFields.names, NameContained n by decide
  search v hv hdns := absurd ((show ∀ v ∈ cpuFields.vlans, v.dns = [] by decide) v hv) hdns

def firstHostname : Hostname := ⟨"k8s-cp-01", by decide⟩
def secondHostname : Hostname := ⟨"k8s-cp-02", by decide⟩

/-- Two hosts of the `cpu` role. -/
theorem no_injection_cpu :
    Column0Fixed (cpuNamed firstHostname) ∧ Column0Fixed (cpuNamed secondHostname) ∧
      fromRuncmd (render (cpuNamed firstHostname).toHostIntentFields .userData).toList =
        fromRuncmd (render (cpuNamed secondHostname).toHostIntentFields .userData).toList :=
  (no_injection_iff (cpuNamed firstHostname) (cpuNamed secondHostname) rfl (.refl [])).mpr
    ⟨noInjection_cpuNamed (noBreak_of_ofList (s := "k8s-cp-01") rfl rfl),
      noInjection_cpuNamed (noBreak_of_ofList (s := "k8s-cp-02") rfl rfl)⟩

/-- Hostnames of 22 characters that add a top-level `bootcmd`, after a line feed and after
    a carriage return. -/
theorem hostname_injects : ¬ Column0Fixed (cpuNamed ⟨"host\nbootcmd: [reboot]", by decide⟩) ∧
    ¬ Column0Fixed (cpuNamed ⟨"host\rbootcmd: [reboot]", by decide⟩) := by
  constructor
  · intro h
    exact absurd ((column0Fixed_iff _).mp h).hostname (by decide)
  · intro h
    exact absurd ((column0Fixed_iff _).mp h).hostname (by decide)

end Render
end HostConfig
