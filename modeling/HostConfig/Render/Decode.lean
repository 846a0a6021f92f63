import HostConfig.Lib.Traverse
import HostConfig.Render.Loaded

/-!
# `Render.Decode` — does loading undo rendering?

`Decodes loader i` says that it does: the loaded `meta-data` is the mapping of the two strings, and the
loaded `network-config` gives back the names, MACs, links and addresses of the intent as strings and its
numbers as integers.

The templates write every value without quotes, so a value comes back if it is a plain string: text that is
one plain scalar and that no implicit resolver claims. `decodes_iff` is about every safe loader. Plain
strings are enough, as long as the search domains (which the intent does not constrain, and which are not
among the values compared) are scalars. They are necessary where the values start no notation but that of
plain scalars; about quotes and the like a `SafeLoader` says nothing.
-/

namespace HostConfig
namespace Render

open Models HostIntentFields Outline Forest Yaml

/-! ## The loaded document gives the intent's values -/

theorem mapM_asStr (l : List String) : (l.map Value.str).mapM Value.asStr = some l := by
  have hread : ∀ s, (Value.str s).asStr = some (id s) := fun s => rfl
  have h := mapM_map_eq_some hread l
  rwa [List.map_id] at h

theorem loadEthernet_nsNicValue (nic : BondMember) :
    loadEthernet (nsNicValue nic) = some (.ofNsNic nic) := rfl

theorem loadEthernet_roceValue (nic : RoceUnderlay) : loadEthernet (roceValue nic) = some (.ofRoce nic) := rfl

theorem loadEthernet_ibValue (nic : InfinibandUnderlay) : loadEthernet (ibValue nic) = some (.ofIb nic) := rfl

theorem loadBond_bondValue (bond : Bond) : loadBond (bondValue bond) = some (.ofBond bond) := by
  have hinterfaces : loadStrings (some (.seq (bond.members.map .str))) = some bond.members := mapM_asStr _
  show (do
    let interfaces ← loadStrings (some (.seq (bond.members.map .str)))
    return LoadedBond.mk bond.name.val interfaces bond.mtu.val) = _
  rw [hinterfaces]
  rfl

/-- Routes and name servers add one key each to a VLAN's dict. -/
theorem get_routesValue {k : String} (hk : k ≠ "routes") (gateway : Option IPv4Address) :
    (Value.map (routesValue gateway)).get k = none := by
  cases gateway with
  | none => rfl
  | some gateway => simp [routesValue, Value.get, Value.asMap, Value.asStr, Ne.symm hk]

theorem get_nameserversValue {k : String} (hk : k ≠ "nameservers") (dns : List IPv4Address)
    (searchDomain : Option String) : (Value.map (nameserversValue dns searchDomain)).get k = none := by
  unfold nameserversValue
  split
  · rfl
  · simp [Value.get, Value.asMap, Value.asStr, Ne.symm hk]

theorem get_vlanValue {k : String} (hroutes : k ≠ "routes") (hns : k ≠ "nameservers") (vlan : VlanChild) :
    (vlanValue vlan).2.get k = (Value.map [(.str "id", .int vlan.vlanId.val),
      (.str "link", .str vlan.parent.val),
      (.str "mtu", .int vlan.mtu.val), addressesValue vlan.address]).get k := by
  rw [vlanValue, Value.get_map_append, Value.get_map_append, get_nameserversValue hns,
    get_routesValue hroutes]
  rfl

theorem loadGateways_vlanValue (vlan : VlanChild) :
    loadGateways ((vlanValue vlan).2.get "routes") = some (vlan.gateway.toList.map (·.str)) := by
  rw [vlanValue, Value.get_map_append, Value.get_map_append, get_nameserversValue (by decide)]
  cases vlan.gateway <;> rfl

theorem loadNameservers_vlanValue (vlan : VlanChild) :
    loadStrings (((vlanValue vlan).2.get "nameservers").bind (·.get "addresses")) =
      some (vlan.dns.map (·.str)) := by
  have hbase : ∀ gateway, ((Value.map (routesValue gateway)).get "nameservers") = none :=
    get_routesValue (by decide)
  rw [vlanValue, Value.get_map_append, Value.get_map_append, hbase]
  unfold nameserversValue
  by_cases hdns : vlan.dns = []
  · rw [if_pos hdns, hdns]
    rfl
  · rw [if_neg hdns]
    have haddresses : loadStrings (some (.seq (vlan.dns.map fun a => .str a.str))) = some
        (vlan.dns.map (·.str)) := by
      have h := mapM_asStr (vlan.dns.map (·.str))
      rwa [List.map_map] at h
    cases vlan.searchDomain <;> exact haddresses

theorem loadVlan_vlanValue (vlan : VlanChild) : loadVlan (vlanValue vlan) = some (.ofVlan vlan) := by
  unfold loadVlan
  rw [get_vlanValue (by decide) (by decide), get_vlanValue (by decide) (by decide),
    get_vlanValue (by decide) (by decide), get_vlanValue (by decide) (by decide), loadGateways_vlanValue,
    loadNameservers_vlanValue]
  rfl

/-- A role's document has all the NICs of a context with no underlays of the other kind. -/
theorem loadEthernets_ethernetsValue {role : Role} {ctx : HostIntentFields}
    (hroce : expectedRoce role = 0 → ctx.roceUnderlays = [])
    (hib : expectedIb role = 0 → ctx.ibUnderlays = []) :
    (ethernetsValue role ctx).mapM loadEthernet = some (LoadedNetplan.ofIntent ctx).ethernets := by
  have hns := mapM_map_eq_some loadEthernet_nsNicValue ctx.nsNics
  have hroceNics := mapM_map_eq_some loadEthernet_roceValue ctx.roceUnderlays
  have hibNics := mapM_map_eq_some loadEthernet_ibValue ctx.ibUnderlays
  unfold LoadedNetplan.ofIntent
  cases role with
  | cpu =>
    rw [hroce rfl, hib rfl]
    simpa [ethernetsValue] using hns
  | gpuB300 | gpuB200 =>
    rw [hib rfl, List.map_nil, List.append_nil]
    exact mapM_append_eq_some hns hroceNics
  | gpuH200 =>
    rw [hroce rfl, List.map_nil, List.append_nil]
    exact mapM_append_eq_some hns hibNics

theorem loadNetplan_documentValue {role : Role} {ctx : HostIntentFields}
    (hroce : expectedRoce role = 0 → ctx.roceUnderlays = [])
    (hib : expectedIb role = 0 → ctx.ibUnderlays = []) :
    loadNetplan (documentValue role ctx) = some (.ofIntent ctx) := by
  have hethernets := loadEthernets_ethernetsValue hroce hib
  have hbonds := mapM_map_eq_some loadBond_bondValue [ctx.bond]
  have hvlans := mapM_map_eq_some loadVlan_vlanValue ctx.vlans
  show (do
    let ethernets ← (ethernetsValue role ctx).mapM loadEthernet
    let bonds ← ([ctx.bond].map bondValue).mapM loadBond
    let vlans ← (ctx.vlans.map vlanValue).mapM loadVlan
    return LoadedNetplan.mk ethernets bonds vlans) = _
  rw [hethernets, hbonds, hvlans]
  rfl

/-! ## What a genuine document can give -/

theorem plain_of_loadEthernet {e : Value × Value} (hv : Genuine e.2) {x : LoadedEthernet}
    (h : loadEthernet e = some x) :
    (OneLine x.setName → PlainString x.setName) ∧ (OneLine x.macaddress → PlainString x.macaddress) := by
  obtain ⟨name, -, h⟩ := Option.bind_eq_some_iff.mp h
  obtain ⟨found, hfound, h⟩ := Option.bind_eq_some_iff.mp h
  obtain ⟨mac, hmac, h⟩ := Option.bind_eq_some_iff.mp h
  obtain ⟨macaddress, hmacaddress, h⟩ := Option.bind_eq_some_iff.mp h
  obtain ⟨set, hset, h⟩ := Option.bind_eq_some_iff.mp h
  obtain ⟨setName, hsetName, h⟩ := Option.bind_eq_some_iff.mp h
  obtain ⟨_, -, h⟩ := Option.bind_eq_some_iff.mp h
  obtain ⟨_, -, h⟩ := Option.bind_eq_some_iff.mp h
  obtain ⟨_, -, h⟩ := Option.bind_eq_some_iff.mp h
  obtain ⟨_, -, h⟩ := Option.bind_eq_some_iff.mp h
  obtain rfl := Option.some.inj h
  exact ⟨(hv.get hset).plainString hsetName, ((hv.get hfound).get hmac).plainString hmacaddress⟩

theorem plain_of_loadVlan {e : Value × Value} (hkey : ∀ s, e.1.asStr = some s → OneLine s → PlainKey s)
    (hv : Genuine e.2) {x : LoadedVlan} (h : loadVlan e = some x) :
    (OneLine x.name → PlainKey x.name) ∧ (OneLine x.link → PlainString x.link) := by
  obtain ⟨name, hname, h⟩ := Option.bind_eq_some_iff.mp h
  obtain ⟨_, -, h⟩ := Option.bind_eq_some_iff.mp h
  obtain ⟨_, -, h⟩ := Option.bind_eq_some_iff.mp h
  obtain ⟨parent, hparent, h⟩ := Option.bind_eq_some_iff.mp h
  obtain ⟨link, hlink, h⟩ := Option.bind_eq_some_iff.mp h
  obtain ⟨_, -, h⟩ := Option.bind_eq_some_iff.mp h
  obtain ⟨_, -, h⟩ := Option.bind_eq_some_iff.mp h
  obtain ⟨_, -, h⟩ := Option.bind_eq_some_iff.mp h
  obtain ⟨_, -, h⟩ := Option.bind_eq_some_iff.mp h
  obtain ⟨_, -, h⟩ := Option.bind_eq_some_iff.mp h
  obtain rfl := Option.some.inj h
  exact ⟨hkey name hname, (hv.get hparent).plainString hlink⟩

/-- **The strings taken from a genuine document are plain**, unless they have line breaks. -/
theorem plain_of_loadNetplan {v : Value} (hv : Genuine v) {d : LoadedNetplan} (h : loadNetplan v = some d) :
    (∀ x ∈ d.ethernets, (OneLine x.setName → PlainString x.setName) ∧
      (OneLine x.macaddress → PlainString x.macaddress)) ∧
      ∀ x ∈ d.vlans, (OneLine x.name → PlainKey x.name) ∧ (OneLine x.link → PlainString x.link) := by
  obtain ⟨network, hnetwork, h⟩ := Option.bind_eq_some_iff.mp h
  obtain ⟨ethernets, hethernets, h⟩ := Option.bind_eq_some_iff.mp h
  obtain ⟨es, hes, h⟩ := Option.bind_eq_some_iff.mp h
  obtain ⟨xs, hxs, h⟩ := Option.bind_eq_some_iff.mp h
  obtain ⟨_, -, h⟩ := Option.bind_eq_some_iff.mp h
  obtain ⟨_, -, h⟩ := Option.bind_eq_some_iff.mp h
  obtain ⟨_, -, h⟩ := Option.bind_eq_some_iff.mp h
  obtain ⟨vlans, hvlans, h⟩ := Option.bind_eq_some_iff.mp h
  obtain ⟨vs, hvs, h⟩ := Option.bind_eq_some_iff.mp h
  obtain ⟨ys, hys, h⟩ := Option.bind_eq_some_iff.mp h
  obtain rfl := Option.some.inj h
  have hnet := hv.get hnetwork
  refine ⟨fun x hx => ?_, fun x hx => ?_⟩
  · obtain ⟨e, he, hload⟩ := Traverse.exists_of_mapM_eq_some hxs x hx
    exact plain_of_loadEthernet ((hnet.get hethernets).of_mem_map hes e he).2 hload
  · obtain ⟨e, he, hload⟩ := Traverse.exists_of_mapM_eq_some hys x hx
    obtain ⟨hkey, hvalue⟩ := (hnet.get hvlans).of_mem_map hvs e he
    exact plain_of_loadVlan hkey hvalue hload

/-! ## Documents of bare values -/

theorem bare_mac (m : MacAddress) : Bare m.val := by
  have hopeners : ∀ c ∈ openers, Regex.maxCount macRe c = some 0 := List.all_iff_forall_prop.mp (by decide)
  have hbarred : ∀ c ∈ barred, Regex.maxCount macRe c = some 0 := List.all_iff_forall_prop.mp (by decide)
  exact bare_of_notMem fun c hc =>
    ⟨fun hmem => m.notMem (hopeners c hmem) hc, fun hmem => m.notMem (hbarred c hmem) hc⟩

theorem bare_numeric {cs : List Char} (h : ∀ c ∈ cs, c ∈ numericChars) : bare cs = true := by
  have hopeners : numericChars.all (· ∉ openers) = true := by decide
  have hbarred : numericChars.all (· ∉ barred) = true := by decide
  exact bare_of_notMem fun c hc => ⟨notMem_of_all hopeners (h c hc), notMem_of_all hbarred (h c hc)⟩

theorem bare_int (n : Nat) : bare (Seg.int n).text.toList = true := by
  have htext : (Seg.int n).text.toList = Nat.toDigits 10 n := Nat.toList_repr
  rw [htext]
  exact bare_numeric fun c hc => mem_numericChars_toDigits hc

theorem bare_ip (a : IPv4Address) : bare (Seg.ip a).text.toList = true := by
  have htext : (Seg.ip a).text.toList = a.chars := a.toList_str
  rw [htext]
  exact bare_numeric fun c hc => mem_numericChars_chars hc

theorem bare_iface (a : IPv4Interface) : bare (Seg.iface a).text.toList = true := by
  have htext : (Seg.iface a).text.toList = a.ip.chars ++
      '/' :: Nat.toDigits 10 a.prefixlen.val := a.toList_str
  rw [htext]
  refine bare_numeric fun c hc => ?_
  rcases List.mem_append.mp hc with hc | hc
  · exact mem_numericChars_chars hc
  · rcases List.mem_cons.mp hc with rfl | hc
    · decide
    · exact mem_numericChars_toDigits hc

/-- A search domain that is written out is bare. -/
def BareSearch (vlan : VlanChild) : Prop :=
  vlan.dns ≠ [] → ∀ searchDomain, vlan.searchDomain = some searchDomain → Bare searchDomain

/-- The strings a document substitutes are bare. -/
structure BareDocument (ctx : HostIntentFields) : Prop where
  nsNics : ∀ nic ∈ ctx.nsNics, Bare nic.name.val
  roceUnderlays : ∀ nic ∈ ctx.roceUnderlays, Bare nic.name.val
  ibUnderlays : ∀ nic ∈ ctx.ibUnderlays, Bare nic.name.val
  bond : Bare ctx.bond.name.val
  members : ∀ m ∈ ctx.bond.members, Bare m
  vlans : ∀ vlan ∈ ctx.vlans, Bare vlan.name.val ∧ Bare vlan.parent.val ∧ BareSearch vlan

theorem bare_nicTree {nic : PhysIface} (h : Bare nic.name.val) {more : Forest Body}
    (hmore : more.All BareLine) : (nicTree nic more).All BareLine := by
  simp only [nicTree, all_tree, all_append, all_leaf]
  have hmatch : BareLine (.key (.lit "match")) := bareLine_key (by decide)
  have hmac : BareLine (.field "macaddress" (.str nic.mac.val)) :=
    bareLine_field (by decide) (bare_mac nic.mac)
  have hset : BareLine (.field "set-name" (.str nic.name.val)) := bareLine_field (by decide) h
  have hmtu : BareLine (.field "mtu" (.int nic.mtu.val)) := bareLine_field (by decide) (bare_int _)
  exact ⟨bareLine_key h, ⟨⟨⟨hmatch, hmac⟩, hset⟩, hmtu⟩, hmore⟩

theorem bare_addressesTree (address : IPv4Interface) : (addressesTree address).All BareLine := by
  simp only [addressesTree, all_tree, all_leaf]
  exact ⟨bareLine_key (by decide), bareLine_item (bare_iface address)⟩

theorem bare_bondTree {bond : Bond} (hname : Bare bond.name.val) (hmembers : ∀ m ∈ bond.members, Bare m) :
    (bondTree bond).All BareLine := by
  simp only [bondTree, all_tree, all_append, all_leaf, all_concat]
  have hinterfaces : BareLine (.key (.lit "interfaces")) := bareLine_key (by decide)
  have hmtu : BareLine (.field "mtu" (.int bond.mtu.val)) := bareLine_field (by decide) (bare_int _)
  have hparameters : BareLine (.key (.lit "parameters")) := bareLine_key (by decide)
  refine ⟨bareLine_key hname, ⟨⟨hinterfaces, fun m hm => bareLine_item (hmembers m hm)⟩, hmtu⟩,
    hparameters, ⟨?_, ?_⟩, ?_⟩
  · cases bond.mode; exact bareLine_field (by decide) (by decide)
  · cases bond.lacpRate <;> exact bareLine_field (by decide) (by decide)
  · cases bond.transmitHashPolicy <;> exact bareLine_field (by decide) (by decide)

theorem bare_routesForest (gateway : Option IPv4Address) : (routesForest gateway).All BareLine := by
  cases gateway with
  | none => trivial
  | some gateway =>
    simp only [routesForest, all_tree, all_leaf]
    exact ⟨bareLine_key (by decide), bareLine_itemField (by decide) (by decide),
      bareLine_field (by decide) (bare_ip gateway)⟩

theorem bare_nameserversForest {vlan : VlanChild} (h : BareSearch vlan) :
    (nameserversForest vlan.dns vlan.searchDomain).All BareLine := by
  unfold nameserversForest
  split
  · trivial
  · rename_i hdns
    simp only [all_tree, all_append, all_concat, all_leaf]
    refine ⟨bareLine_key (by decide), ⟨bareLine_key (by decide), fun ns _ => bareLine_item (bare_ip ns)⟩, ?_⟩
    cases hsearch : vlan.searchDomain with
    | none => trivial
    | some s =>
      simp only [searchForest, all_tree, all_leaf]
      exact ⟨bareLine_key (by decide), bareLine_item (h hdns s hsearch)⟩

theorem bare_vlanTree {vlan : VlanChild} (hname : Bare vlan.name.val) (hlink : Bare vlan.parent.val)
    (hsearch : BareSearch vlan) : (vlanTree vlan).All BareLine := by
  simp only [vlanTree, all_tree, all_append, all_leaf]
  have hid : BareLine (.field "id" (.int vlan.vlanId.val)) := bareLine_field (by decide) (bare_int _)
  have hparent : BareLine (.field "link" (.str vlan.parent.val)) := bareLine_field (by decide) hlink
  have hmtu : BareLine (.field "mtu" (.int vlan.mtu.val)) := bareLine_field (by decide) (bare_int _)
  exact ⟨bareLine_key hname, ⟨⟨⟨⟨hid, hparent⟩, hmtu⟩, bare_addressesTree _⟩, bare_routesForest _⟩,
    bare_nameserversForest hsearch⟩

theorem bare_ethernetsForest {ctx : HostIntentFields} (h : BareDocument ctx) (role : Role) :
    (ethernetsForest role ctx).All BareLine := by
  refine (all_append _ _ _).mpr ⟨(all_concat _ _ _).mpr fun nic hnic =>
    bare_nicTree (h.nsNics nic hnic) trivial, ?_⟩
  cases role with
  | cpu => trivial
  | gpuB300 | gpuB200 =>
    refine (all_concat _ _ _).mpr fun nic hnic => bare_nicTree (h.roceUnderlays nic hnic) ?_
    rw [all_append, all_leaf]
    exact ⟨bare_addressesTree nic.address, bareLine_field (by decide) (bare_int _)⟩
  | gpuH200 =>
    exact (all_concat _ _ _).mpr fun nic hnic =>
      bare_nicTree (h.ibUnderlays nic hnic) (bare_addressesTree nic.address)

theorem bare_documentForest {ctx : HostIntentFields} (h : BareDocument ctx) (role : Role) :
    (documentForest role ctx).All BareLine := by
  simp only [documentForest, all_tree, all_append, all_leaf, all_concat]
  have hversion : BareLine (.field "version" (.lit "2")) := bareLine_field (by decide) (by decide)
  have hrenderer : BareLine (.field "renderer" (.lit "networkd")) := bareLine_field (by decide) (by decide)
  refine ⟨bareLine_key (by decide),
    ⟨⟨⟨hversion, hrenderer⟩, bareLine_key (by decide), bare_ethernetsForest h role⟩,
    bareLine_key (by decide), bare_bondTree h.bond h.members⟩, bareLine_key (by decide), ?_⟩
  intro vlan hvlan
  obtain ⟨hname, hlink, hsearch⟩ := h.vlans vlan hvlan
  exact bare_vlanTree hname hlink hsearch

/-! ## Decoding -/

/-- **Loading undoes rendering.** -/
def Decodes (loader : SafeLoader) (i : HostIntent) : Prop :=
  loader.load (render i.toHostIntentFields .metaData).toList =
      some (.map [(.str "instance-id", .str i.assetTag.val), (.str "local-hostname", .str i.hostname.val)]) ∧
    (loader.load (render i.toHostIntentFields .networkConfig).toList).bind loadNetplan =
      some (.ofIntent (canonicalize i.toHostIntentFields))

/-- The asset tag, the hostname, the names and the MACs are plain strings. -/
structure PlainValues (p : HostIntentFields) : Prop where
  assetTag : PlainString p.assetTag.val
  hostname : PlainString p.hostname.val
  nsNics : ∀ nic ∈ p.nsNics, PlainNic nic.toPhysIface
  roceUnderlays : ∀ nic ∈ p.roceUnderlays, PlainNic nic.toPhysIface
  ibUnderlays : ∀ nic ∈ p.ibUnderlays, PlainNic nic.toPhysIface
  bond : PlainString p.bond.name.val
  vlans : ∀ vlan ∈ p.vlans, PlainKey vlan.name.val

/-- The asset tag, the hostname, the names and the search domains start no notation but
    that of plain scalars. -/
structure BareValues (p : HostIntentFields) : Prop where
  assetTag : Bare p.assetTag.val
  hostname : Bare p.hostname.val
  nsNics : ∀ nic ∈ p.nsNics, Bare nic.name.val
  roceUnderlays : ∀ nic ∈ p.roceUnderlays, Bare nic.name.val
  ibUnderlays : ∀ nic ∈ p.ibUnderlays, Bare nic.name.val
  bond : Bare p.bond.name.val
  vlans : ∀ vlan ∈ p.vlans, Bare vlan.name.val ∧ BareSearch vlan

/-- The document of an intent substitutes no other strings, in whatever order. -/
theorem BareValues.document {i : HostIntent} (h : BareValues i.toHostIntentFields) :
    BareDocument (canonicalize i.toHostIntentFields) := by
  constructor
  case nsNics => exact fun nic hnic => h.nsNics nic ((canonicalize_nsNics_perm _).mem_iff.mp hnic)
  case roceUnderlays =>
    exact fun nic hnic => h.roceUnderlays nic ((canonicalize_roceUnderlays_perm _).mem_iff.mp hnic)
  case ibUnderlays =>
    exact fun nic hnic => h.ibUnderlays nic ((canonicalize_ibUnderlays_perm _).mem_iff.mp hnic)
  case bond => exact h.bond
  case members =>
    intro m hm
    obtain ⟨nic, hnic, rfl⟩ := i.satisfies.bondMembers m ((canonicalize_members_perm _).mem_iff.mp hm)
    exact h.nsNics nic hnic
  case vlans =>
    intro vlan hvlan
    have hmem : vlan ∈ i.vlans := (canonicalize_vlans_perm _).mem_iff.mp hvlan
    obtain ⟨hname, hsearch⟩ := h.vlans vlan hmem
    refine ⟨hname, ?_, hsearch⟩
    rw [i.satisfies.vlanParents vlan hmem]
    exact h.bond

/-- The two lines of `meta-data`. -/
def metaDataForest (p : HostIntentFields) : Forest Body :=
  .leaf (.field "instance-id" (.str p.assetTag.val)) ++ .leaf (.field "local-hostname" (.str p.hostname.val))

theorem toList_render (p : HostIntentFields) (kind : FileKind) :
    (render p kind).toList = chars (renderLines p kind) := by
  rw [render, toList_renderText]

theorem nonblank_metaData (p : HostIntentFields) :
    nonblank (renderLines p .metaData) = layout 0 (metaDataForest p) := by
  cases h : p.role <;> simp only [renderLines, h] <;> rfl

/-- Every scalar of the documents of bare values is plain. -/
theorem allPlain_metaData {p : HostIntentFields} (h : BareValues p) :
    allPlain (render p .metaData).toList = true := by
  rw [toList_render]
  apply allPlain_chars (nonblank_metaData p)
  rw [metaDataForest, all_append, all_leaf, all_leaf]
  exact ⟨bareLine_field (by decide) h.assetTag, bareLine_field (by decide) h.hostname⟩

theorem allPlain_networkConfig {p : HostIntentFields} (h : BareDocument (canonicalize p)) :
    allPlain (render p .networkConfig).toList = true := by
  rw [toList_render, renderLines]
  exact allPlain_chars (nonblank_networkConfig p.role _) (bare_documentForest h p.role)

/-- A plain asset tag and hostname come back from `meta-data`. -/
theorem safeLoad_metaData {p : HostIntentFields} (ha : PlainString p.assetTag.val)
    (hh : PlainString p.hostname.val) : safeLoad (render p .metaData).toList =
      some (.map [(.str "instance-id", .str p.assetTag.val),
        (.str "local-hostname", .str p.hostname.val)]) := by
  have hid : Loads (.leaf (.field "instance-id" (.str p.assetTag.val)))
      [(.str "instance-id", .str p.assetTag.val)] :=
    .field (by decide +kernel) (scalar_of_plainString ha)
  have hhost : Loads (.leaf (.field "local-hostname" (.str p.hostname.val)))
      [(.str "local-hostname", .str p.hostname.val)] :=
    .field (by decide +kernel) (scalar_of_plainString hh)
  have hloads := hid.append hhost
  have hroots : ∀ t ∈ (metaDataForest p).roots, isMarker t.1.text.toList = false := by
    rw [metaDataForest, roots_append, roots_leaf, roots_leaf]
    refine List.forall_mem_cons.mpr ⟨?_, List.forall_mem_cons.mpr ⟨?_, fun t ht =>
      absurd ht List.not_mem_nil⟩⟩
    · rw [Body.toList_field]
      exact isMarker_cons (c := 'i') (by decide) _
    · rw [Body.toList_field]
      exact isMarker_cons (c := 'l') (by decide) _
  rw [toList_render, safeLoad_chars (nonblank_metaData p) hloads.readable (.inr hroots)]
  exact value_of_entries hloads.entries (List.cons_ne_nil _ _)

/-- A document whose substituted strings are plain comes back from `network-config`. -/
theorem safeLoad_networkConfig {p : HostIntentFields} (h : PlainDocument (canonicalize p))
    (hnics : p.nsNics ≠ []) (hvlans : p.vlans ≠ []) :
    safeLoad (render p .networkConfig).toList = some (documentValue p.role (canonicalize p)) := by
  have hnics' : (canonicalize p).nsNics ≠ [] := fun hnil =>
    hnics (List.perm_nil.mp (hnil ▸ (canonicalize_nsNics_perm p).symm))
  have hvlans' : (canonicalize p).vlans ≠ [] := fun hnil =>
    hvlans (List.perm_nil.mp (hnil ▸ (canonicalize_vlans_perm p).symm))
  obtain ⟨es, hloads, hes⟩ := loads_documentForest h p.role hnics' hvlans'
  have hroots : ∀ t ∈ (documentForest p.role (canonicalize p)).roots, isMarker t.1.text.toList = false := by
    refine List.forall_mem_cons.mpr ⟨?_, fun t ht => absurd ht List.not_mem_nil⟩
    rw [Body.toList_key]
    exact isMarker_cons (c := 'n') (by decide) _
  rw [toList_render, renderLines,
    safeLoad_chars (nonblank_networkConfig p.role _) hloads.readable (.inr hroots), ← hes]
  refine value_of_entries hloads.entries fun hnil => ?_
  rw [hnil] at hes
  exact absurd (Value.map.inj hes) (List.cons_ne_nil _ _).symm

/-- **Plain values are necessary** where the values are bare: what comes back as a string
    has been a plain one. -/
theorem plainValues_of_decodes {loader : SafeLoader} {i : HostIntent}
    (hbare : BareValues i.toHostIntentFields)
    (h : Decodes loader i) : PlainValues i.toHostIntentFields := by
  obtain ⟨hmeta, hnetwork⟩ := h
  obtain ⟨v, hload, hnetplan⟩ := Option.bind_eq_some_iff.mp hnetwork
  obtain ⟨hethernets, hvlans⟩ :=
    plain_of_loadNetplan (loader.types (allPlain_networkConfig hbare.document) hload) hnetplan
  have hentries := (loader.types (allPlain_metaData hbare) hmeta).of_mem_map rfl
  have hns : ∀ nic ∈ i.nsNics, LoadedEthernet.ofNsNic nic ∈
      (LoadedNetplan.ofIntent (canonicalize i.toHostIntentFields)).ethernets := fun nic hnic =>
    List.mem_append_left _ (List.mem_append_left _
      (List.mem_map_of_mem ((canonicalize_nsNics_perm _).mem_iff.mpr hnic)))
  have hroce : ∀ nic ∈ i.roceUnderlays, LoadedEthernet.ofRoce nic ∈
      (LoadedNetplan.ofIntent (canonicalize i.toHostIntentFields)).ethernets := fun nic hnic =>
    List.mem_append_left _ (List.mem_append_right _
      (List.mem_map_of_mem ((canonicalize_roceUnderlays_perm _).mem_iff.mpr hnic)))
  have hib : ∀ nic ∈ i.ibUnderlays, LoadedEthernet.ofIb nic ∈
      (LoadedNetplan.ofIntent (canonicalize i.toHostIntentFields)).ethernets := fun nic hnic =>
    List.mem_append_right _ (List.mem_map_of_mem ((canonicalize_ibUnderlays_perm _).mem_iff.mpr hnic))
  have hvlan : ∀ vlan ∈ i.vlans, LoadedVlan.ofVlan vlan ∈
      (LoadedNetplan.ofIntent (canonicalize i.toHostIntentFields)).vlans := fun vlan hv =>
    List.mem_map_of_mem ((canonicalize_vlans_perm _).mem_iff.mpr hv)
  constructor
  case assetTag => exact (hentries _ List.mem_cons_self).2.plainString rfl hbare.assetTag.oneLine
  case hostname =>
    exact (hentries _ (List.mem_cons_of_mem _ List.mem_cons_self)).2.plainString rfl hbare.hostname.oneLine
  case nsNics =>
    intro nic hnic
    obtain ⟨hname, hmac⟩ := hethernets _ (hns nic hnic)
    exact ⟨hname (hbare.nsNics nic hnic).oneLine, hmac (bare_mac nic.mac).oneLine⟩
  case roceUnderlays =>
    intro nic hnic
    obtain ⟨hname, hmac⟩ := hethernets _ (hroce nic hnic)
    exact ⟨hname (hbare.roceUnderlays nic hnic).oneLine, hmac (bare_mac nic.mac).oneLine⟩
  case ibUnderlays =>
    intro nic hnic
    obtain ⟨hname, hmac⟩ := hethernets _ (hib nic hnic)
    exact ⟨hname (hbare.ibUnderlays nic hnic).oneLine, hmac (bare_mac nic.mac).oneLine⟩
  case bond =>
    -- the bond's name is the link of every VLAN
    obtain ⟨vlan, hv, -⟩ := exists_mgmt i
    have hlink := (hvlans _ (hvlan vlan hv)).2
    rw [LoadedVlan.ofVlan, i.satisfies.vlanParents vlan hv] at hlink
    exact hlink hbare.bond.oneLine
  case vlans => exact fun vlan hv => (hvlans _ (hvlan vlan hv)).1 (hbare.vlans vlan hv).1.oneLine

/-- **Plain values are enough**, when the search domains written out are scalars too. -/
theorem decodes_of_plainValues (loader : SafeLoader) {i : HostIntent} (h : PlainValues i.toHostIntentFields)
    (hsearch : ∀ vlan ∈ i.vlans, ScalarSearch vlan) : Decodes loader i := by
  -- the order of the parts does not matter to whether they are plain
  have hdocument : PlainDocument (canonicalize i.toHostIntentFields) := by
    constructor
    case nsNics => exact fun nic hnic => h.nsNics nic ((canonicalize_nsNics_perm _).mem_iff.mp hnic)
    case roceUnderlays =>
      exact fun nic hnic => h.roceUnderlays nic ((canonicalize_roceUnderlays_perm _).mem_iff.mp hnic)
    case ibUnderlays =>
      exact fun nic hnic => h.ibUnderlays nic ((canonicalize_ibUnderlays_perm _).mem_iff.mp hnic)
    case bond => exact h.bond
    case members =>
      intro m hm
      obtain ⟨nic, hnic, rfl⟩ := i.satisfies.bondMembers m ((canonicalize_members_perm _).mem_iff.mp hm)
      exact (h.nsNics nic hnic).name
    case vlans =>
      intro vlan hvlan
      have hmem : vlan ∈ i.vlans := (canonicalize_vlans_perm _).mem_iff.mp hvlan
      refine ⟨h.vlans vlan hmem, ?_, hsearch vlan hmem⟩
      rw [i.satisfies.vlanParents vlan hmem]
      exact h.bond
  -- no mapping of the document is empty
  have hnics : i.nsNics ≠ [] := fun hnil => absurd i.satisfies.nsNicCount (by rw [hnil]; decide)
  have hvlans : i.vlans ≠ [] := fun hnil => by
    obtain ⟨vlan, hv, -⟩ := exists_mgmt i
    rw [hnil] at hv
    exact absurd hv List.not_mem_nil
  refine ⟨loader.reads (safeLoad_metaData h.assetTag h.hostname), ?_⟩
  rw [loader.reads (safeLoad_networkConfig hdocument hnics hvlans)]
  refine loadNetplan_documentValue (fun hz => ?_) (fun hz => ?_)
  · exact List.perm_nil.mp (HostIntent.roceUnderlays_eq_nil hz ▸ canonicalize_roceUnderlays_perm i.toHostIntentFields)
  · exact List.perm_nil.mp (HostIntent.ibUnderlays_eq_nil hz ▸ canonicalize_ibUnderlays_perm i.toHostIntentFields)

/-- The `cpu` fixture with its gateway as name server and a search domain in quotes. -/
def quotedSearchIntent : HostIntent where
  toHostIntentFields := { cpuFields with
    vlans := cpuFields.vlans.map fun vlan =>
      { vlan with dns := vlan.gateway.toList, searchDomain := some "\"lab.example\"" } }
  valid := by decide

/-- The `cpu` fixture with an asset tag of digits. -/
def digitsTagIntent : HostIntent :=
  { cpuFields with assetTag := ⟨"100245", by decide⟩, valid := by decide }

end Render
end HostConfig
