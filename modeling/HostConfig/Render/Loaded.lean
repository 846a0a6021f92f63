import HostConfig.Render.Stanzas
import HostConfig.Render.YamlLines

/-!
# `Render.Loaded` — the value a rendered Netplan document is loaded as

`LoadedNetplan` is what a reader of the loaded value takes from it, with types: names, MACs and addresses as
strings, MTUs, VLAN ids and virtual-function counts as integers. `loadNetplan` takes it and fails where a
value has another type.

The document's outline is a mapping of mappings, so its value is put together block by block: `Loads f es`
says that the lines of `f` can be read and give the entries `es`. The substituted values enter as hypotheses
(they are plain strings); numbers and addresses always read as what they are.
-/

namespace HostConfig
namespace Render

open Models Outline Forest Yaml

/-! ## What is taken from a loaded document -/

/-- An entry of `ethernets`. -/
structure LoadedEthernet where
  name : String
  macaddress : String
  setName : String
  mtu : Int
  addresses : List String
  virtualFunctionCount : Option Int
deriving DecidableEq

/-- An entry of `bonds`. -/
structure LoadedBond where
  name : String
  interfaces : List String
  mtu : Int
deriving DecidableEq

/-- An entry of `vlans`, with the gateways of its routes and the addresses of its name servers. -/
structure LoadedVlan where
  name : String
  id : Int
  link : String
  mtu : Int
  addresses : List String
  gateways : List String
  nameservers : List String
deriving DecidableEq

structure LoadedNetplan where
  ethernets : List LoadedEthernet
  bonds : List LoadedBond
  vlans : List LoadedVlan
deriving DecidableEq

/-- A list of strings; a missing one is empty. -/
def loadStrings : Option Value → Option (List String)
  | none   => some []
  | some v => do (← v.asSeq).mapM Value.asStr

def loadEthernet (e : Value × Value) : Option LoadedEthernet := do
  let name ← e.1.asStr
  let found ← e.2.get "match"
  let macaddress ← found.get "macaddress"
  let macaddress ← macaddress.asStr
  let setName ← e.2.get "set-name"
  let setName ← setName.asStr
  let mtu ← e.2.get "mtu"
  let mtu ← mtu.asInt
  let addresses ← loadStrings (e.2.get "addresses")
  let virtualFunctionCount ←
    (match e.2.get "virtual-function-count" with
    | none   => some none
    | some v => v.asInt.map some)
  return { name, macaddress, setName, mtu, addresses, virtualFunctionCount }

def loadBond (e : Value × Value) : Option LoadedBond := do
  let name ← e.1.asStr
  let interfaces ← loadStrings (e.2.get "interfaces")
  let mtu ← e.2.get "mtu"
  let mtu ← mtu.asInt
  return { name, interfaces, mtu }

/-- The `via` of every route. -/
def loadGateways : Option Value → Option (List String)
  | none        => some []
  | some routes => do (← routes.asSeq).mapM fun route => do (← route.get "via").asStr

def loadVlan (e : Value × Value) : Option LoadedVlan := do
  let name ← e.1.asStr
  let id ← e.2.get "id"
  let id ← id.asInt
  let link ← e.2.get "link"
  let link ← link.asStr
  let mtu ← e.2.get "mtu"
  let mtu ← mtu.asInt
  let addresses ← loadStrings (e.2.get "addresses")
  let gateways ← loadGateways (e.2.get "routes")
  let nameservers ← loadStrings ((e.2.get "nameservers").bind (·.get "addresses"))
  return { name, id, link, mtu, addresses, gateways, nameservers }

def loadNetplan (v : Value) : Option LoadedNetplan := do
  let network ← v.get "network"
  let ethernets ← network.get "ethernets"
  let ethernets ← (← ethernets.asMap).mapM loadEthernet
  let bonds ← network.get "bonds"
  let bonds ← (← bonds.asMap).mapM loadBond
  let vlans ← network.get "vlans"
  let vlans ← (← vlans.asMap).mapM loadVlan
  return { ethernets, bonds, vlans }

/-! ## What an intent wants there -/

def LoadedEthernet.ofNic (nic : PhysIface) (address : Option IPv4Interface) (vfs : Option Nat) :
    LoadedEthernet where
  name := nic.name.val
  macaddress := nic.mac.val
  setName := nic.name.val
  mtu := nic.mtu.val
  addresses := address.toList.map (·.str)
  virtualFunctionCount := vfs.map Int.ofNat

def LoadedEthernet.ofNsNic (nic : BondMember) : LoadedEthernet := ofNic nic.toPhysIface none none

def LoadedEthernet.ofRoce (nic : RoceUnderlay) : LoadedEthernet :=
  ofNic nic.toPhysIface (some nic.address) (some nic.sriovVfs.val)

def LoadedEthernet.ofIb (nic : InfinibandUnderlay) : LoadedEthernet :=
  ofNic nic.toPhysIface (some nic.address) none

def LoadedBond.ofBond (bond : Bond) : LoadedBond where
  name := bond.name.val
  interfaces := bond.members
  mtu := bond.mtu.val

def LoadedVlan.ofVlan (vlan : VlanChild) : LoadedVlan where
  name := vlan.name.val
  id := vlan.vlanId.val
  link := vlan.parent.val
  mtu := vlan.mtu.val
  addresses := [vlan.address.str]
  gateways := vlan.gateway.toList.map (·.str)
  nameservers := vlan.dns.map (·.str)

/-- The strings and integers of an intent. -/
def LoadedNetplan.ofIntent (p : HostIntentFields) : LoadedNetplan where
  ethernets := p.nsNics.map .ofNsNic ++ p.roceUnderlays.map .ofRoce ++ p.ibUnderlays.map .ofIb
  bonds := [.ofBond p.bond]
  vlans := p.vlans.map .ofVlan

/-! ## What numbers and addresses are read as -/

theorem scalar_int {lo hi : Nat} (n : BoundedInt lo hi) (hhi : hi < 10 ^ 5) :
    scalar (Seg.int n.val).text.toList = some (.int n.val) := by
  have htext : (Seg.int n.val).text.toList = Nat.toDigits 10 n.val := Nat.toList_repr
  rw [htext, scalar_toDigits (Nat.lt_of_le_of_lt n.bounds.2 hhi)]

/-- A numeral, a dot and more of a dotted quad. -/
theorem scalar_of_numeral_dot {n : Nat} {rest : List Char} (hrest : ∀ c ∈ rest, c ∈ numericChars)
    (hdot : '.' ∈ rest) : scalar (Nat.toDigits 10 n ++ '.' :: rest) =
      some (.str (String.ofList (Nat.toDigits 10 n ++ '.' :: rest))) := by
  obtain ⟨c, cs, h⟩ := List.exists_cons_of_ne_nil (Nat.toDigits_ne_nil (n := n) (b := 10))
  have hcs : ∀ d ∈ cs, d ∈ numericChars := fun d hd =>
    List.mem_append_left _ (mem_toDigits (h ▸ List.mem_cons_of_mem c hd))
  have hcount : 1 < (c :: (cs ++ '.' :: rest)).count '.' := by
    have hpos : 0 < rest.count '.' := List.count_pos_iff.mpr hdot
    rw [List.count_cons, List.count_append, List.count_cons_self]
    omega
  rw [h, List.cons_append]
  refine scalar_of_dots (mem_toDigits (h ▸ List.mem_cons_self)) (fun d hd => ?_) hcount
  rcases List.mem_append.mp hd with hd | hd
  · exact hcs d hd
  · rcases List.mem_cons.mp hd with rfl | hd
    · decide
    · exact hrest d hd

theorem mem_numericChars_toDigits {n : Nat} {c : Char} (h : c ∈ Nat.toDigits 10 n) : c ∈ numericChars :=
  List.mem_append_left _ (mem_toDigits h)

/-- The dotted quad after its first dot. -/
def quadTail (a : IPv4Address) : List Char :=
  Nat.toDigits 10 (a.toNat / 2 ^ 16 % 256) ++ '.' :: (Nat.toDigits 10 (a.toNat / 2 ^ 8 % 256) ++
    '.' :: Nat.toDigits 10 (a.toNat % 256))

theorem chars_eq_quadTail (a : IPv4Address) :
    a.chars = Nat.toDigits 10 (a.toNat / 2 ^ 24 % 256) ++ '.' :: quadTail a := by
  simp [IPv4Address.chars, IPv4Address.octets, List.intercalate, quadTail]

theorem mem_numericChars_quadTail {a : IPv4Address} {c : Char} (h : c ∈ quadTail a) : c ∈ numericChars := by
  simp only [quadTail, List.mem_append, List.mem_cons] at h
  rcases h with h | rfl | h | rfl | h
  · exact mem_numericChars_toDigits h
  · decide
  · exact mem_numericChars_toDigits h
  · decide
  · exact mem_numericChars_toDigits h

theorem mem_numericChars_chars {a : IPv4Address} {c : Char} (h : c ∈ a.chars) : c ∈ numericChars := by
  rw [chars_eq_quadTail] at h
  rcases List.mem_append.mp h with h | h
  · exact mem_numericChars_toDigits h
  · rcases List.mem_cons.mp h with rfl | h
    · decide
    · exact mem_numericChars_quadTail h

theorem scalar_ip (a : IPv4Address) : scalar (Seg.ip a).text.toList = some (.str a.str) := by
  have h := @scalar_of_numeral_dot (a.toNat / 2 ^ 24 % 256) (quadTail a)
    (fun c hc => mem_numericChars_quadTail hc) (by simp [quadTail])
  rwa [← chars_eq_quadTail, ← IPv4Address.toList_str, String.ofList_toList] at h

theorem scalar_iface (a : IPv4Interface) : scalar (Seg.iface a).text.toList = some (.str a.str) := by
  have hchars : a.str.toList = Nat.toDigits 10 (a.ip.toNat / 2 ^ 24 % 256) ++
      '.' :: (quadTail a.ip ++ '/' :: Nat.toDigits 10 a.prefixlen.val) := by
    rw [IPv4Interface.toList_str, chars_eq_quadTail, List.append_assoc]
    rfl
  have h := @scalar_of_numeral_dot (a.ip.toNat / 2 ^ 24 % 256)
    (quadTail a.ip ++ '/' :: Nat.toDigits 10 a.prefixlen.val) ?_ (by simp [quadTail])
  · rwa [← hchars, String.ofList_toList] at h
  · intro c hc
    rcases List.mem_append.mp hc with hc | hc
    · exact mem_numericChars_quadTail hc
    · rcases List.mem_cons.mp hc with rfl | hc
      · decide
      · exact mem_numericChars_toDigits hc

/-! ## Blocks that load -/

/-- The lines of `f` can be read and give the entries `es`. -/
structure Loads (f : Forest Body) (es : List (Value × Value)) : Prop where
  readable : f.All Readable
  entries : Yaml.entries (toItems f) = some es

/-- The lines of `f` can be read and give the items `vs`. -/
structure LoadsItems (f : Forest Body) (vs : List Value) : Prop where
  readable : f.All Readable
  items : items (toItems f) = some vs

namespace Loads

variable {f g : Forest Body} {es es' : List (Value × Value)}

theorem nil : Loads .nil [] := ⟨trivial, rfl⟩

theorem append (hf : Loads f es) (hg : Loads g es') : Loads (f ++ g) (es ++ es') where
  readable := (all_append _ _ _).mpr ⟨hf.readable, hg.readable⟩
  entries := by rw [toItems_append]; exact entries_append hf.entries hg.entries

theorem concat {β : Type} {l : List β} {f : β → Forest Body} {e : β → Value × Value}
    (h : ∀ b ∈ l, Loads (f b) [e b]) : Loads (.concat (l.map f)) (l.map e) where
  readable := (all_concat _ _ _).mpr fun b hb => (h b hb).readable
  entries := by
    rw [toItems_concat, Yaml.entries_concat fun b hb => (h b hb).entries, List.map_eq_flatMap]

/-- `k: v` -/
theorem field {k : String} {v : Seg} {w : Value} (hk : PlainKey k) (hv : scalar v.text.toList = some w) :
    Loads (.leaf (.field k v)) [(.str k, w)] where
  readable := (all_leaf _ _).mpr ⟨hk.1, plainValue_of_scalar hv⟩
  entries := entries_field (key_of_plainKey hk) hv

/-- `k:` and a mapping below. -/
theorem block {k : Seg} (hk : PlainKey k.text) (hf : Loads f es) (hne : es ≠ []) :
    Loads (.tree (.key k) f) [(.str k.text, .map es)] where
  readable := (all_tree _ _ _).mpr ⟨hk.1, hf.readable⟩
  entries := entries_tree (key_of_plainKey hk) (value_of_entries hf.entries hne)

/-- `k:` and a sequence below. -/
theorem list {k : Seg} {vs : List Value} (hk : PlainKey k.text) (hf : LoadsItems f vs) (hne : vs ≠ []) :
    Loads (.tree (.key k) f) [(.str k.text, .seq vs)] where
  readable := (all_tree _ _ _).mpr ⟨hk.1, hf.readable⟩
  entries := entries_tree (key_of_plainKey hk) (value_of_items hf.items hne)

end Loads

namespace LoadsItems

/-- `- v` -/
theorem item {v : Seg} {w : Value} (hv : leafValue v.text.toList = some w) :
    LoadsItems (.leaf (.item v)) [w] where
  readable := (all_leaf _ _).mpr (Option.isSome_of_eq_some hv)
  items := items_tree (value_leafItem hv)

/-- `- k: v` and more entries below. -/
theorem itemField {k : String} {v : Seg} {w : Value} {f : Forest Body} {es : List (Value × Value)}
    (hk : PlainKey k) (hv : scalar v.text.toList = some w) (hf : Loads f es) :
    LoadsItems (.tree (.itemField k v) f) [.map ((.str k, w) :: es)] where
  readable := (all_tree _ _ _).mpr ⟨⟨hk.1, plainValue_of_scalar hv⟩, hf.readable⟩
  items := by
    have hentry := entries_append (entries_field (key_of_plainKey hk) hv) hf.entries
    exact items_tree (value_of_entries hentry (List.cons_ne_nil _ _))

theorem concat {β : Type} {l : List β} {f : β → Forest Body} {v : β → Value}
    (h : ∀ b ∈ l, LoadsItems (f b) [v b]) : LoadsItems (.concat (l.map f)) (l.map v) where
  readable := (all_concat _ _ _).mpr fun b hb => (h b hb).readable
  items := by
    rw [toItems_concat, Yaml.items_concat fun b hb => (h b hb).items, List.map_eq_flatMap]

end LoadsItems

/-! ## The blocks of the document -/

/-- The keys the templates write. -/
def documentKeys : List String :=
  ["network", "version", "renderer", "ethernets", "match", "macaddress", "set-name", "mtu", "addresses",
   "virtual-function-count", "bonds", "interfaces", "parameters", "mode", "lacp-rate", "transmit-hash-policy",
   "vlans", "id", "link", "routes", "to", "via", "nameservers", "search"]

theorem plainKey_of_mem : ∀ k ∈ documentKeys, PlainKey k := by decide +kernel

/-- The name and the MAC of a NIC are plain strings. -/
structure PlainNic (nic : PhysIface) : Prop where
  name : PlainString nic.name.val
  mac : PlainString nic.mac.val

theorem IfName.plainKey {name : IfName} (h : PlainString name.val) : PlainKey name.val :=
  h.plainKey (Nat.le_trans name.bounds.2 (by decide))

def nicValue (nic : PhysIface) (more : List (Value × Value)) : Value × Value :=
  (.str nic.name.val, .map (
    [(.str "match", .map [(.str "macaddress", .str nic.mac.val)]), (.str "set-name", .str nic.name.val),
     (.str "mtu", .int nic.mtu.val)] ++ more))

theorem loads_nicTree {nic : PhysIface} (h : PlainNic nic) {more : Forest Body} {es : List (Value × Value)}
    (hmore : Loads more es) : Loads (nicTree nic more) [nicValue nic es] := by
  have hmatch : Loads (.tree (.key (.lit "match")) (.leaf (.field "macaddress" (.str nic.mac.val)))) _ :=
    .block (plainKey_of_mem _ (by decide))
      (.field (plainKey_of_mem _ (by decide)) (scalar_of_plainString h.mac)) (List.cons_ne_nil _ _)
  have hsetName : Loads (.leaf (.field "set-name" (.str nic.name.val))) _ :=
    .field (plainKey_of_mem _ (by decide)) (scalar_of_plainString h.name)
  have hmtu : Loads (.leaf (.field "mtu" (.int nic.mtu.val))) _ :=
    .field (plainKey_of_mem _ (by decide)) (scalar_int _ (by decide))
  exact .block (IfName.plainKey h.name) (((hmatch.append hsetName).append hmtu).append hmore)
    (List.cons_ne_nil _ _)

def addressesValue (address : IPv4Interface) : Value × Value := (.str "addresses", .seq [.str address.str])

theorem loads_addressesTree (address : IPv4Interface) :
    Loads (addressesTree address) [addressesValue address] :=
  .list (plainKey_of_mem _ (by decide)) (.item (leafValue_of_scalar (scalar_iface address)))
    (List.cons_ne_nil _ _)

def nsNicValue (nic : BondMember) : Value × Value := nicValue nic.toPhysIface []

def roceValue (nic : RoceUnderlay) : Value × Value :=
  nicValue nic.toPhysIface
    [addressesValue nic.address, (.str "virtual-function-count", .int nic.sriovVfs.val)]

def ibValue (nic : InfinibandUnderlay) : Value × Value :=
  nicValue nic.toPhysIface [addressesValue nic.address]

theorem loads_roceTree {nic : RoceUnderlay} (h : PlainNic nic.toPhysIface) :
    Loads (roceTree nic) [roceValue nic] :=
  loads_nicTree h ((loads_addressesTree nic.address).append
    (.field (plainKey_of_mem _ (by decide)) (scalar_int nic.sriovVfs (by decide))))

/-- The values of the bond's parameters. -/
theorem scalar_parameters (bond : Bond) :
    scalar (Seg.str bond.mode.value).text.toList = some (.str bond.mode.value) ∧
    scalar (Seg.str bond.lacpRate.value).text.toList = some (.str bond.lacpRate.value) ∧
    scalar (Seg.str bond.transmitHashPolicy.value).text.toList = some
      (.str bond.transmitHashPolicy.value) := by
  refine ⟨scalar_of_plainString ?_, scalar_of_plainString ?_, scalar_of_plainString ?_⟩
  · cases bond.mode; decide +kernel
  · cases bond.lacpRate <;> decide +kernel
  · cases bond.transmitHashPolicy <;> decide +kernel

def bondValue (bond : Bond) : Value × Value :=
  (.str bond.name.val, .map
    [(.str "interfaces", .seq (bond.members.map .str)), (.str "mtu", .int bond.mtu.val),
     (.str "parameters", .map
       [(.str "mode", .str bond.mode.value), (.str "lacp-rate", .str bond.lacpRate.value),
        (.str "transmit-hash-policy", .str bond.transmitHashPolicy.value)])])

theorem loads_bondTree {bond : Bond} (hname : PlainString bond.name.val)
    (hmembers : ∀ m ∈ bond.members, PlainString m) : Loads (bondTree bond) [bondValue bond] := by
  obtain ⟨hmode, hrate, hpolicy⟩ := scalar_parameters bond
  have hinterfaces : Loads (.tree (.key (.lit "interfaces"))
      (.concat (bond.members.map fun m => .leaf (.item (.str m)))))
      [(.str "interfaces", .seq (bond.members.map .str))] := by
    refine .list (plainKey_of_mem _ (by decide)) (.concat fun m hm => .item ?_) ?_
    · exact leafValue_of_scalar (scalar_of_plainString (hmembers m hm))
    · intro hnil
      have hlen := bond.membersLen.1
      rw [List.map_eq_nil_iff.mp hnil] at hlen
      exact absurd hlen (by decide)
  have hmtu : Loads (.leaf (.field "mtu" (.int bond.mtu.val))) _ :=
    .field (plainKey_of_mem _ (by decide)) (scalar_int _ (by decide))
  have hparameters : Loads (.tree (.key (.lit "parameters"))
      (.leaf (.field "mode" (.str bond.mode.value)) ++
        .leaf (.field "lacp-rate" (.str bond.lacpRate.value)) ++
        .leaf (.field "transmit-hash-policy" (.str bond.transmitHashPolicy.value)))) _ :=
    .block (plainKey_of_mem _ (by decide))
      (((Loads.field (plainKey_of_mem _ (by decide)) hmode).append
        (.field (plainKey_of_mem _ (by decide)) hrate)).append
        (.field (plainKey_of_mem _ (by decide)) hpolicy)) (List.cons_ne_nil _ _)
  exact .block (IfName.plainKey hname) ((hinterfaces.append hmtu).append hparameters) (List.cons_ne_nil _ _)

def routesValue : Option IPv4Address → List (Value × Value)
  | none         => []
  | some gateway =>
      [(.str "routes", .seq [.map [(.str "to", .str "default"), (.str "via", .str gateway.str)]])]

theorem loads_routesForest (gateway : Option IPv4Address) :
    Loads (routesForest gateway) (routesValue gateway) := by
  cases gateway with
  | none => exact .nil
  | some gateway =>
    have hdefault : scalar (Seg.lit "default").text.toList = some (.str "default") :=
      scalar_of_plainString (by decide +kernel)
    exact .list (plainKey_of_mem _ (by decide))
      (.itemField (plainKey_of_mem _ (by decide)) hdefault
        (.field (plainKey_of_mem _ (by decide)) (scalar_ip gateway))) (List.cons_ne_nil _ _)

/-- The search domain reads as some scalar. -/
def searchValue : Option String → List (Value × Value)
  | none              => []
  | some searchDomain => [(.str "search", .seq (leafValue searchDomain.toList).toList)]

def nameserversValue (dns : List IPv4Address) (searchDomain : Option String) : List (Value × Value) :=
  if dns = [] then []
  else [(.str "nameservers",
    .map ((.str "addresses", .seq (dns.map fun a => .str a.str)) :: searchValue searchDomain))]

/-- A search domain that is written out is one scalar, quoted, or plain with a comment perhaps. -/
def ScalarSearch (vlan : VlanChild) : Prop :=
  vlan.dns ≠ [] → ∀ searchDomain, vlan.searchDomain = some searchDomain →
    (leafValue searchDomain.toList).isSome

theorem loads_searchForest {searchDomain : Option String}
    (h : ∀ s, searchDomain = some s → (leafValue s.toList).isSome) :
    Loads (searchForest searchDomain) (searchValue searchDomain) := by
  cases searchDomain with
  | none => exact .nil
  | some s =>
    obtain ⟨v, hv⟩ := Option.isSome_iff_exists.mp (h s rfl)
    rw [searchValue, hv]
    exact .list (plainKey_of_mem _ (by decide)) (.item hv) (List.cons_ne_nil _ _)

theorem loads_nameserversForest {vlan : VlanChild} (h : ScalarSearch vlan) :
    Loads (nameserversForest vlan.dns vlan.searchDomain) (nameserversValue vlan.dns vlan.searchDomain) := by
  unfold nameserversForest nameserversValue
  by_cases hdns : vlan.dns = []
  · rw [if_pos hdns, if_pos hdns]
    exact .nil
  · rw [if_neg hdns, if_neg hdns]
    have haddresses : Loads (.tree (.key (.lit "addresses"))
        (.concat (vlan.dns.map fun ns => .leaf (.item (.ip ns))))) _ :=
      .list (plainKey_of_mem _ (by decide)) (.concat fun ns _ => .item (leafValue_of_scalar (scalar_ip ns)))
        (fun hnil => hdns (List.map_eq_nil_iff.mp hnil))
    exact .block (plainKey_of_mem _ (by decide)) (haddresses.append (loads_searchForest (h hdns)))
      (List.cons_ne_nil _ _)

def vlanValue (vlan : VlanChild) : Value × Value :=
  (.str vlan.name.val, .map (
    [(.str "id", .int vlan.vlanId.val), (.str "link", .str vlan.parent.val), (.str "mtu", .int vlan.mtu.val),
     addressesValue vlan.address] ++ routesValue vlan.gateway ++ nameserversValue vlan.dns vlan.searchDomain))

theorem loads_vlanTree {vlan : VlanChild} (hname : PlainKey vlan.name.val)
    (hlink : PlainString vlan.parent.val)
    (hsearch : ScalarSearch vlan) : Loads (vlanTree vlan) [vlanValue vlan] := by
  have hid : Loads (.leaf (.field "id" (.int vlan.vlanId.val))) _ :=
    .field (plainKey_of_mem _ (by decide)) (scalar_int _ (by decide))
  have hparent : Loads (.leaf (.field "link" (.str vlan.parent.val))) _ :=
    .field (plainKey_of_mem _ (by decide)) (scalar_of_plainString hlink)
  have hmtu : Loads (.leaf (.field "mtu" (.int vlan.mtu.val))) _ :=
    .field (plainKey_of_mem _ (by decide)) (scalar_int _ (by decide))
  exact .block hname
    (((((hid.append hparent).append hmtu).append (loads_addressesTree vlan.address)).append
      (loads_routesForest vlan.gateway)).append (loads_nameserversForest hsearch)) (List.cons_ne_nil _ _)

/-! ## The document -/

/-- The entries of `ethernets` in a role's document. -/
def ethernetsValue (role : Role) (ctx : HostIntentFields) : List (Value × Value) :=
  ctx.nsNics.map nsNicValue ++
  match role with
  | .cpu               => []
  | .gpuB300 | .gpuB200 => ctx.roceUnderlays.map roceValue
  | .gpuH200           => ctx.ibUnderlays.map ibValue

def documentValue (role : Role) (ctx : HostIntentFields) : Value :=
  .map [(.str "network", .map
    [(.str "version", .int 2), (.str "renderer", .str "networkd"),
     (.str "ethernets", .map (ethernetsValue role ctx)), (.str "bonds", .map [bondValue ctx.bond]),
     (.str "vlans", .map (ctx.vlans.map vlanValue))])]

/-- The strings a document substitutes are plain. -/
structure PlainDocument (ctx : HostIntentFields) : Prop where
  nsNics : ∀ nic ∈ ctx.nsNics, PlainNic nic.toPhysIface
  roceUnderlays : ∀ nic ∈ ctx.roceUnderlays, PlainNic nic.toPhysIface
  ibUnderlays : ∀ nic ∈ ctx.ibUnderlays, PlainNic nic.toPhysIface
  bond : PlainString ctx.bond.name.val
  members : ∀ m ∈ ctx.bond.members, PlainString m
  vlans : ∀ vlan ∈ ctx.vlans, PlainKey vlan.name.val ∧ PlainString vlan.parent.val ∧ ScalarSearch vlan

theorem loads_ethernetsForest {ctx : HostIntentFields} (h : PlainDocument ctx) (role : Role) :
    Loads (ethernetsForest role ctx) (ethernetsValue role ctx) := by
  refine .append (.concat fun nic hnic => loads_nicTree (h.nsNics nic hnic) .nil) ?_
  cases role with
  | cpu => exact .nil
  | gpuB300 | gpuB200 => exact .concat fun nic hnic => loads_roceTree (h.roceUnderlays nic hnic)
  | gpuH200 =>
    exact .concat fun nic hnic => loads_nicTree (h.ibUnderlays nic hnic) (loads_addressesTree nic.address)

theorem loads_documentForest {ctx : HostIntentFields} (h : PlainDocument ctx) (role : Role)
    (hnics : ctx.nsNics ≠ []) (hvlans : ctx.vlans ≠ []) : ∃ es, Loads (documentForest role ctx) es ∧
      .map es = documentValue role ctx := by
  have hversion : scalar (Seg.lit "2").text.toList = some (.int 2) := scalar_toDigits (n := 2) (by decide)
  have hnetworkd : scalar (Seg.lit "networkd").text.toList = some (.str "networkd") :=
    scalar_of_plainString (by decide +kernel)
  have hethernets : Loads (.tree (.key (.lit "ethernets")) (ethernetsForest role ctx))
      [(.str "ethernets", .map (ethernetsValue role ctx))] := by
    refine .block (plainKey_of_mem _ (by decide)) (loads_ethernetsForest h role) ?_
    exact List.append_ne_nil_of_left_ne_nil (fun hnil => hnics (List.map_eq_nil_iff.mp hnil)) _
  have hbonds : Loads (.tree (.key (.lit "bonds")) (bondTree ctx.bond)) _ :=
    .block (plainKey_of_mem _ (by decide)) (loads_bondTree h.bond h.members) (List.cons_ne_nil _ _)
  have hvlans : Loads (.tree (.key (.lit "vlans")) (.concat (ctx.vlans.map vlanTree)))
      [(.str "vlans", .map (ctx.vlans.map vlanValue))] := by
    refine .block (plainKey_of_mem _ (by decide)) (.concat fun vlan hvlan => ?_)
      (fun hnil => hvlans (List.map_eq_nil_iff.mp hnil))
    obtain ⟨hname, hlink, hsearch⟩ := h.vlans vlan hvlan
    exact loads_vlanTree hname hlink hsearch
  exact ⟨_, .block (plainKey_of_mem _ (by decide))
    (((((Loads.field (plainKey_of_mem _ (by decide)) hversion).append
      (.field (plainKey_of_mem _ (by decide)) hnetworkd)).append hethernets).append hbonds).append hvlans)
    (List.cons_ne_nil _ _), rfl⟩

end Render
end HostConfig
