import HostConfig.Errors
import HostConfig.Models.Types

/-!
# `Models.Interface` — physical NICs, bonds, SR-IOV parents, RoCE and InfiniBand underlays

The physical-and-bonding layer of a host. A Lean value of one of these structures is a *field-valid*
instance; the `init` of each model is its constructor on raw values, and raises what pydantic raises when a
field does not validate. `Bond.init` also has the constructor's own check: duplicate members are rejected,
but only when `members` arrives as a `list`, and only those the list has before its elements are strings.
-/

namespace HostConfig
namespace Models

/-- A `ValidationError` naming the fields whose validator rejected its input. -/
def invalid (model : String) (checks : List (String × Bool)) : PyExc :=
  .validationError model ((checks.filter (fun c => !c.2)).map (·.1))

/-- A physical NIC on the host. -/
structure PhysIface where
  name : IfName
  mac : MacAddress
  mtu : Mtu
deriving DecidableEq

/-- A `PhysIface` that is enslaved to a `Bond`. -/
structure BondMember extends PhysIface
deriving DecidableEq

/-- A `PhysIface` that exposes SR-IOV virtual functions. -/
structure SriovParent extends PhysIface where
  sriovVfs : BoundedInt 0 128
deriving DecidableEq

/-- A `PhysIface` used as a RoCE v2 underlay. -/
structure RoceUnderlay extends SriovParent where
  address : IPv4Interface
deriving DecidableEq

/-- A `PhysIface` used as an IPoIB underlay. -/
structure InfinibandUnderlay extends PhysIface where
  address : IPv4Interface
deriving DecidableEq

def BondMember.init (name mac : String) (mtu : Int) : Except PyExc BondMember :=
  match BoundedStr.validate 1 15 name, validateMac mac, BoundedInt.validate minMtu maxMtu mtu with
  | some name, some mac, some mtu => .ok { name, mac, mtu }
  | n, m, t => .error (invalid "BondMember" [("name", n.isSome), ("mac", m.isSome), ("mtu", t.isSome)])

theorem BondMember.of_init {name mac : String} {mtu : Int} {nic : BondMember}
    (h : BondMember.init name mac mtu = .ok nic) :
    nic.name.val = name ∧ validateMac mac = some nic.mac ∧ (nic.mtu.val : Int) = mtu := by
  unfold BondMember.init at h
  split at h
  · rename_i hname hmac hmtu
    obtain rfl := Except.ok.inj h
    exact ⟨BoundedStr.val_of_validate hname, hmac, BoundedInt.val_of_validate hmtu⟩
  · cases h

def RoceUnderlay.init (name mac : String) (mtu sriovVfs : Int) (address : IPv4Interface) :
    Except PyExc RoceUnderlay :=
  match BoundedStr.validate 1 15 name, validateMac mac, BoundedInt.validate minMtu maxMtu mtu,
      BoundedInt.validate 0 128 sriovVfs with
  | some name, some mac, some mtu, some sriovVfs => .ok { name, mac, mtu, sriovVfs, address }
  | n, m, t, s => .error (invalid "RoceUnderlay"
      [("name", n.isSome), ("mac", m.isSome), ("mtu", t.isSome), ("sriov_vfs", s.isSome)])

def InfinibandUnderlay.init (name mac : String) (mtu : Int) (address : IPv4Interface) :
    Except PyExc InfinibandUnderlay :=
  match BoundedStr.validate 1 15 name, validateMac mac, BoundedInt.validate minMtu maxMtu mtu with
  | some name, some mac, some mtu => .ok { name, mac, mtu, address }
  | n, m, t => .error (invalid "InfinibandUnderlay"
      [("name", n.isSome), ("mac", m.isSome), ("mtu", t.isSome)])

theorem RoceUnderlay.of_init {name mac : String} {mtu sriovVfs : Int} {address : IPv4Interface}
    {nic : RoceUnderlay} (h : RoceUnderlay.init name mac mtu sriovVfs address = .ok nic) :
    nic.name.val = name ∧ validateMac mac = some nic.mac ∧ (nic.mtu.val : Int) = mtu ∧
      (nic.sriovVfs.val : Int) = sriovVfs ∧ nic.address = address := by
  unfold RoceUnderlay.init at h
  split at h
  · rename_i hname hmac hmtu hvfs
    obtain rfl := Except.ok.inj h
    exact ⟨BoundedStr.val_of_validate hname, hmac, BoundedInt.val_of_validate hmtu,
      BoundedInt.val_of_validate hvfs, rfl⟩
  · cases h

theorem InfinibandUnderlay.of_init {name mac : String} {mtu : Int} {address : IPv4Interface}
    {nic : InfinibandUnderlay} (h : InfinibandUnderlay.init name mac mtu address = .ok nic) :
    nic.name.val = name ∧ validateMac mac = some nic.mac ∧ (nic.mtu.val : Int) = mtu ∧
      nic.address = address := by
  unfold InfinibandUnderlay.init at h
  split at h
  · rename_i hname hmac hmtu
    obtain rfl := Except.ok.inj h
    exact ⟨BoundedStr.val_of_validate hname, hmac, BoundedInt.val_of_validate hmtu, rfl⟩
  · cases h

/-! ## Bonds -/

/-- The bond modes accepted: LACP only. -/
inductive BondMode
  | lacp
deriving DecidableEq

def BondMode.value : BondMode → String
  | .lacp => "802.3ad"

inductive LacpRate
  | fast | slow
deriving DecidableEq

def LacpRate.value : LacpRate → String
  | .fast => "fast"
  | .slow => "slow"

inductive TransmitHashPolicy
  | layer2 | layer23 | layer34
deriving DecidableEq

def TransmitHashPolicy.value : TransmitHashPolicy → String
  | .layer2  => "layer2"
  | .layer23 => "layer2+3"
  | .layer34 => "layer3+4"

/-- A Linux bond on top of its members, referenced by name. -/
structure Bond where
  name : IfName
  members : List String
  membersLen : 2 ≤ members.length ∧ members.length ≤ 8
  mode : BondMode := .lacp
  lacpRate : LacpRate := .fast
  transmitHashPolicy : TransmitHashPolicy := .layer34
  mtu : Mtu
deriving DecidableEq

/-- An element of `members` as the caller passes it. Two are one to a `set` when they are equal here: a
    `str` is no `bytes` of the same text, and an object is what it compares as. -/
inductive Member
  | str (s : String)
  | bytes (bs : List UInt8)
  | bytearray (bs : List UInt8)
  /-- Any other object: what it compares as, whether it has a hash, and the text lax mode makes of it, which
      is that of its value for the member of an `Enum`, and none for most. -/
  | object (key : Nat) (hashable : Bool) (text : Option String)
deriving DecidableEq

/-- The string that lax mode makes of an element; bytes are decoded. -/
def Member.coerce : Member → Option String
  | .str s           => some s
  | .bytes bs        => String.fromUTF8? ⟨bs.toArray⟩
  | .bytearray bs    => String.fromUTF8? ⟨bs.toArray⟩
  | .object _ _ text => text

def Member.hashable : Member → Bool
  | .str _               => true
  | .bytes _             => true
  | .bytearray _         => false
  | .object _ hashable _ => hashable

theorem mapM_coerce_str (names : List String) : (names.map Member.str).mapM Member.coerce = some names := by
  induction names with
  | nil => rfl
  | cons name names ih =>
    rw [List.map_cons, List.mapM_cons, ih]
    rfl

/-- The `members` argument: a `list`, or another sequence that lax mode turns into one
    (tuple, set, generator). -/
inductive MembersArg
  | list (xs : List Member)
  | other (xs : List Member)

def MembersArg.toList : MembersArg → List Member
  | .list xs  => xs
  | .other xs => xs

/-- The field `members`: every element a string, and 2 to 8 of them. -/
def validateMembers (xs : List Member) : Option { ms : List String // 2 ≤ ms.length ∧ ms.length ≤ 8 } :=
  (xs.mapM Member.coerce).bind fun ms => if h : 2 ≤ ms.length ∧ ms.length ≤ 8 then some ⟨ms, h⟩ else none

/-- `Bond(name=…, members=…, mtu=…)`. The uniqueness check stands before field validation: it looks at
    `members` only when it is a `list`, and at its elements before they are strings. -/
def Bond.init (name : String) (members : MembersArg) (mtu : Int) : Except PyExc Bond :=
  match members with
  | .list xs =>
      -- `set(members)` raises at an element without a hash
      if xs.all Member.hashable = false then .error (.typeError "unhashable type")
      else if xs.Nodup then build xs
      else .error (.valueError "Bond.members must be unique")
  | .other xs => build xs
where
  build (xs : List Member) : Except PyExc Bond :=
    match BoundedStr.validate 1 15 name, validateMembers xs, BoundedInt.validate minMtu maxMtu mtu with
    | some name, some members, some mtu =>
        .ok { name, members := members.val, membersLen := members.property, mtu }
    | n, ms, t => .error (invalid "Bond" [("name", n.isSome), ("members", ms.isSome), ("mtu", t.isSome)])

/-- The elements are what the texts of the field come from, in their order. -/
theorem mapM_of_validateMembers {xs : List Member}
    {ms : { ms : List String // 2 ≤ ms.length ∧ ms.length ≤ 8 }}
    (h : validateMembers xs = some ms) : xs.mapM Member.coerce = some ms.val := by
  obtain ⟨texts, htexts, hlen⟩ := Option.bind_eq_some_iff.mp h
  split at hlen
  · obtain rfl := Option.some.inj hlen
    exact htexts
  · cases hlen

/-- What the constructor saw to before field validation: a `list` has no duplicate. -/
theorem Bond.build_of_init {name : String} {members : MembersArg} {mtu : Int} {bond : Bond}
    (h : Bond.init name members mtu = .ok bond) :
    Bond.init.build name mtu members.toList = .ok bond ∧ ∀ xs, members = .list xs → xs.Nodup := by
  unfold Bond.init at h
  cases members with
  | list xs =>
    dsimp only at h
    split at h
    · cases h
    · split at h
      · rename_i hnodup
        refine ⟨h, ?_⟩
        intro xs' hxs'
        rwa [← MembersArg.list.inj hxs']
      · cases h
  | other xs =>
    refine ⟨h, ?_⟩
    intro xs' hxs'
    cases hxs'

/-- What a bond has from its arguments; its parameters are the model's own. -/
theorem Bond.of_build {name : String} {xs : List Member} {mtu : Int} {bond : Bond}
    (h : Bond.init.build name mtu xs = .ok bond) :
    bond.name.val = name ∧ xs.mapM Member.coerce = some bond.members ∧ (bond.mtu.val : Int) = mtu ∧
      bond.mode = .lacp ∧ bond.lacpRate = .fast ∧ bond.transmitHashPolicy = .layer34 := by
  unfold Bond.init.build at h
  split at h
  · rename_i hname hmembers hmtu
    obtain rfl := Except.ok.inj h
    exact ⟨BoundedStr.val_of_validate hname, mapM_of_validateMembers hmembers,
      BoundedInt.val_of_validate hmtu,
      rfl, rfl, rfl⟩
  · cases h

/-- A bond of named members, which the loader builds. -/
theorem Bond.of_init {name : String} {names : List String} {mtu : Int} {bond : Bond}
    (h : Bond.init name (.list (names.map .str)) mtu = .ok bond) :
    bond.name.val = name ∧ bond.members = names ∧ (bond.mtu.val : Int) = mtu := by
  obtain ⟨hname, hmembers, hmtu, -⟩ := Bond.of_build (Bond.build_of_init h).1
  have hnames : some names = some bond.members := (mapM_coerce_str names).symm.trans hmembers
  exact ⟨hname, (Option.some.inj hnames).symm, hmtu⟩

theorem Bond.parameters_of_init {name : String} {members : MembersArg} {mtu : Int} {bond : Bond}
    (h : Bond.init name members mtu = .ok bond) :
    bond.mode = .lacp ∧ bond.lacpRate = .fast ∧ bond.transmitHashPolicy = .layer34 := by
  obtain ⟨-, -, -, hparameters⟩ := Bond.of_build (Bond.build_of_init h).1
  exact hparameters

end Models
end HostConfig
