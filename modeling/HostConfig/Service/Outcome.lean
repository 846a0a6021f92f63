import HostConfig.Lib.Readings
import HostConfig.Netbox.Provenance
import HostConfig.Service.App

/-!
# `Service.Outcome` — which exception leaves the loader

`load_host_intent` reads one datum after another and stops at the first malformed one. Some of its readers
wrap the failure in a typed error (a call that fails, a record that is missing), others let the raw
exception of the standard library or of pydantic through (an address that is not IPv4, a field out of
range). `intentReadings` lists the data in the order the loader reads them; `typedOutcome_iff` says that the
loader keeps to its typed errors exactly when the first malformed datum, if any, is one of the wrapped ones.

There is one fact per reader; the builders and the loader compose them.
-/

namespace HostConfig
namespace Service

open Models Netbox Render Readings

/-! ## Well-formed data -/

def nameOk (name : String) : Bool := (BoundedStr.validate 1 15 name).isSome

def mtuOk (iface : InterfaceRecord) (default : Int) : Bool :=
  (BoundedInt.validate minMtu maxMtu (readMtu iface default)).isSome

/-- The recorded MAC, lower-cased, is a MAC. -/
def macOk (primary : MacRecord) : Bool :=
  (validateMac (String.ofList (lower (macText primary).toList))).isSome

def vlanIdOk (untagged : VlanRecord) : Bool := (BoundedInt.validate minVlanId maxVlanId untagged.vid).isSome

/-! ## What the loader reads, in order -/

def nsNicReadings : Option InterfaceRecord → List Reading
  | none => [wrapped false]
  | some iface =>
      match iface.primaryMacAddress with
      | none         => [wrapped false]
      | some primary => [unwrapped (macOk primary && mtuOk iface 9000)]

def bondReadings : Option InterfaceRecord → List Reading
  | none       => [wrapped false]
  | some iface => [unwrapped (mtuOk iface 9000)]

/-- The call and the number of its results are checked, the text of the address is not. -/
def addressReadings (client : Client) (iface : InterfaceRecord) : List Reading :=
  match client.ipAddressesFilter iface.id with
  | .ok [ip] => [unwrapped (IPv4Interface.parse ip.address).isSome]
  | _        => [wrapped false]

def vlanReadings (client : Client) (iface : InterfaceRecord) : List Reading :=
  match iface.untaggedVlan with
  | none          => [wrapped false]
  | some untagged =>
      wrapped (VlanRole.ofValue untagged.name).isSome ::
        (addressReadings client iface ++
          [unwrapped (nameOk iface.name && vlanIdOk untagged && mtuOk iface 1500)])

/-- The custom field is converted with `int()`, then has to be in range. -/
def roceReadings (client : Client) (iface : InterfaceRecord) : List Reading :=
  match iface.primaryMacAddress with
  | none         => [wrapped false]
  | some primary =>
      addressReadings client iface ++
        match readSriovVfs iface 16 with
        | .error _     => [unwrapped false]
        | .ok sriovVfs => [unwrapped (nameOk iface.name && macOk primary && mtuOk iface 9000 &&
            (BoundedInt.validate 0 128 sriovVfs).isSome)]

def ibReadings (client : Client) (iface : InterfaceRecord) : List Reading :=
  match iface.primaryMacAddress with
  | none         => [wrapped false]
  | some primary =>
      addressReadings client iface ++ [unwrapped (nameOk iface.name && macOk primary && mtuOk iface 2044)]

/-- A role slug that is set and names a role. -/
def roleOk (device : Device) : Bool := ((roleSlug device).bind Role.ofValue).isSome

/-- The strings of the intent itself. -/
def labelsOk (assetTag : String) (device : Device) : Bool :=
  (BoundedStr.validate 1 64 assetTag).isSome && (BoundedStr.validate 1 253 (device.name.getD "None")).isSome

/-- **Everything `load_host_intent` reads, in order.** -/
def intentReadings (client : Client) (assetTag : String) : List Reading :=
  match client.devicesGet assetTag with
  | .error _ | .ok none => [wrapped false]
  | .ok (some device)   =>
      match client.interfacesFilter device.id with
      | .error _       => [wrapped false]
      | .ok interfaces =>
          wrapped (roleOk device) ::
            (nsNicNames.flatMap (fun name => nsNicReadings (byName interfaces name)) ++
            (bondReadings (byName interfaces bondName) ++
            ((interfaces.filter fun i => isVlanName i.name).flatMap (vlanReadings client) ++
            ((interfaces.filter fun i => isNumbered roceNicPrefix i.name).flatMap (roceReadings client) ++
            ((interfaces.filter fun i => isNumbered ibNicPrefix i.name).flatMap (ibReadings client) ++
            [unwrapped (labelsOk assetTag device)])))))

/-! ## One fact per constructor and reader -/

/-- `x` raises as the readings predict, typed errors being the loader's documented ones. -/
abbrev Predicts {α : Type} (x : Except PyExc α) (rs : List Reading) : Prop := Follows PyExc.isTyped x rs

theorem bondMember_init (name mac : String) (mtu : Int) : Predicts (BondMember.init name mac mtu)
    [unwrapped (nameOk name && (validateMac mac).isSome && (BoundedInt.validate minMtu maxMtu mtu).isSome)] := by
  unfold BondMember.init nameOk
  cases BoundedStr.validate 1 15 name <;> cases validateMac mac <;>
    cases BoundedInt.validate minMtu maxMtu mtu <;> rfl

theorem roceUnderlay_init (name mac : String) (mtu sriovVfs : Int) (address : IPv4Interface) :
    Predicts (RoceUnderlay.init name mac mtu sriovVfs address)
      [unwrapped (nameOk name && (validateMac mac).isSome && (BoundedInt.validate minMtu maxMtu mtu).isSome &&
        (BoundedInt.validate 0 128 sriovVfs).isSome)] := by
  unfold RoceUnderlay.init nameOk
  cases BoundedStr.validate 1 15 name <;> cases validateMac mac <;>
    cases BoundedInt.validate minMtu maxMtu mtu <;> cases BoundedInt.validate 0 128 sriovVfs <;> rfl

theorem infinibandUnderlay_init (name mac : String) (mtu : Int) (address : IPv4Interface) :
    Predicts (InfinibandUnderlay.init name mac mtu address)
      [unwrapped (nameOk name && (validateMac mac).isSome && (BoundedInt.validate minMtu maxMtu mtu).isSome)] := by
  unfold InfinibandUnderlay.init nameOk
  cases BoundedStr.validate 1 15 name <;> cases validateMac mac <;>
    cases BoundedInt.validate minMtu maxMtu mtu <;> rfl

theorem vlanChild_init (name : String) (vlanId : Int) (role : VlanRole) (mtu : Int) (address : IPv4Interface)
    (gateway : Option IPv4Address) : Predicts (VlanChild.init name bondName vlanId role mtu address gateway)
      [unwrapped (nameOk name && (BoundedInt.validate minVlanId maxVlanId vlanId).isSome &&
        (BoundedInt.validate minMtu maxMtu mtu).isSome)] := by
  have hparent : ∃ parent, BoundedStr.validate 1 15 bondName = some parent := ⟨⟨bondName, by decide⟩, rfl⟩
  obtain ⟨parent, hparent⟩ := hparent
  unfold VlanChild.init nameOk
  rw [hparent]
  cases BoundedStr.validate 1 15 name <;> cases BoundedInt.validate minVlanId maxVlanId vlanId <;>
    cases BoundedInt.validate minMtu maxMtu mtu <;> rfl

/-- The members the loader passes are the two N-S NICs, so only the MTU can be rejected. -/
theorem bond_init (mtu : Int) : Predicts (Bond.init bondName (.list (nsNicNames.map .str)) mtu)
    [unwrapped (BoundedInt.validate minMtu maxMtu mtu).isSome] := by
  have hname : ∃ name, BoundedStr.validate 1 15 bondName = some name := ⟨⟨bondName, by decide⟩, rfl⟩
  obtain ⟨name, hname⟩ := hname
  show Predicts (Bond.init.build bondName mtu (nsNicNames.map .str)) _
  unfold Bond.init.build
  rw [hname]
  cases BoundedInt.validate minMtu maxMtu mtu <;> rfl

/-- The constructor of the intent raises a typed error unless one of the two strings does not validate. -/
theorem hostIntent_init (assetTag : String) (device : Device) (role : Role)
    (nsNics : List BondMember) (bond : Bond)
    (vlans : List VlanChild) (roceUnderlays : List RoceUnderlay) (ibUnderlays : List InfinibandUnderlay) :
    raised PyExc.isTyped (HostIntent.init assetTag (device.name.getD "None") role nsNics bond vlans roceUnderlays
      ibUnderlays) ≠ some false ↔ Covered [unwrapped (labelsOk assetTag device)] := by
  have hinvariants : ∀ x : Except InvariantError HostIntent,
      raised PyExc.isTyped (x.mapError .invariantError) ≠ some false := by
    intro x
    cases x <;> simp [Except.mapError, PyExc.isTyped]
  unfold HostIntent.init labelsOk
  cases BoundedStr.validate 1 64 assetTag with
  | none =>
    cases BoundedStr.validate 1 253 (device.name.getD "None") <;>
      simp [Covered, raised, invalid, PyExc.isTyped]
  | some assetTag =>
    cases BoundedStr.validate 1 253 (device.name.getD "None") with
    | none => simp [Covered, raised, invalid, PyExc.isTyped]
    | some hostname => exact iff_of_true (hinvariants _) (by simp [Covered])

/-! ## The readers -/

theorem fetchSingleIp_predicts (client : Client) (iface : InterfaceRecord) (assetTag : String) :
    Predicts (fetchSingleIp client iface assetTag) (addressReadings client iface) := by
  unfold fetchSingleIp addressReadings
  cases client.ipAddressesFilter iface.id with
  | error e => rfl
  | ok ips =>
    match ips with
    | []          => rfl
    | [ip]        =>
      dsimp only
      cases IPv4Interface.parse ip.address <;> rfl
    | _ :: _ :: _ => rfl

/-- What `int()` raises on a custom field is not typed. -/
theorem untyped_of_readSriovVfs {iface : InterfaceRecord} {default : Int} {e : PyExc}
    (h : readSriovVfs iface default = .error e) : e.isTyped = false := by
  have hint : ∀ value : JsonValue, value.toInt = .error e → e.isTyped = false := by
    intro value hvalue
    cases value with
    | str s =>
      unfold JsonValue.toInt at hvalue
      cases hs : intOfStr s <;> simp only [hs, reduceCtorEq, Except.error.injEq] at hvalue
      rw [← hvalue]; rfl
    | bool b | int z | float q => cases hvalue
    | null | nan | infinity | array | object => cases hvalue; rfl
  unfold readSriovVfs at h
  split at h
  · cases h
  · cases h
  · exact hint _ h

theorem readVlanRole_predicts {iface : InterfaceRecord} {untagged : VlanRecord}
    (h : iface.untaggedVlan = some untagged) (assetTag : String) :
    Predicts (readVlanRole iface assetTag) [wrapped (VlanRole.ofValue untagged.name).isSome] := by
  unfold readVlanRole
  rw [h]
  dsimp only
  cases VlanRole.ofValue untagged.name <;> rfl

theorem parseRole_predicts (device : Device) (assetTag : String) :
    Predicts (parseRole device assetTag) [wrapped (roleOk device)] := by
  unfold parseRole roleOk
  cases roleSlug device with
  | none => rfl
  | some slug =>
    dsimp only [Option.bind_some]
    cases Role.ofValue slug <;> rfl

theorem gateway_predicts (role : VlanRole) (address : IPv4Interface) :
    Predicts (if role = .mgmt then (deriveGateway address).map some else .ok none) [] := by
  obtain ⟨gateway, h, -⟩ := deriveGateway_eq address
  rw [h]
  split <;> rfl

/-! ## The builders -/

theorem buildNsNic_predicts (interfaces : List InterfaceRecord) (assetTag : String) {name : String}
    (hname : nameOk name = true) :
    Predicts (buildNsNic interfaces assetTag name) (nsNicReadings (byName interfaces name)) := by
  unfold buildNsNic nsNicReadings
  cases byName interfaces name with
  | none => rfl
  | some iface =>
    dsimp only
    unfold readMac
    cases iface.primaryMacAddress with
    | none => rfl
    | some primary =>
      have h := bondMember_init name (String.ofList (lower (macText primary).toList)) (readMtu iface 9000)
      rw [hname, Bool.true_and] at h
      exact h

theorem buildNsNics_predicts (interfaces : List InterfaceRecord) (assetTag : String) :
    Predicts (buildNsNics interfaces assetTag)
      (nsNicNames.flatMap fun name => nsNicReadings (byName interfaces name)) := by
  refine Follows.mapM fun name hname => buildNsNic_predicts interfaces assetTag ?_
  rcases List.mem_pair.mp hname with rfl | rfl <;> rfl

theorem buildBond_predicts {interfaces : List InterfaceRecord} {nsNics : List BondMember} (assetTag : String)
    (hnames : nsNics.map (·.name.val) = nsNicNames) :
    Predicts (buildBond interfaces nsNics assetTag) (bondReadings (byName interfaces bondName)) := by
  unfold buildBond bondReadings
  rw [hnames]
  cases byName interfaces bondName with
  | none => rfl
  | some iface => exact bond_init (readMtu iface 9000)

theorem buildVlan_predicts (client : Client) (assetTag : String) (iface : InterfaceRecord) :
    Predicts (buildVlan client assetTag iface) (vlanReadings client iface) := by
  unfold buildVlan vlanReadings
  cases h : iface.untaggedVlan with
  | none =>
    rw [readVlanId, h]
    rfl
  | some untagged =>
    have hid : readVlanId iface assetTag = .ok untagged.vid := by rw [readVlanId, h]
    rw [hid]
    refine (readVlanRole_predicts h assetTag).bind fun role _ => ?_
    refine (fetchSingleIp_predicts client iface assetTag).bind fun address _ => ?_
    exact (gateway_predicts role address).bind fun gateway _ =>
      vlanChild_init iface.name untagged.vid role (readMtu iface 1500) address gateway

theorem buildRoceUnderlay_predicts (client : Client) (assetTag : String) (iface : InterfaceRecord) :
    Predicts (buildRoceUnderlay client assetTag iface) (roceReadings client iface) := by
  unfold buildRoceUnderlay roceReadings readMac
  cases iface.primaryMacAddress with
  | none => rfl
  | some primary =>
    refine (fetchSingleIp_predicts client iface assetTag).bind fun address _ => ?_
    cases h : readSriovVfs iface 16 with
    | error e => exact Follows.error (untyped_of_readSriovVfs h) []
    | ok sriovVfs => exact roceUnderlay_init iface.name _ (readMtu iface 9000) sriovVfs address

theorem buildIbUnderlay_predicts (client : Client) (assetTag : String) (iface : InterfaceRecord) :
    Predicts (buildIbUnderlay client assetTag iface) (ibReadings client iface) := by
  unfold buildIbUnderlay ibReadings readMac
  cases iface.primaryMacAddress with
  | none => rfl
  | some primary =>
    exact (fetchSingleIp_predicts client iface assetTag).bind fun address _ =>
      infinibandUnderlay_init iface.name _ (readMtu iface 2044) address

/-! ## The loader -/

/-- **The loader raises a typed error, if any, exactly when the first malformed datum is a wrapped one.** -/
theorem raised_loadHostIntent (client : Client) (assetTag : String) :
    raised PyExc.isTyped (loadHostIntent client assetTag) ≠ some false ↔
      Covered (intentReadings client assetTag) := by
  unfold loadHostIntent fetchDevice intentReadings
  cases client.devicesGet assetTag with
  | error e => exact iff_of_true (by simp [bind, Except.bind, queryError, PyExc.isTyped]) (by simp [Covered])
  | ok found =>
    cases found with
    | none => exact iff_of_true (by simp [bind, Except.bind, PyExc.isTyped]) (by simp [Covered])
    | some device =>
      dsimp only [bind, Except.bind]
      unfold fetchInterfaces
      cases client.interfacesFilter device.id with
      | error e => exact iff_of_true (by simp [queryError, PyExc.isTyped]) (by simp [Covered])
      | ok interfaces =>
        refine (parseRole_predicts device assetTag).covered_bind fun role _ => ?_
        refine (buildNsNics_predicts interfaces assetTag).covered_bind fun nsNics hns => ?_
        refine (buildBond_predicts assetTag (names_of_buildNsNics hns)).covered_bind fun bond _ => ?_
        refine (Follows.mapM fun i _ => buildVlan_predicts client assetTag i).covered_bind fun vlans _ => ?_
        refine (Follows.mapM fun i _ => buildRoceUnderlay_predicts client assetTag i).bind_ok.covered_bind
          fun roceUnderlays _ => ?_
        refine (Follows.mapM fun i _ => buildIbUnderlay_predicts client assetTag i).bind_ok.covered_bind
          fun ibUnderlays _ => ?_
        exact hostIntent_init assetTag device role nsNics bond vlans roceUnderlays ibUnderlays

/-- The loader returns an intent or raises one of its typed errors, and so a render request is answered with
    the file or with the 404, 422 or 502 envelope. -/
def TypedOutcome (client : Client) (assetTag : String) : Prop :=
  ((∃ intent, loadHostIntent client assetTag = .ok intent) ∨
    ∃ e, loadHostIntent client assetTag = .error e ∧ e.isTyped = true) ∧
  ∀ kind, (handleRender client assetTag kind).status ∈ [200, 404, 422, 502]

/-- **The outcome is a typed one exactly when no unwrapped datum is the first malformed one.** -/
theorem typedOutcome_iff (client : Client) (assetTag : String) :
    TypedOutcome client assetTag ↔ Covered (intentReadings client assetTag) := by
  rw [← raised_loadHostIntent, TypedOutcome]
  unfold handleRender
  cases h : loadHostIntent client assetTag with
  | ok intent => simp [Response.status]
  | error e =>
    have hstatus := onException_status e
    cases htyped : e.isTyped with
    | false => simp [htyped]
    | true =>
      rw [htyped] at hstatus
      simpa [htyped] using fun _ => List.mem_cons_of_mem 200 (hstatus.mpr rfl)

/-- The `cpu` fixture with an IPv6 address on the management VLAN. -/
def ipv6MgmtClient : Client :=
  oneDevice "SN-CPU-001" cpuDevice cpuInterfaces
    [(13, "2001:db8::11/64"), (14, "10.42.20.11/24"), (15, "10.42.30.11/24")]

theorem ipv6Mgmt_untyped : ¬ TypedOutcome ipv6MgmtClient "SN-CPU-001" := by
  have hraised : raised PyExc.isTyped (loadHostIntent ipv6MgmtClient "SN-CPU-001") = some false := by
    decide +kernel
  rintro ⟨⟨intent, h⟩ | ⟨e, h, htyped⟩, -⟩
  · simp [h] at hraised
  · simp [h, htyped] at hraised

end Service
end HostConfig
