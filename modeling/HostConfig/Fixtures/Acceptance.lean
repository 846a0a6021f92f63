import HostConfig.Fixtures.Hosts

/-!
# `Fixtures.Acceptance` — which fixtures an empty Netbox accepts

`populate_accepts_iff`: from an empty Netbox `populate` returns exactly when the fixtures are `Compatible`,
which is a statement about the fixtures alone, and about no order of them. They have the interfaces they
name, and where two of them share an object they say the same of it: the height of a device type, the name
of a VLAN of a site, the hostname of an asset tag, the interface of a MAC and of an address.

What a check compares is a row some fixture asked for (`Mirrors`, `Stocked`), so every check that is made
compares two fixtures. One direction follows the run and finds all checks to pass; the other reads the
checks off the Netbox a run has left (`Applied`).
-/

namespace HostConfig
namespace Fixtures

open Netbox StateRuns Relation

variable {fixtures fixtures' : List HostFixture} {fx fx' : HostFixture} {spec spec' : InterfaceSpec}
  {n n' : NetboxState} {s t : PopulateState} {k : Kind} {key : Key} {device : Nat} {refreshes : Bool}

/-! ## Fixtures that fit together -/

structure Compatible (fixtures : List HostFixture) : Prop where
  known : ∀ fx ∈ fixtures, ∀ w ∈ references fx, Known fx w
  deviceTypes : ∀ fx ∈ fixtures, ∀ fx' ∈ fixtures, fx.deviceType.slug = fx'.deviceType.slug →
    fx.deviceType.uHeight = fx'.deviceType.uHeight
  vlans : ∀ fx ∈ fixtures, ∀ fx' ∈ fixtures, fx.site = fx'.site → ∀ vlan ∈ fx.vlans, ∀ vlan' ∈ fx'.vlans,
    vlan.vid = vlan'.vid → vlan.name = vlan'.name
  devices : ∀ fx ∈ fixtures, ∀ fx' ∈ fixtures, fx.assetTag = fx'.assetTag → fx.hostname = fx'.hostname
  macs : ∀ fx ∈ fixtures, ∀ spec ∈ fx.interfaces, ∀ fx' ∈ fixtures, ∀ spec' ∈ fx'.interfaces, ∀ mac,
    truthy spec.mac = some mac → truthy spec'.mac = some mac → fx.assetTag = fx'.assetTag ∧
      spec.name = spec'.name
  ips : ∀ fx ∈ fixtures, ∀ spec ∈ fx.interfaces, ∀ fx' ∈ fixtures, ∀ spec' ∈ fx'.interfaces, ∀ ip,
    truthy spec.ip = some ip → truthy spec'.ip = some ip → fx.assetTag = fx'.assetTag ∧ spec.name = spec'.name

/-- The order of the fixtures does not matter to it. -/
theorem Compatible.perm (hperm : fixtures.Perm fixtures') (h : Compatible fixtures) :
    Compatible fixtures' := by
  have hmem : ∀ fx ∈ fixtures', fx ∈ fixtures := fun fx hfx => hperm.mem_iff.mpr hfx
  constructor
  case known => exact fun fx hfx => h.known fx (hmem fx hfx)
  case deviceTypes => exact fun fx hfx fx' hfx' => h.deviceTypes fx (hmem fx hfx) fx' (hmem fx' hfx')
  case vlans => exact fun fx hfx fx' hfx' => h.vlans fx (hmem fx hfx) fx' (hmem fx' hfx')
  case devices => exact fun fx hfx fx' hfx' => h.devices fx (hmem fx hfx) fx' (hmem fx' hfx')
  case macs => exact fun fx hfx spec hspec fx' hfx' => h.macs fx (hmem fx hfx) spec hspec fx' (hmem fx' hfx')
  case ips => exact fun fx hfx spec hspec fx' hfx' => h.ips fx (hmem fx hfx) spec hspec fx' (hmem fx' hfx')

/-! ## The rows the checks look at -/

/-- Device types and VLANs are as a fixture says. -/
structure Stocked (fixtures : List HostFixture) (n : NetboxState) : Prop where
  deviceType : ∀ e ∈ (n.table .deviceType).rows, ∃ fx ∈ fixtures, e.2.slug = fx.deviceType.slug ∧
    e.2.uHeight = some (fx.deviceType.uHeight : Rat)
  vlan : ∀ e ∈ (n.table .vlan).rows, ∃ fx ∈ fixtures, ∃ vlan ∈ fx.vlans, ∃ site, e.2.site = some site ∧
    IdAt n .site (.text fx.site) site ∧ e.2.vid = vlan.vid ∧ e.2.name = vlan.name

/-- Device types and VLANs are left alone. -/
def Spares (s t : PopulateState) : Prop :=
  t.netbox.table .deviceType = s.netbox.table .deviceType ∧ t.netbox.table .vlan = s.netbox.table .vlan

instance : IsPreorder PopulateState Spares where
  refl _ := ⟨rfl, rfl⟩
  trans _ _ _ h h' := ⟨h'.1.trans h.1, h'.2.trans h.2⟩

/-- What makes no device type and no VLAN leaves the tables stocked: -/
theorem Stocked.spares (h : Stocked fixtures s.netbox) (hspares : Spares s t)
    (hgrows : Grows s.netbox t.netbox) : Stocked fixtures t.netbox := by
  constructor
  case deviceType =>
    rw [hspares.1]
    exact h.deviceType
  case vlan =>
    rw [hspares.2]
    intro e he
    obtain ⟨fx, hfx, vlan, hvlan, site, hsite, hat, hvid⟩ := h.vlan e he
    exact ⟨fx, hfx, vlan, hvlan, site, hsite, hat.grows hgrows, hvid⟩

/-- What an `ensure` does to its own table. -/
theorem ensure_rows {check : Nat × Row k → Except FixtureExc Unit} {payload : Row k} {found : Nat × Row k}
    (h : ensure k key check payload s = .ok (found, t)) :
    ∀ e ∈ (t.netbox.table k).rows, e ∈ (s.netbox.table k).rows ∨ e.2 = payload := by
  unfold ensure at h
  split at h
  · obtain ⟨-, rfl⟩ := Prod.mk.inj (Except.ok.inj h)
    intro e he
    rw [table_create] at he
    exact (Table.mem_insert.mp he).imp id fun heq => congrArg Prod.snd heq
  · split at h
    · cases h
    · obtain ⟨-, rfl⟩ := Prod.mk.inj (Except.ok.inj h)
      exact fun e he => .inl he
  · cases h

/-- It leaves the others alone. -/
theorem ensure_table {k' : Kind} (hk : k' ≠ k) {check : Nat × Row k → Except FixtureExc Unit}
    {payload : Row k} {found : Nat × Row k} (h : ensure k key check payload s = .ok (found, t)) :
    t.netbox.table k' = s.netbox.table k' := by
  unfold ensure at h
  split at h
  · obtain ⟨-, rfl⟩ := Prod.mk.inj (Except.ok.inj h)
    exact table_create_of_ne hk
  · split at h
    · cases h
    · obtain ⟨-, rfl⟩ := Prod.mk.inj (Except.ok.inj h)
      rfl
  · cases h

/-- So it does where an object of another kind is ensured, -/
theorem ensure_spares (hdeviceType : Kind.deviceType ≠ k) (hvlan : Kind.vlan ≠ k)
    (check : Nat × Row k → Except FixtureExc Unit) (payload : Row k) :
    Goes Spares (ensure k key check payload) :=
  fun _ _ _ hrun => ⟨ensure_table hdeviceType hrun, ensure_table hvlan hrun⟩

/-- where a reference is set, -/
theorem setRef_spares (field : RefField) (iface : Iface) (target : Nat) :
    Goes Spares (setRef refreshes field iface target) := by
  intro s iface' t hrun
  unfold setRef at hrun
  split at hrun
  · obtain ⟨-, rfl⟩ := Prod.mk.inj (Except.ok.inj hrun)
    exact ⟨rfl, rfl⟩
  · obtain ⟨-, rfl⟩ := Prod.mk.inj (Except.ok.inj hrun)
    exact ⟨table_updateRef_of_ne (by decide), table_updateRef_of_ne (by decide)⟩

/-- where an interface is added, -/
theorem addInterface_spares (device : Nat) (vlanByVid : Int → Option Nat) (objects : Objects)
    (spec : InterfaceSpec) : Goes Spares (addInterface device vlanByVid objects spec) := by
  refine Goes.bind (Goes.bind (ensure_spares (by decide) (by decide) _ _) fun _ => Goes.pure _) ?_
  exact fun iface => Goes.pure _

/-- and so in all four passes. -/
theorem applyInterfaces_spares (device : Nat) (vlanByVid : Int → Option Nat) (specs : List InterfaceSpec) :
    Goes Spares (applyInterfaces refreshes device vlanByVid specs) := by
  refine Goes.bind (Goes.foldlM (addInterface_spares device vlanByVid) specs _) ?_
  intro objects
  refine Goes.bind (Goes.foldlM (goes_wireRelationships setRef_spares) specs objects) ?_
  intro objects
  refine Goes.bind (Goes.foldlM ?_ specs objects) ?_
  · exact goes_assignMac_of (ensure_spares (by decide) (by decide)) setRef_spares
  intro objects
  exact Goes.foldlM (goes_assignIp_of (ensure_spares (by decide) (by decide))) specs objects

/-- A device type is made as a fixture wants it, -/
theorem ensureDeviceType_stocked (hfx : fx ∈ fixtures) {manufacturer : Nat} {found : Nat × DeviceTypeRow}
    (hgrows : Grows s.netbox t.netbox) (h : ensureDeviceType fx.deviceType manufacturer s = .ok (found, t))
    (hs : Stocked fixtures s.netbox) : Stocked fixtures t.netbox := by
  constructor
  case deviceType =>
    intro e he
    rcases ensure_rows h e he with hold | hnew
    · exact hs.deviceType e hold
    · rw [hnew]
      exact ⟨fx, hfx, rfl, rfl⟩
  case vlan =>
    rw [ensure_table (by decide) h]
    intro e he
    obtain ⟨fx, hfx, vlan, hvlan, site, hsite, hat, hvid⟩ := hs.vlan e he
    exact ⟨fx, hfx, vlan, hvlan, site, hsite, hat.grows hgrows, hvid⟩

/-- and a VLAN likewise. -/
theorem addVlan_stocked (hfx : fx ∈ fixtures) {site : Nat} {vlan : VlanSpec} (hvlan : vlan ∈ fx.vlans)
    {vlanByVid vlanByVid' : Int → Option Nat} (hgrows : Grows s.netbox t.netbox)
    (hsite : IdAt s.netbox .site (.text fx.site) site)
    (h : addVlan site vlanByVid vlan s = .ok (vlanByVid', t))
    (hs : Stocked fixtures s.netbox) : Stocked fixtures t.netbox := by
  obtain ⟨found, u, hensure, hpure⟩ := bind_eq_ok.mp h
  obtain ⟨-, rfl⟩ := pure_eq_ok.mp hpure
  constructor
  case deviceType =>
    rw [ensure_table (by decide) hensure]
    exact hs.deviceType
  case vlan =>
    intro e he
    rcases ensure_rows hensure e he with hold | hnew
    · obtain ⟨fx, hfx, vlan, hvlan, site, hsite, hat, hvid⟩ := hs.vlan e hold
      exact ⟨fx, hfx, vlan, hvlan, site, hsite, hat.grows hgrows, hvid⟩
    · rw [hnew]
      exact ⟨fx, hfx, vlan, hvlan, site, rfl, hsite.grows hgrows, rfl, rfl⟩

/-! ## Every check passes -/

section Checks

variable (hcompatible : Compatible fixtures) (hfx : fx ∈ fixtures)

include hcompatible hfx

/-- In tables stocked from compatible fixtures no check fails: not on the height, -/
theorem checkDeviceType_passes (hstocked : Stocked fixtures n) {found : Nat × DeviceTypeRow}
    (hunder : n.under .deviceType (.text fx.deviceType.slug) = [found]) :
    checkDeviceType fx.deviceType found = .ok () := by
  obtain ⟨hmem, hkey⟩ := mem_of_under hunder
  obtain ⟨fx', hfx', hslug, hheight⟩ := hstocked.deviceType found hmem
  have hslug' : found.2.slug = fx.deviceType.slug := Key.text.inj (Option.some.inj hkey)
  unfold checkDeviceType
  rw [hheight]
  dsimp only
  rw [if_pos (by rw [hcompatible.deviceTypes fx hfx fx' hfx' (hslug'.symm.trans hslug)])]

/-- not on the name of a VLAN, -/
theorem checkVlan_passes (hstocked : Stocked fixtures n) {site : Nat}
    (hsite : IdAt n .site (.text fx.site) site)
    {vlan : VlanSpec} (hvlan : vlan ∈ fx.vlans) {found : Nat × VlanRow}
    (hunder : n.under .vlan (.vid site vlan.vid) = [found]) : checkVlan vlan found = .ok () := by
  obtain ⟨hmem, hkey⟩ := mem_of_under hunder
  obtain ⟨fx', hfx', vlan', hvlan', site', hof, hsite', hvid, hname⟩ := hstocked.vlan found hmem
  obtain ⟨site'', hof', hkey⟩ := Option.map_eq_some_iff.mp hkey
  obtain ⟨rfl, hvid'⟩ := Key.vid.inj hkey
  -- the VLAN that is found is one of a fixture of this site
  obtain rfl := Option.some.inj (hof.symm.trans hof')
  have hsame := Key.text.inj (hsite'.key_unique hsite)
  have hnames := hcompatible.vlans fx' hfx' fx hfx hsame vlan' hvlan' vlan hvlan (hvid.symm.trans hvid')
  unfold checkVlan
  rw [if_neg (not_not_intro (hname.trans hnames))]

variable (hmirrors : Mirrors fixtures n)

include hmirrors

/-- not on the name and the role of a device, -/
theorem checkDevice_passes {found : Nat × DeviceRow}
    (hunder : n.under .device (.text fx.assetTag) = [found]) : checkDevice fx found = .ok () := by
  obtain ⟨hmem, hkey⟩ := mem_of_under hunder
  obtain ⟨fx', hfx', htag, hname, -⟩ := hmirrors.provided .device found hmem
  obtain ⟨tag, htag', hkey⟩ := Option.map_eq_some_iff.mp hkey
  have hsame : fx'.assetTag = fx.assetTag :=
    (Option.some.inj (htag.symm.trans htag')).trans (Key.text.inj hkey)
  unfold checkDevice
  rw [if_neg (not_not_intro (by rw [hname, hcompatible.devices fx' hfx' fx hfx hsame]))]

variable (hspec : spec ∈ fx.interfaces) (hdevice : IdAt n .device (.text fx.assetTag) device) {iface : Nat}
  (hiface : IdAt n .interface (.iface device spec.name) iface)

include hspec hdevice hiface

/-- not on the interface of a MAC, -/
theorem checkMacAddress_passes {mac : String} (hmac : truthy spec.mac = some mac) {found : Nat × MacRow}
    (hunder : n.under .macAddress (.text mac) = [found]) : checkMacAddress mac iface found = .ok () := by
  obtain ⟨hmem, hkey⟩ := mem_of_under hunder
  obtain ⟨fx', hfx', spec', hspec', hmac', -, device', iface', hdevice', hiface', hassigned⟩ :=
    hmirrors.provided .macAddress found hmem
  obtain rfl : found.2.macAddress = mac := Key.text.inj (Option.some.inj hkey)
  obtain ⟨htag, hname⟩ := hcompatible.macs fx' hfx' spec' hspec' fx hfx spec hspec _ hmac' hmac
  obtain rfl := hdevice'.unique (htag ▸ hdevice)
  obtain rfl := hiface'.unique (hname ▸ hiface)
  unfold checkMacAddress
  rw [hassigned]
  exact if_neg fun h => h.2 rfl

/-- nor on that of an address. -/
theorem checkIpAddress_passes {ip : String} (hip : truthy spec.ip = some ip) {found : Nat × IpRow}
    (hunder : n.under .ipAddress (.text ip) = [found]) : checkIpAddress ip iface found = .ok () := by
  obtain ⟨hmem, hkey⟩ := mem_of_under hunder
  obtain ⟨fx', hfx', spec', hspec', hip', -, device', iface', hdevice', hiface', hassigned⟩ :=
    hmirrors.provided .ipAddress found hmem
  obtain rfl : found.2.address = ip := Key.text.inj (Option.some.inj hkey)
  obtain ⟨htag, hname⟩ := hcompatible.ips fx' hfx' spec' hspec' fx hfx spec hspec _ hip' hip
  obtain rfl := hdevice'.unique (htag ▸ hdevice)
  obtain rfl := hiface'.unique (hname ▸ hiface)
  unfold checkIpAddress
  rw [if_neg (not_not_intro hassigned)]

end Checks

/-! ## Every run returns -/

/-- `_ensure` returns if its key is of one object at most, which passes. -/
theorem ensure_returns {check : Nat × Row k → Except FixtureExc Unit} {payload : Row k}
    (hsingle : Single s.netbox k key) (hcheck : ∀ found, s.netbox.under k key = [found] →
      check found = .ok ()) :
    Returns s (ensure k key check payload) fun _ _ => True := by
  unfold Returns ensure
  match hunder : s.netbox.under k key with
  | []          => exact ⟨_, _, rfl, trivial⟩
  | [found]     =>
    dsimp only
    rw [hcheck found hunder]
    exact ⟨_, _, rfl, trivial⟩
  | _ :: _ :: _ =>
    unfold Single at hsingle
    rw [hunder] at hsingle
    simp at hsingle

/-- A name the host has collected is found. -/
theorem objectOf_returns {objects : Objects} {name : String} (h : objects name ≠ none) :
    Returns s (objectOf objects name) fun iface t => objects name = some iface ∧ s = t := by
  obtain ⟨iface, hiface⟩ := Option.ne_none_iff_exists'.mp h
  exact ⟨iface, s, objectOf_eq_ok.mpr ⟨hiface, rfl⟩, hiface, rfl⟩

/-- The objects in memory stay there. -/
theorem setRefOf_returns {objects : Objects} {name : String} (hhas : Has fx objects) (hname : name ∈ names fx)
    (field : RefField) (target : Nat) :
    Returns s (setRefOf refreshes field objects name target) fun objects _ => Has fx objects := by
  refine (objectOf_returns (hhas name hname)).bind ?_
  rintro iface _ - ⟨-, rfl⟩
  refine Returns.bind (P := fun _ _ => True) ?_ fun iface' _ _ _ => Returns.pure (hhas.update name iface')
  unfold Returns setRef
  split <;> exact ⟨_, _, rfl, trivial⟩

/-- What a run has done so far, from an empty Netbox. -/
structure Underway (fixtures : List HostFixture) (n : NetboxState) (s : PopulateState) : Prop where
  steps : Steps fixtures n s.netbox
  stocked : Stocked fixtures s.netbox

/-- A part that spares the device types and the VLANs keeps the run underway. -/
theorem Underway.after (h : Underway fixtures n s) (halong : Along fixtures s t) (hspares : Spares s t) :
    Underway fixtures n t := ⟨h.steps.trans halong, h.stocked.spares hspares halong.grows⟩

/-- There is nothing to find twice in empty tables. -/
theorem single_of_empty (hempty : n.Empty) : Single n k key := by
  refine single_of_forall ?_
  intro e he
  rw [hempty k] at he
  cases he

/-- The objects in memory, in the course of the passes. -/
structure InPass (fixtures : List HostFixture) (n : NetboxState) (fx : HostFixture) (device : Nat)
    (objects : Objects) (s : PopulateState) : Prop extends Underway fixtures n s where
  deviceAt : IdAt s.netbox .device (.text fx.assetTag) device
  tracks : Tracks s.netbox device (names fx) objects
  has : Has fx objects

/-- Within a pass, too, if the objects still track the tables. -/
theorem InPass.after {objects objects' : Objects} (h : InPass fixtures n fx device objects s)
    (halong : Along fixtures s t) (hspares : Spares s t)
    (htracks : Tracks t.netbox device (names fx) objects')
    (hhas : Has fx objects') : InPass fixtures n fx device objects' t where
  toUnderway := h.toUnderway.after halong hspares
  deviceAt := h.deviceAt.grows halong.grows
  tracks := htracks
  has := hhas

section Runs

variable (hempty : n.Empty)

include hempty

/-- A run that starts in empty tables never makes a second object of one key. -/
theorem Underway.single (h : Underway fixtures n s) : Single s.netbox k key :=
  (Steps.extends h.steps).single k key (single_of_empty hempty)

/-- All that is in the tables is from the fixtures. -/
theorem Underway.mirrors (h : Underway fixtures n s) : Mirrors fixtures s.netbox :=
  Steps.mirrors h.steps (mirrors_of_empty hempty)

/-- No lookup in empty tables is ambiguous. -/
theorem lookups_of_empty (fx : HostFixture) : Lookups n fx := by
  constructor
  case site | manufacturer | deviceType | deviceRole | device => exact single_of_empty hempty
  case vlan | interface | macAddress | ipAddress =>
    intros
    exact single_of_empty hempty

variable (hcompatible : Compatible fixtures) (hfx : fx ∈ fixtures)

include hcompatible hfx

section Passes

variable {objects : Objects} (h : InPass fixtures n fx device objects s) (hspec : spec ∈ fx.interfaces)

include h hspec

omit hempty in
/-- The later passes return, each from where the one before it has left: the relationships, -/
theorem wireRelationships_returns :
    Returns s (wireRelationships refreshes objects spec) (InPass fixtures n fx device) := by
  have hname : spec.name ∈ names fx := List.mem_map_of_mem hspec
  have hknown := hcompatible.known fx hfx
  refine Returns.mono (P := fun objects _ => Has fx objects) ?_ ?_
  · refine Returns.bind (P := fun objects _ => Has fx objects) ?_ ?_
    · -- the members of a LAG are interfaces of the fixture
      unfold wireMembers
      split
      · exact Returns.pure h.has
      · refine (objectOf_returns (h.has spec.name hname)).bind ?_
        rintro lag _ - ⟨-, rfl⟩
        refine Returns.foldlM ?_ h.has
        intro objects member hmember u hhas
        have hw : (⟨fx.assetTag, .lag, member, spec.name⟩ : Reference) ∈ memberReferences fx spec :=
          mem_memberReferences.mpr ⟨member, hmember, rfl⟩
        have hmemberName := (hknown _ (mem_references_of_wire hspec (List.mem_append_left _ hw))).1
        exact setRefOf_returns hhas hmemberName .lag lag.id
    · -- and so is the parent
      intro objects' u _ hhas
      unfold wireParent
      cases hparent : truthy spec.parent with
      | none => exact Returns.pure hhas
      | some parent =>
        have hw : (⟨fx.assetTag, .parent, spec.name, parent⟩ : Reference) ∈ parentReferences fx spec :=
          mem_parentReferences.mpr ⟨parent, hparent, rfl⟩
        have htarget : parent ∈ names fx :=
          (hknown _ (mem_references_of_wire hspec (List.mem_append_right _ hw))).2.resolve_left (by simp)
        refine (objectOf_returns (hhas spec.name hname)).bind ?_
        rintro child _ - ⟨-, rfl⟩
        refine (objectOf_returns (hhas parent htarget)).bind ?_
        rintro parentIface _ - ⟨-, rfl⟩
        exact setRefOf_returns hhas hname .parent parentIface.id
  · intro objects' t hrun hhas
    obtain ⟨halong, htracks, -⟩ := wireRelationships_yields hfx hspec h.deviceAt h.tracks objects' t hrun
    exact h.after halong (goes_wireRelationships setRef_spares _ _ _ _ _ hrun) htracks hhas

/-- the MACs, -/
theorem assignMac_returns : Returns s (assignMac refreshes objects spec) (InPass fixtures n fx device) := by
  have hname : spec.name ∈ names fx := List.mem_map_of_mem hspec
  refine Returns.mono (P := fun objects _ => Has fx objects) ?_ ?_
  · unfold assignMac
    cases hmac : truthy spec.mac with
    | none => exact Returns.pure h.has
    | some mac =>
      refine (objectOf_returns (h.has spec.name hname)).bind ?_
      rintro iface _ - ⟨hiface, rfl⟩
      refine Returns.bind (ensure_returns (h.toUnderway.single hempty) fun found hunder =>
        checkMacAddress_passes hcompatible hfx (h.toUnderway.mirrors hempty) hspec h.deviceAt
          (h.tracks.idAt hiface)
          hmac hunder) ?_
      intro macAddress u _ _
      exact setRefOf_returns h.has hname .primaryMacAddress macAddress.1
  · intro objects' t hrun hhas
    obtain ⟨halong, htracks, -⟩ := assignMac_yields hfx hspec h.deviceAt h.tracks objects' t hrun
    have hspares := goes_assignMac_of (ensure_spares (by decide) (by decide)) setRef_spares _ _ _ _ _ hrun
    exact h.after halong hspares htracks hhas

/-- and the addresses. -/
theorem assignIp_returns : Returns s (assignIp objects spec) (InPass fixtures n fx device) := by
  have hname : spec.name ∈ names fx := List.mem_map_of_mem hspec
  refine Returns.mono (P := fun objects _ => Has fx objects) ?_ ?_
  · unfold assignIp
    cases hip : truthy spec.ip with
    | none => exact Returns.pure h.has
    | some ip =>
      refine (objectOf_returns (h.has spec.name hname)).bind ?_
      rintro iface _ - ⟨hiface, rfl⟩
      refine Returns.bind (ensure_returns (h.toUnderway.single hempty) fun found hunder =>
        checkIpAddress_passes hcompatible hfx (h.toUnderway.mirrors hempty) hspec h.deviceAt
          (h.tracks.idAt hiface)
          hip hunder) ?_
      intro _ u _ _
      exact Returns.pure h.has
  · intro objects' t hrun hhas
    obtain ⟨halong, htracks, -⟩ := assignIp_yields hfx hspec h.deviceAt h.tracks objects' t hrun
    exact h.after halong (goes_assignIp_of (ensure_spares (by decide) (by decide)) _ _ _ _ _ hrun)
      htracks hhas

end Passes

variable (hn : n.Sound)

include hn

omit hcompatible in
/-- Pass 1 finds at most one object under each key, and brings all objects into memory. -/
theorem addInterfaces_returns {site : Nat} {vlanByVid : Int → Option Nat} (h : Underway fixtures n s)
    (hdevice : IdAt s.netbox .device (.text fx.assetTag) device) (hvlans : VlansAt s.netbox site vlanByVid) :
    Returns s (fx.interfaces.foldlM (addInterface device vlanByVid) fun _ => none)
      (InPass fixtures n fx device) := by
  refine Returns.mono (P := fun objects u => Underway fixtures n u ∧ Along fixtures s u ∧
    Tracks u.netbox device (names fx) objects) ?_ ?_
  · refine Returns.foldlM ?_ ⟨h, .refl, fun name iface hiface => by cases hiface⟩
    rintro objects spec hspec u ⟨hu, hsu, htracks⟩
    refine Returns.mono (P := fun _ _ => True) ?_ ?_
    · refine Returns.bind (P := fun _ _ => True) ?_ fun _ _ _ _ => Returns.pure trivial
      exact (ensure_returns (hu.single hempty) fun _ _ => rfl).bind fun _ _ _ _ => Returns.pure trivial
    · intro objects' t hrun _
      obtain ⟨hut, htracks', -⟩ :=
        addInterface_yields hfx hspec (hdevice.grows hsu.grows) htracks (hvlans.grows hsu.grows)
          objects' t hrun
      have hspares := addInterface_spares _ _ _ _ _ _ _ hrun
      exact ⟨hu.after hut hspares, hsu.trans hut, htracks'⟩
  · rintro objects t hrun ⟨ht, hst, htracks⟩
    have hhas := (addInterfaces_conflicts hn (lookups_of_empty hempty fx) (Steps.extends h.steps) hdevice).returns
      objects t hrun
    exact ⟨ht, hdevice.grows hst.grows, htracks, hhas.2⟩

/-- All passes over the interfaces of one device return. -/
theorem applyInterfaces_returns {site : Nat} {vlanByVid : Int → Option Nat} (h : Underway fixtures n s)
    (hdevice : IdAt s.netbox .device (.text fx.assetTag) device) (hvlans : VlansAt s.netbox site vlanByVid) :
    Returns s (applyInterfaces refreshes device vlanByVid fx.interfaces) fun _ t =>
      Underway fixtures n t := by
  refine (addInterfaces_returns hempty hfx hn h hdevice hvlans).bind ?_
  intro objects₁ s₁ _ h₁
  refine Returns.bind (Returns.foldlM (fun objects spec hspec u hu =>
    wireRelationships_returns hcompatible hfx hu hspec) h₁) ?_
  intro objects₂ s₂ _ h₂
  refine Returns.bind (Returns.foldlM (fun objects spec hspec u hu =>
    assignMac_returns hempty hcompatible hfx hu hspec) h₂) ?_
  intro objects₃ s₃ _ h₃
  refine Returns.mono (Returns.foldlM (fun objects spec hspec u hu =>
    assignIp_returns hempty hcompatible hfx hu hspec) h₃) ?_
  exact fun objects t _ ht => ht.toUnderway

omit hn in
/-- The loop over the VLANs returns. -/
theorem addVlans_returns {site : Nat} (h : Underway fixtures n s)
    (hsite : IdAt s.netbox .site (.text fx.site) site) :
    Returns s (fx.vlans.foldlM (addVlan site) fun _ => none) fun vlanByVid (t : PopulateState) =>
      Underway fixtures n t ∧ Along fixtures s t ∧ VlansAt t.netbox site vlanByVid := by
  refine Returns.foldlM ?_ ⟨h, .refl, fun vid id hid => by cases hid⟩
  rintro vlanByVid vlan hvlan u ⟨hu, hsu, hvlans⟩
  have hsite' := hsite.grows hsu.grows
  refine Returns.mono (P := fun _ _ => True) ?_ ?_
  · refine Returns.bind (ensure_returns (hu.single hempty) fun found hunder => ?_) fun _ _ _ _ =>
      Returns.pure trivial
    exact checkVlan_passes hcompatible hfx hu.stocked hsite' hvlan hunder
  · intro vlanByVid' t hrun _
    obtain ⟨hut, hvlans', -⟩ := addVlan_yields hfx hvlan hvlans vlanByVid' t hrun
    exact ⟨⟨hu.steps.trans hut, addVlan_stocked hfx hvlan hut.grows hsite' hrun hu.stocked⟩,
      hsu.trans hut, hvlans'⟩

/-- **A whole fixture is applied.** -/
theorem applyOne_returns (h : Underway fixtures n s) :
    Returns s (applyOne refreshes fx) fun _ t => Underway fixtures n t := by
  refine Returns.bind (ensure_returns (h.single hempty) fun _ _ => rfl) ?_
  intro site s₁ hsite _
  obtain ⟨hs₁, hsiteAt⟩ := ensureSite_yields hfx site s₁ hsite
  have h₁ := h.after hs₁ (ensure_spares (by decide) (by decide) _ _ _ _ _ hsite)
  refine Returns.bind (ensure_returns (h₁.single hempty) fun _ _ => rfl) ?_
  intro manufacturer s₂ hmanufacturer _
  obtain ⟨hs₂, -⟩ := ensureManufacturer_yields hfx manufacturer s₂ hmanufacturer
  have h₂ := h₁.after hs₂ (ensure_spares (by decide) (by decide) _ _ _ _ _ hmanufacturer)
  refine Returns.bind (ensure_returns (h₂.single hempty) fun found hunder =>
    checkDeviceType_passes hcompatible hfx h₂.stocked hunder) ?_
  intro deviceType s₃ hdeviceType _
  obtain ⟨hs₃, -⟩ := ensureDeviceType_yields hfx manufacturer.1 deviceType s₃ hdeviceType
  have h₃ : Underway fixtures n s₃ :=
    ⟨h₂.steps.trans hs₃, ensureDeviceType_stocked hfx hs₃.grows hdeviceType h₂.stocked⟩
  refine Returns.bind (ensure_returns (h₃.single hempty) fun _ _ => rfl) ?_
  intro role s₄ hrole _
  obtain ⟨hs₄, hroleAt⟩ := ensureDeviceRole_yields hfx role s₄ hrole
  have h₄ := h₃.after hs₄ (ensure_spares (by decide) (by decide) _ _ _ _ _ hrole)
  -- the site is where it was found, when its VLANs are looked up
  have hsite₄ := hsiteAt.grows (hs₂.trans (hs₃.trans hs₄)).grows
  refine Returns.bind (addVlans_returns hempty hcompatible hfx h₄ hsite₄) ?_
  rintro vlanByVid s₅ - ⟨h₅, hs₅, hvlansAt⟩
  refine Returns.bind (ensure_returns (h₅.single hempty) fun found hunder =>
    checkDevice_passes hcompatible hfx (h₅.mirrors hempty) hunder) ?_
  intro device s₆ hdevice _
  obtain ⟨hs₆, hunder, -⟩ := ensureDevice_yields hfx (hroleAt.grows hs₅.grows) device s₆ hdevice
  have h₆ := h₅.after hs₆ (ensure_spares (by decide) (by decide) _ _ _ _ _ hdevice)
  refine Returns.bind (applyInterfaces_returns hempty hcompatible hfx hn h₆ ⟨device.2, hunder⟩
    (hvlansAt.grows hs₆.grows)) ?_
  exact fun _ t _ ht => Returns.pure ht

end Runs

/-! ## What a run that returns says of the fixtures -/

/-- The loop over the VLANs keeps the tables stocked. -/
theorem addVlans_stocked (hfx : fx ∈ fixtures) {site : Nat} (hsite : IdAt s.netbox .site (.text fx.site) site)
    (hs : Stocked fixtures s.netbox) :
    Yields (Along fixtures) s (fx.vlans.foldlM (addVlan site) fun _ => none)
      fun vlanByVid (t : PopulateState) =>
      VlansAt t.netbox site vlanByVid ∧ Stocked fixtures t.netbox := by
  refine (Yields.foldlM (I := fun vlanByVid (t : PopulateState) => VlansAt t.netbox site vlanByVid ∧
    Stocked fixtures t.netbox) (P := fun _ _ => True) ?_ ?_ ?_).mono fun _ _ _ h => h.1
  · exact fun _ _ _ _ _ _ => trivial
  · rintro vlanByVid vlan hvlan u hsu ⟨hvlans, hu⟩ vlanByVid' t hrun
    obtain ⟨hut, hvlans', -⟩ := addVlan_yields hfx hvlan hvlans vlanByVid' t hrun
    exact ⟨hut, ⟨hvlans', addVlan_stocked hfx hvlan hut.grows (hsite.grows hsu.grows) hrun hu⟩, trivial⟩
  · exact ⟨fun vid id hid => (by cases hid), hs⟩

/-- Device types and VLANs are those of the fixtures, after each. -/
theorem applyOne_stocked (hfx : fx ∈ fixtures) (h : applyOne refreshes fx s = .ok ((), t))
    (hs : Stocked fixtures s.netbox) : Stocked fixtures t.netbox := by
  obtain ⟨site, s₁, hsite, h⟩ := bind_eq_ok.mp h
  obtain ⟨manufacturer, s₂, hmanufacturer, h⟩ := bind_eq_ok.mp h
  obtain ⟨deviceType, s₃, hdeviceType, h⟩ := bind_eq_ok.mp h
  obtain ⟨role, s₄, hrole, h⟩ := bind_eq_ok.mp h
  obtain ⟨vlanByVid, s₅, hvlans, h⟩ := bind_eq_ok.mp h
  obtain ⟨device, s₆, hdevice, h⟩ := bind_eq_ok.mp h
  obtain ⟨objects, s₇, hinterfaces, hpure⟩ := bind_eq_ok.mp h
  obtain ⟨-, rfl⟩ := pure_eq_ok.mp hpure
  obtain ⟨hs₁, hsiteAt⟩ := ensureSite_yields hfx site s₁ hsite
  obtain ⟨hs₂, -⟩ := ensureManufacturer_yields hfx manufacturer s₂ hmanufacturer
  obtain ⟨hs₃, -⟩ := ensureDeviceType_yields hfx manufacturer.1 deviceType s₃ hdeviceType
  obtain ⟨hs₄, hroleAt⟩ := ensureDeviceRole_yields hfx role s₄ hrole
  have h₁ := hs.spares (ensure_spares (by decide) (by decide) _ _ _ _ _ hsite) hs₁.grows
  have h₂ := h₁.spares (ensure_spares (by decide) (by decide) _ _ _ _ _ hmanufacturer) hs₂.grows
  have h₃ := ensureDeviceType_stocked hfx hs₃.grows hdeviceType h₂
  have h₄ := h₃.spares (ensure_spares (by decide) (by decide) _ _ _ _ _ hrole) hs₄.grows
  have hsite₄ := hsiteAt.grows (hs₂.trans (hs₃.trans hs₄)).grows
  obtain ⟨hs₅, hvlansAt, h₅⟩ := addVlans_stocked hfx hsite₄ h₄ vlanByVid s₅ hvlans
  obtain ⟨hs₆, hunder, -⟩ := ensureDevice_yields hfx (hroleAt.grows hs₅.grows) device s₆ hdevice
  have h₆ := h₅.spares (ensure_spares (by decide) (by decide) _ _ _ _ _ hdevice) hs₆.grows
  obtain ⟨hs₇, -⟩ := applyInterfaces_yields hfx ⟨device.2, hunder⟩ (hvlansAt.grows hs₆.grows)
      objects s₇ hinterfaces
  exact h₆.spares (applyInterfaces_spares _ _ _ _ _ _ hinterfaces) hs₇.grows

/-- Empty tables hold nothing that disagrees with a fixture. -/
theorem stocked_of_empty (hempty : n.Empty) : Stocked fixtures n := by
  constructor
  case deviceType | vlan =>
    intro e he
    rw [hempty] at he
    cases he

/-- A whole run keeps the tables stocked. -/
theorem populate_stocked {report : PopulateReport} (hempty : n.Empty)
    (h : populate refreshes fixtures n = .ok (report, n')) : Stocked fixtures n' := by
  unfold populate at h
  split at h
  · cases h
  · rename_i t hrun
    obtain ⟨-, rfl⟩ := Prod.mk.inj (Except.ok.inj h)
    have hloop := Yields.foldlM (R := Along fixtures) (s := ⟨n, ⟨[], []⟩⟩) (l := fixtures) (b := ())
      (f := fun _ fx => applyOne refreshes fx) (I := fun _ (u : PopulateState) => Stocked fixtures u.netbox)
      (P := fun _ _ => True) (fun _ _ _ _ _ _ => trivial) ?_ (stocked_of_empty hempty)
    · exact (hloop () t hrun).2.1
    · intro _ fx hfx u _ hu _ t hrun
      exact ⟨(applyOne_yields hfx () t hrun).1, applyOne_stocked hfx hrun hu, trivial⟩

section Returned

variable {report : PopulateReport} (hempty : n.Empty) (hn : n.Sound)
  (h : populate refreshes fixtures n = .ok (report, n'))

include hempty hn h

/-- The MACs that two interfaces share, and the addresses, are found assigned to both. -/
theorem same_interface (hfx : fx ∈ fixtures) (hspec : spec ∈ fx.interfaces) (hfx' : fx' ∈ fixtures)
    (hspec' : spec' ∈ fx'.interfaces) :
    (∀ mac, truthy spec.mac = some mac → truthy spec'.mac = some mac →
      fx.assetTag = fx'.assetTag ∧ spec.name = spec'.name) ∧
    (∀ ip, truthy spec.ip = some ip → truthy spec'.ip = some ip →
      fx.assetTag = fx'.assetTag ∧ spec.name = spec'.name) := by
  obtain ⟨hsteps, hrun⟩ := populate_runs h
  have hmirrors := Steps.mirrors hsteps (mirrors_of_empty hempty)
  obtain ⟨device, hdevice, -, hinterfaces⟩ := (hrun fx hfx).1.device
  obtain ⟨device', hdevice', -, hinterfaces'⟩ := (hrun fx' hfx').1.device
  have hsame : ∀ iface, IdAt n' .interface (.iface device.1 spec.name) iface →
      IdAt n' .interface (.iface device'.1 spec'.name) iface → fx.assetTag = fx'.assetTag ∧
        spec.name = spec'.name := by
    intro iface hiface hiface'
    obtain ⟨hdevices, hname⟩ := Key.iface.inj (hiface.key_unique hiface')
    have hat : IdAt n' .device (.text fx.assetTag) device.1 := ⟨device.2, hdevice⟩
    have hat' : IdAt n' .device (.text fx'.assetTag) device'.1 := ⟨device'.2, hdevice'⟩
    rw [hdevices] at hat
    exact ⟨Key.text.inj (hat.key_unique hat'), hname⟩
  constructor
  · intro mac hmac hmac'
    obtain ⟨iface, hiface, found, hunder, hcheck⟩ := hinterfaces.macs spec hspec mac hmac
    obtain ⟨iface', hiface', found', hunder', hcheck'⟩ := hinterfaces'.macs spec' hspec' mac hmac'
    obtain rfl := List.singleton_inj.mp (hunder.symm.trans hunder')
    obtain ⟨_, _, _, _, _, _, _, id, _, hat, hid⟩ :=
      hmirrors.provided .macAddress found (mem_of_under hunder).1
    have hne := ne_zero_of_idAt hn (Steps.extends hsteps) hat
    obtain rfl := id_of_checkMacAddress hcheck hid hne
    obtain rfl := id_of_checkMacAddress hcheck' hid hne
    exact hsame id hiface hiface'
  · intro ip hip hip'
    obtain ⟨iface, hiface, found, hunder, hcheck⟩ := hinterfaces.ips spec hspec ip hip
    obtain ⟨iface', hiface', found', hunder', hcheck'⟩ := hinterfaces'.ips spec' hspec' ip hip'
    obtain rfl := List.singleton_inj.mp (hunder.symm.trans hunder')
    obtain rfl := Option.some.inj ((id_of_checkIpAddress hcheck).symm.trans (id_of_checkIpAddress hcheck'))
    exact hsame iface hiface hiface'

/-- **If the run returns, the fixtures are compatible**: what they disagree in would have been raised. -/
theorem compatible_of_returns : Compatible fixtures := by
  obtain ⟨hsteps, hrun⟩ := populate_runs h
  constructor
  case known =>
    intro fx hfx
    obtain ⟨device, -, -, hinterfaces⟩ := (hrun fx hfx).1.device
    exact hinterfaces.known
  case deviceTypes =>
    intro fx hfx fx' hfx' hslug
    obtain ⟨found, hunder, hcheck⟩ := (hrun fx hfx).1.deviceType
    obtain ⟨found', hunder', hcheck'⟩ := (hrun fx' hfx').1.deviceType
    rw [hslug] at hunder
    obtain rfl := List.singleton_inj.mp (hunder.symm.trans hunder')
    -- its height is recorded, and both have passed
    obtain ⟨fx₀, -, -, hheight⟩ := (populate_stocked hempty h).deviceType found (mem_of_under hunder).1
    have hpassed : ∀ spec : DeviceTypeSpec, checkDeviceType spec found = .ok () →
        (fx₀.deviceType.uHeight : Rat) = spec.uHeight := by
      intro spec hcheck
      unfold checkDeviceType at hcheck
      rw [hheight] at hcheck
      by_contra hne
      dsimp only at hcheck
      rw [if_neg hne] at hcheck
      cases hcheck
    have hheights := (hpassed _ hcheck).symm.trans (hpassed _ hcheck')
    exact Rat.intCast_inj.mp hheights
  case vlans =>
    intro fx hfx fx' hfx' hsite vlan hvlan vlan' hvlan' hvid
    obtain ⟨site, hsiteAt, hvlans⟩ := (hrun fx hfx).1.site
    obtain ⟨site', hsiteAt', hvlans'⟩ := (hrun fx' hfx').1.site
    obtain rfl := hsiteAt.unique (hsite ▸ hsiteAt')
    obtain ⟨found, hunder, hcheck⟩ := hvlans vlan hvlan
    obtain ⟨found', hunder', hcheck'⟩ := hvlans' vlan' hvlan'
    rw [hvid] at hunder
    obtain rfl := List.singleton_inj.mp (hunder.symm.trans hunder')
    have hpassed : ∀ spec : VlanSpec, checkVlan spec found = .ok () → found.2.name = spec.name := by
      intro spec hcheck
      unfold checkVlan at hcheck
      by_contra hne
      rw [if_pos hne] at hcheck
      cases hcheck
    exact (hpassed vlan hcheck).symm.trans (hpassed vlan' hcheck')
  case devices =>
    intro fx hfx fx' hfx' htag
    obtain ⟨found, hunder, hcheck, -⟩ := (hrun fx hfx).1.device
    obtain ⟨found', hunder', hcheck', -⟩ := (hrun fx' hfx').1.device
    rw [htag] at hunder
    obtain rfl := List.singleton_inj.mp (hunder.symm.trans hunder')
    have hpassed : ∀ fx : HostFixture, checkDevice fx found = .ok () → found.2.name = some fx.hostname := by
      intro fx hcheck
      unfold checkDevice at hcheck
      by_contra hne
      rw [if_pos hne] at hcheck
      cases hcheck
    exact Option.some.inj ((hpassed fx hcheck).symm.trans (hpassed fx' hcheck'))
  case macs =>
    exact fun fx hfx spec hspec fx' hfx' spec' hspec' => (same_interface hempty hn h hfx hspec hfx' hspec').1
  case ips =>
    exact fun fx hfx spec hspec fx' hfx' spec' hspec' => (same_interface hempty hn h hfx hspec hfx' hspec').2

end Returned

/-! ## The condition -/

/-- **If they are compatible, it returns**: none of the checks on the way fails. -/
theorem returns_of_compatible (hempty : n.Empty) (hn : n.Sound) (h : Compatible fixtures) :
    ∃ report n', populate refreshes fixtures n = .ok (report, n') := by
  have hloop : Returns ⟨n, ⟨[], []⟩⟩ (fixtures.foldlM (fun _ fx => applyOne refreshes fx) ())
      fun _ t => Underway fixtures n t := by
    refine Returns.foldlM ?_ ⟨.refl, stocked_of_empty hempty⟩
    exact fun _ fx hfx u hu => applyOne_returns hempty h hfx hn hu
  obtain ⟨⟨⟩, t, hrun, -⟩ := hloop
  refine ⟨t.report, t.netbox, ?_⟩
  unfold populate
  rw [hrun]

/-- What an empty Netbox accepts, it accepts in every order. -/
theorem returns_perm {refreshes' : Bool} {report : PopulateReport} (hempty : n.Empty) (hn : n.Sound)
    (hperm : fixtures.Perm fixtures') (h : populate refreshes fixtures n = .ok (report, n')) :
    ∃ report' n'', populate refreshes' fixtures' n = .ok (report', n'') :=
  returns_of_compatible hempty hn ((compatible_of_returns hempty hn h).perm hperm)

/-- **An empty Netbox accepts exactly the fixtures that are compatible.** -/
theorem populate_accepts_iff (hempty : n.Empty) (hn : n.Sound) :
    (∃ report n', populate refreshes fixtures n = .ok (report, n')) ↔ Compatible fixtures := by
  constructor
  · rintro ⟨report, n', h⟩
    exact compatible_of_returns hempty hn h
  · exact returns_of_compatible hempty hn

theorem populate_accepts_iff_twoHosts :
    (∃ report netbox, populate false twoHosts noObjects = .ok (report, netbox)) ↔ Compatible twoHosts :=
  populate_accepts_iff empty_noObjects sound_noObjects

end Fixtures
end HostConfig
