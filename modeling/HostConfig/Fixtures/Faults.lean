import HostConfig.Fixtures.Assignments
import HostConfig.Fixtures.Resumption
import HostConfig.Lib.Readings

/-!
# `Fixtures.Faults` — the calls of `populate` that go wrong

`Fixtures.Assignments` says where all MACs and addresses are assigned at the end of a run that returns. A
run can also raise a conflict before it comes to a record that would have been taken for assigned, or after.
So the condition under which `populate` keeps its promise is about the calls a run makes, each in the state
of Netbox and of the process before it: `Faulty` are the calls that go wrong there, `Refused` those whose
check refuses the record that is found. `promised_iff`: the promise is kept exactly if the run makes up for
every faulty call with a refused one.
-/

namespace HostConfig
namespace Fixtures

open StateRuns Relation Script

variable {fixtures : List HostFixture} {fx : HostFixture} {spec : InterfaceSpec}
  {n n' : NetboxState} {k : Kind} {refreshes : Bool} {s t u v : Session} {c : Demand} {e : FixtureExc}

/-! ## Calls that go wrong -/

/-- What the record of a MAC or an address is assigned to: the type of the object, and its id. -/
def assignment : (k : Kind) → Row k → Option (Option String × Option Nat)
  | .macAddress, row => some (row.assignedObjectType, row.assignedObjectId)
  | .ipAddress,  row => some (row.assignedObjectType, row.assignedObjectId)
  | .site, _ | .manufacturer, _ | .deviceType, _ | .deviceRole, _ | .vlan, _ | .device, _ | .interface, _ =>
    none

/-- Whether there is such a record is a matter of the kind. -/
theorem assignment_eq_none {row : Row k} (h : assignment k row = none) (row' : Row k) :
    assignment k row' = none := by
  cases k with
  | site | manufacturer | deviceType | deviceRole | vlan | device | interface => rfl
  | macAddress | ipAddress => cases h

/-- The fixture list gives the interface of the device a MAC, and another one too. -/
def TwoMacs (fixtures : List HostFixture) (n : NetboxState) (device : Nat) (name : String) : Prop :=
  ∃ fx ∈ fixtures, IdAt n .device (.text fx.assetTag) device ∧ ∃ spec ∈ fx.interfaces, spec.name = name ∧
    ∃ w ∈ macReferences fx spec, ¬ Uncontested fixtures w

/-- The call goes wrong: what it looks up is ambiguous, or not in memory; the record it finds passes the
    check and is not assigned as a new one would be; or it makes one of two MACs the primary one. -/
def Faulty (fixtures : List HostFixture) : Demand → Session → Prop
  | .object k wanted, s        => ¬ Single s.netbox k wanted.key ∨
      ∃ found, s.netbox.under k wanted.key = [found] ∧ wanted.check found = .ok () ∧
        assignment k found.2 ≠ assignment k wanted.payload
  | .device _, _               => False
  | .interface spec _, s       => ¬ Single s.netbox .interface (.iface s.device spec.name)
  | .idOf name, s              => s.objects name = none
  | .reference field name _, s => s.objects name = none ∨
      field = .primaryMacAddress ∧ TwoMacs fixtures s.netbox s.device name

/-- The call finds one record, and its check refuses it. -/
def Refused : Demand → Session → Prop
  | .object k wanted, s => ∃ found, s.netbox.under k wanted.key = [found] ∧ wanted.check found ≠ .ok ()
  | _, _                => False

/-! ### What a call raises -/

/-- `_ensure` fails at its check, or at a key of several objects. -/
theorem ensure_eq_error {key : Key} {check : Nat × Row k → Except FixtureExc Unit} {payload : Row k}
    {s : PopulateState} (h : ensure k key check payload s = .error e) :
    (∃ found, s.netbox.under k key = [found] ∧ check found = .error e) ∨
      (¬ Single s.netbox k key ∧ e = .valueError) := by
  unfold ensure at h
  split at h
  · cases h
  · rename_i found hunder
    split at h
    · rename_i e' hcheck
      obtain rfl := Except.error.inj h
      exact .inl ⟨found, hunder, hcheck⟩
    · cases h
  · rename_i hmany
    refine .inr ⟨?_, (Except.error.inj h).symm⟩
    unfold Single
    rw [hmany]
    simp

/-- A call raises a conflict where its check refuses, and something else where it is faulty. -/
theorem refused_or_faulty (fixtures : List HostFixture) (h : demand refreshes c s = .error e) :
    (Refused c s ∧ e.IsConflict) ∨ (Faulty fixtures c s ∧ ¬ Refused c s ∧ ¬ e.IsConflict) := by
  cases c with
  | object k wanted =>
    rw [demand_object] at h
    rcases ensure_eq_error (Traverse.map_eq_error.mp h) with ⟨found, hunder, hcheck⟩ | ⟨hmany, rfl⟩
    · left
      refine ⟨⟨found, hunder, ?_⟩, wanted.conflicts found e hcheck⟩
      rw [hcheck]
      exact fun heq => by cases heq
    · right
      refine ⟨.inl hmany, ?_, fun hconflict => hconflict⟩
      rintro ⟨found, hunder, -⟩
      exact hmany (single_of_idAt ⟨found.2, hunder⟩)
  | device id => cases h
  | interface spec vlanByVid =>
    rw [demand_interface] at h
    rcases ensure_eq_error (Traverse.map_eq_error.mp h) with ⟨found, -, hcheck⟩ | ⟨hmany, rfl⟩
    · cases hcheck
    · exact .inr ⟨hmany, id, fun hconflict => hconflict⟩
  | idOf name =>
    cases hiface : s.objects name with
    | none =>
      rw [demand_idOf_of_none hiface] at h
      obtain rfl := Except.error.inj h
      exact .inr ⟨hiface, id, fun hconflict => hconflict⟩
    | some iface =>
      rw [demand_idOf hiface] at h
      cases h
  | reference field name target =>
    cases hiface : s.objects name with
    | none =>
      rw [demand_reference_of_none field target hiface] at h
      obtain rfl := Except.error.inj h
      exact .inr ⟨.inl hiface, id, fun hconflict => hconflict⟩
    | some iface =>
      rw [demand_reference field target hiface] at h
      unfold setRef at h
      split at h <;> cases h

/-- A refused demand fails. -/
theorem raises_of_refused (refreshes : Bool) (h : Refused c s) : ∃ e, demand refreshes c s = .error e := by
  cases c with
  | object k wanted =>
    obtain ⟨found, hunder, hcheck⟩ := h
    rw [demand_object]
    unfold ensure
    rw [hunder]
    cases hresult : wanted.check found with
    | ok _ => exact absurd hresult hcheck
    | error e =>
      refine ⟨e, ?_⟩
      simp only [hresult]
      rfl
  | device id | interface spec vlanByVid | idOf name | reference field name target => exact h.elim

/-! ## The calls a run makes -/

/-- The process is at the interfaces of the fixture's device. -/
structure AtDevice (fx : HostFixture) (s : Session) : Prop where
  coherent : Coherent s
  device : IdAt s.netbox .device (.text fx.assetTag) s.device

/-- An answered demand keeps the session coherent, -/
theorem demand_coherent {r : c.Reply} (h : demand refreshes c s = .ok (r, u)) (hs : Coherent s) :
    Coherent u := by
  cases c with
  | object k wanted =>
    obtain ⟨found, s', -, rfl, -, -, hadded⟩ := object_ok h
    exact hs.added hadded
  | device id =>
    obtain ⟨-, rfl⟩ := Prod.mk.inj (Except.ok.inj h)
    refine ⟨[], ?_⟩
    intro name iface hiface
    cases hiface
  | interface spec vlanByVid =>
    obtain ⟨found, s', rfl, hunder, hadded⟩ := interface_ok h
    obtain ⟨names, htracks⟩ := hs
    exact ⟨_, (htracks.keeps hadded.keeps).add hunder⟩
  | idOf name =>
    obtain ⟨iface, -, -, rfl⟩ := idOf_ok h
    exact hs
  | reference field name target =>
    obtain ⟨iface, iface', s', hiface, hset, rfl⟩ := reference_ok h
    obtain ⟨names, htracks⟩ := hs
    exact ⟨names, (setRef_ok htracks hiface hset).tracks names htracks⟩

/-- so a run is coherent wherever it gets. -/
theorem reaches_coherent (h : Script.Reaches (demand refreshes) s u) (hs : Coherent s) : Coherent u := by
  induction h with
  | refl => exact hs
  | tail _ hstep ih =>
    obtain ⟨c, r, hstep⟩ := hstep
    exact demand_coherent hstep ih

/-- The passes over the interfaces stay at the device. -/
theorem AtDevice.run {x : PopulateScript Unit} {f : Nat → Objects → PopulateM Objects}
    (hx : x.run (demand refreshes) = threading f) {a : Unit} (hrun : x.run (demand refreshes) s = .ok (a, u))
    (h : AtDevice fx s) : AtDevice fx u := by
  have hreaches := reaches_of_run hrun
  have hdevice : u.device = s.device := by
    rw [hx] at hrun
    obtain ⟨p, -, hp⟩ := Traverse.map_eq_ok.mp hrun
    exact (congrArg Session.device (Prod.mk.inj hp).2).symm
  constructor
  case coherent => exact reaches_coherent hreaches h.coherent
  case device =>
    rw [hdevice]
    exact h.device.grows (reaches_grows hreaches)

/-- What a call by name gives is the interface's id. -/
theorem AtDevice.idAt (h : AtDevice fx s) {name : String} {iface : Iface}
    (hiface : s.objects name = some iface) : IdAt s.netbox .interface (.iface s.device name) iface.id := by
  obtain ⟨names, htracks⟩ := h.coherent
  exact htracks.idAt hiface

section Pieces

variable {wanted : Wanted k}

/-- What each part of the script demands: an object, -/
theorem makes_object {k' : Kind} {wanted' : Wanted k'}
    (h : Makes (demand refreshes) (Calls.object k' wanted') s c u) : c = .object k' wanted' ∧ u = s := by
  rcases makes_call_iff.mp h with ⟨rfl, rfl⟩ | ⟨r, w, -, h⟩
  · exact ⟨rfl, rfl⟩
  · cases h

/-- an interface, -/
theorem makes_interface {vlanByVid : Int → Option Nat}
    (h : Makes (demand refreshes) (Calls.interface vlanByVid spec) s c u) :
    c = .interface spec vlanByVid := by
  rcases makes_call_iff.mp h with ⟨rfl, rfl⟩ | ⟨r, w, -, h⟩
  · rfl
  · cases h

/-- an id, -/
theorem makes_idOf {name : String} (h : Makes (demand refreshes) (Calls.idOf name) s c u) :
    c = .idOf name := by
  rcases makes_call_iff.mp h with ⟨rfl, rfl⟩ | ⟨r, w, -, h⟩
  · rfl
  · cases h

/-- a reference. -/
theorem makes_reference {field : RefField} {name : String} {target : Nat}
    (h : Makes (demand refreshes) (Calls.reference field name target) s c u) :
    c = .reference field name target := by
  rcases makes_call_iff.mp h with ⟨rfl, rfl⟩ | ⟨r, w, -, h⟩
  · rfl
  · cases h

/-- What `idOf` returns is the id of the object in memory. -/
theorem idOf_run {name : String} {id : Nat} (h : (Calls.idOf name).run (demand refreshes) s = .ok (id, u)) :
    ∃ iface, s.objects name = some iface ∧ id = iface.id ∧ u = s := by
  have hrun : (Calls.idOf name).run (demand refreshes) = demand refreshes (.idOf name) := bind_pure _
  rw [hrun] at h
  exact idOf_ok h

/-- The wiring asks for no record. -/
theorem not_makes_wireRelationships :
    ¬ Makes (demand refreshes) (Calls.wireRelationships spec) s (.object k wanted) u := by
  intro h
  unfold Calls.wireRelationships at h
  rcases makes_bind_iff.mp h with h | ⟨-, w, -, h⟩
  · unfold Calls.wireMembers at h
    split at h
    · exact not_makes_pure h
    · rcases makes_bind_iff.mp h with h | ⟨lag, w, -, h⟩
      · cases makes_idOf h
      · obtain ⟨member, -, -, w', -, h⟩ :=
          h.iteration (I := fun _ _ => True) (fun _ _ _ _ _ _ _ _ => trivial) trivial
        cases makes_reference h
  · unfold Calls.wireParent at h
    split at h
    · exact not_makes_pure h
    · rcases makes_bind_iff.mp h with h | ⟨child, w', -, h⟩
      · cases makes_idOf h
      · rcases makes_bind_iff.mp h with h | ⟨parent, w'', -, h⟩
        · cases makes_idOf h
        · cases makes_reference h

/-- A MAC is asked for its interface. -/
theorem object_of_assignMac (h : Makes (demand refreshes) (Calls.assignMac spec) s (.object k wanted) u) :
    ∃ mac iface, truthy spec.mac = some mac ∧ s.objects spec.name = some iface ∧ u = s ∧
      (Demand.object k wanted) = .object .macAddress (wantedMacAddress mac iface.id) := by
  unfold Calls.assignMac at h
  split at h
  · exact absurd h not_makes_pure
  · rename_i mac hmac
    rcases makes_bind_iff.mp h with hid | ⟨id, w, hid, hrest⟩
    · cases makes_idOf hid
    · obtain ⟨iface, hiface, rfl, rfl⟩ := idOf_run hid
      rcases makes_bind_iff.mp hrest with hasked | ⟨macAddress, w, -, hlast⟩
      · obtain ⟨hobject, rfl⟩ := makes_object hasked
        exact ⟨mac, iface, hmac, hiface, rfl, hobject⟩
      · cases makes_reference hlast

/-- The only object the last pass demands is the address. -/
theorem object_of_assignIp (h : Makes (demand refreshes) (Calls.assignIp spec) s (.object k wanted) u) :
    ∃ ip iface, truthy spec.ip = some ip ∧ s.objects spec.name = some iface ∧ u = s ∧
      (Demand.object k wanted) = .object .ipAddress (wantedIpAddress ip iface.id) := by
  unfold Calls.assignIp at h
  split at h
  · exact absurd h not_makes_pure
  · rename_i ip hip
    rcases makes_bind_iff.mp h with hid | ⟨id, w, hid, hrest⟩
    · cases makes_idOf hid
    · obtain ⟨iface, hiface, rfl, rfl⟩ := idOf_run hid
      rcases makes_bind_iff.mp hrest with hasked | ⟨address, w, -, hlast⟩
      · obtain ⟨hobject, rfl⟩ := makes_object hasked
        exact ⟨ip, iface, hip, hiface, rfl, hobject⟩
      · exact absurd hlast not_makes_pure

end Pieces

/-! ### The passes over the interfaces -/

section Passes

variable {device : Nat} {vlanByVid : Int → Option Nat} {specs : List InterfaceSpec} {a : Unit}

/-- Once the device is demanded, the session is at it. -/
theorem atDevice_of_device (hdevice : IdAt s.netbox .device (.text fx.assetTag) device)
    (hrun : (Calls.device device).run (demand refreshes) s = .ok (a, u)) : AtDevice fx u := by
  have hdemand : (Calls.device device).run (demand refreshes) = demand refreshes (.device device) :=
    bind_pure _
  rw [hdemand] at hrun
  obtain ⟨-, rfl⟩ := Prod.mk.inj (Except.ok.inj hrun)
  refine ⟨⟨[], ?_⟩, hdevice⟩
  intro name iface hiface
  cases hiface

/-- Every pass stays at the device, -/
theorem AtDevice.pass {pass : InterfaceSpec → PopulateScript Unit}
    {f : InterfaceSpec → Nat → Objects → PopulateM Objects}
    (hpass : ∀ spec, (pass spec).run (demand refreshes) = threading (f spec)) :
    ∀ _ : Unit, ∀ spec ∈ specs, ∀ s (b' : Unit) u, AtDevice fx s →
      (pass spec).run (demand refreshes) s = .ok (b', u) → AtDevice fx u :=
  fun _ spec _ _ _ _ h hrun => h.run (hpass spec) hrun

/-- and so do all its iterations. -/
theorem AtDevice.loop {pass : InterfaceSpec → PopulateScript Unit}
    {f : InterfaceSpec → Nat → Objects → PopulateM Objects}
    (hpass : ∀ spec, (pass spec).run (demand refreshes) = threading (f spec)) (h : AtDevice fx s)
    (hrun : (specs.foldlM (fun _ spec => pass spec) ()).run (demand refreshes) s = .ok (a, u)) :
    AtDevice fx u := by
  refine h.run (f := fun device objects => specs.foldlM (fun objects spec => f spec device objects) objects)
    ?_ hrun
  simp only [Script.run_foldlM, hpass, foldlM_threading]

/-- The records are asked for in the passes for MACs and for addresses. -/
theorem object_of_applyInterfaces {wanted : Wanted k}
    (hdevice : IdAt s.netbox .device (.text fx.assetTag) device)
    (h : Makes (demand refreshes) (Calls.applyInterfaces device vlanByVid specs) s (.object k wanted) u) :
    ∃ spec ∈ specs, ∃ t, AtDevice fx t ∧
      (Makes (demand refreshes) (Calls.assignMac spec) t (.object k wanted) u ∨
      Makes (demand refreshes) (Calls.assignIp spec) t (.object k wanted) u) := by
  unfold Calls.applyInterfaces at h
  rcases makes_bind_iff.mp h with h₀ | ⟨⟨⟩, s₁, hrun₀, h⟩
  · rcases makes_call_iff.mp h₀ with ⟨heq, -⟩ | ⟨r, w, -, hnone⟩
    · cases heq
    · cases hnone
  have hs₁ : AtDevice fx s₁ := atDevice_of_device hdevice hrun₀
  rcases makes_bind_iff.mp h with h₁ | ⟨⟨⟩, s₂, hrun₁, h⟩
  · obtain ⟨spec, -, ⟨⟩, t, -, hmakes⟩ := h₁.iteration (AtDevice.pass (run_interface vlanByVid)) hs₁
    cases makes_interface hmakes
  have hs₂ : AtDevice fx s₂ := hs₁.loop (run_interface vlanByVid) hrun₁
  rcases makes_bind_iff.mp h with h₂ | ⟨⟨⟩, s₃, hrun₂, h⟩
  · obtain ⟨spec, -, ⟨⟩, t, -, hmakes⟩ := h₂.iteration (AtDevice.pass run_wireRelationships) hs₂
    exact absurd hmakes not_makes_wireRelationships
  have hs₃ : AtDevice fx s₃ := hs₂.loop run_wireRelationships hrun₂
  rcases makes_bind_iff.mp h with h₃ | ⟨⟨⟩, s₄, hrun₃, h₄⟩
  · obtain ⟨spec, hspec, ⟨⟩, t, ht, hmakes⟩ := h₃.iteration (AtDevice.pass run_assignMac) hs₃
    exact ⟨spec, hspec, t, ht, .inl hmakes⟩
  · have hs₄ : AtDevice fx s₄ := hs₃.loop run_assignMac hrun₃
    obtain ⟨spec, hspec, ⟨⟩, t, ht, hmakes⟩ := h₄.iteration (AtDevice.pass run_assignIp) hs₄
    exact ⟨spec, hspec, t, ht, .inr hmakes⟩

/-- A run that returns comes to both passes of every interface. -/
theorem passes_of_run (hdevice : IdAt s.netbox .device (.text fx.assetTag) device)
    (hrun : (Calls.applyInterfaces device vlanByVid specs).run (demand refreshes) s = .ok (a, v))
    (hspec : spec ∈ specs) :
    (∃ t r, AtDevice fx t ∧ (Calls.assignMac spec).run (demand refreshes) t = .ok r ∧
      ∀ d w, Makes (demand refreshes) (Calls.assignMac spec) t d w →
        Makes (demand refreshes) (Calls.applyInterfaces device vlanByVid specs) s d w) ∧
      ∃ t r, AtDevice fx t ∧ (Calls.assignIp spec).run (demand refreshes) t = .ok r ∧
        ∀ d w, Makes (demand refreshes) (Calls.assignIp spec) t d w →
          Makes (demand refreshes) (Calls.applyInterfaces device vlanByVid specs) s d w := by
  unfold Calls.applyInterfaces at hrun ⊢
  simp only [Script.run_bind] at hrun
  obtain ⟨⟨⟩, s₁, hrun₀, hrun⟩ := bind_eq_ok.mp hrun
  obtain ⟨⟨⟩, s₂, hrun₁, hrun⟩ := bind_eq_ok.mp hrun
  obtain ⟨⟨⟩, s₃, hrun₂, hrun⟩ := bind_eq_ok.mp hrun
  obtain ⟨⟨⟩, s₄, hrun₃, hrun₄⟩ := bind_eq_ok.mp hrun
  have hs₁ : AtDevice fx s₁ := atDevice_of_device hdevice hrun₀
  have hs₂ : AtDevice fx s₂ := hs₁.loop (run_interface vlanByVid) hrun₁
  have hs₃ : AtDevice fx s₃ := hs₂.loop run_wireRelationships hrun₂
  have hs₄ : AtDevice fx s₄ := hs₃.loop run_assignMac hrun₃
  constructor
  · obtain ⟨⟨⟩, t, b, t', ht, hit, hmakes⟩ := iteration_of_run (AtDevice.pass run_assignMac) hs₃ hrun₃ hspec
    refine ⟨t, (b, t'), ht, hit, ?_⟩
    intro d w hd
    refine makes_bind_iff.mpr (.inr ⟨(), s₁, hrun₀, ?_⟩)
    refine makes_bind_iff.mpr (.inr ⟨(), s₂, hrun₁, ?_⟩)
    refine makes_bind_iff.mpr (.inr ⟨(), s₃, hrun₂, ?_⟩)
    exact makes_bind_iff.mpr (.inl (hmakes d w hd))
  · obtain ⟨⟨⟩, t, b, t', ht, hit, hmakes⟩ := iteration_of_run (AtDevice.pass run_assignIp) hs₄ hrun₄ hspec
    refine ⟨t, (b, t'), ht, hit, ?_⟩
    intro d w hd
    refine makes_bind_iff.mpr (.inr ⟨(), s₁, hrun₀, ?_⟩)
    refine makes_bind_iff.mpr (.inr ⟨(), s₂, hrun₁, ?_⟩)
    refine makes_bind_iff.mpr (.inr ⟨(), s₃, hrun₂, ?_⟩)
    exact makes_bind_iff.mpr (.inr ⟨(), s₄, hrun₃, hmakes d w hd⟩)

end Passes

/-! ### A fixture, and all of them -/

section Whole

variable {wanted : Wanted k} {a : Unit}

/-- The run of a demand is the demand's answer, -/
theorem object_run {id : Nat} (h : (Calls.object k wanted).run (demand refreshes) s = .ok (id, u)) :
    demand refreshes (.object k wanted) s = .ok (id, u) := by
  have hrun : (Calls.object k wanted).run (demand refreshes) = demand refreshes (.object k wanted) :=
    bind_pure _
  rwa [hrun] at h

/-- and the answered id is that of the object under the key. -/
theorem idAt_of_object_run {id : Nat} (h : (Calls.object k wanted).run (demand refreshes) s = .ok (id, u)) :
    IdAt u.netbox k wanted.key id := by
  obtain ⟨found, s', rfl, rfl, hunder, -, -⟩ := object_ok (object_run h)
  exact ⟨found.2, hunder⟩

/-- The objects of the other kinds are assigned to nothing. -/
theorem not_makes_object {k' : Kind} {wanted' : Wanted k'} (hassigns : assignment k wanted.payload ≠ none)
    (hnone : assignment k' wanted'.payload = none) :
    ¬ Makes (demand refreshes) (Calls.object k' wanted') s (.object k wanted) u := by
  intro h
  obtain ⟨heq, -⟩ := makes_object h
  cases heq
  exact hassigns hnone

/-- Only the passes over the interfaces ask for a record that is assigned. -/
theorem object_of_applyOne (hassigns : assignment k wanted.payload ≠ none)
    (h : Makes (demand refreshes) (Calls.applyOne fx) s (.object k wanted) u) :
    ∃ device vlanByVid t, IdAt t.netbox .device (.text fx.assetTag) device ∧
      Makes (demand refreshes) (Calls.applyInterfaces device vlanByVid fx.interfaces) t
        (.object k wanted) u := by
  unfold Calls.applyOne at h
  rcases makes_bind_iff.mp h with h | ⟨site, s₁, -, h⟩
  · exact absurd h (not_makes_object hassigns rfl)
  rcases makes_bind_iff.mp h with h | ⟨manufacturer, s₂, -, h⟩
  · exact absurd h (not_makes_object hassigns rfl)
  rcases makes_bind_iff.mp h with h | ⟨deviceType, s₃, -, h⟩
  · exact absurd h (not_makes_object hassigns rfl)
  rcases makes_bind_iff.mp h with h | ⟨deviceRole, s₄, -, h⟩
  · exact absurd h (not_makes_object hassigns rfl)
  rcases makes_bind_iff.mp h with h | ⟨vlanByVid, s₅, -, h⟩
  · obtain ⟨vlan, -, b, t, -, hmakes⟩ :=
      h.iteration (I := fun _ _ => True) (fun _ _ _ _ _ _ _ _ => trivial) trivial
    rcases makes_bind_iff.mp hmakes with hvlan | ⟨id, w, -, hpure⟩
    · exact absurd hvlan (not_makes_object hassigns rfl)
    · exact absurd hpure not_makes_pure
  rcases makes_bind_iff.mp h with h | ⟨device, s₆, hdevice, h⟩
  · exact absurd h (not_makes_object hassigns rfl)
  · exact ⟨device, vlanByVid, s₆, idAt_of_object_run hdevice, h⟩

/-- A fixture that is run gets to its interfaces, and what they demand is demanded by the fixture. -/
theorem interfaces_of_run (hrun : (Calls.applyOne fx).run (demand refreshes) s = .ok (a, v)) :
    ∃ device vlanByVid t, IdAt t.netbox .device (.text fx.assetTag) device ∧
      (Calls.applyInterfaces device vlanByVid fx.interfaces).run (demand refreshes) t = .ok (a, v) ∧
        ∀ d w, Makes (demand refreshes) (Calls.applyInterfaces device vlanByVid fx.interfaces) t d w →
          Makes (demand refreshes) (Calls.applyOne fx) s d w := by
  unfold Calls.applyOne at hrun ⊢
  rw [run_bind] at hrun
  obtain ⟨site, s₁, hrun₁, hrun⟩ := bind_eq_ok.mp hrun
  rw [run_bind] at hrun
  obtain ⟨manufacturer, s₂, hrun₂, hrun⟩ := bind_eq_ok.mp hrun
  rw [run_bind] at hrun
  obtain ⟨deviceType, s₃, hrun₃, hrun⟩ := bind_eq_ok.mp hrun
  rw [run_bind] at hrun
  obtain ⟨deviceRole, s₄, hrun₄, hrun⟩ := bind_eq_ok.mp hrun
  rw [run_bind] at hrun
  obtain ⟨vlanByVid, s₅, hrun₅, hrun⟩ := bind_eq_ok.mp hrun
  rw [run_bind] at hrun
  obtain ⟨device, s₆, hrun₆, hrun⟩ := bind_eq_ok.mp hrun
  refine ⟨device, vlanByVid, s₆, idAt_of_object_run hrun₆, hrun, ?_⟩
  intro d w hd
  refine makes_bind_iff.mpr (.inr ⟨site, s₁, hrun₁, ?_⟩)
  refine makes_bind_iff.mpr (.inr ⟨manufacturer, s₂, hrun₂, ?_⟩)
  refine makes_bind_iff.mpr (.inr ⟨deviceType, s₃, hrun₃, ?_⟩)
  refine makes_bind_iff.mpr (.inr ⟨deviceRole, s₄, hrun₄, ?_⟩)
  refine makes_bind_iff.mpr (.inr ⟨vlanByVid, s₅, hrun₅, ?_⟩)
  exact makes_bind_iff.mpr (.inr ⟨device, s₆, hrun₆, hd⟩)

/-- **What is asked for with an assignment is a MAC or an address some fixture gives an
    interface**, assigned to it. -/
theorem asked_of_makes (hassigns : assignment k wanted.payload ≠ none)
    (h : Makes (demand refreshes) (Calls.populate fixtures) s (.object k wanted) u) :
    ∃ fx ∈ fixtures, ∃ spec ∈ fx.interfaces, ∃ iface, AtDevice fx u ∧ u.objects spec.name = some iface ∧
      ((∃ mac, truthy spec.mac = some mac ∧
          (Demand.object k wanted) = .object .macAddress (wantedMacAddress mac iface.id)) ∨
        ∃ ip, truthy spec.ip = some ip ∧
          (Demand.object k wanted) = .object .ipAddress (wantedIpAddress ip iface.id)) := by
  unfold Calls.populate at h
  obtain ⟨fx, hfx, ⟨⟩, t, -, hone⟩ := h.iteration (I := fun _ _ => True) (fun _ _ _ _ _ _ _ _ =>
      trivial) trivial
  obtain ⟨device, vlanByVid, t', hdevice, hinterfaces⟩ := object_of_applyOne hassigns hone
  obtain ⟨spec, hspec, w, hw, hpass | hpass⟩ := object_of_applyInterfaces hdevice hinterfaces
  · obtain ⟨mac, iface, hmac, hiface, rfl, hobject⟩ := object_of_assignMac hpass
    exact ⟨fx, hfx, spec, hspec, iface, hw, hiface, .inl ⟨mac, hmac, hobject⟩⟩
  · obtain ⟨ip, iface, hip, hiface, rfl, hobject⟩ := object_of_assignIp hpass
    exact ⟨fx, hfx, spec, hspec, iface, hw, hiface, .inr ⟨ip, hip, hobject⟩⟩

/-- A run that returns has asked for the MAC, and has made it the primary one, -/
theorem makes_mac_of_run (hrun : (Calls.populate fixtures).run (demand refreshes) s = .ok (a, v))
    (hfx : fx ∈ fixtures)
    (hspec : spec ∈ fx.interfaces) {mac : String} (hmac : truthy spec.mac = some mac) :
    (∃ u iface, AtDevice fx u ∧ u.objects spec.name = some iface ∧
      Makes (demand refreshes) (Calls.populate fixtures) s
        (.object .macAddress (wantedMacAddress mac iface.id)) u) ∧
      ∃ w target, AtDevice fx w ∧
        Makes (demand refreshes) (Calls.populate fixtures) s
          (.reference .primaryMacAddress spec.name target) w := by
  unfold Calls.populate at hrun ⊢
  obtain ⟨⟨⟩, t₁, ⟨⟩, t₁', -, hone, hlift₁⟩ := iteration_of_run (I := fun _ _ => True)
    (fun _ _ _ _ _ _ _ _ => trivial) trivial hrun hfx
  obtain ⟨device, vlanByVid, t₂, hdevice, hinterfaces, hlift₂⟩ := interfaces_of_run hone
  obtain ⟨⟨t, ⟨r, t'⟩, ht, hpass, hlift₃⟩, -⟩ := passes_of_run hdevice hinterfaces hspec
  unfold Calls.assignMac at hpass hlift₃
  simp only [hmac] at hpass hlift₃
  rw [run_bind] at hpass
  obtain ⟨id, w, hid, hrest⟩ := bind_eq_ok.mp hpass
  obtain ⟨iface, hiface, rfl, rfl⟩ := idOf_run hid
  rw [run_bind] at hrest
  obtain ⟨target, w', hobject, hreference⟩ := bind_eq_ok.mp hrest
  constructor
  · refine ⟨w, iface, ht, hiface, hlift₁ _ _ (hlift₂ _ _ (hlift₃ _ _ ?_))⟩
    exact makes_bind_iff.mpr (.inr ⟨iface.id, w, hid, makes_bind_iff.mpr (.inl (.here ..))⟩)
  · have hw' : AtDevice fx w' := by
      have hreaches := reaches_of_run hobject
      obtain ⟨found, s', -, rfl, -⟩ := object_ok (object_run hobject)
      exact ⟨reaches_coherent hreaches ht.coherent, ht.device.grows (reaches_grows hreaches)⟩
    refine ⟨w', target, hw', hlift₁ _ _ (hlift₂ _ _ (hlift₃ _ _ ?_))⟩
    exact makes_bind_iff.mpr (.inr ⟨iface.id, w, hid,
      makes_bind_iff.mpr (.inr ⟨target, w', hobject, .here ..⟩)⟩)

/-- and has asked for the address. -/
theorem makes_ip_of_run (hrun : (Calls.populate fixtures).run (demand refreshes) s = .ok (a, v))
    (hfx : fx ∈ fixtures) (hspec : spec ∈ fx.interfaces) {ip : String} (hip : truthy spec.ip = some ip) :
    ∃ u iface, AtDevice fx u ∧ u.objects spec.name = some iface ∧
      Makes (demand refreshes) (Calls.populate fixtures) s
        (.object .ipAddress (wantedIpAddress ip iface.id)) u := by
  unfold Calls.populate at hrun ⊢
  obtain ⟨⟨⟩, t₁, ⟨⟩, t₁', -, hone, hlift₁⟩ := iteration_of_run (I := fun _ _ => True)
    (fun _ _ _ _ _ _ _ _ => trivial) trivial hrun hfx
  obtain ⟨device, vlanByVid, t₂, hdevice, hinterfaces, hlift₂⟩ := interfaces_of_run hone
  obtain ⟨-, t, ⟨r, t'⟩, ht, hpass, hlift₃⟩ := passes_of_run hdevice hinterfaces hspec
  unfold Calls.assignIp at hpass hlift₃
  simp only [hip] at hpass hlift₃
  rw [run_bind] at hpass
  obtain ⟨id, w, hid, -⟩ := bind_eq_ok.mp hpass
  obtain ⟨iface, hiface, rfl, rfl⟩ := idOf_run hid
  refine ⟨w, iface, ht, hiface, hlift₁ _ _ (hlift₂ _ _ (hlift₃ _ _ ?_))⟩
  exact makes_bind_iff.mpr (.inr ⟨iface.id, w, hid, makes_bind_iff.mpr (.inl (.here ..))⟩)

end Whole

/-! ## Runs and the promise -/

/-- The run of `populate` makes the call, in this state. -/
abbrev RunMakes (refreshes : Bool) (fixtures : List HostFixture) (n : NetboxState) (c : Demand)
    (s : Session) : Prop :=
  Makes (demand refreshes) (Calls.populate fixtures) (Session.start n) c s

/-- Where the run returns, what is promised are the assignments, -/
theorem promised_of_returns {report : PopulateReport} (h : populate refreshes fixtures n = .ok (report, n')) :
    Promised refreshes fixtures n ↔ Assigned fixtures n' := by
  unfold Promised
  rw [h]

/-- and where it raises, it is that the exception is a conflict. -/
theorem promised_of_raises (h : populate refreshes fixtures n = .error e) :
    Promised refreshes fixtures n ↔ e.IsConflict := by
  unfold Promised
  rw [h]

/-- The script ends as the function does: in the tables it returns -/
theorem script_of_returns {report : PopulateReport} (h : populate refreshes fixtures n = .ok (report, n')) :
    ∃ a v, (Calls.populate fixtures).run (demand refreshes) (Session.start n) = .ok (a, v) ∧
      v.netbox = n' := by
  rw [← run_populate] at h
  obtain ⟨⟨a, v⟩, hrun, heq⟩ := Traverse.map_eq_ok.mp h
  exact ⟨a, v, hrun, (Prod.mk.inj heq).2⟩

/-- or with its exception. -/
theorem script_of_raises (h : populate refreshes fixtures n = .error e) :
    (Calls.populate fixtures).run (demand refreshes) (Session.start n) = .error e := by
  rw [← run_populate] at h
  exact Traverse.map_eq_error.mp h

/-- A call that returns has found one object at most. -/
theorem single_of_ensure {key : Key} {check : Nat × Row k → Except FixtureExc Unit} {payload : Row k}
    {s : PopulateState} {p : (Nat × Row k) × PopulateState} (h : ensure k key check payload s = .ok p) :
    Single s.netbox k key := by
  unfold ensure at h
  unfold Single
  split at h
  · rename_i hnew
    simp [hnew]
  · rename_i found hunder
    simp [hunder]
  · cases h

section Returns

variable {report : PopulateReport} (hn : n.Sound) (h : populate refreshes fixtures n = .ok (report, n'))

include hn h

/-- A run that has assigned everything has made no faulty call. -/
theorem not_faulty_of_assigned (hassigned : Assigned fixtures n')
    (hmakes : RunMakes refreshes fixtures n c u) : ¬ Faulty fixtures c u := by
  intro hfaulty
  obtain ⟨a, v, hrun, rfl⟩ := script_of_returns h
  obtain ⟨r, w, hstep, hreaches⟩ := hmakes.returns hrun
  have hgrows : Grows u.netbox v.netbox := (demand_grows hstep).trans (reaches_grows hreaches)
  cases c with
  | object k wanted =>
    rcases hfaulty with hmany | ⟨found, hunder, -, hne⟩
    · rw [demand_object] at hstep
      obtain ⟨p, hensure, -⟩ := Traverse.map_eq_ok.mp hstep
      exact hmany (single_of_ensure hensure)
    · have hassigns : assignment k wanted.payload ≠ none := by
        intro hnone
        exact hne ((assignment_eq_none hnone found.2).trans hnone.symm)
      obtain ⟨fx, hfx, spec, hspec, iface, hat, hiface, ⟨mac, hmac, hobject⟩ | ⟨ip, hip, hobject⟩⟩ :=
        asked_of_makes hassigns hmakes
      · -- the record the call has found is the one that is assigned at the end
        cases hobject
        obtain ⟨device, iface', found', hdevice, hiface', hunder', htype, hid, -⟩ :=
          (hassigned fx hfx spec hspec).1 mac hmac
        obtain rfl := (hat.device.grows hgrows).unique hdevice
        obtain rfl := ((hat.idAt hiface).grows hgrows).unique hiface'
        obtain rfl := List.singleton_inj.mp ((under_grows hgrows (by decide) hunder).symm.trans hunder')
        exact hne (congrArg some (Prod.ext htype hid))
      · cases hobject
        obtain ⟨device, iface', found', hdevice, hiface', hunder', htype, hid⟩ :=
          (hassigned fx hfx spec hspec).2 ip hip
        obtain rfl := (hat.device.grows hgrows).unique hdevice
        obtain rfl := ((hat.idAt hiface).grows hgrows).unique hiface'
        obtain rfl := List.singleton_inj.mp ((under_grows hgrows (by decide) hunder).symm.trans hunder')
        exact hne (congrArg some (Prod.ext htype hid))
  | device id => exact hfaulty
  | interface spec vlanByVid =>
    rw [demand_interface] at hstep
    obtain ⟨p, hensure, -⟩ := Traverse.map_eq_ok.mp hstep
    exact hfaulty (single_of_ensure hensure)
  | idOf name =>
    rw [demand_idOf_of_none hfaulty] at hstep
    cases hstep
  | reference field name target =>
    rcases hfaulty with hnone | ⟨rfl, fx, hfx, -, spec, hspec, -, m, hm, hcontested⟩
    · rw [demand_reference_of_none field target hnone] at hstep
      cases hstep
    · exact hcontested (((assigned_iff hn h).mp hassigned).oneMac fx hfx spec hspec m hm)

omit hn in
/-- The record that Netbox had under the key of such a call is assigned as a new one would be. -/
theorem assignment_of_before {wanted : Wanted k} {found : Nat × Row k} (hk : k ≠ .interface)
    (hnone : ∀ c u, RunMakes refreshes fixtures n c u → ¬ Faulty fixtures c u)
    (hmakes : RunMakes refreshes fixtures n (.object k wanted) u) (hbefore : n.under k wanted.key = [found]) :
    assignment k found.2 = assignment k wanted.payload := by
  obtain ⟨a, v, hrun, rfl⟩ := script_of_returns h
  obtain ⟨r, w, hstep, -⟩ := hmakes.returns hrun
  have hunder : u.netbox.under k wanted.key = [found] := under_grows (reaches_grows hmakes.reaches) hk hbefore
  by_contra hne
  refine hnone _ _ hmakes (.inr ⟨found, hunder, ?_, hne⟩)
  by_contra hcheck
  have hrefused : Refused (.object k wanted) u := ⟨found, hunder, hcheck⟩
  obtain ⟨e, herror⟩ := raises_of_refused refreshes hrefused
  rw [hstep] at herror
  cases herror

/-- Without a fault on the way, every MAC and every address can be assigned. -/
theorem assignable_of_not_faulty (hnone : ∀ c u, RunMakes refreshes fixtures n c u → ¬ Faulty fixtures c u) :
    Assignable fixtures n := by
  obtain ⟨a, v, hscript, rfl⟩ := script_of_returns h
  obtain ⟨hsteps, hrun⟩ := populate_runs h
  have hextends := Steps.extends hsteps
  constructor
  case lookups => exact fun fx hfx => lookups_of_applied hextends (hrun fx hfx).1
  case known =>
    intro fx hfx
    obtain ⟨device, -, -, hinterfaces⟩ := (hrun fx hfx).1.device
    exact hinterfaces.known
  case macs =>
    intro fx hfx spec hspec mac hmac found hbefore
    obtain ⟨⟨u, iface, hat, hiface, hmakes⟩, -⟩ := makes_mac_of_run hscript hfx hspec hmac
    have hassignment := Option.some.inj (assignment_of_before h (by decide) hnone hmakes hbefore)
    obtain ⟨r, w, hstep, hreaches⟩ := hmakes.returns hscript
    have hgrows : Grows u.netbox v.netbox := (demand_grows hstep).trans (reaches_grows hreaches)
    exact ⟨congrArg Prod.fst hassignment, iface.id, congrArg Prod.snd hassignment,
      ne_zero_of_idAt hn hextends ((hat.idAt hiface).grows hgrows)⟩
  case ips =>
    intro fx hfx spec hspec ip hip found hbefore
    obtain ⟨u, iface, -, -, hmakes⟩ := makes_ip_of_run hscript hfx hspec hip
    have hassignment := Option.some.inj (assignment_of_before h (by decide) hnone hmakes hbefore)
    exact congrArg Prod.fst hassignment
  case oneMac =>
    intro fx hfx spec hspec m hm
    obtain ⟨mac, hmac, rfl⟩ := mem_macReferences.mp hm
    obtain ⟨-, u, target, hat, hmakes⟩ := makes_mac_of_run hscript hfx hspec hmac
    by_contra hcontested
    exact hnone _ _ hmakes (.inr ⟨rfl, fx, hfx, hat.device, spec, hspec, rfl, _, hm, hcontested⟩)

end Returns

/-- **`populate` keeps its promise exactly if every call of the run that goes wrong is made up for by one
    that finds a record its check refuses**; in particular, if no call goes wrong. -/
theorem promised_iff (hn : n.Sound) : Promised refreshes fixtures n ↔
    ∀ c s, RunMakes refreshes fixtures n c s → Faulty fixtures c s →
      ∃ d t, RunMakes refreshes fixtures n d t ∧ Refused d t := by
  cases hrun : populate refreshes fixtures n with
  | ok p =>
    obtain ⟨a, v, hscript, -⟩ := script_of_returns hrun
    -- no call has been refused, so none may go wrong
    have hreturns : ∀ d t, RunMakes refreshes fixtures n d t → ¬ Refused d t := by
      intro d t hmakes hrefused
      obtain ⟨r, w, hstep, -⟩ := hmakes.returns hscript
      obtain ⟨e, herror⟩ := raises_of_refused refreshes hrefused
      rw [hstep] at herror
      cases herror
    rw [promised_of_returns hrun]
    constructor
    · intro hassigned c s hmakes hfaulty
      exact absurd hfaulty (not_faulty_of_assigned hn hrun hassigned hmakes)
    · intro hmadeUp
      refine (assigned_iff hn hrun).mpr (assignable_of_not_faulty hn hrun ?_)
      intro c s hmakes hfaulty
      obtain ⟨d, t, hmakes', hrefused⟩ := hmadeUp c s hmakes hfaulty
      exact hreturns d t hmakes' hrefused
  | error e =>
    -- the call that has raised is refused or faulty
    obtain ⟨c, s, hmakes, herror⟩ := makes_of_run_error (script_of_raises hrun)
    rw [promised_of_raises hrun]
    constructor
    · intro hconflict _ _ _ _
      rcases refused_or_faulty fixtures herror with ⟨hrefused, -⟩ | ⟨-, -, hother⟩
      · exact ⟨c, s, hmakes, hrefused⟩
      · exact absurd hconflict hother
    · intro hmadeUp
      rcases refused_or_faulty fixtures herror with ⟨-, hconflict⟩ | ⟨hfaulty, -, -⟩
      · exact hconflict
      · obtain ⟨d, t, hmakes', hrefused⟩ := hmadeUp c s hmakes hfaulty
        obtain ⟨e', herror'⟩ := raises_of_refused refreshes hrefused
        -- the run raises once
        obtain rfl : e = e' := Except.error.inj ((script_of_raises hrun).symm.trans (hmakes'.raises herror'))
        rcases refused_or_faulty fixtures herror' with ⟨-, hconflict⟩ | ⟨-, hnot, -⟩
        · exact hconflict
        · exact absurd hrefused hnot

/-! ### The `cpu` fixture -/

/-- A MAC of the `cpu` fixture that is there and not assigned. -/
def unassignedMac : NetboxState := noObjects.create .macAddress
  { macAddress := "aa:bb:cc:00:01:01", assignedObjectType := none, assignedObjectId := none }

/-- The same, with a device of the fixture's asset tag under another name. -/
def otherDevice : NetboxState := unassignedMac.create .device
  { name := some "k8s-cp-02", assetTag := some "SN-CPU-001", site := 1, deviceType := 1, role := none,
    status := "active", customFields := [] }

theorem sound_otherDevice : otherDevice.Sound where
  positive k := by cases k <;> decide
  vlanSite _ he := absurd he List.not_mem_nil
  interfaceDevice _ he := absurd he List.not_mem_nil

theorem promised_noObjects : Promised false [cpuFixture] noObjects := by
  have hknown : ∀ fx ∈ [cpuFixture], ∀ w ∈ references fx, Known fx w := by
    unfold Known
    decide +kernel
  have hagree : Agree [cpuFixture] := by decide +kernel
  have honeMac : ∀ fx ∈ [cpuFixture], ∀ spec ∈ fx.interfaces, ∀ w ∈ macReferences fx spec,
      Uncontested [cpuFixture] w := by
    intro fx hfx spec hspec w hw
    exact hagree w (mem_listed hfx (mem_references_of_mac hspec hw))
  obtain ⟨report, n', hrun⟩ := cpuFixture_populates
  rw [promised_of_returns hrun, assigned_iff sound_noObjects hrun]
  exact assignable_noObjects hknown honeMac

theorem promised_otherDevice : Promised false [cpuFixture] otherDevice := by
  have hraises : Readings.raised (fun e => decide e.IsConflict) (populate false [cpuFixture] otherDevice) =
      some true := by decide +kernel
  cases hrun : populate false [cpuFixture] otherDevice with
  | ok p =>
    rw [hrun] at hraises
    cases hraises
  | error e =>
    rw [hrun] at hraises
    rw [promised_of_raises hrun]
    exact of_decide_eq_true (Option.some.inj hraises)

/-- On a Netbox without objects nothing goes wrong; beside the other device, the run does
    not come to the MAC. -/
theorem promised_iff_cpu :
    (∀ c s, RunMakes false [cpuFixture] noObjects c s → Faulty [cpuFixture] c s →
        ∃ d t, RunMakes false [cpuFixture] noObjects d t ∧ Refused d t) ∧
      ∀ c s, RunMakes false [cpuFixture] otherDevice c s → Faulty [cpuFixture] c s →
        ∃ d t, RunMakes false [cpuFixture] otherDevice d t ∧ Refused d t := by
  exact ⟨(promised_iff sound_noObjects).mp promised_noObjects,
    (promised_iff sound_otherDevice).mp promised_otherDevice⟩

/-- An address of it that is assigned to an interface of a virtual machine, with the id its
    interface will have. -/
def addressOfOther : NetboxState := noObjects.create .ipAddress
  { address := "10.42.10.11/24", assignedObjectType := some "virtualization.vminterface",
    assignedObjectId := some 4 }

/-- The runs return; the MAC is still unassigned, and the address that of the other object. -/
theorem unassignedMac_addressOfOther_not_promised :
    ¬ Promised false [cpuFixture] unassignedMac ∧ ¬ Promised false [cpuFixture] addressOfOther := by
  constructor
  · have hrun : (populate false [cpuFixture] unassignedMac).toOption.map (fun p =>
        decide ((p.2.under .macAddress (.text "aa:bb:cc:00:01:01")).map (·.2.assignedObjectType) = [none])) =
          some true := by decide +kernel
    obtain ⟨⟨report, netbox⟩, hreturns, htype⟩ := Traverse.exists_ok_of_check hrun
    rw [promised_of_returns hreturns]
    intro h
    obtain ⟨spec, hspec, hmac⟩ :
        ∃ spec ∈ cpuFixture.interfaces, truthy spec.mac = some "aa:bb:cc:00:01:01" := by
      decide
    obtain ⟨_, _, found, _, _, hunder, hfound, -⟩ := (h cpuFixture List.mem_cons_self spec hspec).1 _ hmac
    have hnone := of_decide_eq_true htype
    rw [hunder, List.map_singleton, hfound] at hnone
    exact Option.some_ne_none _ (List.singleton_inj.mp hnone)
  · have hrun : (populate false [cpuFixture] addressOfOther).toOption.map (fun p =>
        decide ((p.2.under .ipAddress (.text "10.42.10.11/24")).map (·.2.assignedObjectType) =
          [some "virtualization.vminterface"])) = some true := by decide +kernel
    obtain ⟨⟨report, netbox⟩, hreturns, htype⟩ := Traverse.exists_ok_of_check hrun
    rw [promised_of_returns hreturns]
    intro h
    obtain ⟨spec, hspec, hip⟩ : ∃ spec ∈ cpuFixture.interfaces, truthy spec.ip = some "10.42.10.11/24" := by decide
    obtain ⟨_, _, found, _, _, hunder, hfound, -⟩ := (h cpuFixture List.mem_cons_self spec hspec).2 _ hip
    have hother := of_decide_eq_true htype
    rw [hunder, List.map_singleton, hfound] at hother
    exact absurd hother (by decide)

end Fixtures
end HostConfig
