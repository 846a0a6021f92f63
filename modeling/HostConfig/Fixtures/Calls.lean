import HostConfig.Fixtures.Populate
import HostConfig.Lib.Resumption

/-!
# `Fixtures.Calls` — `populate`, one call after the other

`Fixtures.Populate` has a run of `populate` as one function of Netbox. Here it is a script of demands: for
an object under a key, for a reference to be written, and for what is in memory. A demand changes Netbox at
most once, so a run that is interrupted stops between two demands.

The objects in memory belong to the process that runs the script (`Session`), and to the device whose
interfaces it is at. `run_populate` is that the script, run to its end, is `populate`.
-/

namespace HostConfig
namespace Fixtures

open StateRuns

/-! ## Demands -/

/-- An object of a kind, past its check if it is there, and what to post if not. -/
structure Wanted (k : Kind) where
  key : Key
  check : Nat × Row k → Except FixtureExc Unit
  payload : Row k
  kind : k ≠ .interface
  keyed : rowKey k payload = some key
  passes : ∀ id, check (id, payload) = .ok ()
  conflicts : ∀ found e, check found = .error e → e.IsConflict

def wantedMacAddress (mac : String) (iface : Nat) : Wanted .macAddress where
  key := .text mac
  check := checkMacAddress mac iface
  payload := { macAddress := mac, assignedObjectType := some "dcim.interface",
               assignedObjectId := some iface }
  kind := by decide
  keyed := rfl
  passes _ := if_neg fun h => h.2 rfl
  conflicts := checkMacAddress_conflict mac iface

def wantedIpAddress (ip : String) (iface : Nat) : Wanted .ipAddress where
  key := .text ip
  check := checkIpAddress ip iface
  payload := { address := ip, assignedObjectType := some "dcim.interface", assignedObjectId := some iface }
  kind := by decide
  keyed := rfl
  passes _ := if_neg (not_not_intro rfl)
  conflicts _ _ := conflict_of_ite

inductive Demand
  | object (k : Kind) (wanted : Wanted k)
  /-- The passes over the interfaces of a device begin. -/
  | device (id : Nat)
  | interface (spec : InterfaceSpec) (vlanByVid : Int → Option Nat)
  | idOf (name : String)
  | reference (field : RefField) (name : String) (target : Nat)

def Demand.Reply : Demand → Type
  | .object _ _ | .idOf _                            => Nat
  | .device _ | .interface _ _ | .reference _ _ _    => Unit

/-- What the process has of its own: the device it is at, and `iface_by_name`. -/
structure Session extends PopulateState where
  device : Nat
  objects : Objects

/-- What leaves the objects in memory alone. -/
def keeping {α : Type} (x : PopulateM α) : Program Session FixtureExc α := fun s =>
  (x s.toPopulateState).map fun p => (p.1, { s with toPopulateState := p.2 })

/-- What makes other objects of them. -/
def threading (f : Nat → Objects → PopulateM Objects) : Program Session FixtureExc Unit := fun s =>
  (f s.device s.objects s.toPopulateState).map fun p => ((), ⟨p.2, s.device, p.1⟩)

/-- What a demand does. -/
def demand (refreshes : Bool) : (c : Demand) → Program Session FixtureExc c.Reply
  | .object k wanted              => keeping do return (← ensure k wanted.key wanted.check wanted.payload).1
  | .device id                    => fun s => .ok ((), { s with device := id, objects := fun _ => none })
  | .interface spec vlanByVid     =>
    threading fun device objects => addInterface device vlanByVid objects spec
  | .idOf name                    => fun s => keeping (do return (← objectOf s.objects name).id) s
  | .reference field name target  => threading fun _ objects => setRefOf refreshes field objects name target

/-! ## The script -/

abbrev PopulateScript (α : Type) := Script Demand Demand.Reply α

namespace Calls

def object (k : Kind) (wanted : Wanted k) : PopulateScript Nat := .call (.object k wanted) .ret

def device (id : Nat) : PopulateScript Unit := .call (.device id) .ret

def interface (vlanByVid : Int → Option Nat) (spec : InterfaceSpec) : PopulateScript Unit :=
  .call (.interface spec vlanByVid) .ret

def idOf (name : String) : PopulateScript Nat := .call (.idOf name) .ret

def reference (field : RefField) (name : String) (target : Nat) : PopulateScript Unit :=
  .call (.reference field name target) .ret

def ensureSite (slug : String) : PopulateScript Nat :=
  object .site ⟨.text slug, fun _ => .ok (), ⟨slug, slug⟩, by decide, rfl, fun _ => rfl, unchecked_conflict⟩

def ensureManufacturer (name : String) : PopulateScript Nat :=
  object .manufacturer ⟨.text (slugify name), fun _ => .ok (), ⟨name, slugify name⟩, by decide,
    rfl, fun _ => rfl,
    unchecked_conflict⟩

def ensureDeviceType (spec : DeviceTypeSpec) (manufacturer : Nat) : PopulateScript Nat :=
  object .deviceType ⟨.text spec.slug, checkDeviceType spec,
    { manufacturer, model := spec.model, slug := spec.slug, uHeight := some spec.uHeight }, by decide, rfl,
    fun _ => if_pos rfl, checkDeviceType_conflict spec⟩

def ensureDeviceRole (slug : String) : PopulateScript Nat :=
  object .deviceRole ⟨.text slug, fun _ => .ok (), ⟨slug, slug⟩, by decide, rfl, fun _ =>
    rfl, unchecked_conflict⟩

def ensureVlan (spec : VlanSpec) (site : Nat) : PopulateScript Nat :=
  object .vlan ⟨.vid site spec.vid, checkVlan spec, { vid := spec.vid, name := spec.name, site := some site },
    by decide, rfl, fun _ => if_neg (not_not_intro rfl), fun _ _ => conflict_of_ite⟩

def ensureDevice (fx : HostFixture) (site deviceType deviceRole : Nat) : PopulateScript Nat :=
  object .device ⟨.text fx.assetTag, checkDevice fx,
    { name := some fx.hostname, assetTag := some fx.assetTag, site, deviceType, role := some deviceRole,
      status := "active", customFields := fx.deviceCustomFields }, by decide, rfl,
        fun _ => if_neg (not_not_intro rfl),
    fun _ _ => conflict_of_ite⟩

def ensureMacAddress (mac : String) (iface : Nat) : PopulateScript Nat :=
  object .macAddress (wantedMacAddress mac iface)

def ensureIpAddress (ip : String) (iface : Nat) : PopulateScript Nat :=
  object .ipAddress (wantedIpAddress ip iface)

def addVlan (site : Nat) (vlanByVid : Int → Option Nat) (spec : VlanSpec) :
    PopulateScript (Int → Option Nat) := do
  let vlan ← ensureVlan spec site
  return Function.update vlanByVid spec.vid (some vlan)

def wireMembers (spec : InterfaceSpec) : PopulateScript Unit := do
  if spec.lagMembers = [] then return ()
  else
    let lag ← idOf spec.name
    spec.lagMembers.foldlM (fun _ memberName => reference .lag memberName lag) ()

def wireParent (spec : InterfaceSpec) : PopulateScript Unit :=
  match truthy spec.parent with
  | none        => return ()
  | some parent => do
      let _ ← idOf spec.name
      let parent ← idOf parent
      reference .parent spec.name parent

def wireRelationships (spec : InterfaceSpec) : PopulateScript Unit := do
  wireMembers spec
  wireParent spec

def assignMac (spec : InterfaceSpec) : PopulateScript Unit :=
  match truthy spec.mac with
  | none     => return ()
  | some mac => do
      let iface ← idOf spec.name
      let macAddress ← ensureMacAddress mac iface
      reference .primaryMacAddress spec.name macAddress

def assignIp (spec : InterfaceSpec) : PopulateScript Unit :=
  match truthy spec.ip with
  | none    => return ()
  | some ip => do
      let iface ← idOf spec.name
      let _ ← ensureIpAddress ip iface
      return ()

def applyInterfaces (device : Nat) (vlanByVid : Int → Option Nat) (specs : List InterfaceSpec) :
    PopulateScript Unit := do
  Calls.device device
  specs.foldlM (fun _ spec => interface vlanByVid spec) ()
  specs.foldlM (fun _ spec => wireRelationships spec) ()
  specs.foldlM (fun _ spec => assignMac spec) ()
  specs.foldlM (fun _ spec => assignIp spec) ()

def applyOne (fx : HostFixture) : PopulateScript Unit := do
  let site ← ensureSite fx.site
  let manufacturer ← ensureManufacturer fx.deviceType.manufacturer
  let deviceType ← ensureDeviceType fx.deviceType manufacturer
  let deviceRole ← ensureDeviceRole fx.deviceRole
  let vlanByVid ← fx.vlans.foldlM (addVlan site) fun _ => none
  let device ← ensureDevice fx site deviceType deviceRole
  applyInterfaces device vlanByVid fx.interfaces

def populate (fixtures : List HostFixture) : PopulateScript Unit :=
  fixtures.foldlM (fun _ fx => applyOne fx) ()

end Calls

/-- A process that has just begun. -/
def Session.start (netbox : NetboxState) : Session where
  netbox := netbox
  report := ⟨[], []⟩
  device := 0
  objects := fun _ => none

/-! ### A demand's run -/

section Demands

variable {refreshes : Bool} {s : Session} {k : Kind} {name : String} {iface : Iface}

/-- A demand for an object is `_ensure`, the returned object reduced to its id. -/
theorem demand_object (wanted : Wanted k) : demand refreshes (.object k wanted) s =
    (ensure k wanted.key wanted.check wanted.payload s.toPopulateState).map fun p =>
      (p.1.1, { s with toPopulateState := p.2 }) := by
  show (ensure k wanted.key wanted.check wanted.payload s.toPopulateState >>= fun p =>
    .ok (p.1.1, p.2)).map _ = _
  cases ensure k wanted.key wanted.check wanted.payload s.toPopulateState <;> rfl

/-- A demand for an interface also collects it under its name. -/
theorem demand_interface (spec : InterfaceSpec) (vlanByVid : Int → Option Nat) :
    demand refreshes (.interface spec vlanByVid) s =
      (ensure .interface (.iface s.device spec.name) (fun _ => .ok ())
        (interfacePayload spec s.device vlanByVid) s.toPopulateState).map fun p =>
          ((), ⟨p.2, s.device, Function.update s.objects spec.name (some (Iface.read p.1))⟩) := by
  show ((ensure .interface (.iface s.device spec.name) (fun _ => .ok ())
    (interfacePayload spec s.device vlanByVid) s.toPopulateState >>= fun p =>
      .ok (Iface.read p.1, p.2)) >>= fun p =>
      .ok (Function.update s.objects spec.name (some p.1), p.2)).map _ = _
  cases ensure .interface (.iface s.device spec.name) (fun _ => .ok ())
    (interfacePayload spec s.device vlanByVid) s.toPopulateState <;> rfl

/-- The id of a collected interface is looked up in the host's own objects, -/
theorem demand_idOf (hiface : s.objects name = some iface) :
    demand refreshes (.idOf name) s = .ok (iface.id, s) := by
  show (objectOf s.objects name s.toPopulateState >>= fun p => .ok (p.1.id, p.2)).map _ = _
  unfold objectOf
  rw [hiface]
  rfl

/-- where a name that is not collected raises `KeyError`. -/
theorem demand_idOf_of_none (hnone : s.objects name = none) :
    demand refreshes (.idOf name) s = .error (.keyError name) := by
  show (objectOf s.objects name s.toPopulateState >>= fun p => .ok (p.1.id, p.2)).map _ = _
  unfold objectOf
  rw [hnone]
  rfl

/-- A demand for a reference writes it on the collected interface and keeps the refreshed one, -/
theorem demand_reference (field : RefField) (target : Nat) (hiface : s.objects name = some iface) :
    demand refreshes (.reference field name target) s =
      (setRef refreshes field iface target s.toPopulateState).map fun p =>
        ((), ⟨p.2, s.device, Function.update s.objects name (some p.1)⟩) := by
  show (objectOf s.objects name s.toPopulateState >>= fun p =>
    setRef refreshes field p.1 target p.2 >>= fun p =>
    .ok (Function.update s.objects name (some p.1), p.2)).map _ = _
  unfold objectOf
  rw [hiface]
  show (setRef refreshes field iface target s.toPopulateState >>= fun p =>
    .ok (Function.update s.objects name (some p.1), p.2)).map _ = _
  cases setRef refreshes field iface target s.toPopulateState <;> rfl

/-- where a name that is not collected raises `KeyError`, too. -/
theorem demand_reference_of_none (field : RefField) (target : Nat) (hnone : s.objects name = none) :
    demand refreshes (.reference field name target) s = .error (.keyError name) := by
  show (objectOf s.objects name s.toPopulateState >>= fun p =>
    setRef refreshes field p.1 target p.2 >>= fun p =>
    .ok (Function.update s.objects name (some p.1), p.2)).map _ = _
  unfold objectOf
  rw [hnone]
  rfl

end Demands

/-! ## The script is the function -/

section Session

variable {α β : Type} {refreshes : Bool}

/-- A computation on the tables alone is one of a session, step by step. -/
theorem keeping_bind (x : PopulateM α) (f : α → PopulateM β) :
    keeping (x >>= f) = keeping x >>= fun a => keeping (f a) := by
  funext s
  show (x s.toPopulateState >>= fun p => f p.1 p.2).map _ =
    ((x s.toPopulateState).map _ >>= fun p : α × Session => keeping (f p.1) p.2)
  cases x s.toPopulateState <;> rfl

/-- So is one that passes the objects on: two of them in sequence, -/
theorem threading_bind (f g : Nat → Objects → PopulateM Objects) :
    (threading f >>= fun _ => threading g) = threading fun device objects =>
      f device objects >>= g device := by
  funext s
  show ((f s.device s.objects s.toPopulateState).map _ >>= fun p : Unit × Session => threading g p.2) =
    (f s.device s.objects s.toPopulateState >>= fun p => g s.device p.1 p.2).map _
  cases f s.device s.objects s.toPopulateState <;> rfl

/-- one after a computation on the tables, -/
theorem keeping_threading (x : PopulateM α) (f : α → Nat → Objects → PopulateM Objects) :
    (keeping x >>= fun a => threading (f a)) =
      threading fun device objects => x >>= fun a => f a device objects := by
  funext s
  show ((x s.toPopulateState).map _ >>= fun p : α × Session => threading (f p.1) p.2) =
    (x s.toPopulateState >>= fun p => f p.1 s.device s.objects p.2).map _
  cases x s.toPopulateState <;> rfl

/-- and a loop of them. -/
theorem foldlM_threading (f : α → Nat → Objects → PopulateM Objects) (l : List α) :
    l.foldlM (fun _ a => threading (f a)) () =
      threading fun device objects => l.foldlM (fun objects a => f a device objects) objects := by
  induction l with
  | nil => rfl
  | cons a l ih =>
    rw [List.foldlM_cons]
    show (threading (f a) >>= fun _ => l.foldlM (fun _ a => threading (f a)) ()) = _
    rw [ih, threading_bind]
    rfl

end Session

/-! ### The passes -/

section Passes

variable {refreshes : Bool}

/-- Each demand of the calls is the source's function on the session: an object, -/
theorem run_object {k : Kind} (wanted : Wanted k) : (Calls.object k wanted).run (demand refreshes) =
    keeping do return (← ensure k wanted.key wanted.check wanted.payload).1 := bind_pure _

/-- a reference, -/
theorem run_reference (field : RefField) (name : String) (target : Nat) :
    (Calls.reference field name target).run (demand refreshes) =
      threading fun _ objects => setRefOf refreshes field objects name target := bind_pure _

/-- a lookup before what uses the id, -/
theorem idOf_threading (name : String) (f : Nat → Nat → Objects → PopulateM Objects) :
    ((Calls.idOf name).run (demand refreshes) >>= fun id => threading (f id)) =
      threading fun device objects => objectOf objects name >>= fun iface => f iface.id device objects := by
  funext s
  have hrun : (Calls.idOf name).run (demand refreshes) = demand refreshes (.idOf name) := bind_pure _
  rw [hrun]
  show (demand refreshes (.idOf name) s >>= fun p => threading (f p.1) p.2) =
    (objectOf s.objects name s.toPopulateState >>= fun p => f p.1.id s.device s.objects p.2).map _
  unfold objectOf
  cases hobject : s.objects name with
  | none =>
    rw [demand_idOf_of_none hobject]
    rfl
  | some iface =>
    rw [demand_idOf hobject]
    rfl

/-- an interface. -/
theorem run_interface (vlanByVid : Int → Option Nat) (spec : InterfaceSpec) :
    (Calls.interface vlanByVid spec).run (demand refreshes) =
      threading fun device objects => addInterface device vlanByVid objects spec := bind_pure _

/-- The passes of the calls are those of the source: the members, -/
theorem run_wireMembers (spec : InterfaceSpec) : (Calls.wireMembers spec).run (demand refreshes) =
    threading fun _ objects => wireMembers refreshes objects spec := by
  unfold Calls.wireMembers wireMembers
  split
  · rfl
  · simp only [Script.run_bind, Script.run_foldlM, run_reference, foldlM_threading, idOf_threading]
    rfl

/-- the parent, -/
theorem run_wireParent (spec : InterfaceSpec) : (Calls.wireParent spec).run (demand refreshes) =
    threading fun _ objects => wireParent refreshes objects spec := by
  unfold Calls.wireParent wireParent
  cases truthy spec.parent with
  | none => rfl
  | some parent => simp only [Script.run_bind, run_reference, idOf_threading]

/-- both, -/
theorem run_wireRelationships (spec : InterfaceSpec) : (Calls.wireRelationships spec).run (demand refreshes) =
    threading fun _ objects => wireRelationships refreshes objects spec := by
  unfold Calls.wireRelationships wireRelationships
  rw [Script.run_bind, run_wireMembers]
  simp only [run_wireParent, threading_bind]

/-- the MAC, -/
theorem run_assignMac (spec : InterfaceSpec) : (Calls.assignMac spec).run (demand refreshes) =
    threading fun _ objects => assignMac refreshes objects spec := by
  unfold Calls.assignMac assignMac
  cases truthy spec.mac with
  | none => rfl
  | some mac =>
    simp only [Calls.ensureMacAddress, Script.run_bind, run_object, run_reference, keeping_threading,
      idOf_threading, bind_assoc, pure_bind]
    rfl

/-- and the address. -/
theorem run_assignIp (spec : InterfaceSpec) : (Calls.assignIp spec).run (demand refreshes) =
    threading fun _ objects => assignIp objects spec := by
  unfold Calls.assignIp assignIp
  cases truthy spec.ip with
  | none => rfl
  | some ip =>
    -- at the end the objects are left as they are
    have hpure : (pure () : Program Session FixtureExc Unit) = threading fun _ objects => pure objects := rfl
    simp only [Calls.ensureIpAddress, Script.run_bind, Script.run_pure, hpure, run_object,
      keeping_threading, idOf_threading, bind_assoc, pure_bind]
    rfl

end Passes

/-! ### The whole run -/

/-- The run in a session is the run in its state. -/
def Runs {α : Type} (x : Program Session FixtureExc α) (y : PopulateM α) : Prop :=
  ∀ s, (x s).map (fun p => (p.1, p.2.toPopulateState)) = y s.toPopulateState

namespace Runs

variable {α β : Type} {refreshes : Bool}

/-- `Runs` is kept by the steps a function is written with: a value, -/
theorem pure (a : α) : Runs (Pure.pure a) (Pure.pure a) := fun _ => rfl

/-- a sequence, -/
theorem bind {x : Program Session FixtureExc α} {y : PopulateM α} {f : α → Program Session FixtureExc β}
    {g : α → PopulateM β} (hx : Runs x y) (hf : ∀ a, Runs (f a) (g a)) : Runs (x >>= f) (y >>= g) := by
  intro s
  show (x s >>= fun p => f p.1 p.2).map _ = (y s.toPopulateState >>= fun p => g p.1 p.2)
  rw [← hx s]
  cases x s with
  | error e => rfl
  | ok p => exact hf p.1 p.2

/-- a loop, -/
theorem foldlM {f : β → α → Program Session FixtureExc β} {g : β → α → PopulateM β}
    (h : ∀ b a, Runs (f b a) (g b a)) (l : List α) (b : β) : Runs (l.foldlM f b) (l.foldlM g b) := by
  induction l generalizing b with
  | nil => exact pure b
  | cons a l ih =>
    rw [List.foldlM_cons, List.foldlM_cons]
    exact (h b a).bind ih

/-- a computation on the tables, -/
theorem keeping (x : PopulateM α) : Runs (keeping x) x := by
  intro s
  unfold Fixtures.keeping
  cases x s.toPopulateState <;> rfl

/-- and an object, of which the calls see the id alone. -/
theorem object {k : Kind} {wanted : Wanted k} {f : Nat → Program Session FixtureExc β}
    {g : Nat × Row k → PopulateM β}
    (h : ∀ found, Runs (f found.1) (g found)) : Runs ((Calls.object k wanted).run (demand refreshes) >>= f)
      (ensure k wanted.key wanted.check wanted.payload >>= g) := by
  rw [run_object, keeping_bind, bind_assoc]
  exact (Runs.keeping _).bind h

/-- The passes begin with no objects in memory. -/
theorem device {id : Nat} (f : Nat → Objects → PopulateM Objects) :
    Runs ((Calls.device id).run (demand refreshes) >>= fun _ => threading f)
      (f id (fun _ => none) >>= fun _ => Pure.pure ()) := by
  intro s
  show (threading f { s with device := id, objects := fun _ => none }).map _ =
    (f id (fun _ => none) s.toPopulateState >>= fun p => .ok ((), p.2))
  unfold threading
  cases f id (fun _ => none) s.toPopulateState <;> rfl

end Runs

section Whole

variable {refreshes : Bool}

/-- The four passes of a fixture, from its device on. -/
theorem runs_applyInterfaces (device : Nat) (vlanByVid : Int → Option Nat) (specs : List InterfaceSpec) :
    Runs ((Calls.applyInterfaces device vlanByVid specs).run (demand refreshes))
      (applyInterfaces refreshes device vlanByVid specs >>= fun _ => pure ()) := by
  unfold Calls.applyInterfaces applyInterfaces
  simp only [Script.run_bind, Script.run_foldlM, run_interface, run_wireRelationships,
    run_assignMac, run_assignIp,
    foldlM_threading, threading_bind]
  exact Runs.device _

/-- **One fixture, as calls**, is `_apply_one`. -/
theorem runs_applyOne (fx : HostFixture) :
    Runs ((Calls.applyOne fx).run (demand refreshes)) (applyOne refreshes fx) := by
  unfold Calls.applyOne applyOne
  simp only [Script.run_bind, Script.run_foldlM]
  refine Runs.object ?_
  intro site
  refine Runs.object ?_
  intro manufacturer
  refine Runs.object ?_
  intro deviceType
  refine Runs.object ?_
  intro deviceRole
  refine Runs.bind (Runs.foldlM ?_ fx.vlans _) ?_
  · intro vlanByVid vlan
    unfold Calls.addVlan
    rw [Script.run_bind]
    exact Runs.object fun id => Runs.pure _
  · intro vlanByVid
    refine Runs.object ?_
    intro device
    exact runs_applyInterfaces device.1 vlanByVid fx.interfaces

/-- **The script, run to its end, is `populate`.** -/
theorem run_populate (fixtures : List HostFixture) (n : NetboxState) :
    ((Calls.populate fixtures).run (demand refreshes) (Session.start n)).map (fun p =>
      (p.2.report, p.2.netbox)) =
      populate refreshes fixtures n := by
  have hruns : Runs ((Calls.populate fixtures).run (demand refreshes))
      (fixtures.foldlM (fun _ fx => applyOne refreshes fx) ()) := by
    unfold Calls.populate
    rw [Script.run_foldlM]
    exact Runs.foldlM (fun _ fx => runs_applyOne fx) fixtures ()
  have hrun : ((Calls.populate fixtures).run (demand refreshes) (Session.start n)).map
      (fun p => (p.1, p.2.toPopulateState)) =
        fixtures.foldlM (fun _ fx => applyOne refreshes fx) () ⟨n, ⟨[], []⟩⟩ := hruns (Session.start n)
  unfold populate
  rw [← hrun]
  cases (Calls.populate fixtures).run (demand refreshes) (Session.start n) <;> rfl

end Whole

end Fixtures
end HostConfig
