import HostConfig.Fixtures.Populate

/-!
# `Fixtures.Accounting` — the report and the log of calls

The report of `populate` counts under a name for each kind of object and of reference. `goes_populate` says
that `populate` does nothing to Netbox and to the report but look objects up and create them (`ensure`) and
set references (`setRef`): what these two keep to, every run keeps to. Both log a call exactly when they
count one as created, so the report is the counter of the log (`Booked`).
-/

namespace HostConfig
namespace Fixtures

open StateRuns Counter

/-- What a call is counted as. -/
def Call.name : Call → String
  | .create kind  => kind.name
  | .update field => field.name

/-! ## Everything is `ensure` and `setRef` -/

section Goes

variable {R : PopulateState → PopulateState → Prop} [IsPreorder PopulateState R] {refreshes : Bool}
  (hensure : ∀ k key check payload, Goes R (ensure k key check payload))
  (hset : ∀ field iface target, Goes R (setRef refreshes field iface target))

/-- A relation that holds along each creation and each write holds along every function: a lookup, -/
theorem goes_objectOf (objects : Objects) (name : String) : Goes R (objectOf objects name) := by
  intro s iface t hrun
  unfold objectOf at hrun
  cases hobject : objects name with
  | none =>
    rw [hobject] at hrun
    cases hrun
  | some found =>
    rw [hobject] at hrun
    obtain ⟨-, rfl⟩ := Prod.mk.inj (Except.ok.inj hrun)
    exact refl_of R s

include hset in
/-- a reference, -/
theorem goes_setRefOf (field : RefField) (objects : Objects) (name : String) (target : Nat) :
    Goes R (setRefOf refreshes field objects name target) := by
  refine Goes.bind (goes_objectOf objects name) ?_
  intro iface
  refine Goes.bind (hset field iface target) ?_
  intro iface'
  exact Goes.pure _

include hset in
/-- the relationships of an interface, -/
theorem goes_wireRelationships (objects : Objects) (spec : InterfaceSpec) :
    Goes R (wireRelationships refreshes objects spec) := by
  refine Goes.bind ?_ ?_
  · -- the LAG members
    unfold wireMembers
    split
    · exact Goes.pure objects
    · refine Goes.bind (goes_objectOf objects spec.name) ?_
      intro lag
      refine Goes.foldlM ?_ _ _
      intro objects' member
      exact goes_setRefOf hset .lag objects' member lag.id
  · -- the parent
    intro objects'
    unfold wireParent
    cases truthy spec.parent with
    | none => exact Goes.pure objects'
    | some parent =>
      refine Goes.bind (goes_objectOf objects' spec.name) ?_
      intro _
      refine Goes.bind (goes_objectOf objects' parent) ?_
      intro parentIface
      exact goes_setRefOf hset .parent objects' spec.name parentIface.id

include hensure

/-- an interface, -/
theorem goes_addInterface (device : Nat) (vlanByVid : Int → Option Nat) (objects : Objects)
    (spec : InterfaceSpec) : Goes R (addInterface device vlanByVid objects spec) := by
  refine Goes.bind ?_ ?_
  · refine Goes.bind (hensure .interface _ _ _) ?_
    intro found
    exact Goes.pure _
  · intro iface
    exact Goes.pure _

include hset in
/-- its MAC, -/
theorem goes_assignMac (objects : Objects) (spec : InterfaceSpec) :
    Goes R (assignMac refreshes objects spec) := by
  unfold assignMac
  cases truthy spec.mac with
  | none => exact Goes.pure objects
  | some mac =>
    refine Goes.bind (goes_objectOf objects spec.name) ?_
    intro iface
    refine Goes.bind (hensure .macAddress _ _ _) ?_
    intro macAddress
    exact goes_setRefOf hset .primaryMacAddress objects spec.name macAddress.1

/-- its address, -/
theorem goes_assignIp (objects : Objects) (spec : InterfaceSpec) : Goes R (assignIp objects spec) := by
  unfold assignIp
  cases truthy spec.ip with
  | none => exact Goes.pure objects
  | some ip =>
    refine Goes.bind (goes_objectOf objects spec.name) ?_
    intro iface
    refine Goes.bind (hensure .ipAddress _ _ _) ?_
    intro _
    exact Goes.pure objects

include hset

/-- the four passes, -/
theorem goes_applyInterfaces (device : Nat) (vlanByVid : Int → Option Nat) (specs : List InterfaceSpec) :
    Goes R (applyInterfaces refreshes device vlanByVid specs) := by
  refine Goes.bind (Goes.foldlM (goes_addInterface hensure device vlanByVid) specs _) ?_
  intro objects
  refine Goes.bind (Goes.foldlM (goes_wireRelationships hset) specs objects) ?_
  intro objects
  refine Goes.bind (Goes.foldlM (goes_assignMac hensure hset) specs objects) ?_
  intro objects
  exact Goes.foldlM (goes_assignIp hensure) specs objects

/-- and one fixture. -/
theorem goes_applyOne (fx : HostFixture) : Goes R (applyOne refreshes fx) := by
  refine Goes.bind (hensure .site _ _ _) ?_
  intro site
  refine Goes.bind (hensure .manufacturer _ _ _) ?_
  intro manufacturer
  refine Goes.bind (hensure .deviceType _ _ _) ?_
  intro deviceType
  refine Goes.bind (hensure .deviceRole _ _ _) ?_
  intro deviceRole
  refine Goes.bind ?_ ?_
  · refine Goes.foldlM ?_ _ _
    intro vlanByVid spec
    refine Goes.bind (hensure .vlan _ _ _) ?_
    intro vlan
    exact Goes.pure _
  intro vlanByVid
  refine Goes.bind (hensure .device _ _ _) ?_
  intro device
  refine Goes.bind (goes_applyInterfaces hensure hset device.1 vlanByVid fx.interfaces) ?_
  intro _
  exact Goes.pure ()

/-- **What `ensure` and `setRef` keep to, `populate` keeps to.** -/
theorem goes_populate {fixtures : List HostFixture} {n n' : NetboxState} {report : PopulateReport}
    (h : populate refreshes fixtures n = .ok (report, n')) : R ⟨n, ⟨[], []⟩⟩ ⟨n', report⟩ := by
  unfold populate at h
  split at h
  · cases h
  · rename_i s hrun
    obtain ⟨rfl, rfl⟩ := Prod.mk.inj (Except.ok.inj h)
    exact Goes.foldlM (fun _ => goes_applyOne hensure hset) fixtures () _ _ _ hrun

end Goes

/-! ## The report counts the calls -/

/-- The calls logged since `s` are the ones the report has counted since, and without any
    Netbox is unchanged. -/
def Booked (s t : PopulateState) : Prop :=
  ∃ log, t.netbox.calls = s.netbox.calls ++ log ∧
    t.report.created = (log.map Call.name).foldl bump s.report.created ∧ (log = [] → t.netbox = s.netbox)

instance : IsPreorder PopulateState Booked where
  refl s := ⟨[], (List.append_nil _).symm, rfl, fun _ => rfl⟩
  trans := by
    rintro s t u ⟨log, hcalls, hcreated, hsame⟩ ⟨log', hcalls', hcreated', hsame'⟩
    refine ⟨log ++ log', ?_, ?_, ?_⟩
    · rw [hcalls', hcalls, List.append_assoc]
    · rw [hcreated', hcreated, List.map_append, List.foldl_append]
    · intro hnone
      obtain ⟨hlog, hlog'⟩ := List.append_eq_nil_iff.mp hnone
      rw [hsame' hlog', hsame hlog]

/-- `ensure` creates and counts, or does neither. -/
theorem booked_ensure (k : Kind) (key : Key) (check : Nat × Row k → Except FixtureExc Unit)
    (payload : Row k) : Goes Booked (ensure k key check payload) := by
  intro s found t hrun
  unfold ensure at hrun
  split at hrun
  · obtain ⟨-, rfl⟩ := Prod.mk.inj (Except.ok.inj hrun)
    refine ⟨[.create k], rfl, rfl, ?_⟩
    intro hnone
    cases hnone
  · split at hrun
    · cases hrun
    · obtain ⟨-, rfl⟩ := Prod.mk.inj (Except.ok.inj hrun)
      exact ⟨[], (List.append_nil _).symm, rfl, fun _ => rfl⟩
  · cases hrun

/-- `setRef` updates and counts, or does neither. -/
theorem booked_setRef {refreshes : Bool} (field : RefField) (iface : Iface) (target : Nat) :
    Goes Booked (setRef refreshes field iface target) := by
  intro s iface' t hrun
  unfold setRef at hrun
  split at hrun
  · obtain ⟨-, rfl⟩ := Prod.mk.inj (Except.ok.inj hrun)
    exact ⟨[], (List.append_nil _).symm, rfl, fun _ => rfl⟩
  · obtain ⟨-, rfl⟩ := Prod.mk.inj (Except.ok.inj hrun)
    refine ⟨[.update field], rfl, rfl, ?_⟩
    intro hnone
    cases hnone

/-- A report is of a no-op if it counts no creation. -/
theorem isNoOp_iff (report : PopulateReport) : report.isNoOp = true ↔ total report.created = 0 := by
  rw [total_eq_zero_iff]
  unfold PopulateReport.isNoOp
  rw [List.all_eq_true]
  exact forall₂_congr fun e _ => decide_eq_true_iff

variable {refreshes : Bool} {fixtures : List HostFixture} {n n' : NetboxState} {report : PopulateReport}

/-- **The report is truthful.** The counts of `created` are those of the create and update calls that were
    issued, their sum is the number of these calls, and the report says that nothing was done exactly when
    Netbox, its log included, is as it was. -/
theorem report_counts_calls (h : populate refreshes fixtures n = .ok (report, n')) :
    ∃ log, n'.calls = n.calls ++ log ∧ report.created = ofList (log.map Call.name) ∧
      total report.created = log.length ∧ (report.isNoOp = true ↔ n' = n) := by
  obtain ⟨log, hcalls, hcreated, hsame⟩ := goes_populate booked_ensure booked_setRef h
  have htotal : total report.created = log.length := by
    calc total report.created = total ((log.map Call.name).foldl bump []) := by rw [hcreated]
      _ = 0 + (log.map Call.name).length := total_foldl_bump _ []
      _ = log.length := by rw [List.length_map, Nat.zero_add]
  refine ⟨log, hcalls, hcreated, htotal, ?_⟩
  rw [isNoOp_iff, htotal, List.length_eq_zero_iff]
  constructor
  · exact hsame
  · intro hn
    -- a log that is as long as before has nothing new
    rw [hn] at hcalls
    exact List.self_eq_append_right.mp hcalls

theorem report_counts_calls_cpu : ∃ report netbox,
    populate false [cpuFixture] noObjects = .ok (report, netbox) ∧
    total report.created = netbox.calls.length ∧ (report.isNoOp = true ↔ netbox = noObjects) := by
  obtain ⟨report, netbox, hrun⟩ := cpuFixture_populates
  obtain ⟨log, hcalls, -, htotal, hnoop⟩ := report_counts_calls hrun
  refine ⟨report, netbox, hrun, ?_, hnoop⟩
  rw [htotal, hcalls]
  rfl

end Fixtures
end HostConfig
