import HostConfig.Fixtures.Mounting

/-!
# `Fixtures.Hosts` — what is served of populated hosts

`populate` is many hosts written to shared tables, in an order; what a fixture means is one host,
`HostFixture.client`. `populate_refines`: a host that was new is loaded as its fixture alone says, to the
same intent or the same error, whatever Netbox had, whatever other fixtures were applied before and after,
and whatever ids were given out.

Together with `Fixtures.Isolation` this makes the order of the fixtures invisible (`populate_order`): of two
runs that apply the same fixtures in different orders, every host is served the same files.
-/

namespace HostConfig
namespace Fixtures

open Netbox StateRuns Relation Service Render

variable {fixtures fixtures' pre post : List HostFixture} {fx : HostFixture} {n n' n'' : NetboxState}
  {s : PopulateState} {refreshes : Bool} {report report' : PopulateReport} {assetTag : String}

/-! ## A run, at one fixture -/

/-- The loop goes along the fixtures' steps. -/
theorem loop_along : Yields (Along fixtures) s (fixtures.foldlM (fun _ fx => applyOne refreshes fx) ())
    fun _ _ => True := by
  refine (Yields.foldlM (I := fun _ _ => True) (P := fun _ _ => True) ?_ ?_ trivial).mono fun _ _ _ _ =>
    trivial
  · exact fun _ _ _ _ _ _ => trivial
  · intro _ fx hfx u _ _
    exact (applyOne_yields hfx).mono fun _ _ _ _ => ⟨trivial, trivial⟩

/-- What is applied before a fixture, the fixture, and what is applied after it. -/
theorem populate_split (h : populate refreshes (pre ++ fx :: post) n = .ok (report, n')) :
    ∃ s t : PopulateState, Steps pre n s.netbox ∧ applyOne refreshes fx s = .ok ((), t) ∧
      Steps post t.netbox n' := by
  unfold populate at h
  split at h
  · cases h
  · rename_i t hrun
    obtain ⟨-, rfl⟩ := Prod.mk.inj (Except.ok.inj h)
    rw [List.foldlM_append] at hrun
    obtain ⟨_, s₁, hpre, hrest⟩ := bind_eq_ok.mp hrun
    rw [List.foldlM_cons] at hrest
    obtain ⟨_, s₂, hone, hpost⟩ := bind_eq_ok.mp hrest
    exact ⟨s₁, s₂, (loop_along _ _ hpre).1, hone, (loop_along _ _ hpost).1⟩

/-- An address that a run makes is one of an interface. -/
theorem AddressesOfInterfaces.steps (h : AddressesOfInterfaces n fx) (hsteps : Steps fixtures n n') :
    AddressesOfInterfaces n' fx := by
  intro spec hspec ip hip found hfound
  rcases found_before_or_provided hsteps (by decide) hfound with hbefore | hprovided
  · exact h spec hspec ip hip found hbefore
  · obtain ⟨-, -, -, -, -, htype, -⟩ := hprovided
    exact htype

/-! ## A fixture and its host -/

/-- The host is new to Netbox: its device is not there, and its addresses, if any are, are interfaces'. The
    names of its interfaces are distinct. -/
structure NewHost (n : NetboxState) (fx : HostFixture) : Prop where
  device : n.under .device (.text fx.assetTag) = []
  addresses : AddressesOfInterfaces n fx
  names : (names fx).Nodup

/-- **A new host is seen as its fixture alone shows it**, whatever the tables held before. -/
theorem view_of_populate (hgrounded : n.Grounded) (htags : (fixtures.map (·.assetTag)).Nodup)
    (hfx : fx ∈ fixtures) (hnew : NewHost n fx) (h : populate refreshes fixtures n = .ok (report, n')) :
    n'.client.view fx.assetTag = fx.client.view fx.assetTag := by
  obtain ⟨pre, post, rfl⟩ := List.append_of_mem hfx
  -- the other fixtures are of other hosts
  rw [List.map_append, List.map_cons, List.nodup_append, List.nodup_cons] at htags
  obtain ⟨-, ⟨hpost, -⟩, hpre⟩ := htags
  have hforeignPre : Foreign pre fx.assetTag := by
    intro fx' hfx' htag
    exact hpre _ (List.mem_map_of_mem hfx') _ List.mem_cons_self htag
  have hforeignPost : Foreign post fx.assetTag := by
    intro fx' hfx' htag
    exact hpost (List.mem_map.mpr ⟨fx', hfx', htag⟩)
  obtain ⟨s, t, hbefore, hone, hafter⟩ := populate_split h
  have hdevice : s.netbox.under .device (.text fx.assetTag) = [] :=
    (Steps.under_device hforeignPre hbefore).trans hnew.device
  obtain ⟨hview, hlinked⟩ :=
    view_of_applyOne (Steps.grounded hbefore hgrounded) hdevice hnew.names (hnew.addresses.steps hbefore) hone
  exact (Steps.view hforeignPost hlinked hafter).trans hview

/-- **A host that was new is loaded as its fixture says.** -/
theorem populate_refines (hgrounded : n.Grounded) (htags : (fixtures.map (·.assetTag)).Nodup)
    (hfx : fx ∈ fixtures) (hnew : NewHost n fx) (h : populate refreshes fixtures n = .ok (report, n')) :
    loadHostIntent n'.client fx.assetTag = loadHostIntent fx.client fx.assetTag :=
  loadHostIntent_of_view (view_of_populate hgrounded htags hfx hnew h)

/-- There is no dangling id in empty tables. -/
theorem grounded_of_empty (hempty : n.Empty) : n.Grounded := by
  constructor
  case interface | address =>
    intro e he
    rw [hempty] at he
    cases he

/-- To an empty Netbox every host is new. -/
theorem newHost_of_empty (hempty : n.Empty) (hnames : (names fx).Nodup) : NewHost n fx := by
  have hunder : ∀ k key, n.under k key = [] := by
    intro k key
    unfold NetboxState.under Table.matching
    rw [hempty]
    rfl
  constructor
  case device => exact hunder _ _
  case addresses =>
    intro spec _ ip _ found hfound
    rw [hunder] at hfound
    cases hfound
  case names => exact hnames

theorem empty_noObjects : noObjects.Empty := fun _ => rfl

/-- Two hosts that share all they can. -/
def twoHosts : List HostFixture := [neighbourFixture, cpuFixture]

theorem twoHosts_populate : ∃ report netbox, populate false twoHosts noObjects = .ok (report, netbox) ∧
    ∃ report' netbox', populate true twoHosts.reverse noObjects = .ok (report', netbox') := by
  have hok : (populate false twoHosts noObjects).isOk = true := by decide +kernel
  have hok' : (populate true twoHosts.reverse noObjects).isOk = true := by decide +kernel
  obtain ⟨⟨report, netbox⟩, hrun⟩ := Traverse.exists_ok_of_isOk hok
  obtain ⟨⟨report', netbox'⟩, hrun'⟩ := Traverse.exists_ok_of_isOk hok'
  exact ⟨report, netbox, hrun, report', netbox', hrun'⟩

theorem populate_refines_twoHosts : ∃ report netbox,
    populate false twoHosts noObjects = .ok (report, netbox) ∧
    loadHostIntent netbox.client cpuFixture.assetTag =
      loadHostIntent cpuFixture.client cpuFixture.assetTag := by
  obtain ⟨report, netbox, hrun, -⟩ := twoHosts_populate
  exact ⟨report, netbox, hrun,
    populate_refines (grounded_of_empty empty_noObjects) (by decide) (by simp [twoHosts])
    (newHost_of_empty empty_noObjects (by decide)) hrun⟩

/-! ## The order of the fixtures -/

/-- **The order in which hosts are populated cannot be told from what is served**, of them
    or of any other host. -/
theorem populate_order {refreshes' : Bool} (hperm : fixtures.Perm fixtures') (hgrounded : n.Grounded)
    (htags : (fixtures.map (·.assetTag)).Nodup) (hnew : ∀ fx ∈ fixtures, NewHost n fx)
    (hlinked : ∀ assetTag, n.Linked assetTag) (h : populate refreshes fixtures n = .ok (report, n'))
    (h' : populate refreshes' fixtures' n = .ok (report', n'')) (assetTag : String) (kind : FileKind) :
    handleRender n'.client assetTag kind = handleRender n''.client assetTag kind := by
  have hview : n'.client.view assetTag = n''.client.view assetTag := by
    by_cases hmem : ∃ fx ∈ fixtures, fx.assetTag = assetTag
    · -- a host of the fixtures is the one its fixture says, in both
      obtain ⟨fx, hfx, rfl⟩ := hmem
      have htags' := (hperm.map (·.assetTag)).nodup_iff.mp htags
      rw [view_of_populate hgrounded htags hfx (hnew fx hfx) h,
        view_of_populate hgrounded htags' (hperm.mem_iff.mp hfx) (hnew fx hfx) h']
    · -- any other one is as it was
      have hforeign : Foreign fixtures assetTag := fun fx hfx htag => hmem ⟨fx, hfx, htag⟩
      have hforeign' : Foreign fixtures' assetTag := fun fx hfx => hforeign fx (hperm.mem_iff.mpr hfx)
      rw [Steps.view hforeign (hlinked assetTag) (populate_runs h).1,
        Steps.view hforeign' (hlinked assetTag) (populate_runs h').1]
  unfold handleRender
  rw [loadHostIntent_of_view hview]

theorem populate_order_twoHosts : ∃ report netbox report' netbox',
    populate false twoHosts noObjects = .ok (report, netbox) ∧
    populate true twoHosts.reverse noObjects = .ok (report', netbox') ∧
      ∀ assetTag kind, handleRender netbox.client assetTag kind =
        handleRender netbox'.client assetTag kind := by
  obtain ⟨report, netbox, hrun, report', netbox', hrun'⟩ := twoHosts_populate
  have hnew : ∀ fx ∈ twoHosts, NewHost noObjects fx := by
    have hnames : ∀ fx ∈ twoHosts, (names fx).Nodup := by decide
    exact fun fx hfx => newHost_of_empty empty_noObjects (hnames fx hfx)
  have hmirrors : Mirrors [] noObjects := mirrors_of_empty fun _ => rfl
  have hlinked : ∀ assetTag, noObjects.Linked assetTag := fun _ => linked_of_mirrors hmirrors
  exact ⟨report, netbox, report', netbox', hrun, hrun',
    populate_order twoHosts.reverse_perm.symm (grounded_of_empty empty_noObjects) (by decide)
      hnew hlinked hrun hrun'⟩

end Fixtures
end HostConfig
