import HostConfig.Scripts.ValidateH200Host
import HostConfig.Lib.TextLines

/-!
# `Scripts.Soundness` — what the verdict `OK` says about the host

`InEffect` and `ModulesLoaded` are what the gpu-h200 role promises of a host, as far as a probe shows it. A
run comes out `OK` when no check fails and none raises; each check's part in that is a condition on the
probe (`passes_bondUp`, `passes_vlans`, ...). Together they give all of `InEffect` (`verdict_sound`). The
modules are the exception: the check for them is skipped where `lsmod` cannot be run, and what is skipped
does not gate, so there the verdict says nothing about them (`soundVerdict_iff`).

The three ways to learn the verdict are made from one count and cannot disagree (`agree`).
-/

namespace HostConfig
namespace Scripts

open Models Traverse

/-! ## The host the role promises -/

section

variable (py : Python) (probe : Probe) (cfg : Config)

structure InterfacesInEffect (records : List Record) : Prop where
  bond : ∃ rec, iface records cfg.bondName = some rec ∧ rec.up = true
  vlans : ((records.countP fun r => isVlanOf py cfg.bondName r && (r.up && r.hasIpv4) : Nat) : Int) =
    cfg.vlanCount
  rails : ∀ i : Nat, (i : Int) < cfg.rails → ∃ rec, iface records ("ib" ++ toString i) = some rec ∧
    rec.up = true ∧ rec.hasIpv4 = true ∧ (rec.get "mtu" .null).isInt cfg.ipoibMtu = true

/-- A default route is shown. -/
def RouteInEffect : Prop :=
  (probe.run ["ip", "route", "show", "default"]).rc = 0 ∧
    printsText (probe.run ["ip", "route", "show", "default"]).out = true

/-- `lsmod` lists the module, below its header line. -/
def Lists (out module : String) : Prop := ∃ line ∈ (splitlines out).tail,
    (split line).head? = some module.toList

/-- The InfiniBand modules are observed as loaded. -/
def ModulesLoaded : Prop :=
  (probe.run ["lsmod"]).rc = 0 ∧ Lists (probe.run ["lsmod"]).out "mlx5_ib" ∧
    Lists (probe.run ["lsmod"]).out "ib_ipoib"

/-- The netplan file, the interfaces and the default route are there. -/
structure InEffect : Prop where
  netplan : (probe.readText cfg.netplanPath).isSome = true
  interfaces : ∃ records, ipAddrJson py probe = .ok records ∧ InterfacesInEffect py cfg records
  route : RouteInEffect probe

/-! ## What a run without `ib-modules` gates on -/

/-- What the loops over the VLANs and the rails read is there to be read. -/
structure Readable (records : List Record) : Prop where
  vlans : ∀ r ∈ records, isVlanOf py cfg.bondName r = true →
    (∃ up, isUp r = .ok up) ∧ (r.up = true → ∃ locals, ipv4s r = .ok locals)
  rails : ∀ i : Nat, (i : Int) < cfg.rails → ∀ rec, iface records ("ib" ++ toString i) = some rec →
    ∃ locals, ipv4s rec = .ok locals

/-- What the other checks fail on, or raise at, is not there. -/
structure RestPasses : Prop where
  cloudInit : probe.haveTool "cloud-init" = true → isIn "error" (cloudInitText probe) = false
  netplan : (probe.readText cfg.netplanPath).isSome = true
  bonding : (probe.readText (bondingPath cfg)).isSome = true
  interfaces : ∃ records, ipAddrJson py probe = .ok records ∧ InterfacesInEffect py cfg records ∧
    Readable py cfg records
  route : RouteInEffect probe

end

/-! ## One check -/

/-- A check returns, and not with `FAIL`. -/
def Passes (check : Except Raised CheckResult) : Prop := ∃ r, check = .ok r ∧ r.status ≠ .fail

@[simp] theorem passes_ok {r : CheckResult} : Passes (.ok r) ↔ r.status ≠ .fail := by
  constructor
  · rintro ⟨r', hr, hstatus⟩
    rw [Except.ok.inj hr]
    exact hstatus
  · intro hstatus
    exact ⟨r, rfl, hstatus⟩

theorem passes_of_status {name detail : String} {status : Status} (h : status ≠ .fail) :
    Passes (.ok ⟨name, status, detail⟩) := passes_ok.mpr h

theorem passes_ite {c : Prop} [Decidable c] {x y : Except Raised CheckResult} (hx : c → Passes x)
    (hy : ¬ c → Passes y) : Passes (if c then x else y) := by
  by_cases hc : c
  · rw [if_pos hc]
    exact hx hc
  · rw [if_neg hc]
    exact hy hc

theorem passes_bind {α : Type} {x : Except Raised α} {f : α → Except Raised CheckResult} :
    Passes (x >>= f) ↔ ∃ a, x = .ok a ∧ Passes (f a) := by
  cases x with
  | error e =>
    constructor
    · rintro ⟨r, hr, -⟩
      cases hr
    · rintro ⟨a, ha, -⟩
      cases ha
  | ok a =>
    constructor
    · intro h
      exact ⟨a, rfl, h⟩
    · rintro ⟨a', ha, h⟩
      rw [Except.ok.inj ha]
      exact h

section

variable {py : Python} {probe : Probe} {cfg : Config}

theorem passes_cloudInit : Passes (checkCloudInit py probe) ↔
    (probe.haveTool "cloud-init" = true → isIn "error" (cloudInitText probe) = false) := by
  unfold checkCloudInit
  cases probe.haveTool "cloud-init" with
  | false => simp
  | true =>
    dsimp only
    by_cases herror : isIn "error" (cloudInitText probe) = true
    · simp [herror]
    · rw [if_neg (by simp), if_neg herror]
      -- no other outcome is a failure
      refine iff_of_true ?_ fun _ => Bool.eq_false_iff.mpr herror
      apply passes_ite
      · intro _
        exact passes_of_status (by simp)
      · intro _
        apply passes_ite
        · intro _
          exact passes_of_status (by simp)
        · intro _
          apply passes_ite
          · intro _
            exact passes_of_status (by simp)
          · intro _
            exact passes_of_status (by simp)

theorem passes_netplan : Passes (checkNetplanConfig probe cfg) ↔
    (probe.readText cfg.netplanPath).isSome = true := by
  unfold checkNetplanConfig
  cases (probe.readText cfg.netplanPath).isSome <;> simp

theorem passes_bondUp : Passes (checkBondUp py probe cfg) ↔
    ∃ records, ipAddrJson py probe = .ok records ∧ ∃ rec, iface records cfg.bondName = some rec ∧
      rec.up = true := by
  unfold checkBondUp
  rw [passes_bind]
  apply exists_congr
  intro records
  apply and_congr_right
  intro _
  cases hbond : iface records cfg.bondName with
  | none => simp
  | some rec =>
    dsimp only
    rw [passes_bind]
    constructor
    · rintro ⟨up, hup, hpasses⟩
      refine ⟨rec, rfl, ?_⟩
      rw [up_of_isUp hup]
      cases up with
      | true => rfl
      | false => simp at hpasses
    · rintro ⟨rec', hrec, hup⟩
      rw [← Option.some.inj hrec] at hup
      exact ⟨true, isUp_of_up hup, by simp⟩

theorem passes_bondLacp : Passes (checkBondLacp probe cfg) ↔
    (probe.readText (bondingPath cfg)).isSome = true := by
  unfold checkBondLacp
  cases probe.readText (bondingPath cfg) with
  | none => simp
  | some text =>
    dsimp only
    repeat' split
    all_goals simp

/-! ### The VLANs -/

theorem upWithIp_eq_ok_iff {rec : Record} {b : Bool} : upWithIp rec = .ok b ↔ b = (rec.up && rec.hasIpv4) ∧
    (∃ up, isUp rec = .ok up) ∧ (rec.up = true → ∃ locals, ipv4s rec = .ok locals) := by
  unfold upWithIp
  rw [bind_eq_ok]
  constructor
  · rintro ⟨up, hup, h⟩
    rw [up_of_isUp hup]
    cases up with
    | false => exact ⟨(Except.ok.inj h).symm, ⟨_, hup⟩, by simp⟩
    | true =>
      obtain ⟨locals, hlocals, h⟩ := bind_eq_ok.mp h
      rw [hasIpv4_of_ipv4s hlocals]
      exact ⟨(Except.ok.inj h).symm, ⟨_, hup⟩, fun _ => ⟨_, hlocals⟩⟩
  · rintro ⟨rfl, ⟨up, hup⟩, hlocals⟩
    refine ⟨up, hup, ?_⟩
    rw [up_of_isUp hup] at hlocals ⊢
    cases up with
    | false => rfl
    | true =>
      obtain ⟨locals, hlocals⟩ := hlocals rfl
      rw [hasIpv4_of_ipv4s hlocals]
      exact bind_eq_ok.mpr ⟨locals, hlocals, rfl⟩

/-- The comprehension keeps what its condition, where it can be evaluated, holds of. -/
theorem keepM_eq_ok_iff {p : Record → Except Raised Bool} {q : Record → Bool}
    (hq : ∀ r b, p r = .ok b → b = q r)
    {l kept : List Record} : keepM p l = .ok kept ↔ (∀ r ∈ l, p r = .ok (q r)) ∧ kept = l.filter q := by
  induction l generalizing kept with
  | nil => simp [keepM, eq_comm]
  | cons r l ih =>
    rw [keepM, bind_eq_ok, List.forall_mem_cons]
    constructor
    · rintro ⟨b, hb, h⟩
      obtain ⟨rest, hrest, h⟩ := bind_eq_ok.mp h
      obtain ⟨hall, rfl⟩ := ih.mp hrest
      obtain rfl := hq r b hb
      exact ⟨⟨hb, hall⟩, by rw [← Except.ok.inj h, List.filter_cons]⟩
    · rintro ⟨⟨hb, hall⟩, rfl⟩
      refine ⟨_, hb, bind_eq_ok.mpr ⟨_, ih.mpr ⟨hall, rfl⟩, ?_⟩⟩
      rw [List.filter_cons]

theorem passes_vlans : Passes (checkVlans py probe cfg) ↔ ∃ records, ipAddrJson py probe = .ok records ∧
    (∀ r ∈ records, isVlanOf py cfg.bondName r = true →
      (∃ up, isUp r = .ok up) ∧ (r.up = true → ∃ locals, ipv4s r = .ok locals)) ∧
    ((records.countP fun r => isVlanOf py cfg.bondName r && (r.up && r.hasIpv4) : Nat) : Int) =
      cfg.vlanCount := by
  unfold checkVlans
  rw [passes_bind]
  apply exists_congr
  intro records
  apply and_congr_right
  intro _
  -- the list that is counted is a filter, where all of it can be read
  have hkeep : ∀ kept, keepM upWithIp (records.filter (isVlanOf py cfg.bondName)) = .ok kept ↔
      _ := fun kept =>
    keepM_eq_ok_iff (q := fun r => r.up && r.hasIpv4) fun r b hb => (upWithIp_eq_ok_iff.mp hb).1
  have hcount : ((records.filter (isVlanOf py cfg.bondName)).filter fun r => r.up && r.hasIpv4).length =
      records.countP fun r => isVlanOf py cfg.bondName r && (r.up && r.hasIpv4) := by
    rw [List.filter_filter, List.countP_eq_length_filter]
    congr 2
    funext r
    exact Bool.and_comm _ _
  rw [passes_bind]
  constructor
  · rintro ⟨kept, hkept, hpasses⟩
    obtain ⟨hall, rfl⟩ := (hkeep kept).mp hkept
    rw [hcount] at hpasses
    refine ⟨?_, ?_⟩
    · intro r hr hvlan
      exact (upWithIp_eq_ok_iff.mp (hall r (List.mem_filter.mpr ⟨hr, hvlan⟩))).2
    · by_contra hne
      rw [if_neg hne] at hpasses
      simp at hpasses
  · rintro ⟨hreadable, heq⟩
    refine ⟨_, (hkeep _).mpr ⟨?_, rfl⟩, ?_⟩
    · intro r hr
      obtain ⟨hr, hvlan⟩ := List.mem_filter.mp hr
      exact upWithIp_eq_ok_iff.mpr ⟨rfl, hreadable r hr hvlan⟩
    · rw [hcount, if_pos heq]
      simp

/-! ### The rails -/

/-- What the loop wants of one rail, and what it has to read for that. -/
def RailPasses (cfg : Config) (records : List Record) (ib : String) : Prop :=
  ∃ rec, iface records ib = some rec ∧
  rec.up = true ∧ rec.hasIpv4 = true ∧ (rec.get "mtu" .null).isInt cfg.ipoibMtu = true ∧ ∃ locals,
    ipv4s rec = .ok locals

/-- **One iteration leaves nothing recorded** exactly if nothing was before and the rail is as expected. -/
theorem railProblems_eq_ok_iff {records : List Record} {problems : RailProblems} {ib : String} :
    railProblems py cfg records problems ib = .ok {} ↔ problems = {} ∧ RailPasses cfg records ib := by
  obtain ⟨missing, down, noIp, badMtu⟩ := problems
  unfold railProblems RailPasses
  cases iface records ib with
  | none => simp
  | some rec =>
    dsimp only
    rw [bind_eq_ok]
    constructor
    · rintro ⟨up, hup, h⟩
      obtain ⟨locals, hlocals, h⟩ := bind_eq_ok.mp h
      -- each of the four lists stays empty exactly if its own condition fails
      have hfields := Except.ok.inj h
      simp only [RailProblems.mk.injEq] at hfields
      obtain ⟨rfl, hdown, hnoIp, hmtu⟩ := hfields
      rw [ite_eq_iff] at hdown hnoIp hmtu
      simp only [List.append_eq_nil_iff, List.cons_ne_nil, and_false, or_false] at hdown hnoIp hmtu
      simp only [false_or] at hnoIp
      refine ⟨?_, rec, rfl, ?_, ?_, hmtu.1, locals, hlocals⟩
      · rw [hdown.2, hnoIp.2, hmtu.2]
      · rw [up_of_isUp hup, hdown.1]
      · rw [hasIpv4_of_ipv4s hlocals]
        simpa using hnoIp.1
    · rintro ⟨hnone, rec', hrec, hup, hipv4, hmtu, locals, hlocals⟩
      obtain rfl := Option.some.inj hrec
      obtain ⟨rfl, rfl, rfl, rfl⟩ := RailProblems.mk.inj hnone
      rw [hasIpv4_of_ipv4s hlocals] at hipv4
      refine ⟨true, isUp_of_up hup, bind_eq_ok.mpr ⟨locals, hlocals, ?_⟩⟩
      simp only [hmtu, if_true]
      rw [if_neg (by simpa using hipv4)]

/-- The whole loop leaves nothing recorded exactly if every rail is as expected. -/
theorem railProblems_foldlM {records : List Record} {rails : List String} {problems : RailProblems} :
    rails.foldlM (railProblems py cfg records) problems = .ok {} ↔
      problems = {} ∧ ∀ ib ∈ rails, RailPasses cfg records ib := by
  induction rails generalizing problems with
  | nil => simp [List.foldlM, pure, Except.pure]
  | cons ib rails ih =>
    rw [List.foldlM_cons, bind_eq_ok, List.forall_mem_cons]
    constructor
    · rintro ⟨problems', hstep, hrest⟩
      obtain ⟨rfl, hrails⟩ := ih.mp hrest
      obtain ⟨hnone, hib⟩ := railProblems_eq_ok_iff.mp hstep
      exact ⟨hnone, hib, hrails⟩
    · rintro ⟨hnone, hib, hrails⟩
      exact ⟨{}, railProblems_eq_ok_iff.mpr ⟨hnone, hib⟩, ih.mpr ⟨rfl, hrails⟩⟩

/-- The detail is empty exactly if no problem is recorded. -/
theorem texts_eq_nil_iff {problems : RailProblems} : problems.texts cfg = [] ↔ problems = {} := by
  obtain ⟨missing, down, noIp, badMtu⟩ := problems
  unfold RailProblems.texts
  rw [List.filterMap_eq_nil_iff]
  simp

theorem passes_ipoibRails : Passes (checkIpoibRails py probe cfg) ↔
    ∃ records, ipAddrJson py probe = .ok records ∧
    ∀ i : Nat, (i : Int) < cfg.rails → RailPasses cfg records ("ib" ++ toString i) := by
  unfold checkIpoibRails
  rw [passes_bind]
  apply exists_congr
  intro records
  apply and_congr_right
  intro _
  have hrails : (∀ ib ∈ expectedRails cfg, RailPasses cfg records ib) ↔
      ∀ i : Nat, (i : Int) < cfg.rails → RailPasses cfg records ("ib" ++ toString i) := by
    unfold expectedRails
    rw [List.forall_mem_map]
    apply forall_congr'
    intro i
    rw [List.mem_range]
    apply imp_congr_left
    omega
  rw [← hrails, passes_bind]
  constructor
  · rintro ⟨problems, hloop, hpasses⟩
    have hnone : problems = {} := by
      by_contra hsome
      rw [if_neg (mt texts_eq_nil_iff.mp hsome)] at hpasses
      simp at hpasses
    rw [hnone] at hloop
    exact (railProblems_foldlM.mp hloop).2
  · intro hall
    refine ⟨{}, railProblems_foldlM.mpr ⟨rfl, hall⟩, ?_⟩
    rw [if_pos (texts_eq_nil_iff.mpr rfl)]
    simp

/-! ### The others -/

theorem passes_defaultRoute : Passes (checkDefaultRoute probe) ↔ RouteInEffect probe := by
  unfold checkDefaultRoute RouteInEffect
  dsimp only
  split
  · simp_all
  · simp_all

theorem mem_loadedModules {out module : String} : module.toList ∈ loadedModules out ↔ Lists out module :=
  List.mem_filterMap

/-- No required module is missing from the list. -/
theorem missing_eq_nil_iff {out : String} :
    (requiredModules.filter fun m => !(loadedModules out).contains m.toList) = [] ↔
      Lists out "mlx5_ib" ∧ Lists out "ib_ipoib" := by
  have hlisted : ∀ m : String, ¬ ((!(loadedModules out).contains m.toList) = true) ↔ Lists out m := by
    intro m
    rw [← mem_loadedModules, Bool.not_eq_true', Bool.not_eq_false, List.contains_iff_mem]
  rw [List.filter_eq_nil_iff]
  constructor
  · intro h
    exact ⟨(hlisted _).mp (h _ (.tail _ (.head _))), (hlisted _).mp (h _ (.head _))⟩
  · rintro ⟨hmlx5, hipoib⟩
    intro m hm
    apply (hlisted m).mpr
    rcases List.mem_cons.mp hm with rfl | hm
    · exact hipoib
    · rw [List.mem_singleton.mp hm]
      exact hmlx5

/-- The modules are looked at where `lsmod` runs. -/
theorem passes_ibModules : Passes (checkIbModules probe) ↔
    ((probe.run ["lsmod"]).rc = 0 → ModulesLoaded probe) := by
  unfold checkIbModules ModulesLoaded
  by_cases hrc : (probe.run ["lsmod"]).rc = 0
  · dsimp only
    rw [if_neg (not_not.mpr hrc), ← missing_eq_nil_iff]
    constructor
    · intro hpasses _
      refine ⟨hrc, ?_⟩
      by_contra hmissing
      rw [if_neg hmissing] at hpasses
      exact passes_ok.mp hpasses rfl
    · intro hloaded
      rw [if_pos (hloaded hrc).2]
      exact passes_of_status (by simp)
  · dsimp only
    rw [if_pos hrc]
    exact iff_of_true (passes_of_status (by simp)) fun h => absurd h hrc

theorem passes_noSoftRoce : Passes (checkNoSoftRoce probe) := by
  unfold checkNoSoftRoce
  apply passes_ite
  · intro _
    exact passes_of_status (by simp)
  · intro _
    apply passes_ite
    · intro _
      exact passes_of_status (by simp)
    · intro _
      exact passes_of_status (by simp)

theorem passes_ibPorts : Passes (checkIbPorts probe) := by
  have hwarn : ∀ {name detail : String}, Passes (.ok ⟨name, .warn, detail⟩) := passes_of_status (by simp)
  unfold checkIbPorts
  apply passes_ite
  · intro _
    exact passes_of_status (by simp)
  · intro _
    refine passes_ite (fun _ => hwarn) fun _ => passes_ite (fun _ => hwarn) fun _ => ?_
    apply passes_ite
    · intro _
      exact passes_of_status (by simp)
    · intro _
      exact hwarn

theorem passes_verbsDevices : Passes (checkVerbsDevices probe) := by
  have hwarn : ∀ {name detail : String}, Passes (.ok ⟨name, .warn, detail⟩) := passes_of_status (by simp)
  unfold checkVerbsDevices
  apply passes_ite
  · intro _
    exact passes_of_status (by simp)
  · intro _
    refine passes_ite (fun _ => hwarn) fun _ => passes_ite (fun _ => hwarn) fun _ => ?_
    apply passes_ite
    · intro _
      exact passes_of_status (by simp)
    · intro _
      exact passes_of_status (by simp)

theorem passes_memlock : Passes (checkMemlock probe cfg) := by
  unfold checkMemlock
  apply passes_ite
  · intro _
    exact passes_of_status (by simp)
  · intro _
    apply passes_ite
    · intro _
      exact passes_of_status (by simp)
    · intro _
      exact passes_of_status (by simp)

end

/-! ## The run -/

theorem failed_eq_zero_iff {results : List CheckResult} : failed results = 0 ↔
    ∀ r ∈ results, r.status ≠ .fail := by
  unfold failed counts
  rw [List.countP_eq_zero]
  simp

theorem verdict_eq_ok_iff {results : List CheckResult} : verdict results = "OK" ↔ failed results = 0 := by
  unfold verdict
  by_cases h : failed results = 0
  · simp [h]
  · rw [if_pos h]
    simp [h]

/-- A list of checks comes out `OK` exactly if each one passes. -/
theorem mapM_passes_iff {l : List (Except Raised CheckResult)} :
    (∃ results, l.mapM id = .ok results ∧ verdict results = "OK") ↔ ∀ check ∈ l, Passes check := by
  induction l with
  | nil => simp [pure, Except.pure, verdict_eq_ok_iff, failed, counts]
  | cons check l ih =>
    simp only [verdict_eq_ok_iff, failed_eq_zero_iff] at ih ⊢
    rw [List.forall_mem_cons, ← ih]
    constructor
    · rintro ⟨results, hresults, hstatus⟩
      obtain ⟨r, rest, hr, hrest, rfl⟩ := mapM_cons_eq_ok.mp hresults
      rw [List.forall_mem_cons] at hstatus
      exact ⟨⟨r, hr, hstatus.1⟩, rest, hrest, hstatus.2⟩
    · rintro ⟨⟨r, hr, hpasses⟩, rest, hrest, hstatus⟩
      exact ⟨r :: rest, mapM_cons_eq_ok.mpr ⟨r, rest, hr, hrest, rfl⟩,
        List.forall_mem_cons.mpr ⟨hpasses, hstatus⟩⟩

section

variable {py : Python} {probe : Probe} {cfg : Config}

/-- **When a run comes out `OK`.** -/
theorem runAll_ok_iff : (∃ results, runAll py probe cfg = .ok results ∧ verdict results = "OK") ↔
    RestPasses py probe cfg ∧ ((probe.run ["lsmod"]).rc = 0 → ModulesLoaded probe) := by
  unfold runAll
  rw [mapM_passes_iff]
  unfold checks
  simp only [List.forall_mem_cons, passes_cloudInit, passes_netplan, passes_bondUp,
    passes_bondLacp, passes_vlans,
    passes_defaultRoute, passes_ipoibRails, passes_ibModules, passes_noSoftRoce, passes_ibPorts,
      passes_verbsDevices,
    passes_memlock, List.not_mem_nil, false_imp_iff, implies_true, and_true]
  constructor
  · rintro ⟨hcloudInit, hnetplan, ⟨records, hrecords, hbond⟩, hbonding,
      ⟨records₂, hrecords₂, hreadable, hvlans⟩,
      hroute, ⟨records₃, hrecords₃, hrails⟩, hmodules⟩
    -- the three checks read the same records
    obtain rfl := Except.ok.inj (hrecords.symm.trans hrecords₂)
    obtain rfl := Except.ok.inj (hrecords.symm.trans hrecords₃)
    refine ⟨⟨hcloudInit, hnetplan, hbonding, ⟨records, hrecords, ⟨hbond, hvlans, ?_⟩, hreadable, ?_⟩, hroute⟩,
      hmodules⟩
    · intro i hi
      obtain ⟨rec, hrec, hup, hipv4, hmtu, -⟩ := hrails i hi
      exact ⟨rec, hrec, hup, hipv4, hmtu⟩
    · intro i hi rec hrec
      obtain ⟨rec', hrec', -, -, -, hlocals⟩ := hrails i hi
      rw [hrec] at hrec'
      rw [Option.some.inj hrec']
      exact hlocals
  · rintro ⟨⟨hcloudInit, hnetplan, hbonding, ⟨records, hrecords, heffect, hreadable⟩, hroute⟩, hmodules⟩
    refine ⟨hcloudInit, hnetplan, ⟨records, hrecords, heffect.bond⟩, hbonding,
      ⟨records, hrecords, hreadable.vlans, heffect.vlans⟩, hroute, ⟨records, hrecords, ?_⟩, hmodules⟩
    intro i hi
    obtain ⟨rec, hrec, hup, hipv4, hmtu⟩ := heffect.rails i hi
    exact ⟨rec, hrec, hup, hipv4, hmtu, hreadable.rails i hi rec hrec⟩

end

/-! ## Three ways to learn the verdict -/

/-- What stands behind `verdict: ` in the last line of a text report. -/
def textVerdict (report : String) : String :=
  let lines := report.toList.splitOn '\n'
  String.ofList ((lines.getD (lines.length - 2) []).drop "verdict: ".length)

/-- What a JSON report has under `verdict`. -/
def jsonVerdict : Json → Option String
  | .obj entries =>
      match entries.lookup "verdict" with
      | some (.str s) => some s
      | _             => none
  | _            => none

/-- The text report, the JSON report and the exit status say the same. -/
structure Agree (results : List CheckResult) : Prop where
  text : ∀ hostname, textVerdict (renderReport results hostname) = verdict results
  json : jsonVerdict (payload results) = some (verdict results)
  status : exitStatus results = 0 ↔ verdict results = "OK"

section

variable {results : List CheckResult}

theorem lf_notMem_verdict : '\n' ∉ ("verdict: " ++ verdict results).toList := by
  unfold verdict
  split
  · decide
  · decide

/-- Whatever the details are, the report ends in the line of the verdict. -/
theorem textVerdict_renderReport (hostname : String) :
    textVerdict (renderReport results hostname) = verdict results := by
  have hreport : (renderReport results hostname).toList =
      ("\n".intercalate (reportBody results hostname)).toList ++ '\n' ::
        (("verdict: " ++ verdict results).toList ++ '\n' :: []) := by
    unfold renderReport
    rw [String.intercalate_append_of_ne_nil (by simp [reportBody]) (by simp)]
    simp [String.intercalate_cons_cons]
  have hlines := List.splitOn_append_cons_self (a := '\n')
      ("\n".intercalate (reportBody results hostname)).toList
    (("verdict: " ++ verdict results).toList ++ '\n' :: [])
  rw [TextLines.splitOn_ended lf_notMem_verdict, ← hreport] at hlines
  unfold textVerdict
  rw [hlines, show "verdict: ".length = 9 from rfl]
  simp

theorem agree (results : List CheckResult) : Agree results where
  text := textVerdict_renderReport
  json := rfl
  status := by
    rw [verdict_eq_ok_iff]
    unfold exitStatus
    by_cases h : failed results = 0
    · simp [h]
    · rw [if_pos h]
      simp [h]

end

/-! ## The verdict and the host -/

section

variable {py : Python} {probe : Probe} {cfg : Config}

theorem RestPasses.inEffect (h : RestPasses py probe cfg) : InEffect py probe cfg := by
  obtain ⟨records, hrecords, heffect, -⟩ := h.interfaces
  exact ⟨h.netplan, ⟨records, hrecords, heffect⟩, h.route⟩

/-- **What exit status 0 says**: all that is promised is in effect, the modules included
    where `lsmod` runs. -/
theorem verdict_sound (py : Python) (probe : Probe) (cfg : Config) (results : List CheckResult) :
    (runAll py probe cfg = .ok results ∧ exitStatus results = 0 →
      InEffect py probe cfg ∧ ((probe.run ["lsmod"]).rc = 0 → ModulesLoaded probe)) ∧ Agree results := by
  refine ⟨?_, agree results⟩
  rintro ⟨hresults, hstatus⟩
  obtain ⟨hrest, hmodules⟩ := runAll_ok_iff.mp ⟨results, hresults, (agree results).status.mp hstatus⟩
  exact ⟨hrest.inEffect, hmodules⟩

/-- Exit status 0 says that everything promised is in effect, the modules included. -/
def SoundVerdict (py : Python) (probe : Probe) (cfg : Config) : Prop :=
  ∀ results, runAll py probe cfg = .ok results → exitStatus results = 0 →
    InEffect py probe cfg ∧ ModulesLoaded probe

/-- **The verdict covers the modules exactly where `lsmod` runs or another check stands in the way.** -/
theorem soundVerdict_iff (py : Python) (probe : Probe) (cfg : Config) :
    SoundVerdict py probe cfg ↔ (probe.run ["lsmod"]).rc = 0 ∨ ¬ RestPasses py probe cfg := by
  have hrun := @runAll_ok_iff py probe cfg
  constructor
  · intro hsound
    by_contra hneither
    obtain ⟨hrc, hrest⟩ := not_or.mp hneither
    -- the skipped check is no failure, and what it was to see was not seen
    obtain ⟨results, hresults, hok⟩ := hrun.mpr ⟨not_not.mp hrest, fun h => absurd h hrc⟩
    exact hrc (hsound results hresults ((agree results).status.mpr hok)).2.1
  · intro heither results hresults hstatus
    obtain ⟨hrest, hmodules⟩ := hrun.mp ⟨results, hresults, (agree results).status.mp hstatus⟩
    rcases heither with hrc | hnot
    · exact ⟨hrest.inEffect, hmodules hrc⟩
    · exact absurd hrest hnot

/-- The command line passes the verdict on: the output and the exit status are those of one run. -/
theorem main_eq_ok_iff {args : Args} {out : String} {status : Nat} : main py probe args = .ok (out, status) ↔
    ∃ results, runAll py probe args.config = .ok results ∧ status = exitStatus results ∧
      out = (if args.json then renderJson py results else renderReport results "") ++ "\n" := by
  unfold main
  rw [bind_eq_ok]
  apply exists_congr
  intro results
  rw [Except.ok.injEq, Prod.mk.injEq]
  constructor
  · rintro ⟨hresults, hout, hstatus⟩
    exact ⟨hresults, hstatus.symm, hout.symm⟩
  · rintro ⟨hresults, hstatus, hout⟩
    exact ⟨hresults, hout.symm, hstatus.symm⟩

theorem main_exits_iff {args : Args} : (∃ out, main py probe args = .ok (out, 0)) ↔
    ∃ results, runAll py probe args.config = .ok results ∧ verdict results = "OK" := by
  simp only [main_eq_ok_iff]
  constructor
  · rintro ⟨out, results, hresults, hstatus, -⟩
    exact ⟨results, hresults, (agree results).status.mp hstatus.symm⟩
  · rintro ⟨results, hresults, hok⟩
    exact ⟨_, results, hresults, ((agree results).status.mpr hok).symm, rfl⟩

end

/-! ### A host with one VLAN and one rail -/

namespace OneRail

/-- The records `ip -j addr` prints on it. -/
def recordsText : String :=
  "\x7b\"ifname\": \"bond0\", \"operstate\": \"UP\"\x7d, " ++
    "\x7b\"ifname\": \"bond0.100\", \"operstate\": \"UP\", \"addr_info\": [\x7b\"family\": \"inet\", " ++
      "\"local\": \"10.42.10.30\"\x7d]\x7d, " ++
    "\x7b\"ifname\": \"ib0\", \"operstate\": \"UP\", \"mtu\": 2044, \"addr_info\": [\x7b\"family\": " ++
      "\"inet\", \"local\": \"10.42.100.10\"\x7d]\x7d]"

def addrText : String := "[" ++ recordsText

def inet (address : String) : Json := .arr [.obj [("family", .str "inet"), ("local", .str address)]]

def records : List Record :=
  [[("ifname", .str "bond0"), ("operstate", .str "UP")],
    [("ifname", .str "bond0.100"), ("operstate", .str "UP"), ("addr_info", inet "10.42.10.30")],
    [("ifname", .str "ib0"), ("operstate", .str "UP"), ("mtu", .int 2044),
      ("addr_info", inet "10.42.100.10")]]

def python : Python where
  loads text := if text = addrText then .value (.arr (records.map .obj)) else .decodeError
  dumps _ := ""
  repr text := "'" ++ text ++ "'"
  str _ := "None"

def probe (lsmod : Proc) : Probe where
  run args :=
    if args = ["ip", "-j", "addr"] then ⟨0, addrText, ""⟩
    else if args = ["ip", "route", "show", "default"] then ⟨0, "default via 10.42.10.1 dev bond0.100\n", ""⟩
    else if args = ["lsmod"] then lsmod
    else ⟨127, "", "not found"⟩
  haveTool _ := false
  readText path :=
    if path = "/etc/netplan/60-lab.yaml" then some "network:\n"
    else if path = "/proc/net/bonding/bond0" then some "Bonding Mode: IEEE 802.3ad Dynamic link aggregation\n"
    else none

def config : Config := { rails := 1, vlanCount := 1 }

def listed : Proc := ⟨0, "Module Size Used by\nmlx5_ib 1 0\nib_ipoib 1 0\n", ""⟩

def notFound : Proc := ⟨127, "", "not found"⟩

theorem ipAddrJson_eq (lsmod : Proc) : ipAddrJson python (probe lsmod) = .ok records := by
  have hprints : printsText addrText = true := by
    have hhead : addrText.toList = '[' :: recordsText.toList := by
      unfold addrText
      rw [String.toList_append]
      rfl
    exact printsText_of_head hhead (by decide)
  unfold ipAddrJson
  simp only [probe, python]
  simp [hprints, records, asRecord]

theorem restPasses (lsmod : Proc) : RestPasses python (probe lsmod) config where
  cloudInit := by
    intro htool
    cases htool
  netplan := rfl
  bonding := rfl
  interfaces := by
    refine ⟨records, ipAddrJson_eq lsmod, ⟨⟨_, rfl, by decide⟩, by decide, ?_⟩, ?_, ?_⟩
    · intro i hi
      obtain rfl : i = 0 := by
        change (i : Int) < 1 at hi
        omega
      exact ⟨_, rfl, by decide, by decide, by decide⟩
    · intro r hr _
      simp only [records, List.mem_cons, List.not_mem_nil, or_false] at hr
      rcases hr with rfl | rfl | rfl <;> exact ⟨⟨_, rfl⟩, fun _ => ⟨_, rfl⟩⟩
    · intro i hi rec hrec
      obtain rfl : i = 0 := by
        change (i : Int) < 1 at hi
        omega
      obtain rfl := Option.some.inj hrec
      exact ⟨_, rfl⟩
  route := ⟨rfl, show printsText "default via 10.42.10.1 dev bond0.100\n" = true by decide⟩

theorem verdict_sound_listed : InEffect python (probe listed) config ∧ ModulesLoaded (probe listed) := by
  have hmodules : ModulesLoaded (probe listed) :=
    ⟨rfl, mem_loadedModules.mp (by decide), mem_loadedModules.mp (by decide)⟩
  obtain ⟨results, hresults, hok⟩ := runAll_ok_iff.mpr ⟨restPasses listed, fun _ => hmodules⟩
  have hsound := (verdict_sound python (probe listed) config results).1
      ⟨hresults, (agree results).status.mpr hok⟩
  exact ⟨hsound.1, hsound.2 rfl⟩

/-- Without `lsmod` the run comes out `OK`, and whether the modules are loaded was never seen. -/
theorem not_soundVerdict : ¬ SoundVerdict python (probe notFound) config := by
  intro hsound
  have hnever : (probe notFound).run ["lsmod"] = notFound := rfl
  obtain ⟨results, hresults, hok⟩ := runAll_ok_iff.mpr ⟨restPasses notFound, by
    intro hrc
    rw [hnever] at hrc
    cases hrc⟩
  have hrc := (hsound results hresults ((agree results).status.mpr hok)).2.1
  revert hrc
  decide

end OneRail

end Scripts
end HostConfig
