import HostConfig.Vms.Replacement
import Mathlib.Data.List.Induction

/-!
# `Vms.Customization` — one call of `prepare` after another

The calls are made on one path, each on the files the one before it has left, and each may fail anywhere.
The log of all calls says whether the image has been customized since it was last downloaded. A call
downloads before it customizes and customizes only what it has downloaded itself (`Kept`); so the image is
customized exactly when the call that downloaded it last was to customize it and returned
(`customized_iff`).
-/

namespace HostConfig
namespace Vms

open FileSystem Raising

/-! ## Runs of calls -/

/-- The flags of a call, and what it meets. -/
structure Call where
  customize : Bool
  force : Bool
  surroundings : Surroundings

/-- A call that has been made: the files before and after it, how it ended, and what it has logged. -/
structure Report where
  call : Call
  before : Fs Path
  result : Except ImageExc Path
  events : List Event
  after : Fs Path

def Report.returned (r : Report) : Bool :=
  match r.result with
  | .ok _    => true
  | .error _ => false

def report (outPath : Path) (call : Call) (fs : Fs Path) : Report :=
  let ended := (prepare call.surroundings (some outPath) call.customize call.force).run ⟨fs, []⟩
  ⟨call, fs, ended.1, ended.2.events, ended.2.fs⟩

def reports (outPath : Path) : List Call → Fs Path → List Report
  | [],            _  => []
  | call :: calls, fs => report outPath call fs :: reports outPath calls (report outPath call fs).after

/-- The log of the calls. -/
def log (rs : List Report) : List Event := rs.flatMap (·.events)

/-- The image has been customized since it was last downloaded. -/
def Customized (events : List Event) : Prop :=
  ∃ before after, events = before ++ .customized :: after ∧ .downloaded ∉ after

/-- The call that downloaded the image last. -/
def LastDownload (rs : List Report) (r : Report) : Prop :=
  ∃ earlier later, rs = earlier ++ r :: later ∧ .downloaded ∈ r.events ∧ ∀ s ∈ later, .downloaded ∉ s.events

/-- Whenever a call with `customize` returns, the image is customized. -/
def AlwaysCustomized (rs : List Report) : Prop :=
  ∀ earlier r later, rs = earlier ++ r :: later → r.call.customize = true → r.returned = true →
    Customized (log (earlier ++ [r]))

/-! ## One call -/

/-- What a call logs: nothing, a download, or a download and the customization it returned from. -/
structure Kept (outPath : Path) (r : Report) : Prop where
  logged : r.events = [] ∨ (r.events = [.downloaded] ∧ ¬ (r.call.customize = true ∧ r.returned = true)) ∨
    (r.events = [.downloaded, .customized] ∧ r.call.customize = true ∧ r.returned = true)
  starts : r.returned = true → Starts r.before outPath r.call.force → .downloaded ∈ r.events

section

variable {outPath : Path} {fs : Fs Path}

theorem prepare_ends {call : Surroundings} {customize force : Bool} (hwhich : call.which = true) :
    Ends ⟨fs, []⟩ (prepare call (some outPath) customize force)
      (fun _ host => (¬ Starts fs outPath force ∧ host.events = []) ∨
        host.events = .downloaded :: if customize then [.customized] else [])
      (fun _ host => host.events = [] ∨ host.events = [.downloaded]) := by
  unfold prepare
  refine Ends.bind (fetchImage_ends.mono (fun _ _ h => h) ?_) ?_
  · intro e host h
    exact .inl h.1
  intro downloaded host h
  split
  · rename_i hboth
    obtain ⟨rfl, hcustomize⟩ := Bool.and_eq_true_iff.mp hboth
    -- the customization comes after the event of the download
    have hevents : host.events = [.downloaded] := h.2.1
    refine Ends.bind (P := fun _ host' => host'.events = [.downloaded, .customized])
      (runVirtCustomize_ends.mono ?_ ?_) ?_
    · intro _ host' h'
      rw [h', hevents, if_pos hwhich]
      rfl
    · intro _ host' h'
      exact .inr (h'.trans hevents)
    · intro _ host' h'
      refine Ends.pure (.inr ?_)
      rw [h', if_pos hcustomize]
  · rename_i hnot
    apply Ends.pure
    cases downloaded with
    | false =>
      obtain ⟨hstarts, rfl⟩ := h
      exact .inl ⟨hstarts, rfl⟩
    | true =>
      have hevents : host.events = [.downloaded] := h.2.1
      have hcustomize : ¬ customize = true := hnot
      right
      rw [hevents, if_neg hcustomize]

theorem report_kept {call : Call} (hwhich : call.surroundings.which = true) :
    Kept outPath (report outPath call fs) := by
  have hends := @prepare_ends outPath fs call.surroundings call.customize call.force hwhich
  cases hrun : (prepare call.surroundings (some outPath) call.customize call.force).run ⟨fs, []⟩ with
  | mk result host =>
    have hreport : report outPath call fs = ⟨call, fs, result, host.events, host.fs⟩ := by
      unfold report
      rw [hrun]
    rw [hreport]
    cases result with
    | error e =>
      constructor
      · rcases hends.of_error hrun with hnone | hdownloaded
        · exact .inl hnone
        · refine .inr (.inl ⟨hdownloaded, ?_⟩)
          rintro ⟨-, hreturned⟩
          cases hreturned
      · intro hreturned
        cases hreturned
    | ok path =>
      rcases hends.of_ok hrun with ⟨hstarts, hnone⟩ | hevents
      · exact ⟨.inl hnone, fun _ h => absurd h hstarts⟩
      · -- a download, and the customization if there was to be one
        refine ⟨.inr ?_, fun _ _ => ?_⟩
        · cases hcustomize : call.customize with
          | false => exact .inl ⟨by simpa [hcustomize] using hevents, by simp⟩
          | true => exact .inr ⟨by simpa [hcustomize] using hevents, rfl, rfl⟩
        · show _ ∈ host.events
          rw [hevents]
          exact List.mem_cons_self

theorem reports_kept {calls : List Call} (hwhich : ∀ call ∈ calls, call.surroundings.which = true) :
    ∀ r ∈ reports outPath calls fs, Kept outPath r := by
  induction calls generalizing fs with
  | nil =>
    intro r hr
    cases hr
  | cons call calls ih =>
    obtain ⟨hcall, hcalls⟩ := List.forall_mem_cons.mp hwhich
    exact List.forall_mem_cons.mpr ⟨report_kept hcall, ih hcalls⟩

end

/-! ## All calls -/

section

variable {rs : List Report} {r d : Report} {events : List Event}

theorem log_concat : log (rs ++ [r]) = log rs ++ r.events := by
  unfold log
  rw [List.flatMap_append, List.flatMap_singleton]

/-- An element of a list is its last one, or stands before it. -/
theorem last_or_before {α : Type} {xs before after : List α} {x y : α}
    (h : xs ++ [x] = before ++ y :: after) :
    (after = [] ∧ y = x) ∨ ∃ rest, after = rest ++ [x] ∧ xs = before ++ y :: rest := by
  rcases List.eq_nil_or_concat' after with rfl | ⟨rest, last, rfl⟩
  · exact .inl ⟨rfl, (List.singleton_inj.mp (List.append_inj' h rfl).2).symm⟩
  · rw [← List.cons_append, ← List.append_assoc] at h
    obtain ⟨hxs, hlast⟩ := List.append_inj' h rfl
    obtain rfl : x = last := List.singleton_inj.mp hlast
    exact .inr ⟨rest, rfl, hxs⟩

theorem lastDownload_concat_of_mem (h : .downloaded ∈ r.events) : LastDownload (rs ++ [r]) d ↔ d = r := by
  constructor
  · rintro ⟨earlier, later, hrs, -, hlater⟩
    rcases last_or_before hrs with ⟨-, hd⟩ | ⟨rest, rfl, -⟩
    · exact hd
    · exact absurd h (hlater r (by simp))
  · rintro rfl
    exact ⟨rs, [], rfl, h, List.forall_mem_nil _⟩

theorem lastDownload_concat_of_notMem (h : .downloaded ∉ r.events) :
    LastDownload (rs ++ [r]) d ↔ LastDownload rs d := by
  constructor
  · rintro ⟨earlier, later, hrs, hd, hlater⟩
    rcases last_or_before hrs with ⟨-, rfl⟩ | ⟨rest, rfl, hrest⟩
    · exact absurd hd h
    · refine ⟨earlier, rest, hrest, hd, ?_⟩
      intro s hs
      exact hlater s (List.mem_append_left _ hs)
  · rintro ⟨earlier, later, rfl, hd, hlater⟩
    refine ⟨earlier, later ++ [r], by simp, hd, ?_⟩
    intro s hs
    rcases List.mem_append.mp hs with hs | hs
    · exact hlater s hs
    · exact List.mem_singleton.mp hs ▸ h

theorem not_customized_downloaded : ¬ Customized (events ++ [.downloaded]) := by
  rintro ⟨before, after, hevents, hafter⟩
  rcases last_or_before hevents with ⟨-, hlast⟩ | ⟨rest, rfl, -⟩
  · cases hlast
  · exact hafter (by simp)

theorem customized_customized : Customized (events ++ [.downloaded, .customized]) :=
  ⟨events ++ [.downloaded], [], by simp, List.not_mem_nil⟩

/-- **The image is customized exactly when the call that downloaded it last was to do so and returned.** -/
theorem customized_iff {outPath : Path} (hkept : ∀ r ∈ rs, Kept outPath r) :
    Customized (log rs) ↔ ∃ d, LastDownload rs d ∧ d.call.customize = true ∧ d.returned = true := by
  induction rs using List.reverseRecOn with
  | nil =>
    constructor
    · rintro ⟨before, after, hevents, -⟩
      exact absurd hevents.symm (by simp [log])
    · rintro ⟨d, ⟨earlier, later, hrs, -⟩, -⟩
      exact absurd hrs.symm (by simp)
  | append_singleton rs r ih =>
    have hrs : ∀ r ∈ rs, Kept outPath r := by
      intro s hs
      exact hkept s (List.mem_append_left _ hs)
    rw [log_concat]
    rcases (hkept r (by simp)).logged with hnone | ⟨hdownloaded, hnot⟩ | ⟨hboth, hcustomize, hreturned⟩
    · -- nothing has happened to the image
      have hnotMem : .downloaded ∉ r.events := by simp [hnone]
      simp only [lastDownload_concat_of_notMem hnotMem]
      rw [hnone, List.append_nil]
      exact ih hrs
    · have hmem : .downloaded ∈ r.events := by simp [hdownloaded]
      -- a download that no customization has followed, and that was not to, or did not return
      simp only [lastDownload_concat_of_mem hmem, exists_eq_left]
      rw [hdownloaded]
      exact iff_of_false not_customized_downloaded hnot
    · have hmem : .downloaded ∈ r.events := by simp [hboth]
      simp only [lastDownload_concat_of_mem hmem, exists_eq_left]
      rw [hboth]
      exact iff_of_true customized_customized ⟨hcustomize, hreturned⟩

end

/-- **A call that is to customize the image, and returns.** The image is customized if the call has
    downloaded it, which it has where it is forced or finds none, and as well if an earlier call that was to
    customize it and returned has downloaded it last. -/
theorem customized_of_returned (outPath : Path) (fs : Fs Path) (calls : List Call)
    (hwhich : ∀ call ∈ calls, call.surroundings.which = true) (earlier : List Report) (r : Report)
    (later : List Report) (hrun : reports outPath calls fs = earlier ++ r :: later)
    (hcustomize : r.call.customize = true) (hreturned : r.returned = true) :
    (r.call.force = true ∨ r.before.present outPath = false → Customized (log (earlier ++ [r]))) ∧
      ∀ d, LastDownload (earlier ++ [r]) d → d.call.customize = true → d.returned = true →
        Customized (log (earlier ++ [r])) := by
  have hkept : ∀ s ∈ earlier ++ [r], Kept outPath s := by
    intro s hs
    apply reports_kept hwhich s
    rw [hrun, ← List.singleton_append, ← List.append_assoc]
    exact List.mem_append_left _ hs
  have hlast : ∀ d, LastDownload (earlier ++ [r]) d → d.call.customize = true → d.returned = true →
      Customized (log (earlier ++ [r])) := by
    intro d hd hdcustomize hdreturned
    exact (customized_iff hkept).mpr ⟨d, hd, hdcustomize, hdreturned⟩
  constructor
  · intro hstarts
    have hdownloaded := (hkept r (by simp)).starts hreturned hstarts
    exact hlast r ((lastDownload_concat_of_mem hdownloaded).mpr rfl) hcustomize hreturned
  · exact hlast

/-! ## An image that is there already -/

def emptyFs : Fs Path where
  node := fun _ => none
  bytes := fun _ => []
  next := 0
  lt_next := by
    intro _ _ h
    cases h

/-- Everything works. -/
def working : Surroundings where
  mkdir := true
  sums := some "e3b0c44298fc1c149afbf4c8996fb92427ae41e4649b934ca495991b7852b855  noble-server-cloudimg-amd64.img"
  urlopen := true
  opens := true
  written := []
  complete := true
  reads := true
  renames := true
  which := true
  pubkey := .ok none
  virtCustomize := fun _ => some ⟨0, "", id⟩

def nobleImage : Path := ⟨"/srv/images", "noble.img"⟩

/-- virt-customize fails. -/
def failing : Surroundings := { working with virtCustomize := fun _ => some ⟨1, "", id⟩ }

/-- A call that fails after its download, a forced one, and one that finds the image. -/
def history : List Call := [⟨true, false, failing⟩, ⟨true, true, working⟩, ⟨true, false, working⟩]

theorem customized_nobleImage : ∃ failed forced found,
    reports nobleImage history emptyFs = [failed, forced, found] ∧ failed.returned = false ∧
      found.events = [] ∧
      Customized (log [failed, forced]) ∧ Customized (log [failed, forced, found]) := by
  obtain ⟨failed, forced, found, hrun⟩ : ∃ failed forced found,
      reports nobleImage history emptyFs = [failed, forced, found] := ⟨_, _, _, rfl⟩
  have hlog : (reports nobleImage history emptyFs).map (fun r =>
      (r.call.customize, r.call.force, r.returned, r.events)) =
      [(true, false, false, [.downloaded]), (true, true, true, [.downloaded, .customized]),
        (true, false, true, [])] := by
    decide +kernel
  rw [hrun] at hlog
  simp only [List.map_cons, List.map_nil, List.cons.injEq, Prod.mk.injEq, and_true] at hlog
  obtain ⟨⟨-, -, hfailed, -⟩, ⟨hcustomize, hforce, hreturned, hevents⟩, hfoundCustomize, -,
      hfoundReturned, hnone⟩ := hlog
  have hwhich : ∀ call ∈ history, call.surroundings.which = true := by simp [history, failing, working]
  have hlast : LastDownload [failed, forced, found] forced := by
    refine ⟨[failed], [found], rfl, by rw [hevents]; simp, ?_⟩
    rw [List.forall_mem_singleton, hnone]
    exact List.not_mem_nil
  refine ⟨failed, forced, found, hrun, hfailed, hnone, ?_, ?_⟩
  · exact (customized_of_returned nobleImage emptyFs history hwhich [failed] forced [found] hrun
      hcustomize hreturned).1 (.inl hforce)
  · exact (customized_of_returned nobleImage emptyFs history hwhich [failed, forced] found [] hrun
      hfoundCustomize hfoundReturned).2 forced hlast hcustomize hreturned

/-- A first call downloads the image, a second one that is to customize it finds it there and returns. -/
theorem downloaded_not_customized :
    emptyFs.present nobleImage = false ∧ working.which = true ∧
      ¬ AlwaysCustomized (reports nobleImage [⟨false, false, working⟩, ⟨true, false, working⟩] emptyFs) := by
  refine ⟨rfl, rfl, ?_⟩
  intro halways
  have hlog : (reports nobleImage [⟨false, false, working⟩, ⟨true, false, working⟩] emptyFs).map
      (fun r => (r.returned, r.events)) = [(true, [.downloaded]), (true, [])] := by decide +kernel
  obtain ⟨first, second⟩ := List.cons.inj hlog
  have hcustomized := halways [_] _ [] rfl rfl (Prod.mk.inj (List.cons.inj second).1).1
  unfold log at hcustomized
  rw [List.singleton_append, List.flatMap_cons, List.flatMap_singleton, (Prod.mk.inj first).2,
    (Prod.mk.inj (List.cons.inj second).1).2] at hcustomized
  exact not_customized_downloaded (show Customized ([] ++ [.downloaded]) from hcustomized)

end Vms
end HostConfig
