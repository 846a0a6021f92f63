import HostConfig.Vms.PrepareImage

/-!
# `Vms.Replacement` — what a download leaves behind

`fetchImage_ends` says once what `fetchImage` can do: which files it has written, removed and renamed when
it returns and when it raises. What that means for the image is up to the temporary path. Where it is aside
of the image, a download that raises has never been and one that returns has put an image with the published
digest in place; where it is not, some download that is cut off destroys the image or leaves a file behind
(`fetchImage_interrupted`).
-/

namespace HostConfig
namespace Vms

open Models FileSystem Raising

/-! ## The rules for the parts -/

section

variable {α : Type} {host : Host} {Q : Unit → Host → Prop} {E : ImageExc → Host → Prop}

theorem require_ends {e : ImageExc} {b : Bool} (htrue : b = true → Q () host)
    (hfalse : b = false → E e host) : Ends host (require e b) Q E := by
  apply Ends.ask
  · intro a hb
    split at hb
    · exact htrue ‹_›
    · cases hb
  · intro e' hb
    split at hb
    · cases hb
    · rename_i hnot
      cases hb
      exact hfalse (by simpa using hnot)

theorem onFiles_ends {e : ImageExc} {f : Fs Path → Option (Fs Path)}
    (hsome : ∀ fs, f host.fs = some fs → Q () { host with fs }) (hnone : f host.fs = none → E e host) :
    Ends host (onFiles e f) Q E := by
  apply Ends.attempt
  · intro host' h
    obtain ⟨fs, hfs, rfl⟩ := Option.map_eq_some_iff.mp h
    exact hsome fs hfs
  · intro h
    exact hnone (Option.map_eq_none_iff.mp h)

theorem record_ends {event : Event} (h : Q () { host with events := host.events ++ [event] }) :
    Ends host (record event) Q E := h

end

/-! ## The published digest -/

/-- The first line of the checksum list that is one for the image gives the digest. -/
def Published (sums : Option String) (digest : String) : Prop :=
  ∃ content before line after, sums = some content ∧ splitlines content = before ++ line :: after ∧
    digestFor imageFilename line = some digest ∧ ∀ earlier ∈ before, digestFor imageFilename earlier = none

theorem published_of_extractSha256 {content digest : String}
    (h : extractSha256 content imageFilename = .ok digest) : Published (some content) digest := by
  unfold extractSha256 at h
  split at h
  · rename_i digest' hfind
    cases h
    obtain ⟨before, line, after, hlines, hline, hbefore⟩ := List.findSome?_eq_some_iff.mp hfind
    exact ⟨content, before, line, after, rfl, hlines, hline, hbefore⟩
  · cases h

/-! ## What the download does -/

/-- The files of a download that has been thrown away. -/
def Discarded (fs : Fs Path) (tmpPath : Path) (fs' : Fs Path) : Prop :=
  fs' = fs ∨ ∃ tried, fs.Tried tmpPath tried ∧ tried.unlink tmpPath = some fs'

/-- A download that has been verified and put in place. -/
structure Placed (call : Surroundings) (fs : Fs Path) (tmpPath outPath : Path) (digest : String)
    (fs' : Fs Path) : Prop where
  verified : Sha256.hexdigest call.written = digest
  renamed : ∃ fetched, fs.write tmpPath call.written = some fetched ∧
    fetched.rename tmpPath outPath = some fs'

section

variable {call : Surroundings} {fs : Fs Path} {events : List Event} {outPath tmpPath : Path} {digest : String}

theorem fetchFile_ends {url : String} :
    Ends ⟨fs, events⟩ (fetchFile call url tmpPath)
      (fun _ host => fs.write tmpPath call.written = some host.fs ∧ host.events = events)
      (fun _ host => fs.Tried tmpPath host.fs ∧ host.events = events) := by
  unfold fetchFile
  refine Ends.bind (P := fun _ host => host = ⟨fs, events⟩) ?_ ?_
  · apply require_ends
    · intro _
      rfl
    · intro _
      exact ⟨.untried, rfl⟩
  rintro _ _ rfl
  refine Ends.bind (P := fun _ host => fs.write tmpPath call.written = some host.fs ∧
    host.events = events) ?_ ?_
  · apply onFiles_ends
    · intro fs' hwrite
      split at hwrite
      · exact ⟨hwrite, rfl⟩
      · cases hwrite
    · intro _
      exact ⟨.untried, rfl⟩
  rintro _ host ⟨hwrite, hevents⟩
  apply require_ends
  · intro _
    exact ⟨hwrite, hevents⟩
  · intro _
    exact ⟨.written hwrite, hevents⟩

/-- Throwing away, from however far the download has come. -/
theorem discard_ends {tried : Fs Path} (e : ImageExc) (htried : fs.Tried tmpPath tried) :
    Ends ⟨tried, events⟩ (do unlink tmpPath; throw e : Prepare Unit) (fun _ _ => False)
      (fun _ host => Discarded fs tmpPath host.fs ∧ host.events = events) := by
  refine Ends.bind (P := fun _ host => Discarded fs tmpPath host.fs ∧ host.events = events) ?_ ?_
  · apply onFiles_ends
    · intro fs' hunlink
      exact ⟨.inr ⟨tried, htried, hunlink⟩, rfl⟩
    · intro hunlink
      exact ⟨.inl (htried.eq_of_unlink hunlink), rfl⟩
  · rintro _ host h
    exact Ends.throw h

theorem fetchVerified_ends :
    Ends ⟨fs, events⟩ (fetchVerified call tmpPath outPath digest)
      (fun _ host => Placed call fs tmpPath outPath digest host.fs ∧ host.events = events ++ [.downloaded])
      (fun _ host => Discarded fs tmpPath host.fs ∧ host.events = events) := by
  unfold fetchVerified
  refine Ends.tryCatch (F := fun _ host => fs.Tried tmpPath host.fs ∧ host.events = events) ?_ ?_
  · refine Ends.bind fetchFile_ends ?_
    rintro _ ⟨fetched, events'⟩ ⟨hwrite, hevents⟩
    obtain rfl : events = events' := hevents.symm
    refine Ends.bind (P := fun sha host => host = ⟨fetched, events⟩ ∧
      sha = Sha256.hexdigest call.written) ?_ ?_
    · apply Ends.ask
      · intro sha hsha
        split at hsha
        · rw [Fs.read_write hwrite] at hsha
          cases hsha
          exact ⟨rfl, rfl⟩
        · cases hsha
      · intro e _
        exact ⟨.written hwrite, rfl⟩
    rintro sha _ ⟨rfl, hsha⟩
    split
    · -- another digest: the file is removed here already
      refine Ends.bind (P := fun _ host => fs.Tried tmpPath host.fs ∧ host.events = events) ?_ ?_
      · apply onFiles_ends
        · intro fs' hunlink
          rw [Fs.unlink_write hwrite] at hunlink
          cases hunlink
          exact ⟨.removed hwrite, rfl⟩
        · intro _
          exact ⟨.written hwrite, rfl⟩
      · rintro _ host h
        exact Ends.throw h
    · rename_i hequal
      have hverified : Sha256.hexdigest call.written = digest := hsha ▸ not_not.mp hequal
      refine Ends.bind (P := fun _ host => Placed call fs tmpPath outPath digest host.fs ∧
        host.events = events) ?_ ?_
      · apply onFiles_ends
        · intro fs' hrename
          split at hrename
          · exact ⟨⟨hverified, fetched, hwrite, hrename⟩, rfl⟩
          · cases hrename
        · intro _
          exact ⟨.written hwrite, rfl⟩
      · rintro _ host ⟨hplaced, hevents⟩
        apply record_ends
        exact ⟨hplaced, by rw [hevents]⟩
  · rintro e ⟨tried, events'⟩ ⟨htried, hevents⟩
    obtain rfl : events = events' := hevents.symm
    refine (discard_ends e htried).mono ?_ ?_
    · intro _ _ h
      exact h.elim
    · intro _ _ h
      exact h

variable {force : Bool}

/-- `prepare` goes on to the download. -/
def Starts (fs : Fs Path) (outPath : Path) (force : Bool) : Prop := force = true ∨ fs.present outPath = false

theorem fetchImage_ends :
    Ends ⟨fs, events⟩ (fetchImage call outPath force)
      (fun downloaded host =>
        if downloaded then
          Starts fs outPath force ∧ host.events = events ++ [.downloaded] ∧
            ∃ tmpPath digest, outPath.withSuffix ".tmp" = some tmpPath ∧ Published call.sums digest ∧
              Placed call fs tmpPath outPath digest host.fs
        else ¬ Starts fs outPath force ∧ host = ⟨fs, events⟩)
      (fun _ host => host.events = events ∧
        (host.fs = fs ∨ Starts fs outPath force ∧
          ∃ tmpPath, outPath.withSuffix ".tmp" = some tmpPath ∧ Discarded fs tmpPath host.fs)) := by
  unfold fetchImage
  refine Ends.bind (P := fun _ host => host = ⟨fs, events⟩) ?_ ?_
  · apply require_ends
    · intro _
      rfl
    · intro _
      exact ⟨rfl, .inl rfl⟩
  rintro _ _ rfl
  -- the guard
  refine Ends.bind (P := fun present host => present = fs.present outPath ∧ host = ⟨fs, events⟩) ?_ ?_
  · apply Ends.ask
    · intro present h
      cases h
      exact ⟨rfl, rfl⟩
    · intro e h
      cases h
  rintro present _ ⟨hpresent, rfl⟩
  split
  · rename_i hreturns
    refine Ends.pure ⟨?_, rfl⟩
    intro hstarts
    rw [Bool.and_eq_true, hpresent, Bool.not_eq_true'] at hreturns
    rcases hstarts with hforce | habsent
    · exact Bool.false_ne_true (hreturns.2.symm.trans hforce)
    · exact Bool.false_ne_true (habsent.symm.trans hreturns.1)
  rename_i hgoes
  have hstarts : Starts fs outPath force := by
    rw [hpresent] at hgoes
    unfold Starts
    cases force <;> simp_all
  -- the checksum list, its digest and the temporary path: up to here nothing has been written
  refine Ends.bind (P := fun content host => call.sums = some content ∧ host = ⟨fs, events⟩) ?_ ?_
  · apply Ends.ask_elim
    · intro content hsums
      exact ⟨hsums, rfl⟩
    · intro _
      exact ⟨rfl, .inl rfl⟩
  rintro content _ ⟨hsums, rfl⟩
  refine Ends.bind (P := fun digest host => Published call.sums digest ∧ host = ⟨fs, events⟩) ?_ ?_
  · apply Ends.ask
    · intro digest hdigest
      exact ⟨hsums ▸ published_of_extractSha256 hdigest, rfl⟩
    · intro e _
      exact ⟨rfl, .inl rfl⟩
  rintro digest _ ⟨hpublished, rfl⟩
  refine Ends.bind (P := fun tmpPath host => outPath.withSuffix ".tmp" = some tmpPath ∧ host = ⟨fs, events⟩) ?_ ?_
  · apply Ends.ask_elim
    · intro tmpPath htmp
      exact ⟨htmp, rfl⟩
    · intro _
      exact ⟨rfl, .inl rfl⟩
  rintro tmpPath _ ⟨htmp, rfl⟩
  refine Ends.bind (fetchVerified_ends.mono (fun _ _ h => h) ?_) ?_
  · rintro e host ⟨hdiscarded, hevents⟩
    exact ⟨hevents, .inr ⟨hstarts, tmpPath, htmp, hdiscarded⟩⟩
  · rintro _ host ⟨hplaced, hevents⟩
    exact Ends.pure ⟨hstarts, hevents, tmpPath, digest, htmp, hpublished, hplaced⟩

/-! ## What the customization does -/

theorem runTool_ends {imagePath : Path} {cmd : List String} {host : Host} :
    Ends host (runTool call imagePath cmd) (fun _ host' => host'.events = host.events)
      (fun _ host' => host'.events = host.events) := by
  unfold runTool
  refine Ends.bind (P := fun _ host' => host'.events = host.events) ?_ ?_
  · apply Ends.ask
    · intro _ _
      rfl
    · intro _ _
      rfl
  intro result host' hevents
  refine Ends.bind (P := fun _ host'' => host''.events = host.events) ?_ ?_
  · exact hevents
  · intro _ _ h
    exact Ends.pure h

/-- A customization that returns has run the tool with success, unless the tool is not installed. -/
theorem runVirtCustomize_ends {imagePath : Path} {host : Host} :
    Ends host (runVirtCustomize call imagePath)
      (fun _ host' => host'.events = host.events ++ if call.which then [.customized] else [])
      (fun _ host' => host'.events = host.events) := by
  unfold runVirtCustomize
  cases hwhich : call.which with
  | false => exact Ends.pure (List.append_nil _).symm
  | true =>
    -- both runs of the tool end in the same event
    have hrecord : ∀ host', host'.events = host.events →
        Ends host' (record .customized) (fun _ host'' => host''.events = host.events ++ [.customized])
          (fun _ host'' => host''.events = host.events) := by
      intro host' h
      apply record_ends
      rw [← h]
    refine Ends.bind (P := fun _ host' => host'.events = host.events) ?_ ?_
    · apply Ends.ask
      · intro _ _
        rfl
      · intro _ _
        rfl
    intro pubkey host₁ h₁
    refine Ends.bind (runTool_ends.mono (fun _ _ h => h.trans h₁) (fun _ _ h => h.trans h₁)) ?_
    intro result host₂ h₂
    split
    · refine Ends.bind (runTool_ends.mono (fun _ _ h => h.trans h₂) (fun _ _ h => h.trans h₂)) ?_
      intro result host₃ h₃
      split
      · exact Ends.throw h₃
      · exact hrecord host₃ h₃
    · exact hrecord host₂ h₂

end

/-! ## The image, whatever goes wrong -/

/-- A call that raises before it has replaced the image leaves it as it was, and no file of its own; a call
    that has replaced it has put contents with the published digest in place. -/
structure SafeReplacement (outPath : Path) (force : Bool) (fs : Fs Path) : Prop where
  raised : ∀ call customize e host, (prepare call (some outPath) customize force).run
    ⟨fs, []⟩ = (.error e, host) →
    host.events = [] → fs.Untouched host.fs outPath
  replaced : ∀ call host, (fetchImage call outPath force).run ⟨fs, []⟩ = (.ok true, host) →
    ∃ bytes, host.fs.read outPath = some bytes ∧ Published call.sums (Sha256.hexdigest bytes)

section

variable {fs fs' : Fs Path} {outPath tmpPath : Path} {force : Bool}

theorem Discarded.untouched (h : Discarded fs tmpPath fs') (haside : fs.Aside tmpPath outPath) :
    fs.Untouched fs' outPath := by
  rcases h with rfl | ⟨tried, htried, hunlink⟩
  · exact Fs.Untouched.refl _ _
  · exact haside.untouched_of_unlink htried hunlink

/-- A call that raises before it has replaced the image raises in the download. -/
theorem prepare_raised {call : Surroundings} {customize : Bool} :
    Ends ⟨fs, []⟩ (prepare call (some outPath) customize force) (fun _ _ => True)
      (fun _ host => host.events = [] → host.fs = fs ∨ Starts fs outPath force ∧
        ∃ tmpPath, outPath.withSuffix ".tmp" = some tmpPath ∧ Discarded fs tmpPath host.fs) := by
  unfold prepare
  refine Ends.bind (fetchImage_ends.mono (fun _ _ h => h) ?_) ?_
  · intro e host h _
    exact h.2
  intro downloaded host h
  split
  · -- what the customization raises comes after the event of the download
    rename_i hcustomize
    obtain ⟨rfl, -⟩ := Bool.and_eq_true_iff.mp hcustomize
    obtain ⟨-, hevents, -⟩ := h
    refine Ends.bind (runVirtCustomize_ends.mono (fun _ _ _ => trivial) ?_) ?_
    · intro e host' h' hnone
      rw [h', hevents] at hnone
      cases hnone
    · intro _ _ _
      exact Ends.pure trivial
  · exact Ends.pure trivial

theorem safeReplacement_of_aside (h : Starts fs outPath force →
    ∀ tmpPath, outPath.withSuffix ".tmp" = some tmpPath → fs.Aside tmpPath outPath) :
    SafeReplacement outPath force fs where
  raised := by
    intro call customize e host hrun hevents
    rcases prepare_raised.of_error hrun hevents with hsame | ⟨hstarts, tmpPath, htmp, hdiscarded⟩
    · rw [hsame]
      exact Fs.Untouched.refl _ _
    · exact hdiscarded.untouched (h hstarts tmpPath htmp)
  replaced := by
    intro call host hrun
    obtain ⟨hstarts, -, tmpPath, digest, htmp, hpublished, hplaced⟩ := fetchImage_ends.of_ok hrun
    obtain ⟨fetched, hwrite, hrename⟩ := hplaced.renamed
    refine ⟨call.written, (h hstarts tmpPath htmp).read_publish hwrite hrename, ?_⟩
    rw [hplaced.verified]
    exact hpublished

/-! ## A download that is cut off -/

/-- The checksum list arrives, the image does not come through. -/
def interrupted (written : List UInt8) : Surroundings where
  mkdir := true
  sums := some "0  noble-server-cloudimg-amd64.img"
  urlopen := true
  opens := true
  written := written
  complete := false
  reads := true
  renames := true
  which := true
  pubkey := .ok none
  virtCustomize := fun _ => none

theorem extractSha256_interrupted :
    extractSha256 "0  noble-server-cloudimg-amd64.img" imageFilename = .ok "0" := by decide

/-- What has been written is thrown away. -/
theorem prepare_interrupted {contents : List UInt8} {customize : Bool} (hstarts : Starts fs outPath force)
    (htmp : outPath.withSuffix ".tmp" = some tmpPath) (hwrite : fs.write tmpPath contents = some fs') :
    (prepare (interrupted contents) (some outPath) customize force).run ⟨fs, []⟩ =
      (.error (.networkError imageUrl), ⟨fs'.clear tmpPath, []⟩) := by
  -- from the inside out: the fetch, the handler, the guard and what comes before the `try`
  have hfetch : (fetchFile (interrupted contents) imageUrl tmpPath).run ⟨fs, []⟩ =
      (.error (.networkError imageUrl), ⟨fs', []⟩) := by
    have hwritten : (onFiles (.networkError imageUrl) fun fs => fs.write tmpPath contents).run ⟨fs, []⟩ =
        (.ok (), ⟨fs', []⟩) := Program.run_attempt_some (by simp [hwrite])
    have hopened : (require (.networkError imageUrl) true).run ⟨fs, []⟩ = (.ok (), ⟨fs, []⟩) := rfl
    exact (Program.run_bind_ok hopened).trans ((Program.run_bind_ok hwritten).trans rfl)
  have hverified : (fetchVerified (interrupted contents) tmpPath outPath "0").run ⟨fs, []⟩ =
      (.error (.networkError imageUrl), ⟨fs'.clear tmpPath, []⟩) := by
    have hremoved : (unlink tmpPath).run ⟨fs', []⟩ = (.ok (), ⟨fs'.clear tmpPath, []⟩) :=
      Program.run_attempt_some (by simp [Fs.unlink_write hwrite])
    refine (Program.run_tryCatch_error (Program.run_bind_error hfetch)).trans ?_
    exact (Program.run_bind_ok hremoved).trans rfl
  have hgoes : ¬ (fs.present outPath && !force) = true := by
    rcases hstarts with rfl | habsent
    · simp
    · simp [habsent]
  have himage : (fetchImage (interrupted contents) outPath force).run ⟨fs, []⟩ =
      (.error (.networkError imageUrl), ⟨fs'.clear tmpPath, []⟩) := by
    have hmade : (require .osError true).run ⟨fs, []⟩ = (.ok (), ⟨fs, []⟩) := rfl
    unfold fetchImage
    refine (Program.run_bind_ok hmade).trans ((Program.run_bind_ok (Program.run_ask _ _)).trans ?_)
    rw [if_neg hgoes]
    have hlisted : (fetchText (interrupted contents) shaUrl).run ⟨fs, []⟩ =
        (.ok "0  noble-server-cloudimg-amd64.img", ⟨fs, []⟩) := rfl
    refine (Program.run_bind_ok hlisted).trans ?_
    refine (Program.run_bind_ok (a := "0") (t := ⟨fs, []⟩) ?_).trans ?_
    · exact congrArg (·, _) extractSha256_interrupted
    refine (Program.run_bind_ok (a := tmpPath) (t := ⟨fs, []⟩) ?_).trans ?_
    · rw [Program.run_ask, htmp]
      rfl
    exact Program.run_bind_error hverified
  exact Program.run_bind_error himage

/-- A link of the image at the temporary path, or a link to nowhere: some download that is
    cut off does harm. -/
theorem not_safeReplacement (hstarts : Starts fs outPath force)
    (htmp : outPath.withSuffix ".tmp" = some tmpPath)
    (haside : ¬ fs.Aside tmpPath outPath) : ¬ SafeReplacement outPath force fs := by
  obtain ⟨contents, fs', hwrite, hdamage⟩ := Fs.exists_damage haside
  intro hsafe
  exact hdamage (hsafe.raised _ false _ _ (prepare_interrupted hstarts htmp hwrite) rfl)

/-- **When a failed download leaves the image alone.** Exactly when it never starts, or the temporary path
    is neither another name of the image nor a link to a name that is free. -/
theorem safeReplacement_iff (outPath : Path) (force : Bool) (fs : Fs Path) :
    SafeReplacement outPath force fs ↔
      (force = true ∨ fs.present outPath = false →
        ∀ tmpPath, outPath.withSuffix ".tmp" = some tmpPath → ¬ fs.Dangling tmpPath ∧
          ¬ fs.SameFile tmpPath outPath) := by
  constructor
  · intro hsafe hstarts tmpPath htmp
    by_contra hnot
    refine not_safeReplacement hstarts htmp ?_ hsafe
    intro haside
    exact hnot ⟨haside.direct, haside.apart⟩
  · intro h
    apply safeReplacement_of_aside
    intro hstarts tmpPath htmp
    obtain ⟨hdirect, hapart⟩ := h hstarts tmpPath htmp
    exact ⟨hdirect, hapart⟩

end

/-! ## A published image whose name ends in `.tmp` -/

/-- One file, at one path. -/
def publishedFs (path : Path) : Fs Path where
  node := Function.update (fun _ => none) path (some (.file 0))
  bytes := fun _ => [0x51, 0x46, 0x49]
  next := 1
  lt_next := by
    intro p ino hp
    by_cases hpath : p = path
    · subst hpath
      rw [Function.update_self] at hp
      cases hp
      omega
    · rw [Function.update_of_ne hpath] at hp
      cases hp

def tmpImage : Path := ⟨"/srv/images", "noble.tmp"⟩

/-- The download is forced, and is cut off: the image is gone. -/
theorem tmpImage_lost :
    (∃ fs', (prepare (interrupted [0x51]) (some tmpImage) false true).run ⟨publishedFs tmpImage, []⟩ =
        (.error (.networkError imageUrl), ⟨fs', []⟩) ∧
      (publishedFs tmpImage).read tmpImage = some [0x51, 0x46, 0x49] ∧ fs'.read tmpImage = none) ∧
    ¬ SafeReplacement tmpImage true (publishedFs tmpImage) := by
  have hnode : (publishedFs tmpImage).node tmpImage = some (.file 0) := by simp [publishedFs]
  have hfile : (publishedFs tmpImage).inode tmpImage = some 0 :=
    Fs.inode_eq_some_iff.mpr ⟨tmpImage, Fs.resolve_of_not_link (by simp [hnode]), hnode⟩
  have htmp : tmpImage.withSuffix ".tmp" = some tmpImage := by decide
  constructor
  · refine ⟨_, prepare_interrupted (.inl rfl) htmp (Fs.write_of_inode hfile), Fs.read_of_inode hfile, ?_⟩
    exact Fs.read_clear_self _ _
  · refine not_safeReplacement (.inl rfl) htmp ?_
    intro haside
    exact haside.apart ⟨0, hfile, hfile⟩

end Vms
end HostConfig
