import HostConfig.Vms.Customization

/-!
# `Vms.Images` — the image after any calls of `prepare`

Calls are made on one path one after another, each with the network, the operating system and the tool
failing where they like, and each going on from the files the one before it has left. `image_of_calls`: the
image is then the one it was, or what one of the calls has made of its own download: bytes with the digest
that was published to that call, edited by the runs of `virt-customize` that the call made, and by none if
it was not to customize them. No call leaves another file behind.

The condition is on the temporary path, before the first call: it is another path than the image's and aside
of it. Every call keeps it so (`call_keeps`).
-/

namespace HostConfig
namespace Vms

open FileSystem Raising

variable {call : Surroundings} {fs fs' : Fs Path} {outPath tmpPath : Path} {digest : String}
  {customize force : Bool} {host : Host}

/-! ## What a call makes of its download -/

/-- What the runs of `virt-customize` do to the image: one run, and a second one where the first has failed.
    There is none without the tool, or where the public key cannot be read. -/
def toolEdits (call : Surroundings) (imagePath : Path) : List (List UInt8 → List UInt8) :=
  match call.which, call.pubkey with
  | true, .ok pubkey =>
      match call.virtCustomize (customizeCmd imagePath pubkey) with
      | none        => []
      | some result =>
          if result.returncode = 0 then [result.edit]
          else
            let retry := call.virtCustomize (cmdNoInstall (customizeCmd imagePath pubkey))
            result.edit :: (retry.map (·.edit)).toList
  | _, _ => []

/-- The edits of a call that downloads. -/
def Call.edits (call : Call) (imagePath : Path) : List (List UInt8 → List UInt8) :=
  if call.customize then toolEdits call.surroundings imagePath else []

/-- The contents after the edits, in their order. -/
def edited (edits : List (List UInt8 → List UInt8)) (contents : List UInt8) : List UInt8 :=
  edits.foldl (fun contents edit => edit contents) contents

/-- The contents are a verified download of this call, edited by it. -/
structure MadeBy (call : Call) (outPath : Path) (contents : List UInt8) : Prop where
  made : contents = edited (call.edits outPath) call.surroundings.written
  published : Published call.surroundings.sums (Sha256.hexdigest call.surroundings.written)

/-! ## The customization, on the files -/

/-- The names are the same, and the image is edited. -/
structure EditedFrom (fs : Fs Path) (imagePath : Path) (edits : List (List UInt8 → List UInt8))
    (fs' : Fs Path) : Prop where
  node : fs'.node = fs.node
  contents : ∀ contents, fs.read imagePath = some contents → fs'.read imagePath = some (edited edits contents)

theorem EditedFrom.refl : EditedFrom fs outPath [] fs where
  node := rfl
  contents _ h := h

theorem EditedFrom.edit {edits : List (List UInt8 → List UInt8)} (h : EditedFrom fs outPath edits host.fs)
    (f : List UInt8 → List UInt8) : EditedFrom fs outPath (edits ++ [f]) (host.edit outPath f).fs := by
  unfold Host.edit
  constructor
  case node =>
    rw [← h.node]
    cases host.fs.inode outPath <;> rfl
  case contents =>
    intro contents hread
    obtain ⟨ino, hino, hbytes⟩ := Option.map_eq_some_iff.mp (h.contents contents hread)
    dsimp only
    rw [hino, Option.elim_some]
    have hsame : (host.fs.setBytes ino (f (host.fs.bytes ino))).inode outPath = some ino := hino
    rw [Fs.read_of_inode hsame, hbytes]
    simp [Fs.setBytes, edited]

theorem runTool_edits {cmd : List String} {edits : List (List UInt8 → List UInt8)}
    (h : EditedFrom fs outPath edits host.fs) :
    Ends host (runTool call outPath cmd)
      (fun result host' => call.virtCustomize cmd = some result ∧
        EditedFrom fs outPath (edits ++ [result.edit]) host'.fs)
      (fun _ host' => call.virtCustomize cmd = none ∧ EditedFrom fs outPath edits host'.fs) := by
  unfold runTool
  refine Ends.bind (P := fun result host' => call.virtCustomize cmd = some result ∧ host = host') ?_ ?_
  · apply Ends.ask_elim
    · intro result hresult
      exact ⟨hresult, rfl⟩
    · intro hnone
      exact ⟨hnone, h⟩
  rintro result _ ⟨hresult, rfl⟩
  refine Ends.bind (P := fun _ host' => EditedFrom fs outPath (edits ++ [result.edit]) host'.fs) ?_ ?_
  · exact h.edit result.edit
  · intro _ host' h'
    exact Ends.pure ⟨hresult, h'⟩

/-- **However the customization ends, the image has been edited by the runs of the tool.** -/
theorem runVirtCustomize_edits : Ends host (runVirtCustomize call outPath)
    (fun _ host' => EditedFrom host.fs outPath (toolEdits call outPath) host'.fs)
    (fun _ host' => EditedFrom host.fs outPath (toolEdits call outPath) host'.fs) := by
  unfold runVirtCustomize toolEdits
  cases hwhich : call.which with
  | false => exact Ends.pure .refl
  | true =>
    refine Ends.bind (P := fun pubkey host' => call.pubkey = .ok pubkey ∧ host = host') ?_ ?_
    · apply Ends.ask
      · intro pubkey hpubkey
        exact ⟨hpubkey, rfl⟩
      · intro e hpubkey
        rw [hpubkey]
        exact .refl
    rintro pubkey _ ⟨hpubkey, rfl⟩
    rw [hpubkey]
    dsimp only
    refine Ends.bind ((runTool_edits .refl).mono (fun _ _ h => h) ?_) ?_
    · rintro _ host₁ ⟨hnone, h₁⟩
      rw [hnone]
      exact h₁
    rintro result host₁ ⟨hresult, h₁⟩
    rw [hresult]
    dsimp only
    split
    · refine Ends.bind ((runTool_edits h₁).mono (fun _ _ h => h) ?_) ?_
      · rintro _ host₂ ⟨hnone, h₂⟩
        rw [hnone]
        exact h₂
      rintro result' host₂ ⟨hresult', h₂⟩
      rw [hresult']
      split
      · exact Ends.throw h₂
      · exact record_ends h₂
    · rename_i hzero
      rw [if_pos (not_not.mp hzero)]
      exact record_ends h₁

/-! ## One call -/

/-- The temporary path is another path than the image's, and aside of it. -/
def Clear (outPath : Path) (fs : Fs Path) : Prop :=
  ∀ tmpPath, outPath.withSuffix ".tmp" = some tmpPath → tmpPath ≠ outPath ∧ fs.Aside tmpPath outPath

/-- What a call leaves behind. -/
structure Leaves (call : Call) (outPath : Path) (fs : Fs Path) (events : List Event)
    (fs' : Fs Path) : Prop where
  kept : .downloaded ∉ events → fs'.read outPath = fs.read outPath
  made : .downloaded ∈ events → ∃ contents, fs'.read outPath = some contents ∧ MadeBy call outPath contents
  names : ∀ p, p ≠ outPath → fs.node p = none → fs'.node p = none
  clear : Clear outPath fs'

theorem Clear.of_node (hclear : Clear outPath fs) (htmp : outPath.withSuffix ".tmp" = some tmpPath)
    (hnode : fs'.node tmpPath = none) : Clear outPath fs' := by
  intro tmpPath' htmp'
  obtain rfl : tmpPath = tmpPath' := Option.some.inj (htmp.symm.trans htmp')
  exact ⟨(hclear tmpPath htmp).1, Fs.aside_of_none hnode⟩

theorem Leaves.refl {call : Call} (hclear : Clear outPath fs) : Leaves call outPath fs [] fs where
  kept _ := rfl
  made h := absurd h List.not_mem_nil
  names _ _ h := h
  clear := hclear

theorem Leaves.of_discarded {call : Call} (hclear : Clear outPath fs)
    (htmp : outPath.withSuffix ".tmp" = some tmpPath)
    (h : Discarded fs tmpPath fs') : Leaves call outPath fs [] fs' := by
  have huntouched := h.untouched (hclear tmpPath htmp).2
  refine ⟨fun _ => huntouched.contents, fun hmem => absurd hmem List.not_mem_nil, fun p _ =>
    huntouched.names p, ?_⟩
  rcases h with rfl | ⟨tried, -, hunlink⟩
  · exact hclear
  · exact hclear.of_node htmp (Fs.node_of_unlink hunlink)

/-- A download that is in place, and has been edited. -/
theorem Leaves.of_placed {call : Call} {host : Host} {events : List Event} (hclear : Clear outPath fs)
    (htmp : outPath.withSuffix ".tmp" = some tmpPath) (hpublished : Published call.surroundings.sums digest)
    (hplaced : Placed call.surroundings fs tmpPath outPath digest fs')
    (hedited : EditedFrom fs' outPath (call.edits outPath) host.fs) (hevents : .downloaded ∈ events) :
    Leaves call outPath fs events host.fs := by
  obtain ⟨hne, haside⟩ := hclear tmpPath htmp
  obtain ⟨fetched, hwrite, hrename⟩ := hplaced.renamed
  obtain ⟨hfree, hnames⟩ := haside.node_publish hne hwrite hrename
  constructor
  case kept =>
    intro hnot
    exact absurd hevents hnot
  case made =>
    intro _
    refine ⟨_, hedited.contents _ (haside.read_publish hwrite hrename), rfl, ?_⟩
    rwa [hplaced.verified]
  case names =>
    intro p hp hnode
    rw [hedited.node]
    exact hnames p hp hnode
  case clear =>
    apply hclear.of_node htmp
    rw [hedited.node]
    exact hfree

theorem prepare_leaves {call : Call} (hclear : Clear outPath fs) :
    Ends ⟨fs, []⟩ (prepare call.surroundings (some outPath) call.customize call.force)
      (fun _ host => Leaves call outPath fs host.events host.fs)
      (fun _ host => Leaves call outPath fs host.events host.fs) := by
  unfold prepare
  refine Ends.bind (fetchImage_ends.mono (fun _ _ h => h) ?_) ?_
  · rintro e ⟨fs', events⟩ ⟨rfl, rfl | ⟨-, tmpPath, htmp, hdiscarded⟩⟩
    · exact .refl hclear
    · exact .of_discarded hclear htmp hdiscarded
  rintro downloaded ⟨fs', events⟩ h
  cases downloaded with
  | false =>
    -- the image that was there
    obtain ⟨-, hsame⟩ := h
    cases hsame
    exact Ends.pure (.refl hclear)
  | true =>
    obtain ⟨-, hevents, tmpPath, digest, htmp, hpublished, hplaced⟩ := h
    have hmem : .downloaded ∈ events := by simp [show events = [.downloaded] from hevents]
    split
    · rename_i hcustomize
      have hleaves : ∀ host : Host, .downloaded ∈ host.events →
          EditedFrom fs' outPath (toolEdits call.surroundings outPath) host.fs →
          Leaves call outPath fs host.events host.fs := by
        intro host hhost hedited
        refine .of_placed hclear htmp hpublished hplaced ?_ hhost
        rwa [Call.edits, if_pos ((Bool.and_eq_true _ _).mp hcustomize).2]
      refine Ends.bind (P := fun _ host => Leaves call outPath fs host.events host.fs)
        ((runVirtCustomize_ends.and runVirtCustomize_edits).mono ?_ ?_) ?_
      · rintro _ host ⟨hlogged, hedited⟩
        apply hleaves host _ hedited
        rw [hlogged]
        exact List.mem_append_left _ hmem
      · rintro _ host ⟨hlogged, hedited⟩
        apply hleaves host _ hedited
        rwa [hlogged]
      · intro _ _ h
        exact Ends.pure h
    · rename_i hcustomize
      have hrefl : EditedFrom fs' outPath (call.edits outPath) (Host.mk fs' events).fs := by
        rw [Bool.true_and] at hcustomize
        rw [Call.edits, if_neg hcustomize]
        exact .refl
      exact Ends.pure (.of_placed hclear htmp hpublished hplaced hrefl hmem)

/-- **Whatever goes wrong in a call, this is what it leaves behind.** -/
theorem report_leaves {call : Call} (hclear : Clear outPath fs) :
    Leaves call outPath fs (report outPath call fs).events (report outPath call fs).after := by
  have hends : Ends _ (prepare call.surroundings _ _ _) _ _ := prepare_leaves hclear
  unfold Ends at hends
  unfold report
  dsimp only
  split at hends
  all_goals
    rename_i hrun
    rw [hrun]
    exact hends

/-! ## All calls -/

/-- The files after the calls. -/
def filesAfter (outPath : Path) (calls : List Call) (fs : Fs Path) : Fs Path :=
  calls.foldl (fun fs call => (report outPath call fs).after) fs

theorem lastDownload_cons {rs : List Report} {r d : Report} (h : LastDownload (r :: rs) d) :
    LastDownload rs d ∨ (d = r ∧ .downloaded ∈ r.events ∧ ∀ s ∈ rs, .downloaded ∉ s.events) := by
  obtain ⟨earlier, later, hrs, hd, hlater⟩ := h
  cases earlier with
  | nil =>
    obtain ⟨rfl, rfl⟩ := List.cons.inj hrs
    exact .inr ⟨rfl, hd, hlater⟩
  | cons e earlier =>
    obtain ⟨-, rfl⟩ := List.cons.inj hrs
    exact .inl ⟨earlier, later, rfl, hd, hlater⟩

/-- Calls that have not downloaded have left the image. -/
theorem read_filesAfter {calls : List Call} (hclear : Clear outPath fs)
    (hnone : ∀ r ∈ reports outPath calls fs, .downloaded ∉ r.events) :
    (filesAfter outPath calls fs).read outPath = fs.read outPath := by
  induction calls generalizing fs with
  | nil => rfl
  | cons call calls ih =>
    obtain ⟨hcall, hcalls⟩ := List.forall_mem_cons.mp hnone
    have hleaves : Leaves call outPath fs _ _ := report_leaves hclear
    calc (filesAfter outPath calls (report outPath call fs).after).read outPath
      _ = (report outPath call fs).after.read outPath := ih hleaves.clear hcalls
      _ = fs.read outPath := hleaves.kept hcall

theorem made_filesAfter {calls : List Call} {d : Report} (hclear : Clear outPath fs)
    (hlast : LastDownload (reports outPath calls fs) d) :
    ∃ contents, (filesAfter outPath calls fs).read outPath = some contents ∧
      MadeBy d.call outPath contents := by
  induction calls generalizing fs with
  | nil =>
    obtain ⟨earlier, later, hrs, -⟩ := hlast
    exact absurd hrs.symm (by simp [reports])
  | cons call calls ih =>
    have hleaves : Leaves call outPath fs _ _ := report_leaves hclear
    rcases lastDownload_cons hlast with hlast | ⟨rfl, hdownloaded, hnone⟩
    · exact ih hleaves.clear hlast
    · obtain ⟨contents, hread, hmade⟩ := hleaves.made hdownloaded
      exact ⟨contents, (read_filesAfter hleaves.clear hnone).trans hread, hmade⟩

theorem node_filesAfter {calls : List Call} {p : Path} (hclear : Clear outPath fs) (hp : p ≠ outPath)
    (hnode : fs.node p = none) : (filesAfter outPath calls fs).node p = none := by
  induction calls generalizing fs with
  | nil => exact hnode
  | cons call calls ih =>
    have hleaves : Leaves call outPath fs _ _ := report_leaves hclear
    exact ih hleaves.clear (hleaves.names p hp hnode)

/-- **The image after any calls, each failing where it likes.** It is the one it was if none of them has
    downloaded, and otherwise what the last one that has downloaded has made of a download with the digest
    published to it. No other path has come up. -/
theorem image_of_calls (outPath : Path) (fs : Fs Path) (calls : List Call) (hclear : Clear outPath fs) :
    ((∀ r ∈ reports outPath calls fs, .downloaded ∉ r.events) →
        (filesAfter outPath calls fs).read outPath = fs.read outPath) ∧
      (∀ d, LastDownload (reports outPath calls fs) d →
        ∃ contents, (filesAfter outPath calls fs).read outPath = some contents ∧
          MadeBy d.call outPath contents) ∧
      ∀ p, p ≠ outPath → fs.node p = none → (filesAfter outPath calls fs).node p = none := by
  refine ⟨read_filesAfter hclear, ?_, ?_⟩
  · intro d hlast
    exact made_filesAfter hclear hlast
  · intro p hp hnode
    exact node_filesAfter hclear hp hnode

/-! ## A download that is cut off, and one that is not -/

def cutOff : Call := ⟨false, false, interrupted [0x51]⟩

theorem clear_nobleImage : Clear nobleImage emptyFs := by
  intro tmpPath htmp
  have hname : nobleImage.withSuffix ".tmp" = some ⟨"/srv/images", "noble.tmp"⟩ := by decide
  obtain rfl := Option.some.inj (hname.symm.trans htmp)
  exact ⟨by decide, Fs.aside_of_none rfl⟩

theorem image_of_cutOff :
    ∃ contents, (filesAfter nobleImage [cutOff, ⟨true, false, working⟩] emptyFs).read nobleImage =
      some contents ∧
      MadeBy ⟨true, false, working⟩ nobleImage contents := by
  have hlast : LastDownload (reports nobleImage [cutOff, ⟨true, false, working⟩] emptyFs)
      (report nobleImage ⟨true, false, working⟩ (report nobleImage cutOff emptyFs).after) := by
    refine ⟨[report nobleImage cutOff emptyFs], [], rfl, ?_, List.forall_mem_nil _⟩
    decide +kernel
  exact (image_of_calls nobleImage emptyFs [cutOff, ⟨true, false, working⟩] clear_nobleImage).2.1 _ hlast

end Vms
end HostConfig
