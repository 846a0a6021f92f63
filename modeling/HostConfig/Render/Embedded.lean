import HostConfig.Render.Emitter

/-!
# `Render.Embedded` — the Netplan document inside `user-data`

cloud-init never fetches `network-config` over HTTP, so `user-data` carries the same document as a
`write_files` entry. The two are written out separately in every role's templates. `netplanBlock` cuts the
embedded copy out of a rendered `user-data`, `embed` says what the copy of a document should be, and each
block of `NetworkConfig` embeds to the block of the same name in `UserData`.
-/

namespace HostConfig
namespace Render

open Models

/-! ## Cutting the block out -/

/-- The line that opens the `write_files` entry of the Netplan document. -/
def netplanPath : Line := ⟨2, .itemField "path" (.lit "/etc/netplan/60-lab.yaml")⟩

def networkKey : Line := ⟨6, .key (.lit "network")⟩

def runcmdKey : Line := ⟨0, .key (.lit "runcmd")⟩

/-- The lines up to the blank line before `runcmd:`. -/
def untilRuncmd : List Line → List Line
  | l :: next :: rest =>
      if l = .blank ∧ next = runcmdKey then [] else l :: untilRuncmd (next :: rest)
  | lines => lines

/-- The content of the entry `/etc/netplan/60-lab.yaml` in the lines of a `user-data`, from `network:` on. -/
def netplanBlock (userData : List Line) : List Line :=
  untilRuncmd ((userData.dropWhile (· ≠ netplanPath)).dropWhile (· ≠ networkKey))

theorem untilRuncmd_append {block : List Line} (hblock : ∀ l ∈ block, l.isBlank = false) (tail : List Line) :
    untilRuncmd (block ++ .blank :: runcmdKey :: tail) = block := by
  induction block with
  | nil => simp [untilRuncmd]
  | cons l rest ih =>
      obtain ⟨hblank, hrest⟩ := List.forall_mem_cons.mp hblock
      have hl : l ≠ .blank := fun h => absurd (h ▸ hblank) (by decide)
      cases rest with
      | nil => simp [untilRuncmd, hl]
      | cons next rest =>
          rw [List.cons_append, List.cons_append, untilRuncmd, if_neg (fun h => hl h.1)]
          exact congrArg _ (ih hrest)

/-! ## Embedding -/

/-- The non-blank lines of a document, six spaces further in. -/
def embed (doc : List Line) : List Line := (nonblank doc).map (Line.shift 6)

theorem embed_append (d d' : List Line) : embed (d ++ d') = embed d ++ embed d' := by
  rw [embed, nonblank_append, List.map_append]; rfl

theorem embed_flatMap {α : Type} (l : List α) (f : α → List Line) :
    embed (l.flatMap f) = l.flatMap (fun a => embed (f a)) := by
  rw [embed, nonblank_flatMap, List.map_flatMap]; rfl

/-- A loop that emits one non-blank line per element. -/
theorem embed_map {α : Type} (l : List α) (f : α → Line) (hf : ∀ a, (f a).isBlank = false) :
    embed (l.map f) = l.map (fun a => (f a).shift 6) := by
  rw [embed, nonblank_map l f hf, List.map_map]; rfl

theorem isBlank_of_mem_embed {doc : List Line} : ∀ l ∈ embed doc, l.isBlank = false := by
  intro l hl
  obtain ⟨l', hl', rfl⟩ := List.mem_map.mp hl
  exact isBlank_of_mem_nonblank l' hl'

/-- **The block is found**: behind the lines of other entries, and before the rest of the file. -/
theorem netplanBlock_embed {head doc : List Line} (hhead : netplanPath ∉ head)
    (hdoc : (embed doc).head? = some networkKey) (tail : List Line) :
    netplanBlock (head ++ (UserData.netplanEntry ++ (embed doc ++ .blank :: runcmdKey :: tail))) =
      embed doc := by
  obtain ⟨block, hblock⟩ := List.head?_eq_some_iff.mp hdoc
  have hpath : ∀ l ∈ head, decide (l ≠ netplanPath) = true := fun l hl =>
    decide_eq_true fun h => hhead (h ▸ hl)
  have hentry : (UserData.netplanEntry ++ (embed doc ++ .blank :: runcmdKey :: tail)).dropWhile
      (fun l => decide (l ≠ netplanPath)) = UserData.netplanEntry ++
        (embed doc ++ .blank :: runcmdKey :: tail) :=
    rfl
  have hkey : (UserData.netplanEntry ++ (embed doc ++ .blank :: runcmdKey :: tail)).dropWhile
      (fun l => decide (l ≠ networkKey)) = embed doc ++ .blank :: runcmdKey :: tail := by
    rw [hblock]; rfl
  rw [netplanBlock, List.dropWhile_append_of_pos hpath, hentry, hkey]
  exact untilRuncmd_append isBlank_of_mem_embed tail

/-! Block by block. -/

theorem embed_header : embed NetworkConfig.header = UserData.header := rfl

theorem embed_nsNic (nic : BondMember) : embed (NetworkConfig.nsNic nic) = UserData.nsNic nic := rfl

theorem embed_roceUnderlay (nic : RoceUnderlay) :
    embed (NetworkConfig.roceUnderlay nic) = UserData.roceUnderlay nic := rfl

theorem embed_ibUnderlay (nic : InfinibandUnderlay) :
    embed (NetworkConfig.ibUnderlay nic) = UserData.ibUnderlay nic := rfl

theorem embed_bonds (bond : Bond) : embed (NetworkConfig.bonds bond) = UserData.bonds bond := by
  rw [NetworkConfig.bonds, embed_append, embed_append, embed_map _ _ fun _ => rfl]
  rfl

theorem embed_routes (gateway : Option IPv4Address) :
    embed (NetworkConfig.routes gateway) = UserData.routes gateway := by
  cases gateway <;> rfl

theorem embed_search (searchDomain : Option String) :
    embed (NetworkConfig.search searchDomain) = UserData.search searchDomain := by
  cases searchDomain <;> rfl

theorem embed_nameservers (dns : List IPv4Address) (searchDomain : Option String) :
    embed (NetworkConfig.nameservers dns searchDomain) = UserData.nameservers dns searchDomain := by
  unfold NetworkConfig.nameservers UserData.nameservers
  split
  · rfl
  · rw [embed_append, embed_append, embed_map _ _ fun _ => rfl, embed_search]
    rfl

theorem embed_vlan (vlan : VlanChild) : embed (NetworkConfig.vlan vlan) = UserData.vlan vlan := by
  rw [NetworkConfig.vlan, embed_append, embed_append, embed_routes, embed_nameservers]
  rfl

theorem embed_vlansHeader : embed NetworkConfig.vlansHeader = UserData.vlansHeader := rfl

/-! Template by template. -/

theorem embed_cpu (ctx : HostIntentFields) :
    embed (Cpu.networkConfig ctx) =
      UserData.header ++ ctx.nsNics.flatMap UserData.nsNic ++ UserData.bonds ctx.bond ++
        UserData.vlansHeader ++
        ctx.vlans.flatMap UserData.vlan := by
  simp only [Cpu.networkConfig, embed_append, embed_flatMap, embed_header, embed_nsNic, embed_bonds,
    embed_vlansHeader, embed_vlan]

theorem embed_roce (ctx : HostIntentFields) :
    embed (roceNetworkConfig ctx) =
      UserData.header ++ ctx.nsNics.flatMap UserData.nsNic ++
        ctx.roceUnderlays.flatMap UserData.roceUnderlay ++
        UserData.bonds ctx.bond ++ UserData.vlansHeader ++ ctx.vlans.flatMap UserData.vlan := by
  simp only [roceNetworkConfig, embed_append, embed_flatMap, embed_header, embed_nsNic, embed_roceUnderlay,
    embed_bonds, embed_vlansHeader, embed_vlan]

theorem embed_h200 (ctx : HostIntentFields) :
    embed (GpuH200.networkConfig ctx) =
      UserData.header ++ ctx.nsNics.flatMap UserData.nsNic ++ ctx.ibUnderlays.flatMap UserData.ibUnderlay ++
        UserData.bonds ctx.bond ++ UserData.vlansHeader ++ ctx.vlans.flatMap UserData.vlan := by
  simp only [GpuH200.networkConfig, embed_append, embed_flatMap, embed_header, embed_nsNic, embed_ibUnderlay,
    embed_bonds, embed_vlansHeader, embed_vlan]

/-- The lines of a `user-data` from `preserve_hostname` to `write_files:`. -/
def writeFilesHead (role : Role) : List Line :=
  match role with
  | .cpu => [.blank, ⟨0, .field "preserve_hostname" (.lit "false")⟩, .blank, ⟨0, .key (.lit "write_files")⟩]
  | .gpuB300 | .gpuB200 | .gpuH200 =>
      [⟨0, .field "preserve_hostname" (.lit "false")⟩, .blank, ⟨0, .key (.lit "write_files")⟩]

/-- The other `write_files` entries, which come before the Netplan document. -/
def otherEntries (role : Role) : List Line :=
  match role with
  | .cpu => []
  | .gpuB300 | .gpuB200 => UserData.memlockEntry "# Unlimited locked memory for RDMA / Soft-RoCE (rdma_rxe)."
  | .gpuH200 =>
      UserData.memlockEntry "# Unlimited locked memory for InfiniBand / RDMA verbs." ++
        UserData.infinibandEntry

/-- The lines of a `user-data` before the entry of the Netplan document. -/
def beforeNetplan (role : Role) (ctx : HostIntentFields) : List Line :=
  UserData.identity ctx ++ (writeFilesHead role ++ otherEntries role)

/-- The lines of a `user-data` after `runcmd:`. -/
def runcmd (role : Role) (ctx : HostIntentFields) : List Line :=
  match role with
  | .cpu => [⟨2, .item (.lit "netplan apply")⟩]
  | .gpuB300 | .gpuB200 =>
      (roceRuncmdHead role.value).tail ++ ctx.roceUnderlays.flatMap rdmaLinkAdd ++ roceRuncmdTail
  | .gpuH200 => h200Runcmd.tail

/-- **The shape of a `user-data`**: what comes first, the entry of the Netplan document with the embedded
    `network-config` as its content, a blank line, and `runcmd`. -/
theorem userData_eq (role : Role) (ctx : HostIntentFields) :
    template role .userData ctx =
      beforeNetplan role ctx ++ (UserData.netplanEntry ++
        (embed (template role .networkConfig ctx) ++ .blank :: runcmdKey :: runcmd role ctx)) := by
  cases role with
  | cpu =>
      simp only [template, embed_cpu, Cpu.userData, beforeNetplan, writeFilesHead, otherEntries,
        List.append_assoc]
      rfl
  | gpuB300 | gpuB200 =>
      simp only [template, GpuB300.networkConfig, GpuB200.networkConfig, embed_roce, GpuB300.userData,
        GpuB200.userData, roceUserData, beforeNetplan, writeFilesHead, otherEntries, runcmd,
          List.append_assoc]
      rfl
  | gpuH200 =>
      simp only [template, embed_h200, GpuH200.userData, beforeNetplan, writeFilesHead, otherEntries,
        List.append_assoc]
      rfl

theorem netplanPath_notMem_beforeNetplan (role : Role) (ctx : HostIntentFields) :
    netplanPath ∉ beforeNetplan role ctx := by
  cases role <;>
    simp [netplanPath, beforeNetplan, writeFilesHead, otherEntries, UserData.identity, UserData.memlockEntry,
      UserData.infinibandEntry, text,
      Line.blank]

theorem embed_networkConfig_head? (role : Role) (ctx : HostIntentFields) :
    (embed (template role .networkConfig ctx)).head? = some networkKey := by
  cases role <;> rfl

/-- **The embedded Netplan document is `network-config`**: for every intent of every role, the lines of the
    entry `/etc/netplan/60-lab.yaml` are the non-blank lines of `network-config`, six spaces further in. -/
theorem netplanBlock_userData (i : HostIntent) :
    netplanBlock (renderLines i.toHostIntentFields .userData) =
      (nonblank (renderLines i.toHostIntentFields .networkConfig)).map (Line.shift 6) := by
  rw [renderLines, userData_eq]
  exact netplanBlock_embed (netplanPath_notMem_beforeNetplan _ _) (embed_networkConfig_head? _ _) _

end Render
end HostConfig
