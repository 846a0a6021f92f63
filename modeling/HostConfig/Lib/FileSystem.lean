import Mathlib.Logic.Function.Basic
import Mathlib.Data.Option.Basic

/-!
# `Lib.FileSystem` — names, files and symbolic links

A name stands for a file (its inode, so two names can stand for one file), for a directory, or for a
symbolic link to another name. Reading, writing and asking whether something is there go through links;
removing and renaming do not.

The last part is about one way to use them: new contents are written to a name `tmp` and then renamed to
`out`, or thrown away. `Aside` says when `tmp` is fit for it: thrown away, the file at `out` is untouched
and no name is left behind (`Aside.untouched_discard`), and a rename publishes what was written
(`Aside.read_rename`). When `tmp` is not aside, some contents thrown away do damage (`exists_damage`).
-/

namespace FileSystem

/-- What stands under a name. A link to a name in a directory that does not exist leads nowhere. -/
inductive Node (ν : Type)
  | file (ino : Nat)
  | directory
  | link (target : Option ν)
deriving DecidableEq

def Node.ino? {ν : Type} : Node ν → Option Nat
  | .file ino => some ino
  | _         => none

variable {ν : Type}

/-- The name at the end of the links from `p`, if it is reached over fewer than `n` links. -/
def follow (node : ν → Option (Node ν)) : Nat → ν → Option ν
  | 0,     _ => none
  | n + 1, p =>
      match node p with
      | some (.link target) => target.bind (follow node n)
      | _                   => some p

/-! ## Following links -/

section

variable {node : ν → Option (Node ν)}

/-- A link is followed to its target, -/
theorem follow_link {n : Nat} {p q : ν} (h : node p = some (.link (some q))) :
    follow node (n + 1) p = follow node n q := by
  rw [follow, h]
  rfl

/-- anything else is where the way ends. -/
theorem follow_end {n : Nat} {p : ν} (h : ∀ target, node p ≠ some (.link target)) :
    follow node (n + 1) p = some p := by
  unfold follow
  split
  · rename_i target hp
    exact absurd hp (h target)
  · rfl

/-- The links from a name end at once, or the name is a link and they end where those of its target do. -/
theorem follow_cases {n : Nat} {p r : ν} (h : follow node (n + 1) p = some r) :
    (r = p ∧ ∀ target, node p ≠ some (.link target)) ∨ ∃ q, node p = some (.link (some q)) ∧
      follow node n q = some r := by
  unfold follow at h
  split at h
  · rename_i target hp
    obtain ⟨q, rfl, hq⟩ := Option.bind_eq_some_iff.mp h
    exact .inr ⟨q, hp, hq⟩
  · rename_i hp
    exact .inl ⟨(Option.some.inj h).symm, fun target htarget => hp target htarget⟩

/-- More steps do not lead past the end. -/
theorem follow_mono {n m : Nat} {p r : ν} (h : follow node n p = some r) (hnm : n ≤ m) :
    follow node m p = some r := by
  induction n generalizing m p with
  | zero => cases h
  | succ n ih =>
    obtain ⟨m, rfl⟩ : ∃ k, m = k + 1 := ⟨m - 1, by omega⟩
    rcases follow_cases h with ⟨rfl, hp⟩ | ⟨q, hp, hq⟩
    · exact follow_end hp
    · rw [follow_link hp]
      exact ih hq (by omega)

variable [DecidableEq ν]

/-- When one name changes its meaning, links that do not come to it lead where they led before. Links that
    come to it lead where it leads, before and after. -/
theorem follow_update (node : ν → Option (Node ν)) (t : ν) (x : Option (Node ν)) (n : Nat) (p : ν) :
    (follow (Function.update node t x) n p = follow node n p ∧ follow node n p ≠ some t) ∨
      ∃ m ≤ n, follow node n p = follow node m t ∧
        follow (Function.update node t x) n p = follow (Function.update node t x) m t := by
  induction n generalizing p with
  | zero => exact .inl ⟨rfl, by simp [follow]⟩
  | succ n ih =>
    by_cases hpt : p = t
    · -- the links have come to the name, with `n + 1` to go
      subst hpt
      exact .inr ⟨n + 1, Nat.le_refl _, rfl, rfl⟩
    have hsame : Function.update node t x p = node p := Function.update_of_ne hpt _ _
    by_cases hlink : ∃ target, node p = some (.link target)
    · obtain ⟨target, hp⟩ := hlink
      cases target with
      | none => exact .inl (by simp [follow, hsame, hp])
      | some q =>
        rw [follow_link hp, follow_link (hsame.trans hp)]
        rcases ih q with h | ⟨m, hm, h⟩
        · exact .inl h
        · exact .inr ⟨m, by omega, h⟩
    · have hp := not_exists.mp hlink
      left
      rw [follow_end hp, follow_end (hsame ▸ hp)]
      exact ⟨rfl, by simpa using hpt⟩

/-- From the target of a link that leads to an end, the way to the end does not come back to the link. -/
theorem follow_target {t q r : ν} (x : Option (Node ν)) (ht : node t = some (.link (some q))) {n : Nat}
    (h : follow node n t = some r) :
    ∃ k < n, follow node k q = some r ∧ follow (Function.update node t x) k q = some r := by
  induction n using Nat.strongRecOn with
  | ind n ih =>
    cases n with
    | zero => cases h
    | succ n =>
      rw [follow_link ht] at h
      rcases follow_update node t x n q with ⟨hsame, -⟩ | ⟨m, hm, hthrough, -⟩
      · exact ⟨n, by omega, h, hsame.trans h⟩
      · -- a way that comes back has made a loop: go on from where it came back, with fewer links to go
        obtain ⟨k, hk, hends⟩ := ih m (by omega) (hthrough ▸ h)
        exact ⟨k, by omega, hends⟩

end

/-! ## File systems -/

/-- How many links the kernel follows. -/
def maxLinks : Nat := 40

/-- Names, and the bytes of the files; `next` is an inode above all that are in use. -/
structure Fs (ν : Type) where
  node : ν → Option (Node ν)
  bytes : Nat → List UInt8
  next : Nat
  lt_next : ∀ p ino, node p = some (.file ino) → ino < next

namespace Fs

variable (fs : Fs ν)

/-- The name that opening `p` opens. -/
def resolve (p : ν) : Option ν := follow fs.node (maxLinks + 1) p

/-- The file `p` leads to. -/
def inode (p : ν) : Option Nat := ((fs.resolve p).bind fs.node).bind Node.ino?

/-- The contents of the file `p` leads to. -/
def read (p : ν) : Option (List UInt8) := (fs.inode p).map fs.bytes

/-- `p` leads to something. -/
def present (p : ν) : Bool := ((fs.resolve p).bind fs.node).isSome

/-- `p` and `q` lead to one file. -/
def SameFile (p q : ν) : Prop := ∃ ino, fs.inode p = some ino ∧ fs.inode q = some ino

/-- `p` is a link to a name under which there is nothing. -/
def Dangling (p : ν) : Prop := ∃ q, fs.resolve p = some q ∧ q ≠ p ∧ fs.node q = none

section

variable {fs : Fs ν} {p q : ν} {ino : Nat}

/-- A path has an inode if it leads to a file. -/
theorem inode_eq_some_iff : fs.inode p = some ino ↔ ∃ q, fs.resolve p = some q ∧
    fs.node q = some (.file ino) := by
  unfold inode
  constructor
  · intro h
    obtain ⟨entry, hentry, hino⟩ := Option.bind_eq_some_iff.mp h
    obtain ⟨q, hq, hnode⟩ := Option.bind_eq_some_iff.mp hentry
    cases entry with
    | file ino' =>
      cases hino
      exact ⟨q, hq, hnode⟩
    | directory => cases hino
    | link target => cases hino
  · rintro ⟨q, hq, hnode⟩
    rw [hq, Option.bind_some, hnode]
    rfl

/-- The next inode is of no file yet. -/
theorem lt_next_of_inode (h : fs.inode p = some ino) : ino < fs.next := by
  obtain ⟨q, -, hq⟩ := inode_eq_some_iff.mp h
  exact fs.lt_next q ino hq

/-- Reading goes to the inode. -/
theorem read_of_inode (h : fs.inode p = some ino) : fs.read p = some (fs.bytes ino) := by
  unfold read
  rw [h]
  rfl

theorem resolve_of_not_link (h : ∀ target, fs.node p ≠ some (.link target)) :
    fs.resolve p = some p := follow_end h

/-- Only a link leads elsewhere. -/
theorem link_of_resolve_ne (h : fs.resolve p = some q) (hne : q ≠ p) :
    ∃ target, fs.node p = some (.link target) := by
  rcases follow_cases h with ⟨hqp, -⟩ | ⟨r, hr, -⟩
  · exact absurd hqp hne
  · exact ⟨some r, hr⟩

end

/-! ## The operations -/

def setBytes (ino : Nat) (contents : List UInt8) : Fs ν :=
  { fs with bytes := Function.update fs.bytes ino contents }

/-- Writing bytes to an inode moves no name. -/
@[simp] theorem inode_setBytes (ino : Nat) (contents : List UInt8) (p : ν) :
    (fs.setBytes ino contents).inode p = fs.inode p := rfl

variable [DecidableEq ν]

/-- A new file under a name. -/
def create (p : ν) (contents : List UInt8) : Fs ν where
  node := Function.update fs.node p (some (.file fs.next))
  bytes := Function.update fs.bytes fs.next contents
  next := fs.next + 1
  lt_next := by
    intro q ino hq
    by_cases hqp : q = p
    · subst hqp
      rw [Function.update_self] at hq
      cases hq
      omega
    · rw [Function.update_of_ne hqp] at hq
      have hlt := fs.lt_next q ino hq
      omega

/-- Nothing under a name. -/
def clear (p : ν) : Fs ν where
  node := Function.update fs.node p none
  bytes := fs.bytes
  next := fs.next
  lt_next := by
    intro q ino hq
    by_cases hqp : q = p
    · subst hqp
      rw [Function.update_self] at hq
      cases hq
    · rw [Function.update_of_ne hqp] at hq
      exact fs.lt_next q ino hq

/-- What is under `p`, under `q` instead. -/
def move (p q : ν) : Fs ν where
  node := Function.update (Function.update fs.node q (fs.node p)) p none
  bytes := fs.bytes
  next := fs.next
  lt_next := by
    intro r ino hr
    by_cases hrp : r = p
    · subst hrp
      rw [Function.update_self] at hr
      cases hr
    rw [Function.update_of_ne hrp] at hr
    by_cases hrq : r = q
    · subst hrq
      rw [Function.update_self] at hr
      exact fs.lt_next p ino hr
    · rw [Function.update_of_ne hrq] at hr
      exact fs.lt_next r ino hr

/-- Open for writing, write `contents`, close: a file that is there is truncated first. -/
def write (p : ν) (contents : List UInt8) : Option (Fs ν) :=
  match fs.resolve p with
  | none   => none
  | some q =>
      match fs.node q with
      -- through a link, the file is made where the link leads
      | none             => some (fs.create q contents)
      | some (.file ino) => some (fs.setBytes ino contents)
      | some _           => none

/-- `unlink`; that there is nothing is no failure. -/
def unlink (p : ν) : Option (Fs ν) :=
  match fs.node p with
  | none            => some fs
  | some .directory => none
  | some _          => some (fs.clear p)

/-- `rename`, of a file or a link: over two names of one file it does nothing. -/
def rename (p q : ν) : Option (Fs ν) :=
  match fs.node p with
  | none            => none
  | some .directory => none
  | some entry      =>
      if p = q ∨ (entry.ino?.isSome ∧ fs.node q = some entry) then some fs
      else if fs.node q = some .directory then none
      else some (fs.move p q)

/-! ## What the operations do -/

variable {fs} {fs' : Fs ν} {p q t : ν} {ino : Nat} {contents : List UInt8}

/-- A write goes to the file that is there, or makes one where the path leads. -/
theorem write_cases (h : fs.write p contents = some fs') :
    (∃ ino, fs.inode p = some ino ∧ fs' = fs.setBytes ino contents) ∨
      ∃ q, fs.resolve p = some q ∧ fs.node q = none ∧ fs' = fs.create q contents := by
  unfold write at h
  split at h
  · cases h
  rename_i q hq
  split at h
  · rename_i hnode
    exact .inr ⟨q, hq, hnode, (Option.some.inj h).symm⟩
  · rename_i ino hnode
    exact .inl ⟨ino, inode_eq_some_iff.mpr ⟨q, hq, hnode⟩, (Option.some.inj h).symm⟩
  · cases h

theorem write_of_inode (h : fs.inode p = some ino) :
    fs.write p contents = some (fs.setBytes ino contents) := by
  obtain ⟨q, hq, hnode⟩ := inode_eq_some_iff.mp h
  simp [write, hq, hnode]

theorem write_of_free (h : fs.resolve p = some q) (hfree : fs.node q = none) :
    fs.write p contents = some (fs.create q contents) := by
  simp [write, h, hfree]

/-- A file that is created at the end of the links from `p` is the one `p` leads to. -/
theorem inode_create (h : fs.resolve p = some q) : (fs.create q contents).inode p = some fs.next := by
  have hq : (fs.create q contents).node q = some (.file fs.next) := Function.update_self _ _ _
  refine inode_eq_some_iff.mpr ⟨q, ?_, hq⟩
  rcases follow_update fs.node q (some (.file fs.next)) (maxLinks + 1) p with ⟨-, hne⟩ |
    ⟨m, -, hthrough, hthrough'⟩
  · exact absurd h hne
  · rw [show follow fs.node (maxLinks + 1) p = some q from h] at hthrough
    cases m with
    | zero => cases hthrough
    | succ m => exact hthrough'.trans (follow_end (by simp))

/-- What is written is read back. -/
theorem read_write (h : fs.write p contents = some fs') : fs'.read p = some contents := by
  rcases write_cases h with ⟨ino, hino, rfl⟩ | ⟨q, hq, -, rfl⟩
  · have hsame : (fs.setBytes ino contents).inode p = some ino := hino
    rw [read_of_inode hsame]
    simp [setBytes]
  · rw [read_of_inode (inode_create hq)]
    simp [create]

/-- A name leads where it led, or has led over the name that is gone. -/
theorem inode_clear_cases (fs : Fs ν) (t p : ν) :
    (fs.clear t).inode p = fs.inode p ∨
      ((fs.clear t).inode p = none ∧ ∀ ino, fs.inode p = some ino → fs.inode t = some ino) := by
  -- the links from `p` do not come to `t`, or they do and end there now
  rcases follow_update fs.node t none (maxLinks + 1) p with ⟨hsame, hne⟩ | ⟨m, hm, hthrough, hthrough'⟩
  · left
    show ((follow (fs.clear t).node _ p).bind (fs.clear t).node).bind Node.ino? = _
    rw [show follow (fs.clear t).node (maxLinks + 1) p = fs.resolve p from hsame]
    unfold inode
    cases hq : fs.resolve p with
    | none => rfl
    | some q =>
      have hqt : q ≠ t := by
        intro hqt
        exact hne (hq.trans (congrArg some hqt))
      rw [Option.bind_some, Option.bind_some]
      exact congrArg (Option.bind · Node.ino?) (Function.update_of_ne hqt _ _)
  · right
    constructor
    · rw [← Option.not_isSome_iff_eq_none]
      intro hsome
      obtain ⟨ino, hino⟩ := Option.isSome_iff_exists.mp hsome
      obtain ⟨q, hq, hnode⟩ := inode_eq_some_iff.mp hino
      rw [show (fs.clear t).resolve p = _ from hthrough'] at hq
      have hcleared : (fs.clear t).node t = none := Function.update_self _ _ _
      cases m with
      | zero => cases hq
      | succ m =>
        rcases follow_cases hq with ⟨rfl, -⟩ | ⟨r, hr, -⟩
        · rw [hcleared] at hnode
          cases hnode
        · rw [show Function.update fs.node t none t = none from hcleared] at hr
          cases hr
    · intro ino hino
      obtain ⟨q, hq, hnode⟩ := inode_eq_some_iff.mp hino
      exact inode_eq_some_iff.mpr ⟨q, follow_mono (hthrough.symm.trans hq) hm, hnode⟩

/-- Removing a name leaves every path that does not lead there. -/
theorem inode_clear (h : ¬ fs.SameFile t p) : (fs.clear t).inode p = fs.inode p := by
  rcases inode_clear_cases fs t p with hsame | ⟨hnone, hthrough⟩
  · exact hsame
  · rw [hnone, eq_comm, ← Option.not_isSome_iff_eq_none]
    intro hsome
    obtain ⟨ino, hino⟩ := Option.isSome_iff_exists.mp hsome
    exact h ⟨ino, hthrough ino hino, hino⟩

/-- A removed name cannot be read. -/
theorem read_clear_self (fs : Fs ν) (p : ν) : (fs.clear p).read p = none := by
  have hnode : (fs.clear p).node p = none := Function.update_self _ _ _
  have hself : (fs.clear p).resolve p = some p := resolve_of_not_link (by simp [hnode])
  unfold read inode
  rw [hself, Option.bind_some, hnode]
  rfl

/-- Unlinking removes the name, if there is one. -/
theorem unlink_cases (h : fs.unlink p = some fs') : fs' = fs ∨ fs' = fs.clear p := by
  unfold unlink at h
  split at h
  · exact .inl (Option.some.inj h).symm
  · cases h
  · exact .inr (Option.some.inj h).symm

/-- What has been written to can be removed. -/
theorem unlink_write (h : fs.write p contents = some fs') : fs'.unlink p = some (fs'.clear p) := by
  have hnode : ∃ entry, fs'.node p = some entry ∧ entry ≠ .directory := by
    rcases write_cases h with ⟨ino, hino, rfl⟩ | ⟨q, hq, hfree, rfl⟩
    · obtain ⟨q, hq, hnode⟩ := inode_eq_some_iff.mp hino
      by_cases hqp : q = p
      · exact ⟨_, hqp ▸ hnode, by simp⟩
      · obtain ⟨target, htarget⟩ := link_of_resolve_ne hq hqp
        exact ⟨_, htarget, by simp⟩
    · by_cases hqp : q = p
      · subst hqp
        exact ⟨_, Function.update_self _ _ _, by simp⟩
      · obtain ⟨target, htarget⟩ := link_of_resolve_ne hq hqp
        exact ⟨_, (Function.update_of_ne (Ne.symm hqp) _ _).trans htarget, by simp⟩
  obtain ⟨entry, hentry, hne⟩ := hnode
  cases entry with
  | directory => exact absurd rfl hne
  | file ino => simp [unlink, hentry]
  | link target => simp [unlink, hentry]

/-- Renaming moves the name, but for two names of one file: then nothing happens. -/
theorem rename_cases (h : fs.rename p q = some fs') :
    (fs' = fs ∧ (p = q ∨ ∃ ino, fs.node p = some (.file ino) ∧ fs.node q = some (.file ino))) ∨
      (fs' = fs.move p q ∧ p ≠ q) := by
  unfold rename at h
  split at h
  · cases h
  · cases h
  rename_i entry _ hentry
  split at h
  · rename_i hsame
    refine .inl ⟨(Option.some.inj h).symm, ?_⟩
    rcases hsame with hpq | ⟨hino, hq⟩
    · exact .inl hpq
    · cases entry with
      | file ino => exact .inr ⟨ino, hentry, hq⟩
      | directory => cases hino
      | link target => cases hino
  · rename_i hother
    split at h
    · cases h
    · exact .inr ⟨(Option.some.inj h).symm, fun hpq => hother (.inl hpq)⟩

/-! ## Contents on trial under a name of their own -/

/-- The file at `out` is what it was, and there is no name that was not there. -/
structure Untouched (fs fs' : Fs ν) (out : ν) : Prop where
  contents : fs'.read out = fs.read out
  names : ∀ p, fs.node p = none → fs'.node p = none

/-- Contents can be tried out under `tmp` with no harm to `out`. -/
structure Aside (fs : Fs ν) (tmp out : ν) : Prop where
  direct : ¬ fs.Dangling tmp
  apart : ¬ fs.SameFile tmp out

variable {tmp out : ν}

omit [DecidableEq ν] in
theorem Untouched.refl (fs : Fs ν) (out : ν) : Untouched fs fs out := ⟨rfl, fun _ h => h⟩

/-- Removing a name leaves the others, -/
theorem node_clear_of_ne (h : p ≠ t) : (fs.clear t).node p = fs.node p := Function.update_of_ne h _ _

theorem node_clear_of_none (h : fs.node p = none) : (fs.clear t).node p = none := by
  by_cases hpt : p = t
  · subst hpt
    exact Function.update_self _ _ _
  · exact (node_clear_of_ne hpt).trans h

/-- and the contents under every path that does not lead there. -/
theorem untouched_clear (h : ¬ fs.SameFile tmp out) : Untouched fs (fs.clear tmp) out where
  contents := by
    unfold read
    rw [inode_clear h]
    rfl
  names := fun _ hp => node_clear_of_none hp

/-- Unlinking a path aside of another one leaves the other untouched. -/
theorem Aside.untouched_unlink (h : fs.Aside tmp out) (hunlink : fs.unlink tmp = some fs') :
    Untouched fs fs' out := by
  rcases unlink_cases hunlink with rfl | rfl
  · exact Untouched.refl _ _
  · exact untouched_clear h.apart

/-- **Thrown away.** What was written to a name aside and removed again has never been. -/
theorem Aside.untouched_discard (h : fs.Aside tmp out) (hwrite : fs.write tmp contents = some fs') :
    Untouched fs (fs'.clear tmp) out := by
  rcases write_cases hwrite with ⟨ino, hino, rfl⟩ | ⟨q, hq, hfree, rfl⟩
  · have hapart : ¬ (fs.setBytes ino contents).SameFile tmp out := h.apart
    refine ⟨?_, (untouched_clear hapart).names⟩
    rw [(untouched_clear hapart).contents]
    -- another file than the one at `out` has been written to
    unfold read
    rw [inode_setBytes]
    cases hout : fs.inode out with
    | none => rfl
    | some ino' =>
      have hne : ino' ≠ ino := by
        rintro rfl
        exact h.apart ⟨ino', hino, hout⟩
      exact congrArg some (Function.update_of_ne hne _ _)
  · -- the name is free, so the file is created under `tmp` itself, and only its bytes stay behind, under an inode
    -- that no name has
    have hqt : q = tmp := by
      by_contra hne
      exact h.direct ⟨q, hq, hne, hfree⟩
    subst hqt
    have hnode : ((fs.create q contents).clear q).node = fs.node := by
      show Function.update (Function.update fs.node q _) q none = fs.node
      rw [Function.update_idem, ← hfree, Function.update_eq_self]
    have hinode : ((fs.create q contents).clear q).inode out = fs.inode out := by
      unfold inode resolve
      rw [hnode]
    refine ⟨?_, fun p hp => hnode ▸ hp⟩
    unfold read
    rw [hinode]
    cases hout : fs.inode out with
    | none => rfl
    | some ino =>
      have hlt := lt_next_of_inode hout
      exact congrArg some (Function.update_of_ne (by omega) _ _)

/-- A file moved to `out` is the file at `out`. -/
theorem inode_move_file (hne : p ≠ q) (h : fs.node p = some (.file ino)) :
    (fs.move p q).inode q = some ino := by
  have hq : (fs.move p q).node q = some (.file ino) := by
    show Function.update (Function.update fs.node q _) p none q = _
    rw [Function.update_of_ne (Ne.symm hne), Function.update_self, h]
  exact inode_eq_some_iff.mpr ⟨q, resolve_of_not_link (by simp [hq]), hq⟩

/-- A link moved to `out` leads from there where it led, if that is not the file at `out`. -/
theorem inode_move_link {target : Option ν} (hne : p ≠ q) (h : fs.node p = some (.link target))
    (hino : fs.inode p = some ino) (happart : ¬ fs.SameFile p q) : (fs.move p q).inode q = some ino := by
  obtain ⟨r, hr, hfile⟩ := inode_eq_some_iff.mp hino
  rcases follow_cases hr with ⟨-, hlink⟩ | ⟨s, hs, -⟩
  · exact absurd h (hlink target)
  have hrp : r ≠ p := by
    rintro rfl
    rw [hs] at hfile
    cases hfile
  -- the way from the target to the file does not come back to `p`, nor over `q`
  obtain ⟨k, hk, -, hway⟩ := follow_target none hs hr
  have hnode : (fs.move p q).node = Function.update (Function.update fs.node p none) q (fs.node p) :=
    Function.update_comm (Ne.symm hne) _ _ _
  rcases follow_update (Function.update fs.node p none) q (fs.node p) k s with ⟨hsame, hnot⟩ |
    ⟨m, hm, hthrough, -⟩
  · have hrq : r ≠ q := by
      rintro rfl
      exact hnot hway
    have hq : (fs.move p q).node q = some (.link (some s)) := by
      rw [hnode, Function.update_self, hs]
    refine inode_eq_some_iff.mpr ⟨r, ?_, ?_⟩
    · show follow (fs.move p q).node (maxLinks + 1) q = some r
      rw [follow_link hq, hnode]
      exact follow_mono (hsame.trans hway) (by omega)
    · rw [hnode, Function.update_of_ne hrq, Function.update_of_ne hrp, hfile]
  · -- otherwise `q` leads to the file as well
    refine absurd ?_ happart
    have hq : follow (Function.update fs.node p none) m q = some r := hthrough.symm.trans hway
    rcases follow_update fs.node p none m q with ⟨hsame, -⟩ | ⟨m', -, -, hthrough'⟩
    · have hresolve : fs.resolve q = some r := follow_mono (hsame.symm.trans hq) (by omega)
      exact ⟨ino, hino, inode_eq_some_iff.mpr ⟨r, hresolve, hfile⟩⟩
    · rw [hthrough'] at hq
      cases m' with
      | zero => cases hq
      | succ m' =>
        rw [follow_end (by simp)] at hq
        exact absurd (Option.some.inj hq).symm hrp

/-- **Published.** After a rename, what was at `tmp` is at `out`. -/
theorem read_rename (hrename : fs.rename tmp out = some fs') (hread : fs.read tmp = some contents)
    (hlink : ∀ target, fs.node tmp = some (.link target) → ¬ fs.SameFile tmp out) :
    fs'.read out = some contents := by
  obtain ⟨ino, hino, rfl⟩ := Option.map_eq_some_iff.mp hread
  rcases rename_cases hrename with ⟨rfl, hsame⟩ | ⟨rfl, hne⟩
  · rcases hsame with rfl | ⟨ino', htmp, hout⟩
    · exact hread
    · have hinode : ∀ {p : ν}, fs'.node p = some (.file ino') → fs'.inode p = some ino' := by
        intro p hp
        exact inode_eq_some_iff.mpr ⟨p, resolve_of_not_link (by simp [hp]), hp⟩
      obtain rfl : ino' = ino := Option.some.inj ((hinode htmp).symm.trans hino)
      exact read_of_inode (hinode hout)
  · -- a file or a link has been moved
    cases hentry : fs.node tmp with
    | none =>
      obtain ⟨r, hr, hfile⟩ := inode_eq_some_iff.mp hino
      have hself : fs.resolve tmp = some tmp := resolve_of_not_link (by simp [hentry])
      rw [hself] at hr
      cases hr
      rw [hentry] at hfile
      cases hfile
    | some entry =>
      cases entry with
      | file ino' =>
        have htmp : fs.inode tmp = some ino' :=
          inode_eq_some_iff.mpr ⟨tmp, resolve_of_not_link (by simp [hentry]), hentry⟩
        obtain rfl : ino' = ino := Option.some.inj (htmp.symm.trans hino)
        exact read_of_inode (inode_move_file hne hentry)
      | directory =>
        unfold rename at hrename
        rw [hentry] at hrename
        cases hrename
      | link target => exact read_of_inode (inode_move_link hne hentry hino (hlink target hentry))

/-- A file that has been tried out aside is published by a rename. -/
theorem Aside.read_publish {fs'' : Fs ν} (h : fs.Aside tmp out) (hwrite : fs.write tmp contents = some fs')
    (hrename : fs'.rename tmp out = some fs'') : fs''.read out = some contents := by
  refine read_rename hrename (read_write hwrite) ?_
  intro target htarget
  rcases write_cases hwrite with ⟨ino, -, rfl⟩ | ⟨q, hq, hfree, rfl⟩
  · exact h.apart
  · have hqt : q = tmp := by
      by_contra hne
      exact h.direct ⟨q, hq, hne, hfree⟩
    subst hqt
    rw [show (fs.create q contents).node q = _ from Function.update_self _ _ _] at htarget
    cases htarget

/-- How far a trial under `tmp` has come: nothing is written, contents are, or they are removed again. -/
inductive Tried (fs : Fs ν) (tmp : ν) : Fs ν → Prop
  | untried : Tried fs tmp fs
  | written {contents : List UInt8} {fs' : Fs ν} : fs.write tmp contents = some fs' → Tried fs tmp fs'
  | removed {contents : List UInt8} {fs' : Fs ν} : fs.write tmp contents = some fs' →
    Tried fs tmp (fs'.clear tmp)

/-- What is gone may be unlinked again. -/
theorem unlink_clear (fs : Fs ν) (t : ν) : (fs.clear t).unlink t = some (fs.clear t) := by
  unfold unlink
  rw [show (fs.clear t).node t = none from Function.update_self _ _ _]

/-- A name that cannot be removed has not been written to. -/
theorem Tried.eq_of_unlink (h : fs.Tried tmp fs') (hunlink : fs'.unlink tmp = none) : fs' = fs := by
  cases h with
  | untried => rfl
  | written hwrite =>
    rw [unlink_write hwrite] at hunlink
    cases hunlink
  | removed hwrite =>
    rw [unlink_clear] at hunlink
    cases hunlink

/-- However far it has come, a trial aside that is removed has never been. -/
theorem Aside.untouched_of_unlink {fs'' : Fs ν} (h : fs.Aside tmp out) (htried : fs.Tried tmp fs')
    (hunlink : fs'.unlink tmp = some fs'') : Untouched fs fs'' out := by
  cases htried with
  | untried => exact h.untouched_unlink hunlink
  | written hwrite =>
    rw [unlink_write hwrite] at hunlink
    cases hunlink
    exact h.untouched_discard hwrite
  | removed hwrite =>
    rw [unlink_clear] at hunlink
    cases hunlink
    exact h.untouched_discard hwrite

/-! ### Trials after trials -/

omit [DecidableEq ν] in
/-- A free name is aside. -/
theorem aside_of_none (h : fs.node tmp = none) : fs.Aside tmp out := by
  have hself : fs.resolve tmp = some tmp := resolve_of_not_link (by simp [h])
  constructor
  · rintro ⟨q, hq, hne, -⟩
    exact hne (Option.some.inj (hq.symm.trans hself))
  · rintro ⟨ino, hino, -⟩
    obtain ⟨q, hq, hfile⟩ := inode_eq_some_iff.mp hino
    obtain rfl := Option.some.inj (hq.symm.trans hself)
    rw [h] at hfile
    cases hfile

/-- What is removed is not there. -/
theorem node_of_unlink (h : fs.unlink p = some fs') : fs'.node p = none := by
  unfold unlink at h
  split at h
  · rename_i hnone
    rwa [← Option.some.inj h]
  · cases h
  · rw [← Option.some.inj h]
    exact Function.update_self _ _ _

/-- **After a file has been published its trial name is free**, and no name but `out` has come up. -/
theorem Aside.node_publish {fs'' : Fs ν} (h : fs.Aside tmp out) (hne : tmp ≠ out)
    (hwrite : fs.write tmp contents = some fs') (hrename : fs'.rename tmp out = some fs'') :
    fs''.node tmp = none ∧ ∀ p, p ≠ out → fs.node p = none → fs''.node p = none := by
  -- only the trial name can have come up by the write
  have hnames : ∀ p, p ≠ tmp → fs'.node p = fs.node p := by
    intro p hp
    rcases write_cases hwrite with ⟨ino, -, rfl⟩ | ⟨q, hq, hfree, rfl⟩
    · rfl
    · have hqt : q = tmp := by
        by_contra hqt
        exact h.direct ⟨q, hq, hqt, hfree⟩
      exact Function.update_of_ne (hqt ▸ hp) _ _
  have hmoved : fs'' = fs'.move tmp out := by
    rcases rename_cases hrename with ⟨-, rfl | ⟨ino', htmp, hout⟩⟩ | ⟨hmoved, -⟩
    · exact absurd rfl hne
    · -- the file that was written to is not the one at `out`
      exfalso
      rw [hnames out hne.symm] at hout
      rcases write_cases hwrite with ⟨ino, -, rfl⟩ | ⟨q, hq, hfree, rfl⟩
      · have hinode : ∀ {p : ν}, fs.node p = some (.file ino') → fs.inode p = some ino' := by
          intro p hp
          exact inode_eq_some_iff.mpr ⟨p, resolve_of_not_link (by simp [hp]), hp⟩
        exact h.apart ⟨ino', hinode htmp, hinode hout⟩
      · have hlt := fs.lt_next out ino' hout
        by_cases hqt : q = tmp
        · subst hqt
          rw [show (fs.create q contents).node q = _ from Function.update_self _ _ _] at htmp
          cases htmp
          omega
        · exact h.direct ⟨q, hq, hqt, hfree⟩
    · exact hmoved
  subst hmoved
  refine ⟨Function.update_self _ _ _, ?_⟩
  intro p hp hnone
  by_cases hpt : p = tmp
  · rw [hpt]
    exact Function.update_self _ _ _
  · show Function.update (Function.update fs'.node out _) tmp none p = none
    rw [Function.update_of_ne hpt, Function.update_of_ne hp, hnames p hpt, hnone]

/-! ## Contents on trial where they do harm -/

/-- Under a link to a free name, whatever is written leaves a name behind. -/
theorem exists_damage_of_dangling (h : fs.Dangling tmp) (contents : List UInt8) :
    ∃ fs', fs.write tmp contents = some fs' ∧ ¬ Untouched fs (fs'.clear tmp) out := by
  obtain ⟨q, hq, hne, hfree⟩ := h
  refine ⟨fs.create q contents, write_of_free hq hfree, ?_⟩
  intro huntouched
  have hgone := huntouched.names q hfree
  rw [node_clear_of_ne hne, show (fs.create q contents).node q = _ from Function.update_self _ _ _] at hgone
  cases hgone

/-- Under a name of the file at `out`, other bytes than that file has destroy it. -/
theorem exists_damage_of_sameFile (h : fs.SameFile tmp out) :
    ∃ contents fs', fs.write tmp contents = some fs' ∧ ¬ Untouched fs (fs'.clear tmp) out := by
  obtain ⟨ino, htmp, hout⟩ := h
  obtain ⟨contents, hne⟩ : ∃ contents, contents ≠ fs.bytes ino := by
    cases hbytes : fs.bytes ino with
    | nil => exact ⟨[0], List.cons_ne_nil _ _⟩
    | cons b bs => exact ⟨[], List.cons_ne_nil _ _ |>.symm⟩
  refine ⟨contents, fs.setBytes ino contents, write_of_inode htmp, ?_⟩
  intro huntouched
  have hread := huntouched.contents
  rw [read_of_inode hout] at hread
  rcases inode_clear_cases (fs.setBytes ino contents) tmp out with hsame | ⟨hnone, -⟩
  · -- `out` still leads to the file, which has the new contents
    rw [inode_setBytes, hout] at hsame
    rw [read_of_inode hsame] at hread
    have hbytes : (fs.setBytes ino contents).bytes ino = contents := Function.update_self _ _ _
    exact hne (hbytes.symm.trans (Option.some.inj hread))
  · -- `out` led to it over `tmp`
    unfold read at hread
    rw [hnone] at hread
    cases hread

/-- **Harm.** Under a name that is not aside, some contents thrown away do not leave everything as it was. -/
theorem exists_damage (h : ¬ fs.Aside tmp out) :
    ∃ contents fs', fs.write tmp contents = some fs' ∧ ¬ Untouched fs (fs'.clear tmp) out := by
  by_cases hdangling : fs.Dangling tmp
  · exact ⟨[], exists_damage_of_dangling hdangling []⟩
  · by_cases hsame : fs.SameFile tmp out
    · exact exists_damage_of_sameFile hsame
    · exact absurd ⟨hdangling, hsame⟩ h

end Fs

end FileSystem
