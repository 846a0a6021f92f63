import Mathlib.Data.List.Sort

/-!
# `Lib.StableSort` — sorting by a key, stably

`sortedBy le key l` is the stable sort of `l` by `key`: entries with equal keys keep their input order.
It is Mathlib's `List.insertionSort` on the pulled-back relation; what is added here is the part a client
that sorts *by key* needs:

* when the keys tell the entries of `l` apart, the result depends only on the multiset of entries
  (`sortedBy_eq_of_perm`);
* in general it depends on nothing but, for each key, the order in which the entries with that key came in
  (`sortedBy_eq_iff`).
-/

namespace StableSort

variable {α κ : Type} {le : κ → κ → Prop} [DecidableRel le]

/-- The stable sort of `l` by `key`. -/
def sortedBy (le : κ → κ → Prop) [DecidableRel le] (key : α → κ) (l : List α) : List α :=
  l.insertionSort (fun a b => le (key a) (key b))

theorem sortedBy_perm (key : α → κ) (l : List α) : (sortedBy le key l).Perm l :=
  List.perm_insertionSort _ l

@[simp] theorem mem_sortedBy {key : α → κ} {l : List α} {a : α} : a ∈ sortedBy le key l ↔ a ∈ l :=
  (sortedBy_perm key l).mem_iff

@[simp] theorem length_sortedBy (key : α → κ) (l : List α) : (sortedBy le key l).length = l.length :=
  (sortedBy_perm key l).length_eq

/-- Sorting by a key and keeping the keys is sorting the keys. -/
theorem map_sortedBy (key : α → κ) (l : List α) :
    (sortedBy le key l).map key = sortedBy le id (l.map key) :=
  List.map_insertionSort _ _ key l fun _ _ _ _ => Iff.rfl

variable [Std.Total le] [IsTrans κ le]

theorem sortedBy_pairwise (key : α → κ) (l : List α) :
    (sortedBy le key l).Pairwise (fun a b => le (key a) (key b)) := by
  have htotal : Std.Total (fun a b : α => le (key a) (key b)) := ⟨fun a b => Std.Total.total (key a) (key b)⟩
  have htrans : IsTrans α (fun a b : α => le (key a) (key b)) := ⟨fun _ _ _ => IsTrans.trans _ _ _⟩
  exact List.pairwise_insertionSort _ l

variable [Std.Antisymm le]

/-- **Keys that tell the entries apart make the sort a function of the multiset.** -/
theorem sortedBy_eq_of_perm {key : α → κ} {l l' : List α} (hinj : ∀ a ∈ l, ∀ b ∈ l, key a = key b → a = b)
    (hp : l.Perm l') : sortedBy le key l = sortedBy le key l' := by
  refine List.Perm.eq_of_pairwise ?_ (sortedBy_pairwise key l) (sortedBy_pairwise key l')
    ((sortedBy_perm key l).trans (hp.trans (sortedBy_perm key l').symm))
  intro a b ha hb hab hba
  have ha' : a ∈ l := mem_sortedBy.mp ha
  have hb' : b ∈ l := hp.mem_iff.mpr (mem_sortedBy.mp hb)
  exact hinj a ha' b hb' (Std.Antisymm.antisymm _ _ hab hba)

/-! ## Stability -/

omit [Std.Total le] [IsTrans κ le] [Std.Antisymm le] in
/-- **Entries with one key keep their input order.** -/
theorem filter_sortedBy [DecidableEq κ] (hrefl : ∀ k, le k k) (key : α → κ) (l : List α) (k : κ) :
    (sortedBy le key l).filter (fun a => key a = k) = l.filter (fun a => key a = k) := by
  have hsorted : (l.filter (fun a => key a = k)).Pairwise (fun a b => le (key a) (key b)) := by
    refine List.pairwise_of_forall_mem_list fun a ha b hb => ?_
    rw [of_decide_eq_true (List.mem_filter.mp ha).2, of_decide_eq_true (List.mem_filter.mp hb).2]
    exact hrefl k
  have hsub := (List.sublist_insertionSort hsorted List.filter_sublist).filter (fun a => decide (key a = k))
  rw [List.filter_filter] at hsub
  simp only [Bool.and_self] at hsub
  exact (hsub.eq_of_length ((sortedBy_perm key l).filter _).length_eq.symm).symm

omit [DecidableRel le] [Std.Total le] [IsTrans κ le] in
/-- Two lists in key order are equal when they agree on every key. -/
theorem eq_of_filter_eq [DecidableEq κ] {key : α → κ} {l l' : List α}
    (hs : l.Pairwise (fun a b => le (key a) (key b))) (hs' : l'.Pairwise (fun a b => le (key a) (key b)))
    (h : ∀ k, l.filter (fun a => key a = k) = l'.filter (fun a => key a = k)) : l = l' := by
  induction l generalizing l' with
  | nil =>
      refine (List.eq_nil_iff_forall_not_mem.mpr fun b hb => ?_).symm
      have hmem : b ∈ l'.filter (fun a => key a = key b) := List.mem_filter.mpr ⟨hb, decide_eq_true rfl⟩
      rw [← h (key b)] at hmem
      exact List.not_mem_nil hmem
  | cons a l ih =>
      have hmem : ∀ c, c ∈ a :: l ↔ c ∈ l' := fun c => by
        have hc := congrArg (c ∈ ·) (h (key c))
        simpa only [List.mem_filter, decide_true, and_true, eq_iff_iff] using hc
      cases l' with
      | nil => exact absurd ((hmem a).mp List.mem_cons_self) List.not_mem_nil
      | cons b l' =>
          -- the heads have the least key of either list, and are the first of it
          have hab : key a = key b := by
            rcases List.mem_cons.mp ((hmem b).mpr List.mem_cons_self) with hb | hb
            · rw [hb]
            rcases List.mem_cons.mp ((hmem a).mp List.mem_cons_self) with ha | ha
            · rw [ha]
            exact Std.Antisymm.antisymm _ _ ((List.pairwise_cons.mp hs).1 b hb)
              ((List.pairwise_cons.mp hs').1 a ha)
          have hhead := h (key a)
          simp only [List.filter_cons, decide_true, if_true, hab] at hhead
          obtain rfl := (List.cons.inj hhead).1
          refine congrArg _ (ih (List.pairwise_cons.mp hs).2 (List.pairwise_cons.mp hs').2 fun k => ?_)
          have hk := h k
          rw [List.filter_cons, List.filter_cons] at hk
          split at hk
          · exact (List.cons.inj hk).2
          · exact hk

/-- **What the stable sort of a list depends on**: for each key, the entries with that key in their order. -/
theorem sortedBy_eq_iff [DecidableEq κ] {key : α → κ} {l l' : List α} :
    sortedBy le key l = sortedBy le key l' ↔
      ∀ k, l.filter (fun a => key a = k) = l'.filter (fun a => key a = k) := by
  have hrefl : ∀ k : κ, le k k := fun k => (Std.Total.total k k).elim id id
  constructor
  · intro h k
    rw [← filter_sortedBy hrefl key l, h, filter_sortedBy hrefl key l']
  · intro h
    refine eq_of_filter_eq (sortedBy_pairwise key l) (sortedBy_pairwise key l') fun k => ?_
    rw [filter_sortedBy hrefl, filter_sortedBy hrefl, h]

end StableSort
