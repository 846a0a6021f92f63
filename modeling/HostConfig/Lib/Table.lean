import Mathlib.Data.List.Nodup
import Mathlib.Data.List.Basic

/-!
# `Lib.Table` — rows under ids

A table is a list of rows, each under an id of its own; `next` is an id above all of them, under which the
next row is inserted. Rows are found by a predicate (`matching`) or by id (`find`), and changed in place by
id (`modify`).

What a client follows through a run of inserts and changes is a predicate the changes do not touch:
`matching_insert` and `matching_modify` say what becomes of the rows that match it.
-/

structure Table (ρ : Type) where
  rows : List (Nat × ρ)
  next : Nat
  lt_next : ∀ e ∈ rows, e.1 < next
  nodup : (rows.map (·.1)).Nodup

namespace Table

variable {ρ : Type} (t : Table ρ)

def empty : Table ρ := ⟨[], 1, fun _ he => absurd he List.not_mem_nil, List.nodup_nil⟩

/-- The entries whose row satisfies `p`, in order. -/
def matching (p : ρ → Bool) : List (Nat × ρ) := t.rows.filter fun e => p e.2

/-- The row under an id. -/
def find (id : Nat) : Option ρ := (t.rows.find? fun e => e.1 = id).map (·.2)

/-- A row under a fresh id. -/
def insert (r : ρ) : Table ρ where
  rows := t.rows ++ [(t.next, r)]
  next := t.next + 1
  lt_next := by
    intro e he
    rcases List.mem_append.mp he with he | he
    · exact Nat.lt_succ_of_lt (t.lt_next e he)
    · rw [List.mem_singleton.mp he]
      exact Nat.lt_succ_self _
  nodup := by
    rw [List.map_append, List.nodup_append]
    refine ⟨t.nodup, List.nodup_singleton _, ?_⟩
    rintro id hid _ hnext rfl
    obtain ⟨e, he, rfl⟩ := List.mem_map.mp hid
    rw [List.map_singleton, List.mem_singleton] at hnext
    exact Nat.lt_irrefl _ (hnext ▸ t.lt_next e he)

/-- What `modify` makes of an entry. -/
def modifyEntry (id : Nat) (f : ρ → ρ) (e : Nat × ρ) : Nat × ρ := if e.1 = id then (e.1, f e.2) else e

/-- The id of an entry is never modified. -/
@[simp] theorem modifyEntry_fst (id : Nat) (f : ρ → ρ) (e : Nat × ρ) : (modifyEntry id f e).1 = e.1 := by
  unfold modifyEntry
  split <;> rfl

theorem modifyEntry_self (f : ρ → ρ) (e : Nat × ρ) : modifyEntry e.1 f e = (e.1, f e.2) := if_pos rfl

theorem modifyEntry_mk (id : Nat) (f : ρ → ρ) (r : ρ) : modifyEntry id f (id, r) = (id, f r) := if_pos rfl

theorem modifyEntry_of_ne {id : Nat} (f : ρ → ρ) {e : Nat × ρ} (h : e.1 ≠ id) :
    modifyEntry id f e = e := if_neg h

/-- The row under an id, changed. -/
def modify (id : Nat) (f : ρ → ρ) : Table ρ where
  rows := t.rows.map (modifyEntry id f)
  next := t.next
  lt_next := by
    intro e he
    obtain ⟨e', he', rfl⟩ := List.mem_map.mp he
    rw [modifyEntry_fst]
    exact t.lt_next e' he'
  nodup := by
    have hids : (t.rows.map (modifyEntry id f)).map (·.1) = t.rows.map (·.1) := by
      rw [List.map_map]
      exact List.map_congr_left fun e _ => modifyEntry_fst id f e
    rw [hids]
    exact t.nodup

variable {t}

/-- The rows after an insertion, -/
theorem mem_insert {r : ρ} {e : Nat × ρ} : e ∈ (t.insert r).rows ↔ e ∈ t.rows ∨ e = (t.next, r) := by
  rw [insert, List.mem_append, List.mem_singleton]

/-- and after a modification. -/
theorem mem_modify {id : Nat} {f : ρ → ρ} {e : Nat × ρ} :
    e ∈ (t.modify id f).rows ↔ ∃ e' ∈ t.rows, modifyEntry id f e' = e := List.mem_map

/-- An id has one row. -/
theorem row_unique {id : Nat} {r r' : ρ} (h : (id, r) ∈ t.rows) (h' : (id, r') ∈ t.rows) : r = r' :=
  (Prod.mk.inj (List.inj_on_of_nodup_map t.nodup h h' rfl)).2

/-- A row is found under its id exactly if it is there: ids do not repeat. -/
theorem find_eq_some {id : Nat} {r : ρ} : t.find id = some r ↔ (id, r) ∈ t.rows := by
  unfold find
  rw [Option.map_eq_some_iff]
  constructor
  · rintro ⟨⟨id', r'⟩, hfound, rfl⟩
    have hid := List.find?_some hfound
    obtain rfl : id' = id := of_decide_eq_true hid
    exact List.mem_of_find?_eq_some hfound
  · intro hmem
    cases hfound : t.rows.find? (fun e => e.1 = id) with
    | none =>
      have hnone := List.find?_eq_none.mp hfound (id, r) hmem
      exact absurd hnone (by simp)
    | some e =>
      have hid := List.find?_some hfound
      obtain ⟨id', r'⟩ := e
      obtain rfl : id' = id := of_decide_eq_true hid
      exact ⟨_, rfl, row_unique (List.mem_of_find?_eq_some hfound) hmem⟩

section Matching

variable {p : ρ → Bool}

theorem mem_matching {e : Nat × ρ} : e ∈ t.matching p ↔ e ∈ t.rows ∧ p e.2 = true := List.mem_filter

/-- One entry matches, and no other one does. -/
theorem matching_eq_singleton {e : Nat × ρ} (he : e ∈ t.matching p) (h : ∀ e' ∈ t.matching p, e' = e) :
    t.matching p = [e] := by
  have hnodup : (t.matching p).Nodup := (List.Nodup.of_map _ t.nodup).filter _
  match hmatching : t.matching p with
  | []          =>
    rw [hmatching] at he
    cases he
  | [e']        => rw [h e' (hmatching ▸ List.mem_singleton_self e')]
  | a :: b :: l =>
    rw [hmatching] at h hnodup
    have hab : a = b := (h a (by simp)).trans (h b (by simp)).symm
    simp [hab] at hnodup

/-- A new row is matched last. -/
theorem matching_insert (r : ρ) : (t.insert r).matching p = t.matching p ++ if p r then
    [(t.next, r)] else [] := by
  unfold matching insert
  rw [List.filter_append]
  cases hp : p r <;> simp [hp]

/-- A change the predicate does not see changes the entries that match, and not which ones match. -/
theorem matching_modify {f : ρ → ρ} (hf : ∀ r, p (f r) = p r) (id : Nat) :
    (t.modify id f).matching p = (t.matching p).map (modifyEntry id f) := by
  unfold matching modify
  rw [List.filter_map]
  congr 1
  refine List.filter_congr fun e _ => ?_
  show p (modifyEntry id f e).2 = p e.2
  by_cases hid : e.1 = id
  · rw [modifyEntry, if_pos hid]
    exact hf e.2
  · rw [modifyEntry_of_ne f hid]

end Matching

section Find

/-- The next id is free. -/
theorem find_next : t.find t.next = none := by
  refine Option.eq_none_iff_forall_ne_some.mpr ?_
  intro r hfound
  exact Nat.lt_irrefl _ (t.lt_next _ (find_eq_some.mp hfound))

/-- An insertion is found under the id it takes, and leaves the others; -/
theorem find_insert (r : ρ) (id : Nat) : (t.insert r).find id = if id = t.next then some r else
    t.find id := by
  split
  · rename_i hid
    exact find_eq_some.mpr (mem_insert.mpr (.inr (by rw [hid])))
  · rename_i hid
    refine Option.ext fun r' => ?_
    rw [find_eq_some, find_eq_some, mem_insert, or_iff_left]
    intro he
    exact hid (congrArg Prod.fst he)

/-- a modification changes the row of its id alone. -/
theorem find_modify (id : Nat) (f : ρ → ρ) (id' : Nat) :
    (t.modify id f).find id' = if id' = id then (t.find id').map f else t.find id' := by
  have hcomp : ((fun e : Nat × ρ => decide (e.1 = id')) ∘ modifyEntry id f) = fun e =>
      decide (e.1 = id') := by
    funext e
    simp
  unfold find modify
  rw [List.find?_map, hcomp]
  cases hfound : t.rows.find? fun e => e.1 = id' with
  | none => simp
  | some e =>
    have hfst := List.find?_some hfound
    obtain rfl : e.1 = id' := of_decide_eq_true hfst
    by_cases hid : e.1 = id
    · subst hid
      simp [modifyEntry_self]
    · simp [modifyEntry_of_ne f hid, hid]

end Find

/-! ### What a map sees of a table -/

section View

variable {τ : Type} {t' : Table ρ} {g : ρ → τ}

/-- The rows as `g` sees them, under their ids, and the id that is next. -/
def view (g : ρ → τ) (t : Table ρ) : Nat × List (Nat × τ) := (t.next, t.rows.map fun e => (e.1, g e.2))

/-- Seen through a projection, an insertion appends, -/
theorem view_insert (r : ρ) :
    (t.insert r).view g = ((t.view g).1 + 1, (t.view g).2 ++ [((t.view g).1, g r)]) := by
  unfold view insert
  simp

/-- and a modification that keeps the projected part changes nothing. -/
theorem view_modify {f : ρ → ρ} (hf : ∀ r, g (f r) = g r) (id : Nat) : (t.modify id f).view g = t.view g := by
  unfold view modify
  rw [List.map_map]
  congr 1
  refine List.map_congr_left fun e _ => ?_
  show ((modifyEntry id f e).1, g (modifyEntry id f e).2) = (e.1, g e.2)
  by_cases hid : e.1 = id
  · subst hid
    rw [modifyEntry_self, hf]
  · rw [modifyEntry_of_ne f hid]

/-- What a predicate matches is seen, if the predicate sees no more than the map. -/
theorem matching_view {g : ρ → ρ} {p : ρ → Bool} (hp : ∀ r, p (g r) = p r) :
    ((t.matching p).map fun e => (e.1, g e.2)) = (t.view g).2.filter fun e => p e.2 := by
  unfold matching view
  rw [List.filter_map]
  congr 2
  funext e
  exact (hp e.2).symm

/-- Tables that are seen alike are equal if their rows are told apart under every id. -/
theorem eq_of_view (h : t.view g = t'.view g)
    (hrow : ∀ id r r', t.find id = some r → t'.find id = some r' → g r = g r' → r = r') : t = t' := by
  obtain ⟨hnext, hrows⟩ := Prod.mk.inj h
  have heq : t.rows = t'.rows := by
    have hlength : t.rows.length = t'.rows.length := by simpa using congrArg List.length hrows
    refine List.ext_getElem hlength fun i hi hi' => ?_
    obtain ⟨hid, hg⟩ : t.rows[i].1 = t'.rows[i].1 ∧ g t.rows[i].2 = g t'.rows[i].2 := by
      simpa [hi, hi'] using congrArg (·[i]?) hrows
    refine Prod.ext hid (hrow t.rows[i].1 _ _ (find_eq_some.mpr (List.getElem_mem hi)) ?_ hg)
    rw [hid]
    exact find_eq_some.mpr (List.getElem_mem hi')
  cases t
  cases t'
  congr

end View

end Table
