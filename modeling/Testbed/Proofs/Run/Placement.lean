import Testbed.Run.Basic

/-! # Grouping and ordering of records

Grouping by suite only rearranges records, and ordering by identifiers undoes
any rearrangement as long as no identifier comes twice.
-/

namespace Testbed

variable {σ α κ : Type}

/-- Lists that are rearrangements of each other and have the same keys in a row are equal if no key
comes twice. -/
theorem perm_eq_of_map_eq {xs ys : List α} (f : α → κ) (hperm : xs.Perm ys)
    (hmap : xs.map f = ys.map f) (hnodup : (ys.map f).Nodup) : xs = ys := by
  refine List.ext_getElem hperm.length_eq fun j hx hy => ?_
  obtain ⟨k, hk, hxk⟩ := List.getElem_of_mem (hperm.subset (List.getElem_mem hx))
  have hf : (ys.map f)[k]? = (ys.map f)[j]? :=
    calc (ys.map f)[k]? = some (f xs[j]) := by simp [hk, hxk]
      _ = (xs.map f)[j]? := by simp [hx]
      _ = (ys.map f)[j]? := by rw [hmap]
  have hkj : k = j := (List.getElem?_inj (by simpa using hk) hnodup).mp hf
  subst hkj
  exact hxk.symm

theorem flatMap_filter_perm [DecidableEq κ] (key : α → κ) (xs : List α) {keys : List κ}
    (hkeys : keys.Nodup) :
    (keys.flatMap fun k => xs.filter (key · = k)).Perm (xs.filter (key · ∈ keys)) := by
  induction keys with
  | nil => simp
  | cons k keys ih =>
    obtain ⟨hk, hkeys⟩ := List.nodup_cons.mp hkeys
    have hsplit := List.filter_append_perm (key · = k) (xs.filter (key · ∈ k :: keys))
    rw [List.filter_filter, List.filter_filter] at hsplit
    rw [List.flatMap_cons]
    refine ((ih hkeys).append_left _).trans (.trans (.of_eq ?_) hsplit)
    congr 1
    · exact List.filter_congr fun x _ => by by_cases hx : key x = k <;> simp [hx]
    · refine List.filter_congr fun x _ => ?_
      by_cases hx : key x = k <;> simp [hx, hk]

theorem nodup_eraseDups [BEq α] [LawfulBEq α] : ∀ xs : List α, xs.eraseDups.Nodup
  | [] => by simp
  | x :: xs => by
    rw [List.eraseDups_cons, List.nodup_cons]
    exact ⟨by simp, nodup_eraseDups _⟩
termination_by xs => xs.length
decreasing_by exact Nat.lt_succ_of_le (List.length_filter_le ..)

/-- Lists that have the same items under each key are rearrangements of each other. -/
theorem perm_of_filter_eq [DecidableEq κ] (key : α → κ) {xs ys : List α}
    (h : ∀ k, xs.filter (key · = k) = ys.filter (key · = k)) : xs.Perm ys := by
  have hkeys := nodup_eraseDups ((xs ++ ys).map key)
  have hall {zs : List α} (hzs : ∀ z ∈ zs, z ∈ xs ++ ys) :
      zs.filter (key · ∈ ((xs ++ ys).map key).eraseDups) = zs := by
    refine List.filter_eq_self.mpr fun z hz => ?_
    rw [decide_eq_true_eq, List.mem_eraseDups]
    exact List.mem_map_of_mem (hzs z hz)
  have hx := flatMap_filter_perm key xs hkeys
  have hy := flatMap_filter_perm key ys hkeys
  rw [hall fun z hz => List.mem_append_left _ hz] at hx
  rw [hall fun z hz => List.mem_append_right _ hz] at hy
  simp only [h] at hx
  exact hx.symm.trans hy

theorem filter_eraseDups [BEq α] [LawfulBEq α] (p : α → Bool) :
    ∀ xs : List α, xs.eraseDups.filter p = (xs.filter p).eraseDups
  | [] => rfl
  | x :: xs => by
    rw [List.eraseDups_cons, List.filter_cons, List.filter_cons, filter_eraseDups,
      List.filter_filter]
    split
    · rw [List.eraseDups_cons, List.filter_filter]
      exact congrArg (fun ys => x :: List.eraseDups ys)
        (List.filter_congr fun y _ => Bool.and_comm ..)
    · rename_i hx
      refine congrArg List.eraseDups (List.filter_congr fun y _ => ?_)
      by_cases hy : y = x
      · rw [hy, eq_false_of_ne_true hx, Bool.false_and]
      · rw [beq_false_of_ne hy, Bool.not_false, Bool.and_true]
termination_by xs => xs.length
decreasing_by exact Nat.lt_succ_of_le (List.length_filter_le ..)

namespace Run

/-- The groups of the records of one suite. -/
theorem groups_filter (records : List (Record σ)) (home : String) :
    groups (records.filter fun r => r.testCase.suiteName = home) =
      (groups records).filter fun group => group.1 = home := by
  rw [groups, groups, List.filter_map]
  have hnames : (records.filter fun r => r.testCase.suiteName = home).map (·.testCase.suiteName) =
      (records.map (·.testCase.suiteName)).filter fun name => name = home := by
    rw [List.filter_map]
    rfl
  rw [hnames, ← filter_eraseDups]
  refine List.map_congr_left fun name hname => ?_
  have hhome : name = home := by simpa using (List.mem_filter.mp hname).2
  subst hhome
  rw [List.filter_filter]
  simp

theorem groups_perm (records : List (Record σ)) :
    ((groups records).flatMap (·.2)).Perm records := by
  rw [groups, List.flatMap_map]
  refine (flatMap_filter_perm (·.testCase.suiteName) records (nodup_eraseDups _)).trans
    (.of_eq ?_)
  exact List.filter_eq_self.mpr fun r hr => by simpa using ⟨r, hr, rfl⟩

/-- The position that a record with the identifier is put at. -/
def position (ids : List String) (id : String) : Nat :=
  ((positions ids).lookup id).getD ids.length

theorem lookup_of_mem [BEq κ] [LawfulBEq κ] {table : List (κ × α)} {k : κ} {a : α}
    (hnodup : (table.map (·.1)).Nodup) (hmem : (k, a) ∈ table) : table.lookup k = some a := by
  induction table with
  | nil => exact absurd hmem List.not_mem_nil
  | cons p table ih =>
    obtain ⟨hp, hnodup⟩ := List.nodup_cons.mp hnodup
    rcases List.mem_cons.mp hmem with rfl | hmem
    · simp
    · have hne : k ≠ p.1 := fun h => hp (List.mem_map.mpr ⟨_, hmem, h⟩)
      rw [List.lookup_cons, beq_false_of_ne hne]
      exact ih hnodup hmem

theorem eq_of_key_eq [BEq κ] [LawfulBEq κ] (key : α → κ) {xs : List α}
    (hnodup : (xs.map key).Nodup) {x y : α} (hx : x ∈ xs) (hy : y ∈ xs) (hkey : key x = key y) :
    x = y := by
  have htable : ((xs.map fun x => (key x, x)).map (·.1)).Nodup := by rwa [List.map_map]
  have hlookup {z : α} (hz : z ∈ xs) : (xs.map fun x => (key x, x)).lookup (key z) = some z :=
    lookup_of_mem htable (List.mem_map.mpr ⟨z, hz, rfl⟩)
  have hsame := hlookup hx
  rw [hkey, hlookup hy] at hsame
  exact (Option.some.inj hsame).symm

theorem find?_key_eq_some [DecidableEq κ] (key : α → κ) {xs : List α}
    (hnodup : (xs.map key).Nodup) {k : κ} {x : α} :
    xs.find? (key · = k) = some x ↔ x ∈ xs ∧ key x = k := by
  constructor
  · intro hfind
    exact ⟨List.mem_of_find?_eq_some hfind, by simpa using List.find?_some hfind⟩
  · rintro ⟨hx, rfl⟩
    cases hfind : xs.find? (key · = key x) with
    | none => simpa using List.find?_eq_none.mp hfind x hx
    | some y =>
      have hkey : key y = key x := by simpa using List.find?_some hfind
      rw [eq_of_key_eq key hnodup (List.mem_of_find?_eq_some hfind) hx hkey]

/-- Where no key comes twice, what is found under a key does not depend on the order. -/
theorem find?_key_eq [DecidableEq κ] (key : α → κ) {xs ys : List α} (hperm : xs.Perm ys)
    (hnodup : (ys.map key).Nodup) (k : κ) :
    xs.find? (key · = k) = ys.find? (key · = k) := by
  refine Option.ext fun x => ?_
  rw [find?_key_eq_some key ((hperm.map key).nodup_iff.mpr hnodup), find?_key_eq_some key hnodup,
    hperm.mem_iff]

theorem foldl_positions {ids : List String} (hids : ids.Nodup) (found : List (String × Nat))
    (hfound : ∀ id ∈ ids, ∀ p ∈ found, p.1 ≠ id) :
    ids.foldl (fun found id => (id, found.length) :: found.filter (·.1 ≠ id)) found =
      (ids.zipIdx found.length).reverse ++ found := by
  induction ids generalizing found with
  | nil => rfl
  | cons id ids ih =>
    obtain ⟨hid, hids⟩ := List.nodup_cons.mp hids
    have hkeep : found.filter (·.1 ≠ id) = found :=
      List.filter_eq_self.mpr fun p hp => by simpa using hfound id List.mem_cons_self p hp
    rw [List.foldl_cons, hkeep, ih hids]
    · simp
    · intro other hother p hp
      rcases List.mem_cons.mp hp with rfl | hp
      · exact fun h : id = other => hid (h ▸ hother)
      · exact hfound other (List.mem_cons_of_mem _ hother) p hp

theorem positions_eq {ids : List String} (hids : ids.Nodup) :
    positions ids = ids.zipIdx.reverse := by
  rw [positions, foldl_positions hids [] (by simp)]
  simp

theorem position_getElem {ids : List String} (hids : ids.Nodup) {k : Nat} (hk : k < ids.length) :
    position ids ids[k] = k := by
  rw [position, positions_eq hids, lookup_of_mem (a := k), Option.getD_some]
  · rw [List.map_reverse, List.zipIdx_map_fst]
    exact (List.reverse_perm ids).symm.nodup hids
  · rw [List.mem_reverse, List.mem_zipIdx_iff_getElem?]
    simp

theorem map_position {ids : List String} (hids : ids.Nodup) :
    ids.map (position ids) = List.range ids.length :=
  List.ext_getElem (by simp) fun k hk _ => by
    simp [position_getElem hids]

/-- The records with their positions, in order of these. -/
def sorted (ids : List String) (records : List (Record σ)) : List (Nat × Record σ) :=
  (records.map fun r => (position ids r.id, r)).mergeSort fun a b => a.1 ≤ b.1

theorem inOrder_eq (ids : List String) (records : List (Record σ)) :
    inOrder ids records = (sorted ids records).map (·.2) := rfl

theorem sorted_perm (ids : List String) (records : List (Record σ)) :
    (sorted ids records).Perm (records.map fun r => (position ids r.id, r)) :=
  List.mergeSort_perm ..

theorem inOrder_perm (ids : List String) (records : List (Record σ)) :
    (inOrder ids records).Perm records := by
  refine ((sorted_perm ids records).map (·.2)).trans (.of_eq ?_)
  simp [Function.comp_def]

theorem fst_sorted (ids : List String) (records : List (Record σ)) :
    (sorted ids records).map (·.1) = (inOrder ids records).map fun r => position ids r.id := by
  rw [inOrder_eq, List.map_map]
  refine List.map_congr_left fun p hp => ?_
  obtain ⟨r, -, rfl⟩ := List.mem_map.mp ((sorted_perm ids records).subset hp)
  rfl

theorem pairwise_sorted (ids : List String) (records : List (Record σ)) :
    ((sorted ids records).map (·.1)).Pairwise (· ≤ ·) := by
  rw [List.pairwise_map]
  refine (List.pairwise_mergeSort ?_ ?_ _).imp of_decide_eq_true
  · intro a b c hab hbc
    exact decide_eq_true (Nat.le_trans (of_decide_eq_true hab) (of_decide_eq_true hbc))
  · intro a b
    simpa using Nat.le_total a.1 b.1

/-- Records that bear the identifiers, in whatever order, are put at the positions of these. -/
theorem map_position_inOrder {ids : List String} (hids : ids.Nodup) {records : List (Record σ)}
    (hperm : (records.map (·.id)).Perm ids) :
    (inOrder ids records).map (fun r => position ids r.id) = List.range ids.length := by
  have hrange : ((inOrder ids records).map fun r => position ids r.id).Perm
      (List.range ids.length) := by
    rw [← map_position hids]
    have h := (((inOrder_perm ids records).map (·.id)).trans hperm).map (position ids)
    rwa [List.map_map] at h
  refine List.Perm.eq_of_pairwise (fun a b _ _ => Nat.le_antisymm) ?_ List.pairwise_le_range hrange
  rw [← fst_sorted]
  exact pairwise_sorted ids records

end Run

end Testbed
