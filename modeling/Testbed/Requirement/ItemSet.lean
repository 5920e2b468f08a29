/-! # Sets of items in order

A set is the list of its items in increasing order. Two sets with the same items
are the same list, whatever order and repetition they were given in.
-/

namespace Testbed

/-- Puts an item where it belongs in an increasing list, unless it is there. -/
def insertItem {α : Type} [Ord α] (x : α) : List α → List α
  | [] => [x]
  | y :: rest =>
    match compare x y with
    | .lt => x :: y :: rest
    | .eq => y :: rest
    | .gt => y :: insertItem x rest

theorem mem_insertItem {α : Type} [Ord α] [Std.LawfulEqOrd α] {x z : α} {items : List α} :
    z ∈ insertItem x items ↔ z = x ∨ z ∈ items := by
  induction items with
  | nil => simp [insertItem]
  | cons y rest ih =>
    rw [insertItem]
    split
    · simp
    · rename_i h
      simp [Std.LawfulEqOrd.eq_of_compare h]
    · simp only [List.mem_cons, ih]
      grind

/-- Each item is less than the ones after it. -/
def Ascending {α : Type} [Ord α] (items : List α) : Prop :=
  items.Pairwise fun x y => compare x y = .lt

theorem ascending_insertItem {α : Type} [Ord α] [Std.TransOrd α] (x : α) {items : List α}
    (h : Ascending items) : Ascending (insertItem x items) := by
  induction items with
  | nil => simp [insertItem, Ascending]
  | cons y rest ih =>
    have hy := List.pairwise_cons.mp h
    rw [insertItem]
    split
    · rename_i hxy
      refine List.pairwise_cons.mpr ⟨fun z hz => ?_, h⟩
      rcases List.mem_cons.mp hz with rfl | hz
      · exact hxy
      · exact Std.TransCmp.lt_trans hxy (hy.1 z hz)
    · exact h
    · rename_i hxy
      refine List.pairwise_cons.mpr ⟨fun z hz => ?_, ih hy.2⟩
      have hz : z = x ∨ z ∈ rest := by
        clear ih h hy
        induction rest with
        | nil => simpa [insertItem] using hz
        | cons w rest ih =>
          rw [insertItem] at hz
          split at hz <;> grind
      rcases hz with rfl | hz
      · exact Std.OrientedCmp.lt_of_gt hxy
      · exact hy.1 z hz

theorem Ascending.nodup {α : Type} [Ord α] [Std.TransOrd α] {items : List α}
    (h : Ascending items) : items.Nodup := by
  refine h.imp fun {x y} hlt heq => ?_
  subst heq
  simp at hlt

/-- Two increasing lists with the same items are the same list. -/
theorem Ascending.ext {α : Type} [Ord α] [Std.TransOrd α] {xs ys : List α} (hxs : Ascending xs)
    (hys : Ascending ys) (h : ∀ x, x ∈ xs ↔ x ∈ ys) : xs = ys := by
  have hperm : xs.Perm ys := (List.perm_ext_iff_of_nodup hxs.nodup hys.nodup).mpr h
  refine List.Perm.eq_of_pairwise (fun x y _ _ hxy hyx => ?_) hxs hys hperm
  rw [Std.OrientedCmp.gt_of_lt hxy] at hyx
  cases hyx

structure ItemSet (α : Type) [Ord α] where
  toList : List α
  ascending : Ascending toList
  deriving DecidableEq

namespace ItemSet

variable {α : Type} [Ord α]

def empty : ItemSet α :=
  ⟨[], .nil⟩

instance : Inhabited (ItemSet α) := ⟨empty⟩

def isEmpty (s : ItemSet α) : Bool :=
  s.toList.isEmpty

def contains (s : ItemSet α) (x : α) : Bool :=
  s.toList.any fun y => compare x y == .eq

def insert [Std.TransOrd α] (s : ItemSet α) (x : α) : ItemSet α :=
  ⟨insertItem x s.toList, ascending_insertItem x s.ascending⟩

def ofList [Std.TransOrd α] (items : List α) : ItemSet α :=
  items.foldr (fun x s => s.insert x) empty

/-- The items as texts, joined by commas. -/
def joined [ToString α] (s : ItemSet α) : String :=
  ", ".intercalate (s.toList.map toString)

theorem mem_toList_ofList [Std.TransOrd α] [Std.LawfulEqOrd α] {x : α} {items : List α} :
    x ∈ (ofList items).toList ↔ x ∈ items := by
  induction items with
  | nil => simp [ofList, empty]
  | cons y rest ih =>
    simp only [ofList, List.foldr_cons, insert, mem_insertItem, List.mem_cons]
    rw [← ih]
    rfl

theorem toList_ofList_eq_nil_iff [Std.TransOrd α] [Std.LawfulEqOrd α] {items : List α} :
    (ofList items).toList = [] ↔ items = [] := by
  simp only [List.eq_nil_iff_forall_not_mem, mem_toList_ofList]

@[ext]
theorem ext [Std.TransOrd α] {s t : ItemSet α} (h : ∀ x, x ∈ s.toList ↔ x ∈ t.toList) : s = t := by
  obtain ⟨xs, hxs⟩ := s
  obtain ⟨ys, hys⟩ := t
  obtain rfl : xs = ys := hxs.ext hys h
  rfl

/-- Neither order nor repetition counts. -/
theorem ofList_congr [Std.TransOrd α] [Std.LawfulEqOrd α] {items items' : List α}
    (h : ∀ x, x ∈ items ↔ x ∈ items') : ofList items = ofList items' := by
  ext x
  rw [mem_toList_ofList, mem_toList_ofList, h]

theorem contains_iff [Std.TransOrd α] [Std.LawfulEqOrd α] {s : ItemSet α} {x : α} :
    s.contains x = true ↔ x ∈ s.toList := by
  simp only [contains, List.any_eq_true, beq_iff_eq]
  constructor
  · rintro ⟨y, hy, h⟩
    exact Std.LawfulEqOrd.eq_of_compare h ▸ hy
  · exact fun h => ⟨x, h, Std.ReflCmp.compare_self⟩

end ItemSet

end Testbed
