import Forwarding.Ascending
import Mathlib.Data.List.Basic

/-!
# Ascending lists as sets

For a comparison that is an order, the set of a list's elements is strictly ascending
(`ascends_ascending`) and holds the elements of the list up to equality in that order
(`mem_of_mem_ascending`, `exists_eq_mem_ascending`).  If the comparison tells different elements
apart, it holds exactly the elements of the list (`mem_ascending`), each once
(`nodup_ascending`), and does not depend on their order (`ascending_eq_of_mem_iff`).  Elements that
are compared by a key have the keys in the same order (`map_ascending`).
-/

namespace Forwarding

variable {α : Type} {cmp : α → α → Ordering} {x y : α} {xs : List α}

/-- The list is strictly ascending. -/
def Ascends (cmp : α → α → Ordering) (xs : List α) : Prop :=
  xs.Pairwise fun a b => cmp a b = .lt

/-! ### One more element -/

theorem mem_of_mem_insertAscending (h : y ∈ insertAscending cmp x xs) : y = x ∨ y ∈ xs := by
  induction xs with
  | nil => exact Or.inl (List.mem_singleton.1 h)
  | cons z zs ih =>
    unfold insertAscending at h
    split at h
    · exact List.mem_cons.1 h
    · exact Or.inr h
    · rcases List.mem_cons.1 h with rfl | h
      · exact Or.inr List.mem_cons_self
      · exact (ih h).imp_right (List.mem_cons_of_mem z)

theorem mem_insertAscending_of_mem (h : y ∈ xs) : y ∈ insertAscending cmp x xs := by
  induction xs with
  | nil => cases h
  | cons z zs ih =>
    unfold insertAscending
    split
    · exact List.mem_cons_of_mem x h
    · exact h
    · rcases List.mem_cons.1 h with rfl | h
      · exact List.mem_cons_self
      · exact List.mem_cons_of_mem z (ih h)

theorem exists_eq_mem_insertAscending [Std.ReflCmp cmp] (x : α) (xs : List α) :
    ∃ y ∈ insertAscending cmp x xs, cmp x y = .eq := by
  induction xs with
  | nil => exact ⟨x, List.mem_cons_self, Std.ReflCmp.compare_self⟩
  | cons z zs ih =>
    unfold insertAscending
    split
    · exact ⟨x, List.mem_cons_self, Std.ReflCmp.compare_self⟩
    · rename_i heq
      exact ⟨z, List.mem_cons_self, heq⟩
    · obtain ⟨y, hy, heq⟩ := ih
      exact ⟨y, List.mem_cons_of_mem z hy, heq⟩

theorem ascends_insertAscending [Std.TransCmp cmp] (h : Ascends cmp xs) :
    Ascends cmp (insertAscending cmp x xs) := by
  induction xs with
  | nil => exact List.pairwise_singleton _ x
  | cons z zs ih =>
    obtain ⟨hz, hzs⟩ := List.pairwise_cons.1 h
    unfold insertAscending
    split
    · rename_i hlt
      refine List.pairwise_cons.2 ⟨fun y hy => ?_, h⟩
      rcases List.mem_cons.1 hy with rfl | hy
      · exact hlt
      · exact Std.TransCmp.lt_trans hlt (hz y hy)
    · exact h
    · rename_i hgt
      refine List.pairwise_cons.2 ⟨fun y hy => ?_, ih hzs⟩
      rcases mem_of_mem_insertAscending hy with rfl | hy
      · exact Std.OrientedCmp.gt_iff_lt.1 hgt
      · exact hz y hy

/-! ### All elements of a list -/

/-- What holds of the empty set and is kept by one more element holds of every set. -/
theorem ascending_induction {P : List α → Prop} (nil : P [])
    (insert : ∀ x ∈ xs, ∀ set, P set → P (insertAscending cmp x set)) : P (ascending cmp xs) :=
  List.foldlRecOn xs _ nil fun set hset x hx => insert x hx set hset

theorem ascends_ascending [Std.TransCmp cmp] (xs : List α) : Ascends cmp (ascending cmp xs) :=
  ascending_induction List.Pairwise.nil fun _ _ _ => ascends_insertAscending

theorem mem_of_mem_ascending (h : y ∈ ascending cmp xs) : y ∈ xs := by
  have hall : ∀ z ∈ ascending cmp xs, z ∈ xs := by
    refine ascending_induction (P := fun set => ∀ z ∈ set, z ∈ xs) (List.forall_mem_nil _) ?_
    intro x hx set hset z hz
    rcases mem_of_mem_insertAscending hz with rfl | hz
    · exact hx
    · exact hset z hz
  exact hall y h

theorem exists_eq_mem_ascending [Std.ReflCmp cmp] (h : x ∈ xs) :
    ∃ y ∈ ascending cmp xs, cmp x y = .eq := by
  unfold ascending
  generalize ([] : List α) = set
  induction xs generalizing set with
  | nil => cases h
  | cons z zs ih =>
    rw [List.foldl_cons]
    rcases List.mem_cons.1 h with rfl | h
    · obtain ⟨y, hy, heq⟩ : ∃ y ∈ insertAscending cmp x set, cmp x y = .eq :=
        exists_eq_mem_insertAscending x set
      refine ⟨y, ?_, heq⟩
      -- what is in the set stays in it
      exact List.foldlRecOn zs _ hy fun _ hmem _ _ => mem_insertAscending_of_mem hmem
    · exact ih h _

theorem mem_ascending [Std.LawfulEqCmp cmp] : y ∈ ascending cmp xs ↔ y ∈ xs := by
  refine ⟨mem_of_mem_ascending, fun h => ?_⟩
  obtain ⟨z, hz, heq⟩ : ∃ z ∈ ascending cmp xs, cmp y z = .eq := exists_eq_mem_ascending h
  rwa [Std.LawfulEqCmp.eq_of_compare heq]

theorem nodup_ascending [Std.TransCmp cmp] (xs : List α) : (ascending cmp xs).Nodup := by
  have hascends : Ascends cmp (ascending cmp xs) := ascends_ascending xs
  refine hascends.imp ?_
  rintro a b hlt rfl
  have hsame : cmp a a = .eq := Std.ReflCmp.compare_self
  rw [hsame] at hlt
  cases hlt

/-- A set is settled by its elements. -/
theorem ascending_eq_of_mem_iff [Std.TransCmp cmp] [Std.LawfulEqCmp cmp] {ys : List α}
    (h : ∀ x, x ∈ xs ↔ x ∈ ys) : ascending cmp xs = ascending cmp ys := by
  have hperm : (ascending cmp xs).Perm (ascending cmp ys) := by
    refine (List.perm_ext_iff_of_nodup (nodup_ascending xs) (nodup_ascending ys)).2 fun x => ?_
    rw [mem_ascending, mem_ascending, h]
  -- two elements cannot each come before the other
  have hasymm : ∀ a b, cmp a b = .lt → cmp b a = .lt → a = b := fun a b hab hba => by
    rw [Std.OrientedCmp.gt_iff_lt.2 hab] at hba
    cases hba
  exact hperm.eq_of_pairwise (fun a b _ _ => hasymm a b) (ascends_ascending xs)
    (ascends_ascending ys)

/-! ### Keys -/

section Keys

variable {β : Type} {key : α → β} {cmpKey : β → β → Ordering}
  (hkey : ∀ a b, cmp a b = cmpKey (key a) (key b))

include hkey

theorem map_insertAscending (x : α) (xs : List α) :
    (insertAscending cmp x xs).map key = insertAscending cmpKey (key x) (xs.map key) := by
  induction xs with
  | nil => rfl
  | cons y ys ih =>
    rw [insertAscending, List.map_cons, insertAscending, hkey]
    cases cmpKey (key x) (key y) with
    | lt => rfl
    | eq => rfl
    | gt => rw [← ih]; rfl

/-- Elements that are compared by a key have the keys in the same order. -/
theorem map_ascending (xs : List α) :
    (ascending cmp xs).map key = ascending cmpKey (xs.map key) := by
  rw [ascending, ascending, List.foldl_map]
  exact (List.foldl_hom (List.map key) fun set x => (map_insertAscending hkey x set).symm).symm

end Keys

end Forwarding
