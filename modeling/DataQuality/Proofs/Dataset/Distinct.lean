import DataQuality.Dataset.Profile
import Mathlib.Data.Finset.Card
import Mathlib.Data.List.Perm.Basic

/-!
# Counting distinct elements

Distinct elements are counted by collecting them in the order of first appearance. How many there
are is the size of a finite set (`DataQuality.countDistinct_eq_card`), and so it does not depend on
the order, and not on the names that the elements are collected under, as long as the same ones go
by the same name (`DataQuality.card_map_congr`).
-/

namespace DataQuality

section Collecting

variable {α : Type} [DecidableEq α]

/-- What is collected are the elements seen before and the new ones. -/
theorem mem_addNew {seen xs : List α} {a : α} : a ∈ addNew seen xs ↔ a ∈ seen ∨ a ∈ xs := by
  induction xs generalizing seen with
  | nil => simp [addNew]
  | cons x xs ih =>
    rw [addNew]
    split
    · next h =>
      rw [ih, List.mem_cons]
      constructor
      · rintro (ha | ha)
        · exact .inl ha
        · exact .inr (.inr ha)
      · rintro (ha | rfl | ha)
        · exact .inl ha
        · exact .inl h
        · exact .inr ha
    · rw [ih, List.mem_append, List.mem_singleton, List.mem_cons, or_assoc]

/-- Nothing is collected twice. -/
theorem nodup_addNew {seen : List α} (h : seen.Nodup) (xs : List α) : (addNew seen xs).Nodup := by
  induction xs generalizing seen with
  | nil => exact h
  | cons x xs ih =>
    rw [addNew]
    split
    · exact ih h
    · next hx => exact ih (h.append (List.nodup_singleton x) (List.disjoint_singleton.mpr hx))

/-- **The distinct elements are counted** as those of a finite set. -/
theorem countDistinct_eq_card (xs : List α) : countDistinct xs = xs.toFinset.card := by
  have hset : (addNew [] xs).toFinset = xs.toFinset := by
    ext a
    simp [mem_addNew]
  rw [countDistinct, ← hset, List.toFinset_card_of_nodup (nodup_addNew List.nodup_nil xs)]

theorem countDistinct_perm {xs ys : List α} (h : xs.Perm ys) :
    countDistinct xs = countDistinct ys := by
  rw [countDistinct_eq_card, countDistinct_eq_card, List.toFinset_eq_of_perm _ _ h]

theorem countDistinct_le_length (xs : List α) : countDistinct xs ≤ xs.length := by
  rw [countDistinct_eq_card]
  exact xs.toFinset_card_le

/-- **All elements are counted** exactly when none of them repeats. -/
theorem countDistinct_eq_length_iff {xs : List α} :
    countDistinct xs = xs.length ↔ xs.Nodup := by
  rw [countDistinct_eq_card]
  constructor
  · intro h
    exact Multiset.coe_nodup.mp (Multiset.toFinset_card_eq_card_iff_nodup.mp h)
  · exact List.toFinset_card_of_nodup

theorem countDistinct_pos_iff {xs : List α} : 0 < countDistinct xs ↔ xs ≠ [] := by
  rw [countDistinct_eq_card, Finset.card_pos, List.toFinset_nonempty_iff]

end Collecting

/-- **Elements may be counted under any names** that tell the same of them apart. -/
theorem card_map_congr {α β γ : Type} [DecidableEq β] [DecidableEq γ] {f : α → β} {g : α → γ}
    {xs : List α} (h : ∀ a ∈ xs, ∀ b ∈ xs, f a = f b ↔ g a = g b) :
    (xs.map f).toFinset.card = (xs.map g).toFinset.card := by
  induction xs with
  | nil => rfl
  | cons x xs ih =>
    have hmem : f x ∈ (xs.map f).toFinset ↔ g x ∈ (xs.map g).toFinset := by
      simp only [List.mem_toFinset, List.mem_map]
      refine exists_congr fun a => and_congr_right fun ha => ?_
      exact h a (List.mem_cons_of_mem x ha) x List.mem_cons_self
    have ih := ih fun a ha b hb => h a (List.mem_cons_of_mem x ha) b (List.mem_cons_of_mem x hb)
    rw [List.map_cons, List.map_cons, List.toFinset_cons, List.toFinset_cons,
      Finset.card_insert_eq_ite, Finset.card_insert_eq_ite, ih]
    exact if_congr hmem rfl rfl

end DataQuality
