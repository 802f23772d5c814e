import DataQuality.Proofs.Dataset.Distinct
import DataQuality.Proofs.Number.Cell
import DataQuality.Proofs.Number.Exact
import DataQuality.Rule.Aggregation

/-!
# What an aggregation computes

Several columns are reduced one by one, and their results combined; columns without numbers are
passed over, and at the end a missing result may be replaced. Without a grouping column this comes
to a description that knows of no columns (`DataQuality.aggregatesFlat`): all the numbers that stand
in the listed columns form one list, `DataQuality.listedNumbers`, and

* the numbers that take part are counted there, or, the distinct ones, column by column;
* the least and the greatest are the extremes of that list (`DataQuality.IsExtreme`);
* what is said of no numbers at all is said when that list is empty.

A result is compared with another one as a number, so that a zero has no sign
(`DataQuality.SameResult`). The distinction matters: of a negative zero and a positive one either
may be found to be the least, depending on which of them comes first.

The count is given as a float. It is exact up to `2 ^ 53`, the last number up to which every whole
number is a float, and nothing is said of it beyond.
-/

namespace DataQuality

/-- All numbers in the **listed columns** of some rows. A column that is listed twice counts
twice. -/
def listedNumbers (spec : String) (rows : List Row) : List Float :=
  (columnNames spec).flatMap (columnNumbers rows)

/-- How many **different values** some numbers have. A zero has no sign here. -/
def valueCount (xs : List Float) : Nat := (xs.map Number.toRat?).toFinset.card

/-- Two results that are **the same number**, or both missing. -/
def SameResult : Option Float → Option Float → Prop := Option.Rel fun x y => (x == y) = true

/-- The numbers in a column are finite. -/
theorem isFinite_of_mem_columnNumbers {rows : List Row} {name : String} {x : Float}
    (h : x ∈ columnNumbers rows name) : x.isFinite = true := by
  obtain ⟨row, -, hrow⟩ := List.mem_filterMap.mp h
  obtain ⟨cell, -, hcell⟩ := Option.bind_eq_some_iff.mp hrow
  exact Cell.isFinite_of_number? hcell

/-! ### Distinct numbers -/

/-- The bits by which numbers are told apart. -/
def valueBits (x : Float) : UInt64 := (x + 0.0).toBits

/-- **The bits tell values apart**, and nothing else. -/
theorem valueBits_eq_iff {x y : Float} (hx : x.isFinite = true) (hy : y.isFinite = true) :
    valueBits x = valueBits y ↔ Number.toRat? x = Number.toRat? y :=
  Float.toBits_inj.trans (Number.add_zero_eq_iff hx hy)

/-- The distinct numbers are collected like any distinct elements, by their bits. -/
theorem addNew_map_valueBits {seen seen' : List UInt64} (h : ∀ b, b ∈ seen ↔ b ∈ seen')
    (xs : List Float) :
    addNew seen (xs.map valueBits) = seen ++ (distinctNumbers seen' xs).map valueBits := by
  -- the two collections put what they have seen in different orders, and only ask what is in it
  induction xs generalizing seen seen' with
  | nil => rw [List.map_nil, addNew, distinctNumbers, List.map_nil, List.append_nil]
  | cons x xs ih =>
    have hseen : ∀ b, b ∈ seen ++ [valueBits x] ↔ b ∈ valueBits x :: seen' := by
      intro b
      rw [List.mem_append, List.mem_singleton, List.mem_cons, h, or_comm]
    rw [List.map_cons, addNew]
    change _ = seen ++ (if valueBits x ∈ seen' then distinctNumbers seen' xs
      else x :: distinctNumbers (valueBits x :: seen') xs).map valueBits
    by_cases hx : valueBits x ∈ seen
    · rw [if_pos hx, if_pos ((h _).mp hx), ih h]
    · rw [if_neg hx, if_neg (mt (h _).mpr hx), ih hseen, List.map_cons, List.append_assoc,
        List.singleton_append]

theorem map_valueBits_distinctNumbers (xs : List Float) :
    (distinctNumbers [] xs).map valueBits = addNew [] (xs.map valueBits) := by
  rw [addNew_map_valueBits (fun _ => Iff.rfl), List.nil_append]

theorem distinctNumbers_sublist (seen : List UInt64) (xs : List Float) :
    (distinctNumbers seen xs).Sublist xs := by
  induction xs generalizing seen with
  | nil => exact List.Sublist.refl _
  | cons x xs ih =>
    rw [distinctNumbers]
    split
    · exact (ih seen).cons x
    · exact (ih _).cons_cons x

section Finite

variable {xs : List Float} (hxs : ∀ x ∈ xs, x.isFinite = true)

include hxs

/-- **There is one distinct number for every value.** -/
theorem length_distinctNumbers : (distinctNumbers [] xs).length = valueCount xs := by
  calc (distinctNumbers [] xs).length = ((distinctNumbers [] xs).map valueBits).length :=
        (List.length_map _).symm
    _ = countDistinct (xs.map valueBits) := by rw [map_valueBits_distinctNumbers, countDistinct]
    _ = (xs.map valueBits).toFinset.card := countDistinct_eq_card _
    _ = valueCount xs :=
        card_map_congr fun x hx y hy => valueBits_eq_iff (hxs x hx) (hxs y hy)

/-- Every value is that of a distinct number. -/
theorem exists_mem_distinctNumbers {x : Float} (hx : x ∈ xs) :
    ∃ y ∈ distinctNumbers [] xs, Number.toRat? y = Number.toRat? x := by
  have hmem : valueBits x ∈ (distinctNumbers [] xs).map valueBits := by
    rw [map_valueBits_distinctNumbers, mem_addNew]
    exact .inr (List.mem_map_of_mem hx)
  obtain ⟨y, hy, hbits⟩ := List.mem_map.mp hmem
  have hfinite := hxs y ((distinctNumbers_sublist [] xs).mem hy)
  exact ⟨y, hy, (valueBits_eq_iff hfinite (hxs x hx)).mp hbits⟩

end Finite

/-! ### Extremes -/

/-- A result that **comes first among some numbers** in an order: it is one of them, and comes
before all of them. It is missing exactly if there are no numbers. -/
def IsExtreme (before : Float → Float → Prop) (xs : List Float) : Option Float → Prop
  | none => xs = []
  | some x => x ∈ xs ∧ ∀ y ∈ xs, before x y

namespace AggregationKind

/-- The kinds that **pick** one of the numbers, and the order in which they pick the first one. -/
inductive Picks : AggregationKind → (Float → Float → Prop) → Prop
  /-- The least number. -/
  | min : Picks .min (· ≤ ·)
  /-- The greatest number. -/
  | max : Picks .max (· ≥ ·)

/-- The value by which a kind compares: behind a minus the greatest comes first. -/
def rank : AggregationKind → ℚ → ℚ
  | .max, p => -p
  | _, p => p

theorem rank_injective (kind : AggregationKind) : Function.Injective kind.rank := by
  cases kind with
  | max => exact neg_injective
  | _ => exact fun _ _ h => h

namespace Picks

variable {kind : AggregationKind} {before : Float → Float → Prop} (h : kind.Picks before)

include h

theorem before_iff {x y : Float} {p q : ℚ} (hx : Number.toRat? x = some p)
    (hy : Number.toRat? y = some q) : before x y ↔ kind.rank p ≤ kind.rank q := by
  cases h with
  | min => exact Number.le_iff_of_toRat? hx hy
  | max => exact (Number.le_iff_of_toRat? hy hx).trans neg_le_neg_iff.symm

theorem trans {x y z : Float} (hx : x.isFinite = true) (hy : y.isFinite = true)
    (hz : z.isFinite = true) (hxy : before x y) (hyz : before y z) : before x z := by
  obtain ⟨p, hp⟩ := Number.isFinite_iff.mp hx
  obtain ⟨q, hq⟩ := Number.isFinite_iff.mp hy
  obtain ⟨r, hr⟩ := Number.isFinite_iff.mp hz
  rw [h.before_iff hp hq] at hxy
  rw [h.before_iff hq hr] at hyz
  exact (h.before_iff hp hr).mpr (hxy.trans hyz)

/-- Of two numbers **one comes before the other**. -/
theorem total {x y : Float} (hx : x.isFinite = true) (hy : y.isFinite = true)
    (hyx : ¬before y x) : before x y := by
  obtain ⟨p, hp⟩ := Number.isFinite_iff.mp hx
  obtain ⟨q, hq⟩ := Number.isFinite_iff.mp hy
  rw [h.before_iff hq hp] at hyx
  exact (h.before_iff hp hq).mpr (le_of_not_ge hyx)

/-- Two numbers that come before each other are **one number**. -/
theorem beq_of_before {x y : Float} (hx : x.isFinite = true) (hy : y.isFinite = true)
    (hxy : before x y) (hyx : before y x) : (x == y) = true := by
  obtain ⟨p, hp⟩ := Number.isFinite_iff.mp hx
  obtain ⟨q, hq⟩ := Number.isFinite_iff.mp hy
  rw [h.before_iff hp hq] at hxy
  rw [h.before_iff hq hp] at hyx
  exact (Number.beq_iff_of_toRat? hp hq).mpr (kind.rank_injective (le_antisymm hxy hyx))

theorem before_of_toRat?_eq {x y : Float} (hx : x.isFinite = true)
    (hxy : Number.toRat? x = Number.toRat? y) : before x y := by
  obtain ⟨p, hp⟩ := Number.isFinite_iff.mp hx
  exact (h.before_iff hp (hxy.symm.trans hp)).mpr le_rfl

theorem before_self {x : Float} (hx : x.isFinite = true) : before x x :=
  h.before_of_toRat?_eq hx rfl

/-- **Combining two numbers** picks the one that comes first. -/
theorem combine_spec {x y : Float} (hx : x.isFinite = true) (hy : y.isFinite = true) :
    (kind.combine x y = x ∨ kind.combine x y = y) ∧
      before (kind.combine x y) x ∧ before (kind.combine x y) y := by
  have hnumber := Number.isNaN_of_isFinite hx
  have hcombine : (before y x ∧ kind.combine x y = y) ∨ (¬before y x ∧ kind.combine x y = x) := by
    cases h with
    | min =>
      rw [combine, lesser, if_neg (Bool.eq_false_iff.mp hnumber)]
      split
      · next hle => exact .inl ⟨hle, rfl⟩
      · next hle => exact .inr ⟨hle, rfl⟩
    | max =>
      rw [combine, greater, if_neg (Bool.eq_false_iff.mp hnumber)]
      split
      · next hle => exact .inl ⟨hle, rfl⟩
      · next hle => exact .inr ⟨hle, rfl⟩
  rcases hcombine with ⟨hyx, heq⟩ | ⟨hyx, heq⟩
  · rw [heq]
    exact ⟨.inr rfl, hyx, h.before_self hy⟩
  · rw [heq]
    exact ⟨.inl rfl, h.before_self hx, h.total hx hy hyx⟩

/-- The infinity that a reduction starts from gives way to the first number. -/
theorem reduce_cons {x : Float} (hx : x.isFinite = true) (xs : List Float) :
    kind.reduce (x :: xs) = xs.foldl kind.combine x := by
  obtain ⟨p, hp⟩ := Number.isFinite_iff.mp hx
  obtain ⟨hbelow, habove⟩ := Number.compare_infinity hp
  cases h with
  | min =>
    have hle : x ≤ Number.infinity := by
      have hinfinity : Number.infinity.toModel.unpack = .infinity .positive := rfl
      rw [Number.le_iff_compare, hinfinity, hbelow]
      rfl
    have hstart : lesser Number.infinity x = x := by
      rw [lesser, if_neg (by decide), if_pos hle]
    rw [reduce, least, List.foldl_cons, hstart]
    rfl
  | max =>
    have hle : -Number.infinity ≤ x := by
      have hinfinity : (-Number.infinity).toModel.unpack = .infinity .negative := rfl
      rw [Number.le_iff_compare, hinfinity, habove]
      rfl
    have hstart : greater (-Number.infinity) x = x := by
      rw [greater, if_neg (by decide), if_pos hle]
    rw [reduce, greatest, List.foldl_cons, hstart]
    rfl

/-- A picked number that is missing is not replaced. -/
theorem ofNothing_eq : kind.ofNothing = none := by
  cases h <;> rfl

end Picks

end AggregationKind

namespace IsExtreme

open AggregationKind

section Picked

variable {kind : AggregationKind} {before : Float → Float → Prop} (h : kind.Picks before)

include h

/-- **The extreme of two lists** is that of their extremes. -/
theorem combine {xs ys : List Float} {a b : Float} (hxs : ∀ x ∈ xs, x.isFinite = true)
    (hys : ∀ y ∈ ys, y.isFinite = true) (ha : IsExtreme before xs (some a))
    (hb : IsExtreme before ys (some b)) :
    IsExtreme before (xs ++ ys) (some (kind.combine a b)) := by
  have hafinite := hxs a ha.1
  have hbfinite := hys b hb.1
  obtain ⟨hpick, hbeforea, hbeforeb⟩ := h.combine_spec hafinite hbfinite
  have hmem : kind.combine a b ∈ xs ++ ys := by
    rcases hpick with heq | heq
    · rw [heq]
      exact List.mem_append_left ys ha.1
    · rw [heq]
      exact List.mem_append_right xs hb.1
  have hfinite : (kind.combine a b).isFinite = true := by
    rcases hpick with heq | heq
    · rwa [heq]
    · rwa [heq]
  refine ⟨hmem, fun z hz => ?_⟩
  rcases List.mem_append.mp hz with hz | hz
  · exact h.trans hfinite hafinite (hxs z hz) hbeforea (ha.2 z hz)
  · exact h.trans hfinite hbfinite (hys z hz) hbeforeb (hb.2 z hz)

theorem singleton {x : Float} (hx : x.isFinite = true) : IsExtreme before [x] (some x) := by
  refine ⟨List.mem_singleton_self x, fun y hy => ?_⟩
  rw [List.mem_singleton.mp hy]
  exact h.before_self hx

/-- Combining further numbers one by one **keeps the extreme**. -/
theorem foldl_combine {xs ys : List Float} {a : Float} (hxs : ∀ x ∈ xs, x.isFinite = true)
    (hys : ∀ y ∈ ys, y.isFinite = true) (ha : IsExtreme before xs (some a)) :
    IsExtreme before (xs ++ ys) (some (ys.foldl kind.combine a)) := by
  induction ys generalizing xs a with
  | nil => rwa [List.append_nil, List.foldl_nil]
  | cons y ys ih =>
    obtain ⟨hy, hys⟩ := List.forall_mem_cons.mp hys
    have hsingle : ∀ z ∈ [y], z.isFinite = true := List.forall_mem_singleton.mpr hy
    -- the invariant holds of the numbers combined so far, with the next one behind them
    rw [List.append_cons, List.foldl_cons]
    exact ih (List.forall_mem_append.mpr ⟨hxs, hsingle⟩) hys
      (combine h hxs hsingle ha (singleton h hy))

/-- **A column is reduced to its extreme.** -/
theorem reduce {x : Float} {xs : List Float} (hxs : ∀ y ∈ x :: xs, y.isFinite = true) :
    IsExtreme before (x :: xs) (some (kind.reduce (x :: xs))) := by
  obtain ⟨hx, hrest⟩ := List.forall_mem_cons.mp hxs
  have hsingle : ∀ z ∈ [x], z.isFinite = true := List.forall_mem_singleton.mpr hx
  rw [h.reduce_cons hx]
  exact foldl_combine h hsingle hrest (singleton h hx)

/-- One more column **keeps the extreme** of all numbers so far. -/
theorem addColumn {xs ys : List Float} {a : Aggregate} (hxs : ∀ x ∈ xs, x.isFinite = true)
    (hys : ∀ y ∈ ys, y.isFinite = true) (ha : IsExtreme before xs a.value) :
    IsExtreme before (xs ++ ys) (a.addColumn kind ys).value := by
  cases ys with
  | nil => rwa [List.append_nil]
  | cons y ys =>
    have hreduced := reduce h hys
    cases hvalue : a.value with
    | none =>
      rw [hvalue] at ha
      obtain rfl : xs = [] := ha
      rw [Aggregate.addColumn, hvalue]
      exact hreduced
    | some b =>
      rw [hvalue] at ha
      rw [Aggregate.addColumn, hvalue]
      exact combine h hxs hys ha hreduced

theorem foldl_addColumn {xs : List Float} {columns : List (List Float)} {a : Aggregate}
    (hxs : ∀ x ∈ xs, x.isFinite = true) (hcolumns : ∀ x ∈ columns.flatten, x.isFinite = true)
    (ha : IsExtreme before xs a.value) :
    IsExtreme before (xs ++ columns.flatten)
      (columns.foldl (Aggregate.addColumn kind) a).value := by
  induction columns generalizing xs a with
  | nil => rwa [List.flatten_nil, List.append_nil]
  | cons ys columns ih =>
    rw [List.flatten_cons, List.forall_mem_append] at hcolumns
    rw [List.flatten_cons, ← List.append_assoc, List.foldl_cons]
    refine ih ?_ hcolumns.2 (addColumn h hxs hcolumns.1 ha)
    exact List.forall_mem_append.mpr ⟨hxs, hcolumns.1⟩

/-- **Several columns are reduced to the extreme of all their numbers.** -/
theorem ofColumns {columns : List (List Float)}
    (hcolumns : ∀ x ∈ columns.flatten, x.isFinite = true) :
    IsExtreme before columns.flatten (Aggregate.ofColumns kind columns).value := by
  have hstart : IsExtreme before [] (Aggregate.mk none 0).value := rfl
  have hextreme := foldl_addColumn h (fun x hx => by cases hx) hcolumns hstart
  rw [List.nil_append] at hextreme
  rwa [Aggregate.ofColumns, h.ofNothing_eq, Option.or_none]

/-- Some numbers have the extreme of all when every value is theirs. -/
theorem of_subset {xs ys : List Float} {value : Option Float}
    (hxs : ∀ x ∈ xs, x.isFinite = true) (hsub : ys ⊆ xs)
    (hcover : ∀ x ∈ xs, ∃ y ∈ ys, Number.toRat? y = Number.toRat? x)
    (hvalue : IsExtreme before ys value) : IsExtreme before xs value := by
  cases value with
  | none =>
    -- without numbers among the some there are no values, and so none at all
    obtain rfl : ys = [] := hvalue
    refine List.eq_nil_iff_forall_not_mem.mpr fun x hx => ?_
    obtain ⟨y, hy, -⟩ := hcover x hx
    cases hy
  | some z =>
    refine ⟨hsub hvalue.1, fun x hx => ?_⟩
    obtain ⟨y, hy, heq⟩ := hcover x hx
    have hyfinite := hxs y (hsub hy)
    exact h.trans (hxs z (hsub hvalue.1)) hyfinite (hxs x hx) (hvalue.2 y hy)
      (h.before_of_toRat?_eq hyfinite heq)

/-- **The extreme is one number**, whatever the order of the list. -/
theorem same {xs ys : List Float} {v w : Option Float} (hxs : ∀ x ∈ xs, x.isFinite = true)
    (hperm : xs.Perm ys) (hv : IsExtreme before xs v) (hw : IsExtreme before ys w) :
    SameResult v w := by
  cases v with
  | none =>
    obtain rfl : xs = [] := hv
    obtain rfl := hperm.nil_eq
    cases w with
    | none => exact .none
    | some y => exact absurd hw.1 List.not_mem_nil
  | some x =>
    cases w with
    | none =>
      obtain rfl : ys = [] := hw
      rw [hperm.eq_nil] at hv
      exact absurd hv.1 List.not_mem_nil
    | some y =>
      have hy : y ∈ xs := hperm.mem_iff.mpr hw.1
      refine .some (h.beq_of_before (hxs x hv.1) (hxs y hy) (hv.2 y hy) ?_)
      exact hw.2 x (hperm.mem_iff.mp hv.1)

end Picked

end IsExtreme

/-! ### Counts -/

namespace Aggregate

/-- One more column adds **as many as it has numbers**. -/
theorem count_addColumn (kind : AggregationKind) (a : Aggregate) (xs : List Float) :
    (a.addColumn kind xs).count = a.count + xs.length := by
  cases xs <;> rfl

theorem count_foldl_addColumn (kind : AggregationKind) (a : Aggregate)
    (columns : List (List Float)) :
    (columns.foldl (addColumn kind) a).count = a.count + columns.flatten.length := by
  induction columns generalizing a with
  | nil => rfl
  | cons xs columns ih =>
    rw [List.foldl_cons, ih, count_addColumn, List.flatten_cons, List.length_append,
      Nat.add_assoc]

theorem count_ofColumns (kind : AggregationKind) (columns : List (List Float)) :
    (ofColumns kind columns).count = columns.flatten.length :=
  (count_foldl_addColumn kind ⟨none, 0⟩ columns).trans (Nat.zero_add _)

/-- Columns without numbers leave **nothing to reduce**. -/
theorem ofColumns_of_flatten_eq_nil (kind : AggregationKind) {columns : List (List Float)}
    (h : columns.flatten = []) : ofColumns kind columns = ⟨kind.ofNothing, 0⟩ := by
  have hskip : columns.foldl (addColumn kind) ⟨none, 0⟩ = ⟨none, 0⟩ := by
    induction columns with
    | nil => rfl
    | cons xs columns ih =>
      rw [List.flatten_cons, List.append_eq_nil_iff] at h
      rw [List.foldl_cons, h.1]
      exact ih h.2
  rw [ofColumns, hskip]
  rfl

/-- An aggregate whose result **is its count**, or that has not met a number yet. -/
def IsTally (a : Aggregate) : Prop :=
  a.value = some (Float.ofNat a.count) ∨ a.value = none ∧ a.count = 0

/-- One more column **keeps the count**, as long as it can be added exactly. -/
theorem IsTally.addColumn {a : Aggregate} (ha : a.IsTally) {xs : List Float}
    (hbound : a.count + xs.length ≤ 2 ^ 53) : (a.addColumn .count xs).IsTally := by
  cases xs with
  | nil => exact ha
  | cons x xs =>
    refine .inl ?_
    rcases ha with hvalue | ⟨hvalue, hcount⟩
    · rw [Aggregate.addColumn, hvalue]
      exact congrArg some (Number.ofNat_add_ofNat hbound)
    · rw [Aggregate.addColumn, hvalue, hcount, Nat.zero_add]
      rfl

theorem IsTally.foldl_addColumn {a : Aggregate} (ha : a.IsTally) {columns : List (List Float)}
    (hbound : a.count + columns.flatten.length ≤ 2 ^ 53) :
    (columns.foldl (Aggregate.addColumn .count) a).IsTally := by
  induction columns generalizing a with
  | nil => exact ha
  | cons xs columns ih =>
    rw [List.flatten_cons, List.length_append, ← Nat.add_assoc] at hbound
    refine ih (ha.addColumn (by omega)) ?_
    rwa [count_addColumn]

/-- **The count is the number of numbers**, as long as every whole number up to it is a float. -/
theorem value_ofColumns_count {columns : List (List Float)}
    (hbound : columns.flatten.length ≤ 2 ^ 53) :
    (ofColumns .count columns).value = some (Float.ofNat columns.flatten.length) := by
  have hcount := count_foldl_addColumn .count ⟨none, 0⟩ columns
  rw [Nat.zero_add] at hcount
  have hstart : IsTally ⟨none, 0⟩ := .inr ⟨rfl, rfl⟩
  have htally : IsTally (columns.foldl (addColumn .count) ⟨none, 0⟩) :=
    hstart.foldl_addColumn (by rwa [Nat.zero_add])
  rw [ofColumns]
  rcases htally with hvalue | ⟨hvalue, hzero⟩
  · rw [hvalue, hcount, Option.some_or]
  · rw [hvalue, ← hcount, hzero]
    rfl

/-- There always is a count. -/
theorem exists_value_ofColumns_count (columns : List (List Float)) :
    ∃ x, (ofColumns .count columns).value = some x := by
  rw [ofColumns]
  cases (columns.foldl (addColumn .count) ⟨none, 0⟩).value with
  | none => exact ⟨0, rfl⟩
  | some x => exact ⟨x, rfl⟩

/-- To be counted, columns need only **the same lengths**. -/
theorem ofColumns_count_congr {names : List String} {f g : String → List Float}
    (h : ∀ name, (f name).length = (g name).length) :
    ofColumns .count (names.map f) = ofColumns .count (names.map g) := by
  have hstep : ∀ {xs ys : List Float}, xs.length = ys.length →
      ∀ a : Aggregate, a.addColumn .count xs = a.addColumn .count ys := by
    intro xs ys hlength a
    cases xs with
    | nil => rw [List.eq_nil_of_length_eq_zero hlength.symm]
    | cons x xs =>
      cases ys with
      | nil => cases hlength
      | cons y ys =>
        rw [addColumn, addColumn, AggregationKind.reduce, AggregationKind.reduce, hlength]
        rfl
  have hfold : (fun (a : Aggregate) name => a.addColumn .count (f name)) =
      fun a name => a.addColumn .count (g name) := by
    funext a name
    exact hstep (h name) a
  rw [ofColumns, ofColumns, List.foldl_map, List.foldl_map, hfold]

/-! ### Ungrouped aggregates -/

section Taken

variable {rows : List Row} {name : String}

theorem taken_subset (distinct : Bool) : taken distinct rows name ⊆ columnNumbers rows name := by
  cases distinct with
  | false => exact List.Subset.refl _
  | true => exact (distinctNumbers_sublist [] _).subset

theorem length_taken_distinct :
    (taken true rows name).length = valueCount (columnNumbers rows name) :=
  length_distinctNumbers fun _ => isFinite_of_mem_columnNumbers

/-- Every value in a column is that of a number that takes part. -/
theorem exists_mem_taken (distinct : Bool) {x : Float} (hx : x ∈ columnNumbers rows name) :
    ∃ y ∈ taken distinct rows name, Number.toRat? y = Number.toRat? x := by
  cases distinct with
  | false => exact ⟨x, hx, rfl⟩
  | true => exact exists_mem_distinctNumbers (fun _ => isFinite_of_mem_columnNumbers) hx

/-- The order of the rows does not change how many numbers take part. -/
theorem length_taken_perm (distinct : Bool) {rows' : List Row} (h : rows'.Perm rows) :
    (taken distinct rows' name).length = (taken distinct rows name).length := by
  have hnumbers : (columnNumbers rows' name).Perm (columnNumbers rows name) := h.filterMap _
  cases distinct with
  | false => exact hnumbers.length_eq
  | true =>
    rw [length_taken_distinct, length_taken_distinct, valueCount, valueCount,
      List.toFinset_eq_of_perm _ _ (hnumbers.map _)]

end Taken

end Aggregate

theorem isFinite_of_mem_listedNumbers {spec : String} {rows : List Row} {x : Float}
    (h : x ∈ listedNumbers spec rows) : x.isFinite = true := by
  obtain ⟨name, -, hx⟩ := List.mem_flatMap.mp h
  exact isFinite_of_mem_columnNumbers hx

/-- The numbers that take part, column by column. -/
theorem Aggregate.mem_flatten_taken {distinct : Bool} {spec : String} {rows : List Row}
    {x : Float} : x ∈ ((columnNames spec).map (taken distinct rows)).flatten ↔
      ∃ name ∈ columnNames spec, x ∈ taken distinct rows name := by
  rw [← List.flatMap_def, List.mem_flatMap]

theorem Aggregate.flatten_taken_subset (distinct : Bool) (spec : String) (rows : List Row) :
    ((columnNames spec).map (taken distinct rows)).flatten ⊆ listedNumbers spec rows := by
  intro x hx
  obtain ⟨name, hname, hx⟩ := mem_flatten_taken.mp hx
  exact List.mem_flatMap.mpr ⟨name, hname, taken_subset distinct hx⟩

/-- **The least and the greatest number** are found among all numbers in the listed columns,
whether equal ones are passed over or not. -/
theorem isExtreme_ofRows {kind : AggregationKind} {before : Float → Float → Prop}
    (h : kind.Picks before) (distinct : Bool) (spec : String) (rows : List Row) :
    IsExtreme before (listedNumbers spec rows)
      (Aggregate.ofRows kind none distinct spec rows).value := by
  have hsubset := Aggregate.flatten_taken_subset distinct spec rows
  have htaken := IsExtreme.ofColumns h fun x hx => isFinite_of_mem_listedNumbers (hsubset hx)
  refine IsExtreme.of_subset h (fun _ => isFinite_of_mem_listedNumbers) hsubset ?_ htaken
  intro x hx
  obtain ⟨name, hname, hx⟩ := List.mem_flatMap.mp hx
  obtain ⟨y, hy, heq⟩ := Aggregate.exists_mem_taken distinct hx
  exact ⟨y, Aggregate.mem_flatten_taken.mpr ⟨name, hname, hy⟩, heq⟩

/-- Which of two zeros is the least depends on their order. -/
example : least [0, -0] = -0 ∧ least [-0, 0] = 0 := by decide

/-- How many numbers take part, column by column. -/
theorem Aggregate.count_ofRows (kind : AggregationKind) (distinct : Bool) (spec : String)
    (rows : List Row) : (ofRows kind none distinct spec rows).count =
      ((columnNames spec).map fun name => (taken distinct rows name).length).sum := by
  rw [ofRows, count_ofColumns, List.length_flatten, List.map_map]
  rfl

theorem Aggregate.value_ofRows_count {distinct : Bool} {spec : String} {rows : List Row}
    (hbound : (ofRows .count none distinct spec rows).count ≤ 2 ^ 53) :
    (ofRows .count none distinct spec rows).value =
      some (Float.ofNat (ofRows .count none distinct spec rows).count) := by
  rw [ofRows, count_ofColumns] at hbound ⊢
  exact value_ofColumns_count hbound

theorem Aggregate.ofRows_of_listedNumbers_eq_nil {spec : String} {rows : List Row}
    (h : listedNumbers spec rows = []) (kind : AggregationKind) (distinct : Bool) :
    ofRows kind none distinct spec rows = ⟨kind.ofNothing, 0⟩ := by
  have hsubset := flatten_taken_subset distinct spec rows
  rw [h] at hsubset
  exact ofColumns_of_flatten_eq_nil kind (List.subset_nil.mp hsubset)

/-- What **does not change** with the order of the rows and of the listed columns. -/
structure AggregatesInAnyOrder (spec spec' : String) (rows rows' : List Row) : Prop where
  /-- As many numbers take part. -/
  count_eq : ∀ kind distinct, (Aggregate.ofRows kind none distinct spec' rows').count =
    (Aggregate.ofRows kind none distinct spec rows).count
  /-- So the count is the same. -/
  value_count : ∀ distinct, (Aggregate.ofRows .count none distinct spec rows).count ≤ 2 ^ 53 →
    (Aggregate.ofRows .count none distinct spec' rows').value =
      (Aggregate.ofRows .count none distinct spec rows).value
  /-- The least and the greatest number are the same, also if equal numbers are passed over. -/
  extreme : ∀ {kind before}, kind.Picks before → ∀ distinct distinct',
    SameResult (Aggregate.ofRows kind none distinct' spec' rows').value
      (Aggregate.ofRows kind none distinct spec rows).value

/-- Without a grouping column, aggregates of the listed columns **are those of one list of
numbers**. -/
structure AggregatesFlat (spec : String) (rows : List Row) : Prop where
  /-- The numbers of a column are those that its cells hold, row by row. -/
  columnNumbers_eq : ∀ name,
    columnNumbers rows name = rows.filterMap fun row => (row.get? name).bind Cell.number?
  /-- All numbers take part. -/
  count_all : ∀ kind, (Aggregate.ofRows kind none false spec rows).count =
    (listedNumbers spec rows).length
  /-- Of the distinct ones there are as many as different values, column by column. -/
  count_distinct : ∀ kind, (Aggregate.ofRows kind none true spec rows).count =
    ((columnNames spec).map fun name => valueCount (columnNumbers rows name)).sum
  /-- There always is a count. It is how many numbers took part, as long as every whole number up to
  that is a float. -/
  value_count : ∀ distinct, ∃ x, (Aggregate.ofRows .count none distinct spec rows).value = some x ∧
    ((Aggregate.ofRows .count none distinct spec rows).count ≤ 2 ^ 53 →
      x = Float.ofNat (Aggregate.ofRows .count none distinct spec rows).count)
  /-- The least and the greatest number are extremes of the list, and missing if it is empty. -/
  extreme : ∀ {kind before}, kind.Picks before → ∀ distinct,
    IsExtreme before (listedNumbers spec rows)
      (Aggregate.ofRows kind none distinct spec rows).value
  /-- The sum of no numbers is zero. -/
  sum_of_nothing : listedNumbers spec rows = [] → ∀ distinct,
    (Aggregate.ofRows .sum none distinct spec rows).value = some 0
  /-- They have no mean. -/
  avg_of_nothing : listedNumbers spec rows = [] → ∀ distinct,
    (Aggregate.ofRows .avg none distinct spec rows).value = none
  /-- The order of the rows does not matter to the count … -/
  count_of_perm : ∀ {rows'}, rows'.Perm rows → ∀ distinct,
    Aggregate.ofRows .count none distinct spec rows' =
      Aggregate.ofRows .count none distinct spec rows
  /-- … nor does any order to what is counted and to the extremes. -/
  reorder : ∀ {spec' rows'}, (columnNames spec').Perm (columnNames spec) → rows'.Perm rows →
    AggregatesInAnyOrder spec spec' rows rows'

theorem aggregatesInAnyOrder {spec spec' : String} {rows rows' : List Row}
    (hspec : (columnNames spec').Perm (columnNames spec)) (hrows : rows'.Perm rows) :
    AggregatesInAnyOrder spec spec' rows rows' := by
  have hcount : ∀ kind distinct, (Aggregate.ofRows kind none distinct spec' rows').count =
      (Aggregate.ofRows kind none distinct spec rows).count := by
    intro kind distinct
    rw [Aggregate.count_ofRows, Aggregate.count_ofRows]
    simp only [Aggregate.length_taken_perm distinct hrows]
    exact (hspec.map _).sum_nat
  have hnumbers : (listedNumbers spec' rows').Perm (listedNumbers spec rows) :=
    hspec.flatMap fun _ _ => hrows.filterMap _
  refine ⟨hcount, fun distinct hbound => ?_, fun h distinct distinct' => ?_⟩
  · rw [Aggregate.value_ofRows_count hbound,
      Aggregate.value_ofRows_count (by rwa [hcount]), hcount]
  · exact IsExtreme.same h (fun _ => isFinite_of_mem_listedNumbers) hnumbers
      (isExtreme_ofRows h distinct' spec' rows') (isExtreme_ofRows h distinct spec rows)

/-- **Without a grouping column, an aggregate knows of no columns**: it is that of one list. -/
theorem aggregatesFlat (spec : String) (rows : List Row) : AggregatesFlat spec rows where
  columnNumbers_eq _ := rfl
  count_all kind := by
    rw [Aggregate.count_ofRows, listedNumbers, List.length_flatMap]
    rfl
  count_distinct kind := by
    rw [Aggregate.count_ofRows]
    simp only [Aggregate.length_taken_distinct]
  value_count distinct := by
    obtain ⟨x, hx⟩ := Aggregate.exists_value_ofColumns_count
      ((columnNames spec).map (Aggregate.taken distinct rows))
    refine ⟨x, hx, fun hbound => ?_⟩
    have hx := (Aggregate.value_ofRows_count hbound).symm.trans hx
    exact (Option.some.inj hx).symm
  extreme h distinct := isExtreme_ofRows h distinct spec rows
  sum_of_nothing h distinct := by
    rw [Aggregate.ofRows_of_listedNumbers_eq_nil h]
    rfl
  avg_of_nothing h distinct := by
    rw [Aggregate.ofRows_of_listedNumbers_eq_nil h]
    rfl
  count_of_perm h distinct :=
    Aggregate.ofColumns_count_congr fun _ => Aggregate.length_taken_perm distinct h
  reorder := aggregatesInAnyOrder

end DataQuality
