/-!
# Searching, splitting and ordering texts

The operations that rules need on texts, apart from trimming and case: whether one text begins with
or occurs in another, the pieces between commas, and the order of two texts. All of them go by code
points, which is also the order of the UTF-8 bytes.
-/

namespace DataQuality.Text

/-! ### Occurrence -/

/-- Whether the first text occurs in the second one, at any place. -/
def occursIn (part : List Char) : List Char → Bool
  | [] => part.isEmpty
  | c :: cs => part.isPrefixOf (c :: cs) || occursIn part cs

/-- Whether `s` contains `part`. -/
def contains (s part : String) : Bool := occursIn part.toList s.toList

/-- Whether `s` begins with `part`. -/
def startsWith (s part : String) : Bool := part.toList.isPrefixOf s.toList

/-- Whether `s` ends with `part`. -/
def endsWith (s part : String) : Bool := part.toList.isSuffixOf s.toList

/-- **Occurrence at any place**: the first text is a contiguous part of the second one. -/
theorem occursIn_iff {part cs : List Char} : occursIn part cs = true ↔ part <:+: cs := by
  induction cs with
  | nil => rw [occursIn, List.isEmpty_iff, List.infix_nil]
  | cons c cs ih =>
    rw [occursIn, Bool.or_eq_true, List.isPrefixOf_iff_prefix, ih, List.infix_cons_iff]

theorem contains_iff {s part : String} : contains s part = true ↔ part.toList <:+: s.toList :=
  occursIn_iff

theorem startsWith_iff {s part : String} :
    startsWith s part = true ↔ part.toList <+: s.toList :=
  List.isPrefixOf_iff_prefix

/-! ### Splitting -/

/-- The **pieces** of a list between the occurrences of a separator: always one more than there are
separators, the empty pieces included. -/
def pieces (sep : Char) : List Char → List (List Char)
  | [] => [[]]
  | c :: cs =>
    if c = sep then [] :: pieces sep cs
    else match pieces sep cs with
      | [] => [[c]]
      | p :: ps => (c :: p) :: ps

/-- What stands before the first occurrence of a separator, and what stands after it. -/
def cutAt? (sep : Char) : List Char → Option (List Char × List Char)
  | [] => none
  | c :: cs =>
    if c = sep then some ([], cs)
    else (cutAt? sep cs).map fun (before, after) => (c :: before, after)

/-- The pieces of a text between the occurrences of a separator. -/
def split (sep : Char) (s : String) : List String := (pieces sep s.toList).map String.ofList

/-- The two parts of a text around the first occurrence of a separator. -/
def splitOnce? (sep : Char) (s : String) : Option (String × String) :=
  (cutAt? sep s.toList).map fun (before, after) => (String.ofList before, String.ofList after)

/-- Without the separator in front of it, the first separator is the place to split at. -/
theorem splitOnce?_append {sep : Char} {before : String} (h : sep ∉ before.toList)
    (after : String) :
    splitOnce? sep (before ++ String.singleton sep ++ after) = some (before, after) := by
  have hcut : ∀ {cs : List Char}, sep ∉ cs →
      cutAt? sep (cs ++ sep :: after.toList) = some (cs, after.toList) := by
    intro cs hcs
    induction cs with
    | nil => rw [List.nil_append, cutAt?, if_pos rfl]
    | cons c cs ih =>
      rw [List.mem_cons, not_or] at hcs
      rw [List.cons_append, cutAt?, if_neg (Ne.symm hcs.1), ih hcs.2, Option.map_some]
  have htext : (before ++ String.singleton sep ++ after).toList =
      before.toList ++ sep :: after.toList := by
    simp
  rw [splitOnce?, htext, hcut h]
  exact congrArg some (Prod.ext String.ofList_toList String.ofList_toList)

/-! ### Order -/

/-- The lexicographic order by code point; a proper beginning of a text comes before it. -/
def orderChars : List Char → List Char → Ordering
  | [], [] => .eq
  | [], _ :: _ => .lt
  | _ :: _, [] => .gt
  | a :: as, b :: bs => (compare a.toNat b.toNat).then (orderChars as bs)

/-- The order of two texts by code point. -/
def order (a b : String) : Ordering := orderChars a.toList b.toList

/-- Only equal texts are in no order. -/
theorem orderChars_eq_iff {as bs : List Char} : orderChars as bs = .eq ↔ as = bs := by
  induction as generalizing bs with
  | nil => cases bs <;> simp [orderChars]
  | cons a as ih =>
    cases bs with
    | nil => simp [orderChars]
    | cons b bs =>
      rw [orderChars, Ordering.then_eq_eq, ih, Nat.compare_eq_eq, Char.toNat_inj, List.cons.injEq]

theorem order_eq_iff {a b : String} : order a b = .eq ↔ a = b := by
  rw [order, orderChars_eq_iff, String.toList_inj]

/-- The other way round the order is the opposite one. -/
theorem orderChars_swap (as bs : List Char) : orderChars bs as = (orderChars as bs).swap := by
  induction as generalizing bs with
  | nil => cases bs <;> rfl
  | cons a as ih =>
    cases bs with
    | nil => rfl
    | cons b bs => rw [orderChars, orderChars, ih, Ordering.swap_then, Nat.compare_swap]

theorem order_swap (a b : String) : order b a = (order a b).swap := orderChars_swap _ _

end DataQuality.Text
