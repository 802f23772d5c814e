import DataQuality.Error
import DataQuality.Rule.Document

/-!
# Rule sets

A rule set is a list of rules with distinct identities: an ordered map from identities to rules.
New rules go to the end, a replaced rule stays where it is, and the others keep their order. An
operation that cannot be carried out is refused and changes nothing.

The next identity is one more than the greatest one in use. There is none above `2 ^ 64 - 1`.
-/

namespace DataQuality

/-- The identities of a list of rules. -/
def ruleIds (rules : List Rule) : List UInt64 := rules.map (·.id)

/-- A **rule set**: rules with distinct identities. -/
structure RuleSet where
  /-- The rules, in order. -/
  rules : List Rule
  /-- No identity occurs twice. -/
  nodup : (ruleIds rules).Nodup
  deriving DecidableEq

namespace RuleSet

/-- The rule set without rules. -/
def empty : RuleSet := ⟨[], List.nodup_nil⟩

instance : Inhabited RuleSet := ⟨empty⟩

/-- The identities in use, in order. -/
def ids (s : RuleSet) : List UInt64 := ruleIds s.rules

/-- The number of rules. -/
def size (s : RuleSet) : Nat := s.rules.length

/-- Whether there are no rules. -/
def isEmpty (s : RuleSet) : Bool := s.rules.isEmpty

/-! ### Looking up -/

/-- The rule with the given identity. -/
def get? (s : RuleSet) (id : UInt64) : Option Rule := s.rules.find? (·.id == id)

/-- Whether a rule has the given identity. -/
def contains (s : RuleSet) (id : UInt64) : Bool := (s.get? id).isSome

/-! ### Adding -/

/-- A rule set with one more rule at its end, whose identity is not in use. -/
def append (s : RuleSet) (rule : Rule) (fresh : rule.id ∉ s.ids) : RuleSet where
  rules := s.rules ++ [rule]
  nodup := by
    simp only [ruleIds, List.map_append, List.map_cons, List.map_nil]
    rw [List.nodup_append]
    refine ⟨s.nodup, by simp, ?_⟩
    intro a ha b hb
    rw [List.mem_singleton] at hb
    rintro rfl
    exact fresh (hb ▸ ha)

/-- A rule set with one more rule at its **end**; refused when the identity is in use. -/
def add (s : RuleSet) (rule : Rule) : Except Error RuleSet :=
  if fresh : rule.id ∈ s.ids then .error (.duplicateRuleId rule.id) else .ok (s.append rule fresh)

/-- A rule set with further rules at its end, added one after another. -/
def addAll (s : RuleSet) : List Rule → Except Error RuleSet
  | [] => .ok s
  | rule :: rules =>
    match s.add rule with
    | .ok s => s.addAll rules
    | .error e => .error e

/-- The rule set of the given rules; refused when an identity occurs twice. -/
def ofRules (rules : List Rule) : Except Error RuleSet := empty.addAll rules

/-- The greatest of some identities. -/
def greatest? : List UInt64 → Option UInt64
  | [] => none
  | id :: ids =>
    match greatest? ids with
    | none => some id
    | some g => some (if g < id then id else g)

/-- Every identity is at most the greatest one. -/
theorem le_greatest {ids : List UInt64} {id : UInt64} (h : id ∈ ids) :
    ∃ g, greatest? ids = some g ∧ id.toNat ≤ g.toNat := by
  induction ids with
  | nil => simp at h
  | cons i ids ih =>
    rw [List.mem_cons] at h
    cases hg : greatest? ids with
    | none =>
      refine ⟨i, by simp [greatest?, hg], ?_⟩
      rcases h with rfl | h
      · exact Nat.le_refl _
      · obtain ⟨g, hg', _⟩ := ih h
        simp [hg] at hg'
    | some g =>
      refine ⟨if g < i then i else g, by simp [greatest?, hg], ?_⟩
      by_cases hgi : g < i
      · have hlt := UInt64.lt_iff_toNat_lt.1 hgi
        rw [if_pos hgi]
        rcases h with rfl | h
        · exact Nat.le_refl _
        · obtain ⟨g', hg', hle⟩ := ih h
          rw [hg] at hg'
          cases hg'
          omega
      · have hge := mt UInt64.lt_iff_toNat_lt.2 hgi
        rw [if_neg hgi]
        rcases h with rfl | h
        · omega
        · obtain ⟨g', hg', hle⟩ := ih h
          rw [hg] at hg'
          cases hg'
          exact hle

/-- The **next identity**: one more than the greatest one in use, and one for an empty set. -/
def nextId? (s : RuleSet) : Option UInt64 :=
  match greatest? s.ids with
  | none => some 1
  | some g => if g.toNat + 1 < UInt64.size then some (g + 1) else none

/-- The next identity is not in use. -/
theorem nextId_fresh {s : RuleSet} {id : UInt64} (h : s.nextId? = some id) : id ∉ s.ids := by
  intro hid
  obtain ⟨g, hg, hle⟩ := le_greatest hid
  unfold nextId? at h
  rw [hg] at h
  simp only [Option.ite_none_right_eq_some, Option.some.injEq] at h
  obtain ⟨hlt, rfl⟩ := h
  rw [UInt64.toNat_add, show (1 : UInt64).toNat = 1 from rfl, Nat.mod_eq_of_lt hlt] at hle
  omega

/-- A rule set with one more rule, made from a body, under the **next identity**, and that
identity. -/
def push? (s : RuleSet) (body : RuleBody) : Option (UInt64 × RuleSet) :=
  match h : s.nextId? with
  | none => none
  | some id => some (id, s.append ⟨id, none, none, body⟩ (nextId_fresh h))

/-! ### Changing -/

/-- A list of rules in which the given rule replaces the first one with its identity. -/
def replaceIn (rule : Rule) : List Rule → List Rule
  | [] => []
  | r :: rs => if r.id = rule.id then rule :: rs else r :: replaceIn rule rs

/-- A replacement keeps the identities and their order. -/
theorem ruleIds_replaceIn (rule : Rule) (rules : List Rule) :
    ruleIds (replaceIn rule rules) = ruleIds rules := by
  induction rules with
  | nil => rfl
  | cons r rs ih =>
    simp only [ruleIds] at ih
    by_cases h : r.id = rule.id <;> simp [ruleIds, replaceIn, h, ih]

/-- A rule set in which a rule **replaces** the one with its identity, at the same place; refused
when the identity is not in use. -/
def update (s : RuleSet) (rule : Rule) : Except Error RuleSet :=
  if rule.id ∈ s.ids then
    .ok ⟨replaceIn rule s.rules, by rw [ruleIds_replaceIn]; exact s.nodup⟩
  else .error (.ruleNotFound rule.id)

/-- A list of rules without the first one that has the given identity. -/
def eraseIn (id : UInt64) (rules : List Rule) : List Rule := rules.eraseP (·.id == id)

/-- What is left of distinct identities is distinct. -/
theorem nodup_eraseIn (id : UInt64) {rules : List Rule} (h : (ruleIds rules).Nodup) :
    (ruleIds (eraseIn id rules)).Nodup :=
  h.sublist ((List.eraseP_sublist).map _)

/-- A rule set **without the rule** of the given identity, and that rule; refused when the
identity is not in use. -/
def remove (s : RuleSet) (id : UInt64) : Except Error (Rule × RuleSet) :=
  match s.get? id with
  | some rule => .ok (rule, ⟨eraseIn id s.rules, nodup_eraseIn id s.nodup⟩)
  | none => .error (.ruleNotFound id)

/-! ### Documents -/

/-- A rule set as a JSON list. -/
def toJson (s : RuleSet) : Json := .array (s.rules.map (·.toJson))

/-- The rules that a JSON list holds, if it holds nothing else. -/
def rulesOfJson? : Json → Option (List Rule)
  | .array items => items.mapM Rule.ofJson?
  | _ => none

/-- The rule set that a document holds. A document that is no list of rules is refused, and so is
one in which an identity occurs twice. -/
def ofDocument (text : String) : Except Error RuleSet :=
  match (Json.parse? text).bind rulesOfJson? with
  | none => .error (.serialization "the document is not a list of rules")
  | some rules =>
    match ofRules rules with
    | .ok s => .ok s
    | .error e => .error (.serialization e.message)

/-- A rule set as a document. -/
def toDocument (s : RuleSet) : String := s.toJson.compact

end RuleSet

end DataQuality
