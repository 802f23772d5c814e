import DataQuality.Proofs.Engine.GroupVerdicts
import DataQuality.Proofs.Engine.Independence
import DataQuality.Proofs.Engine.MissingColumns
import Mathlib.Data.List.Flatten

/-!
# Operators that are not recognized

A rule whose operator is not recognized passes always, so a run should find the same without it. For
rules on totals this is so: the operator is looked at first. For rules on rows the columns are
looked at first, and where missing columns fail, an unrecognized rule fails the rows that lack one
of its columns (`DataQuality.failuresAt_unknown_missing_column`).

This is the only way in which unrecognized rules are noticed. A row is unharmed by them under the
condition of `DataQuality.Row.UnharmedBy`, which holds of every row where missing columns are passed
over; and a run without the unrecognized rules finds the same failures on exactly the unharmed rows
(`DataQuality.ignoresUnknown_execute`).
-/

namespace DataQuality

/-! ### Unrecognized rules -/

/-- Whether the operator of a rule is **recognized**. -/
def Rule.isKnown (rule : Rule) : Bool :=
  match rule.body with
  | .row body => body.operator.isKnown
  | .aggregate body => body.operator.isKnown

/-- The rules with a recognized operator, in their order. -/
def knownRules (rules : List Rule) : List Rule := rules.filter (·.isKnown)

/-- A row is **unharmed** by the unrecognized ones among some rules if missing columns are passed
over, or if the row lacks no column that one of them needs. -/
def Row.UnharmedBy (policy : MissingPolicy) (rules : List Rule) (row : Row) : Prop :=
  policy = .fail → ∀ rule ∈ rules, rule.isKnown = false → ¬row.LacksFor rule

/-! ### One unrecognized rule -/

/-- An unrecognized aggregate rule says nothing about any dataset. -/
theorem AggregateRule.failures_of_not_isKnown {r : AggregateRule}
    (h : r.operator.isKnown = false) (d : Dataset) (tolerance : Float) :
    r.failures d tolerance = [] := by
  rcases hoperator : r.operator with ⟨kind, comparator⟩ | name
  · rw [hoperator] at h
    exact absurd h (by simp [AggregateOperator.isKnown, AggregateOperator.kind?])
  · exact failures_of_unknown hoperator tolerance

/-- Where no column is missing, an unrecognized check passes; where one is missing, it fails if the
policy says so. -/
theorem RowCheck.failure?_eq_none_iff_of_not_isKnown {c : RowCheck}
    (h : c.body.operator.isKnown = false) (policy : MissingPolicy) (row : Row) :
    c.failure? policy (c.outcome row) = none ↔ (policy = .fail → c.missing? row = none) := by
  have hpasses : ∀ value, c.passes row value = true := by
    intro value
    rw [passes]
    rcases hoperator : c.body.operator
    case unknown name => exact Bool.or_true _
    all_goals
      rw [hoperator] at h
      exact absurd h (by simp [Operator.isKnown])
  rw [outcome]
  cases c.missing? row with
  | none => simp [hpasses, failure?]
  | some column => cases policy <;> simp [failure?]

/-- **What an unrecognized rule does to a row, alone**: it leaves no failure, unless missing columns
fail and the row lacks one that the rule needs. -/
theorem failuresAt_singleton_eq_nil_iff {settings : Settings} {d : Dataset} {rule : Rule} {i : Nat}
    {row : Row} (h : rule.isKnown = false) (hrow : d.rows[i]? = some row) :
    (execute settings d [rule]).failuresAt i = [] ↔
      (settings.missing = .fail → ¬row.LacksFor rule) := by
  rcases hbody : rule.body with body | body
  · have hcheck : RowCheck.ofRule? d rule = some (RowCheck.ofRowRule d rule body) := by
      rw [RowCheck.ofRule?, hbody]
    have hunknown : body.operator.isKnown = false := by rwa [Rule.isKnown, hbody] at h
    rw [failuresAt_singleton settings hbody hrow, Option.toList_eq_nil_iff,
      RowCheck.failure?_eq_none_iff_of_not_isKnown hunknown,
      RowCheck.missing?_eq_none_iff hcheck]
  · have haggregate : rule.isAggregate = true := by rw [Rule.isAggregate, hbody]
    have hchecks : RowCheck.ofRules d [rule] = [] := by
      rw [RowCheck.ofRules, List.filterMap_cons_none (RowCheck.ofRule?_eq_none.mpr haggregate),
        List.filterMap_nil]
    rw [failuresAt_execute, hrow, hchecks]
    exact iff_of_true rfl fun _ => Row.not_lacksFor_of_isAggregate haggregate

/-! ### All of them -/

/-- Leaving out some members of a list leaves out nothing of what the members contribute exactly if
those left out contribute nothing. -/
theorem flatMap_filter_eq_iff {α β : Type} {p : α → Bool} {g : α → List β} {as : List α} :
    (as.filter p).flatMap g = as.flatMap g ↔ ∀ a ∈ as, p a = false → g a = [] := by
  induction as with
  | nil => simp
  | cons a as ih =>
    rw [List.forall_mem_cons, ← ih]
    rcases hp : p a
    · rw [List.filter_cons_of_neg (by simp [hp]), List.flatMap_cons]
      constructor
      · intro h
        -- what is left is not longer than all of the tail, so there is no room for the head
        have hle : ((as.filter p).flatMap g).length ≤ (as.flatMap g).length :=
          (List.filter_sublist.flatMap g).length_le
        have hlength := congrArg List.length h
        rw [List.length_append] at hlength
        have hnil : g a = [] := List.eq_nil_of_length_eq_zero (by omega)
        refine ⟨fun _ => hnil, ?_⟩
        rwa [hnil, List.nil_append] at h
      · rintro ⟨hnil, h⟩
        rw [hnil rfl, List.nil_append, h]
    · rw [List.filter_cons_of_pos hp, List.flatMap_cons, List.flatMap_cons,
        List.append_cancel_left_eq]
      exact (and_iff_right fun hfalse => absurd hfalse (by simp)).symm

theorem globalErrors_knownRules (tolerance : Float) (d : Dataset) (rules : List Rule) :
    globalErrors tolerance d (knownRules rules) = globalErrors tolerance d rules := by
  refine flatMap_filter_eq_iff.mpr fun rule _ h => ?_
  rw [Rule.isKnown] at h
  cases hbody : rule.body with
  | row body => rfl
  | aggregate body =>
    rw [hbody] at h
    exact AggregateRule.failures_of_not_isKnown h d tolerance

/-- A run with unrecognized rules against the run **without them**. -/
structure Execution.IgnoresUnknown (policy : MissingPolicy) (d : Dataset) (rules : List Rule)
    (e known : Execution) : Prop where
  /-- The messages about totals are the same. -/
  globalErrors : e.globalErrors = known.globalErrors
  /-- The failures are the same on the unharmed rows and on no others. -/
  failuresAt_iff : ∀ (i : Nat) (row : Row), d.rows[i]? = some row →
    (e.failuresAt i = known.failuresAt i ↔ row.UnharmedBy policy rules)
  /-- A row passes if it is unharmed and passes the recognized rules. -/
  passesAt_iff : ∀ (i : Nat) (row : Row), d.rows[i]? = some row →
    (e.passesAt i = true ↔ known.passesAt i = true ∧ row.UnharmedBy policy rules)
  /-- If all rows are unharmed, the summaries are equal. -/
  summary : (∀ row ∈ d.rows, row.UnharmedBy policy rules) → e.summary = known.summary

section AllRules

variable (settings : Settings) {d : Dataset} (rules : List Rule) {i : Nat} {row : Row}

/-- The failures of some rules are those of each of them. -/
theorem failuresAt_eq_flatMap (i : Nat) :
    (execute settings d rules).failuresAt i =
      rules.flatMap fun rule => (execute settings d [rule]).failuresAt i := by
  rw [(composedOf_execute settings d rules).failuresAt i, List.flatMap_map]

/-- A row is unharmed if no unrecognized rule leaves a failure there. -/
theorem unharmedBy_iff (hrow : d.rows[i]? = some row) :
    row.UnharmedBy settings.missing rules ↔ ∀ rule ∈ rules, rule.isKnown = false →
      (execute settings d [rule]).failuresAt i = [] := by
  constructor
  · intro h rule hmem hunknown
    refine (failuresAt_singleton_eq_nil_iff hunknown hrow).mpr fun hfail => ?_
    exact h hfail rule hmem hunknown
  · intro h hfail rule hmem hunknown
    exact (failuresAt_singleton_eq_nil_iff hunknown hrow).mp (h rule hmem hunknown) hfail

theorem failuresAt_knownRules_iff (hrow : d.rows[i]? = some row) :
    (execute settings d rules).failuresAt i = (execute settings d (knownRules rules)).failuresAt i ↔
      row.UnharmedBy settings.missing rules := by
  rw [unharmedBy_iff settings rules hrow, failuresAt_eq_flatMap settings rules,
    failuresAt_eq_flatMap settings (knownRules rules), eq_comm, knownRules, flatMap_filter_eq_iff]

theorem passesAt_knownRules_iff (hrow : d.rows[i]? = some row) :
    (execute settings d rules).passesAt i = true ↔
      (execute settings d (knownRules rules)).passesAt i = true ∧
        row.UnharmedBy settings.missing rules := by
  rw [passesAt_iff_failuresAt_eq_nil, passesAt_iff_failuresAt_eq_nil]
  constructor
  · intro h
    have hunharmed : row.UnharmedBy settings.missing rules := by
      rw [failuresAt_eq_flatMap, List.flatMap_eq_nil_iff] at h
      exact (unharmedBy_iff settings rules hrow).mpr fun rule hmem _ => h rule hmem
    exact ⟨((failuresAt_knownRules_iff settings rules hrow).mpr hunharmed).symm.trans h, hunharmed⟩
  · rintro ⟨h, hunharmed⟩
    exact ((failuresAt_knownRules_iff settings rules hrow).mpr hunharmed).trans h

end AllRules

/-- **Unrecognized rules are noticed where missing columns fail, on rows that lack a column for one
of them, and nowhere else.** -/
theorem ignoresUnknown_execute (settings : Settings) (d : Dataset) (rules : List Rule) :
    Execution.IgnoresUnknown settings.missing d rules (execute settings d rules)
      (execute settings d (knownRules rules)) where
  globalErrors := (globalErrors_knownRules settings.tolerance d rules).symm
  failuresAt_iff _ _ hrow := failuresAt_knownRules_iff settings rules hrow
  passesAt_iff _ _ hrow := passesAt_knownRules_iff settings rules hrow
  summary hunharmed := by
    refine summary_execute_congr fun i => ?_
    rcases hrow : d.rows[i]? with _ | row
    · rw [passesAt_execute, passesAt_execute, hrow]
      rfl
    · have h := hunharmed row (List.mem_of_getElem? hrow)
      rw [Bool.eq_iff_iff, passesAt_knownRules_iff settings rules hrow]
      exact and_iff_left h

/-- A sheet without the column that the rule below asks for. -/
def valueSheet : Dataset where
  columns := [⟨"value", .number⟩]
  rows := [.ofFields [("value", .number 1)]]

/-- An unrecognized rule about a column that is not there. -/
def matchesRule : Rule := ⟨1, none, none, .row (.literal "absent" (.parse "matches") "0")⟩

/-- **An unrecognized rule fails a row**, though without it the row passes. -/
theorem failuresAt_unknown_missing_column :
    matchesRule.isKnown = false ∧
      (execute .strict valueSheet [matchesRule]).failuresAt 0 =
        [⟨"absent", "absent matches 0", "Column 'absent' not found"⟩] ∧
      (execute .strict valueSheet [matchesRule]).passesAt 0 = false ∧
      (execute .strict valueSheet (knownRules [matchesRule])).failuresAt 0 = [] ∧
      (execute .strict valueSheet (knownRules [matchesRule])).passesAt 0 = true := by
  decide +kernel

end DataQuality
