import DataQuality.Proofs.Engine.RowByRow

/-!
# Rows that lack a column

What becomes of a rule on a row that lacks a column is a matter of policy, and of nothing else: a
run that passes the rule over and a run that fails the row find the same about all other rules,
all rows and all totals (`DataQuality.skipsLacking_execute`). Two things have to be said for that.

* **Which columns a row needs.** `DataQuality.RowRule.Needs` says it in terms of the rule: the
  listed target columns, unless the first number other than zero is looked for among several ones,
  and the operand if it is a single column. `DataQuality.Row.LacksFor` is the lack of one of them.
* **Which entry of a verdict belongs to which rule.** Evaluations and failures are two lists, and
  the second one is shorter. `DataQuality.Entry` puts together what one rule leaves on one row,
  and a verdict is a list of entries read twice (`DataQuality.RowVerdict.Lists`). Under the policy
  to fail there is an entry for every row rule; the policy to skip takes some of them away.
-/

namespace DataQuality

/-! ### The columns that a row needs -/

/-- A row **needs a column** for a rule if the column is among the targets, or is the operand. Among
several targets the first number other than zero is found also where columns are absent, and an
operand of several columns is a sum, in which absent cells count as zero. -/
def RowRule.Needs (body : RowRule) (name : String) : Prop :=
  (name ∈ columnNames body.column ∧
      (body.targetMode = .firstNonZero → columnNames body.column = [name])) ∨
    (body.operandIsColumn = true ∧ columnNames body.operand = [name])

namespace RowCheck

theorem mem_requiredTargets_iff {body : RowRule} {name : String} :
    name ∈ requiredTargets body ↔ name ∈ columnNames body.column ∧
      (body.targetMode = .firstNonZero → columnNames body.column = [name]) := by
  unfold requiredTargets
  cases body.targetMode with
  | sum => simp
  | firstNonZero =>
    rcases columnNames body.column with _ | ⟨first, _ | ⟨second, rest⟩⟩
    · simp
    · simp [eq_comm]
    · simp

theorem mem_requiredOperands_iff {body : RowRule} {name : String} :
    name ∈ requiredOperands body ↔
      body.operandIsColumn = true ∧ columnNames body.operand = [name] := by
  unfold requiredOperands
  cases body.operandIsColumn with
  | false => simp
  | true =>
    rcases columnNames body.operand with _ | ⟨first, _ | ⟨second, rest⟩⟩
    · simp
    · simp [eq_comm]
    · simp

/-- **A check requires the columns that its rule needs.** -/
theorem mem_required_iff {d : Dataset} {rule : Rule} {body : RowRule} {name : String} :
    name ∈ (ofRowRule d rule body).required ↔ body.Needs name := by
  change name ∈ requiredTargets body ++ requiredOperands body ↔ _
  rw [List.mem_append, mem_requiredTargets_iff, mem_requiredOperands_iff, RowRule.Needs]

/-- A check misses nothing on a row that has every column its rule needs. -/
theorem missing?_ofRowRule_eq_none_iff {d : Dataset} {rule : Rule} {body : RowRule} {row : Row} :
    (ofRowRule d rule body).missing? row = none ↔
      ∀ name, body.Needs name → row.contains name = true := by
  rw [missing?, List.find?_eq_none]
  simp only [mem_required_iff, Bool.not_eq_true', Bool.not_eq_false]

end RowCheck

/-- A row **lacks** a column that a rule on rows needs. -/
def Row.LacksFor (row : Row) (rule : Rule) : Prop :=
  ∃ body name, rule.body = .row body ∧ body.Needs name ∧ row.contains name = false

namespace RowCheck

/-- A check misses a column exactly on the rows that lack one for its rule. -/
theorem missing?_eq_none_iff {d : Dataset} {rule : Rule} {c : RowCheck}
    (hc : ofRule? d rule = some c) (row : Row) :
    c.missing? row = none ↔ ¬row.LacksFor rule := by
  rcases hbody : rule.body with body | body
  · obtain rfl : ofRowRule d rule body = c := by
      rw [ofRule?, hbody] at hc
      exact Option.some.inj hc
    rw [missing?_ofRowRule_eq_none_iff]
    constructor
    · -- the lack is stated for some body, and a rule has one only
      rintro hpresent ⟨body', name, hbody', hneeds, hlacks⟩
      obtain rfl : body = body' := RuleBody.row.inj (hbody.symm.trans hbody')
      rw [hpresent name hneeds] at hlacks
      cases hlacks
    · intro hlacks name hneeds
      rw [← Bool.not_eq_false]
      exact fun hmissing => hlacks ⟨body, name, hbody, hneeds, hmissing⟩
  · rw [ofRule?, hbody] at hc
    exact absurd hc (by simp)

end RowCheck

/-- Rules on totals need no columns of a row. -/
theorem Row.not_lacksFor_of_isAggregate {row : Row} {rule : Rule} (h : rule.isAggregate = true) :
    ¬row.LacksFor rule := by
  rintro ⟨body, name, hbody, -, -⟩
  rw [Rule.isAggregate, hbody] at h
  exact absurd h (by simp)

/-- The lack of a column is decided by a look at the required ones; the dataset does not matter. -/
instance (row : Row) (rule : Rule) : Decidable (row.LacksFor rule) :=
  match h : RowCheck.ofRule? .empty rule with
  | some c => decidable_of_iff (¬c.missing? row = none)
      (not_iff_comm.mp (RowCheck.missing?_eq_none_iff h row).symm)
  | none => isFalse (Row.not_lacksFor_of_isAggregate (RowCheck.ofRule?_eq_none.mp h))

/-! ### Entries -/

/-- What a rule leaves in a verdict: an **entry** with an evaluation, and a failure or none. -/
structure Entry where
  /-- The rule. -/
  rule : Rule
  /-- Its evaluation. -/
  evaluation : Evaluation
  /-- Its failure. -/
  failure? : Option Failure

/-- An entry is **about its rule**. -/
structure Entry.AboutRule (e : Entry) : Prop where
  /-- The evaluation names the rule. -/
  ruleId : e.evaluation.ruleId = e.rule.id
  /-- It describes the rule. -/
  description : e.evaluation.description = e.rule.description
  /-- There is a failure exactly if the evaluation did not pass. -/
  isSome_failure? : e.failure?.isSome = !e.evaluation.passed
  /-- The failure carries the target and the name of the rule. -/
  failure : ∀ f ∈ e.failure?, f.column = e.rule.column ∧ f.ruleName = e.rule.displayName

/-- A verdict **lists entries**: its evaluations and its failures are those of the entries. -/
structure RowVerdict.Lists (v : RowVerdict) (entries : List Entry) : Prop where
  /-- There is one evaluation for each entry. -/
  evaluations : v.evaluations = entries.map (·.evaluation)
  /-- There is one failure for each entry that did not pass. -/
  failures : v.failures = entries.filterMap (·.failure?)

/-- Marked or not, a verdict lists the same entries. -/
theorem RowVerdict.Lists.mark {v : RowVerdict} {entries : List Entry} (h : v.Lists entries)
    (reference : Option Nat) : (v.mark reference).Lists entries :=
  ⟨h.evaluations, h.failures⟩

namespace RowCheck

/-- The entry of a check where a missing column fails the row. -/
def entry (c : RowCheck) (row : Row) : Entry where
  rule := c.rule
  evaluation := ⟨c.rule.id, c.rule.description, (c.outcome row).passes .fail,
    match c.outcome row with
    | .missing _ => .null
    | .judged value _ => value⟩
  failure? := c.failure? .fail (c.outcome row)

theorem evaluation?_fail (c : RowCheck) (row : Row) :
    c.evaluation? .fail (c.outcome row) = some (c.entry row).evaluation := by
  rw [entry]
  cases c.outcome row <;> rfl

theorem aboutRule_entry {c : RowCheck} (h : c.rule.column = c.body.column) (row : Row) :
    (c.entry row).AboutRule where
  ruleId := rfl
  description := rfl
  isSome_failure? := by
    rw [entry]
    cases c.outcome row with
    | missing column => rfl
    | judged value passed => cases passed <;> rfl
  failure f hf := by
    have hreading := c.reading_countsAs .fail (c.outcome row)
    change c.failure? .fail (c.outcome row) = some f at hf
    rw [hf] at hreading
    generalize c.evaluation? .fail (c.outcome row) = e,
      (c.outcome row).passes .fail = b at hreading
    cases hreading with
    | fail _ _ _ _ _ hcolumn hname => exact ⟨hcolumn.trans h.symm, hname⟩

/-! ### The two policies on one row -/

section Policies

variable (c : RowCheck) (row : Row)

/-- Passing over leaves no evaluation where a column is missing, and the same one elsewhere. -/
theorem evaluation?_skip :
    c.evaluation? .skip (c.outcome row) =
      if (c.missing? row).isNone then c.evaluation? .fail (c.outcome row) else none := by
  rw [outcome]
  cases c.missing? row <;> rfl

/-- The same goes for failures. -/
theorem failure?_skip :
    c.failure? .skip (c.outcome row) =
      if (c.missing? row).isNone then c.failure? .fail (c.outcome row) else none := by
  rw [outcome]
  cases c.missing? row <;> rfl

theorem passes_fail :
    (c.outcome row).passes .fail = ((c.outcome row).passes .skip && (c.missing? row).isNone) := by
  rw [outcome]
  cases c.missing? row with
  | none => exact (Bool.and_true _).symm
  | some column => rfl

end Policies

end RowCheck

section OneRow

variable (checks : List RowCheck) (place : Nat) (row : Row)

/-- Where missing columns fail, every check has an entry. -/
theorem lists_ofRow_fail : (RowVerdict.ofRow .fail checks place row).Lists
    (checks.map (·.entry row)) where
  evaluations := by
    simp only [RowVerdict.ofRow, RowCheck.evaluation?_fail, List.map_map]
    exact congrFun List.filterMap_eq_map checks
  failures := by
    rw [List.filterMap_map]
    rfl

/-- Where they are passed over, the entries are those of the checks that miss no column. -/
theorem lists_ofRow_skip : (RowVerdict.ofRow .skip checks place row).Lists
    ((checks.filter fun c => (c.missing? row).isNone).map (·.entry row)) where
  evaluations := by
    rw [← (lists_ofRow_fail _ place row).evaluations]
    simp only [RowVerdict.ofRow, RowCheck.evaluation?_skip, List.filterMap_filter]
  failures := by
    rw [← (lists_ofRow_fail _ place row).failures]
    simp only [RowVerdict.ofRow, RowCheck.failure?_skip, List.filterMap_filter]

end OneRow

/-! ### The two policies on a run -/

/-- **One row under both policies.** A verdict that passes rules over has the entries of the verdict
that fails the row, without those of the rules for which the row lacks a column. -/
structure RowVerdict.SkipsLacking (rules : List Rule) (row : Row) (strict lenient : RowVerdict) :
    Prop where
  /-- The place is the same. -/
  rowIndex : lenient.rowIndex = strict.rowIndex
  /-- So is the mark … -/
  isDuplicate : lenient.isDuplicate = strict.isDuplicate
  /-- … with the row that it refers to. -/
  duplicateOf : lenient.duplicateOf = strict.duplicateOf
  /-- The strict verdict has one entry for each row rule, in rule order; the other one has those of
  the rules for which nothing is lacking. -/
  entries : ∃ entries : List Entry,
    entries.map (·.rule) = rules.filter (fun rule => !rule.isAggregate) ∧
      (∀ e ∈ entries, e.AboutRule) ∧ strict.Lists entries ∧
      lenient.Lists (entries.filter fun e => ¬row.LacksFor e.rule)
  /-- A row passes strictly if it passes and lacks nothing. -/
  passed_iff : strict.passed = true ↔ lenient.passed = true ∧ ∀ rule ∈ rules, ¬row.LacksFor rule

/-- The outcomes of two runs differ **by passing rules over** on rows that lack a column. -/
structure Execution.SkipsLacking (d : Dataset) (rules : List Rule) (strict lenient : Execution) :
    Prop where
  /-- The messages about totals are the same. -/
  globalErrors : lenient.globalErrors = strict.globalErrors
  /-- There is a strict verdict for each row. -/
  length_strict : strict.results.length = d.rows.length
  /-- There is a lenient verdict for each row. -/
  length_lenient : lenient.results.length = d.rows.length
  /-- They are related row by row. -/
  verdicts : ∀ (i : Nat) (row : Row), d.rows[i]? = some row → ∃ v w,
    strict.results[i]? = some v ∧ lenient.results[i]? = some w ∧
      RowVerdict.SkipsLacking rules row v w
  /-- No row is impacted by passing rules over. -/
  impactedRows_subset : lenient.summary.impactedRows ⊆ strict.summary.impactedRows

section Runs

variable (d : Dataset) (rules : List Rule) (row : Row)

theorem RowCheck.isNone_missing?_eq {c : RowCheck} (hc : c ∈ ofRules d rules) :
    (c.missing? row).isNone = !decide (row.LacksFor c.rule) := by
  obtain ⟨rule, -, hrule⟩ := List.mem_filterMap.mp hc
  obtain ⟨rfl, -⟩ := ofRule?_eq_some hrule
  rw [Bool.eq_iff_iff, Option.isNone_iff_eq_none, missing?_eq_none_iff hrule]
  simp

/-- Every check finds its columns if no rule lacks one. -/
theorem RowCheck.forall_missing?_iff :
    (∀ c ∈ ofRules d rules, (c.missing? row).isNone = true) ↔
      ∀ rule ∈ rules, ¬row.LacksFor rule := by
  constructor
  · intro h rule hmem
    rcases hc : ofRule? d rule with _ | c
    · exact Row.not_lacksFor_of_isAggregate (ofRule?_eq_none.mp hc)
    · have hnone := h c (List.mem_filterMap.mpr ⟨rule, hmem, hc⟩)
      exact (missing?_eq_none_iff hc row).mp (Option.isNone_iff_eq_none.mp hnone)
  · intro h c hc
    obtain ⟨rule, hmem, hrule⟩ := List.mem_filterMap.mp hc
    exact Option.isNone_iff_eq_none.mpr ((missing?_eq_none_iff hrule row).mpr (h rule hmem))

/-- The entries of the checks that miss no column are the entries of the rules that lack none. -/
theorem filter_entries :
    ((RowCheck.ofRules d rules).filter fun c => (c.missing? row).isNone).map (·.entry row) =
      ((RowCheck.ofRules d rules).map (·.entry row)).filter
        fun e => ¬row.LacksFor e.rule := by
  rw [List.filter_map]
  refine congrArg (List.map fun c : RowCheck => c.entry row) (List.filter_congr fun c hc => ?_)
  rw [RowCheck.isNone_missing?_eq d rules row hc, ← decide_not]
  rfl

theorem passed_ofRow_fail_iff (place : Nat) :
    (RowVerdict.ofRow .fail (RowCheck.ofRules d rules) place row).passed = true ↔
      (RowVerdict.ofRow .skip (RowCheck.ofRules d rules) place row).passed = true ∧
        ∀ rule ∈ rules, ¬row.LacksFor rule := by
  rw [← RowCheck.forall_missing?_iff d rules row]
  simp only [RowVerdict.ofRow, List.all_eq_true, RowCheck.passes_fail, Bool.and_eq_true,
    forall_and]

/-- **One row**: the entries of the strict verdict, without those of the rules that lack a
column. -/
theorem skipsLacking_ofRow (place : Nat) (reference : Option Nat) :
    RowVerdict.SkipsLacking rules row
      ((RowVerdict.ofRow .fail (RowCheck.ofRules d rules) place row).mark reference)
      ((RowVerdict.ofRow .skip (RowCheck.ofRules d rules) place row).mark reference) where
  rowIndex := rfl
  isDuplicate := rfl
  duplicateOf := rfl
  entries := by
    have hstrict := lists_ofRow_fail (RowCheck.ofRules d rules) place row
    have hlenient := lists_ofRow_skip (RowCheck.ofRules d rules) place row
    rw [filter_entries] at hlenient
    refine ⟨(RowCheck.ofRules d rules).map (·.entry row), ?_, ?_, hstrict.mark reference,
      hlenient.mark reference⟩
    · rw [List.map_map]
      exact RowCheck.map_rule_ofRules d rules
    · intro e he
      obtain ⟨c, hc, rfl⟩ := List.mem_map.mp he
      exact RowCheck.aboutRule_entry (RowCheck.column_of_mem_ofRules hc) row
  passed_iff := passed_ofRow_fail_iff d rules row place

end Runs

/-- A row that passes where missing columns fail passes also where they are passed over. -/
theorem passesAt_skip_of_fail {settings : Settings} {d : Dataset} {rules : List Rule} {i : Nat}
    (h : (execute { settings with missing := .fail } d rules).passesAt i = true) :
    (execute { settings with missing := .skip } d rules).passesAt i = true := by
  rw [passesAt_execute] at h ⊢
  cases hrow : d.rows[i]? with
  | none => rfl
  | some row =>
    rw [hrow] at h
    exact ((passed_ofRow_fail_iff d rules row (1 + i)).mp h).1

/-- **The policies differ on missing columns only.** Whatever the other settings, the dataset and
the rules are, a run that passes rules over for missing columns finds what a run finds that fails
the rows, entries of such rules aside. -/
theorem skipsLacking_execute (settings : Settings) (d : Dataset) (rules : List Rule) :
    Execution.SkipsLacking d rules (execute { settings with missing := .fail } d rules)
      (execute { settings with missing := .skip } d rules) where
  globalErrors := rfl
  length_strict := length_verdicts _ d rules
  length_lenient := length_verdicts _ d rules
  verdicts i row hrow := by
    refine ⟨_, _, ?_, ?_, skipsLacking_ofRow d rules row (1 + i) (markAt settings d.rows i)⟩
    · rw [execute, getElem?_verdicts, hrow]
      rfl
    · rw [execute, getElem?_verdicts, hrow]
      rfl
  impactedRows_subset place hplace := by
    obtain ⟨i, rfl, hfailed⟩ := mem_impactedRows_execute.mp hplace
    refine mem_impactedRows_execute.mpr ⟨i, rfl, ?_⟩
    rw [← Bool.not_eq_true] at hfailed ⊢
    exact fun hpassed => hfailed (passesAt_skip_of_fail hpassed)

end DataQuality
