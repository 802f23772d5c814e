import DataQuality.Engine.Run
import Mathlib.Logic.Basic

/-!
# The outcome of a run agrees with itself

A run tells the same story several times: a verdict on a row lists evaluations and failures and
says whether the row passed, the summary counts the rows and names those that failed, and the
failure texts are asked for by place. This file shows that none of these can contradict another
(`DataQuality.execute_consistent`), whatever the dataset, the rules and the settings are; in
particular when identities repeat, when rows are ragged, and under both policies for missing
columns.

## What a check can leave behind

Everything about one row goes back to one fact about one check,
`DataQuality.RowCheck.reading_countsAs`: what a check finds on a row counts as nothing, or as an
evaluation that passed, or as an evaluation that did not pass together with a failure of the same
rule. The lists of a verdict are these readings collected over the checks, so they stay in step.

## Marks of repeated rows

Marking repeated rows comes after the judging and writes the two fields of a mark. A function that
does not look at them sees the verdicts as they were judged (`DataQuality.map_verdicts`), and what
marking keeps holds of the verdicts of a run if it holds of those judged
(`DataQuality.forall_verdicts`).
-/

namespace DataQuality

/-! ### What a finding counts as -/

namespace RowCheck

/-- What a finding of a check may **count as**: an evaluation or none, a failure or none, and
whether the row may pass. -/
inductive CountsAs (c : RowCheck) : Option Evaluation → Option Failure → Bool → Prop
  /-- The rule is passed over. -/
  | nothing : CountsAs c none none true
  /-- The rule is evaluated and passes. -/
  | pass (e : Evaluation) (hid : e.ruleId = c.rule.id) (hdesc : e.description = c.rule.description)
      (hpassed : e.passed = true) : CountsAs c (some e) none true
  /-- The rule is evaluated and does not pass. -/
  | fail (e : Evaluation) (f : Failure) (hid : e.ruleId = c.rule.id)
      (hdesc : e.description = c.rule.description) (hpassed : e.passed = false)
      (hcolumn : f.column = c.body.column) (hname : f.ruleName = c.rule.displayName) :
      CountsAs c (some e) (some f) false

/-- **The three readings of a finding belong together.** -/
theorem reading_countsAs (c : RowCheck) (policy : MissingPolicy) (o : RowOutcome) :
    c.CountsAs (c.evaluation? policy o) (c.failure? policy o) (o.passes policy) := by
  cases o with
  | missing column =>
    cases policy with
    | skip => exact .nothing
    | fail => exact .fail _ _ rfl rfl rfl rfl rfl
  | judged value passed =>
    cases passed with
    | true => exact .pass _ rfl rfl rfl
    | false => exact .fail _ _ rfl rfl rfl rfl rfl

theorem passes_iff_failure?_eq_none (c : RowCheck) (policy : MissingPolicy) (o : RowOutcome) :
    o.passes policy = true ↔ c.failure? policy o = none := by
  have h := c.reading_countsAs policy o
  generalize c.evaluation? policy o = e, c.failure? policy o = f, o.passes policy = b at h ⊢
  cases h <;> simp

theorem passes_iff_evaluation_passed (c : RowCheck) (policy : MissingPolicy) (o : RowOutcome) :
    o.passes policy = true ↔ ∀ e, c.evaluation? policy o = some e → e.passed = true := by
  have h := c.reading_countsAs policy o
  generalize c.evaluation? policy o = e, c.failure? policy o = f, o.passes policy = b at h ⊢
  cases h <;> simp_all

/-! ### The rules behind some checks -/

/-- A check carries the rule that it was made of. -/
theorem ofRule?_eq_some {d : Dataset} {rule : Rule} {c : RowCheck} (h : ofRule? d rule = some c) :
    c.rule = rule ∧ rule.body = .row c.body := by
  unfold ofRule? at h
  split at h
  · next body hbody =>
    obtain rfl := Option.some.inj h
    exact ⟨rfl, hbody⟩
  · exact absurd h (by simp)

/-- The checks of some rules are the checks of the row rules among them. -/
theorem exists_of_mem_ofRules {d : Dataset} {rules : List Rule} {c : RowCheck}
    (h : c ∈ ofRules d rules) :
    ∃ rule ∈ rules, ∃ body, rule.body = .row body ∧ ofRowRule d rule body = c := by
  obtain ⟨rule, hrule, hc⟩ := List.mem_filterMap.mp h
  unfold ofRule? at hc
  split at hc
  · next body hbody => exact ⟨rule, hrule, body, hbody, Option.some.inj hc⟩
  · exact absurd hc (by simp)

theorem ofRule?_eq_none {d : Dataset} {rule : Rule} :
    ofRule? d rule = none ↔ rule.isAggregate = true := by
  unfold ofRule? Rule.isAggregate
  cases rule.body <;> simp

/-- **The checks of some rules are the checks of the row rules among them**, in their order. -/
theorem map_rule_ofRules (d : Dataset) (rules : List Rule) :
    (ofRules d rules).map (·.rule) = rules.filter fun rule => !rule.isAggregate := by
  induction rules with
  | nil => rfl
  | cons rule rules ih =>
    rw [ofRules] at ih ⊢
    rcases hc : ofRule? d rule with _ | c
    · have haggregate : rule.isAggregate = true := ofRule?_eq_none.mp hc
      rw [List.filterMap_cons_none hc, ih, List.filter_cons_of_neg (by simp [haggregate])]
    · have hrow : rule.isAggregate = false := by
        rw [Bool.eq_false_iff]
        intro haggregate
        rw [ofRule?_eq_none.mpr haggregate] at hc
        exact absurd hc (by simp)
      rw [List.filterMap_cons_some hc, List.map_cons, ih, (ofRule?_eq_some hc).1,
        List.filter_cons_of_pos (by simp [hrow])]

/-- The target of the rule is the target of its body. -/
theorem column_of_mem_ofRules {d : Dataset} {rules : List Rule} {c : RowCheck}
    (h : c ∈ ofRules d rules) : c.rule.column = c.body.column := by
  obtain ⟨rule, -, hc⟩ := List.mem_filterMap.mp h
  obtain ⟨hrule, hbody⟩ := ofRule?_eq_some hc
  rw [hrule, Rule.column, hbody]

end RowCheck

/-! ### Verdicts on one row -/

/-- **The rules that are evaluated on a row**, each with its evaluation. -/
def evaluatedRules (policy : MissingPolicy) (checks : List RowCheck) (row : Row) :
    List (Rule × Evaluation) :=
  checks.filterMap fun c => (c.evaluation? policy (c.outcome row)).map fun e => (c.rule, e)

/-- A verdict is **accounted for** by a list of rules with evaluations: these are its evaluations,
the rules are row rules in rule order, and its failures are those of the rules that did not pass,
one for one and in the same order. -/
structure RowVerdict.AccountedFor (v : RowVerdict) (rules : List Rule)
    (evaluated : List (Rule × Evaluation)) : Prop where
  /-- The evaluations, in order. -/
  evaluations : v.evaluations = evaluated.map Prod.snd
  /-- Every evaluation names and describes its rule. -/
  describes : ∀ p ∈ evaluated, p.2.ruleId = p.1.id ∧ p.2.description = p.1.description
  /-- The rules are some of the row rules, in rule order. -/
  sublist : (evaluated.map Prod.fst).Sublist (rules.filter fun rule => !rule.isAggregate)
  /-- The failures carry the targets and the names of the rules that did not pass. -/
  failures : v.failures.map (fun f => (f.column, f.ruleName)) =
    (evaluated.filter fun p => !p.2.passed).map fun p => (p.1.column, p.1.displayName)

/-- A verdict **agrees with itself** under some rules. -/
structure RowVerdict.Agrees (rules : List Rule) (v : RowVerdict) : Prop where
  /-- The row passed exactly when there is no failure. -/
  passed_iff_failures : v.passed = true ↔ v.failures = []
  /-- The row passed exactly when every evaluation did. -/
  passed_iff_evaluations : v.passed = true ↔ ∀ e ∈ v.evaluations, e.passed = true
  /-- Evaluations and failures come from the row rules. -/
  accounted : ∃ evaluated, v.AccountedFor rules evaluated

/-- Verdicts that differ in the mark of a repeated row agree with themselves alike. -/
theorem RowVerdict.Agrees.mark {rules : List Rule} {v : RowVerdict} (h : v.Agrees rules)
    (reference : Option Nat) : (v.mark reference).Agrees rules := by
  obtain ⟨evaluated, h1, h2, h3, h4⟩ := h.accounted
  exact ⟨h.passed_iff_failures, h.passed_iff_evaluations, evaluated, h1, h2, h3, h4⟩

section OneRow

variable (policy : MissingPolicy) (checks : List RowCheck) (place : Nat) (row : Row)

theorem passed_ofRow_iff_failures :
    (RowVerdict.ofRow policy checks place row).passed = true ↔
      (RowVerdict.ofRow policy checks place row).failures = [] := by
  simp only [RowVerdict.ofRow, List.all_eq_true, List.filterMap_eq_nil_iff]
  exact forall₂_congr fun c _ => c.passes_iff_failure?_eq_none policy (c.outcome row)

theorem passed_ofRow_iff_evaluations :
    (RowVerdict.ofRow policy checks place row).passed = true ↔
      ∀ e ∈ (RowVerdict.ofRow policy checks place row).evaluations, e.passed = true := by
  simp only [RowVerdict.ofRow, List.all_eq_true, List.mem_filterMap]
  constructor
  · rintro h e ⟨c, hc, he⟩
    exact (c.passes_iff_evaluation_passed policy _).mp (h c hc) e he
  · intro h c hc
    exact (c.passes_iff_evaluation_passed policy _).mpr fun e he => h e ⟨c, hc, he⟩

theorem evaluations_ofRow :
    (RowVerdict.ofRow policy checks place row).evaluations =
      (evaluatedRules policy checks row).map Prod.snd := by
  rw [evaluatedRules, List.map_filterMap]
  refine congrArg (List.filterMap · checks) (funext fun c => ?_)
  cases c.evaluation? policy (c.outcome row) <;> rfl

theorem evaluatedRules_describe :
    ∀ p ∈ evaluatedRules policy checks row,
      p.2.ruleId = p.1.id ∧ p.2.description = p.1.description := by
  intro p hp
  obtain ⟨c, -, hc⟩ := List.mem_filterMap.mp hp
  obtain ⟨e, he, rfl⟩ := Option.map_eq_some_iff.mp hc
  have h := c.reading_countsAs policy (c.outcome row)
  rw [he] at h
  generalize c.failure? policy (c.outcome row) = f, (c.outcome row).passes policy = b at h
  cases h with
  | pass _ hid hdesc _ => exact ⟨hid, hdesc⟩
  | fail _ _ hid hdesc _ _ _ => exact ⟨hid, hdesc⟩

/-- The evaluated rules come in the order of the checks. -/
theorem evaluatedRules_sublist :
    ((evaluatedRules policy checks row).map Prod.fst).Sublist (checks.map (·.rule)) := by
  induction checks with
  | nil => exact List.Sublist.refl _
  | cons c checks ih =>
    rw [evaluatedRules] at ih ⊢
    rcases he : c.evaluation? policy (c.outcome row) with _ | e
    · rw [List.filterMap_cons_none (by rw [he]; rfl)]
      exact ih.cons _
    · rw [List.filterMap_cons_some (by rw [he]; rfl)]
      exact ih.cons_cons _

variable {checks}

/-- **Failures and evaluations that did not pass are in step**: the `k`-th of the one belongs to
the `k`-th of the other. -/
theorem failures_ofRow (h : ∀ c ∈ checks, c.rule.column = c.body.column) :
    (RowVerdict.ofRow policy checks place row).failures.map (fun f => (f.column, f.ruleName)) =
      ((evaluatedRules policy checks row).filter fun p => !p.2.passed).map
        fun p => (p.1.column, p.1.displayName) := by
  induction checks with
  | nil => rfl
  | cons c checks ih =>
    have ih := ih fun c' hc' => h c' (List.mem_cons_of_mem c hc')
    -- both lists are collected from the same checks, so they grow by one reading at a time
    have hreading := c.reading_countsAs policy (c.outcome row)
    simp only [RowVerdict.ofRow, evaluatedRules, List.filterMap_cons] at ih ⊢
    generalize c.evaluation? policy (c.outcome row) = e, c.failure? policy (c.outcome row) = f,
      (c.outcome row).passes policy = b at hreading ⊢
    cases hreading with
    | nothing => exact ih
    | pass e _ _ hpassed => simpa [hpassed] using ih
    | fail e f _ _ hpassed hcolumn hname =>
      simp [hpassed, hcolumn, hname, ih, h c List.mem_cons_self]

end OneRow

/-- **A verdict on a row agrees with itself.** -/
theorem agrees_ofRow (policy : MissingPolicy) (d : Dataset) (rules : List Rule) (place : Nat)
    (row : Row) : (RowVerdict.ofRow policy (RowCheck.ofRules d rules) place row).Agrees rules where
  passed_iff_failures := passed_ofRow_iff_failures policy _ place row
  passed_iff_evaluations := passed_ofRow_iff_evaluations policy _ place row
  accounted := by
    refine ⟨evaluatedRules policy (RowCheck.ofRules d rules) row,
      evaluations_ofRow policy _ place row, evaluatedRules_describe policy _ row, ?_,
      failures_ofRow policy place row fun c => RowCheck.column_of_mem_ofRules⟩
    rw [← RowCheck.map_rule_ofRules d rules]
    exact evaluatedRules_sublist policy _ row

/-! ### Verdicts on all rows -/

section AllRows

variable {α : Type} {f : RowVerdict → α}

theorem length_rowVerdicts (policy : MissingPolicy) (checks : List RowCheck) (place : Nat)
    (rows : List Row) : (rowVerdicts policy checks place rows).length = rows.length := by
  induction rows generalizing place with
  | nil => rfl
  | cons row rows ih => simp [rowVerdicts, ih]

theorem map_rowIndex_rowVerdicts (policy : MissingPolicy) (checks : List RowCheck) (place : Nat)
    (rows : List Row) :
    (rowVerdicts policy checks place rows).map (·.rowIndex) = List.range' place rows.length := by
  induction rows generalizing place with
  | nil => rfl
  | cons row rows ih => rw [rowVerdicts, List.map_cons, ih, List.length_cons, List.range'_succ]; rfl

theorem forall_rowVerdicts {P : RowVerdict → Prop} {policy : MissingPolicy}
    {checks : List RowCheck} (h : ∀ place row, P (.ofRow policy checks place row)) (place : Nat)
    (rows : List Row) : ∀ v ∈ rowVerdicts policy checks place rows, P v := by
  induction rows generalizing place with
  | nil => simp [rowVerdicts]
  | cons row rows ih =>
    intro v hv
    rcases List.mem_cons.mp hv with rfl | hv
    · exact h place row
    · exact ih (place + 1) v hv

/-- A function that does not look at the marks does not see them. -/
theorem map_markDuplicates (hf : ∀ v reference, f (v.mark reference) = f v)
    {verdicts : List RowVerdict} {references : List (Option Nat)}
    (h : verdicts.length = references.length) :
    (markDuplicates verdicts references).map f = verdicts.map f := by
  induction verdicts generalizing references with
  | nil => rfl
  | cons v verdicts ih =>
    cases references with
    | nil => simp at h
    | cons reference references =>
      have hlength : verdicts.length = references.length := by simpa using h
      simpa [markDuplicates, hf] using ih hlength

/-- What marking keeps, holds of marked verdicts if it holds of all verdicts. -/
theorem forall_markDuplicates {P : RowVerdict → Prop}
    (hmark : ∀ v reference, P v → P (v.mark reference)) {verdicts : List RowVerdict}
    (h : ∀ v ∈ verdicts, P v) (references : List (Option Nat)) :
    ∀ v ∈ markDuplicates verdicts references, P v := by
  induction verdicts generalizing references with
  | nil => exact fun v hv => absurd hv List.not_mem_nil
  | cons v verdicts ih =>
    obtain ⟨hv, hverdicts⟩ := List.forall_mem_cons.mp h
    cases references with
    | nil => exact fun v hv => absurd hv List.not_mem_nil
    | cons reference references =>
      exact List.forall_mem_cons.mpr ⟨hmark v reference hv, ih hverdicts references⟩

/-- **Marks aside, the verdicts of a run are the verdicts of its checks**, row by row. -/
theorem map_verdicts (hf : ∀ v reference, f (v.mark reference) = f v)
    (settings : Settings) (d : Dataset) (rules : List Rule) :
    (verdicts settings d rules).map f =
      (rowVerdicts settings.missing (RowCheck.ofRules d rules) 1 d.rows).map f := by
  unfold verdicts
  split
  · refine map_markDuplicates hf ?_
    rw [length_rowVerdicts, length_duplicateReferences]
  · rfl

variable (settings : Settings) (d : Dataset) (rules : List Rule)

theorem length_verdicts : (verdicts settings d rules).length = d.rows.length := by
  have h := congrArg List.length
    (map_verdicts (f := fun _ => ()) (fun _ _ => rfl) settings d rules)
  simpa [length_rowVerdicts] using h

/-- **The verdicts carry the places of the rows**, counted from one. -/
theorem map_rowIndex_verdicts :
    (verdicts settings d rules).map (·.rowIndex) = List.range' 1 d.rows.length := by
  rw [map_verdicts (fun _ _ => rfl), map_rowIndex_rowVerdicts]

/-- What holds of a verdict with any mark, for every row, holds of all verdicts of a run. -/
theorem forall_verdicts {P : RowVerdict → Prop} (hmark : ∀ v reference, P v → P (v.mark reference))
    (h : ∀ place row, P (.ofRow settings.missing (RowCheck.ofRules d rules) place row)) :
    ∀ v ∈ verdicts settings d rules, P v := by
  have hjudged := forall_rowVerdicts h 1 d.rows
  unfold verdicts
  split
  · exact forall_markDuplicates hmark hjudged _
  · exact hjudged

/-- **A run sets both fields of a mark together.** -/
theorem isDuplicate_of_mem_verdicts : ∀ v ∈ verdicts settings d rules,
    v.isDuplicate = v.duplicateOf.isSome :=
  forall_verdicts settings d rules (fun v reference _ => v.isDuplicate_mark reference) fun _ _ =>
    rfl

end AllRows

/-! ### The summary -/

section Summaries

variable {vs : List RowVerdict}

/-- **A summary of rows with increasing places counts the rows that failed.** -/
theorem failed_ofVerdicts (h : (vs.map (·.rowIndex)).Pairwise (· < ·)) :
    (Summary.ofVerdicts vs).failed = vs.countP fun v => !v.passed := by
  change (Summary.impacted vs).length = _
  rw [Summary.impacted_eq h, List.length_map, List.countP_eq_length_filter]

/-- Rows that passed and rows that failed are all rows: there are never more of the latter than
there are rows at all. -/
theorem passed_add_failed_ofVerdicts (h : (vs.map (·.rowIndex)).Pairwise (· < ·)) :
    (Summary.ofVerdicts vs).passed + (Summary.ofVerdicts vs).failed = vs.length := by
  have hle : (Summary.ofVerdicts vs).failed ≤ vs.length := by
    rw [failed_ofVerdicts h]
    exact List.countP_le_length
  exact Nat.sub_add_cancel hle

theorem mem_impactedRows_ofVerdicts (h : (vs.map (·.rowIndex)).Pairwise (· < ·)) (place : Nat) :
    place ∈ (Summary.ofVerdicts vs).impactedRows ↔
      ∃ v ∈ vs, v.rowIndex = place ∧ v.passed = false := by
  change place ∈ Summary.impacted vs ↔ _
  rw [Summary.impacted_eq h, List.mem_map]
  constructor
  · rintro ⟨v, hv, hplace⟩
    obtain ⟨hmem, hfailed⟩ := List.mem_filter.mp hv
    exact ⟨v, hmem, hplace, by simpa using hfailed⟩
  · rintro ⟨v, hmem, hplace, hfailed⟩
    exact ⟨v, List.mem_filter.mpr ⟨hmem, by simp [hfailed]⟩, hplace⟩

theorem pairwise_impactedRows_ofVerdicts (h : (vs.map (·.rowIndex)).Pairwise (· < ·)) :
    (Summary.ofVerdicts vs).impactedRows.Pairwise (· < ·) := by
  change (Summary.impacted vs).Pairwise (· < ·)
  rw [Summary.impacted_eq h]
  exact h.sublist (List.filter_sublist.map _)

theorem failed_ofVerdicts_eq_zero (h : (vs.map (·.rowIndex)).Pairwise (· < ·)) :
    (Summary.ofVerdicts vs).failed = 0 ↔ ∀ v ∈ vs, v.passed = true := by
  rw [failed_ofVerdicts h, List.countP_eq_zero]
  simp

end Summaries

/-! ### The outcome of a run -/

/-- The outcome of a run is **consistent** with the rows and the rules it was taken from. -/
structure Execution.Consistent (d : Dataset) (rules : List Rule) (e : Execution) : Prop where
  /-- There is one verdict for each row, and the `i`-th one carries the place `i`. -/
  places : e.results.map (·.rowIndex) = List.range' 1 d.rows.length
  /-- Every verdict agrees with itself. -/
  agrees : ∀ v ∈ e.results, v.Agrees rules
  /-- The evaluated identities are some of those of the row rules, in rule order. -/
  ruleIds : ∀ v ∈ e.results, (v.evaluations.map (·.ruleId)).Sublist
    ((rules.filter fun rule => !rule.isAggregate).map (·.id))
  /-- The summary counts the rows. -/
  total : e.summary.total = d.rows.length
  /-- It names the rows that failed. -/
  mem_impactedRows : ∀ place, place ∈ e.summary.impactedRows ↔
    ∃ v ∈ e.results, v.rowIndex = place ∧ v.passed = false
  /-- It names each of them once. -/
  pairwise_impactedRows : e.summary.impactedRows.Pairwise (· < ·)
  /-- It counts the places it names. -/
  failed : e.summary.failed = e.summary.impactedRows.length
  /-- These are as many as there are verdicts that failed. -/
  failed_count : e.summary.failed = e.results.countP fun v => !v.passed
  /-- A row either passed or failed. -/
  passed_add_failed : e.summary.passed + e.summary.failed = e.summary.total
  /-- The texts asked for by place are the messages of the failures at that place, in order. -/
  failureStrings_inside : ∀ i, ∀ h : i < e.results.length,
    e.failureStrings (i + 1) = e.results[i].failures.map (·.message)
  /-- Outside the dataset there are none. -/
  failureStrings_outside : ∀ place, place = 0 ∨ e.summary.total < place →
    e.failureStrings place = []
  /-- A run is clean when no row and no total failed. -/
  isClean_iff : e.isClean = true ↔ (∀ v ∈ e.results, v.passed = true) ∧ e.globalErrors = []

/-- The identities of the evaluations are read off the rules that account for them. -/
theorem RowVerdict.Agrees.ruleIds_sublist {rules : List Rule} {v : RowVerdict}
    (h : v.Agrees rules) : (v.evaluations.map (·.ruleId)).Sublist
      ((rules.filter fun rule => !rule.isAggregate).map (·.id)) := by
  obtain ⟨evaluated, hevaluations, hdescribes, hsublist, -⟩ := h.accounted
  have hids : v.evaluations.map (·.ruleId) = (evaluated.map Prod.fst).map (·.id) := by
    rw [hevaluations, List.map_map, List.map_map]
    exact List.map_congr_left fun p hp => (hdescribes p hp).1
  rw [hids]
  exact hsublist.map _

/-- The texts asked for by the place of a row. -/
theorem failureStrings_of_lt {e : Execution} {i : Nat} (h : i < e.results.length) :
    e.failureStrings (i + 1) = e.results[i].failures.map (·.message) := by
  rw [Execution.failureStrings, List.getElem?_eq_getElem h]
  rfl

/-- The texts asked for by a place past the last row. -/
theorem failureStrings_of_length_lt {e : Execution} {place : Nat} (h : e.results.length < place) :
    e.failureStrings place = [] := by
  cases place with
  | zero => rfl
  | succ i => simp [Execution.failureStrings, List.getElem?_eq_none (Nat.le_of_lt_succ h)]

/-- **The outcome of every run is consistent**, for all settings, datasets and lists of rules,
identities that repeat included. -/
theorem execute_consistent (settings : Settings) (d : Dataset) (rules : List Rule) :
    (execute settings d rules).Consistent d rules := by
  have hplaces := map_rowIndex_verdicts settings d rules
  have hlength := length_verdicts settings d rules
  have hpairwise : ((verdicts settings d rules).map (·.rowIndex)).Pairwise (· < ·) := by
    rw [hplaces]
    exact List.pairwise_lt_range'
  have hagrees : ∀ v ∈ verdicts settings d rules, v.Agrees rules :=
    forall_verdicts settings d rules (fun _ reference h => h.mark reference)
      fun place row => agrees_ofRow settings.missing d rules place row
  exact {
    places := hplaces
    agrees := hagrees
    ruleIds := fun v hv => (hagrees v hv).ruleIds_sublist
    total := hlength
    mem_impactedRows := mem_impactedRows_ofVerdicts hpairwise
    pairwise_impactedRows := pairwise_impactedRows_ofVerdicts hpairwise
    failed := rfl
    failed_count := failed_ofVerdicts hpairwise
    passed_add_failed := passed_add_failed_ofVerdicts hpairwise
    failureStrings_inside := fun i h => failureStrings_of_lt h
    failureStrings_outside := fun place h => by
      rcases h with rfl | h
      · rfl
      · exact failureStrings_of_length_lt h
    isClean_iff := by
      rw [Execution.isClean, Bool.and_eq_true, beq_iff_eq, List.isEmpty_iff]
      exact and_congr_left' (failed_ofVerdicts_eq_zero hpairwise) }

end DataQuality
