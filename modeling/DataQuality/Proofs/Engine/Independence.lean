import DataQuality.Proofs.Engine.RowByRow
import Mathlib.Data.List.Perm.Basic

/-!
# Rules do not influence each other

A run on two lists of rules, one after the other, is the run on the first list with the run on the
second one joined to it: the messages about totals and, on every row, the evaluations and the
failures come one after the other, and a row passes when it passes both. Since this holds of all
lists, a run falls apart into the runs on its single rules, and what a rule says about a row or a
group is what it says when it is run alone. Adding, removing or reordering other rules can
therefore not change it (`DataQuality.independent_execute`).

Joining is the one step that is proved from the definition of a run. The decomposition into single
rules repeats it along the list of rules, and reordering goes through the decomposition.
-/

namespace DataQuality

/-! ### Joined lists of rules -/

/-- The verdict on a row by some rules, followed by that of **further rules** on the same row. -/
def RowVerdict.join (v w : RowVerdict) : RowVerdict where
  rowIndex := v.rowIndex
  passed := v.passed && w.passed
  failures := v.failures ++ w.failures
  evaluations := v.evaluations ++ w.evaluations
  isDuplicate := v.isDuplicate
  duplicateOf := v.duplicateOf

/-- The outcome of a run is that of one run **joined** to that of another one on the same rows. -/
structure Execution.Joins (e first second : Execution) : Prop where
  /-- The messages about totals of the one come after those of the other. -/
  globalErrors : e.globalErrors = first.globalErrors ++ second.globalErrors
  /-- So do the evaluations and the failures on every row, and a row passes if it passes both. -/
  results : e.results = first.results.zipWith RowVerdict.join second.results
  /-- The rows are the same. -/
  rowIndex : first.results.map (·.rowIndex) = second.results.map (·.rowIndex)
  /-- They are marked alike … -/
  isDuplicate : first.results.map (·.isDuplicate) = second.results.map (·.isDuplicate)
  /-- … and refer to the same rows. -/
  duplicateOf : first.results.map (·.duplicateOf) = second.results.map (·.duplicateOf)
  /-- A row is impacted if it is so in one of the two runs. -/
  mem_impactedRows : ∀ place, place ∈ e.summary.impactedRows ↔
    place ∈ first.summary.impactedRows ∨ place ∈ second.summary.impactedRows
  /-- The impacted rows are a set. -/
  pairwise_impactedRows : e.summary.impactedRows.Pairwise (· < ·)

theorem RowCheck.ofRules_append (d : Dataset) (first second : List Rule) :
    ofRules d (first ++ second) = ofRules d first ++ ofRules d second :=
  List.filterMap_append

/-- One row: the checks of both lists leave what each of them leaves. -/
theorem RowVerdict.ofRow_append (policy : MissingPolicy) (first second : List RowCheck)
    (place : Nat) (row : Row) :
    ofRow policy (first ++ second) place row =
      (ofRow policy first place row).join (ofRow policy second place row) := by
  simp only [ofRow, join, List.all_append, List.filterMap_append]

section Append

variable (settings : Settings) (d : Dataset) (first second : List Rule)

theorem globalErrors_append (tolerance : Float) :
    globalErrors tolerance d (first ++ second) =
      globalErrors tolerance d first ++ globalErrors tolerance d second :=
  List.flatMap_append

/-- **The verdicts of joined lists are the joined verdicts.** -/
theorem verdicts_append :
    verdicts settings d (first ++ second) =
      (verdicts settings d first).zipWith RowVerdict.join (verdicts settings d second) := by
  refine List.ext_getElem? fun i => ?_
  rw [List.getElem?_zipWith, getElem?_verdicts, getElem?_verdicts, getElem?_verdicts,
    RowCheck.ofRules_append]
  cases d.rows[i]? with
  | none => rfl
  | some row =>
    simp only [Option.map_some, RowVerdict.ofRow_append]
    rfl

/-- Whatever does not depend on the rules is the same in the verdicts of all lists of rules. -/
theorem map_verdicts_eq {α : Type} {f : RowVerdict → α}
    (hf : ∀ (checks checks' : List RowCheck) place row reference,
      f ((RowVerdict.ofRow settings.missing checks place row).mark reference) =
        f ((RowVerdict.ofRow settings.missing checks' place row).mark reference)) :
    (verdicts settings d first).map f = (verdicts settings d second).map f := by
  refine List.ext_getElem? fun i => ?_
  rw [List.getElem?_map, List.getElem?_map, getElem?_verdicts, getElem?_verdicts]
  cases d.rows[i]? with
  | none => rfl
  | some row => exact congrArg some (hf _ _ _ _ _)

/-! ### What is seen of a row under joined lists -/

variable (i : Nat)

theorem evaluationsAt_append :
    (execute settings d (first ++ second)).evaluationsAt i =
      (execute settings d first).evaluationsAt i ++
        (execute settings d second).evaluationsAt i := by
  simp only [evaluationsAt_execute, RowCheck.ofRules_append, List.filterMap_append]
  cases d.rows[i]? <;> rfl

theorem failuresAt_append :
    (execute settings d (first ++ second)).failuresAt i =
      (execute settings d first).failuresAt i ++ (execute settings d second).failuresAt i := by
  simp only [failuresAt_execute, RowCheck.ofRules_append, List.filterMap_append]
  cases d.rows[i]? <;> rfl

theorem passesAt_append :
    (execute settings d (first ++ second)).passesAt i =
      ((execute settings d first).passesAt i && (execute settings d second).passesAt i) := by
  simp only [passesAt_execute, RowCheck.ofRules_append, List.all_append]
  cases d.rows[i]? <;> rfl

end Append

theorem joins_execute (settings : Settings) (d : Dataset) (first second : List Rule) :
    (execute settings d (first ++ second)).Joins (execute settings d first)
      (execute settings d second) where
  globalErrors := globalErrors_append d first second settings.tolerance
  results := verdicts_append settings d first second
  rowIndex := map_verdicts_eq settings d first second fun _ _ _ _ _ => rfl
  isDuplicate := map_verdicts_eq settings d first second fun _ _ _ _ _ => rfl
  duplicateOf := map_verdicts_eq settings d first second fun _ _ _ _ _ => rfl
  mem_impactedRows place := by
    simp only [mem_impactedRows_execute, passesAt_append, Bool.and_eq_false_iff]
    constructor
    · rintro ⟨i, rfl, hfirst | hsecond⟩
      · exact .inl ⟨i, rfl, hfirst⟩
      · exact .inr ⟨i, rfl, hsecond⟩
    · rintro (⟨i, rfl, hfirst⟩ | ⟨i, rfl, hsecond⟩)
      · exact ⟨i, rfl, .inl hfirst⟩
      · exact ⟨i, rfl, .inr hsecond⟩
  pairwise_impactedRows :=
    pairwise_impactedRows_ofVerdicts (pairwise_rowIndex_verdicts settings d (first ++ second))

/-! ### One rule at a time -/

/-- The outcome of a run is **composed** of the outcomes of other runs on the same rows, one after
another. -/
structure Execution.ComposedOf (e : Execution) (parts : List Execution) : Prop where
  /-- The messages about totals are those of the parts, in their order. -/
  globalErrors : e.globalErrors = parts.flatMap (·.globalErrors)
  /-- The evaluations on a row are those of the parts, in their order. -/
  evaluationsAt : ∀ i, e.evaluationsAt i = parts.flatMap (·.evaluationsAt i)
  /-- The failures on a row are those of the parts, in their order. -/
  failuresAt : ∀ i, e.failuresAt i = parts.flatMap (·.failuresAt i)
  /-- A row passes if it passes every part. -/
  passesAt : ∀ i, e.passesAt i = parts.all (·.passesAt i)

/-- **A run is composed of the runs on its single rules.** -/
theorem composedOf_execute (settings : Settings) (d : Dataset) (rules : List Rule) :
    (execute settings d rules).ComposedOf (rules.map fun rule => execute settings d [rule]) := by
  induction rules with
  | nil =>
    refine ⟨rfl, fun i => ?_, fun i => ?_, fun i => ?_⟩
    · rw [evaluationsAt_execute]
      cases d.rows[i]? <;> rfl
    · rw [failuresAt_execute]
      cases d.rows[i]? <;> rfl
    · rw [passesAt_execute]
      cases d.rows[i]? <;> rfl
  | cons rule rules ih =>
    -- a rule in front of others is a list of one rule joined to theirs
    have hcons : rule :: rules = [rule] ++ rules := rfl
    rw [List.map_cons, hcons]
    refine ⟨?_, fun i => ?_, fun i => ?_, fun i => ?_⟩
    · rw [List.flatMap_cons, ← ih.globalErrors]
      exact globalErrors_append d [rule] rules settings.tolerance
    · rw [List.flatMap_cons, ← ih.evaluationsAt i, evaluationsAt_append]
    · rw [List.flatMap_cons, ← ih.failuresAt i, failuresAt_append]
    · rw [List.all_cons, ← ih.passesAt i, passesAt_append]

section Alone

variable (settings : Settings) {d : Dataset} {rule : Rule} {body : RowRule} {i : Nat} {row : Row}

theorem RowCheck.ofRules_singleton (hbody : rule.body = .row body) :
    ofRules d [rule] = [ofRowRule d rule body] := by
  have hcheck : ofRule? d rule = some (ofRowRule d rule body) := by rw [ofRule?, hbody]
  rw [ofRules, List.filterMap_cons_some hcheck, List.filterMap_nil]

/-- A rule alone leaves the evaluation of its check. -/
theorem evaluationsAt_singleton (hbody : rule.body = .row body) (hrow : d.rows[i]? = some row) :
    (execute settings d [rule]).evaluationsAt i = ((RowCheck.ofRowRule d rule body).evaluation?
      settings.missing ((RowCheck.ofRowRule d rule body).outcome row)).toList := by
  rw [evaluationsAt_execute, hrow, RowCheck.ofRules_singleton hbody, Option.elim_some,
    List.filterMap_eq_flatMap_toList, List.flatMap_singleton]

/-- It leaves the failure of its check. -/
theorem failuresAt_singleton (hbody : rule.body = .row body) (hrow : d.rows[i]? = some row) :
    (execute settings d [rule]).failuresAt i = ((RowCheck.ofRowRule d rule body).failure?
      settings.missing ((RowCheck.ofRowRule d rule body).outcome row)).toList := by
  rw [failuresAt_execute, hrow, RowCheck.ofRules_singleton hbody, Option.elim_some,
    List.filterMap_eq_flatMap_toList, List.flatMap_singleton]

end Alone

/-! ### The order of the rules -/

/-- Two outcomes of runs say **the same in another order**. -/
structure Execution.Reorders (e f : Execution) : Prop where
  /-- The messages about totals are the same. -/
  globalErrors : e.globalErrors.Perm f.globalErrors
  /-- The evaluations on a row are the same. -/
  evaluationsAt : ∀ i, (e.evaluationsAt i).Perm (f.evaluationsAt i)
  /-- The failures on a row are the same. -/
  failuresAt : ∀ i, (e.failuresAt i).Perm (f.failuresAt i)
  /-- The same rows pass. -/
  passesAt : ∀ i, e.passesAt i = f.passesAt i
  /-- The summaries are equal. -/
  summary : e.summary = f.summary

theorem reorders_execute (settings : Settings) (d : Dataset) {rules rules' : List Rule}
    (h : rules.Perm rules') :
    (execute settings d rules).Reorders (execute settings d rules') := by
  have hrules := composedOf_execute settings d rules
  have hrules' := composedOf_execute settings d rules'
  have hparts := h.map fun rule => execute settings d [rule]
  have hpasses : ∀ i, (execute settings d rules).passesAt i =
      (execute settings d rules').passesAt i := by
    intro i
    rw [hrules.passesAt, hrules'.passesAt]
    exact hparts.all_eq
  refine ⟨?_, fun i => ?_, fun i => ?_, hpasses, summary_execute_congr hpasses⟩
  · rw [hrules.globalErrors, hrules'.globalErrors]
    exact hparts.flatMap_right _
  · rw [hrules.evaluationsAt, hrules'.evaluationsAt]
    exact hparts.flatMap_right _
  · rw [hrules.failuresAt, hrules'.failuresAt]
    exact hparts.flatMap_right _

/-! ### Independence -/

/-- Runs that judge their rules **independently** of each other. -/
structure IndependentRuns (run : List Rule → Execution) : Prop where
  /-- Further rules leave what the others say as it is, and add what they say themselves. -/
  joins : ∀ first second, (run (first ++ second)).Joins (run first) (run second)
  /-- Every rule says what it says alone. -/
  composedOf : ∀ rules, (run rules).ComposedOf (rules.map fun rule => run [rule])
  /-- In another order the rules say the same. -/
  reorders : ∀ rules rules', rules.Perm rules' → (run rules).Reorders (run rules')

/-- **No rule influences another one**, on any dataset and under any settings. -/
theorem independent_execute (settings : Settings) (d : Dataset) :
    IndependentRuns (execute settings d) :=
  ⟨joins_execute settings d, composedOf_execute settings d,
    fun _ _ h => reorders_execute settings d h⟩

end DataQuality
