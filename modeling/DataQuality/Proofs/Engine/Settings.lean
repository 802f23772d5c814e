import DataQuality.Proofs.Engine.Footprint
import Mathlib.Data.List.Basic

/-!
# What a setting takes part in

An outcome is made of messages about totals, of verdicts on rows, of the marks on these verdicts and
of a summary. Each of these parts is determined by a few of the settings of the run:

* the messages about totals by the tolerance;
* the verdicts, marks aside, and the summary by what becomes of rows that lack a column;
* the marks by whether repeated rows are marked, and by the rows of the dataset.

The log settings are not among them. Two runs whose settings differ in one place therefore agree on
every part that this setting has no say in (`DataQuality.separateSettings_execute`).

Whether a row passes is a matter of that row, the rules on rows and the declared columns. Neither
the other rows have a part in it, which may repeat the row or be repeated by it, nor the rules on
totals.
-/

namespace DataQuality

/-- A verdict **without its mark**. -/
def RowVerdict.unmarked (v : RowVerdict) : RowVerdict := v.mark none

/-- The **rules on rows** among some rules. -/
def rowRules (rules : List Rule) : List Rule := rules.filter fun rule => !rule.isAggregate

/-! ### What the checks are made of -/

namespace RowCheck

/-- Rules on totals are made into no checks. -/
theorem ofRules_rowRules (d : Dataset) (rules : List Rule) :
    ofRules d (rowRules rules) = ofRules d rules := by
  rw [ofRules, rowRules, List.filterMap_filter]
  refine List.filterMap_congr fun rule _ => ?_
  rcases haggregate : rule.isAggregate with _ | _
  · rfl
  · exact (ofRule?_eq_none.mpr haggregate).symm

/-- **The checks are made of the declared columns and the rules on rows.** -/
theorem ofRules_congr {d d' : Dataset} {rules rules' : List Rule}
    (hcolumns : d.columns = d'.columns) (hrules : rowRules rules = rowRules rules') :
    ofRules d rules = ofRules d' rules' := by
  rw [← ofRules_rowRules d, ← ofRules_rowRules d', hrules]
  refine List.filterMap_congr fun rule _ => ?_
  simp only [ofRule?, ofRowRule_congr hcolumns]

end RowCheck

/-! ### What the parts of an outcome are made of -/

section Parts

variable {s t : Settings} {d d' : Dataset} {rules rules' : List Rule}

/-- The verdicts depend on two settings. -/
theorem verdicts_congr (hmissing : s.missing = t.missing)
    (hflag : s.flagDuplicates = t.flagDuplicates) :
    verdicts s d rules = verdicts t d rules := by
  rw [verdicts, verdicts, hmissing, hflag]

/-- Without their marks they depend on one of these. -/
theorem unmarked_verdicts_congr (hmissing : s.missing = t.missing) :
    (verdicts s d rules).map (·.unmarked) = (verdicts t d rules).map (·.unmarked) := by
  rw [map_verdicts (fun _ _ => rfl), map_verdicts (fun _ _ => rfl), hmissing]

/-- The **marks** depend on the other one and on the rows. -/
theorem marks_verdicts_congr (hflag : s.flagDuplicates = t.flagDuplicates)
    (hrows : d.rows = d'.rows) :
    (verdicts s d rules).map (fun v => (v.isDuplicate, v.duplicateOf)) =
      (verdicts t d' rules').map fun v => (v.isDuplicate, v.duplicateOf) := by
  refine List.ext_getElem? fun i => ?_
  rw [List.getElem?_map, List.getElem?_map, getElem?_verdicts, getElem?_verdicts, markAt, markAt,
    hflag, hrows]
  cases d'.rows[i]? <;> rfl

theorem marks_eq_none (hflag : s.flagDuplicates = false) :
    ∀ v ∈ verdicts s d rules, v.isDuplicate = false ∧ v.duplicateOf = none := by
  intro v hv
  obtain ⟨i, hi⟩ := List.mem_iff_getElem?.mp hv
  rw [getElem?_verdicts, markAt, hflag] at hi
  obtain ⟨row, -, rfl⟩ := Option.map_eq_some_iff.mp hi
  exact ⟨rfl, rfl⟩

/-- **Whether a row passes** depends on the row, on one setting, on the declared columns and on the
rules on rows. -/
theorem passed_verdicts_congr {i j : Nat} (hmissing : s.missing = t.missing)
    (hcolumns : d.columns = d'.columns) (hrules : rowRules rules = rowRules rules')
    (hrow : d.rows[i]? = d'.rows[j]?) :
    (verdicts s d rules)[i]?.map (·.passed) = (verdicts t d' rules')[j]?.map (·.passed) := by
  rw [getElem?_verdicts, getElem?_verdicts, hmissing, hrow, RowCheck.ofRules_congr hcolumns hrules]
  cases d'.rows[j]? <;> rfl

theorem summary_congr (hmissing : s.missing = t.missing) :
    (execute s d rules).summary = (execute t d rules).summary := by
  refine summary_execute_congr fun i => ?_
  rw [passesAt_execute, passesAt_execute, hmissing]

end Parts

/-! ### Settings that differ in one place -/

/-- Runs of which **each setting has its own part**. -/
structure SeparateSettings (run : Settings → Dataset → List Rule → Execution) : Prop where
  /-- The log settings have no part in the outcome. -/
  log : ∀ s log d rules, run { s with log := log } d rules = run s d rules
  /-- Whether repeated rows are marked shows in the marks alone. -/
  flagDuplicates : ∀ s flag d rules,
    (run { s with flagDuplicates := flag } d rules).results.map (·.unmarked) =
        (run s d rules).results.map (·.unmarked) ∧
      (run { s with flagDuplicates := flag } d rules).summary = (run s d rules).summary ∧
      (run { s with flagDuplicates := flag } d rules).globalErrors = (run s d rules).globalErrors
  /-- There are no marks if repeated rows are not marked. -/
  unmarked : ∀ s d rules, s.flagDuplicates = false →
    ∀ v ∈ (run s d rules).results, v.isDuplicate = false ∧ v.duplicateOf = none
  /-- The tolerance shows in the messages about totals alone. -/
  tolerance : ∀ s tolerance d rules,
    (run { s with tolerance := tolerance } d rules).results = (run s d rules).results ∧
      (run { s with tolerance := tolerance } d rules).summary = (run s d rules).summary
  /-- What becomes of rows that lack a column does not show in these messages, nor in the marks. -/
  missing : ∀ s policy d rules,
    (run { s with missing := policy } d rules).globalErrors = (run s d rules).globalErrors ∧
      (run { s with missing := policy } d rules).results.map
          (fun v => (v.isDuplicate, v.duplicateOf)) =
        (run s d rules).results.map fun v => (v.isDuplicate, v.duplicateOf)
  /-- Whether a row passes is the same among other rows, with other rules on totals, and under all
  settings that treat absent columns in the same way. -/
  passed : ∀ s t d d' rules rules' (i j : Nat), s.missing = t.missing → d.columns = d'.columns →
    rowRules rules = rowRules rules' → d.rows[i]? = d'.rows[j]? →
    (run s d rules).results[i]?.map (·.passed) = (run t d' rules').results[j]?.map (·.passed)

/-- **Each setting affects its own part of the outcome**, and no row passes or fails on account of
its repetitions or of a rule on totals. -/
theorem separateSettings_execute : SeparateSettings execute where
  log _ _ _ _ := rfl
  flagDuplicates _ _ _ _ := ⟨unmarked_verdicts_congr rfl, summary_congr rfl, rfl⟩
  unmarked _ _ _ hflag := marks_eq_none hflag
  tolerance _ _ _ _ := ⟨verdicts_congr rfl rfl, summary_congr rfl⟩
  missing _ _ _ _ := ⟨rfl, marks_verdicts_congr rfl rfl⟩
  passed _ _ _ _ _ _ _ _ := passed_verdicts_congr

end DataQuality
