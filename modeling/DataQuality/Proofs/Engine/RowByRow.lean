import DataQuality.Proofs.Engine.Consistency

/-!
# A run, row by row

The verdict on a row is made of what the checks find on that row; its place and the mark of a
repeated row are added from outside (`DataQuality.getElem?_verdicts`). Two runs are therefore
compared row by row, and in a row check by check, without following the passes over the dataset.

What is looked at in a row is named here: its evaluations, its failures, and whether it passes. The
summary of a run is read off the last of these alone (`DataQuality.summary_execute_congr`).
-/

namespace DataQuality

/-! ### The verdict at a place -/

theorem getElem?_rowVerdicts (policy : MissingPolicy) (checks : List RowCheck) (place : Nat)
    (rows : List Row) (i : Nat) :
    (rowVerdicts policy checks place rows)[i]? =
      rows[i]?.map fun row => .ofRow policy checks (place + i) row := by
  -- the place counts on from row to row, so the induction is over all first places
  induction rows generalizing place i with
  | nil => rfl
  | cons row rows ih =>
    cases i with
    | zero => rfl
    | succ i =>
      rw [rowVerdicts, List.getElem?_cons_succ, List.getElem?_cons_succ, ih,
        Nat.add_right_comm, Nat.add_assoc]

/-- The **mark** of the row at an index, if rows are marked at all. -/
def markAt (settings : Settings) (rows : List Row) (i : Nat) : Option Nat :=
  if settings.flagDuplicates then (duplicateReferences rows)[i]?.join else none

/-- **The verdict at an index** is that of the checks on the row there, with its place and its
mark. -/
theorem getElem?_verdicts (settings : Settings) (d : Dataset) (rules : List Rule) (i : Nat) :
    (verdicts settings d rules)[i]? = d.rows[i]?.map fun row =>
      (RowVerdict.ofRow settings.missing (RowCheck.ofRules d rules) (1 + i) row).mark
        (markAt settings d.rows i) := by
  unfold verdicts markAt
  split
  · rw [markDuplicates, List.getElem?_zipWith, getElem?_rowVerdicts]
    rcases hrow : d.rows[i]? with _ | row
    · rfl
    · -- there is a reference for every row
      have hlt : i < (duplicateReferences d.rows).length := by
        rw [length_duplicateReferences]
        exact (List.getElem?_eq_some_iff.mp hrow).1
      rw [List.getElem?_eq_getElem hlt]
      rfl
  · rw [getElem?_rowVerdicts]
    rfl

/-! ### What is seen of a row -/

namespace Execution

/-- The **evaluations** of the row at an index, none outside the dataset. -/
def evaluationsAt (e : Execution) (i : Nat) : List Evaluation :=
  e.results[i]?.elim [] (·.evaluations)

/-- The **failures** of the row at an index, none outside the dataset. -/
def failuresAt (e : Execution) (i : Nat) : List Failure := e.results[i]?.elim [] (·.failures)

/-- Whether the row at an index **passes**; outside the dataset nothing fails. -/
def passesAt (e : Execution) (i : Nat) : Bool := e.results[i]?.all (·.passed)

end Execution

section Views

variable (settings : Settings) (d : Dataset) (rules : List Rule) (i : Nat)

/-- The evaluations on a row are those that the checks leave there. -/
theorem evaluationsAt_execute :
    (execute settings d rules).evaluationsAt i = d.rows[i]?.elim [] fun row =>
      (RowCheck.ofRules d rules).filterMap fun c =>
        c.evaluation? settings.missing (c.outcome row) := by
  rw [Execution.evaluationsAt, execute, getElem?_verdicts]
  cases d.rows[i]? <;> rfl

/-- The failures on a row are those that the checks leave there. -/
theorem failuresAt_execute :
    (execute settings d rules).failuresAt i = d.rows[i]?.elim [] fun row =>
      (RowCheck.ofRules d rules).filterMap fun c =>
        c.failure? settings.missing (c.outcome row) := by
  rw [Execution.failuresAt, execute, getElem?_verdicts]
  cases d.rows[i]? <;> rfl

/-- A row passes if every check lets it pass. -/
theorem passesAt_execute :
    (execute settings d rules).passesAt i = d.rows[i]?.all fun row =>
      (RowCheck.ofRules d rules).all fun c => (c.outcome row).passes settings.missing := by
  rw [Execution.passesAt, execute, getElem?_verdicts]
  cases d.rows[i]? <;> rfl

/-- A row passes exactly if it has no failures. -/
theorem passesAt_iff_failuresAt_eq_nil :
    (execute settings d rules).passesAt i = true ↔
      (execute settings d rules).failuresAt i = [] := by
  rw [passesAt_execute, failuresAt_execute]
  cases d.rows[i]? with
  | none => simp
  | some row => exact passed_ofRow_iff_failures settings.missing _ (1 + i) row

end Views

/-! ### The summary -/

/-- A summary depends on the places of the rows and on whether they passed. -/
theorem Summary.ofVerdicts_congr {vs ws : List RowVerdict}
    (h : vs.map (fun v => (v.rowIndex, v.passed)) = ws.map fun v => (v.rowIndex, v.passed)) :
    Summary.ofVerdicts vs = Summary.ofVerdicts ws := by
  have himpacted : ∀ us : List RowVerdict, Summary.impacted us =
      (((us.map fun v => (v.rowIndex, v.passed)).filter fun p => !p.2).map Prod.fst).foldr
        insertPlace [] := by
    intro us
    rw [Summary.impacted, List.filter_map, List.map_map]
    rfl
  have hlength : vs.length = ws.length := by simpa using congrArg List.length h
  simp only [Summary.ofVerdicts, hlength, himpacted, h]

/-- **The summary of a run is read off the rows that pass.** -/
theorem summary_execute_congr {s t : Settings} {d : Dataset} {rules rules' : List Rule}
    (h : ∀ i, (execute s d rules).passesAt i = (execute t d rules').passesAt i) :
    (execute s d rules).summary = (execute t d rules').summary := by
  refine Summary.ofVerdicts_congr (List.ext_getElem? fun i => ?_)
  simp only [List.getElem?_map, getElem?_verdicts]
  rcases hrow : d.rows[i]? with _ | row
  · rfl
  · have hpasses := h i
    rw [passesAt_execute, passesAt_execute, hrow] at hpasses
    exact congrArg (fun b => some (1 + i, b)) hpasses

/-- The places of a run increase. -/
theorem pairwise_rowIndex_verdicts (settings : Settings) (d : Dataset) (rules : List Rule) :
    ((verdicts settings d rules).map (·.rowIndex)).Pairwise (· < ·) := by
  rw [map_rowIndex_verdicts]
  exact List.pairwise_lt_range'

/-- **The impacted rows are the rows that do not pass**, their places being counted from one. -/
theorem mem_impactedRows_execute {settings : Settings} {d : Dataset} {rules : List Rule}
    {place : Nat} :
    place ∈ (execute settings d rules).summary.impactedRows ↔
      ∃ i, place = 1 + i ∧ (execute settings d rules).passesAt i = false := by
  change place ∈ (Summary.ofVerdicts (verdicts settings d rules)).impactedRows ↔ _
  rw [mem_impactedRows_ofVerdicts (pairwise_rowIndex_verdicts settings d rules)]
  constructor
  · rintro ⟨v, hv, rfl, hfailed⟩
    obtain ⟨i, hi⟩ := List.mem_iff_getElem?.mp hv
    refine ⟨i, ?_, ?_⟩
    · rw [getElem?_verdicts] at hi
      obtain ⟨row, -, rfl⟩ := Option.map_eq_some_iff.mp hi
      rfl
    · rw [Execution.passesAt, execute, hi]
      exact hfailed
  · rintro ⟨i, rfl, hfailed⟩
    rw [Execution.passesAt, execute] at hfailed
    rcases hi : (verdicts settings d rules)[i]? with _ | v
    · rw [hi] at hfailed
      exact absurd hfailed (by simp)
    · rw [hi] at hfailed
      refine ⟨v, List.mem_of_getElem? hi, ?_, hfailed⟩
      rw [getElem?_verdicts] at hi
      obtain ⟨row, -, rfl⟩ := Option.map_eq_some_iff.mp hi
      rfl

end DataQuality
