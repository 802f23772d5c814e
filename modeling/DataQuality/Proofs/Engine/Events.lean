import DataQuality.Engine.Run
import Mathlib.Data.List.Basic

/-!
# The events of a run, phase by phase

A run leaves its events in four phases: every aggregate rule gives its warnings and then the
outcomes of its groups, the checks of the rules on rows give their warnings, the rows give their
outcomes, and one event ends the run. What is asked about the events of a run is always about the
events of some kind, and a kind of events is found by level and by what they are about. This file
says for each phase which kinds it can hold, so that the events of one kind can be looked for in the
phases that have any (`DataQuality.filter_executionEvents`).

The outcomes of rows are passed from row to row with a place that counts on.
`DataQuality.rowsEvents_eq_flatMap` says the same of the rows with their places.
-/

namespace DataQuality

namespace Event

/-- Whether an event is the **outcome of a rule on a row**. -/
def isRowOutcome : Event → Bool
  | rowSkipped .. | rowJudged .. => true
  | _ => false

theorem level_of_isRowOutcome {e : Event} (h : e.isRowOutcome = true) : e.level = .debug := by
  unfold isRowOutcome at h
  split at h
  · rfl
  · rfl
  · exact absurd h Bool.false_ne_true

theorem isRowOutcome_of_level_ne {e : Event} (h : e.level ≠ .debug) : e.isRowOutcome = false :=
  Bool.eq_false_iff.mpr fun houtcome => h (level_of_isRowOutcome houtcome)

/-- The rule and the label of the **part that an event is about**, if it is the outcome of a rule on
totals. -/
def part? : Event → Option (UInt64 × String)
  | groupSkipped rule label => some (rule, label)
  | groupJudged rule label _ _ _ => some (rule, label)
  | _ => none

theorem part?_of_level_ne {e : Event} (h : e.level ≠ .debug) : e.part? = none := by
  cases e with
  | groupSkipped => exact absurd rfl h
  | groupJudged => exact absurd rfl h
  | _ => rfl

theorem part?_of_isRowOutcome {e : Event} (h : e.isRowOutcome = true) : e.part? = none := by
  cases e with
  | rowSkipped => rfl
  | rowJudged => rfl
  | _ => exact absurd h Bool.false_ne_true

end Event

/-! ### Rules on totals -/

namespace AggregateRule

variable {r : AggregateRule} {d : Dataset} {id : UInt64} {e : Event}

/-- A rule on totals warns of its operator, of a target, or of its grouping column. -/
theorem cases_of_mem_warnings (h : e ∈ r.warnings d id) :
    (∃ operator, e = .unknownAggregate id operator) ∨
      (∃ column, e = .targetAbsent id column) ∨ ∃ column, e = .groupAbsent id column := by
  rw [warnings] at h
  split at h
  · exact .inl ⟨_, List.mem_singleton.mp h⟩
  · rcases List.mem_append.mp h with h | h
    · split at h
      · exact .inr (.inl ⟨_, List.mem_singleton.mp h⟩)
      · exact absurd h List.not_mem_nil
    · split at h
      · split at h
        · exact absurd h List.not_mem_nil
        · exact .inr (.inr ⟨_, List.mem_singleton.mp h⟩)
      · exact absurd h List.not_mem_nil

theorem level_of_mem_warnings (h : e ∈ r.warnings d id) : e.level = .warn := by
  obtain ⟨_, rfl⟩ | ⟨_, rfl⟩ | ⟨_, rfl⟩ := cases_of_mem_warnings h <;> rfl

theorem level_event (id : UInt64) (o : GroupOutcome) : (event id o).level = .debug := by
  cases o <;> rfl

theorem isRowOutcome_event (id : UInt64) (o : GroupOutcome) :
    (event id o).isRowOutcome = false := by
  cases o <;> rfl

/-- **An event of a rule on totals** is a warning, or the outcome of a part, which has to be
logged. -/
theorem cases_of_mem_events {settings : Settings} (h : e ∈ r.events d settings id) :
    e.level = .warn ∨ settings.log.ruleDetails = true ∧ ∃ o, e = event id o := by
  rw [events] at h
  rcases List.mem_append.mp h with h | h
  · exact .inl (level_of_mem_warnings h)
  · split at h
    · next hdetails =>
      obtain ⟨o, -, rfl⟩ := List.mem_map.mp h
      exact .inr ⟨hdetails, o, rfl⟩
    · exact absurd h List.not_mem_nil

/-- The events of a rule on totals are no outcomes on rows. -/
theorem isRowOutcome_of_mem_events {settings : Settings} (h : e ∈ r.events d settings id) :
    e.isRowOutcome = false := by
  obtain hwarn | ⟨-, o, rfl⟩ := cases_of_mem_events h
  · exact Event.isRowOutcome_of_level_ne (by rw [hwarn]; decide)
  · exact isRowOutcome_event id o

end AggregateRule

/-! ### Rules on rows -/

namespace RowCheck

/-- A rule on rows warns of its operator or of a column that it needs. -/
theorem cases_of_mem_warnings {d : Dataset} {policy : MissingPolicy} {c : RowCheck} {e : Event}
    (h : e ∈ c.warnings d policy) : (∃ operator, e = .unknownOperator c.rule.id operator) ∨
      ∃ column, e = .columnAbsent c.rule.id column policy := by
  rw [warnings] at h
  rcases List.mem_append.mp h with h | h
  · split at h
    · exact absurd h List.not_mem_nil
    · exact .inl ⟨_, List.mem_singleton.mp h⟩
  · split at h
    · exact .inr ⟨_, List.mem_singleton.mp h⟩
    · exact absurd h List.not_mem_nil

theorem level_of_mem_warnings {d : Dataset} {policy : MissingPolicy} {c : RowCheck} {e : Event}
    (h : e ∈ c.warnings d policy) : e.level = .warn := by
  obtain ⟨_, rfl⟩ | ⟨_, rfl⟩ := cases_of_mem_warnings h <;> rfl

theorem level_of_mem_flatMap_warnings {d : Dataset} {policy : MissingPolicy}
    {checks : List RowCheck} {e : Event} (h : e ∈ checks.flatMap (warnings d policy)) :
    e.level = .warn := by
  obtain ⟨c, -, h⟩ := List.mem_flatMap.mp h
  exact level_of_mem_warnings h

theorem isRowOutcome_of_event? {c : RowCheck} {settings : Settings} {place : Nat} {o : RowOutcome}
    {e : Event} (h : c.event? settings place o = some e) : e.isRowOutcome = true := by
  cases o with
  | missing column =>
    rw [event?] at h
    split at h
    · rw [← Option.some.inj h]
      rfl
    · exact absurd h (by simp)
  | judged value passed =>
    rw [← Option.some.inj h]
    rfl

end RowCheck

theorem rowsEvents_eq_flatMap (settings : Settings) (checks : List RowCheck) (place : Nat)
    (rows : List Row) :
    rowsEvents settings checks place rows =
      (rows.zipIdx place).flatMap fun p => rowEvents settings checks p.2 p.1 := by
  induction rows generalizing place with
  | nil => rfl
  | cons row rows ih => rw [rowsEvents, ih, List.zipIdx_cons, List.flatMap_cons]

/-- **An event of a run of rows** is an outcome, and outcomes are logged. -/
theorem ruleDetails_and_isRowOutcome_of_mem_rowsEvents {settings : Settings}
    {checks : List RowCheck} {place : Nat} {rows : List Row} {e : Event}
    (h : e ∈ rowsEvents settings checks place rows) :
    settings.log.ruleDetails = true ∧ e.isRowOutcome = true := by
  rw [rowsEvents_eq_flatMap] at h
  obtain ⟨p, -, h⟩ := List.mem_flatMap.mp h
  rw [rowEvents] at h
  split at h
  · next hdetails =>
    obtain ⟨c, -, hc⟩ := List.mem_filterMap.mp h
    exact ⟨hdetails, RowCheck.isRowOutcome_of_event? hc⟩
  · exact absurd h List.not_mem_nil

theorem isRowOutcome_of_mem_rowsEvents {settings : Settings} {checks : List RowCheck} {place : Nat}
    {rows : List Row} {e : Event} (h : e ∈ rowsEvents settings checks place rows) :
    e.isRowOutcome = true :=
  (ruleDetails_and_isRowOutcome_of_mem_rowsEvents h).2

/-! ### Runs -/

/-- What is read off the events of a run is read off the phases. -/
theorem filterMap_executionEvents {α : Type} (f : Event → Option α) (settings : Settings)
    (d : Dataset) (rules : List Rule) :
    (executionEvents settings d rules).filterMap f =
      (globalEvents settings d rules).filterMap f ++
        ((RowCheck.ofRules d rules).flatMap (RowCheck.warnings d settings.missing)).filterMap f ++
          (rowsEvents settings (RowCheck.ofRules d rules) 1 d.rows).filterMap f ++
          [completionEvent (RowCheck.ofRules d rules) (execute settings d rules)].filterMap f := by
  simp only [executionEvents, List.filterMap_append]

/-- The events of a kind are those that the phases hold of it. -/
theorem filter_executionEvents (p : Event → Bool) (settings : Settings) (d : Dataset)
    (rules : List Rule) :
    (executionEvents settings d rules).filter p =
      (globalEvents settings d rules).filter p ++
        ((RowCheck.ofRules d rules).flatMap (RowCheck.warnings d settings.missing)).filter p ++
          (rowsEvents settings (RowCheck.ofRules d rules) 1 d.rows).filter p ++
            [completionEvent (RowCheck.ofRules d rules) (execute settings d rules)].filter p := by
  simp only [executionEvents, List.filter_append]

end DataQuality
