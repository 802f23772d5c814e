import DataQuality.Proofs.Engine.Events

/-!
# What the log settings switch off

The log settings of a run have two switches, one for the outcomes of single rules and one for
operations on the whole dataset. With both of them off a run should leave its warnings and its last
event, and nothing else (`DataQuality.ObeysSwitches`).

A run does (`DataQuality.cases_of_mem_executionEvents`): an event of it is a warning, an outcome
that the first switch lets through, or the last event. Switching outcomes off takes them out of the
log and leaves all the rest as it is (`DataQuality.executionEvents_withoutDetails`).

A run with a profile obeys the first switch, but not the second one. Of its two operations on the
dataset only the step to the built-in rules asks the settings of the run. The **profiler** has
settings of its own, which are the usual ones, so its event is there whatever the run is told
(`DataQuality.filter_isDataOperation_profiledEvents`).
-/

namespace DataQuality

/-! ### Kinds of events -/

namespace Event

/-- Whether an event is the **outcome of a rule**, on a row or on a part, or says that there is
none. -/
def isOutcome : Event → Bool
  | rowSkipped .. | rowJudged .. => true
  | groupSkipped .. | groupJudged .. => true
  | _ => false

/-- Whether an event is an **operation on a whole dataset**. -/
def isDataOperation : Event → Bool
  | catalogApplied | profiled .. | scanned .. => true
  | delimitedRegistered .. | linesRegistered .. | batchesConverted .. => true
  | _ => false

/-- Whether an event is the **end of a run**. -/
def isCompletion : Event → Bool
  | runCompleted .. => true
  | _ => false

variable {e : Event}

theorem isOutcome_of_isRowOutcome (h : e.isRowOutcome = true) : e.isOutcome = true := by
  cases e with
  | rowSkipped => rfl
  | rowJudged => rfl
  | _ => exact absurd h Bool.false_ne_true

/-- A warning is of no other kind. -/
theorem kinds_of_warn (h : e.level = .warn) : e.isOutcome = false ∧ e.isDataOperation = false := by
  cases e <;> simp_all [level, isOutcome, isDataOperation]

theorem isDataOperation_of_isOutcome (h : e.isOutcome = true) :
    e.isDataOperation = false := by
  cases e <;> simp_all [isOutcome, isDataOperation]

theorem kinds_of_isCompletion (h : e.isCompletion = true) :
    e.isOutcome = false ∧ e.isDataOperation = false := by
  cases e <;> simp_all [isCompletion, isOutcome, isDataOperation]

end Event

/-- Events **obey the switches** of some log settings if what is switched off is not among them, and
if there is nothing but warnings and the end of the run under the settings for quiet. -/
structure ObeysSwitches (log : LogSettings) (events : List Event) : Prop where
  /-- Outcomes of rules can be switched off. -/
  outcomes : log.ruleDetails = false → ∀ e ∈ events, e.isOutcome = false
  /-- Operations on the dataset can be switched off. -/
  operations : log.dataOperations = false → ∀ e ∈ events, e.isDataOperation = false
  /-- A quiet run warns and ends. -/
  quiet : log = .quiet → ∀ e ∈ events, e.level = .warn ∨ e.isCompletion = true

/-! ### Runs -/

theorem AggregateRule.isOutcome_event (id : UInt64) (o : GroupOutcome) :
    (event id o).isOutcome = true := by
  cases o <;> rfl

section Runs

variable {settings : Settings} {d : Dataset} {rules : List Rule} {e : Event}

/-- **An event of a run** is a warning, an outcome that is logged, or the end of the run. -/
theorem cases_of_mem_executionEvents (h : e ∈ executionEvents settings d rules) :
    e.level = .warn ∨ settings.log.ruleDetails = true ∧ e.isOutcome = true ∨
      e.isCompletion = true := by
  simp only [executionEvents, List.mem_append, List.mem_singleton] at h
  rcases h with ((hglobal | hwarning) | hrow) | rfl
  · obtain ⟨rule, -, he⟩ := List.mem_flatMap.mp hglobal
    split at he
    · exact absurd he List.not_mem_nil
    · obtain hwarn | ⟨hdetails, o, rfl⟩ := AggregateRule.cases_of_mem_events he
      · exact .inl hwarn
      · exact .inr (.inl ⟨hdetails, AggregateRule.isOutcome_event rule.id o⟩)
  · exact .inl (RowCheck.level_of_mem_flatMap_warnings hwarning)
  · obtain ⟨hdetails, houtcome⟩ := ruleDetails_and_isRowOutcome_of_mem_rowsEvents hrow
    exact .inr (.inl ⟨hdetails, Event.isOutcome_of_isRowOutcome houtcome⟩)
  · exact .inr (.inr rfl)

variable (settings d rules)

/-- A run leaves no operation on its dataset in the log. -/
theorem isDataOperation_of_mem_executionEvents (h : e ∈ executionEvents settings d rules) :
    e.isDataOperation = false := by
  obtain hwarn | ⟨-, houtcome⟩ | hend := cases_of_mem_executionEvents h
  · exact (Event.kinds_of_warn hwarn).2
  · exact Event.isDataOperation_of_isOutcome houtcome
  · exact (Event.kinds_of_isCompletion hend).2

/-- **A run obeys both switches.** -/
theorem obeysSwitches_executionEvents :
    ObeysSwitches settings.log (executionEvents settings d rules) where
  outcomes hoff e he := by
    obtain hwarn | ⟨hdetails, -⟩ | hend := cases_of_mem_executionEvents he
    · exact (Event.kinds_of_warn hwarn).1
    · exact absurd (hoff.symm.trans hdetails) Bool.false_ne_true
    · exact (Event.kinds_of_isCompletion hend).1
  operations _ e he := isDataOperation_of_mem_executionEvents settings d rules he
  quiet hquiet e he := by
    obtain hwarn | ⟨hdetails, -⟩ | hend := cases_of_mem_executionEvents he
    · exact .inl hwarn
    · rw [hquiet] at hdetails
      exact absurd hdetails Bool.false_ne_true
    · exact .inr hend

/-- Settings with the **outcomes of rules switched off**. -/
def Settings.withoutDetails (s : Settings) : Settings :=
  { s with log := { s.log with ruleDetails := false } }

/-- Warnings are no outcomes, and stay. -/
theorem filter_not_isOutcome_of_warn {events : List Event} (h : ∀ e ∈ events, e.level = .warn) :
    (events.filter fun e => !e.isOutcome) = events :=
  List.filter_eq_self.mpr fun e he => by rw [(Event.kinds_of_warn (h e he)).1, Bool.not_false]

/-- Outcomes are taken out. -/
theorem filter_not_isOutcome_of_isOutcome {events : List Event}
    (h : ∀ e ∈ events, e.isOutcome = true) : (events.filter fun e => !e.isOutcome) = [] :=
  List.filter_eq_nil_iff.mpr fun e he => by simp [h e he]

theorem AggregateRule.events_withoutDetails (r : AggregateRule) (id : UInt64) :
    r.events d settings.withoutDetails id =
      (r.events d settings id).filter fun e => !e.isOutcome := by
  rw [events, events, List.filter_append,
    filter_not_isOutcome_of_warn fun _ => level_of_mem_warnings]
  refine congrArg (r.warnings d id ++ ·) (filter_not_isOutcome_of_isOutcome fun e he => ?_).symm
  split at he
  · obtain ⟨o, -, rfl⟩ := List.mem_map.mp he
    exact isOutcome_event id o
  · exact absurd he List.not_mem_nil

theorem globalEvents_withoutDetails : globalEvents settings.withoutDetails d rules =
    (globalEvents settings d rules).filter fun e => !e.isOutcome := by
  rw [globalEvents, globalEvents, List.filter_flatMap]
  refine List.flatMap_congr fun rule _ => ?_
  split
  · rfl
  · exact AggregateRule.events_withoutDetails settings d _ rule.id

/-- Rows have nothing but outcomes to log. -/
theorem rowsEvents_withoutDetails (checks : List RowCheck) (place : Nat) (rows : List Row) :
    rowsEvents settings.withoutDetails checks place rows =
      (rowsEvents settings checks place rows).filter fun e => !e.isOutcome := by
  rw [filter_not_isOutcome_of_isOutcome fun _ he =>
    Event.isOutcome_of_isRowOutcome (isRowOutcome_of_mem_rowsEvents he), rowsEvents_eq_flatMap]
  exact List.flatMap_eq_nil_iff.mpr fun _ _ => rfl

/-- **Switching outcomes off takes them out**, and leaves everything else in the log. -/
theorem executionEvents_withoutDetails :
    executionEvents settings.withoutDetails d rules =
      (executionEvents settings d rules).filter fun e => !e.isOutcome := by
  rw [filter_executionEvents, ← globalEvents_withoutDetails,
    filter_not_isOutcome_of_warn fun _ => RowCheck.level_of_mem_flatMap_warnings,
    ← rowsEvents_withoutDetails]
  rfl

end Runs

/-! ### Runs with a profile -/

/-- The event that the **profiler** leaves of a dataset. -/
def profilerEvent (d : Dataset) : Event :=
  .profiled (DataProfile.ofDataset d).columns.length (DataProfile.ofDataset d).totalRows
    (DataProfile.ofDataset d).duplicateRowCount

section Profiled

variable (settings : Settings) (d : Dataset) (rules : RuleSet)

/-- The events of a run with a profile, in order. -/
theorem profiledEvents_eq : profiledEvents settings d rules =
    (if rules.isEmpty && settings.log.dataOperations then [.catalogApplied] else []) ++
      profilerEvent d :: executionEvents settings d (rulesToApply rules).rules := by
  rw [profiledEvents, List.append_assoc]
  rfl

/-- **The operations of a run with a profile**: the step to the built-in rules, if it is made and
the settings let it through, and the profile in any case. -/
theorem filter_isDataOperation_profiledEvents :
    (profiledEvents settings d rules).filter (·.isDataOperation) =
      (if rules.isEmpty && settings.log.dataOperations then [.catalogApplied] else []) ++
        [profilerEvent d] := by
  have hrun : (executionEvents settings d (rulesToApply rules).rules).filter
      (·.isDataOperation) = [] :=
    List.filter_eq_nil_iff.mpr fun e he => by
      rw [isDataOperation_of_mem_executionEvents settings d _ he]
      exact Bool.false_ne_true
  rw [profiledEvents_eq, List.filter_append, List.filter_cons_of_pos rfl, hrun]
  split <;> rfl

theorem mem_profiledEvents {e : Event} : e ∈ profiledEvents settings d rules ↔
    (rules.isEmpty = true ∧ settings.log.dataOperations = true) ∧ e = .catalogApplied ∨
      e = profilerEvent d ∨ e ∈ executionEvents settings d (rulesToApply rules).rules := by
  rw [profiledEvents_eq, List.mem_append, List.mem_cons, ← Bool.and_eq_true]
  split <;> simp [*]

end Profiled

/-- The log settings **switch runs** on a dataset. -/
structure SwitchesRuns (settings : Settings) (d : Dataset) : Prop where
  /-- A run obeys both switches. -/
  run : ∀ rules, ObeysSwitches settings.log (executionEvents settings d rules)
  /-- Switching outcomes off takes them out of the log of a run, and nothing else. -/
  run_withoutDetails : ∀ rules, executionEvents settings.withoutDetails d rules =
    (executionEvents settings d rules).filter fun e => !e.isOutcome
  /-- A run with a profile obeys the switch for outcomes. -/
  profiled_outcomes : settings.log.ruleDetails = false → ∀ rules,
    ∀ e ∈ profiledEvents settings d rules, e.isOutcome = false
  /-- Its operations are the step to the built-in rules, which obeys the other switch, and the
  profile, which does not. -/
  profiled_operations : ∀ rules, (profiledEvents settings d rules).filter (·.isDataOperation) =
    (if rules.isEmpty && settings.log.dataOperations then [.catalogApplied] else []) ++
      [profilerEvent d]
  /-- So the profile is all that a quiet run with a profile leaves besides its warnings and its
  end. -/
  profiled_quiet : settings.log = .quiet → ∀ rules, ∀ e ∈ profiledEvents settings d rules,
    e.level = .warn ∨ e.isCompletion = true ∨ e = profilerEvent d
  /-- And both switches are obeyed exactly if operations are not switched off. -/
  profiled_obeys_iff : ∀ rules, ObeysSwitches settings.log (profiledEvents settings d rules) ↔
    settings.log.dataOperations = true

/-- **The log settings switch whole runs**, the profiler aside. For every dataset, all rules and all
settings, a run leaves no outcome of a rule and no operation on the dataset where these are switched
off, and a run with a profile leaves nothing of the kind but the event of the profiler. -/
theorem switchesRuns (settings : Settings) (d : Dataset) : SwitchesRuns settings d := by
  have houtcomes : settings.log.ruleDetails = false → ∀ rules,
      ∀ e ∈ profiledEvents settings d rules, e.isOutcome = false := by
    intro hoff rules e he
    obtain ⟨-, rfl⟩ | rfl | he := (mem_profiledEvents settings d rules).mp he
    · rfl
    · rfl
    · exact (obeysSwitches_executionEvents settings d _).outcomes hoff e he
  refine
    { run := obeysSwitches_executionEvents settings d
      run_withoutDetails := executionEvents_withoutDetails settings d
      profiled_outcomes := houtcomes
      profiled_operations := filter_isDataOperation_profiledEvents settings d
      profiled_quiet := fun hquiet rules e he => ?_
      profiled_obeys_iff := fun rules => ⟨fun h => ?_, fun hon => ?_⟩ }
  · obtain ⟨⟨-, hon⟩, -⟩ | rfl | he := (mem_profiledEvents settings d rules).mp he
    · rw [hquiet] at hon
      exact absurd hon Bool.false_ne_true
    · exact .inr (.inr rfl)
    · exact ((obeysSwitches_executionEvents settings d _).quiet hquiet e he).imp_right .inl
  · -- the event of the profiler is an operation, and there in any case
    by_contra hoff
    have hprofiler := (mem_profiledEvents settings d rules).mpr (.inr (.inl rfl))
    exact absurd (h.operations (Bool.eq_false_iff.mpr hoff) _ hprofiler).symm Bool.false_ne_true
  · refine ⟨fun hoff => houtcomes hoff rules, fun hoff => ?_, fun hquiet => ?_⟩
    · exact absurd (hoff.symm.trans hon) Bool.false_ne_true
    · rw [hquiet] at hon
      exact absurd hon Bool.false_ne_true

/-- A rule to profile and run **quietly**. -/
def quietRules : RuleSet := ⟨[⟨1, none, none, .row (.literal "v" (.parse "gt") "0")⟩], by decide⟩

/-- A sheet with one value, which passes. -/
def quietSheet : Dataset := ⟨[⟨"v", .number⟩], [.ofFields [("v", .number 5)]]⟩

/-- A quiet run with a profile leaves an operation in the log: one column and one row were
profiled. -/
theorem profiledEvents_quietSheet :
    .profiled 1 1 0 ∈ profiledEvents { Settings.default with log := .quiet } quietSheet quietRules ∧
      ¬ObeysSwitches .quiet
        (profiledEvents { Settings.default with log := .quiet } quietSheet quietRules) := by
  have hprofiler : .profiled 1 1 0 ∈
      profiledEvents { Settings.default with log := .quiet } quietSheet quietRules :=
    (mem_profiledEvents _ _ _).mpr (.inr (.inl rfl))
  exact ⟨hprofiler, fun h => Bool.false_ne_true (h.operations rfl _ hprofiler).symm⟩

end DataQuality
