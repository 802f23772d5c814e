import DataQuality.Proofs.Engine.Events
import DataQuality.Proofs.Engine.MissingColumns

/-!
# The outcomes on rows that a run logs

Where details are logged, each rule on rows leaves an event of each row, row by row and in rule
order. The verdict on the row is put together from evaluations, which come in the same order. This
file says how the two sequences go together (`DataQuality.followsTrails_execute`).

What a rule leaves behind of one row is a `DataQuality.Trail`: an evaluation or none, and an event or
none. A run makes one trail for each row and each rule on rows. Its verdicts hold the evaluations of
the trails and its log holds the events of the trails, so the only question is what one trail can
look like (`DataQuality.Trail.Fits`). A rule that is passed over leaves an event and no evaluation; a
value that is judged leaves both, with the same finding; and a row that fails for a missing column
leaves an evaluation and **no event**. So the log has an outcome for every row and every rule unless
missing columns fail and some row lacks one.
-/

namespace DataQuality

/-! ### Trails -/

/-- A rule **needs** a column of a row if it is a rule on rows whose body does. -/
def Rule.Needs (rule : Rule) (name : String) : Prop :=
  ∃ body, rule.body = .row body ∧ body.Needs name

/-- What a rule on rows **leaves behind** of a row. -/
structure Trail where
  /-- The place of the row. -/
  place : Nat
  /-- The row. -/
  row : Row
  /-- The rule. -/
  rule : Rule
  /-- The evaluation in the verdict on the row. -/
  evaluation? : Option Evaluation
  /-- The event in the log. -/
  event? : Option Event

/-- The row with its place, and the rule, that a trail is about. -/
def Trail.source (t : Trail) : Nat × Row × Rule := (t.place, t.row, t.rule)

/-- What the **evaluation and the event** of a trail can be, and when. -/
inductive Trail.Fits (settings : Settings) : Trail → Prop
  /-- The row lacks a column, and the rule is passed over: there is an event only, which names a
  column that the rule needs and the row lacks. -/
  | skipped {place : Nat} {row : Row} {rule : Rule} {column : String}
      (hpolicy : settings.missing = .skip) (hneeds : rule.Needs column)
      (habsent : row.contains column = false) :
      Fits settings ⟨place, row, rule, none, some (.rowSkipped place rule.id column)⟩
  /-- The row lacks a column, and fails for it: there is an evaluation only. -/
  | unlogged {place : Nat} {row : Row} {rule : Rule} {e : Evaluation}
      (hpolicy : settings.missing = .fail) (hlacks : row.LacksFor rule)
      (hid : e.ruleId = rule.id) (hpassed : e.passed = false) :
      Fits settings ⟨place, row, rule, some e, none⟩
  /-- The row lacks nothing: there are both, and the event says what the evaluation says. -/
  | judged {place : Nat} {row : Row} {rule : Rule} {e : Evaluation}
      (hlacks : ¬row.LacksFor rule) (hid : e.ruleId = rule.id) :
      Fits settings ⟨place, row, rule, some e, some (.rowJudged place rule.id e.passed
        (truncate settings.log.maxFieldLength e.observed.display))⟩

/-- **A trail has an event**, unless missing columns fail and the row lacks one. -/
theorem Trail.Fits.isSome_event?_iff {settings : Settings} {t : Trail} (h : t.Fits settings) :
    t.event?.isSome = true ↔ (settings.missing = .fail → ¬t.row.LacksFor t.rule) := by
  cases h with
  | skipped hpolicy => simp [hpolicy]
  | unlogged hpolicy hlacks => simp [hpolicy, hlacks]
  | judged hlacks => simp [hlacks]

namespace RowCheck

/-- A column that a check misses is one that the rule needs and the row lacks. -/
theorem needs_of_missing? {d : Dataset} {rules : List Rule} {c : RowCheck} {row : Row}
    {column : String} (hc : c ∈ ofRules d rules) (h : c.missing? row = some column) :
    c.rule.Needs column ∧ row.contains column = false := by
  have habsent : row.contains column = false := by
    simpa using List.find?_some (p := fun name => !row.contains name) h
  obtain ⟨rule, -, body, hbody, rfl⟩ := exists_of_mem_ofRules hc
  exact ⟨⟨body, hbody, mem_required_iff.mp (List.mem_of_find?_eq_some h)⟩, habsent⟩

/-- The **trail** that a check makes. -/
def trail (c : RowCheck) (settings : Settings) (place : Nat) (row : Row) : Trail where
  place := place
  row := row
  rule := c.rule
  evaluation? := c.evaluation? settings.missing (c.outcome row)
  event? := c.event? settings place (c.outcome row)

/-- **Every trail fits.** -/
theorem fits_trail {d : Dataset} {rules : List Rule} {c : RowCheck} (hc : c ∈ ofRules d rules)
    (settings : Settings) (place : Nat) (row : Row) : (c.trail settings place row).Fits settings := by
  rw [trail, outcome]
  -- a check looks for missing columns first, and for the policy only where it misses one
  cases hmissing : c.missing? row with
  | none =>
    have hnone := isNone_missing?_eq d rules row hc
    refine .judged ?_ rfl
    simpa [hmissing] using hnone
  | some column =>
    obtain ⟨hneeds, habsent⟩ := needs_of_missing? hc hmissing
    cases hpolicy : settings.missing with
    | skip =>
      rw [event?, hpolicy]
      exact .skipped hpolicy hneeds habsent
    | fail =>
      obtain ⟨body, hbody, hbodyNeeds⟩ := hneeds
      rw [event?, hpolicy]
      exact .unlogged hpolicy ⟨body, column, hbody, hbodyNeeds, habsent⟩ rfl rfl

end RowCheck

/-! ### The trails of a run -/

/-- The **trails of a run**, row by row. -/
def trails (settings : Settings) (d : Dataset) (rules : List Rule) : List (List Trail) :=
  (d.rows.zipIdx 1).map fun p => (RowCheck.ofRules d rules).map fun c => c.trail settings p.2 p.1

theorem rowVerdicts_eq_map (policy : MissingPolicy) (checks : List RowCheck) (place : Nat)
    (rows : List Row) :
    rowVerdicts policy checks place rows =
      (rows.zipIdx place).map fun p => .ofRow policy checks p.2 p.1 := by
  induction rows generalizing place with
  | nil => rfl
  | cons row rows ih => rw [rowVerdicts, ih, List.zipIdx_cons, List.map_cons]

section Runs

variable (settings : Settings) (d : Dataset) (rules : List Rule)

theorem mem_flatten_trails {t : Trail} : t ∈ (trails settings d rules).flatten ↔
    ∃ p ∈ d.rows.zipIdx 1, ∃ c ∈ RowCheck.ofRules d rules, c.trail settings p.2 p.1 = t := by
  simp only [trails, ← List.flatMap_def, List.mem_flatMap, List.mem_map]

/-- **There is one trail for each row and each rule on rows**, in that order. -/
theorem map_source_trails : (trails settings d rules).map (·.map Trail.source) =
    (d.rows.zipIdx 1).map fun p =>
      (rules.filter fun rule => !rule.isAggregate).map fun rule => (p.2, p.1, rule) := by
  rw [trails, List.map_map]
  refine List.map_congr_left fun p _ => ?_
  rw [← RowCheck.map_rule_ofRules d rules, List.map_map, Function.comp_apply, List.map_map]
  rfl

/-- **The verdicts hold the evaluations of the trails**, row by row. -/
theorem map_evaluations_execute : (execute settings d rules).results.map (·.evaluations) =
    (trails settings d rules).map (·.filterMap (·.evaluation?)) := by
  change (verdicts settings d rules).map (·.evaluations) = _
  rw [map_verdicts (fun _ _ => rfl), rowVerdicts_eq_map, trails, List.map_map, List.map_map]
  refine List.map_congr_left fun p _ => ?_
  rw [Function.comp_apply, Function.comp_apply, List.filterMap_map]
  rfl

/-- The rows leave the events of the trails. -/
theorem rowsEvents_eq_filterMap :
    rowsEvents settings (RowCheck.ofRules d rules) 1 d.rows =
      if settings.log.ruleDetails then (trails settings d rules).flatten.filterMap (·.event?)
      else [] := by
  rw [rowsEvents_eq_flatMap]
  unfold rowEvents
  split
  · rw [trails, ← List.flatMap_def, List.filterMap_flatMap]
    refine List.flatMap_congr fun p _ => ?_
    rw [List.filterMap_map]
    rfl
  · exact List.flatMap_eq_nil_iff.mpr fun _ _ => rfl

/-- The trails fit. -/
theorem fits_of_mem_trails {t : Trail} (ht : t ∈ (trails settings d rules).flatten) :
    t.Fits settings := by
  obtain ⟨p, -, c, hc, rfl⟩ := (mem_flatten_trails settings d rules).mp ht
  exact RowCheck.fits_trail hc settings p.2 p.1

/-- What is asked about the rules of all checks is asked about all rules. -/
theorem forall_not_lacksFor_iff {row : Row} :
    (∀ c ∈ RowCheck.ofRules d rules, ¬row.LacksFor c.rule) ↔ ∀ rule ∈ rules, ¬row.LacksFor rule := by
  rw [← RowCheck.forall_missing?_iff d rules row]
  refine forall₂_congr fun c hc => ?_
  rw [RowCheck.isNone_missing?_eq d rules row hc, Bool.not_eq_true', decide_eq_false_iff_not]

/-- **All trails have an event** unless missing columns fail and some row lacks one. -/
theorem forall_isSome_event?_trails :
    (∀ t ∈ (trails settings d rules).flatten, t.event?.isSome = true) ↔
      (settings.missing = .fail → ∀ row ∈ d.rows, ∀ rule ∈ rules, ¬row.LacksFor rule) := by
  constructor
  · intro hlogged hpolicy row hrow
    obtain ⟨p, hp, rfl⟩ : ∃ p ∈ d.rows.zipIdx 1, p.1 = row := by
      rwa [← List.zipIdx_map_fst 1 d.rows, List.mem_map] at hrow
    refine (forall_not_lacksFor_iff d rules).mp fun c hc => ?_
    -- the trail of this check on this row is among those that have an event
    have ht := (mem_flatten_trails settings d rules).mpr ⟨p, hp, c, hc, rfl⟩
    exact (fits_of_mem_trails settings d rules ht).isSome_event?_iff.mp (hlogged _ ht) hpolicy
  · intro hlacks t ht
    refine (fits_of_mem_trails settings d rules ht).isSome_event?_iff.mpr fun hpolicy => ?_
    obtain ⟨p, hp, c, hc, rfl⟩ := (mem_flatten_trails settings d rules).mp ht
    exact (forall_not_lacksFor_iff d rules).mpr
      (hlacks hpolicy p.1 (List.fst_mem_of_mem_zipIdx hp)) c hc

/-- Outcomes of rules on rows come from the rows only. -/
theorem filter_isRowOutcome_executionEvents :
    (executionEvents settings d rules).filter (·.isRowOutcome) =
      rowsEvents settings (RowCheck.ofRules d rules) 1 d.rows := by
  have hglobal : (globalEvents settings d rules).filter (·.isRowOutcome) = [] := by
    refine List.filter_eq_nil_iff.mpr fun e he => ?_
    obtain ⟨rule, -, he⟩ := List.mem_flatMap.mp he
    split at he
    · exact absurd he List.not_mem_nil
    · rw [AggregateRule.isRowOutcome_of_mem_events he]
      exact Bool.false_ne_true
  have hwarnings : ((RowCheck.ofRules d rules).flatMap
      (RowCheck.warnings d settings.missing)).filter (·.isRowOutcome) = [] := by
    refine List.filter_eq_nil_iff.mpr fun e he => ?_
    obtain ⟨c, -, he⟩ := List.mem_flatMap.mp he
    rw [Event.isRowOutcome_of_level_ne (by rw [RowCheck.level_of_mem_warnings he]; decide)]
    exact Bool.false_ne_true
  have hrows : (rowsEvents settings (RowCheck.ofRules d rules) 1 d.rows).filter (·.isRowOutcome) =
      rowsEvents settings (RowCheck.ofRules d rules) 1 d.rows :=
    List.filter_eq_self.mpr fun e he => isRowOutcome_of_mem_rowsEvents he
  have hcompletion : [completionEvent (RowCheck.ofRules d rules) (execute settings d rules)].filter
      (·.isRowOutcome) = [] :=
    rfl
  rw [filter_executionEvents, hglobal, hwarnings, hrows, hcompletion, List.append_nil]
  rfl

end Runs

/-- A run **follows trails** if they account for its evaluations and for the outcomes on rows that it
logs. -/
structure FollowsTrails (settings : Settings) (d : Dataset) (rules : List Rule) (e : Execution)
    (events : List Event) (trails : List (List Trail)) : Prop where
  /-- There is one trail for each row and each rule on rows, row by row and in rule order. -/
  sources : trails.map (·.map Trail.source) = (d.rows.zipIdx 1).map fun p =>
    (rules.filter fun rule => !rule.isAggregate).map fun rule => (p.2, p.1, rule)
  /-- The evaluation and the event of each trail belong together. -/
  fits : ∀ t ∈ trails.flatten, t.Fits settings
  /-- The evaluations of the verdicts are those of the trails. -/
  evaluations : e.results.map (·.evaluations) = trails.map (·.filterMap (·.evaluation?))
  /-- Where details are logged, the outcomes on rows are the events of the trails; elsewhere there
  are none. -/
  events : events.filter (·.isRowOutcome) =
    if settings.log.ruleDetails then trails.flatten.filterMap (·.event?) else []
  /-- Every trail has an event exactly if missing columns are passed over or no row lacks one. -/
  forall_logged_iff : (∀ t ∈ trails.flatten, t.event?.isSome = true) ↔
    (settings.missing = .fail → ∀ row ∈ d.rows, ∀ rule ∈ rules, ¬row.LacksFor rule)

/-- **The outcomes on rows are logged in step with the evaluations**, except that a row which fails
for a missing column leaves no event. For every dataset, all rules and all settings, a run leaves
one trail for each row and each rule on rows. -/
theorem followsTrails_execute (settings : Settings) (d : Dataset) (rules : List Rule) :
    ∃ trails, FollowsTrails settings d rules (execute settings d rules)
      (executionEvents settings d rules) trails :=
  ⟨trails settings d rules,
    { sources := map_source_trails settings d rules
      fits := fun _ => fits_of_mem_trails settings d rules
      evaluations := map_evaluations_execute settings d rules
      events := (filter_isRowOutcome_executionEvents settings d rules).trans
        (rowsEvents_eq_filterMap settings d rules)
      forall_logged_iff := forall_isSome_event?_trails settings d rules }⟩

/-- A rule that needs an **area**. -/
def areaRule : Rule :=
  ⟨1, none, none, .row (.literal "area" (.parse "gt") "0")⟩

/-- A sheet with one row, which has no area. -/
def areaSheet : Dataset := ⟨[⟨"v", .number⟩], [.ofFields [("v", .number 5)]]⟩

/-- Where details are logged and missing columns fail, that rule is evaluated on the row, and there
is no outcome on a row in the log. -/
theorem executionEvents_areaRule :
    (execute { Settings.strict with log := .verbose } areaSheet [areaRule]).results.map
        (·.evaluations) = [[⟨1, "area gt 0", false, .null⟩]] ∧
      (executionEvents { Settings.strict with log := .verbose } areaSheet [areaRule]).filter
        (·.isRowOutcome) = [] := by
  decide +kernel

end DataQuality
