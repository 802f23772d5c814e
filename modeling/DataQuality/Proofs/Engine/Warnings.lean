import DataQuality.Proofs.Engine.Events
import DataQuality.Proofs.Engine.MissingColumns

/-!
# Which rules a run warns about

A run never fails; a rule that cannot do its work is passed over in silence by the verdicts. What
tells the author of the rules about it is a warning. This file says which rules are warned about
(`DataQuality.reportsDegraded_executionEvents`).

A rule is *degraded* on a dataset (`DataQuality.Rule.Degraded`) if its operator is not recognized,
or if the dataset does not declare a column that it depends on: a column that a rule on rows needs,
a target of a rule on totals, or its grouping column. All warnings of a run come from its rules, one
rule at a time, and a rule gives warnings only if it is degraded. It gives some whenever it is
degraded, with one exception: an absent grouping column is looked for where the rows are divided
into groups, and a rule that takes one representative row for each group does not divide them
(`DataQuality.Rule.DegradedSilently`).
-/

namespace DataQuality

/-! ### Degraded rules -/

/-- A dataset **lacks a column** among some if it does not declare one with that header. -/
def Dataset.LacksAny (d : Dataset) (names : String → Prop) : Prop :=
  ∃ name, names name ∧ d.hasColumn name = false

/-- A rule on rows is **degraded** if its operator is not recognized or the dataset lacks a column
that it needs. -/
def RowRule.Degraded (d : Dataset) (r : RowRule) : Prop :=
  r.operator.isKnown = false ∨ d.LacksAny r.Needs

/-- A rule on totals is **degraded** if its operator is not recognized or the dataset lacks a target
or the grouping column. -/
def AggregateRule.Degraded (d : Dataset) (r : AggregateRule) : Prop :=
  r.operator.isKnown = false ∨ d.LacksAny (· ∈ columnNames r.column) ∨
    d.LacksAny (r.groupBy = some ·)

/-- A rule on totals is degraded **silently** if all that the dataset lacks is the column of whose
groups the rule takes a representative row. -/
def AggregateRule.DegradedSilently (d : Dataset) (r : AggregateRule) : Prop :=
  r.operator.isKnown = true ∧ ¬d.LacksAny (· ∈ columnNames r.column) ∧
    d.LacksAny (r.representativeColumn? = some ·)

/-- A rule is **degraded** on a dataset if it cannot do there what it says. -/
def Rule.Degraded (d : Dataset) (rule : Rule) : Prop :=
  match rule.body with
  | .row body => body.Degraded d
  | .aggregate body => body.Degraded d

/-- Rules on rows are never degraded silently. -/
def Rule.DegradedSilently (d : Dataset) (rule : Rule) : Prop :=
  match rule.body with
  | .row _ => False
  | .aggregate body => body.DegradedSilently d

/-! ### The warnings of one rule -/

/-- The **warnings** that a rule gives on a dataset. -/
def Rule.warnings (policy : MissingPolicy) (d : Dataset) (rule : Rule) : List Event :=
  match rule.body with
  | .row body => (RowCheck.ofRowRule d rule body).warnings d policy
  | .aggregate body => body.warnings d rule.id

/-- Whether an event **carries** the identity of a rule. -/
def Event.Carries (e : Event) (id : UInt64) : Prop :=
  e.fields.lookup "rule_id" = some (toString id.toNat)

/-- An event carries one identity only. -/
theorem Event.Carries.unique {e : Event} {id id' : UInt64} (h : e.Carries id)
    (h' : e.Carries id') : id = id' := by
  have htext : id.toNat.repr = id'.toNat.repr := Option.some.inj (h.symm.trans h')
  have hdigits : Nat.toDigits 10 id.toNat = Nat.toDigits 10 id'.toNat := by
    rw [← Nat.toList_repr, ← Nat.toList_repr, htext]
  have hread : ∀ n : Nat, Nat.ofDigitChars 10 (Nat.toDigits 10 n) 0 = n := fun n =>
    Nat.ofDigitChars_toDigits (by decide) (by decide)
  exact UInt64.toNat_inj.mp (by rw [← hread id.toNat, hdigits, hread])

/-- The first column that is looked for and lacking, if there is one. -/
theorem Dataset.find?_eq_none_iff {d : Dataset} {names : List String} :
    (names.find? fun name => !d.hasColumn name) = none ↔ ¬d.LacksAny (· ∈ names) := by
  simp [List.find?_eq_none, LacksAny]

namespace AggregateRule

variable {r : AggregateRule} {d : Dataset} {id : UInt64}

/-- The grouping column is used in one of the two ways. -/
theorem lacksAny_groupBy_iff : d.LacksAny (r.groupBy = some ·) ↔
    d.LacksAny (r.groupColumn? = some ·) ∨ d.LacksAny (r.representativeColumn? = some ·) := by
  unfold groupColumn? representativeColumn?
  cases r.groupMode <;> simp [Dataset.LacksAny]

/-- It is not used in both ways at once. -/
theorem not_lacksAny_groupColumn? (h : d.LacksAny (r.representativeColumn? = some ·)) :
    ¬d.LacksAny (r.groupColumn? = some ·) := by
  unfold representativeColumn? at h
  unfold groupColumn?
  cases hmode : r.groupMode with
  | perGroup => simp [Dataset.LacksAny, hmode] at h
  | representative => simp [Dataset.LacksAny]

theorem warnings_eq_nil_iff : r.warnings d id = [] ↔ r.operator.isKnown = true ∧
    ¬d.LacksAny (· ∈ columnNames r.column) ∧ ¬d.LacksAny (r.groupColumn? = some ·) := by
  rw [warnings]
  -- an operator that is not recognized ends the matter; else the columns are looked for in turn
  rcases r.operator with ⟨kind, comparator⟩ | name
  · refine (List.append_eq_nil_iff.trans (and_congr ?_ ?_)).trans (and_iff_right rfl).symm
    · rw [← Dataset.find?_eq_none_iff]
      split
      · next hfind => simp [hfind]
      · next hfind => simp [hfind]
    · split
      · next column hcolumn =>
        cases habsent : d.hasColumn column <;> simp [Dataset.LacksAny, hcolumn, habsent]
      · next hcolumn => simp [Dataset.LacksAny, hcolumn]
  · exact iff_of_false (List.cons_ne_nil _ _) fun h => Bool.false_ne_true h.1

/-- **A rule on totals gives warnings exactly if it is degraded, and not silently.** -/
theorem warnings_ne_nil_iff :
    r.warnings d id ≠ [] ↔ r.Degraded d ∧ ¬r.DegradedSilently d := by
  -- the rest is propositional: an absent grouping column is used in one way and not in the other
  have hways := not_lacksAny_groupColumn? (r := r) (d := d)
  rw [ne_eq, warnings_eq_nil_iff, Degraded, DegradedSilently, lacksAny_groupBy_iff,
    ← Bool.not_eq_true]
  tauto

theorem carries_of_mem_warnings {e : Event} (h : e ∈ r.warnings d id) : e.Carries id := by
  obtain ⟨_, rfl⟩ | ⟨_, rfl⟩ | ⟨_, rfl⟩ := cases_of_mem_warnings h <;> rfl

end AggregateRule

namespace RowCheck

variable {d : Dataset} {policy : MissingPolicy} {c : RowCheck}

/-- **A rule on rows gives warnings exactly if it is degraded.** -/
theorem warnings_ne_nil_iff {rule : Rule} {body : RowRule} :
    (ofRowRule d rule body).warnings d policy ≠ [] ↔ body.Degraded d := by
  have hrequired : (· ∈ (ofRowRule d rule body).required) = body.Needs :=
    funext fun name => propext mem_required_iff
  rw [warnings, ne_eq, List.append_eq_nil_iff, not_and_or, RowRule.Degraded]
  refine or_congr ?_ ?_
  · change ¬(if body.operator.isKnown then _ else _) = _ ↔ _
    cases body.operator.isKnown <;> simp
  · rw [← hrequired, ← not_iff_comm, ← Dataset.find?_eq_none_iff]
    split
    · next hfind => simp [hfind]
    · next hfind => simp [hfind]

theorem carries_of_mem_warnings {e : Event} (h : e ∈ c.warnings d policy) :
    e.Carries c.rule.id := by
  obtain ⟨_, rfl⟩ | ⟨_, rfl⟩ := cases_of_mem_warnings h <;> rfl

end RowCheck

namespace Rule

variable {policy : MissingPolicy} {d : Dataset} {rule : Rule}

theorem level_of_mem_warnings {e : Event} (h : e ∈ rule.warnings policy d) : e.level = .warn := by
  rw [warnings] at h
  split at h
  · exact RowCheck.level_of_mem_warnings h
  · exact AggregateRule.level_of_mem_warnings h

/-- **The warnings of a rule carry its identity.** -/
theorem carries_of_mem_warnings {e : Event} (h : e ∈ rule.warnings policy d) :
    e.Carries rule.id := by
  rw [warnings] at h
  split at h
  · exact RowCheck.carries_of_mem_warnings h
  · exact AggregateRule.carries_of_mem_warnings h

/-- **A rule gives warnings exactly if it is degraded, and not silently.** -/
theorem warnings_ne_nil_iff :
    rule.warnings policy d ≠ [] ↔ rule.Degraded d ∧ ¬rule.DegradedSilently d := by
  unfold warnings Degraded DegradedSilently
  split
  · exact RowCheck.warnings_ne_nil_iff.trans (and_iff_left not_false).symm
  · exact AggregateRule.warnings_ne_nil_iff

end Rule

/-! ### The warnings of a run -/

/-- The rules in the order in which they **give warnings**: those on totals, then those on rows. -/
def inWarningOrder (rules : List Rule) : List Rule :=
  rules.filter (·.isAggregate) ++ rules.filter fun rule => !rule.isAggregate

theorem mem_inWarningOrder {rules : List Rule} {rule : Rule} :
    rule ∈ inWarningOrder rules ↔ rule ∈ rules := by
  rw [inWarningOrder, List.mem_append, List.mem_filter, List.mem_filter, ← and_or_left]
  cases rule.isAggregate <;> simp

/-- The warnings that come with the events of rules on totals. -/
theorem filter_globalEvents (settings : Settings) (d : Dataset) (rules : List Rule) :
    (globalEvents settings d rules).filter (·.level = .warn) =
      (rules.filter (·.isAggregate)).flatMap (Rule.warnings settings.missing d) := by
  have hrule : ∀ body : AggregateRule, ∀ id, (body.events d settings id).filter (·.level = .warn) =
      body.warnings d id := by
    intro body id
    rw [AggregateRule.events, List.filter_append, List.filter_eq_self.mpr fun e he =>
      decide_eq_true (AggregateRule.level_of_mem_warnings he), List.filter_eq_nil_iff.mpr,
      List.append_nil]
    intro e he
    split at he
    · obtain ⟨o, -, rfl⟩ := List.mem_map.mp he
      simp [AggregateRule.level_event]
    · exact absurd he List.not_mem_nil
  induction rules with
  | nil => rfl
  | cons rule rules ih =>
    rw [globalEvents] at ih ⊢
    rw [List.flatMap_cons, List.filter_append, ih]
    rcases hbody : rule.body with body | body
    · have hrow : rule.isAggregate = false := by rw [Rule.isAggregate, hbody]
      rw [List.filter_cons_of_neg (by simp [hrow])]
      rfl
    · have haggregate : rule.isAggregate = true := by rw [Rule.isAggregate, hbody]
      have hwarnings : rule.warnings settings.missing d = body.warnings d rule.id := by
        rw [Rule.warnings, hbody]
      rw [List.filter_cons_of_pos haggregate, List.flatMap_cons, hrule, hwarnings]

theorem RowCheck.warnings_of_mem_ofRules {d : Dataset} {policy : MissingPolicy} {rules : List Rule}
    {c : RowCheck} (h : c ∈ ofRules d rules) :
    c.warnings d policy = c.rule.warnings policy d := by
  obtain ⟨rule, -, body, hbody, rfl⟩ := exists_of_mem_ofRules h
  rw [Rule.warnings, ofRowRule, hbody]
  rfl

/-- The warnings of the checks are those of the rules on rows. -/
theorem flatMap_warnings_ofRules (policy : MissingPolicy) (d : Dataset) (rules : List Rule) :
    (RowCheck.ofRules d rules).flatMap (RowCheck.warnings d policy) =
      (rules.filter fun rule => !rule.isAggregate).flatMap (Rule.warnings policy d) := by
  rw [← RowCheck.map_rule_ofRules d rules, List.flatMap_map]
  exact List.flatMap_congr fun c hc => RowCheck.warnings_of_mem_ofRules hc

/-- **The warnings of a run are those of its rules.** -/
theorem filter_level_executionEvents (settings : Settings) (d : Dataset) (rules : List Rule) :
    (executionEvents settings d rules).filter (·.level = .warn) =
      (inWarningOrder rules).flatMap (Rule.warnings settings.missing d) := by
  have hchecks : ((RowCheck.ofRules d rules).flatMap (RowCheck.warnings d settings.missing)).filter
      (·.level = .warn) =
        (rules.filter fun rule => !rule.isAggregate).flatMap (Rule.warnings settings.missing d) := by
    rw [flatMap_warnings_ofRules, List.filter_eq_self]
    intro e he
    obtain ⟨rule, -, he⟩ := List.mem_flatMap.mp he
    exact decide_eq_true (Rule.level_of_mem_warnings he)
  have hrows : (rowsEvents settings (RowCheck.ofRules d rules) 1 d.rows).filter
      (·.level = .warn) = [] := by
    refine List.filter_eq_nil_iff.mpr fun e he => ?_
    rw [Event.level_of_isRowOutcome (isRowOutcome_of_mem_rowsEvents he)]
    decide
  have hcompletion : [completionEvent (RowCheck.ofRules d rules) (execute settings d rules)].filter
      (·.level = .warn) = [] :=
    rfl
  rw [filter_executionEvents, filter_globalEvents, hchecks, hrows, hcompletion, List.append_nil,
    List.append_nil, inWarningOrder, List.flatMap_append]

/-- Events **report the degraded rules** among some if their warnings come from the rules one by
one, and exactly the rules that are degraded, and not silently, give any. -/
structure ReportsDegraded (d : Dataset) (rules : List Rule) (events : List Event) : Prop where
  /-- The warnings are those of each rule, and carry its identity; a rule has some exactly if it is
  degraded, and not silently. -/
  perRule : ∃ about : Rule → List Event,
    events.filter (·.level = .warn) = (inWarningOrder rules).flatMap about ∧
      (∀ rule, ∀ e ∈ about rule, e.Carries rule.id) ∧
        ∀ rule, about rule ≠ [] ↔ rule.Degraded d ∧ ¬rule.DegradedSilently d
  /-- So there is a warning that carries an identity exactly if a rule with that identity is
  degraded, and not silently. -/
  exists_iff : ∀ id : UInt64, (∃ e ∈ events, e.level = .warn ∧ e.Carries id) ↔
    ∃ rule ∈ rules, rule.id = id ∧ rule.Degraded d ∧ ¬rule.DegradedSilently d

/-- **Degraded rules are reported**, unless they are degraded silently. For every dataset, all rules
and all settings, the warnings of a run are those of its rules; the degraded rules have warnings,
except for those which lack nothing but the column that they take representative rows by; and no
other rule has one. -/
theorem reportsDegraded_executionEvents (settings : Settings) (d : Dataset) (rules : List Rule) :
    ReportsDegraded d rules (executionEvents settings d rules) where
  perRule := ⟨Rule.warnings settings.missing d, filter_level_executionEvents settings d rules,
    fun _ _ => Rule.carries_of_mem_warnings, fun _ => Rule.warnings_ne_nil_iff⟩
  exists_iff id := by
    have hmem : ∀ e, (e ∈ executionEvents settings d rules ∧ e.level = .warn) ↔
        ∃ rule ∈ rules, e ∈ rule.warnings settings.missing d := by
      intro e
      have hwarnings := filter_level_executionEvents settings d rules
      have hfilter := congrArg (e ∈ ·) hwarnings
      simp only [List.mem_filter, decide_eq_true_eq, List.mem_flatMap, mem_inWarningOrder]
        at hfilter
      exact iff_of_eq hfilter
    constructor
    · rintro ⟨e, he, hlevel, hid⟩
      obtain ⟨rule, hrule, hwarning⟩ := (hmem e).mp ⟨he, hlevel⟩
      exact ⟨rule, hrule, (Rule.carries_of_mem_warnings hwarning).unique hid,
        Rule.warnings_ne_nil_iff.mp (List.ne_nil_of_mem hwarning)⟩
    · rintro ⟨rule, hrule, rfl, hdegraded⟩
      obtain ⟨e, hwarning⟩ :=
        List.exists_mem_of_ne_nil _ (Rule.warnings_ne_nil_iff.mpr hdegraded)
      obtain ⟨he, hlevel⟩ := (hmem e).mpr ⟨rule, hrule, hwarning⟩
      exact ⟨e, he, hlevel, Rule.carries_of_mem_warnings hwarning⟩

/-- A rule that takes a representative row for each **region**. -/
def regionRule : Rule :=
  ⟨1, none, none, .aggregate ⟨"v", .compare .sum .gt, "1", false, none, some "region", false,
    .representative⟩⟩

/-- On a dataset without regions that rule is degraded, and there is no warning at all. -/
theorem executionEvents_regionRule :
    regionRule.Degraded ⟨[⟨"v", .number⟩], []⟩ ∧
      (executionEvents .default ⟨[⟨"v", .number⟩], []⟩ [regionRule]).filter
        (·.level = .warn) = [] := by
  refine ⟨.inr (.inr ⟨"region", rfl, rfl⟩), ?_⟩
  rw [filter_level_executionEvents]
  rfl

end DataQuality
