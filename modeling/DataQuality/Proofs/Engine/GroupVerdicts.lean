import DataQuality.Proofs.Engine.Groups
import Mathlib.Data.List.Basic

/-!
# Verdicts on groups

An aggregate rule with a grouping column is a rule without one, applied to other rows. This file
makes that precise for both ways of grouping.

* With **one verdict for each group**, the messages are those that the ungrouped rule leaves on
  the rows of each group, relabelled, one group after another
  (`DataQuality.AggregateRule.refinesUngrouped`).
* With **representatives**, there is one verdict, that of the plain rule on the representatives.
  These are one row for each group under the condition of `DataQuality.OneForEach`; otherwise
  they are all rows, and the rows of a group count several times
  (`DataQuality.AggregateRule.failures_representative`).

Both go through the same lemma, `DataQuality.AggregateRule.failure?_outcome_congr`: a message
depends on a rule and on some rows only through the two numbers that are compared and the words
that go with them.
-/

namespace DataQuality

/-! ### Labels in messages -/

/-- The **head** of a message: all that depends on the label. -/
def messageHead (label : String) : String := "FAIL [" ++ label ++ "]: "

/-- A message about the whole dataset with another label put **in place of the global one**. Texts
without the global head are left alone. -/
def relabel (label message : String) : String :=
  match (messageHead globalLabel).toList.isPrefixOf? message.toList with
  | some rest => messageHead label ++ String.ofList rest
  | none => message

/-- Only the head is exchanged. -/
theorem relabel_messageHead_append (label rest : String) :
    relabel label (messageHead globalLabel ++ rest) = messageHead label ++ rest := by
  have hrest : (messageHead globalLabel).toList.isPrefixOf?
      (messageHead globalLabel ++ rest).toList = some rest.toList := by
    rw [List.isPrefixOf?_eq_some_iff_append_eq, String.toList_append]
  simp only [relabel, hrest, String.ofList_toList]

namespace AggregateRule

section Labels

variable (r : AggregateRule) (kind : AggregationKind) (comparator : Comparator)

/-- A message is a head with the label, and a rest without it. -/
theorem failureMessage_eq_append (target : Float) (reference : Option Float) :
    ∃ rest, ∀ label, r.failureMessage kind comparator label target reference =
      messageHead label ++ rest := by
  unfold failureMessage messageHead
  simp only [String.append_assoc]
  exact ⟨_, fun label => rfl⟩

theorem failure?_judged_relabel (label : String) (target : Float) (reference : Option Float)
    (passed : Bool) :
    r.failure? (.judged label target reference passed) =
      (r.failure? (.judged globalLabel target reference passed)).map (relabel label) := by
  unfold failure?
  cases r.operator with
  | unknown name => rfl
  | compare kind comparator =>
    cases passed with
    | true => rfl
    | false =>
      obtain ⟨rest, hrest⟩ := r.failureMessage_eq_append kind comparator target reference
      change some _ = some _
      rw [hrest, hrest, relabel_messageHead_append]

/-- **The verdict on a part is that on the same rows as a whole**, with the label of the part. -/
theorem failure?_outcome_relabel (tolerance : Float) (label : String) (rows : List Row) :
    r.failure? (r.outcome kind comparator tolerance ⟨label, rows⟩) =
      (r.failure? (r.outcome kind comparator tolerance ⟨globalLabel, rows⟩)).map
        (relabel label) := by
  rw [outcome, outcome]
  cases r.target? kind rows with
  | none => rfl
  | some target => exact r.failure?_judged_relabel label target _ _

end Labels

/-! ### What a message depends on -/

section Congruence

variable {r s : AggregateRule} {d : Dataset}

/-- Where the operator is recognized, the messages are those of the parts, in their order. -/
theorem failures_of_compare {kind : AggregationKind} {comparator : Comparator}
    (h : r.operator = .compare kind comparator) (tolerance : Float) :
    r.failures d tolerance =
      (r.parts d).filterMap fun p => r.failure? (r.outcome kind comparator tolerance p) := by
  rw [failures, outcomes, h, List.filterMap_map]
  rfl

/-- Where it is not, there are none. -/
theorem failures_of_unknown {name : String} (h : r.operator = .unknown name) (tolerance : Float) :
    r.failures d tolerance = [] := by
  rw [failures, outcomes, h, List.filterMap_nil]

/-- Without a grouping column there is at most one message, that of the whole dataset. -/
theorem failures_of_wholePart {kind : AggregationKind} {comparator : Comparator}
    (h : r.operator = .compare kind comparator) (hgroup : r.groupColumn? = none)
    (tolerance : Float) :
    r.failures d tolerance =
      (r.failure? (r.outcome kind comparator tolerance ⟨globalLabel, d.rows⟩)).toList := by
  have hparts : r.parts d = [⟨globalLabel, d.rows⟩] := by
    rw [parts, hgroup]
    rfl
  rw [failures_of_compare h, hparts, List.filterMap_cons, List.filterMap_nil]
  cases r.failure? (r.outcome kind comparator tolerance ⟨globalLabel, d.rows⟩) <;> rfl

/-- Two rules leave **the same message** on rows where they compare the same numbers, if they
agree on the operator, the target, the reference and the mark for distinct numbers. -/
theorem failure?_outcome_congr {kind : AggregationKind} {comparator : Comparator}
    {rows rows' : List Row} (hoperator : r.operator = s.operator) (hcolumn : r.column = s.column)
    (hlabel : r.referenceLabel = s.referenceLabel) (hdistinct : r.showsDistinct = s.showsDistinct)
    (htarget : r.target? kind rows = s.target? kind rows')
    (hreference : r.referenceValue? kind rows = s.referenceValue? kind rows')
    (tolerance : Float) (label : String) :
    r.failure? (r.outcome kind comparator tolerance ⟨label, rows⟩) =
      s.failure? (s.outcome kind comparator tolerance ⟨label, rows'⟩) := by
  rw [outcome, outcome, htarget, hreference]
  cases s.target? kind rows' with
  | none => rfl
  | some target =>
    unfold failure? failureMessage
    rw [hoperator, hcolumn, hlabel, hdistinct]

end Congruence

/-! ### A ragged table -/

/-- A table whose **first row lacks the grouping column**, and whose other rows are one group. -/
def raggedTable : Dataset where
  columns := [⟨"v", .number⟩, ⟨"g", .text⟩]
  rows := [.ofFields [("v", .number 10)], .ofFields [("g", .text "a"), ("v", .number 5)],
    .ofFields [("g", .text "a"), ("v", .number 5)]]

/-- The rule that the sum of `v` is fifteen, grouped by `g`. -/
def sumRule (mode : GroupMode) : AggregateRule where
  column := "v"
  operator := .compare .sum .eq
  operand := "15"
  operandIsColumn := false
  referenceKind := none
  groupBy := some "g"
  distinct := false
  groupMode := mode

/-! ### One verdict for each group -/

/-- The rule **without its grouping column**. -/
def ungrouped (r : AggregateRule) : AggregateRule := { r with groupBy := none }

section PerGroup

variable {r : AggregateRule}

/-- On the rows of a group the rule compares and says what it does without its grouping column. -/
theorem failure?_outcome_ungrouped (h : r.groupMode = .perGroup) (kind : AggregationKind)
    (comparator : Comparator) (tolerance : Float) (label : String) (rows : List Row) :
    r.failure? (r.outcome kind comparator tolerance ⟨label, rows⟩) =
      r.ungrouped.failure? (r.ungrouped.outcome kind comparator tolerance ⟨label, rows⟩) := by
  have hrepresentative : r.representativeColumn? = r.ungrouped.representativeColumn? := by
    rw [representativeColumn?, representativeColumn?, ungrouped, h]
  refine failure?_outcome_congr (r := r) (s := r.ungrouped) rfl rfl rfl ?_ ?_ ?_ tolerance
    label
  · rw [showsDistinct, hrepresentative]
    rfl
  · rw [target?, hrepresentative]
    rfl
  · rw [referenceValue?, hrepresentative]
    rfl

theorem groupColumn?_ungrouped (r : AggregateRule) : r.ungrouped.groupColumn? = none := by
  rw [groupColumn?, ungrouped]
  cases r.groupMode <;> rfl

/-- **The parts of a rule with a declared grouping column**: one for each key. -/
theorem parts_perGroup {d : Dataset} {column : String} (hmode : r.groupMode = .perGroup)
    (hgroup : r.groupBy = some column) (hcolumn : d.hasColumn column = true) :
    r.parts d = (keysOf column d.rows).map fun key =>
      ⟨groupLabel column key, rowsWithKey column key d.rows⟩ := by
  have hgroupColumn : r.groupColumn? = some column := by rw [groupColumn?, hmode, hgroup]
  rw [parts, hgroupColumn]
  change (if d.hasColumn column then _ else _) = _
  rw [if_pos hcolumn, groupsOf_eq, List.map_map]
  rfl

end PerGroup

/-- Verdicts for each group of a column **refine** those of the ungrouped rule. -/
structure RefinesUngrouped (r : AggregateRule) (d : Dataset) (tolerance : Float)
    (column : String) : Prop where
  /-- The key of a row is the displayed text of its cell, and empty if it has none. -/
  key_eq : ∀ row : Row, row.key column = (row.get? column).elim "" Cell.display
  /-- The label of a group tells the column and the key. -/
  label_eq : ∀ key, groupLabel column key = column ++ "=" ++ key
  /-- The messages are those of the ungrouped rule on the rows of each group, relabelled, in the
  order of first appearance of the keys. -/
  failures : r.failures d tolerance = (keysOf column d.rows).flatMap fun key =>
    (r.ungrouped.failures { d with rows := rowsWithKey column key d.rows } tolerance).map
      (relabel (groupLabel column key))
  /-- The ungrouped rule leaves at most one message on the rows of a group. -/
  length_failures_le_one : ∀ key ∈ keysOf column d.rows,
    (r.ungrouped.failures { d with rows := rowsWithKey column key d.rows } tolerance).length ≤ 1
  /-- The parts that are judged are the groups. -/
  parts : r.parts d = (keysOf column d.rows).map fun key =>
    ⟨groupLabel column key, rowsWithKey column key d.rows⟩
  /-- No group is judged twice. -/
  nodup : (keysOf column d.rows).Nodup
  /-- Every row is counted in exactly one group. -/
  perm : ((r.parts d).flatMap (·.rows)).Perm d.rows

/-- Without a grouping column a rule leaves at most one message. -/
theorem length_failures_ungrouped_le_one (r : AggregateRule) (d : Dataset) (tolerance : Float) :
    (r.ungrouped.failures d tolerance).length ≤ 1 := by
  rcases h : r.ungrouped.operator with ⟨kind, comparator⟩ | name
  · rw [failures_of_wholePart h r.groupColumn?_ungrouped]
    exact Option.length_toList_le
  · rw [failures_of_unknown h]
    exact Nat.zero_le 1

/-- **Judging each group refines judging the whole dataset.** -/
theorem refinesUngrouped {r : AggregateRule} {d : Dataset} {column : String}
    (hmode : r.groupMode = .perGroup) (hgroup : r.groupBy = some column)
    (hcolumn : d.hasColumn column = true) (tolerance : Float) :
    r.RefinesUngrouped d tolerance column := by
  have hparts := parts_perGroup hmode hgroup hcolumn
  refine
    { key_eq := fun row => row.key_eq column
      label_eq := fun _ => rfl
      failures := ?_
      length_failures_le_one := fun key _ => r.length_failures_ungrouped_le_one _ tolerance
      parts := hparts
      nodup := nodup_keysOf column d.rows
      perm := ?_ }
  · rcases h : r.operator with ⟨kind, comparator⟩ | name
    · have h' : r.ungrouped.operator = .compare kind comparator := h
      rw [failures_of_compare h, hparts, List.filterMap_map, List.filterMap_eq_flatMap_toList]
      refine List.flatMap_congr fun key _ => ?_
      rw [failures_of_wholePart h' r.groupColumn?_ungrouped, ← Option.toList_map,
        ← failure?_outcome_relabel, ← failure?_outcome_ungrouped hmode]
      rfl
    · -- without a known operator there is nothing on either side
      have h' : r.ungrouped.operator = .unknown name := h
      rw [failures_of_unknown h]
      symm
      rw [List.flatMap_eq_nil_iff]
      intro key _
      rw [failures_of_unknown h', List.map_nil]
  · rw [hparts, List.flatMap_map]
    exact flatMap_rowsWithKey_perm column d.rows

/-- On the ragged table there are two groups, one of them with the empty key, and neither of them
sums up to fifteen. -/
theorem refinesUngrouped_raggedTable :
    ((sumRule .perGroup).groupMode = .perGroup ∧ (sumRule .perGroup).groupBy = some "g" ∧
      raggedTable.hasColumn "g" = true) ∧
    (sumRule .perGroup).RefinesUngrouped raggedTable Settings.defaultTolerance "g" ∧
    (sumRule .perGroup).failures raggedTable Settings.defaultTolerance =
      ["FAIL [g=]: SUM(v) is 10.00, expected eq 15 (15.00)",
        "FAIL [g=a]: SUM(v) is 10.00, expected eq 15 (15.00)"] :=
  ⟨⟨rfl, rfl, by decide⟩, refinesUngrouped rfl rfl (by decide) _, by decide +kernel⟩

/-! ### Representatives -/

/-- The rule without its grouping column, over **all numbers**. -/
def plain (r : AggregateRule) : AggregateRule := { r with groupBy := none, distinct := false }

section Representative

variable {r : AggregateRule} {column : String}

theorem groupColumn?_plain (r : AggregateRule) : r.plain.groupColumn? = none :=
  groupColumn?_ungrouped { r with distinct := false }

/-- An aggregate of representatives is the plain aggregate over these rows. -/
theorem ofRows_representatives (kind : AggregationKind) (distinct : Bool) (spec : String)
    (rows : List Row) :
    Aggregate.ofRows kind (some column) distinct spec rows =
      Aggregate.ofRows kind none false spec (representatives column rows) := rfl

/-- **Representatives are judged by the plain rule.** -/
theorem failures_eq_plain_representatives (d : Dataset) (hmode : r.groupMode = .representative)
    (hgroup : r.groupBy = some column) (tolerance : Float) :
    r.failures d tolerance =
      r.plain.failures { d with rows := representatives column d.rows } tolerance := by
  have hgroupColumn : r.groupColumn? = none := by rw [groupColumn?, hmode]
  have hrepresentative : r.representativeColumn? = some column := by
    rw [representativeColumn?, hmode, hgroup]
  have hplain : r.plain.representativeColumn? = none := by
    rw [representativeColumn?, plain, hmode]
  rcases h : r.operator with ⟨kind, comparator⟩ | name
  · have h' : r.plain.operator = .compare kind comparator := h
    rw [failures_of_wholePart h hgroupColumn, failures_of_wholePart h' r.groupColumn?_plain]
    refine congrArg Option.toList ?_
    refine failure?_outcome_congr (r := r) (s := r.plain) rfl rfl rfl ?_ ?_ ?_ tolerance
      globalLabel
    · rw [showsDistinct, showsDistinct, hrepresentative, hplain]
      exact Bool.and_false r.distinct
    · rw [target?, target?, hrepresentative, hplain, ofRows_representatives]
      rfl
    · rw [referenceValue?, referenceValue?, hrepresentative, hplain, ofRows_representatives]
      rfl
  · have h' : r.plain.operator = .unknown name := h
    rw [failures_of_unknown h, failures_of_unknown h']

/-- **Representative mode counts each group once under one condition**: when the first row has the
grouping column, or when no key repeats. Otherwise grouping does not apply: every row counts, though
some group has several. -/
theorem failures_representative (d : Dataset) (hmode : r.groupMode = .representative)
    (hgroup : r.groupBy = some column) (tolerance : Float) :
    (OneForEach column d.rows → r.failures d tolerance =
      r.plain.failures { d with rows := firstRows column d.rows } tolerance) ∧
    (¬OneForEach column d.rows → r.failures d tolerance = r.plain.failures d tolerance ∧
      (firstRows column d.rows).length < d.rows.length) := by
  rw [failures_eq_plain_representatives d hmode hgroup tolerance]
  constructor
  · intro h
    rw [representatives_of_oneForEach h]
  · intro h
    obtain ⟨hall, hlt⟩ := representatives_of_not_oneForEach h
    rw [hall]
    exact ⟨rfl, hlt⟩

/-- On the ragged table the condition fails: the two rows of the group both count. -/
theorem failures_representative_raggedTable :
    ((sumRule .representative).groupMode = .representative ∧
      (sumRule .representative).groupBy = some "g") ∧
    (sumRule .representative).failures raggedTable Settings.defaultTolerance =
      (sumRule .representative).plain.failures raggedTable Settings.defaultTolerance := by
  refine ⟨⟨rfl, rfl⟩, ((failures_representative raggedTable rfl rfl _).2 ?_).1⟩
  rintro (hhead | hnodup)
  · exact absurd (hhead _ rfl) (by decide)
  · exact absurd hnodup (by decide)

/-- **A group that counts twice.** The first rows of the groups sum up to fifteen and the plain
rule is content with them. All rows sum up to twenty, and this is what is reported. -/
theorem failures_representative_ne_raggedTable :
    ((sumRule .representative).groupMode = .representative ∧
      (sumRule .representative).groupBy = some "g" ∧
      (sumRule .representative).operator.isKnown = true ∧ raggedTable.hasColumn "g" = true) ∧
    (sumRule .representative).failures raggedTable Settings.defaultTolerance =
      ["FAIL [Global]: SUM(v) is 20.00, expected eq 15 (15.00)"] ∧
    (sumRule .representative).plain.failures
      { raggedTable with rows := firstRows "g" raggedTable.rows } Settings.defaultTolerance = [] :=
  ⟨⟨rfl, rfl, rfl, by decide⟩, by decide +kernel, by decide +kernel⟩

end Representative

end AggregateRule

end DataQuality
