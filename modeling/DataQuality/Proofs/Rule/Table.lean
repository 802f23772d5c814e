import DataQuality.Engine.Run
import DataQuality.Proofs.Rule.Document
import DataQuality.Rule.Table

/-!
# Saving an imported rule table

A rule set that was imported from a table can be saved and loaded, and comes back as it was unless
some row of the table makes an aggregate rule whose condition **names an aggregate operator in
full** (`DataQuality.RuleTable.namesInFull`), such as `sum_gt`: this is
`DataQuality.RuleTable.reload_importRows`. The import looks for a comparator there and finds none,
so the operator is unknown and passes always; but its name, read anew, is that of a known operator.

The bodies of the imported rules are the bodies of the rows that have one, in order
(`DataQuality.RuleTable.bodies_importRows`), whatever the mode of the import. So the question is one
about single rows, and there about single conditions.
-/

namespace DataQuality

/-! ### The rules of a table -/

namespace RuleTable

/-- The bodies of the rules in some rows; malformed rows have none. -/
def bodies (rows : List Row) : List RuleBody := rows.filterMap fun row => (body row).toOption

theorem body_of_convert_ok {index : Nat} {row : Row} {rule : Rule}
    (h : convert index row = .ok rule) : body row = .ok rule.body := by
  unfold convert at h
  split at h
  · next b hb =>
    obtain rfl := Except.ok.inj h
    exact hb
  · cases h

theorem toOption_body_of_convert_error {index : Nat} {row : Row} {e : Error}
    (h : convert index row = .error e) : (body row).toOption = none := by
  unfold convert at h
  split at h
  · cases h
  · next hb => rw [hb]; rfl

/-- **An import that succeeds adds the bodies of the rows**, in order. -/
theorem bodies_importFrom {mode : ImportMode} {s t : RuleSet} {index : Nat} {rows : List Row}
    (h : importFrom mode s index rows = .ok t) :
    t.rules.map (·.body) = s.rules.map (·.body) ++ bodies rows := by
  induction rows generalizing s index with
  | nil =>
    obtain rfl : s = t := Except.ok.inj h
    simp [bodies]
  | cons row rows ih =>
    unfold importFrom at h
    split at h
    · next rule hrule =>
      have hbody : (body row).toOption = some rule.body := by
        rw [body_of_convert_ok hrule]
        rfl
      split at h
      · next u hu =>
        rw [ih h, RuleSet.rules_of_add hu]
        simp [bodies, hbody]
      · cases h
    · next e he =>
      -- a malformed row is passed over or ends the import, and has no body in either case
      have hbody := toOption_body_of_convert_error he
      cases mode with
      | lenient =>
        rw [ih h]
        simp [bodies, hbody]
      | strict => cases h

theorem bodies_importRows {mode : ImportMode} {rows : List Row} {s : RuleSet}
    (h : importRows mode rows = .ok s) : s.rules.map (·.body) = bodies rows :=
  bodies_importFrom h

/-! ### Conditions -/

/-- The texts of fields are trimmed. -/
theorem trim_textOrEmpty (row : Row) (column : String) :
    Text.trim (textOrEmpty row column) = textOrEmpty row column := by
  unfold textOrEmpty text?
  split
  · rfl
  · split
    · rfl
    · exact Text.trim_trim _

/-- No comparator has an underscore in its name. -/
theorem splitOnce?_of_ofNormalized? {id : String} {c : Comparator}
    (h : Comparator.ofNormalized? id = some c) : Text.splitOnce? '_' id = none := by
  have hnames : ∀ name ∈ ["gt", ">", "lt", "<", "gte", ">=", "lte", "<=", "eq", "=", "==", "neq",
      "!="], Text.splitOnce? '_' name = none := by
    decide
  refine hnames id ?_
  simp only [List.mem_cons, List.not_mem_nil, or_false]
  -- the match on texts splits into one case for every name, and one for all the others
  unfold Comparator.ofNormalized? at h
  by_contra hother
  simp_all

/-- **A condition is read anew as it was imported unless it names an aggregate operator in full.**
A condition that names a comparator does not, and any other one is the name of the operator. -/
theorem isNamed_aggregateOperator_iff (kind : AggregationKind) {condition : String}
    (htrim : Text.trim condition = condition) :
    (aggregateOperator kind condition).IsNamed ↔
      (AggregateOperator.parse condition).isKnown = false := by
  unfold aggregateOperator
  cases hcomparator : Comparator.parse? condition with
  | some comparator =>
    have hknown : (AggregateOperator.compare kind comparator).isKnown = true := rfl
    have hfull : AggregateOperator.parse condition = .unknown (Text.trim condition) := by
      rw [AggregateOperator.parse, AggregateOperator.ofNormalized?,
        splitOnce?_of_ofNormalized? hcomparator]
      rfl
    rw [AggregateOperator.isNamed_iff, hfull]
    exact iff_of_true (AggregateOperator.parse_id hknown) rfl
  | none =>
    rw [AggregateOperator.isNamed_iff]
    constructor
    · intro h
      have hname : AggregateOperator.parse condition = .unknown condition := h
      rw [hname]
      rfl
    · intro h
      have hname := AggregateOperator.parse_eq_unknown h
      rwa [htrim] at hname

/-! ### Saving and loading -/

/-- Whether a row makes an aggregate rule whose condition **names an aggregate operator in full**,
the aggregation included. -/
def namesInFull (row : Row) : Bool :=
  match body row with
  | .ok (.aggregate _) => (AggregateOperator.parse (textOrEmpty row conditionColumn)).isKnown
  | _ => false

theorem operator_rowRule (row : Row) (target : String) :
    (rowRule row target).operator = .parse (textOrEmpty row conditionColumn) := by
  simp only [rowRule, RowRule.literal]

theorem operator_aggregateRule (row : Row) (target : String) (kind : AggregationKind) :
    (aggregateRule row target kind).operator =
      aggregateOperator kind (textOrEmpty row conditionColumn) := by
  simp only [aggregateRule]

/-- **The operator of a row is read anew as it was imported unless the row names it in full.** -/
theorem isNamed_body_iff {row : Row} {b : RuleBody} (h : body row = .ok b) :
    b.IsNamed ↔ namesInFull row = false := by
  have hbody := h
  unfold body at hbody
  split at hbody
  · cases hbody
  split at hbody
  · cases hbody
  split at hbody
  · obtain rfl := Except.ok.inj hbody
    refine iff_of_true ?_ (by rw [namesInFull, h])
    rw [RuleBody.IsNamed, operator_rowRule]
    exact Operator.isNamed_parse _
  split at hbody
  · cases hbody
  · obtain rfl := Except.ok.inj hbody
    rw [namesInFull, h, RuleBody.IsNamed, operator_aggregateRule,
      isNamed_aggregateOperator_iff _ (trim_textOrEmpty row conditionColumn)]

theorem isNamed_importRows_iff {mode : ImportMode} {rows : List Row} {s : RuleSet}
    (h : importRows mode rows = .ok s) : s.IsNamed ↔ ∀ row ∈ rows, namesInFull row = false := by
  have hbodies : s.IsNamed ↔ ∀ b ∈ bodies rows, b.IsNamed := by
    rw [← bodies_importRows h, List.forall_mem_map]
    rfl
  rw [hbodies]
  constructor
  · intro hnamed row hrow
    cases hresult : body row with
    | ok b =>
      exact (isNamed_body_iff hresult).mp
        (hnamed b (List.mem_filterMap.mpr ⟨row, hrow, by rw [hresult]; rfl⟩))
    | error e => rw [namesInFull, hresult]
  · intro hrows b hb
    obtain ⟨row, hrow, hbody⟩ := List.mem_filterMap.mp hb
    cases hresult : body row with
    | ok b' =>
      obtain rfl : b' = b := by
        rw [hresult] at hbody
        exact Option.some.inj hbody
      exact (isNamed_body_iff hresult).mpr (hrows row hrow)
    | error e =>
      rw [hresult] at hbody
      cases hbody

/-- **An imported rule set can be saved and loaded.** It comes back as it was exactly when no row of
the table names an aggregate operator in full in the condition of an aggregate rule, and then it
gives the same outcome on every dataset. -/
theorem reload_importRows {mode : ImportMode} {rows : List Row} {s : RuleSet}
    (h : importRows mode rows = .ok s) :
    ∃ t, RuleSet.ofDocument s.toDocument = .ok t ∧
      (t = s ↔ ∀ row ∈ rows, namesInFull row = false) ∧
      ((∀ row ∈ rows, namesInFull row = false) →
        ∀ settings d, execute settings d t.rules = execute settings d s.rules) := by
  have hsame : s.reread = s ↔ ∀ row ∈ rows, namesInFull row = false :=
    RuleSet.reread_eq_self_iff.trans (isNamed_importRows_iff h)
  refine ⟨s.reread, s.ofDocument_toDocument, hsame, fun hrows settings d => ?_⟩
  rw [hsame.mpr hrows]

/-- A table with a rule on rows, a rule on totals for each group, a rule on totals with a condition
that says nothing, and a malformed row. -/
def mixedTable : List Row :=
  [.ofFields [("Target_Column", .text "name"), ("Condition", .text "'Contains "),
      ("Compare_Against", .text "x")],
    .ofFields [("Level", .text "Agg"), ("Target_Column", .text "v"), ("Condition", .text ">="),
      ("Compare_Against", .number 100), ("Group_By", .text "g")],
    .ofFields [("Level", .text "Agg"), ("Target_Column", .text "v"),
      ("Condition", .text "roughly")],
    .ofFields [("Level", .text "cell")]]

theorem reload_importRows_mixedTable :
    ∃ s, importRows .lenient mixedTable = .ok s ∧ s.size = 3 ∧
      (∀ row ∈ mixedTable, namesInFull row = false) ∧ RuleSet.ofDocument s.toDocument = .ok s := by
  have hplain : ∀ row ∈ mixedTable, namesInFull row = false := by decide +kernel
  have hok : (importRows .lenient mixedTable).toOption.map RuleSet.size = some 3 := by
    decide +kernel
  cases h : importRows .lenient mixedTable with
  | ok s =>
    obtain ⟨t, ht, hsame, -⟩ := reload_importRows h
    obtain rfl := hsame.mpr hplain
    rw [h] at hok
    exact ⟨t, rfl, Option.some.inj hok, hplain, ht⟩
  | error e =>
    rw [h] at hok
    cases hok

/-- A table with a rule on totals whose condition **names the aggregation once more**. -/
def fullNameTable : List Row :=
  [.ofFields [("Level", .text "Agg"), ("Target_Column", .text "v"), ("Condition", .text "sum_gt"),
    ("Compare_Against", .number 100)]]

/-- The rule set of that table: its operator is unknown. -/
def fullNameRules : RuleSet where
  rules := [⟨500, some "Rule 1", none, .aggregate ⟨"v", .unknown "sum_gt", "100", false, some .sum,
    none, false, .perGroup⟩⟩]
  nodup := by decide

/-- A dataset with one number, which is not above a hundred. -/
def singleNumber : Dataset where
  columns := [⟨"v", .number⟩]
  rows := [.ofFields [("v", .number 5)]]

/-- The rule passes always when it has just been imported, and fails when it has been loaded. -/
theorem reload_importRows_fullNameTable :
    importRows .strict fullNameTable = .ok fullNameRules ∧
      ∃ t, RuleSet.ofDocument fullNameRules.toDocument = .ok t ∧ t ≠ fullNameRules ∧
        (execute .default singleNumber fullNameRules.rules).globalErrors.length = 0 ∧
        (execute .default singleNumber t.rules).globalErrors.length = 1 := by
  have himport : (importRows .strict fullNameTable).toOption = some fullNameRules := by
    decide +kernel
  constructor
  · cases h : importRows .strict fullNameTable with
    | ok s =>
      rw [h] at himport
      rw [Option.some.inj himport]
    | error e =>
      rw [h] at himport
      cases himport
  · refine ⟨fullNameRules.reread, RuleSet.ofDocument_toDocument _, ?_, ?_, ?_⟩
    · decide +kernel
    · decide +kernel
    · decide +kernel

end RuleTable

end DataQuality
