import DataQuality.Rule.Table
import Mathlib.Data.List.Forall2

/-!
# Importing a rule table in two modes

A row of a rule table is malformed for one of three reasons, `DataQuality.RuleTable.Fault`, of which
the first one that applies is reported. Whether it is malformed, and which rule it makes otherwise,
is a matter of the row and its place alone.

The two modes differ in what they do at a malformed row and in nothing else
(`DataQuality.RuleTable.modesAgree_importRows`): a lenient import takes the rules of the other rows,
in table order; a strict one stops at the first malformed row, and gives the same rule set as the
lenient one if there is none.

Rules are never added under an identity in use, since the identities increase along the table. This
is the invariant that carries the induction, and it needs all identities to be words, as they are
for every table of at most `2 ^ 64 - 500` rows.
-/

namespace DataQuality.RuleTable

/-! ### Malformed rows -/

/-- A row is **malformed** if its level is not recognized, if nothing but blank characters is in its
target column, or if it is on totals and its aggregation is not recognized. -/
def Malformed (row : Row) : Prop :=
  level? row = none ∨ (row.cell targetColumn).trimmed = "" ∨
    (level? row = some .aggregate ∧ AggregationKind.parse? (aggregationName row) = none)

instance (row : Row) : Decidable (Malformed row) :=
  inferInstanceAs (Decidable (_ ∨ _ ∨ _))

/-- **What is reported** of a malformed row: the level first, then the target, then the
aggregation. -/
inductive Fault (row : Row) : String → Prop where
  /-- The level is not recognized. -/
  | level (hlevel : level? row = none) :
    Fault row ("unrecognised level '" ++ textOrEmpty row levelColumn ++ "'")
  /-- There is a level, and no target. -/
  | target (hlevel : level? row ≠ none) (htarget : (row.cell targetColumn).trimmed = "") :
    Fault row "empty target column"
  /-- There is a target of totals, and the aggregation is not recognized. -/
  | aggregation (hlevel : level? row = some .aggregate)
    (htarget : (row.cell targetColumn).trimmed ≠ "")
    (hkind : AggregationKind.parse? (aggregationName row) = none) :
    Fault row ("unrecognised aggregation '" ++ aggregationName row ++ "'")

section OneRow

variable {row : Row} {index : Nat}

/-- A field has no text if there is nothing but blank characters in its cell. -/
theorem text?_eq_none_iff {column : String} :
    text? row column = none ↔ (row.cell column).trimmed = "" := by
  rw [text?, Row.cell]
  cases row.get? column with
  | none => exact iff_of_true rfl rfl
  | some cell =>
    dsimp only [Option.getD_some]
    split
    · next h => exact iff_of_true rfl h
    · next h => exact iff_of_false (Option.some_ne_none _) h

/-- **A row makes no rule exactly for the reported fault.** -/
theorem body_eq_error_iff {text : String} : body row = .error text ↔ Fault row text := by
  unfold body
  constructor
  · intro h
    split at h
    · next hlevel =>
      obtain rfl := Except.error.inj h
      exact .level hlevel
    · next level hlevel =>
      split at h
      · next htarget =>
        obtain rfl := Except.error.inj h
        exact .target (by rw [hlevel]; simp) (text?_eq_none_iff.mp htarget)
      · next target htarget =>
        split at h
        · cases h
        · split at h
          · next hkind =>
            obtain rfl := Except.error.inj h
            refine .aggregation hlevel (fun hempty => ?_) hkind
            rw [text?_eq_none_iff.mpr hempty] at htarget
            cases htarget
          · cases h
  · intro h
    cases h with
    | level hlevel => rw [hlevel]
    | target hlevel htarget =>
      obtain ⟨level, hlevel⟩ := Option.ne_none_iff_exists'.mp hlevel
      rw [hlevel, text?_eq_none_iff.mpr htarget]
    | aggregation hlevel htarget hkind =>
      obtain ⟨target, htarget⟩ :=
        Option.ne_none_iff_exists'.mp (mt text?_eq_none_iff.mp htarget)
      simp only [hlevel, htarget, hkind]

theorem malformed_iff : Malformed row ↔ ∃ text, Fault row text := by
  constructor
  · intro h
    by_cases hlevel : level? row = none
    · exact ⟨_, .level hlevel⟩
    by_cases htarget : (row.cell targetColumn).trimmed = ""
    · exact ⟨_, .target hlevel htarget⟩
    obtain ⟨haggregate, hkind⟩ := (h.resolve_left hlevel).resolve_left htarget
    exact ⟨_, .aggregation haggregate htarget hkind⟩
  · rintro ⟨text, hlevel | ⟨-, htarget⟩ | ⟨hlevel, -, hkind⟩⟩
    · exact .inl hlevel
    · exact .inr (.inl htarget)
    · exact .inr (.inr ⟨hlevel, hkind⟩)

/-! ### The rule of a row -/

/-- The rule **that a row makes**, at its index. No other row has a say in it. -/
structure IsRuleOf (index : Nat) (row : Row) (rule : Rule) : Prop where
  /-- The identity tells the index. -/
  id : rule.id.toNat = 500 + index
  /-- The rule has a name. -/
  name : rule.name = some (ruleName index row)
  /-- It has no failure message of its own. -/
  message : rule.message = none
  /-- Its body is that of the row. -/
  body : body row = .ok rule.body
  /-- A rule on totals with a grouping column takes one row a group. -/
  representative : ∀ b, rule.body = .aggregate b → b.groupBy ≠ none →
    b.groupMode = .representative
  /-- The operand of a rule on totals is aggregated as the row says. -/
  referenceKind : ∀ b, rule.body = .aggregate b → ∃ kind,
    AggregationKind.parse? (aggregationName row) = some kind ∧ b.referenceKind = some kind

/-- **A row makes one rule at most.** -/
theorem IsRuleOf.unique {rule rule' : Rule} (h : IsRuleOf index row rule)
    (h' : IsRuleOf index row rule') : rule = rule' := by
  obtain ⟨id, name, message, body⟩ := rule
  obtain ⟨id', name', message', body'⟩ := rule'
  obtain rfl : id = id' := UInt64.toNat_inj.mp (h.id.trans h'.id.symm)
  obtain rfl : name = name' := h.name.trans h'.name.symm
  obtain rfl : message = message' := h.message.trans h'.message.symm
  obtain rfl : body = body' := Except.ok.inj (h.body.symm.trans h'.body)
  rfl

/-- The body of a rule on totals is made with the aggregation that the row names. -/
theorem exists_aggregateRule {b : AggregateRule} (h : body row = .ok (.aggregate b)) :
    ∃ target kind, AggregationKind.parse? (aggregationName row) = some kind ∧
      b = aggregateRule row target kind := by
  unfold body at h
  split at h
  · cases h
  split at h
  · cases h
  next target htarget =>
    split at h
    · cases h
    split at h
    · cases h
    · next kind hkind =>
      exact ⟨target, kind, hkind, (RuleBody.aggregate.inj (Except.ok.inj h)).symm⟩

/-- A row that is not malformed makes a rule, if the identity is a word. -/
theorem exists_convert_eq_ok (h : ¬Malformed row) (hfits : firstId + index < UInt64.size) :
    ∃ rule, convert index row = .ok rule ∧ IsRuleOf index row rule := by
  rcases hbody : body row with text | b
  · exact absurd (malformed_iff.mpr ⟨text, body_eq_error_iff.mp hbody⟩) h
  · refine ⟨⟨ruleId index, some (ruleName index row), none, b⟩, by rw [convert, hbody],
      UInt64.toNat_ofNat_of_lt' hfits, rfl, rfl, hbody, ?_, ?_⟩
    · rintro b rfl hgroup
      obtain ⟨target, kind, -, rfl⟩ := exists_aggregateRule hbody
      exact if_pos (Option.isSome_iff_ne_none.mpr hgroup)
    · rintro b rfl
      obtain ⟨target, kind, hkind, rfl⟩ := exists_aggregateRule hbody
      exact ⟨kind, hkind, rfl⟩

theorem convert_eq_error {text : String} (h : Fault row text) :
    convert index row = .error (.invalidRule (ruleName index row) text) := by
  rw [convert, body_eq_error_iff.mpr h]

end OneRow

/-! ### The lenient import -/

/-- The rows that are not malformed, with their indices, from the given one on. -/
def wellFormedFrom (index : Nat) (rows : List Row) : List (Row × Nat) :=
  (rows.zipIdx index).filter fun entry => ¬Malformed entry.1

section Import

variable {mode : ImportMode} {s : RuleSet} {index : Nat} {rows : List Row}

/-- **A lenient import adds the rules of the well-formed rows**, in their order. -/
theorem importFrom_lenient (hids : ∀ id ∈ s.ids, id.toNat < firstId + index)
    (hfits : firstId + index + rows.length ≤ UInt64.size) :
    ∃ t rules, importFrom .lenient s index rows = .ok t ∧ t.rules = s.rules ++ rules ∧
      List.Forall₂ (fun entry rule => IsRuleOf entry.2 entry.1 rule) (wellFormedFrom index rows)
        rules := by
  -- all identities so far belong to earlier rows, so there is room for the next one
  induction rows generalizing s index with
  | nil => exact ⟨s, [], rfl, (List.append_nil _).symm, .nil⟩
  | cons row rows ih =>
    rw [List.length_cons] at hfits
    by_cases hrow : Malformed row
    · obtain ⟨text, htext⟩ := malformed_iff.mp hrow
      obtain ⟨t, rules, himport, hrules, hall⟩ := @ih s (index + 1)
        (fun id hid => Nat.lt_succ_of_lt (hids id hid)) (by omega)
      refine ⟨t, rules, ?_, hrules, ?_⟩
      · rw [importFrom, convert_eq_error htext]
        exact himport
      · rwa [wellFormedFrom, List.zipIdx_cons, List.filter_cons_of_neg (by simpa using hrow)]
    · have hplace : firstId + index < UInt64.size := by omega
      obtain ⟨rule, hconvert, hrule⟩ := exists_convert_eq_ok hrow hplace
      have hid : rule.id.toNat = firstId + index := hrule.id
      have hfresh : rule.id ∉ s.ids := fun hmem => by
        have hlt := hids _ hmem
        omega
      obtain ⟨t, rules, himport, hrules, hall⟩ := @ih (s.append rule hfresh) (index + 1) (by
          intro id hmem
          change id ∈ ruleIds (s.rules ++ [rule]) at hmem
          rw [ruleIds, List.map_append, List.mem_append, List.map_singleton,
            List.mem_singleton] at hmem
          rcases hmem with hmem | rfl
          · exact Nat.lt_succ_of_lt (hids id hmem)
          · omega) (by omega)
      refine ⟨t, rule :: rules, ?_, ?_, ?_⟩
      · rw [importFrom, hconvert]
        simp only [RuleSet.add, dif_neg hfresh]
        exact himport
      · rw [hrules]
        exact List.append_assoc s.rules [rule] rules
      · rw [wellFormedFrom, List.zipIdx_cons, List.filter_cons_of_pos (by simpa using hrow)]
        exact .cons hrule hall

/-! ### The strict import -/

/-- Without malformed rows the mode does not matter. -/
theorem importFrom_strict (h : ∀ row ∈ rows, ¬Malformed row) :
    importFrom .strict s index rows = importFrom .lenient s index rows := by
  induction rows generalizing s index with
  | nil => rfl
  | cons row rows ih =>
    rw [List.forall_mem_cons] at h
    rw [importFrom, importFrom]
    rcases hconvert : convert index row with e | rule
    · rcases hbody : body row with text | b
      · exact absurd (malformed_iff.mpr ⟨text, body_eq_error_iff.mp hbody⟩) h.1
      · rw [convert, hbody] at hconvert
        cases hconvert
    · rcases hadd : s.add rule with e | t
      · simp only [hadd]
      · simp only [hadd, ih h.2]

/-- An import of joined tables goes on where the first one ended. -/
theorem importFrom_append {t : RuleSet} {before after : List Row}
    (h : importFrom mode s index before = .ok t) :
    importFrom mode s index (before ++ after) =
      importFrom mode t (index + before.length) after := by
  induction before generalizing s index with
  | nil =>
    obtain rfl : s = t := Except.ok.inj h
    rfl
  | cons row before ih =>
    rw [List.cons_append, List.length_cons, Nat.add_comm before.length, ← Nat.add_assoc]
    rw [importFrom] at h ⊢
    split at h
    · split at h
      · simp only [ih h]
      · cases h
    · cases mode with
      | lenient => exact ih h
      | strict => cases h

end Import

/-! ### Both modes -/

/-- How the **two modes** of an import of a table are related. -/
structure ModesAgree (rows : List Row) : Prop where
  /-- A lenient import never fails, and gives one rule for each row that is not malformed, in table
  order. -/
  lenient : ∃ s, importRows .lenient rows = .ok s ∧
    List.Forall₂ (fun entry rule => IsRuleOf entry.2 entry.1 rule) (wellFormedFrom 0 rows) s.rules
  /-- A rule is determined by its row and the index of the row. -/
  unique : ∀ index row rule rule', IsRuleOf index row rule → IsRuleOf index row rule' → rule = rule'
  /-- A strict import fails exactly if some row is malformed. -/
  strict_isError_iff : (∃ e, importRows .strict rows = .error e) ↔ ∃ row ∈ rows, Malformed row
  /-- It reports the first malformed row, by its name and its fault. -/
  strict_eq_error : ∀ before row after, rows = before ++ row :: after →
    (∀ r ∈ before, ¬Malformed r) → Malformed row → ∃ text, Fault row text ∧
      importRows .strict rows = .error (.invalidRule (ruleName before.length row) text)
  /-- Without malformed rows both give the same rules, as many as there are rows. -/
  agree : (∀ row ∈ rows, ¬Malformed row) → ∃ s, importRows .lenient rows = .ok s ∧
    importRows .strict rows = .ok s ∧ s.size = rows.length

section Modes

variable {rows : List Row}

theorem importRows_lenient (hfits : firstId + rows.length ≤ UInt64.size) :
    ∃ s, importRows .lenient rows = .ok s ∧
      List.Forall₂ (fun entry rule => IsRuleOf entry.2 entry.1 rule) (wellFormedFrom 0 rows)
        s.rules := by
  obtain ⟨s, rules, himport, hrules, hall⟩ := @importFrom_lenient .empty 0 rows
    (List.forall_mem_nil _) hfits
  exact ⟨s, himport, hrules ▸ hall⟩

theorem wellFormedFrom_eq (h : ∀ row ∈ rows, ¬Malformed row) (index : Nat) :
    wellFormedFrom index rows = rows.zipIdx index := by
  refine List.filter_eq_self.mpr fun entry hentry => ?_
  simpa using h entry.1 (List.fst_mem_of_mem_zipIdx hentry)

theorem importRows_strict (hfits : firstId + rows.length ≤ UInt64.size)
    (h : ∀ row ∈ rows, ¬Malformed row) :
    ∃ s, importRows .lenient rows = .ok s ∧ importRows .strict rows = .ok s ∧
      s.size = rows.length := by
  obtain ⟨s, hs, hall⟩ := importRows_lenient hfits
  refine ⟨s, hs, (importFrom_strict h).trans hs, ?_⟩
  rw [wellFormedFrom_eq h] at hall
  rw [RuleSet.size, ← hall.length_eq, List.length_zipIdx]

/-- If some row is malformed there is a first one. -/
theorem exists_first_malformed (h : ∃ row ∈ rows, Malformed row) :
    ∃ before row after, rows = before ++ row :: after ∧ (∀ r ∈ before, ¬Malformed r) ∧
      Malformed row := by
  obtain ⟨row, hrow⟩ := Option.isSome_iff_exists.mp
    (List.find?_isSome (p := fun r => decide (Malformed r)) |>.mpr (by simpa using h))
  obtain ⟨hmalformed, before, after, rfl, hbefore⟩ := List.find?_eq_some_iff_append.mp hrow
  exact ⟨before, row, after, rfl, fun r hr => by simpa using hbefore r hr,
    by simpa using hmalformed⟩

/-- A strict import stops at the **first malformed row**. -/
theorem importRows_strict_eq_error {before after : List Row} {row : Row} {text : String}
    (hfits : firstId + (before ++ row :: after).length ≤ UInt64.size)
    (hbefore : ∀ r ∈ before, ¬Malformed r) (htext : Fault row text) :
    importRows .strict (before ++ row :: after) =
      .error (.invalidRule (ruleName before.length row) text) := by
  rw [List.length_append] at hfits
  have hroom : firstId + before.length ≤ UInt64.size := by omega
  obtain ⟨s, -, hs, -⟩ := importRows_strict hroom hbefore
  rw [importRows, importFrom_append hs, Nat.zero_add, importFrom, convert_eq_error htext]

end Modes

/-- **The two modes of an import agree** on what rows are worth, and differ in what they do at a row
that is malformed. Identities are words, so there has to be one for every row. -/
theorem modesAgree_importRows {rows : List Row} (hfits : firstId + rows.length ≤ UInt64.size) :
    ModesAgree rows where
  lenient := importRows_lenient hfits
  unique _ _ _ _ := IsRuleOf.unique
  strict_isError_iff := by
    constructor
    · rintro ⟨e, he⟩
      by_contra hall
      obtain ⟨s, -, hs, -⟩ := importRows_strict hfits fun row hrow hmalformed =>
        hall ⟨row, hrow, hmalformed⟩
      rw [hs] at he
      cases he
    · intro hall
      obtain ⟨before, row, after, rfl, hbefore, hmalformed⟩ := exists_first_malformed hall
      obtain ⟨text, htext⟩ := malformed_iff.mp hmalformed
      exact ⟨_, importRows_strict_eq_error hfits hbefore htext⟩
  strict_eq_error before row after hrows hbefore hmalformed := by
    obtain ⟨text, htext⟩ := malformed_iff.mp hmalformed
    subst hrows
    exact ⟨text, htext, importRows_strict_eq_error hfits hbefore htext⟩
  agree := importRows_strict hfits

/-- A row with a level that is not recognized. -/
def sheetRow : Row := .ofFields [("Level", .text "Sheet"), ("Target_Column", .text "v")]

/-- A table with all three faults, between two rows that make rules. -/
def faultyTable : List Row :=
  [.ofFields [("Target_Column", .text " v "), ("Condition", .text ">"),
      ("Compare_Against", .number 1)],
    sheetRow,
    .ofFields [("Level", .text "agg"), ("Target_Column", .text "v"), ("Aggregation", .text "Top")],
    .ofFields [("Target_Column", .text "  ")],
    .ofFields [("Level", .text "Agg"), ("Target_Column", .text "v"), ("Aggregation", .text "Max"),
      ("Group_By", .text "g")]]

theorem modesAgree_importRows_faultyTable :
    firstId + faultyTable.length ≤ UInt64.size ∧
      (∃ s, importRows .lenient faultyTable = .ok s ∧ s.size = 2) ∧
      importRows .strict faultyTable =
        .error (.invalidRule "Rule 2" "unrecognised level 'Sheet'") := by
  have hfits : firstId + faultyTable.length ≤ UInt64.size := by decide
  have hagree := modesAgree_importRows hfits
  obtain ⟨s, hs, hall⟩ := hagree.lenient
  have hcount : (wellFormedFrom 0 faultyTable).length = 2 := by decide +kernel
  obtain ⟨text, htext, hstrict⟩ := hagree.strict_eq_error (faultyTable.take 1) sheetRow
    (faultyTable.drop 2) rfl (by decide +kernel) (by decide +kernel)
  have hbody : body sheetRow = .error "unrecognised level 'Sheet'" := by decide +kernel
  obtain rfl := Except.error.inj ((body_eq_error_iff.mpr htext).symm.trans hbody)
  exact ⟨hfits, ⟨s, hs, hall.length_eq.symm.trans hcount⟩, hstrict⟩

end DataQuality.RuleTable
