import DataQuality.Proofs.Engine.EmptyCells
import DataQuality.Rule.Catalog

/-!
# What the built-in rules check

The built-in rules are rows of options and operators. What they check together is said here without
these, in terms of the cells of a row (`DataQuality.Catalog.Check.FailsOn`): a percentage out of
range, an area that shrinks, a sowing area beyond the land, an annotation without its area or an
area without its annotation. A run of the built-in rules decides exactly these checks
(`DataQuality.Catalog.decidesChecks_standardRules`): on every row of every dataset it leaves the
failures of the checks that the row fails, in the order of the checks, and nothing else.

Empty, blank, zero, absent and unreadable are five different things in a cell, and every check draws
its lines among them elsewhere:

* a percentage passes if its cell is **empty**, and fails if it is only blank;
* a later area passes if it is **blank** or zero, and an earlier one counts as zero if it is empty;
* the latest sowing area is looked for among the **numbers**, whatever stands in the other cells;
* the second sowing area is there if it is a number **other than zero**, and its annotation if it is
  not blank and does not say `nan`.

On a row that lacks a column of it, a check is passed over; only the sowing areas of the third one
may be **absent**.
-/

namespace DataQuality

namespace Catalog

/-! ### The checks -/

/-- A **check** of a sheet on crops. -/
inductive Check where
  /-- The percentage in a column lies between 0 and 100. -/
  | range (label column : String)
  /-- A later area is not smaller than an earlier one. -/
  | progressive (p : Progression)
  /-- The latest sowing area does not exceed the agriculture area. -/
  | limit
  /-- A second sowing area goes with its annotation. -/
  | consistency

/-- **All checks**, in order, with the headers of the columns that they look at. -/
def checks : List Check :=
  [.range "Sowing 1 %" "Sowing 1 Percentage",
    .range "Sowing 2 %" "Sowing 2 Percentage",
    .range "Sowing 3 %" "Sowing 3 Percentage",
    .range "Crop Area %" "Crop  Area Percentage K025",
    .range "Harvest 1 %" "Harvest 1 Area Percentage",
    .range "Harvest 2 %" "Harvest 2 Area Percentage",
    .range "Harvest 3 %" "Harvest 3 Area Percentage",
    .range "Harvest 4 %" "Harvest 4 Area Percentage",
    .progressive ⟨"Sowing 2", "Sowing2 Area (ha)", "Sowing 1", "Sowing 1 Area (ha)"⟩,
    .progressive ⟨"Sowing 3", "Sowing 3 Area (ha)", "Sowing 2", "Sowing2 Area (ha)"⟩,
    .progressive ⟨"Harvest 2", "Harvest 2 Area(ha)", "Harvest 1", "Harvest 1 Area(ha)"⟩,
    .progressive ⟨"Harvest 3", "Harvest 3 Area (ha)", "Harvest 2", "Harvest 2 Area(ha)"⟩,
    .progressive ⟨"Harvest 4", "Harvest 4 Area (ha)", "Harvest 3", "Harvest 3 Area (ha)"⟩,
    .limit, .consistency]

/-- The rule that carries out a check. -/
def Check.draft : Check → Draft
  | .range label column => Catalog.range label column
  | .progressive p => Catalog.progressive p
  | .limit => Catalog.limit
  | .consistency => annotation

/-- A row has a cell in the column that is neither empty nor a number **between 0 and 100**. -/
def OutOfRange (column : String) (row : Row) : Prop :=
  ∃ c ∈ row.get? column, c.isEmpty = false ∧ ¬∃ n ∈ c.number?, 0 ≤ n ∧ n ≤ 100

/-- A row has a later area, neither blank nor zero, that is not a number **up to which the earlier
one comes**. An empty earlier area counts as zero. -/
def Shrinks (p : Progression) (row : Row) : Prop :=
  ∃ later ∈ row.get? p.later, ∃ earlier ∈ row.get? p.earlier,
    later.isBlank = false ∧ later.isZero = false ∧
      ¬∃ m ∈ later.number?, ∃ n ∈ earlier.filled.number?, n ≤ m

/-- The number in a column of a row. A cell that is **absent or no number** counts as zero. -/
def areaIn (row : Row) (column : String) : Float := ((row.get? column).bind Cell.number?).getD 0

/-- The **latest sowing area** other than zero. -/
def latestSowing? (row : Row) : Option Float :=
  (["Sowing 3 Area (ha)", "Sowing2 Area (ha)", "Sowing 1 Area (ha)"].map (areaIn row)).find?
    (· != 0)

/-- The latest sowing area of a row is not a number **up to the agriculture area**. An empty
agriculture area counts as zero. -/
def ExceedsLand (row : Row) : Prop :=
  ∃ land ∈ row.get? "Total Agriculture Area (ha)", ∃ n ∈ latestSowing? row,
    ¬∃ m ∈ land.filled.number?, n ≤ m

/-- A row has a second sowing area other than zero **without an annotation**, or an annotation
without such an area. -/
def Unannotated (row : Row) : Prop :=
  ∃ area ∈ row.get? "Sowing2 Area (ha)", ∃ note ∈ row.get? "Sowing 2 ACR",
    ¬((∃ n ∈ area.number?, (n == 0) = false) ↔
      note.isBlank = false ∧ Text.sameLetters note.trimmed "nan" = false)

/-- A row **fails** a check. -/
def Check.FailsOn (row : Row) : Check → Prop
  | .range _ column => OutOfRange column row
  | .progressive p => Shrinks p row
  | .limit => ExceedsLand row
  | .consistency => Unannotated row

section Decidable

variable (column : String) (p : Progression) (row : Row)

instance : Decidable (OutOfRange column row) := by delta OutOfRange; infer_instance

instance : Decidable (Shrinks p row) := by delta Shrinks; infer_instance

instance : Decidable (ExceedsLand row) := by delta ExceedsLand; infer_instance

instance : Decidable (Unannotated row) := by delta Unannotated; infer_instance

instance : DecidablePred (Check.FailsOn row)
  | .range _ column => inferInstanceAs (Decidable (OutOfRange column row))
  | .progressive p => inferInstanceAs (Decidable (Shrinks p row))
  | .limit => inferInstanceAs (Decidable (ExceedsLand row))
  | .consistency => inferInstanceAs (Decidable (Unannotated row))

end Decidable

end Catalog

/-! ### Failing a check -/

namespace RowCheck

/-- Where missing columns are passed over, a row fails a check if nothing is missing and the value
does not pass. -/
theorem passes_skip_eq_false_iff (c : RowCheck) (row : Row) :
    (c.outcome row).passes .skip = false ↔
      c.missing? row = none ∧ c.passesUnseen (c.target row) = false ∧
        c.body.operator.evaluate c.type (c.target row) (c.operand row) = false := by
  rw [outcome, passes]
  cases c.missing? row with
  | some column => exact iff_of_false Bool.noConfusion fun h => Option.some_ne_none _ h.1
  | none => rw [RowOutcome.passes, Bool.or_eq_false_iff, and_iff_right rfl]

/-- There is a failure with the message of the rule if the row fails. -/
theorem failure?_skip_eq_ite (c : RowCheck) (o : RowOutcome) :
    c.failure? .skip o =
      if o.passes .skip = false then some (c.failure c.rule.failureMessage) else none := by
  cases o with
  | missing column => rfl
  | judged value passed => cases passed <;> rfl

section SingleColumn

variable {d : Dataset} {rule : Rule} {row : Row} {name : String} {c : Cell} (body : RowRule)

/-- The value of a single target column is its cell, as the rule reads it. -/
theorem target_of_single (hmode : body.targetMode = .sum)
    (hcolumn : columnNames body.column = [name]) (hcell : row.get? name = some c) :
    (ofRowRule d rule body).target row = (ofRowRule d rule body).read c := by
  simp only [target, ofRowRule, hmode, Operand.ofColumns, hcolumn, Row.cell, hcell]
  rfl

/-- So is that of a single operand column. -/
theorem operand_of_single (hisColumn : body.operandIsColumn = true)
    (hoperand : columnNames body.operand = [name]) (hcell : row.get? name = some c) :
    (ofRowRule d rule body).operand row = (ofRowRule d rule body).read c := by
  simp only [operand, ofRowRule, Operand.resolve, hisColumn, Operand.ofColumns, hoperand,
    Row.cell, hcell]
  rfl

/-- **A rule that compares one column with another** fails a row if the row has both cells, the
first one does not pass unseen, and the operator denies the two. -/
theorem compared_fails_iff {name' : String} (hmode : body.targetMode = .sum)
    (hisColumn : body.operandIsColumn = true) (hcolumn : columnNames body.column = [name])
    (hoperand : columnNames body.operand = [name']) :
    ((ofRowRule d rule body).outcome row).passes .skip = false ↔
      ∃ a ∈ row.get? name, ∃ b ∈ row.get? name',
        (ofRowRule d rule body).passesUnseen ((ofRowRule d rule body).read a) = false ∧
          body.operator.evaluate (comparedType d body) ((ofRowRule d rule body).read a)
            ((ofRowRule d rule body).read b) = false := by
  have hneeds : ∀ needed, body.Needs needed ↔ needed = name ∨ needed = name' := by
    simp [RowRule.Needs, hmode, hisColumn, hcolumn, hoperand, eq_comm]
  rw [passes_skip_eq_false_iff, missing?_ofRowRule_eq_none_iff]
  simp only [hneeds, forall_eq_or_imp, forall_eq, Row.contains]
  -- without one of the cells both sides fail: the rule is passed over
  rcases ha : row.get? name with _ | a
  · simp
  rcases hb : row.get? name' with _ | b
  · simp
  rw [target_of_single body hmode hcolumn ha, operand_of_single body hisColumn hoperand hb]
  simp only [Option.isSome_some, and_self, true_and, Option.mem_def, Option.some.injEq,
    exists_eq_left']
  rfl

end SingleColumn

end RowCheck

/-! ### Cells and numbers -/

namespace Cell

variable {c : Cell}

/-- A number other than zero in a cell is its number, zero standing for none. -/
theorem exists_number?_ne_zero_iff :
    (∃ n ∈ c.number?, (n == 0) = false) ↔ (c.numberOrZero == 0) = false := by
  rw [numberOrZero]
  rcases c.number? with _ | n
  · have hzero : ((0 : Float) == 0) = true := by decide +kernel
    simp [hzero]
  · simp

end Cell

namespace Operator

variable {value operand : Cell}

/-- A comparison by number asks for **two numbers** that compare so. -/
theorem evaluate_compare_number_iff (c : Comparator) :
    (compare c).evaluate .number value operand = true ↔
      ∃ a ∈ value.number?, ∃ b ∈ operand.number?, c.holds a b = true := by
  rw [evaluate, compareCells]
  rcases hvalue : value.number? with _ | a
  · simp
  · rcases operand.number? with _ | b <;> simp [Cell.isBlank_of_number? hvalue]

end Operator

namespace Catalog

/-! ### Percentages -/

/-- The range check asks for a number **between 0 and 100**. -/
theorem evaluate_between_iff {type : ColumnType} {value : Cell} :
    Operator.between.evaluate type value (.text "0,100") = true ↔
      ∃ n ∈ value.number?, 0 ≤ n ∧ n ≤ 100 := by
  have hbounds : Text.splitOnce? ',' (Cell.text "0,100").display = some ("0", "100") := by decide
  have hlow : Number.parse? "0" = some 0 := by decide +kernel
  have hhigh : Number.parse? "100" = some 100 := by decide +kernel
  rw [Operator.evaluate, Operator.inRange, hbounds]
  rcases hnumber : value.number? with _ | n
  · simp
  · simp [Cell.isBlank_of_number? hnumber, hlow, hhigh]

/-- An empty percentage is in range, as zero is. -/
theorem outOfRange_iff {column : String} {row : Row} {c : Cell} (hcell : row.get? column = some c) :
    OutOfRange column row ↔ ¬∃ n ∈ c.filled.number?, 0 ≤ n ∧ n ≤ 100 := by
  have hzero : ∃ n ∈ (Cell.number 0).number?, 0 ≤ n ∧ n ≤ 100 := by decide +kernel
  rw [OutOfRange, hcell]
  rcases hempty : c.isEmpty with _ | _
  · simp [Cell.filled_of_not_isEmpty hempty, hempty]
  · rw [Cell.filled_of_isEmpty hempty]
    refine iff_of_false ?_ (not_not_intro hzero)
    rintro ⟨_, ⟨⟩, hfull, -⟩
    rw [hempty] at hfull
    cases hfull

variable {d : Dataset} {rule : Rule} {row : Row}

/-- A percentage fails its rule if it is **out of range**. -/
theorem range_fails_iff {label column : String} (hcolumn : columnNames column = [column]) :
    ((RowCheck.ofRowRule d rule (range label column).rule).outcome row).passes .skip = false ↔
      OutOfRange column row := by
  have hneeds : ∀ name, (range label column).rule.Needs name ↔ name = column := by
    simp [RowRule.Needs, range, hcolumn]
  have hoperand : (RowCheck.ofRowRule d rule (range label column).rule).operand row =
      .text "0,100" := by
    -- the bounds are no number, so they stay a text, and the text is not empty
    have hliteral : Operand.ofLiteral "0,100" = .text "0,100" := by decide +kernel
    have hresolve : Operand.resolve row false "0,100" = .text "0,100" := by
      rw [Operand.resolve, if_neg Bool.false_ne_true, hliteral]
    rw [RowCheck.operand, RowCheck.read_of_emptyAsZero rfl]
    exact (congrArg Cell.filled hresolve).trans (Cell.filled_of_not_isEmpty (by decide))
  rw [RowCheck.passes_skip_eq_false_iff, RowCheck.missing?_ofRowRule_eq_none_iff, hoperand]
  simp only [hneeds, forall_eq, Row.contains]
  rcases hcell : row.get? column with _ | c
  · simp [OutOfRange, hcell]
  · have htarget : (RowCheck.ofRowRule d rule (range label column).rule).target row =
        c.filled := by
      rw [RowCheck.target_of_single (range label column).rule rfl hcolumn hcell,
        RowCheck.read_of_emptyAsZero rfl]
    rw [htarget, outOfRange_iff hcell, ← Bool.not_eq_true, ← Bool.not_eq_true]
    change _ ∧ ¬false = true ∧ ¬Operator.between.evaluate .number _ _ = true ↔ _
    rw [evaluate_between_iff]
    simp

/-! ### Areas that follow one another -/

/-- An area fails its rule if it **shrinks**. -/
theorem progressive_fails_iff {p : Progression} (hlater : columnNames p.later = [p.later])
    (hearlier : columnNames p.earlier = [p.earlier]) :
    ((RowCheck.ofRowRule d rule (progressive p).rule).outcome row).passes .skip = false ↔
      Shrinks p row := by
  rw [RowCheck.compared_fails_iff (progressive p).rule rfl rfl hlater hearlier, Shrinks]
  refine exists_congr fun later => and_congr_right fun _ =>
    exists_congr fun earlier => and_congr_right fun _ => ?_
  rw [RowCheck.read_of_emptyAsZero rfl, RowCheck.read_of_emptyAsZero rfl]
  change (later.filled.isBlank || later.filled.isZero) = false ∧
    (Operator.compare .gte).evaluate .number later.filled earlier.filled = false ↔ _
  rw [Cell.isBlank_or_isZero_filled, ← Bool.not_eq_true (Operator.evaluate _ _ _ _),
    Operator.evaluate_compare_number_iff]
  -- a later area that is not blank is read as it stands
  rcases hblank : later.isBlank with _ | _
  · simp [Cell.filled_of_not_isBlank hblank, Comparator.holds]
  · simp

/-! ### The latest sowing area -/

theorem numberAt_eq_areaIn (row : Row) : Operand.numberAt row = areaIn row := by
  funext name
  rw [Operand.numberAt, Cell.numberOrZero, areaIn, Row.cell]
  cases row.get? name <;> rfl

theorem columnNames_latestSowing : columnNames latestSowing =
    ["Sowing 3 Area (ha)", "Sowing2 Area (ha)", "Sowing 1 Area (ha)"] := by
  decide

/-- The latest sowing area is looked for in the columns that the rule lists. -/
theorem latestSowing?_eq (row : Row) : latestSowing? row =
    ((columnNames latestSowing).map (Operand.numberAt row)).find? (· != 0) := by
  rw [columnNames_latestSowing, numberAt_eq_areaIn, latestSowing?]

/-- The latest sowing area is a number other than zero. -/
theorem of_mem_latestSowing? {n : Float} (h : n ∈ latestSowing? row) :
    (Cell.number n).number? = some n ∧ (n == 0) = false := by
  have hnonzero : (n == 0) = false := by
    have hfound := List.find?_some h
    rwa [bne, Bool.not_eq_true'] at hfound
  refine ⟨?_, hnonzero⟩
  obtain ⟨name, -, rfl⟩ := List.mem_map.mp (List.mem_of_find?_eq_some h)
  rw [← numberAt_eq_areaIn, Operand.numberAt] at hnonzero ⊢
  obtain ⟨m, hm, -⟩ := Cell.exists_number?_ne_zero_iff.mpr hnonzero
  rw [Cell.numberOrZero, hm, Option.getD_some, Cell.number?,
    if_pos (Cell.isFinite_of_number? hm)]

/-- The latest sowing area fails its rule if it **exceeds the agriculture area**. -/
theorem limit_fails_iff :
    ((RowCheck.ofRowRule d rule limit.rule).outcome row).passes .skip = false ↔
      ExceedsLand row := by
  have hland : columnNames agricultureArea = [agricultureArea] := by decide
  have hneeds : ∀ name, limit.rule.Needs name ↔ agricultureArea = name := by
    simp [RowRule.Needs, limit, columnNames_latestSowing, hland]
  have hexceeds : ExceedsLand row ↔ ∃ land ∈ row.get? agricultureArea,
      ∃ n ∈ latestSowing? row, ¬∃ m ∈ land.filled.number?, n ≤ m := Iff.rfl
  rw [RowCheck.passes_skip_eq_false_iff, RowCheck.missing?_ofRowRule_eq_none_iff, hexceeds]
  simp only [hneeds, forall_eq', Row.contains]
  rcases hcell : row.get? agricultureArea with _ | land
  · simp
  have htarget : (RowCheck.ofRowRule d rule limit.rule).target row =
      .number ((latestSowing? row).getD 0) := by
    rw [RowCheck.target, RowCheck.read_of_emptyAsZero rfl, latestSowing?_eq]
    rfl
  have hoperand : (RowCheck.ofRowRule d rule limit.rule).operand row = land.filled := by
    rw [RowCheck.operand_of_single limit.rule rfl hland hcell,
      RowCheck.read_of_emptyAsZero rfl]
  rw [htarget, hoperand]
  change _ ∧ (Cell.number ((latestSowing? row).getD 0)).isZero = false ∧
    (Operator.compare .lte).evaluate .number _ land.filled = false ↔ _
  rw [← Bool.not_eq_true (Operator.evaluate _ _ _ _), Operator.evaluate_compare_number_iff]
  rcases hlatest : latestSowing? row with _ | n
  · -- the rule passes unseen
    have hzero : (Cell.number 0).isZero = true := by decide +kernel
    simp [hzero]
  · obtain ⟨hnumber, hnonzero⟩ := of_mem_latestSowing? hlatest
    simp [Cell.isZero, hnumber, hnonzero, Comparator.holds]

/-! ### The second sowing area and its annotation -/

/-- The second sowing area fails its rule if it is **not annotated**, or an annotation stands
alone. -/
theorem consistency_fails_iff :
    ((RowCheck.ofRowRule d rule annotation.rule).outcome row).passes .skip = false ↔
      Unannotated row := by
  have harea : columnNames sowing2Area = [sowing2Area] := by decide
  have hnote : columnNames sowing2Annotation = [ sowing2Annotation] := by decide
  rw [RowCheck.compared_fails_iff annotation.rule rfl rfl harea hnote]
  refine exists_congr fun area => and_congr_right fun _ =>
    exists_congr fun note => and_congr_right fun _ => ?_
  change false = false ∧ Operator.consistent area note = false ↔ _
  have hpresent : note.isBlank = false ∧ Text.sameLetters note.trimmed "nan" = false ↔
      Operator.isAbsent note = false := by
    rw [Operator.isAbsent, Bool.or_eq_false_iff]
  have hverdict : Operator.consistent area note = false ↔
      ¬((area.numberOrZero == 0) = false ↔ Operator.isAbsent note = false) := by
    rw [Operator.consistent, bne]
    cases area.numberOrZero == 0 <;> cases Operator.isAbsent note <;> decide
  rw [hverdict, ← hpresent, ← Cell.exists_number?_ne_zero_iff]
  simp

/-! ### All checks -/

/-- The headers of a check are those of **single columns**: as specifications of columns they list
themselves, since they have no comma and no blank characters at their ends. -/
def Check.NamesColumns : Check → Prop
  | .range _ column => columnNames column = [column]
  | .progressive p => columnNames p.later = [p.later] ∧ columnNames p.earlier = [p.earlier]
  | .limit => True
  | .consistency => True

instance : DecidablePred Check.NamesColumns
  | .range _ column => inferInstanceAs (Decidable (columnNames column = [column]))
  | .progressive p => inferInstanceAs
    (Decidable (columnNames p.later = [p.later] ∧ columnNames p.earlier = [p.earlier]))
  | .limit => inferInstanceAs (Decidable True)
  | .consistency => inferInstanceAs (Decidable True)

theorem namesColumns_of_mem_checks : ∀ check ∈ checks, check.NamesColumns := by decide

/-- **A row fails the rule of a check exactly if it fails the check.** -/
theorem fails_iff_of_namesColumns {check : Check} (h : check.NamesColumns) (d : Dataset)
    (rule : Rule) (row : Row) :
    ((RowCheck.ofRowRule d rule check.draft.rule).outcome row).passes .skip = false ↔
      check.FailsOn row := by
  cases check with
  | range label column => exact range_fails_iff h
  | progressive p => exact progressive_fails_iff h.1 h.2
  | limit => exact limit_fails_iff
  | consistency => exact consistency_fails_iff

/-- The failure that **is reported** of a check: the columns that it looks at, its name and its
message. -/
def Check.failure : Check → Failure
  | .range label column => ⟨column, label ++ " Range", label ++ " outside [0, 100]"⟩
  | .progressive p =>
    ⟨p.later, p.laterLabel ++ " >= " ++ p.earlierLabel, p.laterLabel ++ " < " ++ p.earlierLabel⟩
  | .limit => ⟨"Sowing 3 Area (ha),Sowing2 Area (ha),Sowing 1 Area (ha)",
    "Agri Area >= Latest Sowing", "Agri Area < Latest Sowing Area"⟩
  | .consistency => ⟨"Sowing2 Area (ha)", "Sowing 2 Consistency",
    "Sowing 2/ACR Mismatch: If Sowing 2 != 0, ACR must exist. " ++
      "If Sowing 2 == 0, ACR must be blank."⟩

/-- It is that of the rule that carries out the check. -/
theorem Check.failure_eq (check : Check) :
    check.failure = ⟨check.draft.rule.column, check.draft.name, check.draft.message⟩ := by
  cases check <;> rfl

/-- The failures of those among some checks that a row fails, in order. -/
def failuresOf (row : Row) (cs : List Check) : List Failure :=
  (cs.filter fun check => check.FailsOn row).map Check.failure

/-- The rules of some checks leave **the failures of these checks**, with any identities. -/
theorem filterMap_failure?_numbered (d : Dataset) (row : Row) (id : UInt64) {cs : List Check}
    (h : ∀ check ∈ cs, check.NamesColumns) :
    ((RowCheck.ofRules d (numbered id (cs.map Check.draft))).filterMap fun c =>
      c.failure? .skip (c.outcome row)) = failuresOf row cs := by
  induction cs generalizing id with
  | nil => rfl
  | cons check cs ih =>
    obtain ⟨hcheck, hcs⟩ := List.forall_mem_cons.mp h
    let rule : Rule :=
      ⟨id, some check.draft.name, some check.draft.message, .row check.draft.rule⟩
    have hrules : RowCheck.ofRules d (numbered id ((check :: cs).map Check.draft)) =
        RowCheck.ofRowRule d rule check.draft.rule ::
          RowCheck.ofRules d (numbered (id + 1) (cs.map Check.draft)) := rfl
    have hfails := fails_iff_of_namesColumns hcheck d rule row
    rw [hrules, List.filterMap_cons, RowCheck.failure?_skip_eq_ite, ih (id + 1) hcs, failuresOf,
      failuresOf, List.filter_cons]
    by_cases hcase : check.FailsOn row
    · rw [if_pos (hfails.mpr hcase), if_pos (decide_eq_true hcase), List.map_cons,
        Check.failure_eq]
      rfl
    · rw [if_neg (mt hfails.mp hcase), if_neg (by simpa using hcase)]

/-- The rules of drafts are rows, so they leave no messages about totals. -/
theorem globalErrors_numbered (tolerance : Float) (d : Dataset) (id : UInt64) (ds : List Draft) :
    DataQuality.globalErrors tolerance d (numbered id ds) = [] := by
  induction ds generalizing id with
  | nil => rfl
  | cons draft ds ih => exact ih (id + 1)

/-- A run **decides the checks** on a dataset. -/
structure DecidesChecks (d : Dataset) (e : Execution) : Prop where
  /-- The failures of a row are those of the checks that it fails, in the order of the checks. -/
  failures : ∀ i, e.failuresAt i = d.rows[i]?.elim [] fun row => failuresOf row checks
  /-- No check is reported twice. -/
  nodup : ∀ i, ((e.failuresAt i).map (·.ruleName)).Nodup
  /-- A row passes if it fails no check. -/
  passes : ∀ i, e.passesAt i = true ↔
    ∀ row ∈ d.rows[i]?, ∀ check ∈ checks, ¬check.FailsOn row
  /-- Nothing is said about totals. -/
  globalErrors : e.globalErrors = []

/-- The built-in rules carry out the checks. -/
theorem rules_standardRules : standardRules.rules = numbered 1 (checks.map Check.draft) := by
  have hdrafts : drafts = checks.map Check.draft := rfl
  rw [← hdrafts, standardRules]

/-- On a row that is there, the built-in rules leave the failures of all checks. -/
theorem failuresAt_standardRules (d : Dataset) (i : Nat) :
    (execute .default d standardRules.rules).failuresAt i =
      d.rows[i]?.elim [] fun row => failuresOf row checks := by
  have hpolicy : Settings.default.missing = .skip := rfl
  rw [failuresAt_execute, hpolicy, rules_standardRules]
  simp only [filterMap_failure?_numbered d _ 1 namesColumns_of_mem_checks]

/-- **The built-in rules decide exactly the checks**, on every dataset. -/
theorem decidesChecks_standardRules (d : Dataset) :
    DecidesChecks d (execute .default d standardRules.rules) where
  failures := failuresAt_standardRules d
  nodup i := by
    have hnames : (checks.map (·.failure.ruleName)).Nodup := by decide +kernel
    rw [failuresAt_standardRules]
    rcases d.rows[i]? with _ | row
    · exact List.nodup_nil
    · rw [Option.elim_some, failuresOf, List.map_map]
      exact hnames.sublist (List.filter_sublist.map _)
  passes i := by
    rw [passesAt_iff_failuresAt_eq_nil, failuresAt_standardRules]
    rcases d.rows[i]? with _ | row
    · simp
    · simp [failuresOf, List.filter_eq_nil_iff]
  globalErrors := by
    rw [rules_standardRules]
    exact globalErrors_numbered Settings.default.tolerance d 1 _

/-- An error of the spreadsheet is no percentage. The sowing area is not reported, since there is no
column of the agriculture area to compare it with. -/
example :
    failuresOf (.ofFields [("Sowing 1 Percentage", .text "#DIV/0!"),
      ("Sowing 1 Area (ha)", .number 3)]) checks =
    [⟨"Sowing 1 Percentage", "Sowing 1 % Range", "Sowing 1 % outside [0, 100]"⟩] := by
  decide +kernel

end Catalog

end DataQuality
