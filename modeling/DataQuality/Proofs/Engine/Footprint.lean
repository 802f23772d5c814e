import DataQuality.Proofs.Engine.Independence
import DataQuality.Proofs.Engine.MissingColumns
import Mathlib.Data.List.Find

/-!
# What a rule on rows looks at

A rule on rows names columns, in its target and perhaps in its operand. It looks at the cells of a
row in these columns and at nothing else: not at other cells, not at the order of the fields, not at
other rows or the place of the row among them, and not at other rules. Of the dataset it looks at
one thing, the declared type of a single target column, and at this only where it sets no type
itself.

This is said of two runs (`DataQuality.exists_contributes_of_agreeOn`): on two rows that agree in the
named columns, in two datasets that agree on that type, the rule contributes the same, whatever
the other rules are. A specification that lists no column is left out, since it is taken as the
name of a column itself.
-/

namespace DataQuality

/-! ### Rows that agree -/

/-- Two rows **agree in some columns** when they have the same cells there, or both have none. -/
def Row.AgreeOn (names : List String) (r s : Row) : Prop :=
  ∀ name ∈ names, r.get? name = s.get? name

instance (names : List String) (r s : Row) : Decidable (r.AgreeOn names s) :=
  inferInstanceAs (Decidable (∀ name ∈ names, r.get? name = s.get? name))

namespace Row.AgreeOn

variable {names : List String} {r s : Row} {name : String}

theorem contains (h : AgreeOn names r s) (hname : name ∈ names) :
    r.contains name = s.contains name := by
  rw [Row.contains, Row.contains, h name hname]

theorem cell (h : AgreeOn names r s) (hname : name ∈ names) : r.cell name = s.cell name := by
  rw [Row.cell, Row.cell, h name hname]

theorem mono {names' : List String} (h : AgreeOn names r s) (hsub : names' ⊆ names) :
    AgreeOn names' r s :=
  fun name hname => h name (hsub hname)

/-- Rows that agree have the same numbers. -/
theorem map_numberAt (h : AgreeOn names r s) :
    names.map (Operand.numberAt r) = names.map (Operand.numberAt s) :=
  List.map_congr_left fun name hname => by rw [Operand.numberAt, Operand.numberAt, h.cell hname]

end Row.AgreeOn

namespace Operand

variable {spec : String} {r s : Row}

/-- A specification that lists columns looks at these only. -/
theorem ofColumns_congr (hlists : columnNames spec ≠ []) (h : r.AgreeOn (columnNames spec) s) :
    ofColumns r spec = ofColumns s spec := by
  unfold ofColumns
  rcases hnames : columnNames spec with _ | ⟨name, _ | ⟨name', names⟩⟩
  · exact absurd hnames hlists
  · rw [hnames] at h
    exact h.cell List.mem_cons_self
  · rw [hnames] at h
    exact congrArg (fun xs => Cell.number (sum xs)) h.map_numberAt

theorem firstNonZero_congr (h : r.AgreeOn (columnNames spec) s) :
    firstNonZero r spec = firstNonZero s spec := by
  rw [firstNonZero, firstNonZero, h.map_numberAt]

end Operand

/-! ### Checks that look at the same -/

/-- The columns that a rule on rows **names**. -/
def RowRule.namedColumns (body : RowRule) : List String :=
  columnNames body.column ++ if body.operandIsColumn then columnNames body.operand else []

/-- Every specification of columns in the rule lists at least one. -/
def RowRule.ListsColumns (body : RowRule) : Prop :=
  columnNames body.column ≠ [] ∧ (body.operandIsColumn = true → columnNames body.operand ≠ [])

/-- The declared type of a column. -/
def Dataset.declaredType? (d : Dataset) (name : String) : Option ColumnType :=
  (d.column? name).map (·.type)

/-- Two datasets declare the **same type for the target**, as far as the rule depends on it: it sets
no type itself, and its target is a single column. -/
def RowRule.TypedAlike (body : RowRule) (d d' : Dataset) : Prop :=
  body.valueType = none → ∀ name, columnNames body.column = [name] →
    d.declaredType? name = d'.declaredType? name

section Congruence

variable {body : RowRule} {r s : Row} {d d' : Dataset}

/-- A needed column is a named one. -/
theorem RowRule.Needs.mem_namedColumns {name : String} (h : body.Needs name) :
    name ∈ body.namedColumns := by
  rw [namedColumns, List.mem_append]
  rcases h with ⟨hname, -⟩ | ⟨hcolumn, hoperand⟩
  · exact .inl hname
  · rw [if_pos hcolumn, hoperand]
    exact .inr (List.mem_singleton.mpr rfl)

namespace RowCheck

/-- Without a type of its own, a rule on a single column is of the type declared for the column, and
of text if there is none. -/
theorem comparedType_of_single {name : String} (htype : body.valueType = none)
    (hname : columnNames body.column = [name]) :
    comparedType d body = (d.declaredType? name).getD .text := by
  simp only [comparedType, htype, hname, Dataset.declaredType?]
  cases d.column? name <;> rfl

theorem comparedType_congr (h : body.TypedAlike d d') :
    comparedType d body = comparedType d' body := by
  rcases htype : body.valueType with _ | type
  · rcases hnames : columnNames body.column with _ | ⟨name, _ | ⟨name', names⟩⟩
    · rw [comparedType, comparedType, htype, hnames]
    · rw [comparedType_of_single htype hnames, comparedType_of_single htype hnames,
        h htype name hnames]
    · -- sums are numbers in all datasets
      rw [comparedType, comparedType, htype, hnames]
  · rw [comparedType, comparedType, htype]

/-- Of a dataset, a check takes the declared columns alone. -/
theorem ofRowRule_congr (h : d.columns = d'.columns) (rule : Rule) (body : RowRule) :
    ofRowRule d rule body = ofRowRule d' rule body := by
  have htyped : body.TypedAlike d d' := fun _ name _ => by
    simp only [Dataset.declaredType?, Dataset.column?, h]
  rw [ofRowRule, ofRowRule, comparedType_congr htyped]

variable (d d') (rule : Rule)

theorem missing?_congr (h : r.AgreeOn body.namedColumns s) :
    (ofRowRule d rule body).missing? r = (ofRowRule d' rule body).missing? s := by
  rw [missing?, missing?]
  refine List.find?_congr fun name hname => ?_
  rw [h.contains (mem_required_iff.mp hname).mem_namedColumns]

theorem target_congr (hlists : body.ListsColumns) (h : r.AgreeOn body.namedColumns s) :
    (ofRowRule d rule body).target r = (ofRowRule d' rule body).target s := by
  have htarget : r.AgreeOn (columnNames body.column) s := h.mono (List.subset_append_left _ _)
  simp only [target, ofRowRule]
  cases body.targetMode with
  | sum => rw [Operand.ofColumns_congr hlists.1 htarget]; rfl
  | firstNonZero => rw [Operand.firstNonZero_congr htarget]; rfl

theorem operand_congr (hlists : body.ListsColumns) (h : r.AgreeOn body.namedColumns s) :
    (ofRowRule d rule body).operand r = (ofRowRule d' rule body).operand s := by
  simp only [operand, ofRowRule]
  rcases hcolumn : body.operandIsColumn
  · -- a literal is the same for all rows
    rfl
  · have hoperand : r.AgreeOn (columnNames body.operand) s := by
      refine h.mono ?_
      rw [RowRule.namedColumns, if_pos hcolumn]
      exact List.subset_append_right _ _
    simp only [Operand.resolve, Operand.ofColumns_congr (hlists.2 hcolumn) hoperand]
    rfl

/-- **A check finds the same** on rows that agree in the named columns. -/
theorem outcome_congr (hlists : body.ListsColumns) (htyped : body.TypedAlike d d')
    (h : r.AgreeOn body.namedColumns s) :
    (ofRowRule d rule body).outcome r = (ofRowRule d' rule body).outcome s := by
  have hpasses : ∀ value, (ofRowRule d rule body).passes r value =
      (ofRowRule d' rule body).passes s value := by
    intro value
    have htype : (ofRowRule d rule body).type = (ofRowRule d' rule body).type :=
      comparedType_congr htyped
    rw [passes, passes, operand_congr d d' rule hlists h, htype]
    rfl
  rw [outcome, outcome, missing?_congr d d' rule h, target_congr d d' rule hlists h,
    hpasses]

end RowCheck

end Congruence

/-! ### What a rule contributes -/

/-- What a rule that is not passed over **contributes** to the verdict on a row: an evaluation,
and a failure or none. -/
abbrev Contribution := Evaluation × Option Failure

/-- In some runs a rule makes the given contribution, or none, to the verdict on the row at an
index: between what the rules before it and the rules after it leave there, it leaves just that. -/
structure Contributes (run : List Rule → Execution) (rule : Rule) (i : Nat)
    (contribution : Option Contribution) : Prop where
  /-- The evaluation of the rule stands between those of the other rules. -/
  evaluations : ∀ before after, (run (before ++ rule :: after)).evaluationsAt i =
    (run before).evaluationsAt i ++ (contribution.map Prod.fst).toList ++
      (run after).evaluationsAt i
  /-- Its failure stands between those of the other rules. -/
  failures : ∀ before after, (run (before ++ rule :: after)).failuresAt i =
    (run before).failuresAt i ++ (contribution.bind Prod.snd).toList ++ (run after).failuresAt i

/-- The contribution of a check to the verdict on a row. -/
def RowCheck.contribution? (c : RowCheck) (policy : MissingPolicy) (row : Row) :
    Option Contribution :=
  (c.evaluation? policy (c.outcome row)).map fun e => (e, c.failure? policy (c.outcome row))

theorem RowCheck.map_fst_contribution? (c : RowCheck) (policy : MissingPolicy) (row : Row) :
    (c.contribution? policy row).map Prod.fst = c.evaluation? policy (c.outcome row) := by
  rw [contribution?]
  cases c.evaluation? policy (c.outcome row) <;> rfl

/-- No failure gets lost, since there is none without an evaluation. -/
theorem RowCheck.bind_snd_contribution? (c : RowCheck) (policy : MissingPolicy) (row : Row) :
    (c.contribution? policy row).bind Prod.snd = c.failure? policy (c.outcome row) := by
  rw [contribution?]
  have hreading := c.reading_countsAs policy (c.outcome row)
  generalize c.evaluation? policy (c.outcome row) = e, c.failure? policy (c.outcome row) = f,
    (c.outcome row).passes policy = b at hreading ⊢
  cases hreading <;> rfl

/-- **A rule contributes what its check finds**, whatever rules stand before and after it. -/
theorem contributes_execute (settings : Settings) {d : Dataset} {rule : Rule} {body : RowRule}
    {i : Nat} {row : Row} (hbody : rule.body = .row body) (hrow : d.rows[i]? = some row) :
    Contributes (execute settings d) rule i
      ((RowCheck.ofRowRule d rule body).contribution? settings.missing row) where
  evaluations before after := by
    rw [RowCheck.map_fst_contribution?, ← evaluationsAt_singleton settings hbody hrow,
      ← evaluationsAt_append, ← evaluationsAt_append, List.append_assoc, List.singleton_append]
  failures before after := by
    rw [RowCheck.bind_snd_contribution?, ← failuresAt_singleton settings hbody hrow,
      ← failuresAt_append, ← failuresAt_append, List.append_assoc, List.singleton_append]

/-- **A rule on rows sees only the cells it names.** On two rows that agree in the named columns it
makes the same contribution or none, in any two datasets that declare the same type for its
target, at any places, and among any other rules. -/
theorem exists_contributes_of_agreeOn (settings : Settings) {d d' : Dataset} {rule : Rule}
    {body : RowRule} {i j : Nat} {r s : Row} (hbody : rule.body = .row body)
    (hlists : body.ListsColumns) (htyped : body.TypedAlike d d') (hr : d.rows[i]? = some r)
    (hs : d'.rows[j]? = some s) (hagree : r.AgreeOn body.namedColumns s) :
    ∃ contribution, Contributes (execute settings d) rule i contribution ∧
      Contributes (execute settings d') rule j contribution := by
  refine ⟨_, contributes_execute settings hbody hr, ?_⟩
  have houtcome := RowCheck.outcome_congr d d' rule hlists htyped hagree
  have hcontribution : (RowCheck.ofRowRule d rule body).contribution? settings.missing r =
      (RowCheck.ofRowRule d' rule body).contribution? settings.missing s := by
    rw [RowCheck.contribution?, RowCheck.contribution?, houtcome]
    rfl
  rw [hcontribution]
  exact contributes_execute settings hbody hs

/-- An area is at least the sum of two others, of which an empty cell counts as zero. -/
def areaBody : RowRule where
  column := "area"
  operator := .compare .gte
  operand := "crop, fallow"
  operandIsColumn := true
  valueType := none
  skipIfZero := false
  emptyAsZero := true
  targetMode := .sum

/-- A sheet with an area on its only row. -/
def shortSheet : Dataset where
  columns := [⟨"area", .number⟩]
  rows := [.ofFields [("area", .number 2), ("crop", .number 3)]]

/-- A sheet with the same area and the same crop on its second row, among other fields. -/
def longSheet : Dataset where
  columns := [⟨"note", .text⟩, ⟨"area", .number⟩]
  rows := [.ofFields [("note", .text "none")],
    .ofFields [("crop", .number 3), ("note", .text "late"), ("area", .number 2)]]

/-- The two rows agree on area and crop and both lack fallow land, so the rule says the same of
them: two is less than three. -/
theorem exists_contributes_areaBody :
    (areaBody.ListsColumns ∧ areaBody.TypedAlike shortSheet longSheet ∧
      ∀ r ∈ shortSheet.rows[0]?, ∀ s ∈ longSheet.rows[1]?, r.AgreeOn areaBody.namedColumns s) ∧
    ∃ contribution,
      Contributes (execute .strict shortSheet) ⟨7, none, none, .row areaBody⟩ 0 contribution ∧
      Contributes (execute .strict longSheet) ⟨7, none, none, .row areaBody⟩ 1 contribution := by
  have hlists : areaBody.ListsColumns := by constructor <;> decide
  have htyped : areaBody.TypedAlike shortSheet longSheet := by
    intro _ name hname
    have hcolumn : columnNames areaBody.column = ["area"] := by decide
    obtain rfl : "area" = name := List.head_eq_of_cons_eq (hcolumn.symm.trans hname)
    decide
  refine ⟨⟨hlists, htyped, ?_⟩,
    exists_contributes_of_agreeOn .strict rfl hlists htyped rfl rfl (by decide)⟩
  rintro r ⟨⟩ s ⟨⟩
  decide

end DataQuality
