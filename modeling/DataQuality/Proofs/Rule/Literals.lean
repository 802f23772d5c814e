import DataQuality.Engine.RowCheck

/-!
# Literal operands and texts

A literal operand is resolved before it is compared. What looks like a number becomes that number,
what says “not available” becomes the canonical marker, and only other texts stay as they are. Where
the comparison is one of texts, the resolved value is displayed again, and this need not give back
what was written: `007` is displayed as `7`.

`DataQuality.literalText` is the text that takes part in the end.
`DataQuality.RowCheck.outcome_literal` says that tests of texts compare with it. It is the text that
was written, the case of its letters aside, for the literals of `DataQuality.ReadAsWritten`; for a
literal that is no number, this fails for the marker with blank characters around it and for
nothing else (`DataQuality.readAsWritten_of_not_number`).
-/

namespace DataQuality

/-! ### The text of a literal -/

/-- The text that a **literal operand is compared as**: the displayed number, the canonical marker,
or the text as it was written. -/
def literalText (operand : String) : String :=
  match Number.parse? operand with
  | some n => Number.display n
  | none => if Text.sameLetters (Text.trim operand) notAvailable then notAvailable else operand

theorem display_ofLiteral (operand : String) :
    (Operand.ofLiteral operand).display = literalText operand := by
  rw [Operand.ofLiteral, literalText]
  cases Number.parse? operand with
  | some n => rfl
  | none => exact apply_ite Cell.display _ _ _

/-- A literal that is **read as it was written**, the case of its letters aside. -/
def ReadAsWritten (operand : String) : Prop :=
  Text.lowercase (literalText operand) = Text.lowercase operand

/-- A text with the lower-case form of the marker and the letters of the marker between its blank
characters has no blank characters at its ends. -/
theorem trim_eq_of_lowercase_eq {operand : String}
    (hletters : Text.sameLetters (Text.trim operand) notAvailable = true)
    (hlower : Text.lowercase notAvailable = Text.lowercase operand) :
    Text.trim operand = operand := by
  have htrimmed : (Text.trimChars operand.toList).length = notAvailable.toList.length := by
    have hmap := congrArg List.length (beq_iff_eq.mp hletters)
    rwa [List.length_map, List.length_map, Text.toList_trim] at hmap
  -- lower case never shortens, so there is no room for blank characters
  have hle : operand.toList.length ≤ notAvailable.toList.length := by
    have hlength := Text.length_le_length_lowercaseFrom [] operand.toList
    have hmarker := congrArg (fun s => s.toList.length) hlower
    rw [Text.lowercase, Text.lowercase, String.toList_ofList, String.toList_ofList] at hmarker
    rw [← hmarker] at hlength
    exact hlength
  have hall : Text.trimChars operand.toList = operand.toList :=
    (Text.trimChars_sublist operand.toList).eq_of_length_le (htrimmed ▸ hle)
  rw [Text.trim, hall, String.ofList_toList]

/-- **A literal that is no number is read as it was written** unless it is the marker with blank
characters around it. -/
theorem readAsWritten_of_not_number {operand : String} (h : Number.parse? operand = none) :
    ReadAsWritten operand ↔
      (Text.sameLetters (Text.trim operand) notAvailable = true → Text.trim operand = operand) := by
  rw [ReadAsWritten, literalText, h]
  by_cases hletters : Text.sameLetters (Text.trim operand) notAvailable = true
  · rw [if_pos hletters]
    constructor
    · intro hlower _
      exact trim_eq_of_lowercase_eq hletters hlower
    · intro htrim
      have hsame : Text.sameLetters operand notAvailable = true := by
        rwa [htrim hletters] at hletters
      exact (Text.lowercase_eq_of_sameLetters hsame (by simp [notAvailable])).symm
  · rw [if_neg hletters]
    exact ⟨fun _ hmarker => absurd hmarker hletters, fun _ => rfl⟩

/-! ### Tests of texts -/

/-- A **test of two texts**. -/
inductive TextTest where
  /-- They are equal. -/
  | equal
  /-- They differ. -/
  | different
  /-- The second one occurs in the first. -/
  | occurs
  /-- The second one does not occur in the first. -/
  | absent
  /-- The first one begins with the second. -/
  | begins
  deriving DecidableEq

namespace TextTest

/-- The test that an operator makes of texts. Equality is a test of texts under text comparison
only. -/
def ofOperator? : Operator → ColumnType → Option TextTest
  | .compare .eq, .text => some .equal
  | .compare .neq, .text => some .different
  | .contains, _ => some .occurs
  | .notContains, _ => some .absent
  | .startsWith, _ => some .begins
  | _, _ => none

/-- What a test **asks of two texts**. -/
def Holds : TextTest → String → String → Prop
  | .equal, a, b => a = b
  | .different, a, b => a ≠ b
  | .occurs, a, b => b.toList <:+: a.toList
  | .absent, a, b => ¬b.toList <:+: a.toList
  | .begins, a, b => b.toList <+: a.toList

instance (a b : String) : (test : TextTest) → Decidable (test.Holds a b)
  | .equal => inferInstanceAs (Decidable (a = b))
  | .different => inferInstanceAs (Decidable (a ≠ b))
  | .occurs => decidable_of_iff (Text.contains a b = true) Text.contains_iff
  | .absent => decidable_of_iff (¬Text.contains a b = true) (not_congr Text.contains_iff)
  | .begins => decidable_of_iff (Text.startsWith a b = true) Text.startsWith_iff

/-- A test that every text passes against itself. -/
def IsReflexive : TextTest → Prop
  | .equal => True
  | .occurs => True
  | .begins => True
  | .different => False
  | .absent => False

theorem holds_self {test : TextTest} (h : test.IsReflexive) (a : String) : test.Holds a a := by
  cases test with
  | equal => exact rfl
  | occurs => exact List.infix_rfl
  | begins => exact List.prefix_rfl
  | different => exact h.elim
  | absent => exact h.elim

/-- **Operators make their tests on the lower-case forms.** -/
theorem evaluate_iff {op : Operator} {type : ColumnType} {test : TextTest}
    (h : ofOperator? op type = some test) {value : Cell} (hblank : value.isBlank = false)
    (operand : Cell) :
    op.evaluate type value operand = true ↔ test.Holds value.folded operand.folded := by
  unfold ofOperator? at h
  split at h
  · obtain rfl := Option.some.inj h
    rw [Operator.evaluate, hblank, Operator.compareCells, Holds, ← Text.order_eq_iff]
    simp [Comparator.holdsOf]
  · obtain rfl := Option.some.inj h
    rw [Operator.evaluate, hblank, Operator.compareCells, Holds, Ne, ← Text.order_eq_iff]
    simp [Comparator.holdsOf]
  · obtain rfl := Option.some.inj h
    rw [Operator.evaluate, hblank, Holds, ← Text.contains_iff]
    simp
  · obtain rfl := Option.some.inj h
    rw [Operator.evaluate, hblank, Holds, ← Text.contains_iff]
    simp
  · obtain rfl := Option.some.inj h
    rw [Operator.evaluate, hblank, Holds, ← Text.startsWith_iff]
    simp
  · exact absurd h (by simp)

end TextTest

/-! ### Checks against a literal -/

namespace RowCheck

section Literal

variable {d : Dataset} {rule : Rule} {body : RowRule} {row : Row} {name : String} {value : Cell}

/-- A check on a single column finds the cell of that column, where the row has it. -/
theorem outcome_single_column (hliteral : body.operandIsColumn = false)
    (hzero : body.emptyAsZero = false) (hmode : body.targetMode = .sum)
    (hcolumn : columnNames body.column = [name]) (hcell : row.get? name = some value) :
    (ofRowRule d rule body).outcome row =
      .judged value ((ofRowRule d rule body).passes row value) := by
  have hrequired : (ofRowRule d rule body).required = [name] := by
    simp only [ofRowRule, requiredTargets, requiredOperands, hmode, hcolumn, hliteral]
    rfl
  have hpresent : row.contains name = true := by rw [Row.contains, hcell, Option.isSome_some]
  have hmissing : (ofRowRule d rule body).missing? row = none := by
    rw [missing?, hrequired, List.find?_cons_of_neg (by simp [hpresent]), List.find?_nil]
  have htarget : (ofRowRule d rule body).target row = value := by
    simp only [target, read, ofRowRule, hzero, hmode, Operand.ofColumns, hcolumn, Row.cell, hcell]
    rfl
  rw [outcome, hmissing, htarget]

/-- Without options, a value passes when the operator accepts it against the literal. -/
theorem passes_literal (hliteral : body.operandIsColumn = false)
    (hskip : body.skipIfZero = false) (hzero : body.emptyAsZero = false) (row : Row)
    (value : Cell) :
    (ofRowRule d rule body).passes row value =
      body.operator.evaluate (comparedType d body) value (Operand.ofLiteral body.operand) := by
  simp only [passes, passesUnseen, operand, read, ofRowRule, hskip, hzero, hliteral,
    Operand.resolve]
  rfl

end Literal

/-- **What a test of texts against a literal decides.** The cell is compared with the text that the
literal is resolved to. This is what was written exactly for the literals that are read so, among
them all that are no numbers and no padded marker; a cell with the text of such a literal passes
every reflexive test. -/
theorem outcome_literal {d : Dataset} {rule : Rule} {body : RowRule} {row : Row} {name v : String}
    {test : TextTest} (hliteral : body.operandIsColumn = false)
    (hskip : body.skipIfZero = false) (hzero : body.emptyAsZero = false)
    (hmode : body.targetMode = .sum) (hcolumn : columnNames body.column = [name])
    (hcell : row.get? name = some (.text v)) (hblank : (Cell.text v).isBlank = false)
    (htest : TextTest.ofOperator? body.operator (comparedType d body) = some test) :
    ∃ passed, (ofRowRule d rule body).outcome row = .judged (.text v) passed ∧
      (passed = true ↔ test.Holds (Text.lowercase v) (Text.lowercase (literalText body.operand))) ∧
      (ReadAsWritten body.operand →
        (passed = true ↔ test.Holds (Text.lowercase v) (Text.lowercase body.operand)) ∧
        (v = body.operand → test.IsReflexive → passed = true)) ∧
      (Number.parse? body.operand = none →
        (Text.sameLetters (Text.trim body.operand) notAvailable = true →
          Text.trim body.operand = body.operand) →
        ReadAsWritten body.operand) := by
  have hpassed : (ofRowRule d rule body).passes row (.text v) = true ↔
      test.Holds (Text.lowercase v) (Text.lowercase (literalText body.operand)) := by
    rw [passes_literal hliteral hskip hzero, TextTest.evaluate_iff htest hblank, Cell.folded,
      Cell.folded, display_ofLiteral]
    rfl
  refine ⟨_, outcome_single_column hliteral hzero hmode hcolumn hcell, hpassed, ?_, ?_⟩
  · intro hread
    rw [hread] at hpassed
    refine ⟨hpassed, ?_⟩
    rintro rfl hreflexive
    exact hpassed.mpr (TextTest.holds_self hreflexive _)
  · intro hnumber
    exact (readAsWritten_of_not_number hnumber).mpr

/-- The text rule that a code is `x1`, on a row with that code. -/
theorem outcome_literal_plain_code :
    ∃ passed, (ofRowRule ⟨[⟨"code", .text⟩], []⟩ default
        (.literal "code" (.compare .eq) "X1")).outcome (.ofFields [("code", .text "x1")]) =
          .judged (.text "x1") passed ∧ passed = true := by
  obtain ⟨passed, houtcome, hpassed, -⟩ := @outcome_literal ⟨[⟨"code", .text⟩], []⟩ default
    (.literal "code" (.compare .eq) "X1") (.ofFields [("code", .text "x1")]) "code" "x1" .equal
    rfl rfl rfl rfl (by decide) (by decide) (by decide) (by decide)
  exact ⟨passed, houtcome, hpassed.mpr (by decide)⟩

/-- **Leading zeros are lost.** The text rule that a code is `007` fails on a row with exactly that
code, since the literal is compared as `7`. -/
theorem outcome_leading_zeros :
    comparedType ⟨[⟨"code", .text⟩], []⟩ (.literal "code" (.compare .eq) "007") = .text ∧
    (ofRowRule ⟨[⟨"code", .text⟩], []⟩ default (.literal "code" (.compare .eq) "007")).outcome
      (.ofFields [("code", .text "007")]) = .judged (.text "007") false := by
  decide +kernel

end RowCheck

end DataQuality
