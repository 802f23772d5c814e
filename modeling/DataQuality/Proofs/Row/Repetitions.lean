import DataQuality.Dataset.Scan
import DataQuality.Proofs.Dataset.Distinct
import DataQuality.Proofs.Row.Duplicates

/-!
# Reports of repeated rows

Repeated rows are reported three times: in the verdicts of a run, in a quick scan and in a profile.
All of them go back to one list of references, and this file says what can be relied on.

* The references lead to **first rows** (`DataQuality.leadsToFirsts_duplicateReferences`): rows with
  one signature all refer to the first of them, that row refers to nothing, and rows that come later
  change no reference.
* The reports **agree** (`DataQuality.agreesOnRepetitions`): they name the same places, in
  increasing order, and there are as many of them as rows beyond one for every signature.

Everything about places follows the rows from the end: a last row adds its own place, or nothing
(`DataQuality.duplicateIndices_concat`).
-/

namespace DataQuality

/-! ### References -/

/-- **The reference of a row** is the first place of its signature among the rows before it. -/
theorem getElem?_duplicateReferences (rows : List Row) (i : Nat) :
    (duplicateReferences rows)[i]? = rows[i]?.map fun row =>
      firstPlace? ((rows.take i).map (·.signature)) row.signature := by
  have hget := getElem?_referencesFrom remembers_nil (rows.map (·.signature)) i
  rw [duplicateReferences, List.map_take]
  simpa [Function.comp_def] using hget

/-- A last row refers to the first place of its signature, and leaves the other references as they
are. -/
theorem duplicateReferences_concat (rows : List Row) (row : Row) :
    duplicateReferences (rows ++ [row]) =
      duplicateReferences rows ++ [firstPlace? (rows.map (·.signature)) row.signature] := by
  refine List.ext_getElem? fun i => ?_
  rw [getElem?_duplicateReferences]
  rcases Nat.lt_trichotomy i rows.length with hi | rfl | hi
  · rw [List.getElem?_append_left hi, List.take_append_of_le_length (Nat.le_of_lt hi),
      List.getElem?_append_left (by rwa [length_duplicateReferences]),
      getElem?_duplicateReferences]
  · rw [List.getElem?_concat_length, Option.map_some, List.take_left,
      ← length_duplicateReferences rows, List.getElem?_concat_length]
  · rw [List.getElem?_eq_none (by simpa using hi),
      List.getElem?_eq_none (by simpa [length_duplicateReferences] using hi), Option.map_none]

theorem duplicateReferences_isPrefix_append (rows later : List Row) :
    duplicateReferences rows <+: duplicateReferences (rows ++ later) := by
  induction later using List.reverseRecOn with
  | nil => rw [List.append_nil]
  | append_singleton later row ih =>
    rw [← List.append_assoc, duplicateReferences_concat]
    exact ih.trans (List.prefix_append _ _)

/-- Among the first few texts a text has the same first place as among all of them, or none. -/
theorem firstPlace?_take {texts : List String} {text : String} {k : Nat}
    (h : texts.findIdx? (· == text) = some k) (i : Nat) :
    firstPlace? (texts.take i) text = if k < i then some (k + 1) else none := by
  rw [firstPlace?, List.findIdx?_take, h]
  by_cases hi : k < i <;> simp [hi, Option.guard]

/-- Rows with the signature of a given one **refer to the first of them**, and that one refers to
nothing. -/
theorem exists_first_of_getElem? {rows : List Row} {i : Nat} {row : Row}
    (hrow : rows[i]? = some row) :
    ∃ k first, rows[k]? = some first ∧ first.signature = row.signature ∧
      ∀ (j : Nat) (other : Row), rows[j]? = some other → other.signature = row.signature →
        (duplicateReferences rows)[j]? = some (if j = k then none else some (k + 1)) := by
  obtain ⟨k, hk⟩ : ∃ k, (rows.map (·.signature)).findIdx? (· == row.signature) = some k := by
    rw [← Option.isSome_iff_exists, List.findIdx?_isSome, List.any_eq_true]
    exact ⟨_, List.mem_map_of_mem (List.mem_of_getElem? hrow), beq_self_eq_true _⟩
  obtain ⟨hlt, hfirst, hothers⟩ := List.findIdx?_eq_some_iff_getElem.mp hk
  rw [List.length_map] at hlt
  refine ⟨k, rows[k], List.getElem?_eq_getElem hlt, by simpa using hfirst, ?_⟩
  intro j other hother hsignature
  obtain ⟨hj, rfl⟩ := List.getElem?_eq_some_iff.mp hother
  -- no row before the first one has the signature
  have hle : k ≤ j := by
    by_contra hlt'
    exact hothers j (Nat.lt_of_not_le hlt') (by simpa using hsignature)
  rw [getElem?_duplicateReferences, hother, Option.map_some, hsignature, List.map_take,
    firstPlace?_take hk]
  rcases Nat.eq_or_lt_of_le hle with rfl | hlt'
  · rw [if_neg (Nat.lt_irrefl k), if_pos rfl]
  · rw [if_pos hlt', if_neg hlt'.ne']

/-- References of rows that **lead to first rows**. -/
structure LeadsToFirsts (references : List Row → List (Option Nat)) : Prop where
  /-- There is one reference for every row. -/
  length : ∀ rows : List Row, (references rows).length = rows.length
  /-- It leads to the first row before it with the same signature, by a place counted from one, and
  there is none exactly when no row before it has that signature. -/
  firsts : ∀ (rows : List Row) (i : Nat) (row : Row), rows[i]? = some row → ∃ reference,
    (references rows)[i]? = some reference ∧
      ExactReference (fun r s => r.signature = s.signature) (rows.take i) row reference
  /-- A row that is referred to refers to nothing itself. -/
  unmarked : ∀ (rows : List Row) (i place : Nat), (references rows)[i]? = some (some place) →
    ∃ k, place = k + 1 ∧ (references rows)[k]? = some none
  /-- Rows with one signature refer to one row, the first of them. -/
  together : ∀ (rows : List Row) (i : Nat) (row : Row), rows[i]? = some row →
    ∃ k first, rows[k]? = some first ∧ first.signature = row.signature ∧
      ∀ (j : Nat) (other : Row), rows[j]? = some other → other.signature = row.signature →
        (references rows)[j]? = some (if j = k then none else some (k + 1))
  /-- Rows that come later change no reference. -/
  stable : ∀ rows later : List Row, references rows <+: references (rows ++ later)

/-- **The references of rows lead to first rows.** -/
theorem leadsToFirsts_duplicateReferences : LeadsToFirsts duplicateReferences where
  length := length_duplicateReferences
  firsts rows i row hrow := by
    refine ⟨_, ?_, exactReference_firstPlace? (rows.take i) row⟩
    rw [getElem?_duplicateReferences, hrow, Option.map_some]
  unmarked rows i place hplace := by
    obtain ⟨row, hrow⟩ : ∃ row, rows[i]? = some row := by
      rw [getElem?_duplicateReferences] at hplace
      obtain ⟨row, hrow, -⟩ := Option.map_eq_some_iff.mp hplace
      exact ⟨row, hrow⟩
    obtain ⟨k, first, hfirst, hsignature, hrefers⟩ := exists_first_of_getElem? hrow
    have hself := hrefers i row hrow rfl
    have hnone := hrefers k first hfirst hsignature
    rw [if_pos rfl] at hnone
    rw [hplace, Option.some.injEq] at hself
    split at hself
    · cases hself
    · exact ⟨k, Option.some.inj hself, hnone⟩
  together _ _ _ hrow := exists_first_of_getElem? hrow
  stable := duplicateReferences_isPrefix_append

/-! ### Places -/

theorem referencePlaces_append (place : Nat) (references later : List (Option Nat)) :
    referencePlaces place (references ++ later) =
      referencePlaces place references ++
        referencePlaces (place + references.length) later := by
  induction references generalizing place with
  | nil => rfl
  | cons reference references ih =>
    rw [List.length_cons, Nat.add_comm references.length, ← Nat.add_assoc, List.cons_append]
    cases reference <;> simp [referencePlaces, ih]

/-- **One step.** A last row adds its own place if its signature is not new, and nothing
otherwise. -/
theorem duplicateIndices_concat (rows : List Row) (row : Row) :
    duplicateIndices (rows ++ [row]) = duplicateIndices rows ++
      if row.signature ∈ rows.map (·.signature) then [rows.length + 1] else [] := by
  have hnone : firstPlace? (rows.map (·.signature)) row.signature = none ↔
      row.signature ∉ rows.map (·.signature) := by
    rw [firstPlace?, Option.map_eq_none_iff, List.findIdx?_eq_none_iff]
    simp
  rw [duplicateIndices, duplicateReferences_concat, referencePlaces_append,
    length_duplicateReferences, Nat.add_comm 1]
  refine congrArg (duplicateIndices rows ++ ·) ?_
  cases hreference : firstPlace? (rows.map (·.signature)) row.signature with
  | none => rw [if_neg (hnone.mp hreference), referencePlaces, referencePlaces]
  | some first =>
    have hmem : row.signature ∈ rows.map (·.signature) := by
      by_contra hnew
      rw [hnone.mpr hnew] at hreference
      cases hreference
    rw [if_pos hmem, referencePlaces, referencePlaces]

/-- **There are as many repeated rows as rows beyond one for every signature.** -/
theorem length_duplicateIndices_add_card (rows : List Row) :
    (duplicateIndices rows).length + (rows.map (·.signature)).toFinset.card = rows.length := by
  induction rows using List.reverseRecOn with
  | nil => rfl
  | append_singleton rows row ih =>
    rw [duplicateIndices_concat, List.map_append, List.toFinset_append, List.map_singleton,
      List.toFinset_cons, List.toFinset_nil, insert_empty_eq, Finset.union_singleton,
      Finset.card_insert_eq_ite, List.length_append, List.length_append, List.length_singleton]
    simp only [List.mem_toFinset]
    split
    · rw [List.length_singleton]
      omega
    · rw [List.length_nil]
      omega

/-- The places of repeated rows increase. -/
theorem pairwise_duplicateIndices (rows : List Row) :
    (duplicateIndices rows).Pairwise (· < ·) := by
  have hsublist : ∀ (references : List (Option Nat)) (place : Nat),
      (referencePlaces place references).Sublist (List.range' place references.length) := by
    intro references
    induction references with
    | nil => exact fun place => List.Sublist.refl _
    | cons reference references ih =>
      intro place
      rw [List.length_cons, List.range'_succ]
      cases reference with
      | none => exact (ih (place + 1)).cons place
      | some first => exact (ih (place + 1)).cons_cons place
  have hrange : (List.range' 1 (duplicateReferences rows).length).Pairwise (· < ·) :=
    List.pairwise_lt_range'
  exact hrange.sublist (hsublist _ 1)

theorem mem_referencePlaces {place p : Nat} {references : List (Option Nat)} :
    p ∈ referencePlaces place references ↔
      ∃ i first, p = place + i ∧ references[i]? = some (some first) := by
  induction references generalizing place with
  | nil => simp [referencePlaces]
  | cons reference references ih =>
    -- behind the first reference the places are counted from the next one on
    have hrest : (∃ i first, p = place + 1 + i ∧ references[i]? = some (some first)) ↔
        ∃ i first, p = place + (i + 1) ∧ (reference :: references)[i + 1]? = some (some first) := by
      simp only [List.getElem?_cons_succ]
      refine exists_congr fun i => exists_congr fun first => and_congr_left fun _ => ?_
      omega
    have hsplit : (∃ i first, p = place + i ∧
        (reference :: references)[i]? = some (some first)) ↔
          (p = place ∧ ∃ first, reference = some first) ∨
            p ∈ referencePlaces (place + 1) references := by
      rw [ih, hrest]
      constructor
      · rintro ⟨i, first, hp, hi⟩
        cases i with
        | zero => exact .inl ⟨hp, first, by simpa using hi⟩
        | succ i => exact .inr ⟨i, first, hp, hi⟩
      · rintro (⟨hp, first, hfirst⟩ | ⟨i, first, hp, hi⟩)
        · exact ⟨0, first, hp, by simp [hfirst]⟩
        · exact ⟨i + 1, first, hp, hi⟩
    rw [hsplit]
    cases reference <;> simp [referencePlaces]

/-! ### Reports -/

/-- The places of marked verdicts are those of their references, if marks are set together with
references. -/
theorem map_rowIndex_filter_isDuplicate {vs : List RowVerdict} {place : Nat}
    (h : vs.map (·.rowIndex) = List.range' place vs.length)
    (hmarks : ∀ v ∈ vs, v.isDuplicate = v.duplicateOf.isSome) :
    (vs.filter (·.isDuplicate)).map (·.rowIndex) =
      referencePlaces place (vs.map (·.duplicateOf)) := by
  induction vs generalizing place with
  | nil => rfl
  | cons v vs ih =>
    rw [List.map_cons, List.length_cons, List.range'_succ] at h
    obtain ⟨hplace, hrest⟩ := List.cons.inj h
    obtain ⟨hmark, hmarks⟩ := List.forall_mem_cons.mp hmarks
    rw [List.map_cons]
    cases hreference : v.duplicateOf with
    | none =>
      rw [List.filter_cons_of_neg (by simp [hmark, hreference]), ih hrest hmarks, referencePlaces]
    | some first =>
      rw [List.filter_cons_of_pos (by simp [hmark, hreference]), List.map_cons, ih hrest hmarks,
        hplace, referencePlaces]

/-- With the marks switched on, a run marks the repeated rows. -/
theorem map_rowIndex_duplicates_execute {settings : Settings}
    (h : settings.flagDuplicates = true) (d : Dataset) (rules : List Rule) :
    (execute settings d rules).duplicates.map (·.rowIndex) = duplicateIndices d.rows := by
  have hplaces : (verdicts settings d rules).map (·.rowIndex) =
      List.range' 1 (verdicts settings d rules).length := by
    rw [map_rowIndex_verdicts, length_verdicts]
  rw [Execution.duplicates, execute, map_rowIndex_filter_isDuplicate hplaces
    (isDuplicate_of_mem_verdicts settings d rules), map_duplicateOf_verdicts h, duplicateIndices]

/-- The reports on a dataset **agree on its repetitions**. -/
structure Dataset.AgreesOnRepetitions (d : Dataset) : Prop where
  /-- A place is reported when the row there refers to an earlier one. -/
  mem_iff : ∀ place, place ∈ duplicateIndices d.rows ↔
    ∃ i first, place = i + 1 ∧ (duplicateReferences d.rows)[i]? = some (some first)
  /-- The places are reported in increasing order. -/
  increasing : (duplicateIndices d.rows).Pairwise (· < ·)
  /-- Runs with the marks switched on mark the rows at these places. -/
  marked : ∀ (settings : Settings) (rules : List Rule), settings.flagDuplicates = true →
    (execute settings d rules).duplicates.map (·.rowIndex) = duplicateIndices d.rows
  /-- A quick scan lists them. -/
  scanned : (QuickScan.ofDataset d).duplicateRowIndices = duplicateIndices d.rows
  /-- A profile counts them. -/
  counted : (DataProfile.ofDataset d).duplicateRowCount = (duplicateIndices d.rows).length
  /-- With one row for every signature they are all rows. -/
  excess : (duplicateIndices d.rows).length + (d.rows.map (·.signature)).toFinset.card = d.size

theorem Dataset.agreesOnRepetitions (d : Dataset) : d.AgreesOnRepetitions where
  mem_iff place := by
    rw [duplicateIndices, mem_referencePlaces]
    simp only [Nat.add_comm 1]
  increasing := pairwise_duplicateIndices d.rows
  marked _ rules h := map_rowIndex_duplicates_execute h d rules
  scanned := rfl
  counted := rfl
  excess := length_duplicateIndices_add_card d.rows

/-- **Repeated rows are reported exactly, and by all reports alike.** -/
theorem reportsRepetitions :
    LeadsToFirsts duplicateReferences ∧ ∀ d : Dataset, d.AgreesOnRepetitions :=
  ⟨leadsToFirsts_duplicateReferences, Dataset.agreesOnRepetitions⟩

end DataQuality
