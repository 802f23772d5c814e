import DataQuality.Engine.Run
import DataQuality.Proofs.Engine.Consistency
import DataQuality.Proofs.Row.Signature

/-!
# Which rows are marked as repeated

With the marks switched on, every row refers to the first row before it that **shows** the same,
and to none when no earlier row does (`DataQuality.RowVerdict.duplicateOf_exact`). Rows that show
the same are alike, and alike rows show the same, as long as their numbers are finite and no zero
has a sign (`DataQuality.Row.alike_iff_shown_eq`). Beyond that the two part: an infinity shows like
nothing, and a negative zero is alike to a zero but does not show like one.

The pass over the rows remembers the first place of every signature. What is remembered is
determined by the rows already passed (`DataQuality.Remembers`), and this is the invariant of the
pass.
-/

namespace DataQuality

/-! ### The pass over the signatures -/

/-- The place, counted from one, at which a text first occurs. -/
def firstPlace? (texts : List String) (text : String) : Option Nat :=
  (texts.findIdx? (· == text)).map (· + 1)

theorem firstPlace?_concat (texts : List String) (last text : String) :
    firstPlace? (texts ++ [last]) text =
      (firstPlace? texts text).or (if last = text then some (texts.length + 1) else none) := by
  rw [firstPlace?, firstPlace?, List.findIdx?_append, List.findIdx?_singleton]
  cases texts.findIdx? (· == text) with
  | some k => rfl
  | none => by_cases h : last = text <;> simp [h]

/-- What the pass **remembers** after some signatures: the first place of each of them. -/
def Remembers (seen : FirstPlaces) (past : List String) : Prop :=
  ∀ text, seen.lookup text = firstPlace? past text

theorem remembers_nil : Remembers [] [] := fun _ => rfl

/-- A signature that was seen before is not remembered again. -/
theorem Remembers.concat_of_some {seen : FirstPlaces} {past : List String} {last : String}
    {first : Nat} (h : Remembers seen past) (hlast : seen.lookup last = some first) :
    Remembers seen (past ++ [last]) := by
  intro text
  rw [firstPlace?_concat, ← h text]
  by_cases heq : last = text
  · rw [← heq, hlast, Option.some_or]
  · rw [if_neg heq, Option.or_none]

/-- A new signature is remembered with its place. -/
theorem Remembers.concat_of_none {seen : FirstPlaces} {past : List String} {last : String}
    (h : Remembers seen past) (hlast : seen.lookup last = none) :
    Remembers ((last, past.length + 1) :: seen) (past ++ [last]) := by
  intro text
  rw [firstPlace?_concat, ← h text, List.lookup_cons]
  by_cases heq : last = text
  · rw [← heq, hlast, beq_self_eq_true, if_pos rfl, Option.none_or]
  · rw [if_neg heq, Option.or_none, beq_false_of_ne (Ne.symm heq)]

/-- **Every reference is the first place of the signature** among the signatures before it. -/
theorem getElem?_referencesFrom {seen : FirstPlaces} {past : List String}
    (h : Remembers seen past) (rest : List String) (i : Nat) :
    (referencesFrom seen (past.length + 1) rest)[i]? =
      rest[i]?.map fun text => firstPlace? (past ++ rest.take i) text := by
  induction rest generalizing seen past i with
  | nil => simp [referencesFrom]
  | cons s rest ih =>
    -- behind the first signature, whatever is remembered of it, the induction goes on
    have hlater : ∀ {seen' : FirstPlaces}, Remembers seen' (past ++ [s]) → ∀ k : Nat,
        (referencesFrom seen' (past.length + 1 + 1) rest)[k]? =
          (s :: rest)[k + 1]?.map fun text =>
            firstPlace? (past ++ (s :: rest).take (k + 1)) text := by
      intro seen' hseen' k
      have hk := ih hseen' k
      simpa using hk
    cases hlookup : seen.lookup s with
    | some first =>
      cases i with
      | zero => simp [referencesFrom, hlookup, ← h s]
      | succ k =>
        have hk := hlater (h.concat_of_some hlookup) k
        simpa [referencesFrom, hlookup] using hk
    | none =>
      cases i with
      | zero => simp [referencesFrom, hlookup, ← h s]
      | succ k =>
        have hk := hlater (h.concat_of_none hlookup) k
        simpa [referencesFrom, hlookup] using hk

/-! ### Exact references -/

/-- A reference is **exact** for a row behind some others: it leads to the first row before it that
is the same, by a place counted from one, and there is none exactly when no row before it is the
same. -/
structure ExactReference (same : Row → Row → Prop) (earlier : List Row) (row : Row)
    (reference : Option Nat) : Prop where
  /-- A reference leads to the first one of the same rows. -/
  some_iff : ∀ place, reference = some place ↔ ∃ k first, place = k + 1 ∧
    earlier[k]? = some first ∧ same first row ∧
      ∀ l < k, ∀ other, earlier[l]? = some other → ¬ same other row
  /-- Without a reference there is no such row. -/
  none_iff : reference = none ↔ ∀ other ∈ earlier, ¬ same other row

/-- Exactness depends on the notion of sameness for the rows in question only. -/
theorem ExactReference.congr {same same' : Row → Row → Prop} {earlier : List Row} {row : Row}
    {reference : Option Nat} (h : ExactReference same earlier row reference)
    (hsame : ∀ other ∈ earlier, same other row ↔ same' other row) :
    ExactReference same' earlier row reference := by
  constructor
  · intro place
    rw [h.some_iff]
    refine exists_congr fun k => exists_congr fun first => and_congr_right fun _ =>
      and_congr_right fun hfirst => and_congr (hsame first (List.mem_of_getElem? hfirst)) ?_
    refine forall_congr' fun l => imp_congr_right fun _ => forall_congr' fun other =>
      imp_congr_right fun hother => not_congr (hsame other (List.mem_of_getElem? hother))
  · rw [h.none_iff]
    exact forall_congr' fun other => imp_congr_right fun hother => not_congr (hsame other hother)

theorem exactReference_firstPlace? (earlier : List Row) (row : Row) :
    ExactReference (fun r s => r.signature = s.signature) earlier row
      (firstPlace? (earlier.map (·.signature)) row.signature) := by
  constructor
  · intro place
    rw [firstPlace?, Option.map_eq_some_iff]
    constructor
    · rintro ⟨k, hk, rfl⟩
      obtain ⟨hlt, hfirst, hothers⟩ := List.findIdx?_eq_some_iff_getElem.mp hk
      rw [List.length_map] at hlt
      refine ⟨k, earlier[k], rfl, List.getElem?_eq_getElem hlt, by simpa using hfirst, ?_⟩
      intro l hl other hother heq
      obtain ⟨hlt', rfl⟩ := List.getElem?_eq_some_iff.mp hother
      exact hothers l hl (by simpa using heq)
    · rintro ⟨k, first, rfl, hfirst, hsame, hothers⟩
      obtain ⟨hlt, rfl⟩ := List.getElem?_eq_some_iff.mp hfirst
      have hk : (earlier.map (·.signature))[k]? = some row.signature := by simp [hlt, hsame]
      obtain ⟨hlt', hget⟩ := List.getElem?_eq_some_iff.mp hk
      refine ⟨k, List.findIdx?_eq_some_iff_getElem.mpr ⟨hlt', by simp [hget], ?_⟩, rfl⟩
      intro l hl
      have hother := hothers l hl _ (List.getElem?_eq_getElem (by omega))
      simpa using hother
  · rw [firstPlace?, Option.map_eq_none_iff, List.findIdx?_eq_none_iff]
    simp

/-- **The references of all rows are exact** for what the rows show. -/
theorem exact_duplicateReferences (rows : List Row) (i : Nat) {row : Row}
    (h : rows[i]? = some row) :
    ∃ reference, (duplicateReferences rows)[i]? = some reference ∧
      ExactReference (fun r s => r.shown = s.shown) (rows.take i) row reference := by
  refine ⟨firstPlace? ((rows.take i).map (·.signature)) row.signature, ?_, ?_⟩
  · have hget := getElem?_referencesFrom remembers_nil (rows.map (·.signature)) i
    simpa [duplicateReferences, h, List.map_take] using hget
  · exact (exactReference_firstPlace? _ _).congr fun _ _ => Row.signature_eq_iff

/-! ### Alike rows -/

/-- A **plain** cell: if it is a number, then a finite one, and no negative zero. -/
def Cell.isPlain : Cell → Bool
  | .number x => x.isFinite && decide (x ≠ -0)
  | .null => true
  | .bool _ => true
  | .text _ => true

theorem Cell.isFinite_of_isPlain {c : Cell} (h : c.isPlain = true) : c.isFinite = true := by
  cases c with
  | number x =>
    rw [Cell.isPlain, Bool.and_eq_true] at h
    exact h.1
  | _ => rfl

/-- Finite floats that are no negative zeros are equal by value only when they are equal. -/
theorem beq_iff_eq_of_finite {x y : Float} (hx : x.isFinite = true) (hxzero : x ≠ -0)
    (hy : y.isFinite = true) (hyzero : y ≠ -0) : (x == y) = true ↔ x = y := by
  have hnan : ∀ z : Float, z.isFinite = true → z ≠ Float.nan := by
    rintro z hz rfl
    exact absurd hz (by decide)
  rw [Float.beq_iff_ne_nan_and_eq]
  constructor
  · rintro ⟨-, -, heq | ⟨-, hzero⟩ | ⟨hzero, -⟩⟩
    · exact heq
    · exact absurd hzero hyzero
    · exact absurd hzero hxzero
  · exact fun heq => ⟨hnan x hx, hnan y hy, .inl heq⟩

/-- **Plain cells are alike only when they are equal.** -/
theorem Cell.alike_iff_of_isPlain {c d : Cell} (hc : c.isPlain = true) (hd : d.isPlain = true) :
    c.alike d = true ↔ c = d := by
  cases c with
  | number x =>
    cases d with
    | number y =>
      simp only [Cell.isPlain, Bool.and_eq_true, decide_eq_true_eq] at hc hd
      rw [Cell.alike, beq_iff_eq_of_finite hc.1 hc.2 hd.1 hd.2, Cell.number.injEq]
    | _ => simp [Cell.alike]
  | _ => cases d <;> simp [Cell.alike]

namespace Row

/-- A row of **plain** cells. -/
def IsPlain (r : Row) : Prop := ∀ f ∈ r.fields, f.2.isPlain = true

instance (r : Row) : Decidable r.IsPlain :=
  inferInstanceAs (Decidable (∀ f ∈ r.fields, f.2.isPlain = true))

theorem IsPlain.isFinite {r : Row} (h : r.IsPlain) : r.IsFinite :=
  fun f hf => Cell.isFinite_of_isPlain (h f hf)

theorem fieldsAlike_iff_of_isPlain {fs gs : List Field} (hfs : ∀ f ∈ fs, f.2.isPlain = true)
    (hgs : ∀ g ∈ gs, g.2.isPlain = true) : fieldsAlike fs gs = true ↔ fs = gs := by
  induction fs generalizing gs with
  | nil => cases gs <;> simp [fieldsAlike]
  | cons f fs ih =>
    cases gs with
    | nil => simp [fieldsAlike]
    | cons g gs =>
      have hcell := Cell.alike_iff_of_isPlain (hfs f List.mem_cons_self) (hgs g List.mem_cons_self)
      have hrest := @ih gs (fun f' hf' => hfs f' (List.mem_cons_of_mem f hf'))
        (fun g' hg' => hgs g' (List.mem_cons_of_mem g hg'))
      rw [fieldsAlike, Bool.and_eq_true, Bool.and_eq_true, beq_iff_eq, hcell, hrest,
        List.cons.injEq, Prod.ext_iff]

/-- **Plain rows are alike exactly when they show the same.** -/
theorem alike_iff_shown_eq {r s : Row} (hr : r.IsPlain) (hs : s.IsPlain) :
    r.alike s = true ↔ r.shown = s.shown := by
  rw [alike, fieldsAlike_iff_of_isPlain hr hs, shown_of_isFinite hr.isFinite,
    shown_of_isFinite hs.isFinite]

end Row

/-! ### The marks of a run -/

theorem map_duplicateOf_markDuplicates {verdicts : List RowVerdict}
    {references : List (Option Nat)} (h : verdicts.length = references.length) :
    (markDuplicates verdicts references).map (·.duplicateOf) = references := by
  induction verdicts generalizing references with
  | nil => exact (List.length_eq_zero_iff.mp h.symm).symm
  | cons v verdicts ih =>
    cases references with
    | nil => simp at h
    | cons reference references =>
      have hlength : verdicts.length = references.length := by simpa using h
      simpa [markDuplicates] using ih hlength

/-- With the marks switched on, the verdicts carry the references of the rows. -/
theorem map_duplicateOf_verdicts {settings : Settings} (h : settings.flagDuplicates = true)
    (d : Dataset) (rules : List Rule) :
    (verdicts settings d rules).map (·.duplicateOf) = duplicateReferences d.rows := by
  rw [verdicts, if_pos h, map_duplicateOf_markDuplicates]
  rw [length_rowVerdicts, length_duplicateReferences]

/-- **Repeated rows are marked exactly**: every row refers to the first row before it that shows the
same; and as long as the rows up to there are plain, to the first row before it that is alike. A row
is marked if it refers to one. -/
theorem RowVerdict.duplicateOf_exact {settings : Settings} (hmarks : settings.flagDuplicates = true)
    (d : Dataset) (rules : List Rule) {i : Nat} {row : Row} (hrow : d.rows[i]? = some row) :
    ∃ v, (execute settings d rules).results[i]? = some v ∧
      v.isDuplicate = v.duplicateOf.isSome ∧
      ExactReference (fun r s => r.shown = s.shown) (d.rows.take i) row v.duplicateOf ∧
      ((∀ r ∈ d.rows.take (i + 1), r.IsPlain) →
        ExactReference (fun r s => r.alike s = true) (d.rows.take i) row v.duplicateOf) := by
  obtain ⟨reference, hreference, hexact⟩ := exact_duplicateReferences d.rows i hrow
  rw [← map_duplicateOf_verdicts hmarks d rules, List.getElem?_map,
    Option.map_eq_some_iff] at hreference
  obtain ⟨v, hv, rfl⟩ := hreference
  have hmark := isDuplicate_of_mem_verdicts settings d rules v (List.mem_of_getElem? hv)
  refine ⟨v, hv, hmark, hexact, fun hplain => hexact.congr fun other hother => ?_⟩
  have hother : other ∈ d.rows.take (i + 1) :=
    (List.take_sublist_take_left (Nat.le_succ i)).mem hother
  have hself : row ∈ d.rows.take (i + 1) := by
    rw [List.take_add_one, hrow]
    simp
  exact (Row.alike_iff_shown_eq (hplain other hother) (hplain row hself)).symm

/-- A table of plain rows, the last of which repeats the first one; the row between them holds a
text where the others hold a number. -/
def repetitiveTable : Dataset where
  columns := [⟨"v", .number⟩]
  rows := [.ofFields [("v", .number 1.5)], .ofFields [("v", .text "1.5")],
    .ofFields [("v", .number 1.5)]]

theorem RowVerdict.duplicateOf_exact_repetitiveTable :
    Settings.default.flagDuplicates = true ∧
      repetitiveTable.rows[2]? = some (.ofFields [("v", .number 1.5)]) ∧
      (∀ r ∈ repetitiveTable.rows.take 3, r.IsPlain) ∧
      ∃ v, (execute .default repetitiveTable []).results[2]? = some v ∧
        v.isDuplicate = true ∧ v.duplicateOf = some 1 := by
  have hrow : repetitiveTable.rows[2]? = some (.ofFields [("v", .number 1.5)]) := rfl
  have hplain : ∀ r ∈ repetitiveTable.rows.take 3, r.IsPlain := by decide
  obtain ⟨v, hv, hmark, -, hexact⟩ :=
    @RowVerdict.duplicateOf_exact .default rfl repetitiveTable [] 2 _ hrow
  have hreference : v.duplicateOf = some 1 := ((hexact hplain).some_iff 1).mpr
    ⟨0, .ofFields [("v", .number 1.5)], rfl, rfl, by decide, fun l hl => absurd hl (by omega)⟩
  exact ⟨rfl, hrow, hplain, v, hv, by rw [hmark, hreference, Option.isSome_some], hreference⟩

/-- A table in which nothing and what is not a number **show the same without being alike**, and two
zeros are alike without showing the same. -/
def deceptiveTable : Dataset where
  columns := [⟨"v", .number⟩]
  rows := [.ofFields [("v", .null)], .ofFields [("v", .number (0.0 / 0.0))],
    .ofFields [("v", .number 0.0)], .ofFields [("v", .number (-0.0))]]

theorem RowVerdict.duplicateOf_deceptiveTable :
    (execute .default deceptiveTable []).results.map (·.duplicateOf) = [none, some 1, none, none] ∧
      deceptiveTable.rows[0].alike deceptiveTable.rows[1] = false ∧
      deceptiveTable.rows[2].alike deceptiveTable.rows[3] = true := by
  refine ⟨?_, by decide, by decide⟩
  rw [execute, map_duplicateOf_verdicts rfl]
  decide +kernel

end DataQuality
