import DataQuality.Proofs.Engine.Groups
import DataQuality.Proofs.Engine.RowEvents

/-!
# Cells in the log

Two fields of an event show a cell: the value that a rule on rows observed, and the key in the label
of a group. A long text is cut before it is logged. It keeps its first characters and gets a mark
(`DataQuality.IsCut`), whatever the characters are, since they are counted and never split.

Values are cut. **Labels are not**: the label of a group is made for the messages of the rule, where
its key stands in full, and goes into the log as it is. So the labels of a run are told by the keys
that its rules form (`DataQuality.filterMap_part?_executionEvents`), and they look as if they had
been cut only if every key does (`DataQuality.looksCut_iff`): because it is short, or because it
ends with the mark in the right place.
-/

namespace DataQuality

/-! ### Texts that are cut -/

/-- A text **cut to a number of characters**: as it is if it has no more, and otherwise its first
characters and the mark. -/
structure IsCut (limit : Nat) (text shown : String) : Prop where
  /-- A text that is not longer is not touched. -/
  eq_of_le : text.length ≤ limit → shown = text
  /-- Of a longer one as many characters are kept as allowed. -/
  exists_of_lt : limit < text.length →
    ∃ kept rest, text = kept ++ rest ∧ kept.length = limit ∧ shown = kept ++ truncationMark

theorem isCut_truncate (limit : Nat) (text : String) : IsCut limit text (truncate limit text) where
  eq_of_le h := by
    rw [truncate, if_pos (by rwa [String.length_toList])]
  exists_of_lt h := by
    refine ⟨String.ofList (text.toList.take limit), String.ofList (text.toList.drop limit), ?_, ?_,
      ?_⟩
    · rw [← String.ofList_append, List.take_append_drop, String.ofList_toList]
    · rw [String.length_ofList, List.length_take, String.length_toList]
      omega
    · rw [truncate, if_neg (by rw [String.length_toList]; omega)]

/-- **There is one cut of a text.** -/
theorem IsCut.unique {limit : Nat} {text s t : String} (hs : IsCut limit text s)
    (ht : IsCut limit text t) : s = t := by
  rcases Nat.lt_or_ge limit text.length with hlt | hle
  · obtain ⟨kept, rest, rfl, hlength, rfl⟩ := hs.exists_of_lt hlt
    obtain ⟨kept', rest', heq, hlength', rfl⟩ := ht.exists_of_lt hlt
    have hkept : kept.toList = kept'.toList := by
      rw [← String.toList_inj, String.toList_append, String.toList_append] at heq
      refine List.append_inj_left heq ?_
      rw [String.length_toList, String.length_toList, hlength, hlength']
    rw [String.toList_inj.mp hkept]
  · rw [hs.eq_of_le hle, ht.eq_of_le hle]

/-- A text **looks as if it had been cut** if it is short enough, or as long as the number of
characters allows and the mark together, and ends with the mark. -/
def LooksCut (limit : Nat) (text : String) : Prop :=
  text.length ≤ limit ∨ ∃ kept, kept.length = limit ∧ text = kept ++ truncationMark

/-- A text is its own cut exactly if it looks like one. -/
theorem looksCut_iff {limit : Nat} {text : String} :
    LooksCut limit text ↔ text = truncate limit text := by
  constructor
  · rintro (hle | ⟨kept, hlength, rfl⟩)
    · exact ((isCut_truncate limit text).eq_of_le hle).symm
    · -- what is kept of this text is what stands before its mark
      have hself : IsCut limit (kept ++ truncationMark) (kept ++ truncationMark) :=
        ⟨fun _ => rfl, fun _ => ⟨kept, truncationMark, rfl, hlength, rfl⟩⟩
      exact hself.unique (isCut_truncate limit _)
  · intro h
    rcases Nat.lt_or_ge limit text.length with hlt | hle
    · obtain ⟨kept, -, -, hlength, hshown⟩ := (isCut_truncate limit text).exists_of_lt hlt
      exact .inr ⟨kept, hlength, h.trans hshown⟩
    · exact .inl hle

/-! ### Values -/

namespace RowCheck

/-- What a rule on rows observes of a single column, if it reads no cell as zero, is the cell. -/
theorem target_eq_cell {c : RowCheck} {name : String} (hmode : c.body.targetMode = .sum)
    (hcolumn : columnNames c.body.column = [name]) (hread : c.body.emptyAsZero = false)
    (row : Row) : c.target row = row.cell name := by
  rw [target, read, hmode, hread, Bool.false_and, if_neg Bool.false_ne_true, Operand.ofColumns,
    hcolumn]

/-- A check that judges a row leaves an evaluation of what it observed, and shows its cut. -/
theorem observed_of_event?_eq {c : RowCheck} {settings : Settings} {place place' : Nat} {row : Row}
    {id : UInt64} {passed : Bool} {shown : String}
    (h : c.event? settings place (c.outcome row) = some (.rowJudged place' id passed shown)) :
    place' = place ∧ c.rule.id = id ∧
      c.evaluation? settings.missing (c.outcome row) =
        some ⟨id, c.rule.description, passed, c.target row⟩ ∧
      IsCut settings.log.maxFieldLength (c.target row).display shown := by
  rw [outcome] at h ⊢
  cases hmissing : c.missing? row with
  | none =>
    rw [hmissing] at h
    obtain ⟨rfl, rfl, rfl, rfl⟩ := Event.rowJudged.inj (Option.some.inj h)
    exact ⟨rfl, rfl, rfl, isCut_truncate _ _⟩
  | some column =>
    rw [hmissing, event?] at h
    split at h
    · exact absurd (Option.some.inj h) Event.noConfusion
    · exact absurd h (Option.some_ne_none _).symm

end RowCheck

/-- A value in the log of a run is one that a check observed in a row. -/
theorem exists_of_rowJudged_mem_executionEvents {settings : Settings} {d : Dataset}
    {rules : List Rule} {place : Nat} {id : UInt64} {passed : Bool} {shown : String}
    (h : .rowJudged place id passed shown ∈ executionEvents settings d rules) :
    ∃ i row, d.rows[i]? = some row ∧ ∃ c ∈ RowCheck.ofRules d rules,
      c.event? settings (1 + i) (c.outcome row) = some (.rowJudged place id passed shown) := by
  have hrow := List.mem_filter.mpr ⟨h, (rfl : Event.isRowOutcome _ = true)⟩
  rw [filter_isRowOutcome_executionEvents, rowsEvents_eq_filterMap] at hrow
  split at hrow
  · obtain ⟨t, ht, hevent⟩ := List.mem_filterMap.mp hrow
    obtain ⟨⟨row, place'⟩, hplace, c, hc, rfl⟩ := (mem_flatten_trails settings d rules).mp ht
    obtain ⟨hle, hget⟩ := List.mk_mem_zipIdx_iff_le_and_getElem?_sub.mp hplace
    refine ⟨place' - 1, row, hget, c, hc, ?_⟩
    rw [Nat.add_sub_cancel' hle]
    exact hevent
  · exact absurd hrow List.not_mem_nil

/-! ### Labels -/

/-- The label of the part that an outcome is about. -/
def GroupOutcome.label : GroupOutcome → String
  | .skipped label => label
  | .judged label _ _ _ => label

namespace AggregateRule

variable {r : AggregateRule} {d : Dataset}

theorem part?_event (id : UInt64) (o : GroupOutcome) : (event id o).part? = some (id, o.label) := by
  cases o <;> rfl

theorem label_outcome (kind : AggregationKind) (comparator : Comparator) (tolerance : Float)
    (part : Part) : (r.outcome kind comparator tolerance part).label = part.label := by
  rw [outcome]
  cases r.target? kind part.rows <;> rfl

/-- A rule **forms groups** by a column if its operator is recognized and the dataset declares the
column. -/
def FormsGroups (r : AggregateRule) (d : Dataset) (column : String) : Prop :=
  r.operator.isKnown = true ∧ r.groupColumn? = some column ∧ d.hasColumn column = true

/-- The **labels** of the parts that a rule judges, when keys are written in some way: one for each
key that the rows carry, or one for the whole dataset. -/
def labels (r : AggregateRule) (d : Dataset) (keyText : String → String) : List String :=
  match r.operator with
  | .unknown _ => []
  | .compare _ _ =>
    match r.groupColumn? with
    | none => [globalLabel]
    | some column =>
      if d.hasColumn column then
        (keysOf column d.rows).map fun key => groupLabel column (keyText key)
      else [globalLabel]

/-- **The parts of a rule are labelled with their keys**, which are written in full. -/
theorem map_label_outcomes (tolerance : Float) :
    (r.outcomes d tolerance).map (·.label) = r.labels d fun key => key := by
  rw [outcomes, labels]
  cases r.operator with
  | unknown name => rfl
  | compare kind comparator =>
    have hlabel : ∀ ps : List Part, (ps.map (r.outcome kind comparator tolerance)).map (·.label) =
        ps.map (·.label) := by
      intro ps
      rw [List.map_map]
      exact List.map_congr_left fun part _ => label_outcome kind comparator tolerance part
    rw [hlabel, parts]
    cases r.groupColumn? with
    | none => rfl
    | some column =>
      dsimp only
      split
      · rw [groupsOf_eq, List.map_map, List.map_map]
        rfl
      · rfl

section Labels

variable {column : String} {f g : String → String}

theorem labels_of_formsGroups (h : r.FormsGroups d column) :
    r.labels d f = (keysOf column d.rows).map fun key => groupLabel column (f key) := by
  obtain ⟨hknown, hgroup, hcolumn⟩ := h
  rw [labels]
  cases hoperator : r.operator with
  | unknown name =>
    rw [hoperator] at hknown
    exact absurd hknown Bool.false_ne_true
  | compare kind comparator =>
    simp only [hgroup, hcolumn, if_true]

/-- A rule that forms no groups has no keys to write. -/
theorem labels_congr (h : ∀ column, ¬r.FormsGroups d column) : r.labels d f = r.labels d g := by
  rw [labels, labels]
  cases hoperator : r.operator with
  | unknown name => rfl
  | compare kind comparator =>
    cases hgroup : r.groupColumn? with
    | none => rfl
    | some column =>
      have hcolumn : d.hasColumn column = false := by
        rw [← Bool.not_eq_true]
        exact fun hcolumn => h column ⟨by rw [hoperator]; rfl, hgroup, hcolumn⟩
      simp only [hcolumn, if_neg Bool.false_ne_true]

theorem length_labels_eq : (r.labels d f).length = (r.labels d g).length := by
  by_cases h : ∃ column, r.FormsGroups d column
  · obtain ⟨column, h⟩ := h
    rw [labels_of_formsGroups h, labels_of_formsGroups h, List.length_map, List.length_map]
  · rw [labels_congr (not_exists.mp h)]

/-- Two ways of writing keys give **the same labels** exactly if they write the keys of all groups
alike. -/
theorem labels_eq_iff : r.labels d f = r.labels d g ↔
    ∀ column, r.FormsGroups d column → ∀ row ∈ d.rows, f (row.key column) = g (row.key column) := by
  by_cases h : ∃ column, r.FormsGroups d column
  · obtain ⟨column, h⟩ := h
    rw [labels_of_formsGroups h, labels_of_formsGroups h, List.map_inj_left]
    constructor
    · intro heq column' h' row hrow
      -- a rule has one grouping column
      obtain rfl : column' = column := Option.some.inj (h'.2.1.symm.trans h.2.1)
      exact (String.append_right_inj _).mp (heq _ ((mem_keysOf column').mpr ⟨row, hrow, rfl⟩))
    · intro heq key hkey
      obtain ⟨row, hrow, rfl⟩ := (mem_keysOf column).mp hkey
      rw [heq column h row hrow]
  · have hnone := not_exists.mp h
    exact iff_of_true (labels_congr hnone) fun column h => absurd h (hnone column)

end Labels

end AggregateRule

namespace Rule

/-- The labels of a rule, each with the identity of the rule; a rule on rows has none. -/
def labels (d : Dataset) (keyText : String → String) (rule : Rule) : List (UInt64 × String) :=
  match rule.body with
  | .row _ => []
  | .aggregate body => (body.labels d keyText).map fun label => (rule.id, label)

/-- A rule **forms groups** by a column if it is a rule on totals that does. -/
def FormsGroups (d : Dataset) (column : String) (rule : Rule) : Prop :=
  ∃ body, rule.body = .aggregate body ∧ body.FormsGroups d column

variable {d : Dataset} {rule : Rule} {f g : String → String}

theorem length_labels_eq : (rule.labels d f).length = (rule.labels d g).length := by
  unfold labels
  split
  · rfl
  · rw [List.length_map, List.length_map]
    exact AggregateRule.length_labels_eq

theorem labels_eq_iff : rule.labels d f = rule.labels d g ↔
    ∀ column, rule.FormsGroups d column →
      ∀ row ∈ d.rows, f (row.key column) = g (row.key column) := by
  unfold labels FormsGroups
  cases rule.body with
  | row body => simp
  | aggregate body =>
    have hinjective : Function.Injective fun label : String => (rule.id, label) := fun _ _ heq =>
      congrArg Prod.snd heq
    rw [(List.map_injective_iff.mpr hinjective).eq_iff, AggregateRule.labels_eq_iff]
    simp

end Rule

/-! ### The labels of a run -/

section Runs

variable (settings : Settings) (d : Dataset) (rules : List Rule)

/-- A rule on totals logs the labels of its parts. -/
theorem AggregateRule.filterMap_part?_events (r : AggregateRule) (id : UInt64) :
    (r.events d settings id).filterMap (·.part?) =
      if settings.log.ruleDetails then
        (r.labels d fun key => key).map fun label => (id, label)
      else [] := by
  have hwarnings : (r.warnings d id).filterMap (·.part?) = [] :=
    List.filterMap_eq_nil_iff.mpr fun e he =>
      Event.part?_of_level_ne (by rw [level_of_mem_warnings he]; decide)
  rw [events, List.filterMap_append, hwarnings, List.nil_append]
  split
  · rw [← map_label_outcomes settings.tolerance, List.filterMap_map, List.map_map,
      ← List.filterMap_eq_map]
    exact List.filterMap_congr fun o _ => part?_event id o
  · rfl

theorem filterMap_part?_globalEvents : (globalEvents settings d rules).filterMap (·.part?) =
    if settings.log.ruleDetails then rules.flatMap (Rule.labels d fun key => key) else [] := by
  rw [globalEvents, List.filterMap_flatMap]
  split
  · next hdetails =>
    refine List.flatMap_congr fun rule _ => ?_
    unfold Rule.labels
    cases rule.body with
    | row body => rfl
    | aggregate body =>
      exact (body.filterMap_part?_events settings d rule.id).trans (if_pos hdetails)
  · next hdetails =>
    refine List.flatMap_eq_nil_iff.mpr fun rule _ => ?_
    cases rule.body with
    | row body => rfl
    | aggregate body =>
      exact (body.filterMap_part?_events settings d rule.id).trans (if_neg hdetails)

/-- **The labels of a run** are those of its rules on totals, in rule order, with their keys in
full. -/
theorem filterMap_part?_executionEvents :
    (executionEvents settings d rules).filterMap (·.part?) =
      if settings.log.ruleDetails then rules.flatMap (Rule.labels d fun key => key) else [] := by
  have hchecks : ((RowCheck.ofRules d rules).flatMap
      (RowCheck.warnings d settings.missing)).filterMap (·.part?) = [] :=
    List.filterMap_eq_nil_iff.mpr fun e he =>
      Event.part?_of_level_ne (by rw [RowCheck.level_of_mem_flatMap_warnings he]; decide)
  have hrows : (rowsEvents settings (RowCheck.ofRules d rules) 1 d.rows).filterMap (·.part?) = [] :=
    List.filterMap_eq_nil_iff.mpr fun e he =>
      Event.part?_of_isRowOutcome (isRowOutcome_of_mem_rowsEvents he)
  rw [filterMap_executionEvents, filterMap_part?_globalEvents, hchecks, hrows, List.append_nil,
    List.append_nil]
  exact List.append_nil _

end Runs

/-- Lists of equal lengths, one behind the other, are the same exactly if each of them is. -/
theorem flatMap_eq_iff_of_length {α β : Type} {f g : α → List β} {as : List α}
    (h : ∀ a ∈ as, (f a).length = (g a).length) :
    as.flatMap f = as.flatMap g ↔ ∀ a ∈ as, f a = g a := by
  refine ⟨fun heq => ?_, List.flatMap_congr⟩
  induction as with
  | nil => exact fun a ha => absurd ha List.not_mem_nil
  | cons a as ih =>
    rw [List.flatMap_cons, List.flatMap_cons] at heq
    obtain ⟨hhead, htail⟩ := List.append_inj heq (h a List.mem_cons_self)
    rw [List.forall_mem_cons]
    exact ⟨hhead, ih (fun b hb => h b (List.mem_cons_of_mem a hb)) htail⟩

/-! ### Cells in the log of a run -/

/-- What a run with some log settings **shows of cells**. -/
structure ShowsCells (settings : Settings) (d : Dataset) (rules : List Rule) (e : Execution)
    (events : List Event) : Prop where
  /-- A value is the cut of what a rule observed in a row, and of an evaluation there. -/
  values : ∀ place id passed shown, .rowJudged place id passed shown ∈ events →
    ∃ i row, place = 1 + i ∧ d.rows[i]? = some row ∧ ∃ c ∈ RowCheck.ofRules d rules,
      c.rule.id = id ∧ ⟨id, c.rule.description, passed, c.target row⟩ ∈ e.evaluationsAt i ∧
        IsCut settings.log.maxFieldLength (c.target row).display shown
  /-- What a rule observes is the cell of its column, if it has one and reads no cell as zero. -/
  target_eq_cell : ∀ c ∈ RowCheck.ofRules d rules, ∀ name, c.body.targetMode = .sum →
    columnNames c.body.column = [name] → c.body.emptyAsZero = false →
      ∀ row, c.target row = row.cell name
  /-- A key is the displayed text of a cell, and empty if the row has none. -/
  key_eq : ∀ (row : Row) column, row.key column = (row.get? column).elim "" Cell.display
  /-- The labels show their keys in full. -/
  labels : settings.log.ruleDetails = true →
    events.filterMap (·.part?) = rules.flatMap (Rule.labels d fun key => key)
  /-- So they are labels with cut keys exactly if all keys look cut, which form groups. -/
  labels_cut_iff : settings.log.ruleDetails = true →
    (events.filterMap (·.part?) =
        rules.flatMap (Rule.labels d (truncate settings.log.maxFieldLength)) ↔
      ∀ rule ∈ rules, ∀ column, rule.FormsGroups d column →
        ∀ row ∈ d.rows, LooksCut settings.log.maxFieldLength (row.key column))

/-- **Values in the log are cut, and keys in labels are not.** For every dataset, all rules and all
settings, the value in an outcome on a row is the cut of what was observed there; and the labels of
groups show whole keys, so that the limit holds of them only where no key is too long. -/
theorem showsCells_executionEvents (settings : Settings) (d : Dataset) (rules : List Rule) :
    ShowsCells settings d rules (execute settings d rules) (executionEvents settings d rules) where
  values place id passed shown h := by
    obtain ⟨i, row, hrow, c, hc, hevent⟩ := exists_of_rowJudged_mem_executionEvents h
    obtain ⟨hplace, hid, hevaluation, hcut⟩ := RowCheck.observed_of_event?_eq hevent
    refine ⟨i, row, hplace, hrow, c, hc, hid, ?_, hcut⟩
    rw [evaluationsAt_execute, hrow]
    exact List.mem_filterMap.mpr ⟨c, hc, hevaluation⟩
  target_eq_cell _ _ _ := RowCheck.target_eq_cell
  key_eq := Row.key_eq
  labels hdetails := by rw [filterMap_part?_executionEvents, if_pos hdetails]
  labels_cut_iff hdetails := by
    rw [filterMap_part?_executionEvents, if_pos hdetails,
      flatMap_eq_iff_of_length fun _ _ => Rule.length_labels_eq]
    simp only [Rule.labels_eq_iff, looksCut_iff]

/-- A rule on the totals of **plots**. -/
def plotRule : Rule :=
  ⟨1, none, none, .aggregate ⟨"v", .compare .sum .gt, "1", false, none, some "plot", false,
    .perGroup⟩⟩

/-- A sheet with one plot. -/
def plotSheet : Dataset :=
  ⟨[⟨"plot", .text⟩, ⟨"v", .number⟩], [.ofFields [("plot", .text "meadow"), ("v", .number 5)]]⟩

/-- Where three characters of a cell are shown, that key has six in the log. -/
theorem executionEvents_plotSheet :
    (executionEvents { Settings.default with log := ⟨true, false, 3⟩ } plotSheet
        [plotRule]).filterMap (·.part?) = [(1, "plot=meadow")] ∧
      IsCut 3 "meadow" "mea...(truncated)" ∧ ¬IsCut 3 "meadow" "meadow" := by
  have hcut : IsCut 3 "meadow" "mea...(truncated)" := isCut_truncate 3 "meadow"
  refine ⟨?_, hcut, fun h => absurd (h.unique hcut) (by decide)⟩
  rw [filterMap_part?_executionEvents]
  rfl

end DataQuality
