import DataQuality.Rule.Set
import DataQuality.Proofs.Json.Word
import DataQuality.Proofs.Rule.Operators

/-!
# Saved rule sets

A rule set is saved as a JSON text and loaded from it. Loading never fails on such a text, and gives
the rule set with the operators read anew from their identifiers
(`DataQuality.RuleSet.ofDocument_toDocument`). So the rule set itself comes back exactly when all of
its operators are named by their identifiers (`DataQuality.RuleSet.reread_eq_self_iff`), which they
are when they have been read from any text.

The object of a rule has one **slot** for every field that a rule of its level may have, and a field
that is left out leaves its slot empty. The keys of the slots are distinct, so each reader of a
field sees exactly what stands in the slot of its key
(`DataQuality.FieldReader.single?_present`). What is left is to say, slot by slot, that what was
written is read.
-/

namespace DataQuality

open FieldReader

/-! ### Slots -/

namespace FieldReader

/-- The **slots** of an object, by the keys of the fields that it may have; the slot of a field that
is left out is empty. -/
abbrev Slots := List (String × Option Json)

/-- The fields that are not left out. -/
def present : Slots → List (String × Json)
  | [] => []
  | (_, none) :: slots => present slots
  | (key, some v) :: slots => (key, v) :: present slots

theorem present_cons (key : String) (v : Option Json) (slots : Slots) :
    present ((key, v) :: slots) = Json.optionalField key v ++ present slots := by
  cases v <;> rfl

theorem mem_present {slots : Slots} {f : String × Json} (h : f ∈ present slots) :
    (f.1, some f.2) ∈ slots := by
  induction slots with
  | nil => exact absurd h (by simp [present])
  | cons slot slots ih =>
    obtain ⟨key, _ | v⟩ := slot
    · exact List.mem_cons_of_mem _ (ih h)
    · rcases List.mem_cons.mp h with rfl | h
      · exact List.mem_cons_self
      · exact List.mem_cons_of_mem _ (ih h)

theorem filter_present_eq_nil {slots : Slots} {key : String} (h : key ∉ slots.map Prod.fst) :
    (present slots).filter (·.1 == key) = [] := by
  rw [List.filter_eq_nil_iff]
  intro f hf heq
  exact h (beq_iff_eq.mp heq ▸ List.mem_map_of_mem (f := Prod.fst) (mem_present hf))

/-- What stands in the slot of a key. -/
def slot (slots : Slots) (key : String) : Option Json := (slots.lookup key).join

/-- **A reader sees what stands in the slot of its key.** -/
theorem single?_present {slots : Slots} (h : (slots.map Prod.fst).Nodup) (key : String) :
    single? (present slots) key = some (slot slots key) := by
  induction slots with
  | nil => rfl
  | cons entry slots ih =>
    obtain ⟨key', v⟩ := entry
    obtain ⟨hfresh, hrest⟩ := List.nodup_cons.mp h
    by_cases hkey : key = key'
    · subst hkey
      have hlater : (present slots).filter (·.1 == key) = [] := filter_present_eq_nil hfresh
      cases v <;> simp [single?, present, slot, hlater]
    · have hskip : single? (present ((key', v) :: slots)) key = single? (present slots) key := by
        cases v <;> simp [single?, present, Ne.symm hkey]
      rw [hskip, ih hrest, slot, slot, List.lookup_cons, beq_false_of_ne hkey]

/-- What stands in the slot of a key is what was put there. -/
theorem slot_of_mem {slots : Slots} (h : (slots.map Prod.fst).Nodup) {key : String}
    {v : Option Json} (hmem : (key, v) ∈ slots) : slot slots key = v := by
  induction slots with
  | nil => exact absurd hmem List.not_mem_nil
  | cons entry slots ih =>
    obtain ⟨hfresh, hrest⟩ := List.nodup_cons.mp h
    rcases List.mem_cons.mp hmem with rfl | hlater
    · simp [slot]
    · have hne : key ≠ entry.1 := fun heq =>
        hfresh (heq ▸ List.mem_map_of_mem (f := Prod.fst) hlater)
      rw [slot, List.lookup_cons, beq_false_of_ne hne]
      exact ih hrest hlater

variable {slots : Slots} {α : Type}

theorem required?_present (h : (slots.map Prod.fst).Nodup) (key : String)
    (read : Json → Option α) : required? (present slots) key read = (slot slots key).bind read := by
  rw [required?, single?_present h]
  cases slot slots key <;> rfl

theorem defaulted?_present (h : (slots.map Prod.fst).Nodup) (key : String) (usual : α)
    (read : Json → Option α) :
    defaulted? (present slots) key usual read = (slot slots key).elim (some usual) read := by
  rw [defaulted?, single?_present h]
  cases slot slots key <;> rfl

/-! ### What is read in a slot -/

/-- A value that may be missing is read back, provided that it is never written as null. -/
theorem elim_map_nullable? {write : α → Json} {read : Json → Option α}
    (hread : ∀ a, read (write a) = some a) (hnull : ∀ a, write a ≠ .null) (value : Option α) :
    (value.map write).elim (some none) (nullable? read) = some value := by
  cases value with
  | none => rfl
  | some a =>
    have hvalue : nullable? read (write a) = (read (write a)).map some := by
      unfold nullable?
      split
      · next heq => exact absurd heq (hnull a)
      · rfl
    rw [Option.map_some, Option.elim_some, hvalue, hread, Option.map_some]

theorem elim_map_nullable?_text (value : Option String) :
    (value.map Json.string).elim (some none) (nullable? text?) = some value :=
  @elim_map_nullable? String .string text? (fun _ => rfl) (fun _ => Json.noConfusion) value

/-- What stands in the slot of a truth value. -/
def flagSlot (value : Bool) : Option Json := if value then some (.bool true) else none

theorem elim_flagSlot (value : Bool) : (flagSlot value).elim (some false) flag? = some value := by
  cases value <;> rfl

end FieldReader

theorem ColumnType.ofId?_id (t : ColumnType) : ofId? t.id = some t := by
  cases t <;> rfl

theorem TargetMode.ofId?_id (m : TargetMode) : ofId? m.id = some m := by
  cases m <;> rfl

theorem GroupMode.ofId?_id (m : GroupMode) : ofId? m.id = some m := by
  cases m <;> rfl

theorem AggregationKind.ofId?_id (k : AggregationKind) : ofId? k.id = some k := by
  cases k <;> rfl

/-! ### The slots of rules -/

/-- The slots of a row rule. -/
def RowRule.slots (r : RowRule) : Slots :=
  [("column", some (.string r.column)), ("operator", some (.string r.operator.id)),
    ("operand", some (.string r.operand)), ("operand_is_column", some (.bool r.operandIsColumn)),
    ("value_type", r.valueType.map fun t => .string t.id),
    ("skip_if_zero", flagSlot r.skipIfZero), ("empty_as_zero", flagSlot r.emptyAsZero),
    ("target_mode", if r.targetMode = .sum then none else some (.string r.targetMode.id))]

/-- The slots of an aggregate rule. -/
def AggregateRule.slots (r : AggregateRule) : Slots :=
  [("column", some (.string r.column)), ("operator", some (.string r.operator.id)),
    ("operand", some (.string r.operand)), ("operand_is_column", some (.bool r.operandIsColumn)),
    ("ref_agg", r.referenceKind.map fun k => .string k.id), ("group_by", r.groupBy.map .string),
    ("distinct_per_group", some (.bool r.distinct)),
    ("group_mode", some (.string r.groupMode.id))]

/-- The slots of the body of a rule. -/
def RuleBody.slots : RuleBody → Slots
  | .row r => ("level", some (.string "row")) :: r.slots
  | .aggregate r => ("level", some (.string "aggregate")) :: r.slots

/-- The slots of a rule. -/
def Rule.slots (r : Rule) : Slots :=
  ("id", some (.ofNat r.id.toNat)) :: ("name", r.name.map .string) ::
    ("message", r.message.map .string) :: r.body.slots

theorem flagField_eq (key : String) (value : Bool) :
    flagField key value = Json.optionalField key (flagSlot value) := by
  cases value <;> rfl

theorem unless_eq_optionalField (p : Prop) [Decidable p] (key : String) (v : Json) :
    (if p then [] else [(key, v)]) = Json.optionalField key (if p then none else some v) := by
  split <;> rfl

theorem optionalField_some (key : String) (v : Json) :
    Json.optionalField key (some v) = [(key, v)] := rfl

theorem RowRule.fields_eq (r : RowRule) : r.fields = present r.slots := by
  simp only [fields, slots, present_cons, present, flagField_eq, unless_eq_optionalField,
    optionalField_some, List.append_assoc, List.cons_append, List.nil_append, List.append_nil]

theorem AggregateRule.fields_eq (r : AggregateRule) : r.fields = present r.slots := by
  simp only [fields, slots, present_cons, present, optionalField_some, List.append_assoc,
    List.cons_append, List.nil_append]

/-- **The object of a rule has the fields that its slots hold.** -/
theorem Rule.toJson_eq (r : Rule) : r.toJson = .object (present r.slots) := by
  have hbody : r.body.fields = present r.body.slots := by
    cases r.body with
    | row body => rw [RuleBody.fields, body.fields_eq]; rfl
    | aggregate body => rw [RuleBody.fields, body.fields_eq]; rfl
  simp only [toJson, slots, present_cons, optionalField_some, hbody, List.append_assoc,
    List.cons_append, List.nil_append]

theorem Rule.nodup_slots (r : Rule) : (r.slots.map Prod.fst).Nodup := by
  have hrow : ["id", "name", "message", "level", "column", "operator", "operand",
      "operand_is_column", "value_type", "skip_if_zero", "empty_as_zero", "target_mode"].Nodup := by
    decide
  have haggregate : ["id", "name", "message", "level", "column", "operator", "operand",
      "operand_is_column", "ref_agg", "group_by", "distinct_per_group", "group_mode"].Nodup := by
    decide
  obtain ⟨id, name, message, _ | _⟩ := r
  · exact hrow
  · exact haggregate

/-! ### Reading rules back -/

/-- A row rule with its operator **read anew** from the identifier. -/
def RowRule.reread (r : RowRule) : RowRule := { r with operator := .parse r.operator.id }

/-- An aggregate rule with its operator read anew from the identifier. -/
def AggregateRule.reread (r : AggregateRule) : AggregateRule :=
  { r with operator := .parse r.operator.id }

/-- The body of a rule with its operator read anew from the identifier. -/
def RuleBody.reread : RuleBody → RuleBody
  | .row r => .row r.reread
  | .aggregate r => .aggregate r.reread

/-- A rule with its operator read anew from the identifier. -/
def Rule.reread (r : Rule) : Rule := { r with body := r.body.reread }

section Bodies

variable {slots : Slots} (h : (slots.map Prod.fst).Nodup)

include h

/-- A row rule is read back from an object with its slots among others. -/
theorem RowRule.ofFields?_present {r : RowRule} (hslots : ∀ entry ∈ r.slots, entry ∈ slots) :
    ofFields? (present slots) = some r.reread := by
  simp only [RowRule.slots, List.forall_mem_cons] at hslots
  obtain ⟨hcolumn, hoperator, hoperand, hisColumn, htype, hskip, hempty, hmode, -⟩ := hslots
  have htypeRead : (slot slots "value_type").elim (some none)
      (nullable? (choice? ColumnType.ofId?)) = some r.valueType := by
    rw [slot_of_mem h htype]
    exact elim_map_nullable? (fun t => t.ofId?_id) (fun _ => Json.noConfusion) _
  have hmodeRead : (slot slots "target_mode").elim (some .sum) (choice? TargetMode.ofId?) =
      some r.targetMode := by
    rw [slot_of_mem h hmode]
    cases r.targetMode <;> rfl
  simp only [ofFields?, required?_present h, defaulted?_present h, slot_of_mem h hcolumn,
    slot_of_mem h hoperator, slot_of_mem h hoperand, slot_of_mem h hisColumn, htypeRead,
    slot_of_mem h hskip, slot_of_mem h hempty, hmodeRead, elim_flagSlot, Option.bind_some,
    Option.elim_some, text?, flag?, Option.bind_eq_bind, Option.pure_def]
  rfl

/-- An aggregate rule is read back from an object with its slots among others. -/
theorem AggregateRule.ofFields?_present {r : AggregateRule}
    (hslots : ∀ entry ∈ r.slots, entry ∈ slots) :
    ofFields? (present slots) = some r.reread := by
  simp only [AggregateRule.slots, List.forall_mem_cons] at hslots
  obtain ⟨hcolumn, hoperator, hoperand, hisColumn, hkind, hgroup, hdistinct, hmode, -⟩ := hslots
  have hkindRead : (slot slots "ref_agg").elim (some none)
      (nullable? (choice? AggregationKind.ofId?)) = some r.referenceKind := by
    rw [slot_of_mem h hkind]
    exact elim_map_nullable? (fun k => k.ofId?_id) (fun _ => Json.noConfusion) _
  have hgroupRead : (slot slots "group_by").elim (some none) (nullable? text?) =
      some r.groupBy := by
    rw [slot_of_mem h hgroup]
    exact elim_map_nullable?_text _
  simp only [ofFields?, required?_present h, defaulted?_present h, slot_of_mem h hcolumn,
    slot_of_mem h hoperator, slot_of_mem h hoperand, slot_of_mem h hisColumn, hkindRead, hgroupRead,
    slot_of_mem h hdistinct, slot_of_mem h hmode, Option.bind_some, Option.elim_some, text?, flag?,
    choice?, GroupMode.ofId?_id, Option.bind_eq_bind, Option.pure_def]
  rfl

/-- The body of a rule is read back from an object with its slots among others. -/
theorem RuleBody.ofFields?_present {body : RuleBody}
    (hslots : ∀ entry ∈ body.slots, entry ∈ slots) :
    ofFields? (present slots) = some body.reread := by
  cases body with
  | row r =>
    obtain ⟨hlevel, hslots⟩ := List.forall_mem_cons.mp hslots
    rw [ofFields?, required?_present h, slot_of_mem h hlevel]
    simp [RuleLevel.ofJson?, RowRule.ofFields?_present h hslots, reread]
  | aggregate r =>
    obtain ⟨hlevel, hslots⟩ := List.forall_mem_cons.mp hslots
    rw [ofFields?, required?_present h, slot_of_mem h hlevel]
    simp [RuleLevel.ofJson?, AggregateRule.ofFields?_present h hslots, reread]

end Bodies

/-- **A rule is read back from its object**, with its operator read anew. -/
theorem Rule.ofJson?_toJson (r : Rule) : ofJson? r.toJson = some r.reread := by
  have h := r.nodup_slots
  have hid : ("id", some (.ofNat r.id.toNat)) ∈ r.slots := by simp [slots]
  have hname : ("name", r.name.map .string) ∈ r.slots := by simp [slots]
  have hmessage : ("message", r.message.map .string) ∈ r.slots := by simp [slots]
  have hbody : ∀ entry ∈ r.body.slots, entry ∈ r.slots := by
    intro entry hentry
    simp [slots, hentry]
  have hword : FieldReader.word? (.ofNat r.id.toNat) = some r.id := Json.word?_ofNat r.id
  rw [toJson_eq]
  simp only [ofJson?, required?_present h, defaulted?_present h, slot_of_mem h hid,
    slot_of_mem h hname, slot_of_mem h hmessage, elim_map_nullable?_text,
    RuleBody.ofFields?_present h hbody, hword, Option.bind_some, Option.bind_eq_bind,
    Option.pure_def]
  rfl

/-! ### Rules as texts -/

/-- What stands in a slot can be read by the strict reader. -/
def Fits (v : Option Json) : Prop := ∀ w ∈ v, Json.ReadableAtom w

theorem fits_string (s : String) : Fits (some (.string s)) := by
  rintro w ⟨⟩
  exact .string s

theorem fits_bool (b : Bool) : Fits (some (.bool b)) := by
  rintro w ⟨⟩
  exact .bool b

theorem fits_map_string {α : Type} (write : α → String) (value : Option α) :
    Fits (value.map fun a => .string (write a)) := by
  intro w hw
  obtain ⟨a, -, rfl⟩ := Option.map_eq_some_iff.mp (Option.mem_def.mp hw)
  exact .string (write a)

theorem fits_none : Fits none := fun _ h => absurd h (Option.not_mem_none _)

theorem fits_flagSlot (b : Bool) : Fits (flagSlot b) := by
  cases b with
  | false => exact fits_none
  | true => exact fits_bool true

theorem RowRule.fits_slots (r : RowRule) : ∀ entry ∈ r.slots, Fits entry.2 := by
  have hmode : Fits (if r.targetMode = .sum then none else some (.string r.targetMode.id)) := by
    split
    · exact fits_none
    · exact fits_string _
  simp only [slots, List.forall_mem_cons]
  exact ⟨fits_string _, fits_string _, fits_string _, fits_bool _, fits_map_string _ _,
    fits_flagSlot _, fits_flagSlot _, hmode, List.forall_mem_nil _⟩

theorem AggregateRule.fits_slots (r : AggregateRule) : ∀ entry ∈ r.slots, Fits entry.2 := by
  simp only [slots, List.forall_mem_cons]
  exact ⟨fits_string _, fits_string _, fits_string _, fits_bool _, fits_map_string _ _,
    fits_map_string _ _, fits_bool _, fits_string _, List.forall_mem_nil _⟩

theorem Rule.fits_slots (r : Rule) : ∀ entry ∈ r.slots, Fits entry.2 := by
  have hid : Fits (some (.ofNat r.id.toNat)) := by
    rintro w ⟨⟩
    exact Json.readableAtom_ofNat r.id
  have hbody : ∀ entry ∈ r.body.slots, Fits entry.2 := by
    cases r.body with
    | row body => exact List.forall_mem_cons.mpr ⟨fits_string _, body.fits_slots⟩
    | aggregate body => exact List.forall_mem_cons.mpr ⟨fits_string _, body.fits_slots⟩
  simp only [slots, List.forall_mem_cons]
  exact ⟨hid, fits_map_string _ _, fits_map_string _ _, hbody⟩

/-- **The strict reader takes the object of every rule.** -/
theorem Rule.readable_toJson (r : Rule) (depth : Nat) : Json.Readable (depth + 1) r.toJson := by
  rw [toJson_eq]
  refine .object fun f hf => .atom ?_
  exact r.fits_slots _ (mem_present hf) _ rfl

/-! ### Rule sets -/

namespace RuleSet

/-- Rules with distinct identities are added one after another. -/
theorem addAll_eq (s : RuleSet) (rules : List Rule) (h : (ruleIds (s.rules ++ rules)).Nodup) :
    s.addAll rules = .ok ⟨s.rules ++ rules, h⟩ := by
  induction rules generalizing s with
  | nil => simp [addAll]
  | cons rule rules ih =>
    have hfresh : rule.id ∉ s.ids := by
      intro hmem
      rw [ruleIds, List.map_append, List.map_cons] at h
      exact (List.nodup_append.mp h).2.2 _ hmem _ List.mem_cons_self rfl
    have hnext : (ruleIds ((s.append rule hfresh).rules ++ rules)).Nodup := by
      simpa [append] using h
    rw [addAll, add, dif_neg hfresh]
    simp only [ih _ hnext]
    simp [append]

theorem ofRules_eq {rules : List Rule} (h : (ruleIds rules).Nodup) :
    ofRules rules = .ok ⟨rules, h⟩ :=
  addAll_eq empty rules h

theorem ruleIds_map_reread (rules : List Rule) :
    ruleIds (rules.map Rule.reread) = ruleIds rules := by
  rw [ruleIds, List.map_map]
  rfl

/-- A rule set with all operators **read anew** from their identifiers. -/
def reread (s : RuleSet) : RuleSet :=
  ⟨s.rules.map Rule.reread, by rw [ruleIds_map_reread]; exact s.nodup⟩

/-- **Every rule set can be loaded from what it is saved as**, and comes back with its operators
read anew. -/
theorem ofDocument_toDocument (s : RuleSet) : ofDocument s.toDocument = .ok s.reread := by
  have hread : Json.parse? s.toDocument = some s.toJson := by
    refine Json.parse?_compact (.array fun v hv => ?_)
    obtain ⟨rule, -, rfl⟩ := List.mem_map.mp hv
    exact rule.readable_toJson 125
  have hrules : rulesOfJson? s.toJson = some s.reread.rules := by
    change (s.rules.map (·.toJson)).mapM Rule.ofJson? = some (s.rules.map Rule.reread)
    have hrule : (Rule.ofJson? ∘ Rule.toJson) = fun r => pure r.reread :=
      funext Rule.ofJson?_toJson
    rw [List.mapM_map, hrule, List.mapM_pure]
    rfl
  rw [ofDocument, hread, Option.bind_some, hrules]
  simp only [ofRules_eq s.reread.nodup]

end RuleSet

/-! ### Rule sets that come back -/

/-- A body whose operator some text **names**. -/
def RuleBody.IsNamed : RuleBody → Prop
  | .row r => r.operator.IsNamed
  | .aggregate r => r.operator.IsNamed

theorem RowRule.isNamed_of_ofFields? {fields : List (String × Json)} {r : RowRule}
    (h : ofFields? fields = some r) : r.operator.IsNamed := by
  simp only [ofFields?, Option.bind_eq_bind, Option.bind_eq_some_iff, Option.pure_def,
    Option.some.injEq] at h
  obtain ⟨_, -, operator, -, _, -, _, -, _, -, _, -, _, -, _, -, rfl⟩ := h
  -- the projection first, or else the two sides are compared by evaluating the parser
  dsimp only
  exact Operator.isNamed_parse operator

theorem AggregateRule.isNamed_of_ofFields? {fields : List (String × Json)} {r : AggregateRule}
    (h : ofFields? fields = some r) : r.operator.IsNamed := by
  simp only [ofFields?, Option.bind_eq_bind, Option.bind_eq_some_iff, Option.pure_def,
    Option.some.injEq] at h
  obtain ⟨_, -, operator, -, _, -, _, -, _, -, _, -, _, -, _, -, rfl⟩ := h
  dsimp only
  exact AggregateOperator.isNamed_parse operator

/-- The operator of a rule that was read has been read from a text. -/
theorem Rule.isNamed_of_ofJson? {v : Json} {r : Rule} (h : ofJson? v = some r) :
    r.body.IsNamed := by
  cases v with
  | object fields =>
    simp only [ofJson?, RuleBody.ofFields?, Option.bind_eq_bind, Option.bind_eq_some_iff,
      Option.pure_def, Option.some.injEq] at h
    obtain ⟨_, -, _, -, _, -, body, ⟨level, -, hbody⟩, rfl⟩ := h
    cases level with
    | row =>
      obtain ⟨row, hrow, rfl⟩ := Option.map_eq_some_iff.mp hbody
      exact RowRule.isNamed_of_ofFields? hrow
    | aggregate =>
      obtain ⟨aggregate, haggregate, rfl⟩ := Option.map_eq_some_iff.mp hbody
      exact AggregateRule.isNamed_of_ofFields? haggregate
  | _ => cases h

theorem RuleBody.reread_eq_self_iff {body : RuleBody} : body.reread = body ↔ body.IsNamed := by
  cases body with
  | row r =>
    obtain ⟨column, operator, operand, isColumn, type, skip, empty, mode⟩ := r
    simp [reread, RowRule.reread, IsNamed, Operator.isNamed_iff]
  | aggregate r =>
    obtain ⟨column, operator, operand, isColumn, kind, group, distinct, mode⟩ := r
    simp [reread, AggregateRule.reread, IsNamed, AggregateOperator.isNamed_iff]

theorem Rule.reread_eq_self_iff {r : Rule} : r.reread = r ↔ r.body.IsNamed := by
  obtain ⟨id, name, message, body⟩ := r
  simp [reread, RuleBody.reread_eq_self_iff]

namespace RuleSet

/-- A rule set all of whose operators are **named** by some text: the only ones that loading, or
making a rule from a text, can give. -/
def IsNamed (s : RuleSet) : Prop := ∀ rule ∈ s.rules, rule.body.IsNamed

theorem reread_eq_self_iff {s : RuleSet} : s.reread = s ↔ s.IsNamed := by
  have hrules : s.reread = s ↔ s.rules.map Rule.reread = s.rules := by
    obtain ⟨rules, hnodup⟩ := s
    simp only [reread, RuleSet.mk.injEq]
  rw [hrules, ← List.map_id s.rules, List.map_map, List.map_inj_left]
  simp only [Function.comp_apply, id, Rule.reread_eq_self_iff, IsNamed]

theorem isNamed_of_rulesOfJson? {v : Json} {rules : List Rule} (h : rulesOfJson? v = some rules) :
    ∀ rule ∈ rules, rule.body.IsNamed := by
  cases v with
  | array items =>
    change items.mapM Rule.ofJson? = some rules at h
    induction items generalizing rules with
    | nil =>
      obtain rfl : [] = rules := Option.some.inj h
      exact List.forall_mem_nil _
    | cons item items ih =>
      simp only [List.mapM_cons, Option.bind_eq_bind, Option.bind_eq_some_iff, Option.pure_def,
        Option.some.injEq] at h
      obtain ⟨rule, hrule, later, hlater, rfl⟩ := h
      exact List.forall_mem_cons.mpr ⟨Rule.isNamed_of_ofJson? hrule, ih hlater⟩
  | _ => cases h

/-- A rule that was added stands at the end. -/
theorem rules_of_add {s t : RuleSet} {rule : Rule} (h : s.add rule = .ok t) :
    t.rules = s.rules ++ [rule] := by
  unfold add at h
  split at h
  · cases h
  · obtain rfl := Except.ok.inj h
    rfl

theorem rules_of_addAll {rules : List Rule} {s t : RuleSet} (h : s.addAll rules = .ok t) :
    t.rules = s.rules ++ rules := by
  induction rules generalizing s with
  | nil =>
    obtain rfl : s = t := Except.ok.inj h
    rw [List.append_nil]
  | cons rule rules ih =>
    unfold addAll at h
    split at h
    · next u hu => rw [ih h, rules_of_add hu, List.append_assoc, List.singleton_append]
    · cases h

theorem rules_of_ofRules {rules : List Rule} {s : RuleSet} (h : ofRules rules = .ok s) :
    s.rules = rules :=
  rules_of_addAll h

/-- **Loading gives nothing but operators that texts name.** -/
theorem isNamed_of_ofDocument {text : String} {s : RuleSet} (h : ofDocument text = .ok s) :
    s.IsNamed := by
  unfold ofDocument at h
  split at h
  · cases h
  · next rules hrules =>
    obtain ⟨v, -, hread⟩ := Option.bind_eq_some_iff.mp hrules
    split at h
    · next t ht =>
      obtain rfl : t = s := Except.ok.inj h
      rw [IsNamed, rules_of_ofRules ht]
      exact isNamed_of_rulesOfJson? hread
    · cases h

instance (s : RuleSet) : Decidable s.IsNamed :=
  decidable_of_iff (s.reread = s) reread_eq_self_iff

/-- **A rule set is loaded as it was saved exactly when texts name its operators**, as is the case
for every rule set that was loaded. This rests on the identifiers: that of an operator that was read
from a text names that operator, unknown ones included. -/
theorem ofDocument_toDocument_eq_self_iff :
    (∀ raw, Operator.parse (Operator.parse raw).id = Operator.parse raw) ∧
      (∀ raw, AggregateOperator.parse (AggregateOperator.parse raw).id =
        AggregateOperator.parse raw) ∧
      (∀ s : RuleSet, ofDocument s.toDocument = .ok s ↔ s.IsNamed) ∧
      ∀ (text : String) (s : RuleSet), ofDocument text = .ok s → s.IsNamed := by
  refine ⟨Operator.parse_id_parse, AggregateOperator.parse_id_parse, fun s => ?_,
    fun text s => isNamed_of_ofDocument⟩
  rw [ofDocument_toDocument, Except.ok.injEq, reread_eq_self_iff]

/-- A row rule and an aggregate rule with unknown operators, the greatest identity, and texts in
which everything has to be escaped. -/
def quotedRules : RuleSet where
  rules := [⟨18446744073709551615, some "\"\\\n", none,
      .row ⟨"größe", .unknown "like 'x'", "\t", true, some .text, true, false, .firstNonZero⟩⟩,
    ⟨0, none, some "é", .aggregate ⟨"a,b", .unknown "sum_of", "", false, none, some "\"g\"", true,
      .representative⟩⟩]
  nodup := by decide

theorem ofDocument_toDocument_quotedRules :
    ofDocument quotedRules.toDocument = .ok quotedRules ∧ quotedRules.IsNamed := by
  obtain ⟨-, -, hsaved, hloaded⟩ := ofDocument_toDocument_eq_self_iff
  have hquoted := (hsaved quotedRules).mpr (by decide +kernel)
  exact ⟨hquoted, hloaded _ _ hquoted⟩

end RuleSet

end DataQuality
