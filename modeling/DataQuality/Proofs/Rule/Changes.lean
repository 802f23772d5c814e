import DataQuality.Proofs.Rule.Document
import Mathlib.Data.List.Nodup

/-!
# Rule sets as ordered maps

A rule set that is changed again and again stays an ordered map from identities to rules. Which rule
is found under an identity is a matter of history: it is the last one that was stored under it,
unless it has been removed since (`DataQuality.RuleSet.lastStored`). Nothing else about the past
matters, neither refused changes nor changes of other rules.

What a single change can do to the rules is said once, by `DataQuality.RuleSet.Effect.Turns`: a rule
is put at the end, is put in the place of another one, or is taken out. The laws of identities and
of look-ups are read off these three cases, and carried along a history by induction.
`DataQuality.RuleSet.isOrderedMap` puts all of this together.
-/

namespace DataQuality.RuleSet

/-! ### Look-up -/

section LookUp

variable {s : RuleSet} {rule : Rule} {id : UInt64} {rules before after : List Rule}

/-- An identity that is not in use leads to no rule. -/
theorem find?_eq_none_of_not_mem (h : id ∉ ruleIds rules) :
    rules.find? (·.id == id) = none := by
  rw [List.find?_eq_none]
  intro r hr hid
  exact h (List.mem_map.mpr ⟨r, hr, beq_iff_eq.mp hid⟩)

theorem get?_eq_none_iff : s.get? id = none ↔ id ∉ s.ids := by
  refine ⟨fun h hid => ?_, find?_eq_none_of_not_mem⟩
  obtain ⟨r, hr, rfl⟩ := List.mem_map.mp hid
  exact List.find?_eq_none.mp h r hr (beq_self_eq_true r.id)

/-- An identity in use leads to the one rule that has it. -/
theorem exists_get?_eq_some (h : id ∈ s.ids) :
    ∃ before rule after, s.rules = before ++ rule :: after ∧ rule.id = id ∧
      (∀ r ∈ before, r.id ≠ id) ∧ s.get? id = some rule := by
  obtain ⟨rule, hrule⟩ := Option.ne_none_iff_exists'.mp fun hnone => get?_eq_none_iff.mp hnone h
  obtain ⟨hid, before, after, hrules, hbefore⟩ := List.find?_eq_some_iff_append.mp hrule
  exact ⟨before, rule, after, hrules, beq_iff_eq.mp hid,
    fun r hr => by simpa using hbefore r hr, hrule⟩

/-- The identity of a rule occurs at no other place. -/
theorem not_mem_of_nodup (h : (ruleIds (before ++ rule :: after)).Nodup) :
    rule.id ∉ ruleIds before ∧ rule.id ∉ ruleIds after := by
  rw [ruleIds, List.map_append, List.map_cons, List.nodup_middle, List.nodup_cons,
    List.mem_append, not_or] at h
  exact h.1

/-- **The rules are those found under the identities, in their order.** -/
theorem filterMap_get?_ids (s : RuleSet) : s.ids.filterMap s.get? = s.rules := by
  rw [ids, ruleIds, List.filterMap_map]
  refine (List.filterMap_congr fun r hr => ?_).trans List.filterMap_some
  obtain ⟨before, rule, after, hrules, hid, -, hget⟩ :=
    exists_get?_eq_some (List.mem_map_of_mem hr : r.id ∈ s.ids)
  have hrule : rule ∈ s.rules := hrules ▸ List.mem_append_right _ List.mem_cons_self
  rw [Function.comp_apply, hget, List.inj_on_of_nodup_map s.nodup hrule hr hid]

end LookUp

/-! ### Changes -/

/-- A **change** that is asked of a rule set. -/
inductive Change where
  /-- A new rule. -/
  | add (rule : Rule)
  /-- A new rule, under the next identity. -/
  | push (body : RuleBody)
  /-- Another rule in the place of the one with its identity. -/
  | update (rule : Rule)
  /-- One rule less. -/
  | remove (id : UInt64)

/-- What a change **comes to**. -/
inductive Effect where
  /-- A rule is stored under its identity. -/
  | stored (rule : Rule)
  /-- A rule is taken out. -/
  | removed (rule : Rule)
  /-- The change is refused. -/
  | refused (error : Error)
  /-- There is no next identity. -/
  | exhausted
  deriving DecidableEq

/-- A change **carried out**: what it comes to, and the rule set after it. -/
def perform (s : RuleSet) : Change → Effect × RuleSet
  | .add rule =>
    match s.add rule with
    | .ok t => (.stored rule, t)
    | .error e => (.refused e, s)
  | .push body =>
    match s.push? body with
    | some (id, t) => (.stored ⟨id, none, none, body⟩, t)
    | none => (.exhausted, s)
  | .update rule =>
    match s.update rule with
    | .ok t => (.stored rule, t)
    | .error e => (.refused e, s)
  | .remove id =>
    match s.remove id with
    | .ok (rule, t) => (.removed rule, t)
    | .error e => (.refused e, s)

/-- The rule set after some changes, one after another. -/
def run (s : RuleSet) : List Change → RuleSet
  | [] => s
  | c :: cs => (s.perform c).2.run cs

/-- What some changes come to, one after another. -/
def effects (s : RuleSet) : List Change → List Effect
  | [] => []
  | c :: cs => (s.perform c).1 :: (s.perform c).2.effects cs

/-! ### The next identity -/

/-- The **greatest identity** that there is. -/
def lastId : UInt64 := 18446744073709551615

theorem greatest?_eq_none_iff {ids : List UInt64} : greatest? ids = none ↔ ids = [] := by
  cases ids with
  | nil => simp [greatest?]
  | cons i ids => cases h : greatest? ids <;> simp [greatest?, h]

/-- The greatest one of some identities is one of them. -/
theorem mem_of_greatest? {ids : List UInt64} {g : UInt64} (h : greatest? ids = some g) :
    g ∈ ids := by
  induction ids generalizing g with
  | nil => cases h
  | cons i ids ih =>
    rw [greatest?] at h
    cases hrest : greatest? ids with
    | none =>
      rw [hrest] at h
      obtain rfl := Option.some.inj h
      exact List.mem_cons_self
    | some g' =>
      rw [hrest] at h
      obtain rfl := Option.some.inj h
      split
      · exact List.mem_cons_self
      · exact List.mem_cons_of_mem _ (ih hrest)

/-- **The next identity is above all others**, and there is one unless the last one is in use. -/
theorem exists_nextId? {s : RuleSet} (h : lastId ∉ s.ids) :
    ∃ id, s.nextId? = some id ∧ ∀ i ∈ s.ids, i < id := by
  rw [nextId?]
  cases hg : greatest? s.ids with
  | none =>
    rw [greatest?_eq_none_iff.mp hg]
    exact ⟨1, rfl, List.forall_mem_nil _⟩
  | some g =>
    have hroom : g.toNat + 1 < UInt64.size := by
      have hne : g.toNat ≠ lastId.toNat := fun heq =>
        h (UInt64.toNat_inj.mp heq ▸ mem_of_greatest? hg)
      have hlast : lastId.toNat + 1 = UInt64.size := rfl
      have hlt := g.toNat_lt_size
      omega
    refine ⟨g + 1, if_pos hroom, fun i hi => ?_⟩
    obtain ⟨g', hg', hle⟩ := le_greatest hi
    obtain rfl : g = g' := Option.some.inj (hg.symm.trans hg')
    rw [UInt64.lt_iff_toNat_lt, UInt64.toNat_add, show (1 : UInt64).toNat = 1 from rfl,
      Nat.mod_eq_of_lt hroom]
    omega

theorem nextId?_eq_none {s : RuleSet} (h : lastId ∈ s.ids) : s.nextId? = none := by
  obtain ⟨g, hg, hle⟩ := le_greatest h
  have hlast : lastId.toNat + 1 = UInt64.size := rfl
  rw [nextId?, hg]
  exact if_neg (by omega)

/-! ### One change -/

section OneChange

variable {s : RuleSet} {rule : Rule} {body : RuleBody} {id : UInt64}

theorem perform_add_of_mem (h : rule.id ∈ s.ids) :
    s.perform (.add rule) = (.refused (.duplicateRuleId rule.id), s) := by
  rw [perform, add, dif_pos h]

theorem perform_add (h : rule.id ∉ s.ids) :
    ∃ t, s.perform (.add rule) = (.stored rule, t) ∧ t.rules = s.rules ++ [rule] :=
  ⟨s.append rule h, by rw [perform, add, dif_neg h], rfl⟩

theorem perform_push_of_mem (h : lastId ∈ s.ids) : s.perform (.push body) = (.exhausted, s) := by
  have hpush : s.push? body = none := by
    unfold push?
    split
    · rfl
    · next hnext => rw [nextId?_eq_none h] at hnext; cases hnext
  rw [perform, hpush]

theorem perform_push (s : RuleSet) (body : RuleBody) (h : lastId ∉ s.ids) :
    ∃ id t, s.perform (.push body) = (.stored ⟨id, none, none, body⟩, t) ∧
      (∀ i ∈ s.ids, i < id) ∧ t.rules = s.rules ++ [⟨id, none, none, body⟩] := by
  obtain ⟨id, hid, hlt⟩ := exists_nextId? h
  have hpush : s.push? body = some (id, s.append ⟨id, none, none, body⟩ (nextId_fresh hid)) := by
    unfold push?
    split
    · next hnone => rw [hid] at hnone; cases hnone
    · next id' hid' =>
      obtain rfl : id = id' := Option.some.inj (hid.symm.trans hid')
      rfl
  exact ⟨id, _, by rw [perform, hpush], hlt, rfl⟩

theorem perform_update_of_not_mem (h : rule.id ∉ s.ids) :
    s.perform (.update rule) = (.refused (.ruleNotFound rule.id), s) := by
  rw [perform, update, if_neg h]

/-- A rule replaces the one with its identity, between the rules before it and those after it. -/
theorem replaceIn_append {before after : List Rule} {old : Rule} (hold : old.id = rule.id)
    (hbefore : ∀ r ∈ before, r.id ≠ rule.id) :
    replaceIn rule (before ++ old :: after) = before ++ rule :: after := by
  induction before with
  | nil => rw [List.nil_append, List.nil_append, replaceIn, if_pos hold]
  | cons r before ih =>
    rw [List.forall_mem_cons] at hbefore
    rw [List.cons_append, replaceIn, if_neg hbefore.1, ih hbefore.2, List.cons_append]

theorem perform_update (h : rule.id ∈ s.ids) :
    ∃ before old after t, s.perform (.update rule) = (.stored rule, t) ∧ old.id = rule.id ∧
      s.rules = before ++ old :: after ∧ t.rules = before ++ rule :: after := by
  obtain ⟨before, old, after, hrules, hold, hbefore, -⟩ := exists_get?_eq_some h
  refine ⟨before, old, after, _, by rw [perform, update, if_pos h], hold, hrules, ?_⟩
  change replaceIn rule s.rules = _
  rw [hrules, replaceIn_append hold hbefore]

theorem perform_remove_of_not_mem (h : id ∉ s.ids) :
    s.perform (.remove id) = (.refused (.ruleNotFound id), s) := by
  rw [perform, remove, get?_eq_none_iff.mpr h]

theorem perform_remove (h : id ∈ s.ids) :
    ∃ before rule after t, s.perform (.remove id) = (.removed rule, t) ∧ rule.id = id ∧
      s.rules = before ++ rule :: after ∧ t.rules = before ++ after := by
  obtain ⟨before, rule, after, hrules, hid, hbefore, hget⟩ := exists_get?_eq_some h
  refine ⟨before, rule, after, _, by rw [perform, remove, hget], hid, hrules, ?_⟩
  change eraseIn id s.rules = _
  rw [hrules, eraseIn, List.eraseP_append_right _ fun r hr => by simpa using hbefore r hr,
    List.eraseP_cons_of_pos (by simpa using hid)]

end OneChange

/-! ### What a change does to the rules -/

/-- What an effect **makes of the rules**. -/
inductive Effect.Turns : Effect → List Rule → List Rule → Prop where
  /-- A rule is put at the end. -/
  | added {rule : Rule} {rules : List Rule} (fresh : rule.id ∉ ruleIds rules) :
    Turns (.stored rule) rules (rules ++ [rule])
  /-- A rule is put in the place of another one with its identity. -/
  | replaced {old rule : Rule} {before after : List Rule} (same : old.id = rule.id) :
    Turns (.stored rule) (before ++ old :: after) (before ++ rule :: after)
  /-- A rule is taken out. -/
  | removed {rule : Rule} {before after : List Rule} :
    Turns (.removed rule) (before ++ rule :: after) (before ++ after)
  /-- Nothing happens. -/
  | refused {e : Error} {rules : List Rule} : Turns (.refused e) rules rules
  /-- Nothing happens. -/
  | exhausted {rules : List Rule} : Turns .exhausted rules rules

/-- **One change** turns the rules as its effect says. -/
theorem turns_perform (s : RuleSet) (c : Change) :
    (s.perform c).1.Turns s.rules (s.perform c).2.rules := by
  cases c with
  | add rule =>
    by_cases h : rule.id ∈ s.ids
    · rw [perform_add_of_mem h]
      exact .refused
    · obtain ⟨t, hperform, hrules⟩ := perform_add h
      rw [hperform, hrules]
      exact .added h
  | push body =>
    by_cases h : lastId ∈ s.ids
    · rw [perform_push_of_mem h]
      exact .exhausted
    · obtain ⟨id, t, hperform, hlt, hrules⟩ := s.perform_push body h
      rw [hperform, hrules]
      exact .added fun hid => UInt64.lt_irrefl id (hlt id hid)
  | update rule =>
    by_cases h : rule.id ∈ s.ids
    · obtain ⟨before, old, after, t, hperform, hold, hrules, hrules'⟩ := perform_update h
      rw [hperform, hrules, hrules']
      exact .replaced hold
    · rw [perform_update_of_not_mem h]
      exact .refused
  | remove id =>
    by_cases h : id ∈ s.ids
    · obtain ⟨before, rule, after, t, hperform, -, hrules, hrules'⟩ := perform_remove h
      rw [hperform, hrules, hrules']
      exact .removed
    · rw [perform_remove_of_not_mem h]
      exact .refused

/-- The rule under an identity after an effect, when the given one was there before. -/
def Effect.ruleAfter (id : UInt64) (found : Option Rule) : Effect → Option Rule
  | .stored rule => if rule.id = id then some rule else found
  | .removed rule => if rule.id = id then none else found
  | .refused _ => found
  | .exhausted => found

/-- The identities in use after an effect, in order. -/
def Effect.idsAfter (ids : List UInt64) : Effect → List UInt64
  | .stored rule => if rule.id ∈ ids then ids else ids ++ [rule.id]
  | .removed rule => ids.erase rule.id
  | .refused _ => ids
  | .exhausted => ids

namespace Effect.Turns

variable {effect : Effect} {rules rules' : List Rule}

/-- Look-up after an effect. The identities have to be distinct: what hides behind a rule with the
same identity would come to light when that rule is removed. -/
theorem find?_eq (h : effect.Turns rules rules') (hnodup : (ruleIds rules).Nodup) (id : UInt64) :
    rules'.find? (·.id == id) = effect.ruleAfter id (rules.find? (·.id == id)) := by
  cases h with
  | @added rule _ hfresh =>
    by_cases hid : rule.id = id
    · subst hid
      simp [ruleAfter, List.find?_append, find?_eq_none_of_not_mem hfresh]
    · simp [ruleAfter, List.find?_append, hid]
  | @replaced old rule before after hsame =>
    by_cases hid : rule.id = id
    · subst hid
      have hbefore := (not_mem_of_nodup hnodup).1
      rw [hsame] at hbefore
      simp [ruleAfter, List.find?_append, find?_eq_none_of_not_mem hbefore]
    · simp [ruleAfter, List.find?_append, hid, hsame]
  | @removed rule before after =>
    by_cases hid : rule.id = id
    · subst hid
      obtain ⟨hbefore, hafter⟩ := not_mem_of_nodup hnodup
      simp [ruleAfter, List.find?_append, find?_eq_none_of_not_mem hbefore,
        find?_eq_none_of_not_mem hafter]
    · simp [ruleAfter, List.find?_append, hid]
  | refused => rfl
  | exhausted => rfl

/-- The identities after an effect. -/
theorem ruleIds_eq (h : effect.Turns rules rules') (hnodup : (ruleIds rules).Nodup) :
    ruleIds rules' = effect.idsAfter (ruleIds rules) := by
  cases h with
  | added hfresh =>
    rw [idsAfter, if_neg hfresh, ruleIds, List.map_append]
    rfl
  | @replaced old rule before after hsame =>
    have hids : ruleIds (before ++ old :: after) = ruleIds (before ++ rule :: after) := by
      simp [ruleIds, hsame]
    have hmem : rule.id ∈ ruleIds (before ++ rule :: after) := by simp [ruleIds]
    rw [idsAfter, hids, if_pos hmem]
  | @removed rule before after =>
    have hbefore := (not_mem_of_nodup hnodup).1
    rw [ruleIds] at hbefore
    rw [idsAfter, ruleIds, ruleIds, List.map_append, List.map_append, List.map_cons,
      List.erase_append_right _ hbefore, List.erase_cons_head]
  | refused => rfl
  | exhausted => rfl

end Effect.Turns

theorem get?_perform (s : RuleSet) (c : Change) (id : UInt64) :
    (s.perform c).2.get? id = (s.perform c).1.ruleAfter id (s.get? id) :=
  (s.turns_perform c).find?_eq s.nodup id

theorem ids_perform (s : RuleSet) (c : Change) :
    (s.perform c).2.ids = (s.perform c).1.idsAfter s.ids :=
  (s.turns_perform c).ruleIds_eq s.nodup

/-! ### Histories -/

/-- The rule that was **stored last** under an identity and has not been removed since, when the
given one was there at the start. -/
def lastStored (id : UInt64) (start : Option Rule) (effects : List Effect) : Option Rule :=
  effects.foldl (Effect.ruleAfter id) start

/-- **What is found under an identity is what was stored last.** -/
theorem get?_run (s : RuleSet) (changes : List Change) (id : UInt64) :
    (s.run changes).get? id = lastStored id (s.get? id) (s.effects changes) := by
  induction changes generalizing s with
  | nil => rfl
  | cons c cs ih => rw [run, ih, get?_perform, effects, lastStored, lastStored, List.foldl_cons]

theorem ids_run (s : RuleSet) (changes : List Change) :
    (s.run changes).ids = (s.effects changes).foldl Effect.idsAfter s.ids := by
  induction changes generalizing s with
  | nil => rfl
  | cons c cs ih => rw [run, ih, ids_perform, effects, List.foldl_cons]

/-- The greatest identity is given out again once its rule has been removed. -/
example :
    (empty.run [.push (.row (.literal "a" .notBlank "")), .push (.row (.literal "b" .notBlank "")),
      .remove 2, .push (.row (.literal "c" .notBlank ""))]).ids = [1, 2] := by
  decide

/-! ### The laws of an ordered map -/

/-- How a rule set **answers changes**. A change that is refused leaves it exactly as it was. -/
structure AnswersChanges (s : RuleSet) : Prop where
  /-- No identity occurs twice. -/
  nodup : s.ids.Nodup
  /-- A rule is not added under an identity in use. -/
  add_refused : ∀ rule : Rule, rule.id ∈ s.ids →
    s.perform (.add rule) = (.refused (.duplicateRuleId rule.id), s)
  /-- Under another identity it is put at the end. -/
  added : ∀ rule : Rule, rule.id ∉ s.ids →
    ∃ t, s.perform (.add rule) = (.stored rule, t) ∧ t.rules = s.rules ++ [rule]
  /-- A body is put at the end, and is found under an identity above all others. -/
  pushed : ∀ body, lastId ∉ s.ids →
    ∃ id t, s.perform (.push body) = (.stored ⟨id, none, none, body⟩, t) ∧
      (∀ i ∈ s.ids, i < id) ∧ t.rules = s.rules ++ [⟨id, none, none, body⟩] ∧
      t.get? id = some ⟨id, none, none, body⟩
  /-- Above the last identity there is none. -/
  exhausted : ∀ body, lastId ∈ s.ids → s.perform (.push body) = (.exhausted, s)
  /-- There is nothing to replace under an identity that is not in use. -/
  update_refused : ∀ rule : Rule, rule.id ∉ s.ids →
    s.perform (.update rule) = (.refused (.ruleNotFound rule.id), s)
  /-- A rule takes the place of the one with its identity. -/
  updated : ∀ rule : Rule, rule.id ∈ s.ids →
    ∃ before old after t, s.perform (.update rule) = (.stored rule, t) ∧ old.id = rule.id ∧
      s.rules = before ++ old :: after ∧ t.rules = before ++ rule :: after
  /-- There is nothing to remove under an identity that is not in use. -/
  remove_refused : ∀ id, id ∉ s.ids →
    s.perform (.remove id) = (.refused (.ruleNotFound id), s)
  /-- The rule with an identity in use is taken out. -/
  removed : ∀ id, id ∈ s.ids →
    ∃ before rule after t, s.perform (.remove id) = (.removed rule, t) ∧ rule.id = id ∧
      s.rules = before ++ rule :: after ∧ t.rules = before ++ after

/-- How a rule set **remembers** the changes since an earlier one. -/
structure Remembers (start : RuleSet) (changes : List Change) (s : RuleSet) : Prop where
  /-- Under an identity the rule is found that was stored last. -/
  get?_eq : ∀ id, s.get? id = lastStored id (start.get? id) (start.effects changes)
  /-- The identities stand in the order in which they came into use. -/
  ids_eq : s.ids = (start.effects changes).foldl Effect.idsAfter start.ids
  /-- The rules are those found under the identities, in their order. -/
  rules_eq : s.rules = s.ids.filterMap s.get?

/-- A rule set **made of given rules**, where it could be made. -/
structure MadeOf (rules : List Rule) (result : Except Error RuleSet) : Prop where
  /-- It can be made exactly if the identities are distinct. -/
  isOk_iff : (∃ s, result = .ok s) ↔ (ruleIds rules).Nodup
  /-- It has the rules in the given order. -/
  rules_eq : ∀ s, result = .ok s → s.rules = rules

theorem answersChanges (s : RuleSet) : s.AnswersChanges where
  nodup := s.nodup
  add_refused _ := perform_add_of_mem
  added _ := perform_add
  pushed body h := by
    obtain ⟨id, t, hperform, hlt, hrules⟩ := s.perform_push body h
    refine ⟨id, t, hperform, hlt, hrules, ?_⟩
    have hget := s.get?_perform (.push body) id
    rw [hperform] at hget
    exact hget.trans (if_pos rfl)
  exhausted _ := perform_push_of_mem
  update_refused _ := perform_update_of_not_mem
  updated _ := perform_update
  remove_refused _ := perform_remove_of_not_mem
  removed _ := perform_remove

theorem remembers_run (start : RuleSet) (changes : List Change) :
    start.Remembers changes (start.run changes) :=
  ⟨start.get?_run changes, start.ids_run changes, (start.run changes).filterMap_get?_ids.symm⟩

theorem madeOf_ofRules (rules : List Rule) : MadeOf rules (ofRules rules) where
  isOk_iff := by
    refine ⟨?_, fun h => ⟨_, ofRules_eq h⟩⟩
    rintro ⟨s, hs⟩
    exact rules_of_ofRules hs ▸ s.nodup
  rules_eq _ := rules_of_ofRules

/-- A document is loaded as its rules would be put together one after another. -/
theorem madeOf_ofDocument {text : String} {rules : List Rule}
    (h : (Json.parse? text).bind rulesOfJson? = some rules) : MadeOf rules (ofDocument text) := by
  have hmade := madeOf_ofRules rules
  cases hrules : ofRules rules with
  | ok s =>
    have hdocument : ofDocument text = .ok s := by simp only [ofDocument, h, hrules]
    rw [hrules] at hmade
    rwa [hdocument]
  | error e =>
    have hdocument : ofDocument text = .error (.serialization e.message) := by
      simp only [ofDocument, h, hrules]
    -- the error is another one, and in either case no rule set is made
    rw [hrules] at hmade
    rw [hdocument]
    refine ⟨Iff.trans ?_ hmade.isOk_iff, fun s hs => by cases hs⟩
    exact iff_of_false (by rintro ⟨s, ⟨⟩⟩) (by rintro ⟨s, ⟨⟩⟩)

/-- Rule sets are **ordered maps**, wherever they come from and whatever has been done to them. -/
structure IsOrderedMap : Prop where
  /-- Given rules are put together. -/
  ofRules : ∀ rules, MadeOf rules (ofRules rules)
  /-- A document that lists rules is loaded. -/
  ofDocument : ∀ text rules, (Json.parse? text).bind rulesOfJson? = some rules →
    MadeOf rules (ofDocument text)
  /-- After any changes, further ones are answered alike. -/
  answersChanges : ∀ (start : RuleSet) (changes : List Change),
    (start.run changes).AnswersChanges
  /-- All that is remembered of the changes is what they stored and removed. -/
  remembers : ∀ (start : RuleSet) (changes : List Change),
    start.Remembers changes (start.run changes)

/-- **A rule set is an ordered map from identities to rules** over any history of changes. -/
theorem isOrderedMap : IsOrderedMap where
  ofRules := madeOf_ofRules
  ofDocument _ _ := madeOf_ofDocument
  answersChanges start changes := (start.run changes).answersChanges
  remembers := remembers_run

end DataQuality.RuleSet
