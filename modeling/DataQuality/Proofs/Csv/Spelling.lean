import DataQuality.Csv.Reader
import DataQuality.Csv.Writer

/-!
# How records are spelled as delimited text

The writer and the reader of delimited text meet at `DataQuality.Csv.Spells`, which says of records
and of a text that the text is one way to write the records down. A field stands there as it is, if
no unit of it means anything to the format, or in quotes, where a quote is written twice; fields are
parted by delimiters, and every record ends with its line.

What the writer writes spells its records (`DataQuality.Csv.spells_document`), and the reader reads
every spelling back (`DataQuality.Csv.records_of_spells`). So no field can end early or late, and no
line can be added, whatever is in the fields.

A blank line spells nothing. This is why a record has to have some text of its own in
`DataQuality.Csv.Spells`: a record that is one empty field, written without quotes, would be lost.
-/

namespace DataQuality.Csv

variable {α : Type}

/-! ### Spellings -/

/-- Units **inside quotes**, and the field that they stand for: a quote is written twice. -/
inductive InQuotes (d : Dialect α) : List α → List α → Prop
  /-- Nothing stands for the empty field. -/
  | nil : InQuotes d [] []
  /-- Two quotes stand for one. -/
  | quote {f cs : List α} (h : InQuotes d f cs) :
      InQuotes d (d.quote :: f) (d.quote :: d.quote :: cs)
  /-- Any other unit stands for itself. -/
  | unit {c : α} {f cs : List α} (hc : c ≠ d.quote) (h : InQuotes d f cs) :
      InQuotes d (c :: f) (c :: cs)

/-- A unit that means nothing to the format. -/
structure Dialect.IsPlain (d : Dialect α) (c : α) : Prop where
  /-- It parts no fields. -/
  ne_delimiter : c ≠ d.delimiter
  /-- It opens and closes nothing. -/
  ne_quote : c ≠ d.quote
  /-- It does not return the carriage, … -/
  ne_carriageReturn : c ≠ d.carriageReturn
  /-- … and does not feed a line. -/
  ne_lineFeed : c ≠ d.lineFeed

/-- The spellings of a **field**. -/
inductive SpellsField (d : Dialect α) : List α → List α → Prop
  /-- As it is, when it has plain units only. -/
  | plain {f : List α} (h : ∀ c ∈ f, d.IsPlain c) : SpellsField d f f
  /-- In quotes. -/
  | quoted {f cs : List α} (h : InQuotes d f cs) :
      SpellsField d f (d.quote :: (cs ++ [d.quote]))

/-- The spellings of a **record**, its line end apart. -/
inductive SpellsRecord (d : Dialect α) : List (List α) → List α → Prop
  /-- The last field. -/
  | last {f cs : List α} (h : SpellsField d f cs) : SpellsRecord d [f] cs
  /-- A field, a delimiter, and the fields behind it. -/
  | cons {f cs : List α} {fs : List (List α)} {ds : List α} (h : SpellsField d f cs)
      (hrest : SpellsRecord d fs ds) : SpellsRecord d (f :: fs) (cs ++ d.delimiter :: ds)

/-- A **line end**: a line feed, which a carriage return may stand before. -/
inductive LineEnd (d : Dialect α) : List α → Prop
  /-- A line feed alone. -/
  | lineFeed : LineEnd d [d.lineFeed]
  /-- A carriage return and a line feed. -/
  | both : LineEnd d [d.carriageReturn, d.lineFeed]

/-- The **spellings of some records**: one after another, each with its line end and none of them
as a blank line. -/
inductive Spells (d : Dialect α) : List (List (List α)) → List α → Prop
  /-- No records, no text. -/
  | nil : Spells d [] []
  /-- A record, its line end, and the records behind it. -/
  | cons {r : List (List α)} {cs e : List α} {rs : List (List (List α))} {ds : List α}
      (h : SpellsRecord d r cs) (hcs : cs ≠ []) (hend : LineEnd d e) (hrest : Spells d rs ds) :
      Spells d (r :: rs) (cs ++ (e ++ ds))

variable [DecidableEq α]

/-- A dialect in which **no unit has two meanings**. The two units that end a record may be one. -/
structure Dialect.IsClear (d : Dialect α) : Prop where
  /-- The delimiter is no quote. -/
  delimiter_ne_quote : d.delimiter ≠ d.quote
  /-- The delimiter ends no record. -/
  endsRecord_delimiter : d.endsRecord d.delimiter = false
  /-- Nor does the quote. -/
  endsRecord_quote : d.endsRecord d.quote = false

/-! ### Reading -/

section Reading

variable {d : Dialect α}

theorem Dialect.IsPlain.endsRecord {c : α} (h : d.IsPlain c) : d.endsRecord c = false := by
  rw [Dialect.endsRecord, Bool.or_eq_false_iff, decide_eq_false_iff_not, decide_eq_false_iff_not]
  exact ⟨h.ne_carriageReturn, h.ne_lineFeed⟩

/-- Inside quotes the reader takes in the whole field, and then stands behind the closing quote. -/
theorem readFrom_quoted {f cs : List α} (h : InQuotes d f cs) (field : List α)
    (record : List (List α)) (rest : List α) :
    readFrom d .quoted field record (cs ++ d.quote :: rest) =
      readFrom d .quoteSeen (f.reverse ++ field) record rest := by
  induction h generalizing field with
  | nil => simp [readFrom]
  | quote _ ih => simp [readFrom, ih]
  | unit hc _ ih => simp [readFrom, hc, ih]

/-- Outside quotes it takes in the plain units. -/
theorem readFrom_plain {f : List α} (h : ∀ c ∈ f, d.IsPlain c) (field : List α)
    (record : List (List α)) (rest : List α) :
    readFrom d .plain field record (f ++ rest) =
      readFrom d .plain (f.reverse ++ field) record rest := by
  induction f generalizing field with
  | nil => rfl
  | cons c f ih =>
    have hc := h c List.mem_cons_self
    have hrest := ih (fun a ha => h a (List.mem_cons_of_mem c ha)) (c :: field)
    simp [readFrom, hc.ne_delimiter, hc.endsRecord, hrest]

section Clear

variable (hd : d.IsClear)

include hd

/-- **A field ends at a delimiter or at a line end**, wherever the reader stands behind it. -/
theorem readFrom_end {place : Place} {field : List α}
    (hplace : place = .plain ∨ place = .quoteSeen ∨ place = .fieldStart ∧ field = []) {c : α}
    (hc : c = d.delimiter ∨ d.endsRecord c = true) (record : List (List α)) (rest : List α) :
    readFrom d place field record (c :: rest) =
      if c = d.delimiter then readFrom d .fieldStart [] (field.reverse :: record) rest
      else (field.reverse :: record).reverse :: readFrom d .recordStart [] [] rest := by
  have hquote : c ≠ d.quote := by
    rintro rfl
    rcases hc with heq | hends
    · exact hd.delimiter_ne_quote heq.symm
    · exact absurd hends (Bool.eq_false_iff.mp hd.endsRecord_quote)
  have hends : c ≠ d.delimiter → d.endsRecord c = true := hc.resolve_left
  rcases hplace with rfl | rfl | ⟨rfl, rfl⟩ <;>
    by_cases hdelimiter : c = d.delimiter <;>
    simp_all [readFrom]

/-- **A field is read back from every spelling**, up to the delimiter or the line end behind it. -/
theorem readFrom_field {f cs : List α} (h : SpellsField d f cs) {c : α}
    (hc : c = d.delimiter ∨ d.endsRecord c = true) (record : List (List α)) (rest : List α) :
    readFrom d .fieldStart [] record (cs ++ c :: rest) =
      if c = d.delimiter then readFrom d .fieldStart [] (f :: record) rest
      else (f :: record).reverse :: readFrom d .recordStart [] [] rest := by
  cases h with
  | plain h =>
    cases f with
    | nil => exact readFrom_end hd (.inr (.inr ⟨rfl, rfl⟩)) hc record rest
    | cons a f =>
      have ha := h a List.mem_cons_self
      have hopen : readFrom d .fieldStart [] record (a :: f ++ c :: rest) =
          readFrom d .plain [a] record (f ++ c :: rest) := by
        simp [readFrom, ha.ne_quote, ha.ne_delimiter, ha.endsRecord]
      rw [hopen, readFrom_plain (fun b hb => h b (List.mem_cons_of_mem a hb)),
        readFrom_end hd (.inl rfl) hc, List.reverse_append, List.reverse_reverse]
      rfl
  | quoted h =>
    have hopen : ∀ cs, readFrom d .fieldStart [] record (d.quote :: cs) =
        readFrom d .quoted [] record cs := by
      intro cs
      simp [readFrom]
    rw [List.cons_append, hopen, List.append_assoc, List.singleton_append, readFrom_quoted h,
      readFrom_end hd (.inr (.inl rfl)) hc, List.append_nil, List.reverse_reverse]

/-- **A record is read back from every spelling**, behind the fields read before. -/
theorem readFrom_record {fs : List (List α)} {cs : List α} (h : SpellsRecord d fs cs) {c : α}
    (hc : d.endsRecord c = true) (record : List (List α)) (rest : List α) :
    readFrom d .fieldStart [] record (cs ++ c :: rest) =
      (record.reverse ++ fs) :: readFrom d .recordStart [] [] rest := by
  have hdelimiter : c ≠ d.delimiter := by
    rintro rfl
    exact absurd hc (Bool.eq_false_iff.mp hd.endsRecord_delimiter)
  induction h generalizing record with
  | last h => rw [readFrom_field hd h (.inr hc), if_neg hdelimiter, List.reverse_cons]
  | cons h _ ih =>
    rw [List.append_assoc, List.cons_append, readFrom_field hd h (.inl rfl), if_pos rfl, ih,
      List.reverse_cons, List.append_assoc, List.singleton_append]

/-- A record does not begin with a line end. -/
theorem SpellsRecord.endsRecord_head {fs : List (List α)} {cs : List α} (h : SpellsRecord d fs cs)
    {c : α} (hc : c ∈ cs.head?) : d.endsRecord c = false := by
  have hfield : ∀ {f cs : List α}, SpellsField d f cs → ∀ c ∈ cs.head?, d.endsRecord c = false := by
    rintro f cs (h | h) c hc
    · exact (h c (List.mem_of_mem_head? hc)).endsRecord
    · obtain rfl := Option.some.inj hc
      exact hd.endsRecord_quote
  cases h with
  | last h => exact hfield h c hc
  | @cons f cs _ _ h _ =>
    cases cs with
    | nil =>
      obtain rfl := Option.some.inj hc
      exact hd.endsRecord_delimiter
    | cons a cs => exact hfield h c hc

/-- **Records are read back from every spelling.** -/
theorem records_of_spells {rs : List (List (List α))} {text : List α} (h : Spells d rs text) :
    records d text = rs := by
  have hreturn : d.endsRecord d.carriageReturn = true := by simp [Dialect.endsRecord]
  have hfeed : d.endsRecord d.lineFeed = true := by simp [Dialect.endsRecord]
  rw [records]
  induction h with
  | nil => rfl
  | @cons r cs e rs ds h hcs hend _ ih =>
    obtain ⟨a, as, rfl⟩ := List.exists_cons_of_ne_nil hcs
    -- a line that begins with no line end is read as if fields had been read before it
    have hline : ∀ {c : α}, d.endsRecord c = true → ∀ rest,
        readFrom d .recordStart [] [] (a :: as ++ c :: rest) =
          r :: readFrom d .recordStart [] [] rest := by
      intro c hc rest
      have ha := h.endsRecord_head hd (c := a) rfl
      have hstart : readFrom d .recordStart [] [] (a :: as ++ c :: rest) =
          readFrom d .fieldStart [] [] (a :: as ++ c :: rest) := by
        simp [readFrom, ha]
      rw [hstart, readFrom_record hd h hc]
      rfl
    cases hend with
    | lineFeed => rw [List.singleton_append, hline hfeed, ih]
    | both =>
      change readFrom d .recordStart [] [] (a :: as ++ d.carriageReturn :: d.lineFeed :: ds) = _
      rw [hline hreturn, readFrom, if_pos hfeed, ih]

end Clear

end Reading

/-! ### Writing -/

theorem inQuotes_doubleQuotes (delimiter : Char) (cs : List Char) :
    InQuotes (.ofChars delimiter '"') cs (doubleQuotes cs) := by
  induction cs with
  | nil => exact .nil
  | cons c cs ih =>
    rw [doubleQuotes]
    split
    · next hc =>
      subst hc
      exact .quote ih
    · next hc => exact .unit hc ih

/-- **What is written of a field spells it.** -/
theorem spellsField_fieldChars (delimiter : Char) (cs : List Char) :
    SpellsField (.ofChars delimiter '"') cs (fieldChars delimiter cs) := by
  rw [fieldChars]
  split
  · exact .quoted (inQuotes_doubleQuotes delimiter cs)
  · next h =>
    refine .plain fun c hc => ?_
    rw [needsQuotes, List.any_eq_true] at h
    have hplain : ∀ special, (c == special) = true → special ∈ [delimiter, '"', '\r', '\n'] →
        False := by
      intro special heq hmem
      refine h ⟨c, hc, ?_⟩
      rw [beq_iff_eq] at heq
      subst heq
      simpa [or_assoc] using hmem
    refine ⟨?_, ?_, ?_, ?_⟩ <;>
    · rintro rfl
      exact hplain _ (beq_self_eq_true _) (by simp [Dialect.ofChars])

theorem spellsRecord_fieldsChars (delimiter : Char) {fs : List (List Char)} (h : fs ≠ []) :
    SpellsRecord (.ofChars delimiter '"') fs (fieldsChars delimiter fs) := by
  induction fs with
  | nil => exact absurd rfl h
  | cons f fs ih =>
    cases fs with
    | nil => exact .last (spellsField_fieldChars delimiter f)
    | cons g fs => exact .cons (spellsField_fieldChars delimiter f) (ih (List.cons_ne_nil g fs))

/-- **What is written of some records spells them.** With two fields at least, no record is written
as a blank line. -/
theorem spells_document (delimiter : Char) {records : List (List String)}
    (h : ∀ r ∈ records, 2 ≤ r.length) :
    Spells (.ofChars delimiter '"') (records.map (·.map String.toList))
      (document delimiter records).toList := by
  rw [document, String.toList_ofList]
  induction records with
  | nil => exact .nil
  | cons r records ih =>
    obtain ⟨f, g, fs, rfl⟩ : ∃ f g fs, r = f :: g :: fs := by
      match r, h r List.mem_cons_self with
      | f :: g :: fs, _ => exact ⟨f, g, fs, rfl⟩
    have hline : fieldsChars delimiter ((f :: g :: fs).map String.toList) ≠ [] := by
      simp [fieldsChars]
    rw [List.flatMap_cons, recordChars, List.append_assoc]
    exact .cons (spellsRecord_fieldsChars delimiter (by simp)) hline .lineFeed
      (ih fun r hr => h r (List.mem_cons_of_mem _ hr))

/-- The writer's dialect is clear as long as the delimiter is none of its other units. -/
theorem isClear_ofChars {delimiter : Char} (hquote : delimiter ≠ '"') (hreturn : delimiter ≠ '\r')
    (hfeed : delimiter ≠ '\n') : (Dialect.ofChars delimiter '"').IsClear where
  delimiter_ne_quote := hquote
  endsRecord_delimiter := by simp [Dialect.endsRecord, Dialect.ofChars, hreturn, hfeed]
  endsRecord_quote := by
    change (decide ('"' = '\r') || decide ('"' = '\n')) = false
    decide

end DataQuality.Csv
