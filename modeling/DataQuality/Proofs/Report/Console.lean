import DataQuality.Report.Console
import Mathlib.Data.List.TakeWhile

/-!
# What a report for the console shows of the rows

A report for the console is a text in sections. The reader of it finds a section by its title and
reads on to the next empty line (`DataQuality.Report.linesUnder`). This file says what is found in
the two sections with a line for every item, the rows and the failures of aggregate rules, when the
number of rows is limited.

## Reading sections

Sections are told apart by the first characters of their lines (`DataQuality.Report.IsSection`): a
line under a title is indented, a title is not, and a section begins with an empty line, so that no
name, message or source text can be mistaken for a title or for the end of a section. A message
that holds line feeds counts as one line here, as it was printed by one.

## What the limit does

The rows are the first ones that may be shown, and the rest of them is counted in a last line. The
limit does not do the same for everything (`DataQuality.Report.isCapped_consoleLines_iff`). It has
no part in the failures of aggregate rules, which are always listed in full; and a limit of zero
leaves out the whole section of the rows, the line that counts them included.
-/

namespace DataQuality

/-- The same choice, with rows shown **up to a limit**. -/
def ReportSettings.upTo (settings : ReportSettings) (n : Nat) : ReportSettings :=
  { settings with rows := true, maxRows := some n }

namespace Report

/-! ### Sections -/

/-- The **lines under a title**, up to the next empty line. -/
def linesUnder (title : String) (lines : List String) : List String :=
  ((lines.dropWhile (· ≠ title)).drop 1).takeWhile (· ≠ "")

/-- Whether a line begins with a character. -/
def OpensWith (c : Char) (line : String) : Prop := line.toList.head? = some c

instance (c : Char) (line : String) : Decidable (OpensWith c line) :=
  inferInstanceAs (Decidable (line.toList.head? = some c))

theorem OpensWith.append {c : Char} {s : String} (h : OpensWith c s) (t : String) :
    OpensWith c (s ++ t) := by
  rw [OpensWith, String.toList_append, List.head?_append, h]
  rfl

theorem OpensWith.ne {c c' : Char} {s t : String} (hs : OpensWith c s) (ht : OpensWith c' t)
    (h : c ≠ c') : s ≠ t := by
  rintro rfl
  exact h (Option.some.inj (hs.symm.trans ht))

theorem OpensWith.ne_empty {c : Char} {s : String} (h : OpensWith c s) : s ≠ "" := by
  rintro rfl
  exact Option.some_ne_none c (h.symm.trans rfl)

/-- A **section**: nothing, or an empty line, a title, and indented lines. -/
inductive IsSection (title : String) : List String → Prop
  /-- The section is left out. -/
  | absent : IsSection title []
  /-- The section is shown. -/
  | present (content : List String) (h : ∀ line ∈ content, OpensWith ' ' line) :
    IsSection title ("" :: title :: content)

/-- Whether lines are none or begin with an empty one. -/
def StartsBlank (lines : List String) : Prop := ∀ line ∈ lines.head?, line = ""

section Reading

variable {title other : String} {c : Char} {lines before after : List String}

theorem IsSection.startsBlank_append (h : IsSection title lines) (hafter : StartsBlank after) :
    StartsBlank (lines ++ after) := by
  cases h with
  | absent => exact hafter
  | present content _ => simp [StartsBlank]

/-- A title stands in no section but its own. -/
theorem IsSection.not_mem (h : IsSection other lines) (htitle : OpensWith c title) (hc : c ≠ ' ')
    (hne : title ≠ other) : title ∉ lines := by
  cases h with
  | absent => exact List.not_mem_nil
  | present content hcontent =>
    rw [List.mem_cons, List.mem_cons]
    rintro (heq | heq | hmem)
    · exact htitle.ne_empty heq
    · exact hne heq
    · exact htitle.ne (hcontent title hmem) hc rfl

theorem linesUnder_of_not_mem (h : title ∉ lines) : linesUnder title lines = [] := by
  have hdrop : lines.dropWhile (· ≠ title) = [] := by
    refine List.dropWhile_eq_nil_iff.mpr fun line hline => ?_
    exact decide_eq_true fun heq => h (heq ▸ hline)
  rw [linesUnder, hdrop]
  rfl

/-- **A section is read back under its title**, whatever comes before and after it, as long as the
title does not, and an empty line comes next. -/
theorem IsSection.linesUnder_eq (h : IsSection title lines) (htitle : title ≠ "")
    (hbefore : title ∉ before) (hafter : title ∉ after) (hblank : StartsBlank after) :
    linesUnder title (before ++ lines ++ after) = lines.drop 2 := by
  cases h with
  | absent =>
    rw [List.append_nil]
    exact linesUnder_of_not_mem (List.not_mem_append hbefore hafter)
  | present content hcontent =>
    have hpassed : ∀ line ∈ before ++ [""], decide (line ≠ title) = true := by
      intro line hline
      refine decide_eq_true ?_
      rintro rfl
      rcases List.mem_append.mp hline with hline | hline
      · exact hbefore hline
      · exact htitle (List.mem_singleton.mp hline)
    have hkept : ∀ line ∈ content, decide (line ≠ "") = true := fun line hline =>
      decide_eq_true (hcontent line hline).ne_empty
    have hstop : after.takeWhile (· ≠ "") = [] := by
      cases after with
      | nil => rfl
      | cons line after =>
        rw [List.takeWhile_cons_of_neg]
        simp [hblank line rfl]
    have hsplit : before ++ "" :: title :: content ++ after =
        (before ++ [""]) ++ title :: (content ++ after) := by
      simp
    -- the title is the first line that is not passed, and what follows is kept up to `after`
    rw [linesUnder, hsplit, List.dropWhile_append_of_pos hpassed,
      List.dropWhile_cons_of_neg (by simp), List.drop_one, List.tail_cons,
      List.takeWhile_append_of_pos hkept, hstop, List.append_nil]
    rfl

end Reading

/-! ### The sections of a report -/

/-- The title of the rows. -/
def rowsTitle : String := "🔍 Rows:"

/-- The title of the failures of aggregate rules. -/
def errorsTitle : String := "🌐 Aggregate Failures:"

/-- The line that counts rows which are left out, if there are any. -/
def countLines (others : Nat) : List String :=
  if others = 0 then [] else ["   ... and " ++ toString others ++ " more rows"]

section Sections

variable (settings : ReportSettings) (r : Report) (e : Execution)

/-- An indented line begins with a blank, whatever follows the indentation. -/
theorem opensWith_indented (s : String) : OpensWith ' ' ("   " ++ s) := by
  have hopens : OpensWith ' ' "   " := rfl
  exact hopens.append s

theorem opensWith_rowLine (v : RowVerdict) : OpensWith ' ' (rowLine v) := by
  have hopens : OpensWith ' ' "   Row " := rfl
  -- the line is only opened up here, one piece at a time; rewriting would look into the literals
  delta rowLine
  iterate 5 apply OpensWith.append
  exact hopens

theorem opensWith_scanLine (c : ColumnMetrics) : OpensWith ' ' (scanLine c) := by
  delta scanLine
  iterate 10 apply OpensWith.append
  exact opensWith_indented c.name

theorem opensWith_profileLine (c : ColumnProfile) : OpensWith ' ' (profileLine c) := by
  delta profileLine
  iterate 9 apply OpensWith.append
  exact opensWith_indented c.name

theorem opensWith_countLines (others : Nat) : ∀ line ∈ countLines others, OpensWith ' ' line := by
  intro line hline
  have hopens : OpensWith ' ' "   ... and " := rfl
  rw [countLines] at hline
  split at hline
  · exact absurd hline List.not_mem_nil
  · rw [List.mem_singleton.mp hline]
    exact (hopens.append _).append _

theorem remainderLines_eq : remainderLines settings e =
    countLines ((eligible settings e).length - (selected settings e).length) := by
  rw [remainderLines, countLines]
  by_cases hmore : (selected settings e).length < (eligible settings e).length
  · rw [if_pos hmore, if_neg (by omega)]
  · rw [if_neg hmore, if_pos (by omega)]

theorem isSection_globalLines : IsSection errorsTitle (globalLines e) := by
  rw [globalLines]
  split
  · exact .absent
  · refine .present (e.globalErrors.map ("   " ++ ·)) fun line hline => ?_
    obtain ⟨message, -, rfl⟩ := List.mem_map.mp hline
    exact opensWith_indented message

theorem isSection_rowLines : IsSection rowsTitle (rowLines settings e) := by
  rw [rowLines, remainderLines_eq]
  split
  · exact .absent
  · rw [List.append_assoc]
    refine .present ((selected settings e).map rowLine ++ countLines _) fun line hline => ?_
    rcases List.mem_append.mp hline with hline | hline
    · obtain ⟨v, -, rfl⟩ := List.mem_map.mp hline
      exact opensWith_rowLine v
    · exact opensWith_countLines _ line hline

theorem isSection_scanLines : IsSection "🧪 Quick Scan:" (scanLines settings r) := by
  rw [scanLines]
  split
  · split
    · refine .present _ fun line hline => ?_
      obtain ⟨column, -, rfl⟩ := List.mem_map.mp hline
      exact opensWith_scanLine column
    · exact .absent
  · exact .absent

theorem isSection_profileLines : IsSection "📋 Data Profile:" (profileLines settings r) := by
  rw [profileLines]
  split
  · split
    · refine .present _ fun line hline => ?_
      obtain ⟨column, -, rfl⟩ := List.mem_map.mp hline
      exact opensWith_profileLine column
    · exact .absent
  · exact .absent

theorem isSection_summaryLines : IsSection "📊 Summary:" (summaryLines settings e) := by
  refine .present _ fun line hline => ?_
  simp only [List.mem_cons, List.not_mem_nil, or_false] at hline
  rcases hline with rfl | rfl | rfl | rfl | rfl | rfl
  · exact OpensWith.append (by decide) _
  · exact OpensWith.append (by decide) _
  · exact OpensWith.append (by decide) _
  · exact (OpensWith.append (by decide) _).append _
  · exact (OpensWith.append (by decide) _).append _
  · exact OpensWith.append (by decide) _

variable {c : Char} {title : String}

/-- No title stands above the sections. -/
theorem not_mem_headLines (htitle : OpensWith c title) (hc : c ∉ ['✅', '❌', 'S', 'G']) :
    title ∉ verdictLines settings e ++ originLines settings r := by
  -- the lines above the sections are empty or begin with one of these characters
  have hne : ∀ {c' line}, OpensWith c' line → c' ∈ ['✅', '❌', 'S', 'G'] → title ≠ line :=
    fun hline hmem => htitle.ne hline fun heq => hc (heq ▸ hmem)
  have hpassed : OpensWith '✅' "✅ " := by decide
  have hfailed : OpensWith '❌' "❌ " := by decide
  have hsource : OpensWith 'S' "Source: " := by decide
  have hgenerated : OpensWith 'G' "Generated: " := by decide
  refine List.not_mem_append ?_ (List.not_mem_append ?_ ?_)
  · simp only [verdictLines, List.mem_cons, List.not_mem_nil, or_false, not_or]
    refine ⟨htitle.ne_empty, ?_, htitle.ne_empty⟩
    split
    · exact hne (hpassed.append _) (by simp)
    · exact hne (hfailed.append _) (by simp)
  · split
    · rw [List.mem_singleton]
      exact hne (hsource.append _) (by simp)
    · exact List.not_mem_nil
  · split
    · rw [List.mem_singleton]
      exact hne (hgenerated.append _) (by simp)
    · exact List.not_mem_nil

/-- The rows are found under their title. -/
theorem linesUnder_rowsTitle :
    linesUnder rowsTitle (consoleLines settings r) = (rowLines settings r.execution).drop 2 := by
  have hopens : OpensWith '🔍' rowsTitle := by decide
  have hsplit : consoleLines settings r =
      (verdictLines settings r.execution ++ originLines settings r ++
        summaryLines settings r.execution ++ globalLines r.execution) ++
      rowLines settings r.execution ++
        (scanLines settings r ++ (profileLines settings r ++ [""])) := by
    simp only [consoleLines, List.append_assoc]
  rw [hsplit]
  refine (isSection_rowLines settings r.execution).linesUnder_eq hopens.ne_empty ?_ ?_ ?_
  · refine List.not_mem_append (List.not_mem_append ?_ ?_) ?_
    · exact not_mem_headLines settings r r.execution hopens (by decide)
    · exact (isSection_summaryLines settings r.execution).not_mem hopens (by decide) (by decide)
    · exact (isSection_globalLines r.execution).not_mem hopens (by decide) (by decide)
  · refine List.not_mem_append ?_ (List.not_mem_append ?_ ?_)
    · exact (isSection_scanLines settings r).not_mem hopens (by decide) (by decide)
    · exact (isSection_profileLines settings r).not_mem hopens (by decide) (by decide)
    · exact fun hmem => hopens.ne_empty (List.mem_singleton.mp hmem)
  · refine (isSection_scanLines settings r).startsBlank_append ?_
    refine (isSection_profileLines settings r).startsBlank_append ?_
    simp [StartsBlank]

/-- So are the failures of aggregate rules. -/
theorem linesUnder_errorsTitle :
    linesUnder errorsTitle (consoleLines settings r) = (globalLines r.execution).drop 2 := by
  have hopens : OpensWith '🌐' errorsTitle := by decide
  have hsplit : consoleLines settings r =
      (verdictLines settings r.execution ++ originLines settings r ++
        summaryLines settings r.execution) ++ globalLines r.execution ++
      (rowLines settings r.execution ++
        (scanLines settings r ++ (profileLines settings r ++ [""]))) := by
    simp only [consoleLines, List.append_assoc]
  rw [hsplit]
  refine (isSection_globalLines r.execution).linesUnder_eq hopens.ne_empty ?_ ?_ ?_
  · refine List.not_mem_append ?_ ?_
    · exact not_mem_headLines settings r r.execution hopens (by decide)
    · exact (isSection_summaryLines settings r.execution).not_mem hopens (by decide) (by decide)
  · refine List.not_mem_append ?_ (List.not_mem_append ?_ (List.not_mem_append ?_ ?_))
    · exact (isSection_rowLines settings r.execution).not_mem hopens (by decide) (by decide)
    · exact (isSection_scanLines settings r).not_mem hopens (by decide) (by decide)
    · exact (isSection_profileLines settings r).not_mem hopens (by decide) (by decide)
    · exact fun hmem => hopens.ne_empty (List.mem_singleton.mp hmem)
  · refine (isSection_rowLines settings r.execution).startsBlank_append ?_
    refine (isSection_scanLines settings r).startsBlank_append ?_
    refine (isSection_profileLines settings r).startsBlank_append ?_
    simp [StartsBlank]

end Sections

/-! ### The limit -/

/-- Lines **keep to a limit** on rows and failures of aggregate rules: of both at most so many are
listed, the first ones, and the rows that are left out are counted. -/
structure IsCapped (settings : ReportSettings) (e : Execution) (n : Nat) (lines : List String) :
    Prop where
  /-- The first rows that may be shown are listed, and the others are counted. -/
  rows : ∃ shown others, shown <+: eligible settings e ∧ shown.length ≤ n ∧
    shown.length + others = (eligible settings e).length ∧
      linesUnder rowsTitle lines = shown.map rowLine ++ countLines others
  /-- The first failures of aggregate rules are listed. -/
  errors : ∃ listed, listed <+: e.globalErrors ∧ listed.length ≤ n ∧
    linesUnder errorsTitle lines = listed.map ("   " ++ ·)

/-- What lines show of rows and failures of aggregate rules **under a limit**. -/
structure ShowsUpTo (settings : ReportSettings) (e : Execution) (n : Nat) (lines : List String) :
    Prop where
  /-- A row may be shown if it failed or is marked as a repetition, or if rows that passed are shown
  too. -/
  eligible_eq : eligible settings e =
    e.results.filter fun v => settings.passingRows || !v.passed || v.isDuplicate
  /-- As many of the first rows that may be shown as the limit allows are listed, and the others are
  counted, unless the limit is zero. -/
  rows : ∃ shown others, shown <+: eligible settings e ∧
    shown.length = min n (eligible settings e).length ∧
      shown.length + others = (eligible settings e).length ∧
        linesUnder rowsTitle lines =
          shown.map rowLine ++ if n = 0 then [] else countLines others
  /-- All failures of aggregate rules are listed. -/
  errors : linesUnder errorsTitle lines = e.globalErrors.map ("   " ++ ·)
  /-- So the lines keep to the limit exactly if it leaves no failure of an aggregate rule out, and
  is not zero while there are rows to show. -/
  isCapped_iff : IsCapped settings e n lines ↔
    e.globalErrors.length ≤ n ∧ (n = 0 → eligible settings e = [])

section Limit

variable (settings : ReportSettings) (r : Report) (e : Execution) (n : Nat)

theorem countLines_eq_nil_iff {others : Nat} : countLines others = [] ↔ others = 0 := by
  rw [countLines]
  split <;> simp_all

theorem drop_two_globalLines : (globalLines e).drop 2 = e.globalErrors.map ("   " ++ ·) := by
  rw [globalLines]
  split
  · next hempty => rw [List.isEmpty_iff.mp hempty]; rfl
  · rfl

theorem drop_two_rowLines : (rowLines (settings.upTo n) e).drop 2 =
    ((eligible settings e).take n).map rowLine ++
      if n = 0 then [] else countLines ((eligible settings e).length - n) := by
  have hselected : selected (settings.upTo n) e = (eligible settings e).take n := rfl
  have heligible : eligible (settings.upTo n) e = eligible settings e := rfl
  have hothers : (eligible settings e).length - min n (eligible settings e).length =
      (eligible settings e).length - n := by
    omega
  rw [rowLines, remainderLines_eq, hselected, heligible, List.length_take, hothers]
  rcases eq_or_ne n 0 with rfl | hn
  · rfl
  · rw [if_neg hn]
    rcases heq : eligible settings e with _ | ⟨v, vs⟩
    · simp [countLines]
    · obtain ⟨m, rfl⟩ := Nat.exists_eq_succ_of_ne_zero hn
      rfl

/-- **When a report keeps to its limit.** -/
theorem isCapped_consoleLines_iff :
    IsCapped settings r.execution n (consoleLines (settings.upTo n) r) ↔
      r.execution.globalErrors.length ≤ n ∧ (n = 0 → eligible settings r.execution = []) := by
  have hrows := linesUnder_rowsTitle (settings.upTo n) r
  have herrors := linesUnder_errorsTitle (settings.upTo n) r
  rw [drop_two_rowLines] at hrows
  rw [drop_two_globalLines] at herrors
  constructor
  · rintro ⟨⟨shown, others, -, hshown, hlength, hlisted⟩, ⟨listed, -, hle, hlines⟩⟩
    constructor
    · -- the lines of the errors are as many as the errors
      have hcount := congrArg List.length (herrors.symm.trans hlines)
      rw [List.length_map, List.length_map] at hcount
      omega
    · rintro rfl
      have hnil : shown = [] := List.eq_nil_of_length_eq_zero (by omega)
      have hothers : countLines others = [] := by
        rw [hrows, hnil] at hlisted
        simpa using hlisted.symm
      rw [hnil, countLines_eq_nil_iff.mp hothers] at hlength
      exact List.eq_nil_of_length_eq_zero hlength.symm
  · rintro ⟨hle, hzero⟩
    refine ⟨⟨(eligible settings r.execution).take n, (eligible settings r.execution).length - n,
      List.take_prefix _ _, ?_, ?_, ?_⟩,
      ⟨r.execution.globalErrors, List.prefix_rfl, hle, herrors⟩⟩
    · rw [List.length_take]
      omega
    · rw [List.length_take]
      omega
    · rw [hrows]
      split
      · next h =>
        subst h
        rw [hzero rfl]
        rfl
      · rfl

/-- **A report for the console under a limit on its rows.** For every report and all settings, the
text is made of lines that list the first rows which may be shown, up to the limit, and count the
others if the limit is not zero; the failures of aggregate rules are listed whatever the limit is.
-/
theorem showsUpTo_consoleText :
    consoleText (settings.upTo n) r =
        String.join ((consoleLines (settings.upTo n) r).map (· ++ "\n")) ∧
      ShowsUpTo settings r.execution n (consoleLines (settings.upTo n) r) := by
  refine ⟨rfl, rfl, ⟨(eligible settings r.execution).take n,
    (eligible settings r.execution).length - n, List.take_prefix _ _, List.length_take, ?_, ?_⟩, ?_,
    isCapped_consoleLines_iff settings r n⟩
  · rw [List.length_take]
    omega
  · rw [linesUnder_rowsTitle, drop_two_rowLines]
  · rw [linesUnder_errorsTitle, drop_two_globalLines]

end Limit

/-- A report on an empty dataset and **two failures of aggregate rules**. -/
def twoErrorsReport : Report :=
  .ofExecution ⟨0, 0⟩ ⟨[], .ofVerdicts [], ["FAIL [Global]: a", "FAIL [Global]: b"]⟩

/-- Both failures are listed where one line of each kind is asked for. -/
theorem consoleLines_twoErrorsReport :
    linesUnder errorsTitle (consoleLines (ReportSettings.default.upTo 1) twoErrorsReport) =
        ["   FAIL [Global]: a", "   FAIL [Global]: b"] ∧
      ¬IsCapped .default twoErrorsReport.execution 1
        (consoleLines (ReportSettings.default.upTo 1) twoErrorsReport) := by
  constructor
  · rw [linesUnder_errorsTitle]
    rfl
  · rw [isCapped_consoleLines_iff]
    decide

end Report

end DataQuality
