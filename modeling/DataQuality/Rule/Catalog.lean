import DataQuality.Rule.Set

/-!
# The built-in rules

The rules for sheets on crops, which stand in when a run is started without any rule of its own:

* every percentage lies between 0 and 100, an empty cell counting as zero;
* a later sowing or harvest area is not smaller than the one before it; a later area that is zero or
  blank passes, and an empty earlier one counts as zero;
* the latest sowing area other than zero does not exceed the agriculture area;
* a second sowing area is there exactly when its annotation is.
-/

namespace DataQuality.Catalog

/-! ### Headers -/

/-- The area of the first sowing. -/
def sowing1Area : String := "Sowing 1 Area (ha)"
/-- The area of the second sowing. -/
def sowing2Area : String := "Sowing2 Area (ha)"
/-- The area of the third sowing. -/
def sowing3Area : String := "Sowing 3 Area (ha)"
/-- The annotation of the second sowing. -/
def sowing2Annotation : String := "Sowing 2 ACR"
/-- The agriculture area. -/
def agricultureArea : String := "Total Agriculture Area (ha)"

/-- The headers that a sheet has to have, in order. -/
def mandatoryHeaders : List String :=
  ["FPO Code", "State", "District", "Subdistrict", "Village", "RID",
    "Total Geographical Area (ha)", "Total Agriculture Area (ha)", "Sowing 1 Area (ha)",
    "Sowing 1 Percentage", "Sowing2 Area (ha)", "Sowing 2 Percentage", "Sowing 2 ACR",
    "Sowing 3 Area (ha)", "Sowing 3 Percentage", "Major crops", "Crop  Area (ha) K025",
    "Crop  Area Percentage K025", "Crop Area Risk", "Harvest 1 Area(ha)",
    "Harvest 1 Area Percentage", "Harvest 2 Area(ha)", "Harvest 2 Area Percentage",
    "Harvest 2 Area Risk", "Harvest 3 Area (ha)", "Harvest 3 Area Percentage",
    "Harvest 4 Area (ha)", "Harvest 4 ACR", "Harvest 4 Area Percentage"]

/-- The percentages, each with its label and its column. -/
def percentages : List (String × String) :=
  [("Sowing 1 %", "Sowing 1 Percentage"), ("Sowing 2 %", "Sowing 2 Percentage"),
    ("Sowing 3 %", "Sowing 3 Percentage"), ("Crop Area %", "Crop  Area Percentage K025"),
    ("Harvest 1 %", "Harvest 1 Area Percentage"), ("Harvest 2 %", "Harvest 2 Area Percentage"),
    ("Harvest 3 %", "Harvest 3 Area Percentage"), ("Harvest 4 %", "Harvest 4 Area Percentage")]

/-- Two areas of which the later one must not be the smaller one. -/
structure Progression where
  /-- The label of the later area. -/
  laterLabel : String
  /-- The column of the later area. -/
  later : String
  /-- The label of the earlier area. -/
  earlierLabel : String
  /-- The column of the earlier area. -/
  earlier : String

/-- The areas that follow one another. -/
def progressions : List Progression :=
  [⟨"Sowing 2", sowing2Area, "Sowing 1", sowing1Area⟩,
    ⟨"Sowing 3", sowing3Area, "Sowing 2", sowing2Area⟩,
    ⟨"Harvest 2", "Harvest 2 Area(ha)", "Harvest 1", "Harvest 1 Area(ha)"⟩,
    ⟨"Harvest 3", "Harvest 3 Area (ha)", "Harvest 2", "Harvest 2 Area(ha)"⟩,
    ⟨"Harvest 4", "Harvest 4 Area (ha)", "Harvest 3", "Harvest 3 Area (ha)"⟩]

/-! ### Rules -/

/-- A rule before it gets an identity: its body, its name and its message. -/
structure Draft where
  /-- What the rule checks. -/
  rule : RowRule
  /-- The name of the rule. -/
  name : String
  /-- What is reported. -/
  message : String

/-- The percentage in a column lies between 0 and 100. -/
def range (label column : String) : Draft where
  rule := ⟨column, .between, "0,100", false, some .number, false, true, .sum⟩
  name := label ++ " Range"
  message := label ++ " outside [0, 100]"

/-- A later area is not smaller than an earlier one. -/
def progressive (p : Progression) : Draft where
  rule := ⟨p.later, .compare .gte, p.earlier, true, some .number, true, true, .sum⟩
  name := p.laterLabel ++ " >= " ++ p.earlierLabel
  message := p.laterLabel ++ " < " ++ p.earlierLabel

/-- The sowing areas, the latest one first. -/
def latestSowing : String := sowing3Area ++ "," ++ sowing2Area ++ "," ++ sowing1Area

/-- The latest sowing area does not exceed the agriculture area. -/
def limit : Draft where
  rule :=
    ⟨latestSowing, .compare .lte, agricultureArea, true, some .number, true, true, .firstNonZero⟩
  name := "Agri Area >= Latest Sowing"
  message := "Agri Area < Latest Sowing Area"

/-- A second sowing area goes with its annotation. -/
def annotation : Draft where
  rule := ⟨sowing2Area, .consistency, sowing2Annotation, true, none, false, false, .sum⟩
  name := "Sowing 2 Consistency"
  message := "Sowing 2/ACR Mismatch: If Sowing 2 != 0, ACR must exist. " ++
    "If Sowing 2 == 0, ACR must be blank."

/-- All built-in rules, in order. -/
def drafts : List Draft :=
  percentages.map (fun (label, column) => range label column) ++ progressions.map progressive ++
    [limit, annotation]

/-- Rules with consecutive identities, from the given one on. -/
def numbered (id : UInt64) : List Draft → List Rule
  | [] => []
  | d :: ds => ⟨id, some d.name, some d.message, .row d.rule⟩ :: numbered (id + 1) ds

/-- The **built-in rule set**, with identities from one on. -/
def standardRules : RuleSet := ⟨numbered 1 drafts, by decide⟩

end DataQuality.Catalog
