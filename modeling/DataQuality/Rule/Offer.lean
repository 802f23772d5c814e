import DataQuality.Rule.Aggregation

/-!
# The operators on offer

Someone who writes a rule for a column is offered the operators that make sense for its type, each
with a label. Aggregate operators exist for number columns only.
-/

namespace DataQuality

/-- An operator on **offer**: its identifier, and a label. -/
structure OfferedOperator where
  /-- The identifier, as rules hold it. -/
  id : String
  /-- The label. -/
  label : String
  deriving DecidableEq

namespace OfferedOperator

/-- The operators on rows for a column of the given type. -/
def forRows : ColumnType → List OfferedOperator
  | .number =>
    Comparator.all.map (fun c => ⟨c.id, c.symbol⟩) ++
      [⟨"between", "Between (min,max)"⟩, ⟨"consistency", "Consistency (0 ↔ Blank)"⟩]
  | .text =>
    [⟨"eq", "Equals"⟩, ⟨"neq", "Not Equals"⟩, ⟨"contains", "Contains"⟩,
      ⟨"not_contains", "Does Not Contain"⟩, ⟨"starts_with", "Starts With"⟩,
      ⟨"is_blank", "Is Blank"⟩, ⟨"not_blank", "Is Not Blank"⟩]

/-- The comparisons that are offered with each kind of aggregation. -/
def offeredKinds : List (AggregationKind × List Comparator) :=
  [(.sum, Comparator.all), (.avg, [.gt, .lt, .gte, .lte]), (.min, [.gt, .lt]), (.max, [.gt, .lt])]

/-- The operators on totals for a column of the given type. -/
def forTotals : ColumnType → List OfferedOperator
  | .text => []
  | .number =>
    offeredKinds.flatMap fun (kind, comparators) =>
      comparators.map fun c => ⟨kind.id ++ "_" ++ c.id, kind.label ++ " " ++ c.symbol⟩

end OfferedOperator

end DataQuality
