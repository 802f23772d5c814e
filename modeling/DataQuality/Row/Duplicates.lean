import DataQuality.Row.Signature

/-!
# Repeated rows

A row repeats an earlier one when the two have the same signature. Each repetition refers to the
first row of its kind, by a place counted from one. One pass over the rows is enough: it carries
along the first place of every signature seen so far.
-/

namespace DataQuality

/-- The first places of the signatures seen so far. -/
abbrev FirstPlaces := List (String × Nat)

/-- The references of rows with the given signatures, from the given place on. -/
def referencesFrom (seen : FirstPlaces) (place : Nat) : List String → List (Option Nat)
  | [] => []
  | s :: rest =>
    match seen.lookup s with
    | some first => some first :: referencesFrom seen (place + 1) rest
    | none => none :: referencesFrom ((s, place) :: seen) (place + 1) rest

theorem length_referencesFrom (seen : FirstPlaces) (place : Nat) (signatures : List String) :
    (referencesFrom seen place signatures).length = signatures.length := by
  induction signatures generalizing seen place with
  | nil => rfl
  | cons s rest ih =>
    rw [referencesFrom]
    split <;> simp [ih]

/-- For every row, the place of the **first row with the same signature** before it. -/
def duplicateReferences (rows : List Row) : List (Option Nat) :=
  referencesFrom [] 1 (rows.map (·.signature))

/-- There is one reference for every row. -/
theorem length_duplicateReferences (rows : List Row) :
    (duplicateReferences rows).length = rows.length := by
  rw [duplicateReferences, length_referencesFrom, List.length_map]

/-- The places, from the given one on, at which there is a reference. -/
def referencePlaces (place : Nat) : List (Option Nat) → List Nat
  | [] => []
  | some _ :: rest => place :: referencePlaces (place + 1) rest
  | none :: rest => referencePlaces (place + 1) rest

/-- The places of the rows that **repeat** an earlier one. -/
def duplicateIndices (rows : List Row) : List Nat := referencePlaces 1 (duplicateReferences rows)

end DataQuality
