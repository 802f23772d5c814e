import DataQuality.Text.Search

/-!
# Glob patterns

A pattern of file names: `*` stands for any characters, `?` for any one, `[…]` for one character of
a class and `[!…]` for one outside of it, and any other character for itself. A class lists single
characters and ranges; a closing bracket belongs to it when it comes first. Two asterisks in the
place of a name stand for any number of names.

Not every text is a pattern: a class has to be closed, and two asterisks may stand together only
where they are a whole name.
-/

namespace DataQuality.Text

/-- One part of a **class** of characters: those from the first one to the last one. -/
structure CharRange where
  /-- The first character. -/
  first : Char
  /-- The last character. -/
  last : Char
  deriving DecidableEq

/-- Membership of a character in a range. -/
def CharRange.holds (r : CharRange) (c : Char) : Bool := r.first ≤ c && c ≤ r.last

/-- The ranges that the characters between two brackets list. -/
def charRanges : List Char → List CharRange
  | a :: '-' :: b :: cs => ⟨a, b⟩ :: charRanges cs
  | a :: cs => ⟨a, a⟩ :: charRanges cs
  | [] => []

/-- A **part** of a pattern. -/
inductive GlobPart where
  /-- The character itself. -/
  | char (c : Char)
  /-- Any character. -/
  | any
  /-- Any number of characters. -/
  | run
  /-- Any number of names, each with the slash behind it. -/
  | names
  /-- A character of a class. -/
  | within (ranges : List CharRange)
  /-- A character outside of a class. -/
  | except (ranges : List CharRange)
  deriving DecidableEq

/-- A **pattern**, part by part. -/
abbrev Glob := List GlobPart

namespace Glob

/-- Whether a character begins something else than itself. -/
def isSpecial (c : Char) : Bool := c = '?' || c = '*' || c = '['

/-- The class behind an opening bracket, and what follows it. -/
def class? : List Char → Option (GlobPart × List Char)
  | '!' :: c :: cs =>
    (cutAt? ']' cs).map fun (inner, rest) => (.except (charRanges (c :: inner)), rest)
  | '!' :: [] => none
  | c :: cs => (cutAt? ']' cs).map fun (inner, rest) => (.within (charRanges (c :: inner)), rest)
  | [] => none

/-- The parts that a text spells, of which there are at most `fuel`. Two asterisks are a part where
a name begins and ends, and nowhere else. -/
def partsFrom? (atName : Bool) : Nat → List Char → Option Glob
  | _, [] => some []
  | 0, _ :: _ => none
  | fuel + 1, c :: cs =>
    match c, cs with
    | '*', '*' :: rest =>
      if !atName then none
      else
        match rest with
        | [] => some [.names]
        | '/' :: rest => (partsFrom? true fuel rest).map (.names :: ·)
        | _ => none
    | '*', cs => (partsFrom? false fuel cs).map (.run :: ·)
    | '?', cs => (partsFrom? false fuel cs).map (.any :: ·)
    | '[', cs => do
      let (part, rest) ← class? cs
      (partsFrom? false fuel rest).map (part :: ·)
    | c, cs => (partsFrom? (c = '/') fuel cs).map (.char c :: ·)

/-- The **pattern** that a text is, if it is one. -/
def parse? (text : List Char) : Option Glob := partsFrom? true text.length text

/-- What is left of a list when any number of its first elements are dropped. -/
def suffixes : List Char → List (List Char)
  | [] => [[]]
  | c :: cs => (c :: cs) :: suffixes cs

/-- What is left of a list behind each of its slashes, and at its end. -/
def laterNames : List Char → List (List Char)
  | [] => [[]]
  | c :: cs => if c = '/' then cs :: laterNames cs else laterNames cs

/-- Whether a pattern **matches** a text as a whole. -/
def holds : Glob → List Char → Bool
  | [], cs => cs.isEmpty
  | .names :: parts, cs => (cs :: laterNames cs).any (holds parts)
  | .run :: parts, cs => (suffixes cs).any (holds parts)
  | _ :: _, [] => false
  | .char a :: parts, c :: cs => a = c && holds parts cs
  | .any :: parts, _ :: cs => holds parts cs
  | .within ranges :: parts, c :: cs => ranges.any (·.holds c) && holds parts cs
  | .except ranges :: parts, c :: cs => !ranges.any (·.holds c) && holds parts cs

end Glob

end DataQuality.Text
