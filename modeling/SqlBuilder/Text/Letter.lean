import SqlBuilder.Text.LetterTable

/-!
# Letters and case

Character classes and case mappings of all of Unicode. A case mapping gives a list because a
few characters map to several.
-/

namespace SqlBuilder.Text

/-- Whether a code point lies in one of the runs. -/
def inRuns (runs : List (Nat × Nat)) (n : Nat) : Bool :=
  runs.any fun (first, last) => decide (first ≤ n) && decide (n ≤ last)

/-- Whether a code point is on a run that goes from `first` to `last` in steps. -/
def onRun (first last step n : Nat) : Bool :=
  decide (first ≤ n) && decide (n ≤ last) && (n - first) % step == 0

/-- Whether the character is a letter or a number. -/
def isAlphanumeric (c : Char) : Bool := inRuns alphanumericRuns c.toNat

/-- Whether the character is in lower case. -/
def isLower (c : Char) : Bool :=
  lowercaseRuns.any fun (first, last, step) => onRun first last step c.toNat

/-- Whether the character is in upper case. -/
def isUpper (c : Char) : Bool :=
  uppercaseRuns.any fun (first, last, step) => onRun first last step c.toNat

/-- The characters that a character maps to: an expansion, a shifted code point, or itself. -/
def mapCase (expansions : List (Nat × List Nat)) (mapping : List (Nat × Nat × Nat × Int))
    (c : Char) : List Char :=
  match expansions.lookup c.toNat with
  | some codes => codes.map Char.ofNat
  | none =>
    match mapping.find? fun (first, last, step, _) => onRun first last step c.toNat with
    | some (_, _, _, distance) => [Char.ofNat ((c.toNat : Int) + distance).toNat]
    | none => [c]

/-- The lower case of a character. -/
def toLower (c : Char) : List Char := mapCase lowerExpansions lowerMapping c

/-- The upper case of a character. -/
def toUpper (c : Char) : List Char := mapCase upperExpansions upperMapping c

end SqlBuilder.Text
