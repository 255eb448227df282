/-!
# Splitting texts
-/

namespace Crosstab.Text

/-- Splits a text at the first place where `mark` stands. -/
def splitAt? (mark : List Char) : List Char → Option (List Char × List Char)
  | [] => none
  | c :: rest =>
    if mark.isPrefixOf (c :: rest) then some ([], (c :: rest).drop mark.length)
    else (splitAt? mark rest).map fun (before, after) => (c :: before, after)

/-- The parts of a text between the places of a character. -/
def parts (mark : Char) : List Char → List (List Char)
  | [] => [[]]
  | c :: rest => match parts mark rest with
    | [] => [[c]]
    | part :: more => if c = mark then [] :: part :: more else (c :: part) :: more

/-- There is at least one part. -/
theorem parts_ne_nil (mark : Char) (cs : List Char) : parts mark cs ≠ [] := by
  cases cs with
  | nil => simp [parts]
  | cons c rest =>
    unfold parts
    split
    · simp
    · split <;> simp

/-- The parts with the character between them are the text. -/
theorem intercalate_parts (mark : Char) (cs : List Char) :
    [mark].intercalate (parts mark cs) = cs := by
  induction cs with
  | nil => rfl
  | cons c rest ih =>
    unfold parts
    split
    · rename_i h
      exact absurd h (parts_ne_nil mark rest)
    · rename_i part more h
      rw [h] at ih
      split
      · rename_i hc
        subst hc
        simpa [List.intercalate, List.intersperse] using ih
      · cases more with
        | nil => simpa [List.intercalate, List.intersperse] using ih
        | cons p ps => simpa [List.intercalate, List.intersperse] using ih

end Crosstab.Text
