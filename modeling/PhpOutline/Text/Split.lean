/-!
# Splitting text

Fields between separators, the part before and behind the first occurrence of a separator, and
lines.
-/

namespace PhpOutline.Text

/-- The fields between the separators; there is one field more than there are separators. -/
def splitWhere (sep : Char → Bool) : List Char → List (List Char)
  | [] => [[]]
  | c :: cs =>
    if sep c then [] :: splitWhere sep cs
    else
      match splitWhere sep cs with
      | [] => [[c]]
      | field :: fields => (c :: field) :: fields

/-- The text behind `front`, if the text starts with it. -/
def after? (front cs : List Char) : Option (List Char) :=
  if front.isPrefixOf cs then some (cs.drop front.length) else none

theorem length_le_of_after? {front cs rest : List Char} (h : after? front cs = some rest) :
    rest.length ≤ cs.length := by
  unfold after? at h
  split at h
  · cases h; simp
  · cases h

/-- The text before and the text behind the first occurrence of `sep`. -/
def splitOnce? (sep : List Char) : List Char → Option (List Char × List Char)
  | [] => if sep.isEmpty then some ([], []) else none
  | c :: cs =>
    match after? sep (c :: cs) with
    | some rest => some ([], rest)
    | none => (splitOnce? sep cs).map fun (front, back) => (c :: front, back)

end PhpOutline.Text
