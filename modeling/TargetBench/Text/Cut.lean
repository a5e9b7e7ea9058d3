/-!
# Cutting texts at marks

## Main definitions

* `Text.cut?`: the parts of a text before and after the first occurrence of a mark
* `Text.pieces`: all parts of a text between the occurrences of a character
-/

namespace TargetBench.Text

/-- Characters before and after the first occurrence of a mark. -/
def cutChars? (mark : List Char) : List Char → Option (List Char × List Char)
  | [] => if mark.isEmpty then some ([], []) else none
  | c :: cs =>
    if mark.isPrefixOf (c :: cs) then some ([], (c :: cs).drop mark.length)
    else (cutChars? mark cs).map fun (before, after) => (c :: before, after)

/-- The parts of a text before and after the first occurrence of a mark. -/
def cut? (mark text : String) : Option (String × String) :=
  (cutChars? mark.toList text.toList).map fun (before, after) =>
    (String.ofList before, String.ofList after)

/-- The parts of a character sequence between the occurrences of `mark`; one more than there are
occurrences. -/
def piecesOf (mark : Char) : List Char → List (List Char)
  | [] => [[]]
  | c :: cs =>
    if c = mark then [] :: piecesOf mark cs
    else match piecesOf mark cs with
      | piece :: rest => (c :: piece) :: rest
      | [] => [[c]]

/-- The parts of a text between the occurrences of `mark`. -/
def pieces (mark : Char) (text : String) : List String :=
  (piecesOf mark text.toList).map String.ofList

end TargetBench.Text
