import TargetBench.Character.Composition
import TargetBench.Character.Order

/-!
# Composed texts

Texts that look the same can be written in several ways. The composed form is one of them: marks
stand in the order of their classes, and each character is put together with the marks after it as
far as there is a character for both.

## Main definitions

* `Character.expanded`: characters with all composed ones taken apart
* `Character.joined`: characters put together
* `Character.composedForm`: the composed form of a text
-/

namespace TargetBench.Character

/-- Into how many parts, one after the other, a composed character can be taken. -/
def expansionLimit : Nat := 4

/-- The characters that one stands for; the number bounds how often it is taken apart. -/
def expandedTo : Nat → Char → List Char
  | 0, c => [c]
  | steps + 1, c => match parts? c with
    | some (a, b) => expandedTo steps a ++ [b]
    | none => [c]

/-- Characters with all composed ones taken apart and marks in order. -/
def expanded (cs : List Char) : List Char := sorted (cs.flatMap (expandedTo expansionLimit))

/-- Characters put together with the one in front of them, `base`. The characters between that are
left over are given, the last one first: a character cannot be put together with `base` across one
of the same or a higher class. -/
def joinedFrom (base : Char) (passed : List Char) : List Char → List Char
  | [] => base :: passed.reverse
  | c :: cs =>
    let isFree := passed.head?.all fun mark => combiningClass mark < combiningClass c
    match if isFree then composed? base c else none with
    | some whole => joinedFrom whole passed cs
    | none =>
      if combiningClass c = 0 then base :: passed.reverse ++ joinedFrom c [] cs
      else joinedFrom base (c :: passed) cs

/-- Characters put together as far as possible. -/
def joined : List Char → List Char
  | [] => []
  | c :: cs => joinedFrom c [] cs

/-- The composed form of a text. -/
def composedForm (cs : List Char) : List Char := joined (expanded cs)

end TargetBench.Character
