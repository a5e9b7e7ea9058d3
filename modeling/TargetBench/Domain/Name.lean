import TargetBench.Domain.Label
import TargetBench.Text.Cut

/-!
# Domain names

## Main definitions

* `Domain.read?`: the characters of a domain name
-/

namespace TargetBench.Domain

/-- The characters of a domain name: all characters are replaced that have to be, and no label is
written in letters and digits. -/
def read? (cs : List Char) : Option (List Char) := do
  let given ← mapped? cs
  let labels ← (Text.piecesOf '.' (Character.composedForm given)).mapM label?
  if labels.any isLeftwards && !labels.all keepsDirection then none
  else some (List.intercalate ['.'] labels)

end TargetBench.Domain
