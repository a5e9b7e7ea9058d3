import TargetBench.Number.Hexadecimal
import TargetBench.Text.Utf8

/-!
# Percent signs

Characters that cannot stand as themselves are written as the bytes of their encoding, each byte
as a percent sign and two hexadecimal digits.

## Main definitions

* `Percent.encode`: characters with some of them written as bytes
* `Percent.decode`: the bytes that characters stand for
-/

namespace TargetBench.Percent

/-- A byte as a percent sign and two digits. -/
def byteChars (b : UInt8) : List Char :=
  ['%', Hexadecimal.upper (b.toNat / 16), Hexadecimal.upper (b.toNat % 16)]

/-- Characters with those of a class written as bytes. -/
def encode (escaped : Char → Bool) (cs : List Char) : List Char :=
  cs.flatMap fun c => if escaped c then (String.utf8EncodeChar c).flatMap byteChars else [c]

/-- The bytes that characters stand for. A percent sign that no two digits follow stands for
itself. -/
def decode : List Char → List UInt8
  | [] => []
  | '%' :: a :: b :: cs =>
    match Hexadecimal.digit? a, Hexadecimal.digit? b with
    | some x, some y => UInt8.ofNat (16 * x + y) :: decode cs
    | _, _ => String.utf8EncodeChar '%' ++ decode (a :: b :: cs)
  | c :: cs => String.utf8EncodeChar c ++ decode cs

/-- Characters of which none is written as bytes stay as they are. -/
theorem encode_eq_self {escaped : Char → Bool} {cs : List Char} (h : ∀ c ∈ cs, escaped c = false) :
    encode escaped cs = cs := by
  induction cs with
  | nil => rfl
  | cons c cs ih =>
    have := ih fun x hx => h x (List.mem_cons_of_mem _ hx)
    simp only [encode, List.flatMap_cons] at this ⊢
    simp [h c List.mem_cons_self, this]

end TargetBench.Percent
