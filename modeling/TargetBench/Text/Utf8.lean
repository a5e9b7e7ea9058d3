/-!
# Characters in bytes

A byte sequence as a sequence of symbols: each run of bytes that encodes a character in UTF-8 is
that character, and each byte outside such a run is a stray byte. A stray byte does no harm to
the characters after it, so a reader can decide where stray bytes matter.

## Main definitions

* `Symbol`: a character or a stray byte
* `Utf8.encode`: the bytes of characters
* `Utf8.symbols`: the symbols of bytes
* `Utf8.characters?`: the characters of bytes without stray ones

## Main results

* `Utf8.symbols_encode`: the symbols of encoded characters are these characters
-/

namespace TargetBench

/-- What one place of a byte sequence holds. -/
inductive Symbol where
  /-- An encoded character. -/
  | char (c : Char)
  /-- A byte that is no part of an encoded character. -/
  | stray
deriving DecidableEq

namespace Utf8

/-- The bytes of characters. -/
def encode (cs : List Char) : List UInt8 := cs.flatMap String.utf8EncodeChar

/-- The bytes of a text. -/
def bytes (s : String) : List UInt8 := encode s.toList

/-- The character whose encoding the bytes begin with. No encoding has more than four bytes. -/
def leadingChar? (bs : List UInt8) : Option Char := (bs.take 4).toByteArray.utf8DecodeChar? 0

/-- Puts the symbols of bytes in front of `done`, the last one first. The first `skip` bytes
belong to a symbol that is there already. -/
def symbolsOnto (done : List Symbol) (skip : Nat) : List UInt8 → List Symbol
  | [] => done
  | b :: bs => match skip with
    | skip + 1 => symbolsOnto done skip bs
    | 0 => match leadingChar? (b :: bs) with
      | some c => symbolsOnto (.char c :: done) (c.utf8Size - 1) bs
      | none => symbolsOnto (.stray :: done) 0 bs

/-- The symbols of bytes. -/
def symbols (bs : List UInt8) : List Symbol := (symbolsOnto [] 0 bs).reverse

/-- The characters of bytes that hold no stray byte. -/
def characters? (bs : List UInt8) : Option (List Char) :=
  (symbols bs).mapM fun
    | .char c => some c
    | .stray => none

theorem leadingChar?_encode (c : Char) (bs : List UInt8) :
    leadingChar? (String.utf8EncodeChar c ++ bs) = some c := by
  have size_le : (String.utf8EncodeChar c).length ≤ 4 := by
    rw [String.length_utf8EncodeChar]; exact Char.utf8Size_le_four c
  rw [leadingChar?, List.take_append, List.take_of_length_le size_le, List.toByteArray_append]
  exact ByteArray.utf8DecodeChar?_utf8EncodeChar_append

theorem symbolsOnto_skip (done : List Symbol) (front bs : List UInt8) :
    symbolsOnto done front.length (front ++ bs) = symbolsOnto done 0 bs := by
  induction front with
  | nil => rfl
  | cons b front ih => simpa [symbolsOnto] using ih

theorem symbolsOnto_encode (done : List Symbol) (cs : List Char) :
    symbolsOnto done 0 (encode cs) = (cs.map Symbol.char).reverse ++ done := by
  induction cs generalizing done with
  | nil => rfl
  | cons c cs ih =>
    have split : encode (c :: cs) = String.utf8EncodeChar c ++ encode cs := by simp [encode]
    have found := leadingChar?_encode c (encode cs)
    have size := String.length_utf8EncodeChar c
    rw [split]
    cases front : String.utf8EncodeChar c with
    | nil => have := Char.utf8Size_pos c; simp [front] at size; omega
    | cons b rest =>
      rw [front] at found size
      simp only [List.cons_append] at found ⊢
      simp only [symbolsOnto, found]
      have : c.utf8Size - 1 = rest.length := by simp at size; omega
      rw [this, symbolsOnto_skip, ih]
      simp

/-- The symbols of encoded characters are these characters. -/
theorem symbols_encode (cs : List Char) : symbols (encode cs) = cs.map Symbol.char := by
  simp [symbols, symbolsOnto_encode]

end Utf8

end TargetBench
