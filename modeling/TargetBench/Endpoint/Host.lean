import TargetBench.Domain.Name
import TargetBench.Number.Decimal
import TargetBench.Text.Percent

/-!
# Hosts of locators

Which texts can be the host of a uniform resource locator. A host in brackets is an address of
the sixth version of the internet protocol in either kind of locator. Where the scheme is one of
the web, other hosts are domain names, or addresses of the fourth version if their last label is
a number; under all other schemes they are opaque.

## Main definitions

* `Host.isOpaque`: hosts under schemes in general
* `Host.isNamed`: hosts under schemes of the web
-/

namespace TargetBench.Host

/-! ## Addresses -/

/-- Whether characters are a group of an address: one to four hexadecimal digits. -/
def isGroup (cs : List Char) : Bool :=
  !cs.isEmpty && cs.length ≤ 4 && cs.all fun c => (Hexadecimal.digit? c).isSome

/-- Whether characters are a number below 256 without zeros in front. -/
def isOctet (cs : List Char) : Bool :=
  match cs.mapM Decimal.digit? with
  | none => false
  | some ds => !ds.isEmpty && (ds.length = 1 || ds.head? ≠ some .zero) && Decimal.value ds < 256

/-- Whether characters are four octets between dots. -/
def isDotted (cs : List Char) : Bool :=
  let octets := Text.piecesOf '.' cs
  octets.length = 4 && octets.all isOctet

/-- How many groups parts of an address make up. The last part may be four octets, which count as
two groups. -/
def groupCount? : List (List Char) → Option Nat
  | [] => some 0
  | [last] => if isGroup last then some 1 else if isDotted last then some 2 else none
  | part :: parts => if isGroup part then (groupCount? parts).map (· + 1) else none

/-- The parts of an address between its colons; an empty text has none. -/
def groups (cs : List Char) : List (List Char) := if cs.isEmpty then [] else Text.piecesOf ':' cs

/-- Whether characters are an address of eight groups. A double colon stands for one or more
groups that are left out. -/
def isAddress (cs : List Char) : Bool :=
  match Text.cutChars? [':', ':'] cs with
  | none => groupCount? (groups cs) = some 8
  | some (before, after) =>
    let parts := groups before
    match groupCount? (groups after) with
    | none => false
    | some n => parts.all isGroup && parts.length + n ≤ 7

/-- Whether the host stands in brackets. -/
def isBracketed (cs : List Char) : Bool := cs.head? == some '['

/-- Whether a host in brackets is an address. -/
def isBracketedAddress (cs : List Char) : Bool :=
  cs.getLast? == some ']' && isAddress (cs.drop 1).dropLast

/-! ## Opaque hosts -/

/-- The characters that no host holds. -/
def forbidden : List Char :=
  ['\x00', '\t', '\n', '\r', ' ', '#', '/', ':', '<', '>', '?', '@', '[', '\\', ']', '^', '|']

/-- Whether characters are a host under a scheme in general. The empty host is one. -/
def isOpaque (cs : List Char) : Bool :=
  if isBracketed cs then isBracketedAddress cs else cs.all fun c => !forbidden.contains c

/-! ## Named hosts -/

/-- Whether a character cannot stand in a domain name. -/
def isForbiddenInDomain (c : Char) : Bool :=
  forbidden.contains c || c.toNat < 0x20 || c = '%' || c.toNat = 0x7F

/-- The base of the number that characters spell, and its digits. -/
def splitBase : List Char → Nat × List Char
  | '0' :: 'x' :: cs => (16, cs)
  | '0' :: 'X' :: cs => (16, cs)
  | '0' :: c :: cs => (8, c :: cs)
  | cs => (10, cs)

/-- The number that a label spells: in base 16 after `0x`, in base 8 after another `0`, and else in
base 10. No digits after `0x` spell zero. -/
def number? (label : List Char) : Option Nat :=
  if label.isEmpty then none
  else
    let (base, digits) := splitBase label
    digits.foldlM (fun n c => match Hexadecimal.digit? c with
      | some d => if d < base then some (base * n + d) else none
      | none => none) 0

/-- The labels of a domain name. An empty one at its end does not count. -/
def labels (domain : List Char) : List (List Char) :=
  let all := Text.piecesOf '.' domain
  if 1 < all.length && all.getLast? == some [] then all.dropLast else all

/-- Whether the last label of a domain name is a number. -/
def endsInNumber (domain : List Char) : Bool :=
  match (labels domain).getLast? with
  | none => false
  | some label =>
    (!label.isEmpty && label.all Char.isDigit) || (number? label).isSome

/-- Whether labels are an address of four bytes: up to four numbers, of which the last one fills
the bytes that the others leave. -/
def isNumericAddress (parts : List (List Char)) : Bool :=
  match parts.mapM number? with
  | none => false
  | some numbers => match numbers.reverse with
    | [] => false
    | last :: before =>
      before.length ≤ 3 && before.all (· < 256) && last < Nat.pow 256 (4 - before.length)

/-- Whether the characters of a domain name can be a host: a name whose last label is a number has
to be an address. -/
def isDomainHost (domain : List Char) : Bool :=
  !domain.isEmpty && !domain.any isForbiddenInDomain
    && (!endsInNumber domain || isNumericAddress (labels domain))

/-- Whether characters are a host under a scheme of the web. -/
def isNamed (cs : List Char) : Bool :=
  if isBracketed cs then isBracketedAddress cs
  else ((Utf8.characters? (Percent.decode cs)).bind Domain.read?).any isDomainHost

end TargetBench.Host
