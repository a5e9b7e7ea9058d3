import TargetBench.Endpoint.Host

/-!
# Locators

The scheme and the path of a uniform resource locator, read as browsers read it: blanks at the
ends and line ends inside do not count, the scheme is of lower case, dot segments of the path are
resolved, and characters that cannot stand in a path are written as bytes. A text that breaks
the rules is no locator.

## Main definitions

* `Url`: the scheme and path of a locator
* `Url.ofText?`: the locator that a text spells

## Main results

* `Url.resolve_plain`: a path without dot segments stays as it is
-/

namespace TargetBench

/-- A locator, with its scheme and path only. -/
structure Url where
  scheme : String
  path : String

namespace Url

/-! ## Schemes -/

/-- How the part after a scheme is to be read. -/
inductive SchemeKind where
  /-- Locators of the web, which always have a host. -/
  | web
  /-- Locators of files. -/
  | file
  | general
deriving DecidableEq

/-- The kind of a scheme. -/
def SchemeKind.ofScheme (scheme : String) : SchemeKind :=
  if scheme = "file" then .file
  else if ["http", "https", "ws", "wss", "ftp"].contains scheme then .web
  else .general

/-- Whether a character may stand in a scheme after its first letter. -/
def isSchemeChar (c : Char) : Bool := c.isAlphanum || c = '+' || c = '-' || c = '.'

/-- The scheme in front of a colon, in lower case, and what follows the colon. -/
def splitScheme? (cs : List Char) : Option (String × List Char) :=
  match cs.takeWhile isSchemeChar, cs.dropWhile isSchemeChar with
  | first :: others, ':' :: rest =>
    if first.isAlpha then some (String.ofList ((first :: others).map Char.toLower), rest) else none
  | _, _ => none

/-! ## Paths -/

/-- Whether a character cannot stand in a path as itself: controls, characters beyond ASCII, and
the marks that delimit locators in running text. -/
def isEscapedInPath (c : Char) : Bool :=
  c.toNat < 0x20 || 0x7F ≤ c.toNat
    || [' ', '"', '#', '<', '>', '?', '\x60', '\x7b', '\x7d'].contains c

/-- Whether a character cannot stand in a path that has no segments. -/
def isControl (c : Char) : Bool := c.toNat < 0x20 || 0x7F ≤ c.toNat

/-- Characters with each escaped dot read as a dot. -/
def plainDots : List Char → List Char
  | '%' :: '2' :: e :: cs =>
    if e = 'e' ∨ e = 'E' then '.' :: plainDots cs else '%' :: plainDots ('2' :: e :: cs)
  | c :: cs => c :: plainDots cs
  | [] => []

/-- Whether a segment is a letter and a colon or bar. Such a segment is never left upwards. -/
def isDrive : List Char → Bool
  | [letter, mark] => letter.isAlpha && (mark = ':' || mark = '|')
  | _ => false

/-- The segments after one step upwards; the last segment stands first. -/
def leave : List (List Char) → List (List Char)
  | [] => []
  | segment :: before => if isDrive segment then segment :: before else before

/-- Puts segments after those passed so far, dot segments resolved; the last segment stands
first. A dot segment at the end leaves an empty one. -/
def resolve (passed : List (List Char)) : List (List Char) → List (List Char)
  | [] => passed
  | segment :: rest =>
    let dots := plainDots segment
    if dots = ['.', '.'] then
      resolve (if rest.isEmpty then [] :: leave passed else leave passed) rest
    else if dots = ['.'] then resolve (if rest.isEmpty then [] :: passed else passed) rest
    else resolve (segment :: passed) rest

/-- A path of segments. The first slash stands in front of them. -/
def segmentedPath (cs : List Char) : String :=
  let segments := (resolve [] (Text.piecesOf '/' cs)).reverse
  String.ofList ('/' :: List.intercalate ['/'] (segments.map (Percent.encode isEscapedInPath)))

/-- A path without dot segments stays as it is. -/
theorem resolve_plain {passed segments : List (List Char)}
    (h : ∀ s ∈ segments, plainDots s ≠ ['.'] ∧ plainDots s ≠ ['.', '.']) :
    resolve passed segments = segments.reverse ++ passed := by
  induction segments generalizing passed with
  | nil => rfl
  | cons s rest ih =>
    have ⟨single, double⟩ := h s List.mem_cons_self
    simp [resolve, single, double, ih fun x hx => h x (List.mem_cons_of_mem _ hx)]

/-- The characters before a query or fragment. -/
def beforeQuery (cs : List Char) : List Char := cs.takeWhile fun c => c ≠ '?' && c ≠ '#'

/-- The path after a host, which may be missing altogether. -/
def pathAfterHost (cs : List Char) : String :=
  match beforeQuery cs with
  | [] => ""
  | '/' :: rest => segmentedPath rest
  | rest => segmentedPath rest

/-- The path of a locator without a host. -/
def pathWithoutHost (cs : List Char) : String :=
  match beforeQuery cs with
  | '/' :: rest => segmentedPath rest
  | rest => String.ofList (Percent.encode isControl rest)

/-! ## Hosts and services -/

/-- Whether a character ends the part that names user, host and service. -/
def endsAuthority (kind : SchemeKind) (c : Char) : Bool :=
  c = '/' || c = '?' || c = '#' || (kind ≠ .general && c = '\\')

/-- The name of the user in front of the last at sign of an authority, and what follows it. -/
def splitUser (authority : List Char) : Option (List Char) × List Char :=
  let host := (authority.reverse.takeWhile (· ≠ '@')).reverse
  if host.length = authority.length then (none, authority)
  else (some (authority.take (authority.length - host.length - 1)), host)

/-- The host in front of a service number, and what follows it. A colon in brackets belongs to the
host. -/
def splitHost (bracketed : Bool) : List Char → List Char × List Char
  | [] => ([], [])
  | ':' :: cs =>
    if bracketed then let (host, rest) := splitHost true cs; (':' :: host, rest)
    else ([], ':' :: cs)
  | c :: cs =>
    let bracketed := if c = '[' then true else if c = ']' then false else bracketed
    let (host, rest) := splitHost bracketed cs
    (c :: host, rest)

/-- The largest number of a service. -/
def serviceLimit : Nat := 65535

/-- What follows a service number, which is a colon and digits; it may be missing, and so may its
digits. Only the end of the authority or a backslash can follow. -/
def afterService? : List Char → Option (List Char)
  | ':' :: cs =>
    let digits := cs.takeWhile Char.isDigit
    let rest := cs.dropWhile Char.isDigit
    if serviceLimit < Decimal.value (digits.filterMap Decimal.digit?) then none
    else if rest.isEmpty || rest.head? == some '\\' then some rest
    else none
  | cs => some cs

/-- What follows user, host and service number, if they are sound. -/
def afterAuthority? (kind : SchemeKind) (cs : List Char) : Option (List Char) :=
  let authority := cs.takeWhile fun c => !endsAuthority kind c
  let rest := cs.dropWhile fun c => !endsAuthority kind c
  let (user, place) := splitUser authority
  let (host, service) := splitHost false place
  let isHost := if kind = .general then Host.isOpaque host else Host.isNamed host
  let isMisplaced :=
    if ¬ host.isEmpty then false
    else match user with
      | none => !service.isEmpty
      | some [] => !service.isEmpty || !rest.isEmpty
      | some user => !service.isEmpty || user ≠ [':']
  if isHost && !isMisplaced then (afterService? service).map (· ++ rest) else none

/-! ## Whole locators -/

/-- Whether a character is a slash of either kind. -/
def isSlash (c : Char) : Bool := c = '/' || c = '\\'

/-- Whether what follows the scheme of a file can follow it: a host after two slashes has to be
sound, unless it is a drive letter. -/
def isFilePart (cs : List Char) : Bool :=
  if (cs.takeWhile isSlash).length < 2 then true
  else
    let host := (cs.drop 2).takeWhile fun c => !endsAuthority .file c
    host.isEmpty || isDrive host || Host.isNamed host

/-- The path that follows a scheme. Only schemes in general have their path read. -/
def path? (kind : SchemeKind) (cs : List Char) : Option String :=
  match kind with
  | .web => (afterAuthority? .web (cs.dropWhile isSlash)).map fun _ => ""
  | .file => if isFilePart cs then some "" else none
  | .general => match cs with
    | '/' :: '/' :: rest => (afterAuthority? .general rest).map pathAfterHost
    | cs => some (pathWithoutHost cs)

/-- Whether a character does not count at the ends of a locator. -/
def isOuter (c : Char) : Bool := c.toNat ≤ 0x20

/-- Whether a character counts inside a locator. -/
def isInner (c : Char) : Bool := !(c = '\t' || c = '\n' || c = '\r')

/-- The locator that a text spells. The path of a locator of the web or of a file is not read. -/
def ofText? (s : String) : Option Url := do
  let cs := ((s.toList.dropWhile isOuter).reverse.dropWhile isOuter).reverse.filter isInner
  let (scheme, rest) ← splitScheme? cs
  let path ← path? (.ofScheme scheme) rest
  return ⟨scheme, path⟩

end Url

end TargetBench
