import TargetBench.Endpoint.Url
import TargetBench.Json.Wire
import TargetBench.Text.Cut

/-!
# Endpoints

The endpoint that a daemon listens on: a socket at a path. It is written as a locator of the
scheme `unix`, and read from such a locator or from a bare path.

## Main definitions

* `SocketEndpoint`: a socket at a path
* `SocketEndpoint.parse`: the endpoint that a text spells
* `SocketEndpoint.text`: an endpoint as a locator
-/

namespace TargetBench

/-- A socket at a path. -/
structure SocketEndpoint where
  path : String
deriving DecidableEq

/-- Why a text spells no endpoint. -/
inductive EndpointError where
  /-- The scheme is none that is served. -/
  | unsupportedScheme (scheme : String)
  /-- The text names no path. -/
  | missingPath (text : String)
  /-- The text looks like a locator and is none. -/
  | malformed
deriving DecidableEq

/-- The text of an error. The wording for a malformed locator is not fixed. -/
def EndpointError.message : EndpointError → String
  | unsupportedScheme scheme =>
    "unsupported socket scheme '" ++ scheme ++ "'; only unix:// endpoints are served"
  | missingPath text => "missing Unix socket path in '" ++ text ++ "'"
  | malformed => Complaint.locator

/-- What a report calls an error. -/
def EndpointError.label : EndpointError → String
  | unsupportedScheme _ => "UnsupportedScheme"
  | missingPath _ => "MissingUnixPath"
  | malformed => "Url"

instance : Reported EndpointError := ⟨EndpointError.label, EndpointError.message⟩

namespace SocketEndpoint

/-- The scheme of endpoints. -/
def scheme : String := "unix"

/-- The mark between a scheme and the place that it is about. -/
def mark : String := "://"

/-- An endpoint as a locator. -/
def text (e : SocketEndpoint) : String := scheme ++ mark ++ e.path

/-- The endpoint that a locator names. -/
def ofUrl (given : String) (url : Url) : Except EndpointError SocketEndpoint :=
  if url.scheme ≠ scheme then .error (.unsupportedScheme url.scheme)
  else if url.path = "" ∨ url.path = "/" then .error (.missingPath given)
  else .ok ⟨url.path⟩

/-- The endpoint that a text spells: a locator, or a path if the text does not hold the mark of
locators. Blanks at the ends do not count. -/
def parse (s : String) : Except EndpointError SocketEndpoint :=
  let trimmed := Text.trim s
  if trimmed.isEmpty then .error (.missingPath s)
  else if (Text.cut? mark trimmed).isNone then .ok ⟨trimmed⟩
  else match Url.ofText? trimmed with
    | none => .error .malformed
    | some url => ofUrl s url

instance : Wire SocketEndpoint where
  toJson e := .ofText e.text
  decode budget doc := (Decoder.text budget doc).bind fun s => (parse s).toOption

end SocketEndpoint

end TargetBench
