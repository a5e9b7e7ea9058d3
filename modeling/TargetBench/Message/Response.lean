import TargetBench.Json.Wire

/-!
# Responses

How a session answers a command.

## Main definitions

* `ResponseCode`: success or failure
* `Response`: the record of a response
-/

namespace TargetBench

/-- Whether a command was carried out. -/
inductive ResponseCode where
  | success
  | fail
deriving DecidableEq

instance : Wire ResponseCode where
  toJson
    | .success => .ofText "SUCCESS"
    | .fail => .ofText "FAIL"
  decode := Decoder.enumeration [("SUCCESS", .success), ("FAIL", .fail)]

/-- The answer to a command. -/
structure Response where
  code : ResponseCode
  /-- An integer result. -/
  value : Option (Signed 32)
  /-- A result in text form. -/
  message : Option String
deriving DecidableEq

namespace Response

/-- Success without a result. -/
def success : Response := ⟨.success, none, none⟩

/-- Failure. -/
def failure : Response := ⟨.fail, none, none⟩

/-- Success with an integer. -/
def ofValue (value : Signed 32) : Response := ⟨.success, some value, none⟩

/-- Success with a text. -/
def ofMessage (message : String) : Response := ⟨.success, none, some message⟩

/-- Whether the response reports success. -/
def isSuccess (r : Response) : Bool := r.code = .success

/-- The document of a response. -/
def toJson (r : Response) : Json :=
  .record (
    [("response_code", Wire.toJson r.code)]
    ++ Json.optionalMember "return_value" (fun n => .ofInt n.val) r.value
    ++ Json.optionalMember "return_message" .ofText r.message)

/-- The response of a document. -/
def decode : Decoder Response :=
  Decoder.record ["response_code", "return_value", "return_message"] fun f => do
    return {
      code := ← f.required "response_code" Wire.decode
      value := ← f.optional "return_value" Decoder.integer
      message := ← f.optional "return_message" Decoder.text }

instance : Wire Response := ⟨toJson, decode⟩

end Response

end TargetBench
