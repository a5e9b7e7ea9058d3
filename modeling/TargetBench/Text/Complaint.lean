/-!
# Complaints

What errors say of themselves. Parts of their messages come from below: from the operating system
or from a reader of texts. The wording of these parts is not fixed, so each is a placeholder.

## Main definitions

* `Complaint.system`, `Complaint.document`, `Complaint.locator`, `Complaint.settings`,
  `Complaint.filter`: the placeholders
* `Reported`: errors that can be reported
-/

namespace TargetBench

namespace Complaint

/-- The operating system's complaint. -/
def system : String := "<io>"

/-- The complaint of a reader of documents. -/
def document : String := "<json>"

/-- The complaint of a reader of locators. -/
def locator : String := "<url>"

/-- The complaint of a reader of settings. -/
def settings : String := "<settings>"

/-- The complaint of a reader of log filters. -/
def filter : String := "<filter>"

end Complaint

/-- Errors that can be reported. -/
class Reported (ε : Type) where
  /-- What a report calls an error. -/
  label : ε → String
  /-- The text of an error. -/
  message : ε → String

end TargetBench
