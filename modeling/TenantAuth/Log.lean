-- Events for the log, and the masking of words that do not belong there.

namespace TenantAuth

inductive Level where
  | warn
  | error
  deriving DecidableEq, Repr

def Level.name : Level → String
  | .warn => "WARN"
  | .error => "ERROR"

/-- One event, with named fields besides its message. -/
structure Event where
  level : Level
  message : String
  fields : List (String × String)
  deriving DecidableEq, Repr

/-! ## Masking -/

namespace Redaction

/-- The words that are masked, in lower case. -/
def words : List (List Char) :=
  [['s', 'q', 'l'],
   ['d', 'a', 't', 'a', 'b', 'a', 's', 'e'],
   ['t', 'o', 'k', 'e', 'n'],
   ['p', 'a', 's', 's', 'w', 'o', 'r', 'd'],
   ['s', 'e', 'c', 'r', 'e', 't'],
   ['k', 'e', 'y']]

/-- What stands in place of a masked word. -/
def mask : List Char := ['[', 'R', 'E', 'D', 'A', 'C', 'T', 'E', 'D', ']']

/-- The word that a text begins with, in any case. -/
def wordAt? (cs : List Char) : Option (List Char) :=
  words.find? fun w => (cs.take w.length).map Char.toLower == w

/-- A text with a mask in place of each word, taken from the left. -/
def maskWords : List Char → List Char
  | [] => []
  | c :: cs =>
    match wordAt? (c :: cs) with
    | some w => mask ++ maskWords (cs.drop (w.length - 1))
    | none => c :: maskWords cs
termination_by cs => cs.length
decreasing_by all_goals simp; try omega

end Redaction

/-- A text with the sensitive words masked. -/
def redact (s : String) : String := String.ofList (Redaction.maskWords s.toList)

namespace Event

/-- The event of a failure. What the failure says of itself is masked. -/
def ofFailure (text message : String) : Event :=
  ⟨.error, message, [("sanitized_error", redact text)]⟩

end Event

end TenantAuth
