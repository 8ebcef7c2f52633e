import Assay.Json.Basic
import Assay.Text.Hidden

/-!
Why a JSON text is not accepted: it is no JSON, or it has not the shape that was asked for.
-/

namespace Assay.Json

inductive Found
  | null
  | bool (value : Bool)
  | number (number : Number)
  | text (content : String)
  | list
  | object
deriving DecidableEq, Repr

inductive Fault
  | malformed
  | wrongType (found : Found) (expected : String)
  | wrongValue (found : Found) (expected : String)
  | missingField (name : String)
  | duplicateField (name : String)
  | unknownField (name : String) (known : List String)
  | unknownVariant (name : String) (known : List String)
  | wrongLength (length : Nat) (expected : String)
  | negativeTime
  | timeTooLarge
deriving DecidableEq, Repr

def Found.message : Found → String
  | .null => "null"
  | .bool value => s!"boolean `{value}`"
  | .number (.natural n) => s!"integer `{n}`"
  | .number (.negative i) => s!"integer `{i}`"
  | .number (.real x) => "floating point `" ++ String.ofList (Numeral.ofBinary x).render ++ "`"
  | .text content => "string " ++ Text.quote content
  | .list => "sequence"
  | .object => "map"

def alternatives (known : List String) : String :=
  let quoted := known.map fun name => "`" ++ name ++ "`"
  match quoted with
  | [] => "there are none"
  | [only] => "expected " ++ only
  | [first, second] => "expected " ++ first ++ " or " ++ second
  | several => "expected one of " ++ ", ".intercalate several

namespace Fault

def message (malformedText : String) : Fault → String
  | malformed => malformedText
  | wrongType found expected => "invalid type: " ++ found.message ++ ", expected " ++ expected
  | wrongValue found expected => "invalid value: " ++ found.message ++ ", expected " ++ expected
  | missingField name => s!"missing field `{name}`"
  | duplicateField name => s!"duplicate field `{name}`"
  | unknownField name known => s!"unknown field `{name}`, " ++ alternatives known
  | unknownVariant name known => s!"unknown variant `{name}`, " ++ alternatives known
  | wrongLength length expected => s!"invalid length {length}, expected " ++ expected
  | negativeTime => "cannot convert float seconds to Duration: value is negative"
  | timeTooLarge => "cannot convert float seconds to Duration: value is either too big or NaN"

end Fault

end Assay.Json
