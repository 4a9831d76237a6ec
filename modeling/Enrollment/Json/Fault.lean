import Enrollment.Decimal.Shortest
import Enrollment.Text.Quoted

/-!
# What can be wrong with a JSON text

A fault is the first problem met when the text is read from left to right. Faults come in
three kinds: the text ended too early, it is not well-formed, or a well-formed value is not
of the wanted type. Faults carry no position.
-/

namespace Enrollment.Json

/-- A value that was found where one of another type was wanted. -/
inductive Found where
  | null
  | boolean (value : Bool)
  | integer (value : Int)
  | floating (negative : Bool) (magnitude : Binary64)
  | text (value : String)
  | list
  | object
  deriving DecidableEq, Repr

/-- Floating-point values are named by their shortest digits, texts are quoted. -/
def Found.describe : Found → String
  | null => "null"
  | boolean true => "boolean `true`"
  | boolean false => "boolean `false`"
  | integer value => "integer `" ++ toString value ++ "`"
  | floating negative magnitude =>
    "floating point `" ++ Decimal.Layout.standard.render negative magnitude ++ "`"
  | text value => "string " ++ Text.quoted value
  | list => "sequence"
  | object => "map"

inductive Fault where
  | endInValue
  | endInText
  | endInList
  | endInObject
  | expectedValue
  | expectedWord
  | expectedColon
  | expectedCommaInList
  | expectedCommaInObject
  | keyNotText
  | trailingComma
  | trailingCharacters
  | invalidNumber
  | numberOutOfRange
  | invalidEscape
  | controlCharacter
  | loneSurrogate
  | missingSurrogate
  | invalidCodePoint
  | tooDeep
  | wrongType (found : Found) (wanted : String)
  | duplicateField (name : String)
  deriving DecidableEq, Repr

namespace Fault

inductive Kind where
  | ended
  | malformed
  | mistyped
  deriving DecidableEq, Repr

def kind : Fault → Kind
  | endInValue | endInText | endInList | endInObject => .ended
  | wrongType _ _ | duplicateField _ => .mistyped
  | _ => .malformed

def message : Fault → String
  | endInValue => "EOF while parsing a value"
  | endInText => "EOF while parsing a string"
  | endInList => "EOF while parsing a list"
  | endInObject => "EOF while parsing an object"
  | expectedValue => "expected value"
  | expectedWord => "expected ident"
  | expectedColon => "expected `:`"
  | expectedCommaInList => "expected `,` or `]`"
  | expectedCommaInObject => "expected `,` or `\x7d`"
  | keyNotText => "key must be a string"
  | trailingComma => "trailing comma"
  | trailingCharacters => "trailing characters"
  | invalidNumber => "invalid number"
  | numberOutOfRange => "number out of range"
  | invalidEscape => "invalid escape"
  | controlCharacter => "control character (\\u0000-\\u001F) found while parsing a string"
  | loneSurrogate => "lone leading surrogate in hex escape"
  | missingSurrogate => "unexpected end of hex escape"
  | invalidCodePoint => "invalid unicode code point"
  | tooDeep => "recursion limit exceeded"
  | wrongType found wanted => "invalid type: " ++ found.describe ++ ", expected " ++ wanted
  | duplicateField name => "duplicate field `" ++ name ++ "`"

end Fault

end Enrollment.Json
