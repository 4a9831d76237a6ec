import Enrollment.Json.Skip

/-!
# The grammar of JSON

Which bytes are a JSON value, said without a reader. Lists and objects are alike but for the
brackets and for the keys in front of the values, so one set of rules serves both: an open
`Frame` is closed, or it has an entry and then what is left of it. Values are nested as deep as
they like. A text is any sequence of characters and escapes; escapes of surrogates need not come
in pairs.
-/

namespace Enrollment.Json

/-- White space, or nothing. -/
def IsBlank (s : Bytes) : Prop := ∀ b ∈ s, isSpace b = true

/-- A byte that stands for itself in a text. -/
def StandsAlone (b : UInt8) : Prop := b ≠ Mark.quote ∧ b ≠ Mark.backslash ∧ isControl b = false

/-- What follows the backslash of an escape: a letter, or four hexadecimal digits. -/
inductive IsEscape : Bytes → Prop
  | letter {b : UInt8} (letter : (escapeLetter? b).isSome = true) : IsEscape [b]
  | number {digits : Bytes} (four : digits.length = 4)
      (hex : ∀ d ∈ digits, (hexDigit? d).isSome = true) : IsEscape (Mark.letter 'u' :: digits)

/-- What follows the quote that opens a text, with the quote that closes it. -/
inductive IsText : Bytes → Prop
  | close : IsText [Mark.quote]
  | plain {b : UInt8} {s : Bytes} (alone : StandsAlone b) (rest : IsText s) : IsText (b :: s)
  | escape {e s : Bytes} (escape : IsEscape e) (rest : IsText s) :
      IsText (Mark.backslash :: (e ++ s))

/-- One digit at least. -/
def IsDigits (s : Bytes) : Prop := s ≠ [] ∧ ∀ d ∈ s, isDigit d = true

/-- The digits in front of the point. A zero stands alone. -/
def IsWhole (s : Bytes) : Prop := s = [0x30] ∨ (IsDigits s ∧ s.head? ≠ some 0x30)

/-- Nothing, or a point with digits. -/
def IsFraction (s : Bytes) : Prop := s = [] ∨ ∃ digits, IsDigits digits ∧ s = Mark.point :: digits

/-- Nothing, or an exponent. -/
def IsExponent (s : Bytes) : Prop :=
  s = [] ∨ ∃ letter sign digits, isExponentLetter letter = true ∧
    sign ∈ [[], [Mark.plus], [Mark.minus]] ∧ IsDigits digits ∧ s = letter :: (sign ++ digits)

/-- A number without its sign. -/
def IsUnsigned (s : Bytes) : Prop :=
  ∃ whole fraction exponent, IsWhole whole ∧ IsFraction fraction ∧ IsExponent exponent ∧
    s = whole ++ (fraction ++ exponent)

/-- The words that are values. -/
def words : List Bytes :=
  [Mark.letter 'n' :: wordNull, Mark.letter 't' :: wordTrue, Mark.letter 'f' :: wordFalse]

def Frame.opener : Frame → UInt8
  | list => Mark.openList
  | object => Mark.openObject

/-- What the rules are about: a value, an entry of a list or an object, and what is left of a
list or an object that is open, with its closing bracket. No entry has been passed yet when
`first` is true. -/
inductive Symbol where
  | value
  | entry (frame : Frame)
  | inside (frame : Frame) (first : Bool)

/-- The rules of the grammar. -/
inductive Derives : Symbol → Bytes → Prop
  | word {w : Bytes} (member : w ∈ words) : Derives .value w
  | number {s : Bytes} (unsigned : IsUnsigned s) : Derives .value s
  | negative {s : Bytes} (unsigned : IsUnsigned s) : Derives .value (Mark.minus :: s)
  | text {s : Bytes} (text : IsText s) : Derives .value (Mark.quote :: s)
  | nested {frame : Frame} {s : Bytes} (inner : Derives (.inside frame true) s) :
      Derives .value (frame.opener :: s)
  | item {lead v : Bytes} (blank : IsBlank lead) (value : Derives .value v) :
      Derives (.entry .list) (lead ++ v)
  | member {lead key gap space v : Bytes} (blank : IsBlank lead) (name : IsText key)
      (before : IsBlank gap) (behind : IsBlank space) (value : Derives .value v) :
      Derives (.entry .object)
        (lead ++ Mark.quote :: (key ++ (gap ++ Mark.colon :: (space ++ v))))
  | close {frame : Frame} {first : Bool} {lead : Bytes} (blank : IsBlank lead) :
      Derives (.inside frame first) (lead ++ [frame.closing])
  | first {frame : Frame} {e more : Bytes} (entry : Derives (.entry frame) e)
      (others : Derives (.inside frame false) more) : Derives (.inside frame true) (e ++ more)
  | next {frame : Frame} {lead e more : Bytes} (blank : IsBlank lead)
      (entry : Derives (.entry frame) e) (others : Derives (.inside frame false) more) :
      Derives (.inside frame false) (lead ++ Mark.comma :: (e ++ more))

/-- A value with white space in front of it. -/
def IsValue (s : Bytes) : Prop := ∃ lead v, IsBlank lead ∧ Derives .value v ∧ s = lead ++ v

end Enrollment.Json
