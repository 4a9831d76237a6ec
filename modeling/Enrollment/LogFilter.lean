import Enrollment.Text.Alphanumeric
import Enrollment.Text.Blank
import Enrollment.Text.Digits
import Enrollment.Text.Pattern
import Enrollment.Text.Split

/-!
# Log filters

A filter is a list of directives with commas between them. A directive gives the level from
which on events are shown, for all targets or for those that start with a name. It can be
bound to a span, or to fields, which an event has to have then. Of the directives that apply
to an event the most particular one decides, and no directive shows nothing.
-/

namespace Enrollment

inductive LogLevel where
  | off
  | error
  | warn
  | info
  | debug
  | trace
  deriving DecidableEq, Repr

namespace LogLevel

/-- Levels show more the further they are from `off`. -/
def all : List LogLevel := [off, error, warn, info, debug, trace]

def rank : LogLevel → Nat
  | off => 0
  | error => 1
  | warn => 2
  | info => 3
  | debug => 4
  | trace => 5

def name : LogLevel → String
  | off => "off"
  | error => "error"
  | warn => "warn"
  | info => "info"
  | debug => "debug"
  | trace => "trace"

/-- The number that `cs` spells, perhaps behind a plus sign. -/
def number? (cs : List Char) : Option Nat :=
  Text.number? 10 (if cs.head? = some '+' then cs.tail else cs)

/-- A level is spelled by its rank, or by its name in letters of either case. -/
def parse? (cs : List Char) : Option LogLevel :=
  all.find? fun level =>
    number? cs = some level.rank || cs.map Char.toLower = level.name.toList

end LogLevel

/-- An event as filters see it. -/
structure LogEvent where
  target : String
  level : LogLevel
  fieldNames : List String
  deriving DecidableEq, Repr

/-- A field that is asked for, perhaps with a value. -/
structure FieldQuery where
  name : List Char
  hasValue : Bool
  deriving DecidableEq, Repr

namespace FieldQuery

/-- The power of ten that may end a number. -/
def isExponent : List Char → Bool
  | [] => true
  | mark :: cs =>
    let digits := if cs.head?.any (['+', '-'].contains ·) then cs.tail else cs
    (mark = 'e' || mark = 'E') && ! digits.isEmpty && digits.all Text.isDecimalDigit

/-- A number with a plus sign is a value, but no pattern. -/
def isSignedNumber : List Char → Bool
  | '+' :: cs =>
    let (whole, rest) := cs.span Text.isDecimalDigit
    let (places, rest) :=
      match rest with
      | '.' :: rest => rest.span Text.isDecimalDigit
      | rest => ([], rest)
    ["inf", "infinity", "nan"].contains (String.ofList (cs.map Char.toLower))
      || ! (whole ++ places).isEmpty && isExponent rest
  | _ => false

example : isSignedNumber "+1.5e-3".toList = true := by decide +kernel

example : isSignedNumber "+.".toList = false := by decide +kernel

/-- A name, and a value behind an equals sign. What cannot be compared with has to be a
pattern. -/
def parse? (cs : List Char) : Option FieldQuery :=
  match Text.splitAt '=' cs with
  | name :: value :: _ =>
    if isSignedNumber value || Text.Pattern.isValid value then some ⟨name, true⟩ else none
  | _ => some ⟨cs, false⟩

end FieldQuery

/-- The level from which on events are shown that a target, a span and fields describe. -/
structure Directive where
  target : Option (List Char) := none
  span : Option (List Char) := none
  fields : List FieldQuery := []
  level : LogLevel := .trace
  deriving DecidableEq, Repr

namespace Directive

/-- Which part of a directive is being read, and where it starts. -/
inductive Part where
  | start
  | name (first : Nat)
  | span (first : Nat)
  | field (first : Nat)
  | fields
  | bound
  | level (first : Nat)
  deriving DecidableEq, Repr

def canStartName (c : Char) : Bool :=
  ['-', ':', '_'].contains c || Text.isAlphanumeric c

/-- One more character `c`, at the place `i`. Parts are cut out of `text`. -/
def step (text : List Char) (d : Directive) (part : Part) (i : Nat) (c : Char) :
    Option (Directive × Part) :=
  let cut (first : Nat) : List Char := (text.drop first).take (i - first)
  match part with
  | .start =>
    if c = '[' then some (d, .span (i + 1))
    else if canStartName c then some (d, .name i)
    else none
  | .name first =>
    if c = '=' then some ({ d with target := some (cut first) }, .level (i + 1))
    else if c = '[' then some ({ d with target := some (cut first) }, .span (i + 1))
    else some (d, part)
  | .span first =>
    if c = ']' then some ({ d with span := some (cut first) }, .bound)
    else if c = '\x7b' then
      let span := if (cut first).isEmpty then none else some (cut first)
      some ({ d with span := span }, .field (i + 1))
    else some (d, part)
  | .field first =>
    if c = '\x7d' then
      if (cut first).isEmpty then none
      else do
        let query ← FieldQuery.parse? (cut first)
        pure ({ d with fields := d.fields ++ [query] }, .fields)
    else some (d, part)
  | .fields => if c = ']' then some (d, .bound) else none
  | .bound => if c = '=' then some (d, .level (i + 1)) else none
  | .level _ => some (d, part)

/-- The whole directive, when the text ends in this part. A name alone is a level, or a target
of which everything is shown. -/
def finish (text : List Char) (d : Directive) : Part → Option Directive
  | .name first =>
    match LogLevel.parse? (text.drop first) with
    | some level => some { d with level := level }
    | none => some { d with target := some (text.drop first) }
  | .level first =>
    if (text.drop first).isEmpty then some d
    else (LogLevel.parse? (text.drop first)).map fun level => { d with level := level }
  | .bound => some d
  | _ => none

def readFrom (text : List Char) (d : Directive) (part : Part) (i : Nat) :
    List Char → Option Directive
  | [] => finish text d part
  | c :: cs => do
    let (d, part) ← step text d part i c
    readFrom text d part (i + 1) cs

/-- The directive that `text` spells. Blanks around it are passed over, but the places are
those of the text without them, and parts are cut out of the text with them. -/
def parse? (text : List Char) : Option Directive :=
  readFrom text {} .start 0 (Text.stripWhere Text.isBlank text)

/-- Whether a directive can show events outside of spans, whatever their fields hold. -/
def isStatic (d : Directive) : Bool := d.span.isNone && d.fields.all fun query => ! query.hasValue

/-- Whether a directive speaks of an event. -/
def applies (event : LogEvent) (d : Directive) : Bool :=
  d.isStatic
    && d.target.all (·.isPrefixOf event.target.toList)
    && d.fields.all fun query => event.fieldNames.contains (String.ofList query.name)

/-- Whether `d` is at least as particular as `other`, where both speak of one event: it has a
longer name, or more fields, or fields that come later by name. -/
def isAsParticular (d other : Directive) : Bool :=
  let size (d : Directive) : Nat := (d.target.map fun name => name.length + 1).getD 0
  let names (d : Directive) : List String := d.fields.map fun query => String.ofList query.name
  if size d ≠ size other then size other < size d
  else if d.fields.length ≠ other.fields.length then other.fields.length < d.fields.length
  else List.le (names other) (names d)

end Directive

abbrev LogFilter := List Directive

namespace LogFilter

def pieces (s : String) : List (List Char) :=
  (Text.splitAt ',' s.toList).filter (! ·.isEmpty)

/-- The filter that `s` spells, if all its directives can be read. -/
def parse? (s : String) : Option LogFilter := (pieces s).mapM Directive.parse?

/-- The filter of those directives of `s` that can be read; errors are shown if there are
none. -/
def parseLenient (s : String) : LogFilter :=
  match (pieces s).filterMap Directive.parse? with
  | [] => [{ level := .error }]
  | directives => directives

/-- The directive that decides about an event; of two that are as particular, the later. -/
def deciding? (filter : LogFilter) (event : LogEvent) : Option Directive :=
  (filter.filter (·.applies event)).foldl
    (fun best d => if best.all d.isAsParticular then some d else best) none

/-- Whether an event is shown. -/
def shows (filter : LogFilter) (event : LogEvent) : Bool :=
  (filter.deciding? event).any fun d => event.level.rank ≤ d.level.rank

example : (parseLenient "info,work=off").shows ⟨"work", .error, []⟩ = false := by
  decide +kernel

example : (parseLenient "off,[\x7bname\x7d]").shows ⟨"work", .error, ["name"]⟩ = true := by
  decide +kernel

example : parse? "=" = none := by decide +kernel

end LogFilter

end Enrollment
