import Enrollment.Text.Digits

/-!
# Patterns

Whether a text is a regular expression that can be carried out: groups and brackets are closed,
a repetition has something to repeat, and an escape is one that is known. Classes of characters
by property and the bounds of words are not known. A brace opens the bounds of a repetition,
and no pattern here can hold the brace that would close them.
-/

namespace Enrollment.Text.Pattern

/-- Where a reader of a pattern is. Inside brackets, `depth` counts them, `fresh` says that a
closing bracket would stand for itself, `last` is what a range could start from, and `ranging`
says that a range has been started. -/
inductive Place where
  | item (repeatable : Bool)
  | opened
  | options
  | name
  | escape
  | hexadecimal (left : Nat)
  | brackets (depth : Nat) (fresh : Bool) (last : Option Char) (ranging : Bool)
  | bracketEscape (depth : Nat)
  deriving DecidableEq, Repr

/-- The letters that have a meaning behind a backslash, brackets aside. -/
def escapeLetters : List Char := ['a', 'f', 't', 'n', 'r', 'v']

/-- Signs can be escaped, whether they have a meaning or not. -/
def isEscapable (c : Char) : Bool :=
  ' ' ≤ c && c ≤ '~' && ! c.isAlphanum && c ≠ '<' && c ≠ '>' || escapeLetters.contains c

def hexadecimalDigits? (c : Char) : Option Nat :=
  [('x', 2), ('u', 4), ('U', 8)].lookup c

/-- One more character, with `groups` groups open. -/
def step : Nat × Place → Char → Option (Nat × Place)
  | (groups, .opened), '?' => some (groups, .options)
  | (groups, .options), c =>
    if c = ')' then (if groups = 0 then none else some (groups - 1, .item false))
    else if c = ':' then some (groups, .item false)
    else if c = '<' then some (groups, .name)
    else if ['i', 'm', 's', 'U', 'u', 'x', 'R', '-', 'P'].contains c then some (groups, .options)
    else none
  | (groups, .name), c =>
    if c = '>' then some (groups, .item false)
    else if c.isAlphanum || c = '_' then some (groups, .name)
    else none
  | (groups, .escape), c =>
    if isEscapable c || c = 'A' || c = 'z' then some (groups, .item true)
    else (hexadecimalDigits? c).map fun left => (groups, .hexadecimal left)
  | (groups, .hexadecimal left), c => do
    guard (hexDigit? c).isSome
    pure (groups, if left ≤ 1 then .item true else .hexadecimal (left - 1))
  | (groups, .bracketEscape depth), c => do
    guard (isEscapable c)
    pure (groups, .brackets depth false none false)
  | (groups, .brackets depth fresh last ranging), c =>
    if c = '\\' then some (groups, .bracketEscape depth)
    else if c = '[' then some (groups, .brackets (depth + 1) true none false)
    else if c = '^' ∧ fresh then some (groups, .brackets depth true none false)
    else if c = ']' ∧ ¬ fresh then
      some (groups, if depth = 0 then .item true else .brackets (depth - 1) false none false)
    else if c = '-' ∧ last.isSome ∧ ¬ ranging then some (groups, .brackets depth false last true)
    else if ranging then do
      guard (last.all (· ≤ c))
      pure (groups, .brackets depth false none false)
    else some (groups, .brackets depth false (some c) false)
  | (groups, place), c =>
    let repeatable := place = .item true
    if c = '\\' then some (groups, .escape)
    else if c = '(' then some (groups + 1, .opened)
    else if c = ')' then (if groups = 0 then none else some (groups - 1, .item true))
    else if c = '|' then some (groups, .item false)
    else if c = '[' then some (groups, .brackets 0 true none false)
    else if c = '*' ∨ c = '+' ∨ c = '?' then
      if repeatable then some (groups, .item true) else none
    else if c = '\x7b' then none
    else some (groups, .item true)

/-- Whether a pattern can end here. -/
def isComplete : Nat × Place → Bool
  | (0, .item _) => true
  | _ => false

def isValid (cs : List Char) : Bool :=
  (cs.foldlM step (0, .item false)).any isComplete

example : isValid "a(b|[^]c-e])+?.*".toList = true := by decide +kernel

example : isValid "*".toList = false := by decide +kernel

example : isValid "(a".toList = false := by decide +kernel

end Enrollment.Text.Pattern
