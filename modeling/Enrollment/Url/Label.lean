import Enrollment.Text.Composition
import Enrollment.Text.Direction
import Enrollment.Text.Joining
import Enrollment.Text.Punycode
import Enrollment.Url.Permitted

/-!
# Labels of domain names

A domain name consists of labels with dots between them. A label that starts with `xn--`
spells characters outside ASCII, and is one only if it spells a label that could not be
written otherwise: in composed form, of characters that are permitted, none of which depends
on what is not there. If some label is written from right to left, every label of the name has
to keep its characters in order wherever it is shown.
-/

namespace Enrollment.Url.Label

open Text

/-- What a label in ASCII spells other characters behind. -/
def encodedMark : List Char := "xn--".toList

/-! ## Joiners -/

def nonJoiner : Char := '\u200C'

def joiner : Char := '\u200D'

/-- The class of the marks that take the vowel from a consonant. -/
def viramaClass : Nat := 9

/-- The first of `cs` that is not joined across. -/
def nextLetter? (cs : List Char) : Option Char := (cs.dropWhile isJoinedAcross).head?

/-- Whether `c` may stand between `before`, which is reversed, and `after`. Joiners show how
consonants combine; the one that keeps letters apart may also stand where they would join. -/
def joinsProperly (before : List Char) (c : Char) (after : List Char) : Bool :=
  let afterVirama := before.head?.any fun last => Composition.classOf last = viramaClass
  if c = joiner then afterVirama
  else if c = nonJoiner then
    afterVirama || (nextLetter? before).any joinsLeft && (nextLetter? after).any joinsRight
  else true

def joinersFit (before : List Char) : List Char → Bool
  | [] => true
  | c :: cs => joinsProperly before c cs && joinersFit (c :: before) cs

/-! ## Direction -/

def isRightward (d : Direction) : Bool := d = .right || d = .arabicDigit

/-- Whether a label makes its name one that is written in both directions. -/
def hasRightToLeft (label : List Char) : Bool := label.any (isRightward <| Direction.ofChar ·)

/-- The directions of a label without the marks at its end. -/
def directions (label : List Char) : List Direction :=
  ((label.map Direction.ofChar).reverse.dropWhile (· = .mark)).reverse

/-- Whether a label keeps its order among others that are written in another direction. -/
def keepsOrder (label : List Char) : Bool :=
  let ds := directions label
  match ds.head?, ds.getLast? with
  | some .left, some last =>
    (last = .left || last = .digit) && ds.all fun d => ! isRightward d
  | some .right, some last =>
    (isRightward last || last = .digit) && ds.all (· ≠ .left)
      && ! (ds.contains .digit && ds.contains .arabicDigit)
  | some _, _ => false
  | none, _ => label.isEmpty

/-! ## Whole names -/

/-- Whether the characters that a label spells could not be written in ASCII or otherwise. -/
def isProper (label : List Char) : Bool :=
  label.any (fun c => 0x80 ≤ c.toNat)
    && label.all isPermitted
    && ! label.head?.any isMark
    && ! encodedMark.isPrefixOf label
    && Composition.compose label = label
    && joinersFit [] label

/-- The characters of a label in lower-case ASCII. -/
def chars? (label : List Char) : Option (List Char) :=
  if encodedMark.isPrefixOf label then
    (Punycode.decode? (label.drop encodedMark.length)).filter isProper
  else some label

/-- Whether every label of a name in lower-case ASCII spells what it may. -/
def areProper (name : List Char) : Bool :=
  match (Text.splitAt '.' name).mapM chars? with
  | none => false
  | some labels => ! labels.any hasRightToLeft || labels.all keepsOrder

example : areProper "www.xn--n3h.com".toList = true := by decide +kernel

example : areProper "xn--a-".toList = false := by decide +kernel

end Enrollment.Url.Label
