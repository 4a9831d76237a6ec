import Enrollment.Net.Ipv4

/-!
# Addresses of eight groups

An address is spelled as eight hexadecimal groups with colons between them. A run of zero
groups may be left out once, which leaves two colons side by side, and the last two groups
may be spelled as an address of four octets.

Printing leaves out the first of the longest runs of at least two zero groups. It never
uses the spelling in octets, except that `Ipv6.canonical` does so for addresses that are
mapped from four octets.
-/

namespace Enrollment

open Text

/-- An address of eight groups of sixteen bits. -/
structure Ipv6 where
  groups : List UInt16
  length_groups : groups.length = 8
  deriving DecidableEq, Repr

namespace Ipv6

/-- A group is spelled by one to four digits. -/
def group? (cs : List Char) : Option UInt16 := do
  guard (cs.length ≤ 4)
  let n ← number? 16 cs
  pure n.toUInt16

/-- The two groups that four octets make. -/
def groupsOfOctets (a : Ipv4) : List UInt16 :=
  match a.octets with
  | (a, b, c, d) => [a.toUInt16 * 256 + b.toUInt16, c.toUInt16 * 256 + d.toUInt16]

/-- The groups of the pieces between colons. The last piece may be spelled in octets when
nothing follows it in the address. -/
def groupsOfPieces? (final : Bool) : List (List Char) → Option (List UInt16)
  | [] => some []
  | [piece] =>
    if final ∧ piece.contains '.' then (Ipv4.parse? piece).map groupsOfOctets
    else (group? piece).map ([·])
  | piece :: pieces => do
    let g ← group? piece
    let gs ← groupsOfPieces? final pieces
    pure (g :: gs)

/-- The groups of one side of the omitted run; the empty text has none. -/
def side? (final : Bool) (cs : List Char) : Option (List UInt16) :=
  if cs.isEmpty then some [] else groupsOfPieces? final (splitAt ':' cs)

/-- What stands before and behind the first two colons in a row. -/
def cutGap : List Char → List Char × Option (List Char)
  | ':' :: ':' :: behind => ([], some behind)
  | [] => ([], none)
  | c :: cs => (c :: (cutGap cs).1, (cutGap cs).2)

def parse? (cs : List Char) : Option Ipv6 :=
  match cutGap cs with
  | (all, none) => do
    let gs ← groupsOfPieces? true (splitAt ':' all)
    if h : gs.length = 8 then some ⟨gs, h⟩ else none
  | (before, some behind) => do
    let left ← side? false before
    let right ← side? true behind
    if h : left.length + right.length < 8 then
      some ⟨left ++ List.replicate (8 - left.length - right.length) 0 ++ right, by
        simp only [List.length_append, List.length_replicate]
        omega⟩
    else none

/-! ## Printing -/

/-- The zero groups at the front. -/
def leadingZeros (gs : List UInt16) : Nat := (gs.takeWhile (· = 0)).length

/-- Where the first of the longest runs of zero groups starts, and how long it is. -/
def longestRun (gs : List UInt16) : Nat × Nat :=
  (List.range gs.length).foldl
    (fun best i =>
      let length := leadingZeros (gs.drop i)
      if best.2 < length then (i, length) else best)
    (0, 0)

def groupText (g : UInt16) : String := String.ofList (Nat.toDigits 16 g.toNat)

def groupsText (gs : List UInt16) : String := ":".intercalate (gs.map groupText)

/-- The groups in hexadecimal, without the longest run of zeros. -/
def text (a : Ipv6) : String :=
  match longestRun a.groups with
  | (start, length) =>
    if length < 2 then groupsText a.groups
    else groupsText (a.groups.take start) ++ "::" ++ groupsText (a.groups.drop (start + length))

/-- The octets that the address is mapped from, if it is. -/
def mapped? (a : Ipv6) : Option Ipv4 :=
  match a.groups with
  | [0, 0, 0, 0, 0, 0xFFFF, high, low] => some (Ipv4.ofNat (high.toNat * Nat.pow 2 16 + low.toNat))
  | _ => none

/-- Like `text`, with the octets shown of an address that is mapped from them. -/
def canonical (a : Ipv6) : String :=
  match a.mapped? with
  | some octets => "::ffff:" ++ octets.text
  | none => a.text

example : (parse? "2001:DB8:0:0:1:0:0:1".toList).map text = some "2001:db8::1:0:0:1" := by
  decide +kernel

example : (parse? "::ffff:1.2.3.4".toList).map text = some "::ffff:102:304" := by
  decide +kernel

example : (parse? "::ffff:1.2.3.4".toList).map canonical = some "::ffff:1.2.3.4" := by
  decide +kernel

example : parse? "1::2::3".toList = none := by decide +kernel

end Ipv6

end Enrollment
