import Enrollment.Net.Ipv6
import Enrollment.Url.Label
import Enrollment.Url.Percent

/-!
# Hosts

The host of a special scheme is a domain, whose letters do not have a case, or an address in
any spelling. The host of another scheme keeps its letters and is never read as an address
of four octets.

A domain is known by its spelling in ASCII. How a domain that is not in ASCII is spelled there is
a matter of tables that grow with every version of Unicode. They are left open: all that is said
of URLs here is said for every `Idna`.
-/

namespace Enrollment.Url

/-- A host. The empty host stands where a host could be but none is named. -/
inductive Host where
  | empty
  | named (name : List Char)
  | four (address : Ipv4)
  | six (address : Ipv6)
  deriving DecidableEq, Repr

/-- The mapping of domains that are not in ASCII to ASCII; some have no spelling there. -/
class Idna where
  toAscii : List Char → Option (List Char)

/-- The mapping that knows no domain outside ASCII. -/
abbrev Idna.asciiOnly : Idna := ⟨fun _ => none⟩

/-- The mapping that knows one domain outside ASCII. -/
abbrev Idna.single (domain spelling : String) : Idna :=
  ⟨fun cs => if cs = domain.toList then some spelling.toList else none⟩

namespace Host

/-- An address of eight groups stands between brackets. -/
def chars : Host → List Char
  | empty => []
  | named name => name
  | four a => a.text.toList
  | six a => '[' :: a.text.toList ++ [']']

/-- The characters that no host holds. -/
def forbidden (c : Char) : Bool :=
  ['\x00', '\t', '\n', '\r', ' ', '#', '/', ':', '<', '>', '?', '@', '[', '\\', ']', '^',
    '|'].contains c

def forbiddenInDomain (c : Char) : Bool :=
  forbidden c || c = '%' || alwaysEscaped c

/-- What stands between the brackets that enclose `cs`. -/
def bracketed? (cs : List Char) : Option (List Char) :=
  if 1 < cs.length ∧ cs.getLast? = some ']' then some cs.tail.dropLast else none

def six? (cs : List Char) : Option Host := do
  pure (six (← Ipv6.parse? (← bracketed? cs)))

/-- A control or a space, which has no place in a domain and stays what it is in any mapping. -/
def isBlank (c : Char) : Bool := c ≤ ' '

/-- The spelling of a domain in ASCII: its own, in lower case, if it is in ASCII already, and else
the one that it is mapped to. -/
def spelling? [Idna] (domain : List Char) : Option (List Char) :=
  if domain.all fun c => c.toNat < 0x80 then
    let lower := domain.map Char.toLower
    if Label.areProper lower then some lower else none
  else if domain.any isBlank then none
  else Idna.toAscii domain

/-- The domain or address that a special scheme reads. A spelling is searched for what must not be
in a domain, wherever it comes from. -/
def ofSpecial? [Idna] (cs : List Char) : Option Host :=
  if cs.head? = some '[' then six? cs
  else do
    let name ← spelling? (← Utf8.decode? (unescape cs))
    guard (¬ name.isEmpty ∧ ¬ name.any forbiddenInDomain)
    if Ipv4.endsInNumber name then pure (four (← Ipv4.parseLenient? name))
    else pure (named name)

/-- The host that another scheme reads. -/
def ofOther? (cs : List Char) : Option Host :=
  if cs.isEmpty then some empty
  else if cs.head? = some '[' then six? cs
  else if cs.any forbidden then none
  else some (named (escape (fun _ => false) cs))

end Host

end Enrollment.Url
