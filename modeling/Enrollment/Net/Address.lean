import Enrollment.Net.Ipv6

/-!
# Network addresses

An address of either kind, as an operator writes it: strictly, without brackets or a zone.
-/

namespace Enrollment

inductive Address where
  | four (address : Ipv4)
  | six (address : Ipv6)
  deriving DecidableEq, Repr

namespace Address

def parse? (s : String) : Option Address :=
  match Ipv4.parse? s.toList with
  | some a => some (four a)
  | none => (Ipv6.parse? s.toList).map six

def text : Address → String
  | four a => a.text
  | six a => a.canonical

end Address

end Enrollment
