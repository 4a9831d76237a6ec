import Enrollment.Http.Status
import Enrollment.Text.Utf8
import Enrollment.Url.Basic

/-!
# Requests and replies

What goes over the wire, as far as a caller can choose or see it. A reply is complete: its
body has been received to the end.
-/

namespace Enrollment.Http

inductive Method where
  | get
  | head
  | post
  | put
  | delete
  | other (name : String)
  deriving DecidableEq, Repr

namespace Method

def text : Method → String
  | get => "GET"
  | head => "HEAD"
  | post => "POST"
  | put => "PUT"
  | delete => "DELETE"
  | other name => name

/-- The method with this name; case matters. -/
def ofString (name : String) : Method :=
  ([get, head, post, put, delete].find? (·.text = name)).getD (other name)

theorem text_ofString (name : String) : (ofString name).text = name := by
  unfold ofString
  cases h : [get, head, post, put, delete].find? (·.text = name) with
  | none => rfl
  | some m =>
    have hit := List.find?_some h
    exact of_decide_eq_true hit

end Method

/-- A name in lower case and a value. -/
abbrev Header := String × String

namespace Header

def authorization : String := "authorization"

def contentType : String := "content-type"

/-- Whether a header may hold this value: tabs and visible characters, but no controls. -/
def isValue (s : String) : Bool :=
  s.toList.all fun c => c = '\t' || (0x20 ≤ c.toNat && c.toNat ≠ 0x7F)

end Header

abbrev Bytes := List UInt8

structure Request where
  method : Method
  url : Url
  headers : List Header
  body : Option Bytes
  deriving DecidableEq, Repr

structure Reply where
  status : Status
  body : Bytes
  deriving DecidableEq, Repr

/-- The body as text, with a replacement character for each broken one. -/
def Reply.text (r : Reply) : String := String.ofList (Utf8.decodeLossy r.body)

end Enrollment.Http
