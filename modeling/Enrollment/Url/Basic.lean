import Enrollment.Url.Host

/-!
# URLs

A URL in its parts, each already escaped, and the text that it is written as. The text of a
URL names the parts without ambiguity: a path that would be taken for an authority is
written behind a dot segment.
-/

namespace Enrollment

namespace Url

/-- A path is one text that has no structure, or a list of segments. -/
inductive Path where
  | whole (text : List Char)
  | segments (list : List (List Char))
  deriving DecidableEq, Repr

/-- Each segment stands behind a slash. -/
def Path.chars : Path → List Char
  | whole text => text
  | segments list => list.flatMap ('/' :: ·)

end Url

structure Url where
  scheme : List Char
  username : List Char := []
  password : List Char := []
  host : Option Url.Host := none
  port : Option Nat := none
  path : Url.Path
  query : Option (List Char) := none
  fragment : Option (List Char) := none
  deriving DecidableEq, Repr

namespace Url

/-- The user and the password, with the sign that ends them. -/
def userinfoChars (u : Url) : List Char :=
  if u.username.isEmpty ∧ u.password.isEmpty then []
  else u.username ++ (if u.password.isEmpty then [] else ':' :: u.password) ++ ['@']

/-- Two slashes, the user, the host and the port, where there is a host. -/
def authorityChars (u : Url) : List Char :=
  match u.host with
  | none => []
  | some host =>
    ['/', '/'] ++ u.userinfoChars ++ host.chars
      ++ (match u.port with
        | none => []
        | some n => ':' :: Nat.toDigits 10 n)

/-- The path; without a host it must not start with two slashes. -/
def pathChars (u : Url) : List Char :=
  match u.host, u.path with
  | none, .segments ([] :: _ :: _) => ['/', '.'] ++ u.path.chars
  | _, path => path.chars

/-- An optional part behind the mark that introduces it. -/
def marked (mark : Char) : Option (List Char) → List Char
  | none => []
  | some cs => mark :: cs

def chars (u : Url) : List Char :=
  u.scheme ++ [':'] ++ u.authorityChars ++ u.pathChars ++ marked '?' u.query
    ++ marked '#' u.fragment

def text (u : Url) : String := String.ofList u.chars

/-- The host, if one is named. -/
def namedHost? (u : Url) : Option Host := u.host.filter (· ≠ .empty)

/-- The text of the host, if one is named. -/
def hostText? (u : Url) : Option String := u.namedHost?.map fun h => String.ofList h.chars

/-- Without the user and the password, where they can be read. -/
def withoutUserinfo (u : Url) : Url :=
  let readable (cs : List Char) := (Utf8.decode? (unescape cs)).isSome
  let given := ¬ u.username.isEmpty ∨ (¬ u.password.isEmpty ∧ readable u.password)
  if readable u.username ∧ given then { u with username := [], password := [] } else u

end Url

end Enrollment
