import Enrollment.Text.Blank
import Enrollment.Text.Split
import Enrollment.Url.Basic

/-!
# Reading a URL

A text is read as an absolute URL from left to right: scheme, authority, path, query and
fragment. Special schemes are read leniently: any number of slashes of either direction may
stand before the host, and a backslash separates segments. Dot segments are resolved. The
scheme of files names no host but a remote one, and its paths know drive letters.
-/

namespace Enrollment.Url

open Text

/-! ## Schemes -/

/-- How the rest of a URL is read depends on the kind of its scheme. -/
inductive Kind where
  | special (defaultPort : Nat)
  | file
  | other
  deriving DecidableEq, Repr

def Kind.isSpecial : Kind → Bool
  | other => false
  | _ => true

def Kind.defaultPort? : Kind → Option Nat
  | special port => some port
  | _ => none

def specialSchemes : List (String × Nat) :=
  [("http", 80), ("https", 443), ("ws", 80), ("wss", 443), ("ftp", 21)]

def kindOf (scheme : List Char) : Kind :=
  if scheme = "file".toList then .file
  else
    match specialSchemes.find? (·.1.toList = scheme) with
    | some (_, port) => .special port
    | none => .other

def isSchemeChar (c : Char) : Bool := c.isAlphanum || ['+', '-', '.'].contains c

/-- The scheme in lower case, and what stands behind its colon. -/
def readScheme (cs : List Char) : Option (List Char × List Char) :=
  match cs.span isSchemeChar with
  | (first :: name, ':' :: rest) =>
    if first.isAlpha then some ((first :: name).map Char.toLower, rest) else none
  | _ => none

/-! ## Authority -/

/-- Whether an authority ends in front of `c`. -/
def Kind.endsAuthority (k : Kind) (c : Char) : Bool :=
  ['/', '?', '#'].contains c || (k.isSpecial && c = '\\')

/-- The user and the password in front of the last at sign of an authority, and the rest of
the URL. Nothing may be left out between an at sign in front and the host. -/
def readUserinfo (k : Kind) (cs : List Char) :
    Option ((List Char × List Char) × List Char) :=
  let (authority, rest) := cs.span fun c => ! k.endsAuthority c
  match cutLast '@' authority with
  | none => some (([], []), cs)
  | some (userinfo, place) =>
    if userinfo.isEmpty ∧ place.isEmpty ∧ ¬ rest.isEmpty then none
    else
      let (username, password) := cutFirst ':' userinfo
      some ((escape escapedInUserinfo username,
        escape escapedInUserinfo (password.getD [])), place ++ rest)

/-- The text of a host, which ends in front of a colon unless that stands in brackets. -/
def spanHost (k : Kind) (inBrackets : Bool) : List Char → List Char × List Char
  | [] => ([], [])
  | c :: cs =>
    if k.endsAuthority c || (c = ':' && ! inBrackets) then ([], c :: cs)
    else
      let inBrackets := if c = '[' then true else if c = ']' then false else inBrackets
      ((c :: (spanHost k inBrackets cs).1), (spanHost k inBrackets cs).2)

/-- The port behind a colon. No digits, or the port that the scheme implies, is no port. -/
def readPort (k : Kind) (cs : List Char) : Option (Option Nat × List Char) :=
  let (digits, rest) := cs.span isDecimalDigit
  let port := (number? 10 digits).getD 0
  if 65535 < port then none
  else if rest.head?.all fun c => ['/', '\\', '?', '#'].contains c then
    some (if digits.isEmpty ∨ k.defaultPort? = some port then none else some port, rest)
  else none

/-- The host and the port, and the rest of the URL. Only a scheme that is not special can do
without a host, and then there is no user and no port either. -/
def readHostAndPort [Idna] (k : Kind) (hasUser : Bool) (cs : List Char) :
    Option (Host × Option Nat × List Char) := do
  let (name, rest) := spanHost k false cs
  let host ← if k.isSpecial then Host.ofSpecial? name else Host.ofOther? name
  match rest with
  | ':' :: rest =>
    guard (host ≠ .empty)
    let (port, rest) ← readPort k rest
    pure (host, port, rest)
  | rest =>
    guard (host ≠ .empty ∨ ¬ hasUser)
    pure (host, none, rest)

/-! ## Path -/

/-- A letter and a colon, or the bar that used to stand for one, name a drive. -/
def isDriveLetter : List Char → Bool
  | [letter, mark] => letter.isAlpha && (mark = ':' || mark = '|')
  | _ => false

/-- A segment in which escaped dots are written as dots. -/
def unescapeDots : List Char → List Char
  | '%' :: '2' :: e :: cs =>
    if e = 'e' ∨ e = 'E' then '.' :: unescapeDots cs
    else '%' :: '2' :: e :: unescapeDots cs
  | c :: cs => c :: unescapeDots cs
  | [] => []

/-- The segments without the last one; a drive stays. -/
def dropSegment (path : List (List Char)) : List (List Char) :=
  if (path.getLast?.any isDriveLetter) then path else path.dropLast

/-- The path `path` followed by one more segment, of which `last` says whether the path ends
with it. A dot segment at the end leaves an empty one. -/
def pushSegment (path : List (List Char)) (last : Bool) (segment : List Char) :
    List (List Char) :=
  let place (path : List (List Char)) := if last then path ++ [[]] else path
  let dots := unescapeDots segment
  if dots = ['.', '.'] then place (dropSegment path)
  else if dots = ['.'] then place path
  else path ++ [escape escapedInPath segment]

def pushSegments (path : List (List Char)) : List (List Char) → List (List Char)
  | [] => path
  | [segment] => pushSegment path true segment
  | segment :: rest => pushSegments (pushSegment path false segment) rest

def Kind.isSlash (k : Kind) (c : Char) : Bool := c = '/' || (k.isSpecial && c = '\\')

/-- The segments of a path, in which the slash in front is not counted. -/
def segmentsOf (k : Kind) (cs : List Char) : List (List Char) :=
  match cs with
  | [] => splitWhere k.isSlash []
  | c :: rest => splitWhere k.isSlash (if k.isSlash c then rest else c :: rest)

/-- The path that stands in front of the query and the fragment. -/
def spanPath (cs : List Char) : List Char × List Char :=
  cs.span fun c => c ≠ '?' && c ≠ '#'

/-- The path behind an authority, or behind a slash; only the path of a scheme that is not
special can be empty. -/
def pathOf (k : Kind) (cs : List Char) : Path :=
  if cs.isEmpty ∧ ¬ k.isSpecial then .segments []
  else .segments (pushSegments [] (segmentsOf k cs))

/-! ## Files -/

/-- The path of a file. Empty segments at the front are left out. -/
def filePath (cs : List Char) : Path :=
  let path := (pushSegments [] (segmentsOf .file cs)).dropWhile List.isEmpty
  .segments (if path.isEmpty then [[]] else path)

/-- Whether the path of a file starts with a drive, in the spelling that drives have today. -/
def hasDrive (cs : List Char) : Bool :=
  match segmentsOf .file cs with
  | [letter, ':'] :: _ => letter.isAlpha
  | _ => false

/-- The host of a file that is not on this machine. -/
def fileHost? [Idna] (cs : List Char) : Option Host :=
  if cs.isEmpty then some .empty
  else do
    let host ← Host.ofSpecial? cs
    pure (if host = .named "localhost".toList then .empty else host)

/-- The host and the path of a file, and the rest of the URL. A path that names a drive has
no host. -/
def readFile [Idna] (cs : List Char) : Option (Host × Path × List Char) :=
  let slash := Kind.isSlash .file
  let located (host : Host) (cs : List Char) : Host × Path × List Char :=
    let (raw, rest) := spanPath cs
    (if hasDrive raw then .empty else host, filePath raw, rest)
  match cs with
  | a :: b :: rest =>
    if slash a ∧ slash b then
      let (name, behind) := rest.span fun c => ! Kind.endsAuthority .file c
      if isDriveLetter name then some (located .empty rest)
      else do pure (located (← fileHost? name) behind)
    else some (located .empty cs)
  | cs => some (located .empty cs)

/-! ## The whole URL -/

/-- `u` with the query and the fragment that are left. -/
def withTail (k : Kind) (u : Url) (cs : List Char) : Url :=
  let (front, fragment) := cutFirst '#' cs
  let escaped := if k.isSpecial then escapedInSpecialQuery else escapedInQuery
  { u with
    query := match front with
      | [] => none
      | _ :: query => some (escape escaped query)
    fragment := fragment.map (escape escapedInFragment) }

/-- A URL with an authority, of which `cs` is what stands behind the slashes. -/
def readAuthority [Idna] (scheme : List Char) (k : Kind) (cs : List Char) : Option Url := do
  let ((username, password), rest) ← readUserinfo k cs
  let hasUser := ¬ username.isEmpty ∨ ¬ password.isEmpty
  let (host, port, rest) ← readHostAndPort k hasUser rest
  let (raw, tail) := spanPath rest
  pure (withTail k ⟨scheme, username, password, some host, port, pathOf k raw, none, none⟩ tail)

/-- A URL that is not special. -/
def readOther [Idna] (scheme cs : List Char) : Option Url :=
  match cs with
  | '/' :: '/' :: rest => readAuthority scheme .other rest
  | cs =>
    let (raw, tail) := spanPath cs
    let path :=
      if raw.head? = some '/' then pathOf .other raw else .whole (escape (fun _ => false) raw)
    some (withTail .other ⟨scheme, [], [], none, none, path, none, none⟩ tail)

/-- What is read of a text: not the controls and spaces around it, nor tabs and line ends
anywhere. -/
def significant (s : String) : List Char :=
  (stripWhere (· ≤ ' ') s.toList).filter fun c => ! ['\t', '\n', '\r'].contains c

/-- The absolute URL that a text holds. -/
def parse? [Idna] (s : String) : Option Url := do
  let (scheme, rest) ← readScheme (significant s)
  match kindOf scheme with
  | .other => readOther scheme rest
  | .special port => readAuthority scheme (.special port) (rest.dropWhile (Kind.isSlash .file))
  | .file => do
    let (host, path, tail) ← readFile rest
    pure (withTail .file ⟨scheme, [], [], some host, none, path, none, none⟩ tail)

example :
    letI := Idna.asciiOnly
    (parse? "hTTp:\\\\EX%41mple.com:80\\a\\..\\b c?q'").map text =
      some "http://example.com/b%20c?q%27" := by decide +kernel

example :
    letI := Idna.single "Bücher.de" "xn--bcher-kva.de"
    (parse? "https:B%C3%BCcher.de/x").map text = some "https://xn--bcher-kva.de/x" := by
  decide +kernel

example :
    letI := Idna.asciiOnly
    (parse? "http://u:p@127.1:8080").bind hostText? = some "127.0.0.1" := by decide +kernel

example :
    letI := Idna.asciiOnly
    (parse? "file://localhost/x").bind hostText? = none := by decide +kernel

example :
    letI := Idna.asciiOnly
    (parse? "web:/..//x").map text = some "web:/.//x" := by decide +kernel

end Enrollment.Url
