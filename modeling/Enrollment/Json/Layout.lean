import Enrollment.Json.Value

/-!
# Records

The layout of a record lists its fields. A field has a name, a reader whose value is the
change that it makes to the record, and a written form that is absent when the field is left
out. Reading and writing a record are both defined from the list, so they agree on names, on
order and on what is left out.

A record is written as an object, its fields in the order of the layout. It is read from an
object whose members come in any order, members of other names being passed over and a
second member of the same name refused; or from a list of the fields' values in the order of
the layout, of which the last ones may be missing.
-/

namespace Enrollment.Json

structure Field (ρ : Type) where
  name : String
  reader : Reader (ρ → ρ)
  write : ρ → Option (List Char)

/-- The fields of a record, the record that has none of them, and its name in faults. -/
structure Layout (ρ : Type) where
  title : String
  blank : ρ
  fields : List (Field ρ)

namespace Field

variable {ρ : Type}

/-- A text that is left out when it is empty. -/
def text (name : String) (get : ρ → String) (set : String → ρ → ρ) : Field ρ where
  name := name
  reader := Reader.text.map set
  write r := if (get r).isEmpty then none else some (quote (get r))

/-- A text that is left out when there is none; an empty one is written. -/
def optionalText (name : String) (get : ρ → Option String) (set : Option String → ρ → ρ) :
    Field ρ where
  name := name
  reader := Reader.optionalText.map set
  write r := (get r).map quote

/-- A list between brackets. -/
def bracketed (items : List (List Char)) : List Char :=
  '[' :: [','].intercalate items ++ [']']

/-- A list of texts that is left out when it is empty. -/
def texts (name : String) (get : ρ → List String) (set : List String → ρ → ρ) : Field ρ where
  name := name
  reader := (Reader.list Reader.text).map set
  write r := if (get r).isEmpty then none else some (bracketed ((get r).map quote))

end Field

namespace Layout

variable {ρ : Type}

/-! ## Writing -/

/-- The members of the object that `r` is written as. -/
def members (l : Layout ρ) (r : ρ) : List (List Char) :=
  l.fields.filterMap fun f => (f.write r).map fun value => quote f.name ++ ':' :: value

/-- `r` as an object, without any white space. -/
def write (l : Layout ρ) (r : ρ) : List Char :=
  '\x7b' :: [','].intercalate (l.members r) ++ ['\x7d']

def encode (l : Layout ρ) (r : ρ) : String := String.ofList (l.write r)

/-! ## Reading -/

def field? (l : Layout ρ) (name : String) : Option (Field ρ) :=
  l.fields.find? (·.name = name)

/-- The colon behind a key. -/
def expectColon (s : Bytes) : Except Fault Bytes :=
  match skipSpace s with
  | [] => .error .endInObject
  | b :: r => if b = Mark.colon then .ok r else .error .expectedColon

theorem length_expectColon_lt {s r : Bytes} (h : expectColon s = .ok r) :
    r.length < s.length := by
  unfold expectColon at h
  split at h
  · cases h
  · next hs =>
    split at h
    · cases h
      exact length_lt_of_skipSpace hs
    · cases h

/-- The value behind the key `name`, as a change of the record, and the names read so far.
A member of an unknown name changes nothing. -/
def readMember (l : Layout ρ) (seen : List String) (name : String) (s : Bytes) :
    Except Fault ((ρ → ρ) × List String × Bytes) :=
  match l.field? name with
  | some f =>
    if name ∈ seen then .error (.duplicateField name)
    else
      match expectColon s with
      | .error e => .error e
      | .ok r => (f.reader.run r).map fun p => (p.1, name :: seen, p.2)
  | none =>
    match expectColon s with
    | .error e => .error e
    | .ok r => (skipValue r).map fun r => (id, seen, r)

theorem length_readMember_lt {l : Layout ρ} {seen seen' : List String} {name : String}
    {s r : Bytes} {change : ρ → ρ}
    (h : l.readMember seen name s = .ok (change, seen', r)) : r.length < s.length := by
  unfold readMember at h
  split at h
  · next f _ =>
    split at h
    · cases h
    · split at h
      · cases h
      · next hc =>
        have hc' := length_expectColon_lt hc
        cases hr : f.reader.run _ with
        | error e => rw [hr] at h; cases h
        | ok p =>
          rw [hr] at h
          cases h
          have := f.reader.shorter (a := p.1) (r := p.2) hr
          omega
  · split at h
    · cases h
    · next hc =>
      have hc' := length_expectColon_lt hc
      cases hr : skipValue _ with
      | error e => rw [hr] at h; cases h
      | ok p =>
        rw [hr] at h
        cases h
        have := length_skipValue_lt hr
        omega

/-- Whether another key follows: what is left behind its opening quote, or behind the brace
that closes the object. -/
def nextKey (first : Bool) (s : Bytes) : Except Fault (Bool × Bytes) :=
  match skipSpace s with
  | [] => .error .endInObject
  | b :: r =>
    if b = Mark.closeObject then .ok (false, r)
    else if first then
      if b = Mark.quote then .ok (true, r) else .error .keyNotText
    else if b = Mark.comma then
      match skipSpace r with
      | [] => .error .endInValue
      | c :: r =>
        if c = Mark.quote then .ok (true, r)
        else if c = Mark.closeObject then .error .trailingComma
        else .error .keyNotText
    else .error .expectedCommaInObject

theorem length_nextKey_lt {first key : Bool} {s r : Bytes}
    (h : nextKey first s = .ok (key, r)) : r.length < s.length := by
  unfold nextKey at h
  split at h
  · cases h
  · next hs =>
    have hr := length_lt_of_skipSpace hs
    split at h
    · cases h
      exact hr
    · split at h
      · split at h
        · cases h
          exact hr
        · cases h
      · split at h
        · split at h
          · cases h
          · next hc =>
            have hc' := length_lt_of_skipSpace hc
            split at h
            · cases h
              omega
            · split at h <;> cases h
        · cases h

/-- The members that are left and the brace that closes the object. -/
def readMembers (l : Layout ρ) (seen : List String) (first : Bool) (record : ρ) (s : Bytes) :
    Except Fault (ρ × Bytes) :=
  match h : nextKey first s with
  | .error e => .error e
  | .ok (false, r) => .ok (record, r)
  | .ok (true, r) =>
    have := length_nextKey_lt h
    match h' : textBody r with
    | .error e => .error e
    | .ok (name, r) =>
      have := length_textBody_lt h'
      match h'' : l.readMember seen name r with
      | .error e => .error e
      | .ok (change, seen, r) =>
        have := length_readMember_lt h''
        readMembers l seen false (change record) r
termination_by s.length

theorem length_readMembers_lt {l : Layout ρ} {seen : List String} {first : Bool}
    {record result : ρ} {s r : Bytes}
    (h : l.readMembers seen first record s = .ok (result, r)) : r.length < s.length := by
  induction hn : s.length using Nat.strongRecOn generalizing seen first record s with
  | ind n ih =>
    subst hn
    rw [readMembers] at h
    split at h
    · cases h
    · next hk =>
      cases h
      exact length_nextKey_lt hk
    · next hk =>
      have hk' := length_nextKey_lt hk
      split at h
      · cases h
      · next ht =>
        have ht' := length_textBody_lt ht
        split at h
        · cases h
        · next hm =>
          have hm' := length_readMember_lt hm
          have := ih _ (by omega) h rfl
          omega

/-- The end of a list of which all wanted items have been read. -/
def closeList (s : Bytes) : Except Fault Bytes :=
  match skipSpace s with
  | [] => .error .endInList
  | b :: r =>
    if b = Mark.closeList then .ok r
    else if b = Mark.comma ∧ (skipSpace r).head? = some Mark.closeList then
      .error .trailingComma
    else .error .trailingCharacters

/-- The values of the fields `fs` in order; the list may end before the last one. -/
def readPositions (fs : List (Field ρ)) (first : Bool) (record : ρ) (s : Bytes) :
    Except Fault (ρ × Bytes) :=
  match fs with
  | [] => (closeList s).map (record, ·)
  | f :: fs =>
    let next (s : Bytes) : Except Fault (ρ × Bytes) :=
      match f.reader.run s with
      | .error e => .error e
      | .ok (change, r) => readPositions fs false (change record) r
    match skipSpace s with
    | [] => .error .endInList
    | b :: r =>
      if b = Mark.closeList then .ok (record, r)
      else if first then next s
      else if b = Mark.comma then
        match skipSpace r with
        | [] => .error .endInValue
        | c :: _ => if c = Mark.closeList then .error .trailingComma else next r
      else .error .expectedCommaInList

theorem length_closeList_lt {s r : Bytes} (h : closeList s = .ok r) : r.length < s.length := by
  unfold closeList at h
  split at h
  · cases h
  · next hs =>
    split at h
    · cases h
      exact length_lt_of_skipSpace hs
    · split at h <;> cases h

theorem length_readPositions_lt {fs : List (Field ρ)} {first : Bool} {record result : ρ}
    {s r : Bytes} (h : readPositions fs first record s = .ok (result, r)) :
    r.length < s.length := by
  induction fs generalizing first record s with
  | nil =>
    rw [readPositions] at h
    cases hc : closeList s with
    | error e => rw [hc] at h; cases h
    | ok p =>
      rw [hc] at h
      cases h
      exact length_closeList_lt hc
  | cons f fs ih =>
    have step {s : Bytes}
        (h : (match f.reader.run s with
          | .error e => Except.error e
          | .ok (change, r) => readPositions fs false (change record) r) = .ok (result, r)) :
        r.length < s.length := by
      split at h
      · cases h
      · next hf =>
        have := f.reader.shorter hf
        have := ih h
        omega
    rw [readPositions] at h
    split at h
    · cases h
    · next hs =>
      have hr := length_lt_of_skipSpace hs
      split at h
      · cases h
        exact hr
      · split at h
        · exact step h
        · split at h
          · split at h
            · cases h
            · split at h
              · cases h
              · have := step h
                omega
          · cases h

/-- A record, from an object or from a list. -/
def read (l : Layout ρ) (s : Bytes) : Except Fault (ρ × Bytes) :=
  match skipSpace s with
  | [] => .error .endInValue
  | b :: r =>
    if b = Mark.openObject then l.readMembers [] true l.blank r
    else if b = Mark.openList then readPositions l.fields true l.blank r
    else .error (mismatch l.title b r)

theorem length_read_lt {l : Layout ρ} {s r : Bytes} {record : ρ}
    (h : l.read s = .ok (record, r)) : r.length < s.length := by
  unfold read at h
  split at h
  · cases h
  · next hs =>
    have hr := length_lt_of_skipSpace hs
    split at h
    · have := length_readMembers_lt h
      omega
    · split at h
      · have := length_readPositions_lt h
        omega
      · cases h

def reader (l : Layout ρ) : Reader ρ := ⟨l.read, length_read_lt⟩

/-- The record that a whole text holds. -/
def decode (l : Layout ρ) (s : Bytes) : Except Fault ρ := l.reader.decode s

end Layout

end Enrollment.Json
