import Enrollment.Json.Skip

/-!
# Values of a wanted type

Readers for the values that records are made of: texts, texts that may be `null`, and lists.
Where another value stands in the place of the wanted one, it is read far enough to name it,
and only a fault within it comes before the mismatch.
-/

namespace Enrollment.Json

/-- The fault of a value that starts with the byte `b` and is not of the type `wanted`. -/
def mismatch (wanted : String) (b : UInt8) (s : Bytes) : Fault :=
  let named (found : Except Fault Found) : Fault :=
    match found with
    | .ok found => .wrongType found wanted
    | .error fault => fault
  if b = Mark.letter 'n' then named ((expectWord wordNull s).map fun _ => .null)
  else if b = Mark.letter 't' then named ((expectWord wordTrue s).map fun _ => .boolean true)
  else if b = Mark.letter 'f' then named ((expectWord wordFalse s).map fun _ => .boolean false)
  else if b = Mark.minus then named ((readUnsigned true s).map Prod.fst)
  else if isDigit b then named ((readUnsigned false (b :: s)).map Prod.fst)
  else if b = Mark.quote then named ((textBody s).map fun p => .text p.1)
  else if b = Mark.openList then .wrongType .list wanted
  else if b = Mark.openObject then .wrongType .object wanted
  else .expectedValue

/-- A text. -/
def readText (s : Bytes) : Except Fault (String × Bytes) :=
  match skipSpace s with
  | [] => .error .endInValue
  | b :: r => if b = Mark.quote then textBody r else .error (mismatch "a string" b r)

theorem length_readText_lt {s r : Bytes} {t : String} (h : readText s = .ok (t, r)) :
    r.length < s.length := by
  unfold readText at h
  split at h
  · cases h
  · next hs =>
    split at h
    · have := length_textBody_lt h
      have := length_lt_of_skipSpace hs
      omega
    · cases h

/-- A text or `null`. -/
def readOptionalText (s : Bytes) : Except Fault (Option String × Bytes) :=
  match skipSpace s with
  | [] => .error .endInValue
  | b :: r =>
    if b = Mark.letter 'n' then (expectWord wordNull r).map (none, ·)
    else (readText (b :: r)).map fun p => (some p.1, p.2)

theorem length_readOptionalText_lt {s r : Bytes} {t : Option String}
    (h : readOptionalText s = .ok (t, r)) : r.length < s.length := by
  unfold readOptionalText at h
  split at h
  · cases h
  · next b r' hs =>
    have hs' := length_lt_of_skipSpace hs
    have hle : (b :: r').length ≤ s.length := hs ▸ length_skipSpace_le s
    split at h
    · cases hw : expectWord wordNull r' with
      | error e => rw [hw] at h; cases h
      | ok w =>
        rw [hw] at h
        cases h
        have := length_expectWord_le hw
        omega
    · cases ht : readText (b :: r') with
      | error e => rw [ht] at h; cases h
      | ok p =>
        rw [ht] at h
        cases h
        have := length_readText_lt (t := p.1) (r := p.2) ht
        omega

/-- The items of a list and the bracket that closes it. -/
def readItems {α : Type} (item : Reader α) (first : Bool) (s : Bytes) :
    Except Fault (List α × Bytes) :=
  match h : skipSpace s with
  | [] => .error .endInList
  | b :: r =>
    have := length_lt_of_skipSpace h
    if b = Mark.closeList then .ok ([], r)
    else if first then
      match h' : item.run s with
      | .error e => .error e
      | .ok (a, rest) =>
        have := item.shorter h'
        match readItems item false rest with
        | .error e => .error e
        | .ok (more, rest) => .ok (a :: more, rest)
    else if b = Mark.comma then
      match skipSpace r with
      | [] => .error .endInValue
      | c :: _ =>
        if c = Mark.closeList then .error .trailingComma
        else
          match h' : item.run r with
          | .error e => .error e
          | .ok (a, rest) =>
            have := item.shorter h'
            match readItems item false rest with
            | .error e => .error e
            | .ok (more, rest) => .ok (a :: more, rest)
    else .error .expectedCommaInList
termination_by s.length

theorem length_readItems_lt {α : Type} {item : Reader α} {first : Bool} {s r : Bytes}
    {as : List α} (h : readItems item first s = .ok (as, r)) : r.length < s.length := by
  induction hn : s.length using Nat.strongRecOn generalizing first s r as with
  | ind n ih =>
    subst hn
    rw [readItems] at h
    split at h
    · cases h
    · next b r' hs =>
      have hr := length_lt_of_skipSpace hs
      split at h
      · cases h
        exact hr
      · split at h
        · split at h
          · cases h
          · next hi =>
            have hi' := item.shorter hi
            split at h
            · cases h
            · next hm =>
              cases h
              have := ih _ (by omega) hm rfl
              omega
        · split at h
          · split at h
            · cases h
            · split at h
              · cases h
              · split at h
                · cases h
                · next hi =>
                  have hi' := item.shorter hi
                  split at h
                  · cases h
                  · next hm =>
                    cases h
                    have := ih _ (by omega) hm rfl
                    omega
          · cases h

/-- A list of items. -/
def readList {α : Type} (item : Reader α) (s : Bytes) : Except Fault (List α × Bytes) :=
  match skipSpace s with
  | [] => .error .endInValue
  | b :: r =>
    if b = Mark.openList then readItems item true r else .error (mismatch "a sequence" b r)

theorem length_readList_lt {α : Type} {item : Reader α} {s r : Bytes} {as : List α}
    (h : readList item s = .ok (as, r)) : r.length < s.length := by
  unfold readList at h
  split at h
  · cases h
  · next hs =>
    split at h
    · have := length_readItems_lt h
      have := length_lt_of_skipSpace hs
      omega
    · cases h

namespace Reader

/-- Reads with `x` and applies `f` to the value. -/
def map {α β : Type} (f : α → β) (x : Reader α) : Reader β where
  run s := (x.run s).map fun p => (f p.1, p.2)
  shorter {s b r} h := by
    cases hx : x.run s with
    | error e => rw [hx] at h; cases h
    | ok p =>
      rw [hx] at h
      cases h
      exact x.shorter (a := p.1) (r := p.2) hx

def text : Reader String := ⟨readText, length_readText_lt⟩

def optionalText : Reader (Option String) := ⟨readOptionalText, length_readOptionalText_lt⟩

def list {α : Type} (item : Reader α) : Reader (List α) := ⟨readList item, length_readList_lt⟩

/-- Reads a whole text: nothing but white space may follow the value. -/
def decode {α : Type} (x : Reader α) (s : Bytes) : Except Fault α :=
  match x.run s with
  | .error e => .error e
  | .ok (a, r) => if (skipSpace r).isEmpty then .ok a else .error .trailingCharacters

end Reader

/-! ## Whole texts -/

/-- The leaves of a text that is read as a value of any type: texts and numbers have to have
a value, and lists and objects are nested at most 127 deep. -/
def strictText (s : Bytes) : Except Fault Bytes := (textBody s).map Prod.snd

theorem length_strictText_lt {s r : Bytes} (h : strictText s = .ok r) : r.length < s.length := by
  unfold strictText at h
  cases ht : textBody s with
  | error e => rw [ht] at h; cases h
  | ok p =>
    rw [ht] at h
    cases h
    exact length_textBody_lt (t := p.1) (r := p.2) ht

/-- A number that has a value; its grammar decides where it ends. -/
def strictNumber (negative : Bool) (s : Bytes) : Except Fault Bytes :=
  match readUnsigned negative s with
  | .error e => .error e
  | .ok _ => skipUnsigned s

theorem length_strictNumber_lt {negative : Bool} {s r : Bytes}
    (h : strictNumber negative s = .ok r) : r.length < s.length := by
  unfold strictNumber at h
  split at h
  · cases h
  · exact length_skipUnsigned_lt h

def Leaves.strict : Leaves where
  text := strictText
  number := strictNumber
  maxDepth := some 127
  text_shorter := length_strictText_lt
  number_shorter := length_strictNumber_lt

/-- Whether a text is JSON. -/
def isJson (s : Bytes) : Bool :=
  match Leaves.strict.value [] s with
  | .ok r => (skipSpace r).isEmpty
  | .error _ => false

end Enrollment.Json
