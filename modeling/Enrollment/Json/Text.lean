import Enrollment.Json.Reader
import Enrollment.Text.Utf8

/-!
# Texts between quotes

A text is read in one of two ways. `unescape` yields its bytes and demands that surrogate
escapes come in pairs; whether the bytes are UTF-8 is decided for the whole text at its
closing quote. `skipText` passes over a text nobody will look at, and checks the letters of
escapes, their four hexadecimal digits and the absence of control characters only.

`quote` is the written form: what has an escape letter is written with it, the other
controls by number, everything else as it is.
-/

namespace Enrollment.Json

/-- Control characters have to be escaped. -/
def isControl (b : UInt8) : Bool := b < 0x20

def hexDigit? (b : UInt8) : Option Nat :=
  if 0x30 ≤ b ∧ b ≤ 0x39 then some (b.toNat - 0x30)
  else if 0x41 ≤ b ∧ b ≤ 0x46 then some (b.toNat - 0x37)
  else if 0x61 ≤ b ∧ b ≤ 0x66 then some (b.toNat - 0x57)
  else none

/-- The four digits behind an escape letter `u`. -/
def fourDigits : Bytes → Except Fault (Nat × Bytes)
  | a :: b :: c :: d :: s =>
    match hexDigit? a, hexDigit? b, hexDigit? c, hexDigit? d with
    | some a, some b, some c, some d => .ok (((a * 16 + b) * 16 + c) * 16 + d, s)
    | _, _, _, _ => .error .invalidEscape
  | _ => .error .endInText

theorem length_fourDigits_lt {s r : Bytes} {n : Nat} (h : fourDigits s = .ok (n, r)) :
    r.length < s.length := by
  unfold fourDigits at h
  split at h
  · split at h
    · cases h
      simp only [List.length_cons]
      omega
    · cases h
  · cases h

def isHighSurrogate (n : Nat) : Bool := 0xD800 ≤ n && n ≤ 0xDBFF

def isLowSurrogate (n : Nat) : Bool := 0xDC00 ≤ n && n ≤ 0xDFFF

/-- The character that a pair of surrogates stands for. -/
def fromSurrogates (high low : Nat) : Char :=
  Char.ofNat ((high - 0xD800) * 0x400 + (low - 0xDC00) + 0x10000)

/-- The second half of a surrogate pair, an escape of its own. -/
def lowHalf (high : Nat) : Bytes → Except Fault (Char × Bytes)
  | [] => .error .endInText
  | [b] => if b = Mark.backslash then .error .endInText else .error .missingSurrogate
  | b :: u :: s =>
    if b ≠ Mark.backslash ∨ u ≠ Mark.letter 'u' then .error .missingSurrogate
    else
      match fourDigits s with
      | .error e => .error e
      | .ok (low, r) =>
        if isLowSurrogate low then .ok (fromSurrogates high low, r) else .error .loneSurrogate

theorem length_lowHalf_lt {n : Nat} {s r : Bytes} {c : Char} (h : lowHalf n s = .ok (c, r)) :
    r.length < s.length := by
  unfold lowHalf at h
  split at h
  · cases h
  · split at h <;> cases h
  · split at h
    · cases h
    · split at h
      · cases h
      · next hd =>
        split at h
        · simp only [Except.ok.injEq, Prod.mk.injEq] at h
          have := h.2 ▸ length_fourDigits_lt hd
          simp only [List.length_cons]
          omega
        · cases h

/-- The character behind an escape letter `u`. -/
def numbered (s : Bytes) : Except Fault (Char × Bytes) :=
  match fourDigits s with
  | .error e => .error e
  | .ok (n, r) =>
    if isLowSurrogate n then .error .loneSurrogate
    else if isHighSurrogate n then lowHalf n r
    else .ok (Char.ofNat n, r)

/-- The byte that an escape letter stands for; `u` is not among the letters. -/
def escapeLetter? (b : UInt8) : Option UInt8 :=
  if b = Mark.quote ∨ b = Mark.backslash ∨ b = Mark.slash then some b
  else if b = Mark.letter 'b' then some 0x08
  else if b = Mark.letter 'f' then some 0x0C
  else if b = Mark.letter 'n' then some 0x0A
  else if b = Mark.letter 'r' then some 0x0D
  else if b = Mark.letter 't' then some 0x09
  else none

/-- What follows a backslash: the bytes that it stands for. -/
def escape : Bytes → Except Fault (Bytes × Bytes)
  | [] => .error .endInText
  | b :: s =>
    match escapeLetter? b with
    | some c => .ok ([c], s)
    | none =>
      if b = Mark.letter 'u' then (numbered s).map fun (c, r) => (String.utf8EncodeChar c, r)
      else .error .invalidEscape

theorem length_numbered_lt {s r : Bytes} {c : Char} (h : numbered s = .ok (c, r)) :
    r.length < s.length := by
  unfold numbered at h
  split at h
  · cases h
  · next hd =>
    have := length_fourDigits_lt hd
    split at h
    · cases h
    · split at h
      · have := length_lowHalf_lt h
        omega
      · cases h
        omega

theorem length_escape_lt {s r t : Bytes} (h : escape s = .ok (t, r)) :
    r.length < s.length := by
  unfold escape at h
  split at h
  · cases h
  · split at h
    · cases h
      simp only [List.length_cons]
      omega
    · split at h
      · next hu =>
        cases hn : numbered _ with
        | error e => rw [hn] at h; cases h
        | ok p =>
          rw [hn] at h
          cases h
          have := length_numbered_lt (c := p.1) (r := p.2) hn
          simp only [List.length_cons]
          omega
      · cases h

/-- The bytes of a text up to its closing quote. -/
def unescape (s : Bytes) : Except Fault (Bytes × Bytes) :=
  match s with
  | [] => .error .endInText
  | b :: s =>
    if b = Mark.quote then .ok ([], s)
    else if b = Mark.backslash then
      match h : escape s with
      | .error e => .error e
      | .ok (here, r) =>
        have : r.length < s.length := length_escape_lt h
        match unescape r with
        | .error e => .error e
        | .ok (more, rest) => .ok (here ++ more, rest)
    else if isControl b then .error .controlCharacter
    else
      match unescape s with
      | .error e => .error e
      | .ok (more, rest) => .ok (b :: more, rest)
termination_by s.length
decreasing_by all_goals (simp only [List.length_cons]; omega)

theorem length_unescape_lt {s t r : Bytes} (h : unescape s = .ok (t, r)) :
    r.length < s.length := by
  fun_induction unescape s generalizing t r with
  | case1 => cases h
  | case2 => cases h; simp only [List.length_cons]; omega
  | case3 => cases h
  | case4 => simp_all
  | case5 s here r' _ shrinks more rest hrest _ ih =>
    cases h
    have := ih hrest
    simp only [List.length_cons]
    omega
  | case6 => cases h
  | case7 => simp_all
  | case8 b s _ _ _ more rest hrest ih =>
    cases h
    have := ih hrest
    simp only [List.length_cons]
    omega

/-- A text whose opening quote has been read. -/
def textBody (s : Bytes) : Except Fault (String × Bytes) :=
  match unescape s with
  | .error e => .error e
  | .ok (t, r) =>
    match Utf8.decode? t with
    | some cs => .ok (String.ofList cs, r)
    | none => .error .invalidCodePoint

theorem length_textBody_lt {s r : Bytes} {t : String} (h : textBody s = .ok (t, r)) :
    r.length < s.length := by
  unfold textBody at h
  split at h
  · cases h
  · next hu =>
    split at h
    · cases h
      exact length_unescape_lt hu
    · cases h

/-- An escape that is passed over. -/
def skipEscape : Bytes → Except Fault Bytes
  | [] => .error .endInText
  | b :: s =>
    if (escapeLetter? b).isSome then .ok s
    else if b = Mark.letter 'u' then (fourDigits s).map Prod.snd
    else .error .invalidEscape

theorem length_skipEscape_lt {s r : Bytes} (h : skipEscape s = .ok r) :
    r.length < s.length := by
  unfold skipEscape at h
  split at h
  · cases h
  · split at h
    · cases h
      simp only [List.length_cons]
      omega
    · split at h
      · cases hn : fourDigits _ with
        | error e => rw [hn] at h; cases h
        | ok p =>
          rw [hn] at h
          cases h
          have := length_fourDigits_lt (n := p.1) (r := p.2) hn
          simp only [List.length_cons]
          omega
      · cases h

/-- What follows the closing quote of a text whose opening quote has been read. -/
def skipText (s : Bytes) : Except Fault Bytes :=
  match s with
  | [] => .error .endInText
  | b :: s =>
    if b = Mark.quote then .ok s
    else if b = Mark.backslash then
      match h : skipEscape s with
      | .error e => .error e
      | .ok r =>
        have : r.length < s.length := length_skipEscape_lt h
        skipText r
    else if isControl b then .error .controlCharacter
    else skipText s
termination_by s.length
decreasing_by all_goals (simp only [List.length_cons]; omega)

theorem length_skipText_lt {s r : Bytes} (h : skipText s = .ok r) : r.length < s.length := by
  fun_induction skipText s with
  | case1 => cases h
  | case2 => cases h; simp only [List.length_cons]; omega
  | case3 => cases h
  | case4 s _ r' _ shrinks ih =>
    have := ih h
    simp only [List.length_cons]
    omega
  | case5 => cases h
  | case6 b s _ _ _ ih =>
    have := ih h
    simp only [List.length_cons]
    omega

/-- `n` below 256 as two hexadecimal digits. -/
def twoHexDigits (n : Nat) : List Char := [Nat.digitChar (n / 16), Nat.digitChar (n % 16)]

def quotedChar (c : Char) : List Char :=
  if c = '"' ∨ c = '\\' then ['\\', c]
  else if c = '\x08' then ['\\', 'b']
  else if c = '\x0C' then ['\\', 'f']
  else if c = '\n' then ['\\', 'n']
  else if c = '\r' then ['\\', 'r']
  else if c = '\t' then ['\\', 't']
  else if c.toNat < 0x20 then ['\\', 'u', '0', '0'] ++ twoHexDigits c.toNat
  else [c]

/-- The written form of a text. -/
def quote (s : String) : List Char := '"' :: s.toList.flatMap quotedChar ++ ['"']

end Enrollment.Json
