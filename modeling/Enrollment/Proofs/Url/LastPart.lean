import Enrollment.Url.Parser
import Mathlib.Data.List.Infix
import Mathlib.Data.Option.Basic

/-!
# The last part of a URL

What a text ends in can be recognised in the URL that is read of it. When the text ends in a
slash and a word of letters, the last part of the URL does so too: the word is its last
segment, or the end of its query or fragment. Whatever stands in front, such as ids that hold
dots, slashes or question marks, cannot change that. Two texts that end in different words
are therefore never read as the same URL.
-/

namespace Enrollment.Url

open Text

/-- A word consists of letters. -/
def IsWord (w : List Char) : Prop := w ≠ [] ∧ ∀ c ∈ w, c.isAlpha = true

instance (w : List Char) : Decidable (IsWord w) :=
  decidable_of_iff ((!w.isEmpty && w.all Char.isAlpha) = true) (by simp [IsWord])

/-- The text ends in a slash and the word. -/
def EndsIn (w cs : List Char) : Prop := '/' :: w <:+ cs

/-- What stands last in a URL: its fragment, or its query, or its last segment. -/
def lastPart (u : Url) : List Char :=
  match u.fragment, u.query, u.path with
  | some fragment, _, _ => fragment
  | none, some query, _ => query
  | none, none, .whole text => text
  | none, none, .segments list => list.getLast?.getD []

@[simp] theorem lastPart_withoutUserinfo (u : Url) : u.withoutUserinfo.lastPart = u.lastPart := by
  unfold withoutUserinfo
  dsimp only
  split <;> rfl

@[simp] theorem scheme_withoutUserinfo (u : Url) : u.withoutUserinfo.scheme = u.scheme := by
  unfold withoutUserinfo
  dsimp only
  split <;> rfl

section

variable {w v a b cs : List Char} {c : Char}

/-! ## Words -/

theorem code_of_isAlpha (letter : c.isAlpha = true) : 65 ≤ c.toNat ∧ c.toNat ≤ 122 := by
  have ranges : ('A' ≤ c ∧ c ≤ 'Z') ∨ ('a' ≤ c ∧ c ≤ 'z') := by
    rcases Bool.or_eq_true_iff.mp letter with upper | lower
    · exact .inl (of_decide_eq_true upper)
    · have bounds := Bool.and_eq_true_iff.mp lower
      exact .inr ⟨of_decide_eq_true bounds.1, of_decide_eq_true bounds.2⟩
  change (65 ≤ c.toNat ∧ c.toNat ≤ 90) ∨ (97 ≤ c.toNat ∧ c.toNat ≤ 122) at ranges
  omega

theorem IsWord.ne (word : IsWord w) (member : c ∈ w) {d : Char} (mark : d.isAlpha = false) :
    c ≠ d := by
  rintro rfl
  exact absurd (word.2 c member) (by simp [mark])

theorem IsWord.not_mem (word : IsWord w) {d : Char} (mark : d.isAlpha = false) : d ∉ w :=
  fun member => word.ne member mark rfl

theorem IsWord.not_mem_slash (word : IsWord w) {d : Char} (mark : d.isAlpha = false)
    (other : d ≠ '/') : d ∉ '/' :: w := by
  simp only [List.mem_cons, not_or]
  exact ⟨other, word.not_mem mark⟩

/-! ## Ends -/

theorem EndsIn.append (h : EndsIn w b) (a : List Char) : EndsIn w (a ++ b) :=
  h.trans (List.suffix_append a b)

/-- An end lies behind everything that has no slash. -/
theorem EndsIn.of_append (h : EndsIn w (a ++ b)) (plain : '/' ∉ a) : EndsIn w b := by
  rcases List.suffix_or_suffix_of_suffix h (List.suffix_append a b) with short | ⟨front, split⟩
  · exact short
  · cases front with
    | nil => exact ⟨[], by simpa using split.symm⟩
    | cons first front =>
        obtain ⟨lead, whole⟩ := h
        rw [← split, ← List.append_assoc] at whole
        have inside : lead ++ first :: front = a := List.append_cancel_right whole
        obtain ⟨rfl, -⟩ := List.cons.inj split
        exact absurd (by simp [← inside]) plain

/-- An end lies behind every mark that is no part of it. -/
theorem EndsIn.of_mark (h : EndsIn w (a ++ c :: b)) (mark : c ∉ '/' :: w) : EndsIn w b := by
  rcases List.suffix_or_suffix_of_suffix h (List.suffix_append a (c :: b)) with short | long
  · rcases List.suffix_cons_iff.mp short with whole | short
    · exact absurd (by simp [whole]) mark
    · exact short
  · exact absurd (long.subset List.mem_cons_self) mark

/-- One text ends in one word. -/
theorem EndsIn.unique (left : EndsIn w cs) (right : EndsIn v cs) (first : IsWord w)
    (second : IsWord v) : w = v := by
  have slash : ('/' : Char).isAlpha = false := rfl
  rcases List.suffix_or_suffix_of_suffix left right with short | short <;>
    rcases List.suffix_cons_iff.mp short with same | inner
  · exact (List.cons.inj same).2
  · exact absurd (inner.subset List.mem_cons_self) (second.not_mem slash)
  · exact (List.cons.inj same).2.symm
  · exact absurd (inner.subset List.mem_cons_self) (first.not_mem slash)

/-- What starts with something that is not dropped stays at the end. -/
theorem suffix_dropWhile {p : Char → Bool} (h : c :: b <:+ cs) (kept : p c = false) :
    c :: b <:+ cs.dropWhile p := by
  induction cs with
  | nil => exact h
  | cons d cs ih =>
      cases dropped : p d with
      | false => rwa [List.dropWhile_cons_of_neg (by simp [dropped])]
      | true =>
          rw [List.dropWhile_cons_of_pos dropped]
          rcases List.suffix_cons_iff.mp h with same | inner
          · obtain ⟨rfl, -⟩ := List.cons.inj same
            rw [kept] at dropped
            cases dropped
          · exact ih inner

/-! ## Reading up to the path -/

/-- The text ends in a slash and the word, behind a slash that an `a` follows. Slashes in
front of a host may be dropped, and one that a letter follows tells where that stops. -/
def Behind (w cs : List Char) : Prop := ∃ rest, EndsIn ('a' :: rest) cs ∧ EndsIn w rest

theorem endsIn_strip {p : Char → Bool} (word : IsWord w) (h : EndsIn w (cs.dropWhile p))
    (kept : ∀ c : Char, c.isAlpha = true → p c = false) :
    stripWhere p cs = cs.dropWhile p := by
  obtain ⟨lead, whole⟩ := h
  obtain ⟨last, split⟩ : ∃ last, w = w.dropLast ++ [last] :=
    ⟨w.getLast word.1, (List.dropLast_append_getLast word.1).symm⟩
  have letter : last.isAlpha = true := word.2 last (by rw [split]; simp)
  have reversed : (cs.dropWhile p).reverse = last :: (lead ++ '/' :: w.dropLast).reverse := by
    rw [← whole, split]
    simp
  rw [stripWhere, reversed, List.dropWhile_cons_of_neg (by simp [kept last letter]), ← reversed,
    List.reverse_reverse]

theorem Behind.significant {s : String} (word : IsWord w) (h : Behind w s.toList) :
    Behind w (significant s) := by
  obtain ⟨rest, front, inner⟩ := h
  let shown (c : Char) : Bool := ! ['\t', '\n', '\r'].contains c
  have whole : EndsIn ('a' :: rest) (s.toList.dropWhile (· ≤ ' ')) :=
    suffix_dropWhile front (by decide)
  have stripped : stripWhere (· ≤ ' ') s.toList = s.toList.dropWhile (· ≤ ' ') := by
    refine endsIn_strip word ?_ fun c letter => ?_
    · exact inner.trans ((List.suffix_cons 'a' rest).trans
        ((List.suffix_cons '/' ('a' :: rest)).trans whole))
    · have bounds := code_of_isAlpha letter
      rw [decide_eq_false_iff_not, Char.le_def, UInt32.le_iff_toNat_le]
      change ¬ c.toNat ≤ 32
      omega
  refine ⟨rest.filter shown, ?_, ?_⟩
  · rw [Url.significant, stripped]
    exact whole.filter shown
  · have same : ('/' :: w).filter shown = '/' :: w := by
      apply List.filter_eq_self.mpr
      intro c member
      rcases List.mem_cons.mp member with rfl | member
      · rfl
      · simp [shown, word.ne member]
    rw [EndsIn, ← same]
    exact inner.filter shown

theorem span_append (p : Char → Bool) (cs : List Char) : (cs.span p).1 ++ (cs.span p).2 = cs := by
  rw [List.span_eq_takeWhile_dropWhile, List.takeWhile_append_dropWhile]

theorem not_mem_span {p : Char → Bool} (stop : p c = false) : c ∉ (cs.span p).1 := by
  rw [List.span_eq_takeWhile_dropWhile]
  intro member
  have passed := List.all_eq_true.mp List.all_takeWhile c member
  rw [stop] at passed
  cases passed

theorem span_stops {p : Char → Bool} {rest : List Char} (h : (cs.span p).2 = c :: rest) :
    p c = false := by
  rw [List.span_eq_takeWhile_dropWhile] at h
  have first := List.head?_dropWhile_not p cs
  rw [show cs.dropWhile p = c :: rest from h] at first
  exact first

theorem Behind.of_readScheme {scheme rest : List Char} (h : Behind w cs)
    (read : readScheme cs = some (scheme, rest)) : Behind w rest := by
  obtain ⟨front, outer, inner⟩ := h
  have whole := span_append isSchemeChar cs
  have plain : '/' ∉ (cs.span isSchemeChar).1 := not_mem_span rfl
  unfold readScheme at read
  split at read
  · next first name behind split =>
    split at read
    · cases read
      rw [split] at whole plain
      refine ⟨front, ?_, inner⟩
      rw [← whole, List.append_cons] at outer
      exact outer.of_append (by simpa using plain)
    · cases read
  · cases read

theorem EndsIn.of_readUserinfo {k : Kind} {user : List Char × List Char} {rest : List Char}
    (h : EndsIn w cs) (read : readUserinfo k cs = some (user, rest)) : EndsIn w rest := by
  have whole := span_append (fun c => ! k.endsAuthority c) cs
  have plain : '/' ∉ (cs.span fun c => ! k.endsAuthority c).1 :=
    not_mem_span (by simp [Kind.endsAuthority])
  have behind : EndsIn w (cs.span fun c => ! k.endsAuthority c).2 := by
    rw [← whole] at h
    exact h.of_append plain
  unfold readUserinfo at read
  dsimp only at read
  split at read
  · cases read
    exact h
  · split at read
    · cases read
    · cases read
      exact behind.append _

theorem spanHost_append (k : Kind) (inBrackets : Bool) (cs : List Char) :
    (spanHost k inBrackets cs).1 ++ (spanHost k inBrackets cs).2 = cs := by
  induction cs generalizing inBrackets with
  | nil => rfl
  | cons c cs ih =>
      rw [spanHost]
      split
      · rfl
      · exact congrArg (c :: ·) (ih _)

theorem not_mem_spanHost (k : Kind) (inBrackets : Bool) (cs : List Char) :
    '/' ∉ (spanHost k inBrackets cs).1 := by
  induction cs generalizing inBrackets with
  | nil => exact List.not_mem_nil
  | cons c cs ih =>
      rw [spanHost]
      split
      · exact List.not_mem_nil
      · next inside =>
        simp only [List.mem_cons, not_or]
        refine ⟨?_, ih _⟩
        rintro rfl
        exact inside (by simp [Kind.endsAuthority])

theorem EndsIn.of_readPort {k : Kind} {port : Option Nat} {rest : List Char} (h : EndsIn w cs)
    (read : readPort k cs = some (port, rest)) : EndsIn w rest := by
  have whole := span_append isDecimalDigit cs
  have plain : '/' ∉ (cs.span isDecimalDigit).1 := not_mem_span rfl
  unfold readPort at read
  dsimp only at read
  split at read
  · cases read
  · split at read
    · cases read
      rw [← whole] at h
      exact h.of_append plain
    · cases read

theorem EndsIn.of_readHostAndPort [Idna] {k : Kind} {hasUser : Bool} {host : Host}
    {port : Option Nat} {rest : List Char} (h : EndsIn w cs)
    (read : readHostAndPort k hasUser cs = some (host, port, rest)) : EndsIn w rest := by
  have behind : EndsIn w (spanHost k false cs).2 := by
    rw [← spanHost_append k false cs] at h
    exact h.of_append (not_mem_spanHost k false cs)
  unfold readHostAndPort at read
  dsimp only at read
  split at read
  all_goals
    obtain ⟨name, -, read⟩ := Option.bind_eq_some_iff.mp read
    split at read
    · next inner split =>
      rw [split] at behind
      obtain ⟨_, -, read⟩ := Option.bind_eq_some_iff.mp read
      obtain ⟨⟨port, rest⟩, portRead, read⟩ := Option.bind_eq_some_iff.mp read
      cases read
      have inside : EndsIn w inner := EndsIn.of_append (a := [':']) behind (by simp)
      exact inside.of_readPort portRead
    · obtain ⟨_, -, read⟩ := Option.bind_eq_some_iff.mp read
      cases read
      exact behind

/-! ## The path and what stands behind it -/

theorem splitWhere_of_plain {p : Char → Bool} (plain : ∀ c ∈ cs, p c = false) :
    splitWhere p cs = [cs] := by
  induction cs with
  | nil => rfl
  | cons c cs ih =>
      rw [splitWhere, ih fun d member => plain d (List.mem_cons_of_mem c member)]
      simp [plain c List.mem_cons_self]

/-- The last piece of a text that is cut at its slashes. -/
theorem EndsIn.splitWhere {p : Char → Bool} (h : EndsIn w cs) (slash : p '/' = true)
    (plain : ∀ c ∈ w, p c = false) :
    ∃ front, front ≠ [] ∧ splitWhere p cs = front ++ [w] := by
  induction cs with
  | nil => exact absurd (List.suffix_nil.mp h) (by simp)
  | cons c cs ih =>
      rw [Text.splitWhere]
      rcases List.suffix_cons_iff.mp h with whole | inner
      · obtain ⟨rfl, rfl⟩ := List.cons.inj whole
        refine ⟨[[]], by simp, ?_⟩
        rw [splitWhere_of_plain plain]
        simp [slash]
      · obtain ⟨front, some, split⟩ := ih inner
        obtain ⟨piece, pieces, rfl⟩ := List.exists_cons_of_ne_nil some
        rw [split]
        cases p c with
        | true => exact ⟨[] :: piece :: pieces, by simp, rfl⟩
        | false => exact ⟨(c :: piece) :: pieces, by simp, rfl⟩

theorem IsWord.not_isSlash (word : IsWord w) (k : Kind) (member : c ∈ w) :
    k.isSlash c = false := by
  simp [Kind.isSlash, word.ne member]

theorem EndsIn.segmentsOf {k : Kind} (h : EndsIn w cs) (word : IsWord w) :
    ∃ front, segmentsOf k cs = front ++ [w] := by
  have slash : k.isSlash '/' = true := by simp [Kind.isSlash]
  have plain : ∀ c ∈ w, k.isSlash c = false := fun c member => word.not_isSlash k member
  cases cs with
  | nil => exact absurd (List.suffix_nil.mp h) (by simp)
  | cons c cs =>
      rw [Url.segmentsOf]
      split
      · rcases List.suffix_cons_iff.mp h with whole | inner
        · obtain ⟨-, rfl⟩ := List.cons.inj whole
          exact ⟨[], splitWhere_of_plain plain⟩
        · obtain ⟨front, -, split⟩ := EndsIn.splitWhere inner slash plain
          exact ⟨front, split⟩
      · obtain ⟨front, -, split⟩ := EndsIn.splitWhere h slash plain
        exact ⟨front, split⟩

theorem unescapeDots_of_plain (plain : '%' ∉ cs) : unescapeDots cs = cs := by
  fun_induction unescapeDots cs with
  | case1 | case2 => exact absurd List.mem_cons_self plain
  | case3 c cs _ ih => rw [ih fun member => plain (List.mem_cons_of_mem c member)]
  | case4 => rfl

theorem escape_append (p : Char → Bool) (a b : List Char) :
    escape p (a ++ b) = escape p a ++ escape p b := List.flatMap_append

/-- Text without a character that is to be escaped is left as it is. -/
theorem escape_eq_self {p : Char → Bool}
    (kept : ∀ c ∈ cs, alwaysEscaped c = false ∧ p c = false) : escape p cs = cs := by
  have single : ∀ c ∈ cs, (if alwaysEscaped c || p c then
      (Utf8.encode [c]).flatMap escapeByte else [c]) = [c] := by
    intro c member
    obtain ⟨printed, plain⟩ := kept c member
    rw [printed, plain]
    rfl
  calc escape p cs
      _ = cs.flatMap fun c => [c] := List.flatMap_congr single
      _ = cs := List.flatMap_singleton' cs

/-- Letters are never escaped by a set that does not hold them. -/
theorem IsWord.escape_eq (word : IsWord w) {p : Char → Bool}
    (kept : ∀ c : Char, c.isAlpha = true → p c = false) : escape p w = w := by
  apply escape_eq_self
  intro c member
  have bounds := code_of_isAlpha (word.2 c member)
  refine ⟨?_, kept c (word.2 c member)⟩
  simp [alwaysEscaped]
  omega

theorem EndsIn.escape {p : Char → Bool} (h : EndsIn w cs) (word : IsWord w)
    (kept : ∀ c : Char, c.isAlpha = true → p c = false) (slash : p '/' = false) :
    EndsIn w (escape p cs) := by
  obtain ⟨lead, rfl⟩ := h
  have bare : Url.escape p ['/'] = ['/'] := by simp [Url.escape, slash, alwaysEscaped]
  rw [escape_append, ← List.singleton_append, escape_append, bare, word.escape_eq kept]
  exact List.suffix_append _ _

theorem letter_not_escaped (letter : c.isAlpha = true) :
    escapedInPath c = false ∧ escapedInFragment c = false ∧ escapedInSpecialQuery c = false := by
  have other : ∀ d : Char, d.isAlpha = false → c ≠ d := by
    rintro d mark rfl
    exact absurd letter (by simp [mark])
  simp [escapedInPath, escapedInFragment, escapedInSpecialQuery, escapedInQuery, other]

theorem getLast?_pushSegments (word : IsWord w) (path front : List (List Char)) :
    (pushSegments path (front ++ [w])).getLast? = some w := by
  have dots : ∀ d : List Char, '.' ∈ d → unescapeDots w ≠ d := by
    rintro d member same
    rw [unescapeDots_of_plain (word.not_mem rfl)] at same
    exact word.not_mem rfl (same ▸ member)
  have last (path : List (List Char)) : pushSegment path true w = path ++ [w] := by
    simp only [pushSegment]
    rw [if_neg (dots _ (by simp)), if_neg (dots _ (by simp)),
      word.escape_eq fun c letter => (letter_not_escaped letter).1]
  induction front generalizing path with
  | nil => rw [List.nil_append, pushSegments, last, List.getLast?_append]; rfl
  | cons segment front ih =>
      cases front with
      | nil => exact ih _
      | cons next front => exact ih _

theorem cutFirst_cases (mark : Char) (cs : List Char) :
    cutFirst mark cs = (cs, none) ∨
      ∃ front behind, cs = front ++ mark :: behind ∧ cutFirst mark cs = (front, some behind) := by
  have whole := span_append (· ≠ mark) cs
  unfold cutFirst
  split
  · next front split =>
    rw [split, List.append_nil] at whole
    exact .inl (by rw [← whole])
  · next front c behind split =>
    have stop := span_stops (congrArg Prod.snd split)
    obtain rfl : c = mark := by simpa using stop
    rw [split] at whole
    exact .inr ⟨front, behind, whole.symm, rfl⟩

/-- What stands behind the path starts with the mark of a query or of a fragment. -/
theorem spanPath_cases (cs : List Char) :
    (spanPath cs).2 = [] ∨
      ∃ rest, (spanPath cs).2 = '?' :: rest ∨ (spanPath cs).2 = '#' :: rest := by
  cases split : (spanPath cs).2 with
  | nil => exact .inl rfl
  | cons c rest =>
      have stop := span_stops split
      have mark : c = '?' ∨ c = '#' := by
        simp only [Bool.and_eq_false_iff, decide_eq_false_iff_not, not_not] at stop
        exact stop
      rcases mark with rfl | rfl
      · exact .inr ⟨rest, .inl rfl⟩
      · exact .inr ⟨rest, .inr rfl⟩

/-- The path, the query and the fragment keep the word at their end. -/
theorem EndsIn.lastPart_withTail {port : Nat} {u : Url} (h : EndsIn w cs) (word : IsWord w)
    (path : u.path = pathOf (.special port) (spanPath cs).1) :
    EndsIn w ('/' :: (withTail (.special port) u (spanPath cs).2).lastPart) := by
  have question : '?' ∉ '/' :: w := word.not_mem_slash rfl (by decide)
  have hash : '#' ∉ '/' :: w := word.not_mem_slash rfl (by decide)
  have fragment : ∀ {behind : List Char}, EndsIn w behind →
      EndsIn w ('/' :: Url.escape escapedInFragment behind) := by
    intro behind inner
    refine EndsIn.append ?_ ['/']
    exact inner.escape word (fun c letter => (letter_not_escaped letter).2.1) rfl
  have whole := span_append (fun c => c ≠ '?' && c ≠ '#') cs
  change (spanPath cs).1 ++ (spanPath cs).2 = cs at whole
  rw [← whole] at h
  rcases spanPath_cases cs with none | ⟨rest, mark | mark⟩
  · rw [none, List.append_nil] at h
    rw [none]
    obtain ⟨front, segments⟩ := h.segmentsOf (k := .special port) word
    have last := getLast?_pushSegments word [] front
    simp [withTail, lastPart, path, pathOf, Kind.isSpecial, segments, last, cutFirst, EndsIn]
  · rw [mark] at h ⊢
    have inner : EndsIn w rest := h.of_mark question
    rcases cutFirst_cases '#' ('?' :: rest) with cut | ⟨front, behind, split, cut⟩
    · simp only [withTail, cut, lastPart, Option.map_none]
      refine EndsIn.append ?_ ['/']
      exact inner.escape word (fun c letter => (letter_not_escaped letter).2.2) rfl
    · simp only [withTail, cut, lastPart, Option.map_some]
      rw [split, ← List.append_assoc] at h
      exact fragment (h.of_mark hash)
  · rw [mark] at h ⊢
    have inner : EndsIn w rest := h.of_mark hash
    exact fragment inner

variable [Idna]

/-- What an authority leaves to be read as the path and what follows it. -/
theorem readAuthority_eq {scheme : List Char} {k : Kind} {u : Url}
    (read : readAuthority scheme k cs = some u) :
    ∃ bare rest, u = withTail k bare (spanPath rest).2 ∧ bare.scheme = scheme ∧
      bare.path = pathOf k (spanPath rest).1 ∧ ∀ w, EndsIn w cs → EndsIn w rest := by
  unfold readAuthority at read
  simp only [Option.bind_eq_bind, Option.pure_def] at read
  obtain ⟨⟨⟨username, password⟩, inner⟩, user, read⟩ := Option.bind_eq_some_iff.mp read
  obtain ⟨⟨host, port, rest⟩, place, read⟩ := Option.bind_eq_some_iff.mp read
  cases read
  refine ⟨_, rest, rfl, rfl, rfl, ?_⟩
  intro w h
  exact (h.of_readUserinfo user).of_readHostAndPort place

theorem scheme_of_readOther {scheme : List Char} {u : Url} (read : readOther scheme cs = some u) :
    u.scheme = scheme := by
  unfold readOther at read
  split at read
  · obtain ⟨bare, rest, rfl, same, -⟩ := readAuthority_eq read
    exact same
  · cases read
    rfl

/-- A URL over HTTP is read off its scheme and then, behind any number of slashes, off its
authority. -/
theorem readAuthority_of_parse? {s : String} {u : Url} {port : Nat} (parsed : parse? s = some u)
    (special : kindOf u.scheme = .special port) :
    ∃ rest, readScheme (significant s) = some (u.scheme, rest) ∧
      readAuthority u.scheme (.special port) (rest.dropWhile (Kind.isSlash .file)) = some u := by
  unfold parse? at parsed
  simp only [Option.bind_eq_bind, Option.pure_def] at parsed
  obtain ⟨⟨scheme, rest⟩, schemeRead, parsed⟩ := Option.bind_eq_some_iff.mp parsed
  split at parsed
  · next other =>
    obtain rfl := scheme_of_readOther parsed
    rw [other] at special
    cases special
  · next port' same =>
    have read := parsed
    obtain ⟨bare, last, rfl, rfl, -⟩ := readAuthority_eq parsed
    obtain rfl : port' = port := Kind.special.inj (same.symm.trans special)
    exact ⟨rest, schemeRead, read⟩
  · next file =>
    obtain ⟨_, -, parsed⟩ := Option.bind_eq_some_iff.mp parsed
    cases parsed
    rw [show kindOf scheme = .special port from special] at file
    cases file

/-- A URL over HTTP ends as the text ends that it is read of. -/
theorem endsIn_lastPart {s : String} {u : Url} {port : Nat} (word : IsWord w)
    (h : Behind w s.toList) (parsed : parse? s = some u)
    (special : kindOf u.scheme = .special port) : EndsIn w ('/' :: u.lastPart) := by
  obtain ⟨rest, schemeRead, read⟩ := readAuthority_of_parse? parsed special
  obtain ⟨front, outer, inner⟩ := (h.significant word).of_readScheme schemeRead
  obtain ⟨bare, last, rfl, -, path, kept⟩ := readAuthority_eq read
  have hosted : 'a' :: front <:+ rest.dropWhile (Kind.isSlash .file) :=
    suffix_dropWhile ((List.suffix_cons _ _).trans outer) rfl
  have behind : EndsIn w (rest.dropWhile (Kind.isSlash .file)) :=
    inner.trans ((List.suffix_cons _ _).trans hosted)
  exact (kept w behind).lastPart_withTail word path

end

end Enrollment.Url
