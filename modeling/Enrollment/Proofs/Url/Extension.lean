import Enrollment.Proofs.Url.LastPart

/-!
# URLs below a URL

A text that ends in a slash and is read as a URL over HTTP names a place below which other places
lie. When segments that no part of a URL escapes are written behind it, the URL that is read is the
same but for its path, which goes on with these segments: the slash at the end tells the reader
of every earlier part where to stop.
-/

namespace Enrollment.Url

open Text

/-- The characters that stand for themselves everywhere in a URL. -/
def isUnreserved (c : Char) : Bool := c.isAlphanum || ['-', '.', '_', '~'].contains c

/-- A segment that is written as it is, and that is no dot segment. -/
structure IsPlain (segment : List Char) : Prop where
  nonempty : segment ≠ []
  unreserved : ∀ c ∈ segment, isUnreserved c = true
  not_dot : segment ≠ ['.']
  not_dots : segment ≠ ['.', '.']

instance (segment : List Char) : Decidable (IsPlain segment) :=
  decidable_of_iff
    (segment ≠ [] ∧ segment.all isUnreserved = true ∧ segment ≠ ['.'] ∧ segment ≠ ['.', '.'])
    ⟨fun ⟨nonempty, unreserved, dot, dots⟩ => ⟨nonempty, List.all_eq_true.mp unreserved, dot, dots⟩,
      fun ⟨nonempty, unreserved, dot, dots⟩ =>
        ⟨nonempty, List.all_eq_true.mpr unreserved, dot, dots⟩⟩

/-- The text of a path with these segments. -/
def slashed (segments : List (List Char)) : List Char := segments.flatMap ('/' :: ·)

section

variable {cs t rest segment : List Char} {c : Char} {k : Kind}

/-! ## Unreserved characters and slashes -/

/-- The text consists of unreserved characters and slashes. -/
def IsTame (cs : List Char) : Prop := ∀ c ∈ cs, isUnreserved c = true ∨ c = '/'

theorem code_of_isUnreserved (plain : isUnreserved c = true) : 45 ≤ c.toNat ∧ c.toNat ≤ 126 := by
  rcases Bool.or_eq_true_iff.mp plain with alphanumeric | mark
  · rcases Bool.or_eq_true_iff.mp alphanumeric with letter | digit
    · have bounds := code_of_isAlpha letter
      omega
    · have bounds := Bool.and_eq_true_iff.mp digit
      have range : 48 ≤ c.toNat ∧ c.toNat ≤ 57 :=
        ⟨of_decide_eq_true bounds.1, of_decide_eq_true bounds.2⟩
      omega
  · have cases : c = '-' ∨ c = '.' ∨ c = '_' ∨ c = '~' := by simpa using mark
    obtain rfl | rfl | rfl | rfl := cases <;> decide

theorem IsPlain.ne (plain : IsPlain segment) (member : c ∈ segment) {d : Char}
    (mark : isUnreserved d = false) : c ≠ d := by
  rintro rfl
  exact absurd (plain.unreserved c member) (by simp [mark])

theorem IsTame.not_mem (tame : IsTame t) {d : Char} (mark : isUnreserved d = false)
    (other : d ≠ '/') : d ∉ t := by
  intro member
  rcases tame d member with plain | slash
  · exact absurd plain (by simp [mark])
  · exact other slash

theorem IsTame.code (tame : IsTame t) (member : c ∈ t) : 45 ≤ c.toNat := by
  rcases tame c member with plain | rfl
  · exact (code_of_isUnreserved plain).1
  · decide

theorem isTame_slashed {segments : List (List Char)} (plain : ∀ s ∈ segments, IsPlain s) :
    IsTame (slashed segments) := by
  intro c member
  obtain ⟨segment, inside, here⟩ := List.mem_flatMap.mp member
  rcases List.mem_cons.mp here with slash | here
  · exact .inr slash
  · exact .inl ((plain segment inside).unreserved c here)

/-! ## Reading up to the path

Every part that is read in front of the path stops at a slash at the latest, and does so no matter
what stands behind. -/

theorem EndsIn.slash_mem (h : EndsIn [] cs) : '/' ∈ cs := h.subset List.mem_cons_self

theorem EndsIn.ne_nil (h : EndsIn [] cs) : cs ≠ [] := by
  rintro rfl
  exact absurd h.slash_mem List.not_mem_nil

/-- What is left of a text that ends in a slash does so, unless nothing is left. -/
theorem EndsIn.of_suffix (h : EndsIn [] cs) (left : rest <:+ cs) (nonempty : rest ≠ []) :
    EndsIn [] rest := by
  rcases List.suffix_or_suffix_of_suffix h left with short | long
  · exact short
  · rcases List.suffix_cons_iff.mp long with same | short
    · rw [same]
      exact List.suffix_refl _
    · exact absurd (List.suffix_nil.mp short) nonempty

theorem dropWhile_append_of_mem {p : Char → Bool} (member : c ∈ cs) (stop : p c = false) :
    (cs ++ t).dropWhile p = cs.dropWhile p ++ t := by
  have left : (cs.dropWhile p).isEmpty = false := by
    obtain ⟨front, back, rfl⟩ := List.append_of_mem member
    have kept := suffix_dropWhile (List.suffix_append front (c :: back)) stop
    rw [List.isEmpty_eq_false_iff]
    intro none
    rw [none] at kept
    exact absurd (List.suffix_nil.mp kept) (List.cons_ne_nil _ _)
  rw [List.dropWhile_append, if_neg (by simp [left])]

theorem span_append_of_mem {p : Char → Bool} (member : c ∈ cs) (stop : p c = false) :
    (cs ++ t).span p = ((cs.span p).1, (cs.span p).2 ++ t) := by
  have kept : (cs ++ t).takeWhile p = cs.takeWhile p := by
    have behind := dropWhile_append_of_mem (t := t) member stop
    have whole := List.takeWhile_append_dropWhile (p := p) (l := cs ++ t)
    rw [behind, ← List.append_assoc] at whole
    have front := List.append_cancel_right whole
    rw [← List.append_cancel_right (front.trans (List.takeWhile_append_dropWhile (p := p)).symm)]
  simp only [List.span_eq_takeWhile_dropWhile, kept, dropWhile_append_of_mem member stop]

theorem EndsIn.span_snd {p : Char → Bool} (h : EndsIn [] cs) (stop : p '/' = false) :
    EndsIn [] (cs.span p).2 := by
  have whole := span_append p cs
  rw [← whole] at h
  exact h.of_append (not_mem_span stop)

/-- A text that does not end in a blank is only stripped in front. -/
theorem stripWhere_eq {p : Char → Bool} {last : Char} (h : [last] <:+ cs) (kept : p last = false) :
    stripWhere p cs = cs.dropWhile p := by
  obtain ⟨lead, whole⟩ := suffix_dropWhile h kept
  have reversed : (cs.dropWhile p).reverse = last :: lead.reverse := by
    rw [← whole, List.reverse_append]
    rfl
  rw [stripWhere, reversed, List.dropWhile_cons_of_neg (by simp [kept]), ← reversed,
    List.reverse_reverse]

theorem significant_append {s s' : String} (h : EndsIn [] s.toList) (tame : IsTame t)
    (longer : s'.toList = s.toList ++ t) :
    significant s' = significant s ++ t ∧ EndsIn [] (significant s) := by
  let blank (c : Char) : Bool := c ≤ ' '
  let shown (c : Char) : Bool := ! ['\t', '\n', '\r'].contains c
  have slash : blank '/' = false := by decide
  have front : stripWhere blank s.toList = s.toList.dropWhile blank := stripWhere_eq h slash
  have whole : stripWhere blank s'.toList = s.toList.dropWhile blank ++ t := by
    rw [longer, ← dropWhile_append_of_mem h.slash_mem slash]
    cases t using List.reverseRecOn with
    | nil =>
        rw [List.append_nil]
        exact front
    | append_singleton t last =>
        have printed : blank last = false := by
          have code := tame.code (List.mem_append_right t (List.mem_singleton_self last))
          rw [decide_eq_false_iff_not, Char.le_def, UInt32.le_iff_toNat_le]
          change ¬ last.toNat ≤ 32
          omega
        refine stripWhere_eq ?_ printed
        rw [← List.append_assoc]
        exact List.suffix_append _ _
  have kept : t.filter shown = t := by
    refine List.filter_eq_self.mpr fun c member => ?_
    have code := tame.code member
    have other : ∀ d : Char, d.toNat < 45 → c ≠ d := by
      rintro d small rfl
      omega
    simp [shown, other]
  constructor
  · change (stripWhere blank s'.toList).filter shown = (stripWhere blank s.toList).filter shown ++ t
    rw [whole, front, List.filter_append, kept]
  · change EndsIn [] ((stripWhere blank s.toList).filter shown)
    rw [front]
    exact (suffix_dropWhile h slash).filter shown

theorem readScheme_append {scheme : List Char} (h : EndsIn [] cs)
    (read : readScheme cs = some (scheme, rest)) :
    readScheme (cs ++ t) = some (scheme, rest ++ t) ∧ EndsIn [] rest := by
  have longer := span_append_of_mem (p := isSchemeChar) (t := t) h.slash_mem rfl
  have behind := h.span_snd (p := isSchemeChar) rfl
  unfold readScheme at read ⊢
  rw [longer]
  split at read
  · next first name rest split =>
    rw [split] at behind ⊢
    split at read
    · next letter =>
      cases read
      exact ⟨if_pos letter, EndsIn.of_append (a := [':']) behind (by decide)⟩
    · cases read
  · cases read

theorem readUserinfo_append {user : List Char × List Char} (h : EndsIn [] cs)
    (read : readUserinfo k cs = some (user, rest)) :
    readUserinfo k (cs ++ t) = some (user, rest ++ t) := by
  have stop : (! k.endsAuthority '/') = false := by simp [Kind.endsAuthority]
  have longer := span_append_of_mem (p := fun c => ! k.endsAuthority c) (t := t) h.slash_mem stop
  have behind := h.span_snd (p := fun c => ! k.endsAuthority c) stop
  unfold readUserinfo at read ⊢
  rw [longer]
  dsimp only at read ⊢
  split at read
  · cases read
    rfl
  · next userinfo place cut =>
    have left : (cs.span fun c => ! k.endsAuthority c).2 ≠ [] := behind.ne_nil
    simp only [List.isEmpty_iff, List.append_eq_nil_iff, left, false_and, not_false_eq_true,
      and_true] at read ⊢
    split at read
    · cases read
    · next given =>
      cases read
      rw [if_neg given, List.append_assoc]

theorem spanHost_append_of_mem (h : '/' ∈ cs) (inBrackets : Bool) :
    spanHost k inBrackets (cs ++ t) =
      ((spanHost k inBrackets cs).1, (spanHost k inBrackets cs).2 ++ t) := by
  induction cs generalizing inBrackets with
  | nil => cases h
  | cons c cs ih =>
      rw [List.cons_append, spanHost, spanHost]
      split
      · rfl
      · next inside =>
        have later : '/' ∈ cs := by
          rcases List.mem_cons.mp h with rfl | later
          · exact absurd (by simp [Kind.endsAuthority]) inside
          · exact later
        simp only [ih later]

theorem readPort_append {port : Option Nat} (h : EndsIn [] cs)
    (read : readPort k cs = some (port, rest)) :
    readPort k (cs ++ t) = some (port, rest ++ t) := by
  have longer := span_append_of_mem (p := isDecimalDigit) (t := t) h.slash_mem rfl
  obtain ⟨first, more, behind⟩ :=
    List.exists_cons_of_ne_nil (h.span_snd (p := isDecimalDigit) rfl).ne_nil
  unfold readPort at read ⊢
  rw [longer]
  dsimp only at read ⊢
  rw [behind] at read ⊢
  split at read
  · cases read
  · next small =>
    rw [if_neg small]
    split at read
    · next stop =>
      cases read
      exact if_pos stop
    · cases read

theorem readHostAndPort_append [Idna] {hasUser : Bool} {host : Host} {port : Option Nat}
    (special : k.isSpecial = true) (h : EndsIn [] cs)
    (read : readHostAndPort k hasUser cs = some (host, port, rest)) :
    readHostAndPort k hasUser (cs ++ t) = some (host, port, rest ++ t) := by
  have behind : EndsIn [] (spanHost k false cs).2 := by
    rw [← spanHost_append k false cs] at h
    exact h.of_append (not_mem_spanHost k false cs)
  obtain ⟨first, more, left⟩ := List.exists_cons_of_ne_nil behind.ne_nil
  unfold readHostAndPort at read ⊢
  rw [spanHost_append_of_mem h.slash_mem]
  simp only [Option.bind_eq_bind, Option.pure_def, if_pos special] at read ⊢
  rw [left] at behind read ⊢
  obtain ⟨name, found, read⟩ := Option.bind_eq_some_iff.mp read
  refine Option.bind_eq_some_iff.mpr ⟨name, found, ?_⟩
  by_cases colon : first = ':'
  · subst colon
    obtain ⟨_, guarded, read⟩ := Option.bind_eq_some_iff.mp read
    obtain ⟨⟨port, rest⟩, portRead, read⟩ := Option.bind_eq_some_iff.mp read
    cases read
    have inside : EndsIn [] more := EndsIn.of_append (a := [':']) behind (by simp)
    refine Option.bind_eq_some_iff.mpr ⟨_, guarded, ?_⟩
    exact Option.bind_eq_some_iff.mpr ⟨_, readPort_append inside portRead, rfl⟩
  · split at read
    · next same => exact absurd (List.cons.inj same).1 colon
    · obtain ⟨_, guarded, read⟩ := Option.bind_eq_some_iff.mp read
      cases read
      split
      · next same => exact absurd (List.cons.inj same).1 colon
      · exact Option.bind_eq_some_iff.mpr ⟨_, guarded, rfl⟩

/-! ## The path -/

theorem splitWhere_cut {p : Char → Bool} (stop : p c = true) :
    splitWhere p (c :: cs) = [] :: splitWhere p cs := by
  obtain ⟨piece, pieces, split⟩ := List.exists_cons_of_ne_nil (splitWhere_ne_nil p cs)
  rw [splitWhere, split]
  exact if_pos stop

/-- A text that ends in a slash is cut in front of what follows it. -/
theorem splitWhere_append {p : Char → Bool} (slash : p '/' = true) (h : EndsIn [] cs) :
    ∃ piece front, splitWhere p cs = piece :: front ++ [[]] ∧
      ∀ t, splitWhere p (cs ++ t) = piece :: front ++ splitWhere p t := by
  induction cs with
  | nil => exact absurd h.slash_mem List.not_mem_nil
  | cons c cs ih =>
      rcases List.suffix_cons_iff.mp h with whole | inner
      · obtain ⟨rfl, rfl⟩ := List.cons.inj whole
        exact ⟨[], [], splitWhere_cut slash, fun _ => splitWhere_cut slash⟩
      · obtain ⟨piece, front, split, longer⟩ := ih inner
        simp only [List.cons_append, splitWhere, split, longer]
        cases p c with
        | true => exact ⟨[], piece :: front, rfl, fun _ => rfl⟩
        | false => exact ⟨c :: piece, front, rfl, fun _ => rfl⟩

theorem splitWhere_piece {p : Char → Bool} (plain : ∀ c ∈ segment, p c = false)
    (stop : p c = true) : splitWhere p (segment ++ c :: t) = segment :: splitWhere p t := by
  induction segment with
  | nil => exact splitWhere_cut stop
  | cons d segment ih =>
      have inner := ih fun d member => plain d (List.mem_cons_of_mem _ member)
      rw [List.cons_append, splitWhere, inner]
      simp [plain d List.mem_cons_self]

theorem segmentsOf_append (h : EndsIn [] cs) :
    ∃ front, segmentsOf k cs = front ++ [[]] ∧
      ∀ t, segmentsOf k (cs ++ t) = front ++ splitWhere k.isSlash t := by
  have slash : k.isSlash '/' = true := by simp [Kind.isSlash]
  cases cs with
  | nil => exact absurd h.slash_mem List.not_mem_nil
  | cons c cs =>
      simp only [List.cons_append, segmentsOf]
      cases stop : k.isSlash c with
      | false =>
          obtain ⟨piece, front, split, longer⟩ := splitWhere_append slash h
          exact ⟨piece :: front, split, longer⟩
      | true =>
          rcases List.suffix_cons_iff.mp h with whole | inner
          · obtain ⟨-, rfl⟩ := List.cons.inj whole
            exact ⟨[], rfl, fun _ => rfl⟩
          · obtain ⟨piece, front, split, longer⟩ := splitWhere_append slash inner
            exact ⟨piece :: front, split, longer⟩

theorem IsPlain.not_isSlash (plain : IsPlain segment) (member : c ∈ segment) :
    k.isSlash c = false := by
  have other := plain.ne member (d := '/') rfl
  have back := plain.ne member (d := '\\') rfl
  simp [Kind.isSlash, other, back]

theorem splitWhere_slashed {segments : List (List Char)} (plain : ∀ s ∈ segments, IsPlain s)
    (below : slashed segments = '/' :: t) : splitWhere k.isSlash t = segments := by
  have slash : k.isSlash '/' = true := by simp [Kind.isSlash]
  induction segments generalizing t with
  | nil => cases below
  | cons s segments ih =>
      have first : ∀ c ∈ s, k.isSlash c = false :=
        fun c member => (plain s List.mem_cons_self).not_isSlash member
      have others {t : List Char} (below : slashed segments = '/' :: t) :=
        ih (fun s member => plain s (List.mem_cons_of_mem _ member)) below
      obtain rfl : s ++ slashed segments = t := (List.cons.inj below).2
      cases segments with
      | nil =>
          rw [slashed, List.flatMap_nil, List.append_nil]
          exact splitWhere_of_plain first
      | cons next segments =>
          change splitWhere k.isSlash (s ++ '/' :: (next ++ slashed segments)) = _
          rw [splitWhere_piece first slash, others (t := next ++ slashed segments) rfl]

theorem IsPlain.escape_eq (plain : IsPlain segment) : escape escapedInPath segment = segment := by
  apply escape_eq_self
  intro c member
  have bounds := code_of_isUnreserved (plain.unreserved c member)
  have other : ∀ d : Char, isUnreserved d = false → c ≠ d := fun d mark => plain.ne member mark
  constructor
  · simp [alwaysEscaped]
    omega
  · simp [escapedInPath, escapedInFragment, isUnreserved, other]

theorem pushSegment_plain (plain : IsPlain segment) (path : List (List Char)) (last : Bool) :
    pushSegment path last segment = path ++ [segment] := by
  have dots : unescapeDots segment = segment :=
    unescapeDots_of_plain fun member => plain.ne member (d := '%') rfl rfl
  simp only [pushSegment, dots]
  rw [if_neg plain.not_dots, if_neg plain.not_dot, plain.escape_eq]

theorem pushSegments_plain {segments : List (List Char)} (plain : ∀ s ∈ segments, IsPlain s)
    (path : List (List Char)) : pushSegments path segments = path ++ segments := by
  induction segments generalizing path with
  | nil => rw [pushSegments, List.append_nil]
  | cons s segments ih =>
      have first := pushSegment_plain (plain s List.mem_cons_self)
      cases segments with
      | nil => exact first path true
      | cons next segments =>
          have others := ih fun s member => plain s (List.mem_cons_of_mem _ member)
          rw [pushSegments, first, others, List.append_assoc]
          · rfl
          · simp

theorem pushSegments_append (path front : List (List Char)) :
    ∃ dir, pushSegments path (front ++ [[]]) = dir ++ [[]] ∧
      ∀ segments, segments ≠ [] → (∀ s ∈ segments, IsPlain s) →
        pushSegments path (front ++ segments) = dir ++ segments := by
  induction front generalizing path with
  | nil => exact ⟨path, rfl, fun _ _ plain => pushSegments_plain plain path⟩
  | cons s front ih =>
      obtain ⟨dir, short, long⟩ := ih (pushSegment path false s)
      have step {rest : List (List Char)} (nonempty : rest ≠ []) :
          pushSegments path (s :: (front ++ rest)) =
            pushSegments (pushSegment path false s) (front ++ rest) := by
        rw [pushSegments]
        simp [nonempty]
      refine ⟨dir, ?_, fun segments nonempty plain => ?_⟩
      · rw [List.cons_append, step (List.cons_ne_nil _ _), short]
      · rw [List.cons_append, step nonempty, long segments nonempty plain]

/-! ## The whole URL -/

/-- A URL without a query and a fragment has nothing behind its path. -/
theorem tail_eq_nil {u : Url} (query : (withTail k u t).query = none)
    (fragment : (withTail k u t).fragment = none) : t = [] := by
  rcases cutFirst_cases '#' t with cut | ⟨front, behind, -, cut⟩
  · cases t with
    | nil => rfl
    | cons c t => simp [withTail, cut] at query
  · simp [withTail, cut] at fragment

/-- A path up to the end of a text is read up to the end when it is longer. -/
theorem spanPath_append (h : (spanPath cs).2 = []) (tame : IsTame t) :
    (spanPath cs).1 = cs ∧ spanPath (cs ++ t) = (cs ++ t, []) := by
  let inside (c : Char) : Bool := c ≠ '?' && c ≠ '#'
  have raw : cs.takeWhile inside = cs := by
    have whole := span_append inside cs
    change (cs.span inside).2 = [] at h
    rwa [h, List.append_nil, List.span_eq_takeWhile_dropWhile] at whole
  have passed : ∀ c ∈ cs ++ t, inside c = true := by
    intro c member
    rcases List.mem_append.mp member with front | behind
    · rw [← raw] at front
      exact List.all_eq_true.mp List.all_takeWhile c front
    · have question : c ≠ '?' := fun same => tame.not_mem rfl (by decide) (same ▸ behind)
      have hash : c ≠ '#' := fun same => tame.not_mem rfl (by decide) (same ▸ behind)
      simp [inside, question, hash]
  constructor
  · rw [spanPath, List.span_eq_takeWhile_dropWhile]
    exact raw
  · have taken : (cs ++ t).takeWhile inside = cs ++ t := by
      have front : (cs ++ t ++ []).takeWhile inside = cs ++ t ++ [].takeWhile inside :=
        List.takeWhile_append_of_pos passed
      rwa [List.append_nil, List.takeWhile_nil, List.append_nil] at front
    have dropped : (cs ++ t).dropWhile inside = [] := by
      have whole := List.takeWhile_append_dropWhile (p := inside) (l := cs ++ t)
      rw [taken] at whole
      exact List.append_cancel_left (whole.trans (List.append_nil _).symm)
    change (cs ++ t).span inside = _
    rw [List.span_eq_takeWhile_dropWhile, taken, dropped]

/-- The segments that are written behind an authority and a path that ends in a slash. -/
theorem readAuthority_append [Idna] {scheme : List Char} {u : Url} (special : k.isSpecial = true)
    (h : EndsIn [] cs) (read : readAuthority scheme k cs = some u) (query : u.query = none)
    (fragment : u.fragment = none) :
    ∃ dir, u.path = .segments (dir ++ [[]]) ∧
      ∀ segments t, (∀ s ∈ segments, IsPlain s) → slashed segments = '/' :: t →
        readAuthority scheme k (cs ++ t) = some { u with path := .segments (dir ++ segments) } := by
  unfold readAuthority at read
  simp only [Option.bind_eq_bind, Option.pure_def] at read
  obtain ⟨⟨⟨username, password⟩, inner⟩, user, read⟩ := Option.bind_eq_some_iff.mp read
  obtain ⟨⟨host, port, rest⟩, place, read⟩ := Option.bind_eq_some_iff.mp read
  cases read
  have behind : EndsIn [] inner := h.of_readUserinfo user
  have last : EndsIn [] rest := behind.of_readHostAndPort place
  have bare : (spanPath rest).2 = [] := tail_eq_nil query fragment
  obtain ⟨front, short, long⟩ := segmentsOf_append (k := k) last
  obtain ⟨dir, pushed, longer⟩ := pushSegments_append [] front
  have pathOf_eq (cs : List Char) :
      pathOf k cs = .segments (pushSegments [] (segmentsOf k cs)) := by
    rw [pathOf, if_neg (by simp [special])]
  have raw : (spanPath rest).1 = rest := (spanPath_append (t := []) bare (by simp [IsTame])).1
  refine ⟨dir, ?_, fun segments t plain below => ?_⟩
  · change pathOf k (spanPath rest).1 = _
    rw [raw, pathOf_eq, short, pushed]
  · have nonempty : segments ≠ [] := by
      rintro rfl
      cases below
    have tame : IsTame t := by
      intro c member
      exact isTame_slashed plain c (below ▸ List.mem_cons_of_mem _ member)
    have path : pathOf k (rest ++ t) = .segments (dir ++ segments) := by
      rw [pathOf_eq, long, splitWhere_slashed plain below, longer segments nonempty plain]
    unfold readAuthority
    simp only [Option.bind_eq_bind, Option.pure_def]
    refine Option.bind_eq_some_iff.mpr ⟨_, readUserinfo_append h user, ?_⟩
    refine Option.bind_eq_some_iff.mpr ⟨_, readHostAndPort_append special behind place, ?_⟩
    simp only [(spanPath_append bare tame).2, path, bare]
    rfl

/-- The segments that are written behind a text that is read as a URL over HTTP, without a query
and a fragment, when a slash ends it. -/
theorem parse?_below [Idna] {host : String} {base : Url} {port : Nat}
    (parsed : parse? (host ++ "/") = some base) (special : kindOf base.scheme = .special port)
    (query : base.query = none) (fragment : base.fragment = none) :
    ∃ dir, base.path = .segments (dir ++ [[]]) ∧
      ∀ segments, segments ≠ [] → (∀ s ∈ segments, IsPlain s) →
        parse? (host ++ String.ofList (slashed segments)) =
          some { base with path := .segments (dir ++ segments) } := by
  have ends : EndsIn [] (host ++ "/").toList := by
    rw [String.toList_append]
    exact List.suffix_append _ _
  obtain ⟨rest, schemeRead, parsed⟩ := readAuthority_of_parse? parsed special
  have shown := (significant_append (t := []) ends (by simp [IsTame]) (List.append_nil _).symm).2
  have behind := (readScheme_append (t := []) shown schemeRead).2
  have hosted : EndsIn [] (rest.dropWhile (Kind.isSlash .file)) := by
    refine behind.of_suffix (List.dropWhile_suffix _) fun none => ?_
    rw [none] at parsed
    cases parsed
  obtain ⟨dir, path, longer⟩ := readAuthority_append rfl hosted parsed query fragment
  refine ⟨dir, path, fun segments nonempty plain => ?_⟩
  obtain ⟨t, below⟩ : ∃ t, slashed segments = '/' :: t := by
    obtain ⟨first, others, rfl⟩ := List.exists_cons_of_ne_nil nonempty
    exact ⟨_, rfl⟩
  have tame : IsTame t := by
    intro c member
    exact isTame_slashed plain c (below ▸ List.mem_cons_of_mem _ member)
  have longText : (host ++ String.ofList (slashed segments)).toList =
      (host ++ "/").toList ++ t := by
    rw [String.toList_append, String.toList_append, String.toList_ofList, below,
      List.append_assoc]
    rfl
  have dropped : (rest ++ t).dropWhile (Kind.isSlash .file) =
      rest.dropWhile (Kind.isSlash .file) ++ t := by
    rw [List.dropWhile_append, if_neg (by simp [hosted.ne_nil])]
  unfold parse?
  simp only [Option.bind_eq_bind, Option.pure_def]
  rw [(significant_append ends tame longText).1, (readScheme_append shown schemeRead).1]
  simp only [Option.bind_some, special, dropped]
  exact longer segments t plain below

end

end Enrollment.Url
