import Enrollment.Proofs.Text.Utf8
import Enrollment.Proofs.Url.Extension
import Mathlib.Data.List.TakeWhile

/-!
# The host of a URL over HTTP

The host is read off the authority alone: off the text between the slashes behind the scheme and
the next character that ends an authority. What is written behind that character does not change
the host. What is written behind a text that has no such character becomes a part of the
authority, and when it ends in a blank the text cannot be read any more.
-/

namespace Enrollment.Url

open Text

section

variable {cs t place rest : List Char} {c b : Char} {k : Kind} {port : Nat}

@[simp] theorem hostText?_withoutUserinfo (u : Url) :
    u.withoutUserinfo.hostText? = u.hostText? := by
  unfold withoutUserinfo
  dsimp only
  split <;> rfl

/-! ## Domains in ASCII -/

/-- The mapping makes no difference to a host whose domain is in ASCII. -/
theorem ofSpecial?_of_ascii [Idna] {domain : List Char}
    (decoded : Utf8.decode? (unescape cs) = some domain)
    (ascii : (domain.all fun c => c.toNat < 0x80) = true) :
    Host.ofSpecial? cs = letI := Idna.asciiOnly; Host.ofSpecial? cs := by
  have same : Host.spelling? domain = letI := Idna.asciiOnly; Host.spelling? domain := by
    unfold Host.spelling?
    rw [if_pos ascii, if_pos ascii]
  unfold Host.ofSpecial?
  rw [decoded]
  simp only [Option.bind_eq_bind, Option.bind_some, same]

/-! ## Blanks

The characters that are stripped off the ends of a text have no place inside a host. -/

/-- What holds of the first characters up to the space holds of every blank. -/
theorem forall_blank {P : Char → Prop} (first : ∀ n < 33, P (Char.ofNat n)) (blank : b ≤ ' ') :
    P b := by
  have code : b.toNat ≤ 32 := UInt32.le_iff_toNat_le.mp (Char.le_def.mp blank)
  have here := first b.toNat (by omega)
  rwa [Char.ofNat_toNat] at here

theorem ne_of_blank (blank : b ≤ ' ') {d : Char} (printed : ' ' < d) : b ≠ d := by
  rintro rfl
  exact absurd blank (Char.not_le.mpr printed)

theorem endsAuthority_of_blank (blank : b ≤ ' ') : k.endsAuthority b = false := by
  have other {d : Char} (printed : ' ' < d) : b ≠ d := ne_of_blank blank printed
  simp [Kind.endsAuthority, other]

theorem isSlash_of_blank (blank : b ≤ ' ') : k.isSlash b = false := by
  have other {d : Char} (printed : ' ' < d) : b ≠ d := ne_of_blank blank printed
  simp [Kind.isSlash, other]

theorem isSchemeChar_of_blank (blank : b ≤ ' ') : isSchemeChar b = false :=
  forall_blank (P := fun b => isSchemeChar b = false) (by decide) blank

theorem isDecimalDigit_of_blank (blank : b ≤ ' ') : isDecimalDigit b = false :=
  forall_blank (P := fun b => isDecimalDigit b = false) (by decide) blank

/-- A blank is no part of an escape, so that it stands for its own byte. -/
theorem mem_unescape_of_blank (blank : b ≤ ' ') (member : b ∈ cs) :
    b.toNat.toUInt8 ∈ unescape cs := by
  have percent : b ≠ '%' := ne_of_blank blank (by decide)
  have digit : hexDigit? b = none :=
    forall_blank (P := fun b => hexDigit? b = none) (by decide) blank
  have byte : Utf8.encode [b] = [b.toNat.toUInt8] :=
    forall_blank (P := fun b => Utf8.encode [b] = [b.toNat.toUInt8]) (by decide) blank
  fun_induction unescape cs with
  | case1 => exact absurd member List.not_mem_nil
  | case2 x y cs high low first second ih =>
      have other : b ≠ x ∧ b ≠ y := by
        constructor <;> rintro rfl <;> simp_all
      have later : b ∈ cs := by simpa [percent, other.1, other.2] using member
      exact List.mem_cons_of_mem _ (ih later)
  | case3 x y cs _ ih =>
      have later : b ∈ x :: y :: cs := (List.mem_cons.mp member).resolve_left percent
      exact List.mem_append_right _ (ih later)
  | case4 c cs _ ih =>
      rcases List.mem_cons.mp member with rfl | later
      · exact List.mem_append_left _ (by simp [byte])
      · exact List.mem_append_right _ (ih later)

/-- A blank stays where it is in a domain that is in ASCII. Another domain that has one in it is
not mapped at all. -/
theorem any_forbidden_of_spelling? [Idna] (blank : b ≤ ' ') (shown : b ∈ cs)
    (spelled : Host.spelling? cs = some place) : place.any Host.forbiddenInDomain = true := by
  have forbidden : Host.forbiddenInDomain b = true :=
    forall_blank (P := fun b => Host.forbiddenInDomain b = true) (by decide) blank
  have lower : b.toLower = b := forall_blank (P := fun b => b.toLower = b) (by decide) blank
  unfold Host.spelling? at spelled
  dsimp only at spelled
  split at spelled
  · split at spelled
    · cases spelled
      exact List.any_eq_true.mpr ⟨b, List.mem_map.mpr ⟨b, shown, lower⟩, forbidden⟩
    · cases spelled
  · split at spelled
    · cases spelled
    · next unblanked =>
      exact absurd (List.any_eq_true.mpr ⟨b, shown, decide_eq_true blank⟩) unblanked

/-- No host ends in a blank. -/
theorem ofSpecial?_concat_blank [Idna] (blank : b ≤ ' ') : Host.ofSpecial? (cs ++ [b]) = none := by
  have bracket : b ≠ ']' := ne_of_blank blank (by decide)
  have ascii : b.toNat.toUInt8 < 0x80 :=
    forall_blank (P := fun b => b.toNat.toUInt8 < 0x80) (by decide) blank
  have code : Char.ofNat b.toNat.toUInt8.toNat = b :=
    forall_blank (P := fun b => Char.ofNat b.toNat.toUInt8.toNat = b) (by decide) blank
  unfold Host.ofSpecial?
  split
  · simp [Host.six?, Host.bracketed?, bracket]
  · cases decoded : Utf8.decode? (unescape (cs ++ [b])) with
    | none => rfl
    | some name =>
        have last : b ∈ cs ++ [b] := List.mem_append_right cs (List.mem_singleton_self b)
        have byte := mem_unescape_of_blank blank last
        have shown : b ∈ name := code ▸ Utf8.mem_of_decode? decoded byte ascii
        simp only [Option.bind_eq_bind, Option.bind_some, guard]
        cases spelled : Host.spelling? name with
        | none => rfl
        | some spelling =>
            have refused := any_forbidden_of_spelling? blank shown spelled
            rw [Option.bind_some, if_neg fun proper => proper.2 refused]
            rfl

/-! ## What an authority names -/

/-- The authority that a text starts with. -/
def authorityOf (k : Kind) (cs : List Char) : List Char :=
  cs.takeWhile fun c => ! k.endsAuthority c

/-- What stands in an authority behind its user and password. -/
def placeOf (authority : List Char) : List Char :=
  match cutLast '@' authority with
  | none => authority
  | some (_, place) => place

/-- The host that an authority names, if the authority can be read. -/
def hostIn? [Idna] (k : Kind) (authority : List Char) : Option Host :=
  (readHostAndPort k false (placeOf authority)).map (·.1)

/-- No character of the text ends an authority. -/
def Inside (k : Kind) (cs : List Char) : Prop := ∀ c ∈ cs, k.endsAuthority c = false

/-- The text is at its end, or an authority ends in front of it. -/
def Ends (k : Kind) (cs : List Char) : Prop := ∀ c ∈ cs.head?, k.endsAuthority c = true

theorem inside_authorityOf : Inside k (authorityOf k cs) := by
  intro c member
  have passed := List.all_eq_true.mp List.all_takeWhile c member
  simpa using passed

/-- What is dropped from the front of a text ends with it when more follows that is kept. -/
theorem dropWhile_append_of_kept {p : Char → Bool} (kept : t.dropWhile p = t) :
    (cs ++ t).dropWhile p = cs.dropWhile p ++ t := by
  rw [List.dropWhile_append, kept]
  split
  · next none => rw [List.isEmpty_iff.mp none, List.nil_append]
  · rfl

theorem Ends.takeWhile_append {p : Char → Bool} (h : Ends k rest)
    (stop : ∀ c, k.endsAuthority c = true → p c = false) :
    (cs ++ rest).takeWhile p = cs.takeWhile p := by
  have none : rest.takeWhile p = [] := by
    cases rest with
    | nil => rfl
    | cons c rest => rw [List.takeWhile_cons_of_neg (by simp [stop c (h c rfl)])]
  rw [List.takeWhile_append, none, List.append_nil]
  split
  · next whole => exact (List.takeWhile_prefix _).eq_of_length whole |>.symm
  · rfl

theorem Ends.dropWhile_append {p : Char → Bool} (h : Ends k rest)
    (stop : ∀ c, k.endsAuthority c = true → p c = false) :
    (cs ++ rest).dropWhile p = cs.dropWhile p ++ rest := by
  refine dropWhile_append_of_kept ?_
  cases rest with
  | nil => rfl
  | cons c rest => rw [List.dropWhile_cons_of_neg (by simp [stop c (h c rfl)])]

/-- What stands behind an authority does not matter to it. -/
theorem authorityOf_append (h : Ends k rest) : authorityOf k (cs ++ rest) = authorityOf k cs :=
  h.takeWhile_append fun c ends => by simp [ends]

theorem spanHost_append_ends (inside : Inside k place) (h : Ends k rest) (inBrackets : Bool) :
    spanHost k inBrackets (place ++ rest) =
      ((spanHost k inBrackets place).1, (spanHost k inBrackets place).2 ++ rest) := by
  induction place generalizing inBrackets with
  | nil =>
      cases rest with
      | nil => rfl
      | cons c rest => simp [spanHost, h c rfl]
  | cons c place ih =>
      have later : Inside k place := fun d member => inside d (List.mem_cons_of_mem c member)
      rw [List.cons_append, spanHost, spanHost]
      split
      · rfl
      · simp only [ih later]

/-- Behind the name of a host that is inside an authority there is a colon, or nothing. -/
theorem spanHost_stops (inside : Inside k place) (inBrackets : Bool) :
    (spanHost k inBrackets place).2 = [] ∨
      ∃ digits, (spanHost k inBrackets place).2 = ':' :: digits := by
  induction place generalizing inBrackets with
  | nil => exact .inl rfl
  | cons c place ih =>
      rw [spanHost]
      split
      · next stop =>
        have colon : c = ':' := by
          have both : c = ':' ∧ inBrackets = false := by
            simpa [inside c List.mem_cons_self] using stop
          exact both.1
        exact .inr ⟨place, by rw [colon]⟩
      · exact ih (fun d member => inside d (List.mem_cons_of_mem c member)) _

theorem endsAuthority_iff (special : k.isSpecial = true) :
    k.endsAuthority c = ['/', '\\', '?', '#'].contains c := by
  simp only [Kind.endsAuthority, special, List.contains_cons, List.contains_nil]
  grind

/-- A port is read to the end of the authority. -/
theorem readPort_append_ends (special : k.isSpecial = true) (h : Ends k rest) :
    (readPort k (cs ++ rest)).isSome = (readPort k cs).isSome := by
  have digit : ∀ c, k.endsAuthority c = true → isDecimalDigit c = false := by
    intro c ends
    rw [endsAuthority_iff special] at ends
    simp only [List.contains_cons, List.contains_nil, Bool.or_false, Bool.or_eq_true,
      beq_iff_eq] at ends
    rcases ends with rfl | rfl | rfl | rfl <;> rfl
  have taken : (cs ++ rest).takeWhile isDecimalDigit = cs.takeWhile isDecimalDigit :=
    h.takeWhile_append digit
  have left : (cs ++ rest).dropWhile isDecimalDigit = cs.dropWhile isDecimalDigit ++ rest :=
    h.dropWhile_append digit
  have stops : ((cs.dropWhile isDecimalDigit ++ rest).head?.all fun c =>
        ['/', '\\', '?', '#'].contains c) =
      (cs.dropWhile isDecimalDigit).head?.all fun c => ['/', '\\', '?', '#'].contains c := by
    cases behind : cs.dropWhile isDecimalDigit with
    | nil =>
        cases rest with
        | nil => rfl
        | cons c rest => simpa [endsAuthority_iff special] using h c rfl
    | cons c more => rfl
  unfold readPort
  simp only [List.span_eq_takeWhile_dropWhile, taken, left, stops]
  split
  · rfl
  · split <;> rfl

theorem ofSpecial?_ne_empty [Idna] : Host.ofSpecial? cs ≠ some .empty := by
  intro found
  unfold Host.ofSpecial? at found
  split at found
  · obtain ⟨inner, -, found⟩ := Option.bind_eq_some_iff.mp found
    obtain ⟨address, -, found⟩ := Option.bind_eq_some_iff.mp found
    cases found
  · obtain ⟨domain, -, found⟩ := Option.bind_eq_some_iff.mp found
    obtain ⟨name, -, found⟩ := Option.bind_eq_some_iff.mp found
    obtain ⟨_, -, found⟩ := Option.bind_eq_some_iff.mp found
    split at found
    · obtain ⟨address, -, found⟩ := Option.bind_eq_some_iff.mp found
      cases found
    · cases found

/-- The host and the port are read off the authority alone. -/
theorem readHostAndPort_append_ends [Idna] (special : k.isSpecial = true) (inside : Inside k place)
    (h : Ends k rest) (hasUser : Bool) :
    (readHostAndPort k hasUser (place ++ rest)).map (·.1) =
      (readHostAndPort k false place).map (·.1) := by
  unfold readHostAndPort
  rw [spanHost_append_ends inside h]
  simp only [if_pos special, Option.bind_eq_bind]
  cases named : Host.ofSpecial? (spanHost k false place).1 with
  | none => rfl
  | some host =>
      have present : host ≠ .empty := by
        rintro rfl
        exact ofSpecial?_ne_empty named
      have guarded {user : Prop} [Decidable user] :
          (guard (host ≠ .empty ∨ user) : Option Unit) = some () := by
        rw [guard, if_pos (.inl present)]
        rfl
      simp only [Option.bind_some]
      rcases spanHost_stops inside false with none | ⟨digits, colon⟩
      · rw [none, List.nil_append]
        cases rest with
        | nil => simp [guarded]
        | cons c more =>
            have other : c ≠ ':' := by
              rintro rfl
              have ends := h ':' rfl
              simp [Kind.endsAuthority] at ends
            split
            · next same => exact absurd (List.cons.inj same).1 other
            · simp [guarded]
      · rw [colon, List.cons_append]
        have port : (readPort k (digits ++ rest)).isSome = (readPort k digits).isSome :=
          readPort_append_ends special h
        simp only [guard, if_pos present]
        cases long : readPort k (digits ++ rest) with
        | none =>
            rw [long] at port
            rw [Option.isSome_eq_false_iff.mp port.symm |> Option.isNone_iff_eq_none.mp]
        | some read =>
            rw [long] at port
            obtain ⟨read', short⟩ := Option.isSome_iff_exists.mp port.symm
            rw [short]
            rfl

theorem cutLast_cases (mark : Char) (cs : List Char) :
    cutLast mark cs = none ∨
      ∃ front behind, cs = front ++ mark :: behind ∧ cutLast mark cs = some (front, behind) := by
  have whole := span_append (· ≠ mark) cs.reverse
  unfold cutLast
  split
  · exact .inl rfl
  · next behind c front split =>
    have stop := span_stops (congrArg Prod.snd split)
    obtain rfl : c = mark := by simpa using stop
    rw [split] at whole
    refine .inr ⟨front.reverse, behind.reverse, ?_, rfl⟩
    rw [← List.reverse_reverse cs, ← whole]
    simp

theorem Inside.placeOf (h : Inside k cs) : Inside k (placeOf cs) := by
  unfold Url.placeOf
  rcases cutLast_cases '@' cs with none | ⟨front, behind, rfl, cut⟩
  · rwa [none]
  · rw [cut]
    exact fun c member => h c (List.mem_append_right front (List.mem_cons_of_mem _ member))

theorem hostIn?_of_placeOf [Idna] (special : k.isSpecial = true) (bare : placeOf cs = []) :
    hostIn? k cs = none := by
  unfold hostIn? readHostAndPort
  rw [bare]
  simp only [spanHost, if_pos special]
  rfl

theorem readUserinfo_cases (k : Kind) (cs : List Char) :
    (readUserinfo k cs = none ∧ placeOf (authorityOf k cs) = []) ∨
      ∃ user, readUserinfo k cs =
        some (user, placeOf (authorityOf k cs) ++ cs.dropWhile fun c => ! k.endsAuthority c) := by
  have whole : authorityOf k cs ++ (cs.dropWhile fun c => ! k.endsAuthority c) = cs :=
    List.takeWhile_append_dropWhile
  unfold readUserinfo placeOf
  rw [List.span_eq_takeWhile_dropWhile]
  dsimp only
  split
  · next none =>
    rw [show cutLast '@' (authorityOf k cs) = Option.none from none]
    exact .inr ⟨_, by rw [whole]⟩
  · next userinfo place cut =>
    rw [show cutLast '@' (authorityOf k cs) = some (userinfo, place) from cut]
    split
    · next bare => exact .inl ⟨rfl, List.isEmpty_iff.mp bare.2.1⟩
    · exact .inr ⟨_, rfl⟩

/-- The host of a URL over HTTP is the one that its authority names. -/
theorem host_readAuthority [Idna] (scheme : List Char) (special : k.isSpecial = true) :
    (readAuthority scheme k cs).bind Url.host = hostIn? k (authorityOf k cs) := by
  have inside : Inside k (placeOf (authorityOf k cs)) := inside_authorityOf.placeOf
  have ends : Ends k (cs.dropWhile fun c => ! k.endsAuthority c) := by
    intro c first
    have stop := List.head?_dropWhile_not (fun c => ! k.endsAuthority c) cs
    rw [Option.mem_def.mp first] at stop
    simpa using stop
  unfold readAuthority
  rcases readUserinfo_cases k cs with ⟨none, bare⟩ | ⟨user, read⟩
  · rw [none, hostIn?_of_placeOf special bare]
    rfl
  · rw [read]
    have named := fun hasUser => readHostAndPort_append_ends special inside ends hasUser
    unfold hostIn?
    rw [← named]
    simp only [Option.bind_eq_bind, Option.bind_some]
    generalize readHostAndPort k _ _ = place
    cases place <;> rfl

/-! ## Authorities that end in a blank -/

theorem placeOf_concat (other : b ≠ '@') : placeOf (cs ++ [b]) = placeOf cs ++ [b] := by
  unfold placeOf cutLast
  rw [List.reverse_append, List.reverse_singleton, List.singleton_append,
    List.span_eq_takeWhile_dropWhile, List.span_eq_takeWhile_dropWhile,
    List.takeWhile_cons_of_pos (by simpa using other),
    List.dropWhile_cons_of_pos (by simpa using other)]
  cases (cs.reverse.dropWhile (· ≠ '@')) with
  | nil => rfl
  | cons c front => simp

/-- A port consists of digits. -/
theorem readPort_eq_none (special : k.isSpecial = true) (inside : Inside k cs) (member : b ∈ cs)
    (other : isDecimalDigit b = false) : readPort k cs = none := by
  have left : cs.dropWhile isDecimalDigit ≠ [] := by
    intro none
    have digit := List.dropWhile_eq_nil_iff.mp none b member
    rw [other] at digit
    cases digit
  obtain ⟨first, more, behind⟩ := List.exists_cons_of_ne_nil left
  have within : first ∈ cs :=
    (List.dropWhile_sublist isDecimalDigit).subset (behind ▸ List.mem_cons_self)
  have goesOn := inside first within
  rw [endsAuthority_iff special] at goesOn
  unfold readPort
  rw [List.span_eq_takeWhile_dropWhile, behind]
  dsimp only
  split
  · rfl
  · rw [if_neg (by rw [List.head?_cons, Option.all_some, goesOn]; exact Bool.false_ne_true)]

/-- No authority ends in a blank. -/
theorem hostIn?_concat_blank [Idna] (special : k.isSpecial = true) (inside : Inside k cs)
    (blank : b ≤ ' ') : hostIn? k (cs ++ [b]) = none := by
  have goesOn : Inside k (placeOf cs ++ [b]) := by
    intro c member
    rcases List.mem_append.mp member with front | last
    · exact inside.placeOf c front
    · exact List.mem_singleton.mp last ▸ endsAuthority_of_blank blank
  have whole := spanHost_append k false (placeOf cs ++ [b])
  unfold hostIn? readHostAndPort
  rw [placeOf_concat (ne_of_blank blank (by decide))]
  simp only [if_pos special, Option.bind_eq_bind]
  rcases spanHost_stops goesOn false with none | ⟨digits, colon⟩
  · rw [none, List.append_nil] at whole
    rw [whole, ofSpecial?_concat_blank blank]
    rfl
  · rw [colon] at whole ⊢
    have member : b ∈ digits := by
      cases digits using List.reverseRecOn with
      | nil =>
          have same := (List.append_inj' whole rfl).2
          exact absurd (List.singleton_inj.mp same).symm (ne_of_blank blank (by decide))
      | append_singleton front last =>
          rw [← List.cons_append, ← List.append_assoc] at whole
          have same := (List.append_inj' whole rfl).2
          simp [List.singleton_inj.mp same]
    have within : Inside k digits := by
      intro c member
      exact goesOn c (whole ▸ List.mem_append_right _ (List.mem_cons_of_mem _ member))
    have unread := readPort_eq_none special within member (isDecimalDigit_of_blank blank)
    simp [unread]

/-! ## What stands behind a scheme -/

/-- The host that is named behind the colon of a scheme over HTTP. -/
def hostBehind? [Idna] (port : Nat) (rest : List Char) : Option Host :=
  hostIn? (.special port)
    (authorityOf (.special port) (rest.dropWhile (Kind.isSlash .file)))

theorem hostBehind?_ne_empty [Idna] : hostBehind? port rest ≠ some .empty := by
  intro found
  obtain ⟨⟨host, _⟩, read, rfl⟩ := Option.map_eq_some_iff.mp found
  unfold readHostAndPort at read
  obtain ⟨host', named, read⟩ := Option.bind_eq_some_iff.mp read
  split at read
  all_goals
    obtain ⟨_, -, read⟩ := Option.bind_eq_some_iff.mp read
  · obtain ⟨_, -, read⟩ := Option.bind_eq_some_iff.mp read
    cases read
    exact ofSpecial?_ne_empty named
  · cases read
    exact ofSpecial?_ne_empty named

/-- The host of a text that is a URL over HTTP. -/
theorem hostText?_of_readScheme [Idna] {s : String} {scheme : List Char}
    (read : readScheme (significant s) = some (scheme, rest))
    (special : kindOf scheme = .special port) :
    (parse? s).bind hostText? =
      (hostBehind? port rest).map fun host => String.ofList host.chars := by
  have whole : (parse? s).bind Url.host = hostBehind? port rest := by
    unfold parse?
    simp only [Option.bind_eq_bind, read, Option.bind_some, special]
    exact host_readAuthority scheme rfl
  have present : hostBehind? port rest ≠ some .empty := hostBehind?_ne_empty
  rw [← whole] at present ⊢
  generalize parse? s = parsed at present ⊢
  cases parsed with
  | none => rfl
  | some u =>
      change u.host ≠ some .empty at present
      change u.hostText? = u.host.map _
      unfold hostText? namedHost?
      cases named : u.host with
      | none => rfl
      | some host =>
          have other : host ≠ .empty := fun empty => present (by rw [named, empty])
          simp [Option.filter, other]

/-- A URL over HTTP has a host, and it is named behind the scheme. -/
theorem exists_hostBehind? [Idna] {s : String} {u : Url} (parsed : parse? s = some u)
    (special : kindOf u.scheme = .special port) :
    ∃ rest host, readScheme (significant s) = some (u.scheme, rest) ∧
      hostBehind? port rest = some host ∧ u.hostText? = some (String.ofList host.chars) := by
  obtain ⟨rest, read, authority⟩ := readAuthority_of_parse? parsed special
  have text := hostText?_of_readScheme read special
  have named : hostBehind? port rest = u.host := by
    rw [hostBehind?, ← host_readAuthority u.scheme rfl, authority, Option.bind_some]
  obtain ⟨host, present⟩ : ∃ host, u.host = some host := by
    unfold readAuthority at authority
    obtain ⟨_, -, authority⟩ := Option.bind_eq_some_iff.mp authority
    obtain ⟨⟨host, _⟩, -, authority⟩ := Option.bind_eq_some_iff.mp authority
    exact ⟨host, by rw [← Option.some.inj authority]; rfl⟩
  rw [present] at named
  rw [parsed, named] at text
  exact ⟨rest, host, read, named, text⟩

/-- Nothing is named by slashes alone. -/
theorem hostBehind?_slashes [Idna] (slashes : ∀ c ∈ rest, Kind.isSlash .file c = true) :
    hostBehind? port rest = none := by
  rw [hostBehind?, List.dropWhile_eq_nil_iff.mpr slashes]
  exact hostIn?_of_placeOf rfl rfl

/-- What follows a slash behind the host does not matter to it. -/
theorem hostBehind?_append [Idna] (member : c ∈ cs) (other : Kind.isSlash .file c = false)
    (h : Ends (.special port) rest) : hostBehind? port (cs ++ rest) = hostBehind? port cs := by
  rw [hostBehind?, hostBehind?, dropWhile_append_of_mem member other, authorityOf_append h]

/-- A host that is named by a text with blanks at its end is named without them. -/
theorem hostBehind?_of_blanks [Idna] {blanks : List Char} {host : Host}
    (blank : ∀ c ∈ blanks, c ≤ ' ') (named : hostBehind? port (cs ++ blanks) = some host) :
    hostBehind? port cs = some host := by
  have inside : Inside (.special port) blanks := fun c member =>
    endsAuthority_of_blank (blank c member)
  have behind : (cs ++ blanks).dropWhile (Kind.isSlash .file) =
      cs.dropWhile (Kind.isSlash .file) ++ blanks := by
    refine dropWhile_append_of_kept ?_
    cases blanks with
    | nil => rfl
    | cons b blanks =>
        exact List.dropWhile_cons_of_neg (by simp [isSlash_of_blank (blank b List.mem_cons_self)])
  unfold hostBehind? at named ⊢
  rw [behind] at named
  generalize cs.dropWhile (Kind.isSlash .file) = front at named ⊢
  unfold authorityOf at named ⊢
  rw [List.takeWhile_append] at named
  split at named
  · next whole =>
    -- The blanks belong to the authority, which then names nothing unless there are none.
    have all : front.takeWhile (fun c => ! Kind.endsAuthority (.special port) c) = front :=
      (List.takeWhile_prefix _).eq_of_length whole
    have within : Inside (.special port) front := all ▸ inside_authorityOf
    have taken : blanks.takeWhile (fun c => ! Kind.endsAuthority (.special port) c) = blanks :=
      List.takeWhile_eq_self_iff.mpr fun c member => by simp [inside c member]
    rw [taken] at named
    cases blanks using List.reverseRecOn with
    | nil => rwa [List.append_nil, ← all] at named
    | append_singleton blanks b =>
        have goesOn : Inside (.special port) (front ++ blanks) := by
          intro c member
          rcases List.mem_append.mp member with left | right
          · exact within c left
          · exact inside c (List.mem_append_left [b] right)
        rw [← List.append_assoc, hostIn?_concat_blank rfl goesOn (blank b (by simp))] at named
        cases named
  · exact named

/-! ## In front of a path -/

/-- A scheme is read to its colon, and what stands behind a text without one is no part of it. -/
theorem readScheme_cut {scheme : List Char} (read : readScheme (cs ++ c :: t) = some (scheme, rest))
    (stop : isSchemeChar c = false) (other : c ≠ ':') :
    ∃ more, rest = more ++ c :: t ∧ ∀ y, readScheme (cs ++ y) = some (scheme, more ++ y) := by
  by_cases inside : ∃ d ∈ cs, isSchemeChar d = false
  · obtain ⟨d, member, ends⟩ := inside
    have longer (y : List Char) : (cs ++ y).span isSchemeChar =
        ((cs.span isSchemeChar).1, (cs.span isSchemeChar).2 ++ y) := span_append_of_mem member ends
    unfold readScheme at read ⊢
    simp only [longer] at read ⊢
    split at read
    · next first name rest' same =>
      obtain ⟨front, behind⟩ := Prod.mk.inj same
      cases left : (cs.span isSchemeChar).2 with
      | nil =>
          rw [left] at behind
          exact absurd (List.cons.inj behind).1 other
      | cons x more =>
          rw [left] at behind
          obtain ⟨rfl, rfl⟩ := List.cons.inj behind
          split at read
          · next letter =>
            cases read
            refine ⟨more, rfl, fun y => ?_⟩
            rw [front]
            exact if_pos letter
          · cases read
    · cases read
  · have all : ∀ d ∈ cs, isSchemeChar d = true := by simpa using inside
    have whole : (cs ++ c :: t).span isSchemeChar = (cs, c :: t) := by
      rw [List.span_eq_takeWhile_dropWhile, List.takeWhile_append_of_pos all,
        List.dropWhile_append_of_pos all, List.takeWhile_cons_of_neg (by simp [stop]),
        List.dropWhile_cons_of_neg (by simp [stop]), List.append_nil]
    unfold readScheme at read
    rw [whole] at read
    split at read
    · next same => exact absurd (List.cons.inj (Prod.mk.inj same).2).1 other
    · cases read

/-! ## What is read of the start of a text -/

/-- The start of a text as it is read when more follows it. -/
def leading (cs : List Char) : List Char :=
  (cs.dropWhile (· ≤ ' ')).filter fun c => ! ['\t', '\n', '\r'].contains c

theorem dropWhile_append_cons {p : Char → Bool} (stop : p c = false) :
    (cs ++ c :: t).dropWhile p = cs.dropWhile p ++ c :: t :=
  dropWhile_append_of_kept (List.dropWhile_cons_of_neg (by simp [stop]))

theorem stripWhere_append_cons {p : Char → Bool} (stop : p c = false) :
    stripWhere p (cs ++ c :: t) = cs.dropWhile p ++ c :: (t.reverse.dropWhile p).reverse := by
  have reversed (front : List Char) :
      (front ++ c :: t).reverse = t.reverse ++ c :: front.reverse := by simp
  rw [stripWhere, dropWhile_append_cons stop, reversed, dropWhile_append_cons stop]
  simp

/-- A character that is no blank keeps what stands in front of it. -/
theorem significant_append_cons {s : String} (whole : s.toList = cs ++ c :: t)
    (printed : ¬ c ≤ ' ') : ∃ z, significant s = leading cs ++ c :: z ∧ z ⊆ t := by
  have stop : decide (c ≤ ' ') = false := decide_eq_false printed
  have shown : (! ['\t', '\n', '\r'].contains c) = true := by
    have other (d : Char) (blank : d ≤ ' ') : c ≠ d := fun same => printed (same ▸ blank)
    simp [other]
  refine ⟨((t.reverse.dropWhile (· ≤ ' ')).reverse).filter fun c =>
    ! ['\t', '\n', '\r'].contains c, ?_, ?_⟩
  · rw [significant, whole, stripWhere_append_cons stop, List.filter_append, List.filter_cons,
      if_pos shown]
    rfl
  · intro d member
    have left := List.mem_reverse.mp (List.mem_filter.mp member).1
    exact List.mem_reverse.mp ((List.dropWhile_sublist _).subset left)

/-- What is stripped off the end of a text. -/
theorem exists_trailing (p : Char → Bool) (cs : List Char) :
    ∃ tail, cs = (cs.reverse.dropWhile p).reverse ++ tail ∧ ∀ c ∈ tail, p c = true := by
  refine ⟨(cs.reverse.takeWhile p).reverse, ?_, fun c member => ?_⟩
  · rw [← List.reverse_append, List.takeWhile_append_dropWhile, List.reverse_reverse]
  · exact List.all_eq_true.mp List.all_takeWhile c (List.mem_reverse.mp member)

/-- Blanks at the end of a text are not read. -/
theorem leading_eq (s : String) :
    ∃ blanks, leading s.toList = significant s ++ blanks ∧ ∀ c ∈ blanks, c ≤ ' ' := by
  let shown (c : Char) : Bool := ! ['\t', '\n', '\r'].contains c
  let front := s.toList.dropWhile (· ≤ ' ')
  obtain ⟨blanks, whole, blank⟩ := exists_trailing (· ≤ ' ') front
  refine ⟨blanks.filter shown, ?_, fun c member => ?_⟩
  · calc leading s.toList
        _ = front.filter shown := rfl
        _ = (front.reverse.dropWhile (· ≤ ' ')).reverse.filter shown ++ blanks.filter shown := by
          rw [← List.filter_append, ← whole]
  · exact of_decide_eq_true (blank c (List.mem_filter.mp member).1)

/-! ## Below a text -/

/-- The text names a scheme over HTTP, and nothing stands behind the scheme but slashes. -/
def IsBare (s : String) : Prop :=
  ∃ scheme rest port, readScheme (significant s) = some (scheme, rest) ∧
    kindOf scheme = .special port ∧ ∀ c ∈ rest, Kind.isSlash .file c = true

/-- Slashes at the end of a text are read, and blanks are not. -/
theorem significant_cases {host base : String} {slashes : List Char}
    (trimmed : host.toList = base.toList ++ slashes) (only : ∀ c ∈ slashes, c = '/') :
    (∃ z, significant host = leading base.toList ++ z ∧ ∀ c ∈ z, c = '/') ∨
      ∃ b blanks, leading base.toList = significant host ++ b :: blanks ∧
        ∀ c ∈ b :: blanks, c ≤ ' ' := by
  cases slashes with
  | nil =>
      obtain ⟨blanks, read, blank⟩ := leading_eq host
      rw [trimmed, List.append_nil] at read
      cases blanks with
      | nil => exact .inl ⟨[], by rw [read, List.append_nil, List.append_nil], by simp⟩
      | cons b blanks => exact .inr ⟨b, blanks, read, blank⟩
  | cons slash slashes =>
      obtain rfl := only slash List.mem_cons_self
      obtain ⟨z, read, left⟩ := significant_append_cons trimmed (by decide)
      refine .inl ⟨'/' :: z, read, ?_⟩
      intro c member
      rcases List.mem_cons.mp member with rfl | member
      · rfl
      · exact only c (List.mem_cons_of_mem _ (left member))

theorem significant_below {s base : String} {y : List Char}
    (below : s.toList = base.toList ++ '/' :: ("accounts".toList ++ '/' :: y)) :
    ∃ z, significant s = leading base.toList ++ '/' :: ("accounts".toList ++ '/' :: z) := by
  have whole : s.toList = (base.toList ++ '/' :: "accounts".toList) ++ '/' :: y := by
    rw [below, List.append_assoc, List.cons_append]
  obtain ⟨z, read, -⟩ := significant_append_cons whole (by decide)
  have front : leading (base.toList ++ '/' :: "accounts".toList) =
      leading base.toList ++ '/' :: "accounts".toList := by
    have kept : ('/' :: "accounts".toList).filter (fun c => ! ['\t', '\n', '\r'].contains c) =
        '/' :: "accounts".toList := by decide
    rw [leading, dropWhile_append_cons (by decide), List.filter_append, kept, leading]
  exact ⟨z, by rw [read, front, List.append_assoc, List.cons_append]⟩

/-- Behind slashes alone a path is taken for an authority. -/
theorem hostBehind?_accounts [Idna] (slashes : ∀ c ∈ cs, Kind.isSlash .file c = true) :
    hostBehind? port (cs ++ '/' :: ("accounts".toList ++ '/' :: t)) =
      some (.named "accounts".toList) := by
  have behind : (cs ++ '/' :: ("accounts".toList ++ '/' :: t)).dropWhile (Kind.isSlash .file) =
      "accounts".toList ++ '/' :: t := by
    rw [List.dropWhile_append_of_pos slashes]
    rfl
  have ends : Ends (.special port) ('/' :: t) := by
    intro c first
    cases first
    rfl
  have decoded : Utf8.decode? (unescape "accounts".toList) = some "accounts".toList := by
    decide +kernel
  have host : Host.ofSpecial? "accounts".toList = some (.named "accounts".toList) := by
    rw [ofSpecial?_of_ascii decoded (by decide)]
    decide +kernel
  have word : "accounts".toList = ['a', 'c', 'c', 'o', 'u', 'n', 't', 's'] := rfl
  have authority : authorityOf (.special port) "accounts".toList = "accounts".toList := by
    rw [word]
    rfl
  have place : placeOf "accounts".toList = "accounts".toList := by
    rw [word]
    rfl
  have name : spanHost (.special port) false "accounts".toList = ("accounts".toList, []) := by
    rw [word]
    rfl
  rw [hostBehind?, behind, authorityOf_append ends, authority, hostIn?, place]
  unfold readHostAndPort
  simp only [name, Kind.isSpecial, if_true, host, Option.bind_eq_bind, Option.bind_some]
  rfl

/-- Where the URL that is written below a text leads: to the host that the text names, or, when
the text is bare, to the first segment of the path. -/
theorem hostText?_below [Idna] {host base s : String} {slashes y : List Char} {u : Url}
    (trimmed : host.toList = base.toList ++ slashes) (only : ∀ c ∈ slashes, c = '/')
    (below : s.toList = base.toList ++ '/' :: ("accounts".toList ++ '/' :: y))
    (parsed : parse? s = some u) (special : kindOf u.scheme = .special port) :
    ∃ name, u.hostText? = some name ∧ ((parse? host).bind hostText? = some name ∨
      IsBare host ∧ (parse? host).bind hostText? = none ∧ name = "accounts") := by
  obtain ⟨rest, name, read, named, text⟩ := exists_hostBehind? parsed special
  obtain ⟨z, shown⟩ := significant_below below
  rw [shown] at read
  refine ⟨_, text, ?_⟩
  have ends (t : List Char) : Ends (.special port) ('/' :: t) := by
    intro c first
    cases first
    rfl
  rcases significant_cases trimmed only with ⟨z', same, slash⟩ | ⟨b, blanks, same, blank⟩
  · obtain ⟨more, rfl, cut⟩ := readScheme_cut read rfl (by decide)
    have whole := hostText?_of_readScheme (same ▸ cut z') special
    by_cases bare : ∀ c ∈ more, Kind.isSlash .file c = true
    · have slashes : ∀ c ∈ more ++ z', Kind.isSlash .file c = true := by
        intro c member
        rcases List.mem_append.mp member with left | right
        · exact bare c left
        · exact slash c right ▸ rfl
      obtain rfl := Option.some.inj (named.symm.trans (hostBehind?_accounts bare))
      rw [hostBehind?_slashes slashes] at whole
      exact .inr ⟨⟨_, _, _, same ▸ cut z', special, slashes⟩, whole, rfl⟩
    · obtain ⟨c, member, other⟩ : ∃ c ∈ more, Kind.isSlash .file c = false := by
        simpa using bare
      have ends' : Ends (.special port) z' := by
        intro c first
        exact slash c (List.mem_of_mem_head? first) ▸ rfl
      rw [hostBehind?_append member other (ends _)] at named
      rw [hostBehind?_append member other ends', named] at whole
      exact .inl whole
  · rw [same, List.append_assoc, List.cons_append] at read
    have first : b ≤ ' ' := blank b List.mem_cons_self
    obtain ⟨more, rfl, cut⟩ :=
      readScheme_cut read (isSchemeChar_of_blank first) (ne_of_blank first (by decide))
    have short := cut []
    rw [List.append_nil, List.append_nil] at short
    have whole := hostText?_of_readScheme short special
    rw [← List.cons_append, ← List.append_assoc] at named
    have inside : b ∈ more ++ b :: blanks := List.mem_append_right more List.mem_cons_self
    rw [hostBehind?_append inside (isSlash_of_blank first) (ends _)] at named
    rw [hostBehind?_of_blanks blank named] at whole
    exact .inl whole

end

end Enrollment.Url
