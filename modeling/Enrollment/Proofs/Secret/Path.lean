import Enrollment.Secret.Token
import Mathlib.Tactic.Common

/-!
# Where paths lead

From a place in a file tree a name leads on to another place, or it does not and there is one
reason for it: `Enters` lists the former cases, `Stuck` the latter. A path is followed name by name.
Either it leads to the place that `Stands` describes, or there is an `Obstacle`, which is the first
one on the way; and that is what the search for a path finds.
-/

namespace Enrollment.Secret

namespace Tree

/-! ## Names -/

/-- A place: what is there, and the directories that have been left for it, the last one first. -/
structure Spot where
  above : List Tree
  here : Tree

/-- From one place a name leads to another. -/
inductive Enters : Spot → String → Spot → Prop
  | same {above : List Tree} {entries : List (String × Tree)} :
      Enters ⟨above, directory entries⟩ "." ⟨above, directory entries⟩
  | top {entries : List (String × Tree)} :
      Enters ⟨[], directory entries⟩ ".." ⟨[], directory entries⟩
  | up {parent : Tree} {above : List Tree} {entries : List (String × Tree)} :
      Enters ⟨parent :: above, directory entries⟩ ".." ⟨above, parent⟩
  | down {above : List Tree} {entries : List (String × Tree)} {name : String} {child : Tree}
      (short : name.utf8ByteSize ≤ nameLimit) (proper : name ≠ "." ∧ name ≠ "..")
      (present : entries.lookup name = some child) :
      Enters ⟨above, directory entries⟩ name ⟨directory entries :: above, child⟩

/-- From this place the name leads nowhere. -/
inductive Stuck : Spot → String → PathFault → Prop
  | file {above : List Tree} {content : Bytes} {name : String} :
      Stuck ⟨above, file content⟩ name (.fault .notDirectory)
  | long {above : List Tree} {entries : List (String × Tree)} {name : String}
      (long : nameLimit < name.utf8ByteSize) :
      Stuck ⟨above, directory entries⟩ name (.fault .nameTooLong)
  | absent {above : List Tree} {entries : List (String × Tree)} {name : String}
      (short : name.utf8ByteSize ≤ nameLimit) (proper : name ≠ "." ∧ name ≠ "..")
      (absent : entries.lookup name = none) : Stuck ⟨above, directory entries⟩ name .missing

section

variable {spot next last : Spot} {name : String} {names : List String} {fault : PathFault}

theorem enters_or_stuck (spot : Spot) (name : String) :
    (∃ next, Enters spot name next) ∨ ∃ fault, Stuck spot name fault := by
  obtain ⟨above, content | entries⟩ := spot
  · exact .inr ⟨_, .file⟩
  by_cases same : name = "."
  · rw [same]
    exact .inl ⟨_, .same⟩
  by_cases up : name = ".."
  · rw [up]
    cases above with
    | nil => exact .inl ⟨_, .top⟩
    | cons parent above => exact .inl ⟨_, .up⟩
  by_cases long : nameLimit < name.utf8ByteSize
  · exact .inr ⟨_, .long long⟩
  cases found : entries.lookup name with
  | none => exact .inr ⟨_, .absent (Nat.le_of_not_lt long) ⟨same, up⟩ found⟩
  | some child => exact .inl ⟨_, .down (Nat.le_of_not_lt long) ⟨same, up⟩ found⟩

theorem walk_directory {above : List Tree} {entries : List (String × Tree)}
    (short : name.utf8ByteSize ≤ nameLimit) (proper : name ≠ "." ∧ name ≠ "..") :
    walk above (directory entries) (name :: names) =
      match entries.lookup name with
      | none => .error .missing
      | some child => walk (directory entries :: above) child names := by
  rw [walk.eq_def]
  dsimp only
  rw [if_neg (Nat.not_lt.mpr short), if_neg proper.1, if_neg proper.2]
  rfl

theorem walk_of_enters (h : Enters spot name next) (names : List String) :
    walk spot.above spot.here (name :: names) = walk next.above next.here names := by
  cases h with
  | same | top | up => rfl
  | down short proper present =>
      rw [walk_directory short proper, present]

theorem walk_of_stuck (h : Stuck spot name fault) (names : List String) :
    walk spot.above spot.here (name :: names) = .error fault := by
  cases h with
  | file => rfl
  | long long =>
      rw [walk.eq_def]
      exact if_pos long
  | absent short proper absent =>
      rw [walk_directory short proper, absent]

/-- From one place names lead to another, one after the other. -/
inductive Leads : Spot → List String → Spot → Prop
  | here {spot : Spot} : Leads spot [] spot
  | on {spot next last : Spot} {name : String} {names : List String} (first : Enters spot name next)
      (rest : Leads next names last) : Leads spot (name :: names) last

theorem walk_of_leads (h : Leads spot names last) (others : List String) :
    walk spot.above spot.here (names ++ others) = walk last.above last.here others := by
  induction h with
  | here => rfl
  | on first _ ih => exact (walk_of_enters first _).trans ih

/-- Names lead somewhere, or up to one of them that leads nowhere. -/
theorem leads_or_stuck (spot : Spot) (names : List String) :
    (∃ last, Leads spot names last) ∨ ∃ before name after last fault,
      names = before ++ name :: after ∧ Leads spot before last ∧ Stuck last name fault := by
  induction names generalizing spot with
  | nil => exact .inl ⟨spot, .here⟩
  | cons name names ih =>
      rcases enters_or_stuck spot name with ⟨next, first⟩ | ⟨fault, stuck⟩
      · rcases ih next with ⟨last, rest⟩ | ⟨before, other, after, last, fault, rfl, rest, stuck⟩
        · exact .inl ⟨last, .on first rest⟩
        · exact .inr ⟨name :: before, other, after, last, fault, rfl, .on first rest, stuck⟩
      · exact .inr ⟨[], name, names, spot, fault, rfl, .here, stuck⟩

theorem Leads.append {others : List String} (h : Leads spot names next)
    (behind : Leads next others last) : Leads spot (names ++ others) last := by
  induction h with
  | here => exact behind
  | on first _ ih => exact .on first (ih behind)

/-- The last name leads on from a directory. -/
theorem Leads.of_append_singleton (h : Leads spot (names ++ [name]) last) :
    ∃ above entries, Leads spot names ⟨above, directory entries⟩ := by
  induction names generalizing spot with
  | nil =>
      cases h with
      | on first _ => cases first <;> exact ⟨_, _, .here⟩
  | cons _ _ ih =>
      cases h with
      | on first rest =>
          obtain ⟨above, entries, leads⟩ := ih rest
          exact ⟨above, entries, .on first leads⟩

end

/-! ## Paths -/

/-- The names that are followed on a path. -/
def steps (path : String) : List String :=
  if path.toList.getLast? = some '/' then names path ++ ["."] else names path

/-- This is what stands at the end of a path. -/
structure Stands (tree : Tree) (path : String) (t : Tree) : Prop where
  proper : path ≠ ""
  clean : '\x00' ∉ path.toList
  short : path.utf8ByteSize < pathLimit
  leads : ∃ above, Leads ⟨[], tree⟩ (steps path) ⟨above, t⟩

/-- This is why a path leads nowhere. -/
inductive Obstacle (tree : Tree) (path : String) : PathFault → Prop
  | nul (inside : '\x00' ∈ path.toList) : Obstacle tree path (.fault .nulInName)
  | long (clean : '\x00' ∉ path.toList) (long : pathLimit ≤ path.utf8ByteSize) :
      Obstacle tree path (.fault .nameTooLong)
  | empty (empty : path = "") : Obstacle tree path .missing
  | stuck {before after : List String} {name : String} {last : Spot} {fault : PathFault}
      (proper : path ≠ "") (clean : '\x00' ∉ path.toList) (short : path.utf8ByteSize < pathLimit)
      (split : steps path = before ++ name :: after) (leads : Leads ⟨[], tree⟩ before last)
      (stuck : Stuck last name fault) : Obstacle tree path fault

section

variable {tree t : Tree} {path : String} {fault : PathFault}

theorem find_eq (proper : path ≠ "") (clean : '\x00' ∉ path.toList)
    (short : path.utf8ByteSize < pathLimit) :
    tree.find path = (walk [] tree (steps path)).map node := by
  rw [find, if_neg (by simpa using clean), if_neg (Nat.not_le.mpr short),
    if_neg (by simpa using proper)]
  rfl

theorem Stands.find (h : tree.Stands path t) : tree.find path = .ok t.node := by
  obtain ⟨above, leads⟩ := h.leads
  have walked := walk_of_leads leads []
  rw [List.append_nil] at walked
  rw [find_eq h.proper h.clean h.short, walked]
  rfl

theorem Obstacle.find (h : tree.Obstacle path fault) : tree.find path = .error fault := by
  cases h with
  | nul inside => rw [Tree.find, if_pos (by simpa using inside)]
  | long clean long => rw [Tree.find, if_neg (by simpa using clean), if_pos long]
  | empty empty =>
      rw [empty]
      rfl
  | @stuck before after name last fault proper clean short split leads stuck =>
      have walked := (walk_of_leads leads (name :: after)).trans (walk_of_stuck stuck after)
      rw [find_eq proper clean short, split, walked]
      rfl

theorem stands_or_obstacle (tree : Tree) (path : String) :
    (∃ t, tree.Stands path t) ∨ ∃ fault, tree.Obstacle path fault := by
  by_cases empty : path = ""
  · exact .inr ⟨_, .empty empty⟩
  by_cases inside : '\x00' ∈ path.toList
  · exact .inr ⟨_, .nul inside⟩
  rcases Nat.lt_or_ge path.utf8ByteSize pathLimit with short | long
  · rcases leads_or_stuck ⟨[], tree⟩ (steps path) with
      ⟨last, leads⟩ | ⟨before, name, after, last, fault, split, leads, stuck⟩
    · exact .inl ⟨_, empty, inside, short, _, leads⟩
    · exact .inr ⟨_, .stuck empty inside short split leads stuck⟩
  · exact .inr ⟨_, .long inside long⟩

/-! ## The path of a token -/

theorem exists_joinPath_tokenKey (path : String) :
    ∃ tail, joinPath path tokenKey = path ++ tail := by
  have relative : tokenKey.toList.head? ≠ some '/' := by decide
  rw [joinPath, if_neg relative]
  split
  · exact ⟨tokenKey, rfl⟩
  · exact ⟨"/" ++ tokenKey, String.append_assoc⟩

/-- There is one slash in front of the name. -/
theorem toList_joinPath_tokenKey (proper : path ≠ "") :
    ∃ front, (path.toList = front ∨ path.toList = front ++ ['/']) ∧
      (joinPath path tokenKey).toList = front ++ '/' :: tokenKey.toList := by
  have relative : tokenKey.toList.head? ≠ some '/' := by decide
  rw [joinPath, if_neg relative]
  by_cases ends : path.toList.getLast? = some '/'
  · obtain ⟨front, same⟩ := List.getLast?_eq_some_iff.mp ends
    rw [if_pos (.inr ends), String.toList_append, same]
    exact ⟨front, .inr rfl, List.append_assoc _ _ _⟩
  · rw [if_neg (by simp [proper, ends]), String.toList_append, String.toList_append,
      List.append_assoc]
    exact ⟨_, .inl rfl, rfl⟩

/-- The names on both sides of a slash. -/
theorem names_of_slash {front back : List Char} (split : path.toList = front ++ '/' :: back) :
    names path = names (String.ofList front) ++ names (String.ofList back) := by
  simp only [names, split, Text.splitAt_append_cons, String.toList_ofList, List.filter_append,
    List.map_append]

/-- The name is followed behind those on the path. -/
theorem steps_joinPath_tokenKey (proper : path ≠ "") :
    steps (joinPath path tokenKey) = names path ++ [tokenKey] := by
  obtain ⟨front, ends, same⟩ := toList_joinPath_tokenKey proper
  have last : ('/' :: tokenKey.toList).getLast? = some 'n' := by decide
  have slashless : (joinPath path tokenKey).toList.getLast? ≠ some '/' := by
    rw [same, List.getLast?_append, last]
    simp
  have key : names (String.ofList tokenKey.toList) = [tokenKey] := by decide +kernel
  have nothing : names (String.ofList []) = [] := by decide +kernel
  rw [steps, if_neg slashless, names_of_slash same, key]
  rcases ends with rfl | ends
  · rw [String.ofList_toList]
  · rw [names_of_slash ends, nothing, List.append_nil]

/-- Where a token is, there is a directory that it is in. -/
theorem Stands.of_joinPath_tokenKey (proper : path ≠ "")
    (h : tree.Stands (joinPath path tokenKey) t) :
    ∃ entries, tree.Stands path (directory entries) := by
  obtain ⟨tail, joined⟩ := exists_joinPath_tokenKey path
  have clean := h.clean
  have short := h.short
  rw [joined, String.toList_append, List.mem_append, not_or] at clean
  rw [joined, String.utf8ByteSize_append] at short
  obtain ⟨above, leads⟩ := h.leads
  rw [steps_joinPath_tokenKey proper] at leads
  obtain ⟨above, entries, leads⟩ := leads.of_append_singleton
  refine ⟨entries, proper, clean.1, by omega, above, ?_⟩
  rw [steps]
  split
  · exact leads.append (.on .same .here)
  · exact leads

end

end Tree

end Enrollment.Secret
