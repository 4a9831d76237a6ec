import Enrollment.Proofs.Registration.Token
import Enrollment.Proofs.Secret.Path
import Enrollment.Proofs.Text.Blank
import Enrollment.Proofs.Text.Utf8

/-!
# What comes of looking a secret up

`Reads` lists what can stand where the token of a secret should be, and what comes of it. The list
is complete, and no two of its lines have different outcomes in the same tree. A lookup that fails
ends whatever it was made for: nothing is sent and nothing is waited for.
-/

namespace Enrollment

open Registration

namespace Secret

namespace Tree

/-- The secret is a directory, and this stands where its token should be. -/
structure Holds (tree : Tree) (root ref : String) (t : Tree) : Prop where
  secret : ∃ entries, tree.Stands (directoryOf root ref) (directory entries)
  key : tree.Stands (tokenPath root ref) t

/-- What stands where the token should be, and what comes of it. -/
inductive Reads (tree : Tree) (root ref : String) : Except LookupFault String → Prop
  | noSecret (missing : tree.Obstacle (directoryOf root ref) .missing) :
      Reads tree root ref (.error (.secretNotFound ref))
  | secretBarred {fault : FileFault}
      (barred : tree.Obstacle (directoryOf root ref) (.fault fault)) :
      Reads tree root ref (.error (.file fault))
  | noKey {t : Tree} (secret : tree.Stands (directoryOf root ref) t)
      (missing : tree.Obstacle (tokenPath root ref) .missing) :
      Reads tree root ref (.error (.secretMalformed ref "missing 'apiToken' key"))
  | keyBarred {t : Tree} {fault : FileFault} (secret : tree.Stands (directoryOf root ref) t)
      (barred : tree.Obstacle (tokenPath root ref) (.fault fault)) :
      Reads tree root ref (.error (.file fault))
  | noFile {entries : List (String × Tree)}
      (key : tree.Holds root ref (directory entries)) :
      Reads tree root ref (.error (.file .isDirectory))
  | noText {content : Bytes} (key : tree.Holds root ref (file content))
      (malformed : ∀ cs, content ≠ Utf8.encode cs) :
      Reads tree root ref (.error (.file .notUtf8))
  | blank {cs : List Char} (key : tree.Holds root ref (file (Utf8.encode cs)))
      (blank : ∀ c ∈ cs, Text.isBlank c = true) :
      Reads tree root ref (.error (.secretMalformed ref "'apiToken' is empty"))
  | proper {cs : List Char} {token : String} (key : tree.Holds root ref (file (Utf8.encode cs)))
      (trimmed : Text.Trimmed Text.isBlank cs token.toList) (proper : token ≠ "") :
      Reads tree root ref (.ok token)

end Tree

section

variable {tree t : Tree} {root ref : String} {cs : List Char}

/-! ## What is made of a file -/

theorem ofContent_of_malformed {content : Bytes} (malformed : ∀ cs, content ≠ Utf8.encode cs) :
    ofContent ref content = .error (.file .notUtf8) := by
  rw [ofContent]
  cases decoded : Utf8.decode? content with
  | none => rfl
  | some cs => exact absurd (Utf8.decode?_eq_some_iff.mp decoded) (malformed cs)

theorem ofContent_of_blank (blank : ∀ c ∈ cs, Text.isBlank c = true) :
    ofContent ref (Utf8.encode cs) = .error (.secretMalformed ref "'apiToken' is empty") := by
  have empty := Text.stripWhere_eq_nil_iff.mpr blank
  rw [ofContent, Utf8.decode?_encode]
  simp only [Text.trim, String.toList_ofList, empty]
  rfl

theorem ofContent_of_trimmed {token : String}
    (trimmed : Text.Trimmed Text.isBlank cs token.toList) (proper : token ≠ "") :
    ofContent ref (Utf8.encode cs) = .ok token := by
  rw [ofContent, Utf8.decode?_encode]
  simp only [Text.trim, String.toList_ofList, ← trimmed.eq, String.ofList_toList]
  exact if_neg (by simpa using proper)

/-! ## What is made of a tree -/

/-- What the path of a token leads to is in the directory of the secret, unless the path of that is
empty, which leads nowhere. -/
theorem Tree.holds_iff (proper : directoryOf root ref ≠ "") :
    tree.Holds root ref t ↔ tree.Stands (tokenPath root ref) t :=
  ⟨fun holds => holds.key, fun key => ⟨key.of_joinPath_tokenKey proper, key⟩⟩

/-- What stands there is read. -/
theorem token_of_holds (h : tree.Holds root ref t) :
    tree.token root ref =
      match t.node with
      | .directory => .error (.file .isDirectory)
      | .file content => ofContent ref content := by
  obtain ⟨entries, secret⟩ := h.secret
  rw [Tree.token, secret.find, h.key.find]
  cases t <;> rfl

theorem Tree.Reads.token_eq {out : Except LookupFault String} (h : tree.Reads root ref out) :
    tree.token root ref = out := by
  cases h with
  | noSecret obstacle | secretBarred obstacle =>
      rw [token, obstacle.find]
      rfl
  | noKey secret obstacle | keyBarred secret obstacle =>
      rw [token, secret.find, obstacle.find]
      rfl
  | noFile key => exact token_of_holds key
  | noText key malformed => exact (token_of_holds key).trans (ofContent_of_malformed malformed)
  | blank key blank => exact (token_of_holds key).trans (ofContent_of_blank blank)
  | proper key trimmed proper =>
      exact (token_of_holds key).trans (ofContent_of_trimmed trimmed proper)

/-- Whatever stands there, something comes of it. -/
theorem exists_reads_of_holds (h : tree.Holds root ref t) : ∃ out, tree.Reads root ref out := by
  cases t with
  | directory entries => exact ⟨_, .noFile h⟩
  | file content =>
      by_cases text : ∃ cs, content = Utf8.encode cs
      · obtain ⟨cs, rfl⟩ := text
        by_cases blank : ∀ c ∈ cs, Text.isBlank c = true
        · exact ⟨_, .blank h blank⟩
        · have proper : Text.stripWhere Text.isBlank cs ≠ [] := fun empty =>
            blank (Text.stripWhere_eq_nil_iff.mp empty)
          have trimmed := Text.trimmed_stripWhere Text.isBlank cs
          rw [← String.toList_ofList (l := Text.stripWhere Text.isBlank cs)] at trimmed
          exact ⟨_, .proper h trimmed (by simpa using proper)⟩
      · exact ⟨_, .noText h fun cs same => text ⟨cs, same⟩⟩

theorem exists_reads (tree : Tree) (root ref : String) : ∃ out, tree.Reads root ref out := by
  rcases tree.stands_or_obstacle (directoryOf root ref) with ⟨t, secret⟩ | ⟨fault, noSecret⟩
  · rcases tree.stands_or_obstacle (tokenPath root ref) with ⟨other, key⟩ | ⟨fault, noKey⟩
    · exact exists_reads_of_holds ((Tree.holds_iff secret.proper).mpr key)
    · cases fault with
      | missing => exact ⟨_, .noKey secret noKey⟩
      | fault => exact ⟨_, .keyBarred secret noKey⟩
  · cases fault with
    | missing => exact ⟨_, .noSecret noSecret⟩
    | fault => exact ⟨_, .secretBarred noSecret⟩

theorem token_eq_iff {out : Except LookupFault String} :
    tree.token root ref = out ↔ tree.Reads root ref out := by
  constructor
  · rintro rfl
    obtain ⟨out, reads⟩ := exists_reads tree root ref
    exact reads.token_eq ▸ reads
  · exact fun reads => reads.token_eq

/-! The lines of the list, by their outcomes. -/

theorem token_eq_ok_iff {token : String} :
    tree.token root ref = .ok token ↔
      ∃ cs, tree.Holds root ref (.file (Utf8.encode cs)) ∧
        Text.Trimmed Text.isBlank cs token.toList ∧ token ≠ "" := by
  rw [token_eq_iff]
  constructor
  · intro reads
    cases reads with
    | proper key trimmed proper => exact ⟨_, key, trimmed, proper⟩
  · rintro ⟨cs, key, trimmed, proper⟩
    exact .proper key trimmed proper

theorem token_eq_secretNotFound_iff {name : String} :
    tree.token root ref = .error (.secretNotFound name) ↔
      name = ref ∧ tree.Obstacle (directoryOf root ref) .missing := by
  rw [token_eq_iff]
  constructor
  · intro reads
    cases reads with
    | noSecret missing => exact ⟨rfl, missing⟩
  · rintro ⟨rfl, missing⟩
    exact .noSecret missing

theorem token_eq_secretMalformed_iff {name detail : String} :
    tree.token root ref = .error (.secretMalformed name detail) ↔
      name = ref ∧
        ((∃ t, tree.Stands (directoryOf root ref) t) ∧
            tree.Obstacle (tokenPath root ref) .missing ∧ detail = "missing 'apiToken' key" ∨
          (∃ cs, tree.Holds root ref (.file (Utf8.encode cs)) ∧
            ∀ c ∈ cs, Text.isBlank c = true) ∧ detail = "'apiToken' is empty") := by
  rw [token_eq_iff]
  constructor
  · intro reads
    cases reads with
    | noKey secret missing => exact ⟨rfl, .inl ⟨⟨_, secret⟩, missing, rfl⟩⟩
    | blank key blank => exact ⟨rfl, .inr ⟨⟨_, key, blank⟩, rfl⟩⟩
  · rintro ⟨rfl, ⟨⟨t, secret⟩, missing, rfl⟩ | ⟨⟨cs, key, blank⟩, rfl⟩⟩
    · exact .noKey secret missing
    · exact .blank key blank

theorem token_eq_file_iff {fault : FileFault} :
    tree.token root ref = .error (.file fault) ↔
      tree.Obstacle (directoryOf root ref) (.fault fault) ∨
      (∃ t, tree.Stands (directoryOf root ref) t) ∧
          tree.Obstacle (tokenPath root ref) (.fault fault) ∨
      (∃ entries, tree.Holds root ref (.directory entries)) ∧ fault = .isDirectory ∨
      (∃ content, tree.Holds root ref (.file content) ∧ ∀ cs, content ≠ Utf8.encode cs) ∧
        fault = .notUtf8 := by
  rw [token_eq_iff]
  constructor
  · intro reads
    cases reads with
    | secretBarred barred => exact .inl barred
    | keyBarred secret barred => exact .inr (.inl ⟨⟨_, secret⟩, barred⟩)
    | noFile key => exact .inr (.inr (.inl ⟨⟨_, key⟩, rfl⟩))
    | noText key malformed => exact .inr (.inr (.inr ⟨⟨_, key, malformed⟩, rfl⟩))
  · rintro (barred | ⟨⟨t, secret⟩, barred⟩ | ⟨⟨entries, key⟩, rfl⟩ |
      ⟨⟨content, key, malformed⟩, rfl⟩)
    · exact .secretBarred barred
    · exact .keyBarred secret barred
    · exact .noFile key
    · exact .noText key malformed

theorem token_ne_unavailable (text : String) :
    tree.token root ref ≠ .error (.unavailable text) := by
  rw [ne_eq, token_eq_iff]
  intro reads
  cases reads

end

/-! ## What a lookup that fails ends -/

section

variable {cluster : LocalCluster} {s : Settings} {fault : LookupFault} {σ : Type}

theorem knownScope_of_fault (account : s.account ≠ "")
    (secret : cluster.apiToken s.tokenRef = .error fault) :
    knownScope cluster s = .error (.lookup (.token s.tokenRef) fault) := by
  simp [knownScope, account, secret, Except.mapError, Except.map]

theorem reason_lookup_token (ref : String) (fault : LookupFault) :
    (Failure.lookup (.token ref) fault).reason =
      s!"Failed to get API token from secret '{ref}': {fault.message}" := by
  have quote : "': " = "'" ++ ": " := by decide
  change (_ ++ ref ++ "'") ++ ": " ++ fault.message = _ ++ ref ++ "': " ++ fault.message
  rw [quote, ← String.append_assoc]

/-- What is done for an account stops where the account is not known. -/
theorem stops_of_knownScope {α : Type} {e : Failure} (unknown : knownScope cluster s = .error e)
    (h : Flow.Handler σ) (f : Scope → Procedure α) : Stops h (scopeOf cluster s >>= f) e := by
  intro state
  rw [scopeOf_eq, unknown]
  rfl

end

/-- The token of a secret is what the file with the fixed name holds, without the white space around
it, if the secret is there, if there is such a file in it, and if its text is not blank; that there
is one shows in the path of the file alone, unless the path of the secret is empty. A secret that is
missing is told apart from one that holds no token, and both from whatever else keeps the file from
being read. A registration, an unregistration and the question whether a cluster is
managed fail where the lookup does, with a reason that names the secret, and leave everything as it
was: they send no request and make no pause. -/
theorem lookup_classifies_every_tree (tree : Tree) (root ref : String) :
    (directoryOf root ref ≠ "" →
      ∀ t, tree.Holds root ref t ↔ tree.Stands (tokenPath root ref) t) ∧
    (∀ token, tree.token root ref = .ok token ↔
      ∃ cs, tree.Holds root ref (.file (Utf8.encode cs)) ∧
        Text.Trimmed Text.isBlank cs token.toList ∧ token ≠ "") ∧
    (∀ name, tree.token root ref = .error (.secretNotFound name) ↔
      name = ref ∧ tree.Obstacle (directoryOf root ref) .missing) ∧
    (∀ name detail, tree.token root ref = .error (.secretMalformed name detail) ↔
      name = ref ∧
        ((∃ t, tree.Stands (directoryOf root ref) t) ∧
            tree.Obstacle (tokenPath root ref) .missing ∧ detail = "missing 'apiToken' key" ∨
          (∃ cs, tree.Holds root ref (.file (Utf8.encode cs)) ∧
            ∀ c ∈ cs, Text.isBlank c = true) ∧ detail = "'apiToken' is empty")) ∧
    (∀ fault, tree.token root ref = .error (.file fault) ↔
      tree.Obstacle (directoryOf root ref) (.fault fault) ∨
      (∃ t, tree.Stands (directoryOf root ref) t) ∧
          tree.Obstacle (tokenPath root ref) (.fault fault) ∨
      (∃ entries, tree.Holds root ref (.directory entries)) ∧ fault = .isDirectory ∨
      (∃ content, tree.Holds root ref (.file content) ∧ ∀ cs, content ≠ Utf8.encode cs) ∧
        fault = .notUtf8) ∧
    (∀ text, tree.token root ref ≠ .error (.unavailable text)) ∧
    ∀ (cluster : LocalCluster) (s : Settings) (fault : LookupFault),
      cluster.apiToken = tree.token root → s.tokenRef = ref → s.account ≠ "" →
      tree.token root ref = .error fault →
      (∀ {σ : Type} (h : Flow.Handler σ),
        Stops h (register cluster s) (.lookup (.token ref) fault) ∧
        (∀ poll clusterId,
          Stops h (unregister cluster s poll clusterId) (.lookup (.token ref) fault)) ∧
        ∀ clusterId, Stops h (isManaged cluster s clusterId) (.lookup (.token ref) fault)) ∧
      (Failure.lookup (.token ref) fault).reason =
        s!"Failed to get API token from secret '{ref}': {fault.message}" := by
  refine ⟨fun proper _ => Tree.holds_iff proper, fun _ => token_eq_ok_iff,
    fun _ => token_eq_secretNotFound_iff, fun _ _ => token_eq_secretMalformed_iff,
    fun _ => token_eq_file_iff, token_ne_unavailable, ?_⟩
  rintro cluster s fault reader rfl account failed
  have unknown := knownScope_of_fault account ((congrFun reader s.tokenRef).trans failed)
  refine ⟨fun h => ⟨?_, ?_, ?_⟩, reason_lookup_token _ fault⟩
  · exact stops_of_knownScope unknown h _
  · exact fun _ _ => stops_of_knownScope unknown h _
  · exact fun _ => stops_of_knownScope unknown h _

/-- A secret without a token ends a registration, even where the inventory is out of reach. -/
theorem registration_without_key_stops :
    letI := Url.Idna.asciiOnly
    let tree := Tree.ofFiles [("inventory", none)] .empty (Tree.names "/run/secrets")
    let cluster : LocalCluster := ⟨tree.token "/run/secrets", .ok {}, .ok "identity"⟩
    let net : Http.Network Unit := ⟨Http.Server.unreachable, .virtual⟩
    tree.token "/run/secrets" "inventory" =
        .error (.secretMalformed "inventory" "missing 'apiToken' key") ∧
      (register cluster { account := "a", tokenRef := "inventory" }).run.run
          (overHttp net (Inventory.Client.ofHost "http://h")) { server := () } =
        (.error (.lookup (.token "inventory")
          (.secretMalformed "inventory" "missing 'apiToken' key")), { server := () }) := by
  let := Url.Idna.asciiOnly
  intro tree cluster net
  have failed : tree.token "/run/secrets" "inventory" =
      .error (.secretMalformed "inventory" "missing 'apiToken' key") := by decide +kernel
  obtain ⟨-, -, -, -, -, -, ends⟩ := lookup_classifies_every_tree tree "/run/secrets" "inventory"
  obtain ⟨stops, -⟩ := ends cluster { account := "a", tokenRef := "inventory" } _ rfl rfl
    (by decide) failed
  exact ⟨failed, (stops (overHttp net (Inventory.Client.ofHost "http://h"))).1 { server := () }⟩

end Secret

end Enrollment
