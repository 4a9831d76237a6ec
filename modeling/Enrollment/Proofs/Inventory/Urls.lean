import Enrollment.Inventory.Client
import Enrollment.Proofs.Url.Authority

/-!
# The URLs of resources

Ids go into a URL as they are. As long as they have no slash, the slashes of the path are those
between its parts, and the parts tell which resource it is, whatever the ids are: the empty one and
the words of other paths are no exceptions. What stands in front of the path is the same for all
resources of an account. It begins with the text that a client has been given, without the slashes
at its end, and goes on with a slash.
-/

namespace Enrollment.Inventory

namespace Resource

/-! ## Paths -/

/-- The ids in the path of a resource. -/
def ids : Resource → List String
  | clouds | clusters | managedClusters => []
  | cloud id | cloudClusters id | managedCluster id => [id]
  | cloudCluster cloudId clusterId => [cloudId, clusterId]

/-- The parts of the path below the topology. -/
def parts : Resource → List String
  | clouds => ["clouds"]
  | cloud cloudId => ["clouds", cloudId]
  | cloudClusters cloudId => ["clouds", cloudId, "clusters"]
  | cloudCluster cloudId clusterId => ["clouds", cloudId, "clusters", clusterId]
  | clusters => ["clusters"]
  | managedClusters => ["managedClusters"]
  | managedCluster clusterId => ["managedClusters", clusterId]

/-- The resource whose path has these parts. -/
def ofParts? : List String → Option Resource
  | ["clouds"] => some clouds
  | ["clouds", cloudId] => some (cloud cloudId)
  | ["clouds", cloudId, "clusters"] => some (cloudClusters cloudId)
  | ["clouds", cloudId, "clusters", clusterId] => some (cloudCluster cloudId clusterId)
  | ["clusters"] => some clusters
  | ["managedClusters"] => some managedClusters
  | ["managedClusters", clusterId] => some (managedCluster clusterId)
  | _ => none

theorem ofParts?_parts (r : Resource) : ofParts? r.parts = some r := by
  cases r <;> rfl

theorem path_eq (r : Resource) :
    r.path.toList = ['/'].intercalate (r.parts.map String.toList) := by
  have below : "clouds/".toList = "clouds".toList ++ ['/'] := rfl
  have managed : "managedClusters/".toList = "managedClusters".toList ++ ['/'] := rfl
  have last : "/clusters".toList = '/' :: "clusters".toList := rfl
  have between : "/clusters/".toList = '/' :: "clusters".toList ++ ['/'] := rfl
  -- The texts are written out here, since it takes long to unfold `path` once for each resource.
  have text : r.path = match r with
    | clouds => "clouds"
    | cloud cloudId => "clouds/" ++ cloudId
    | cloudClusters cloudId => "clouds/" ++ cloudId ++ "/clusters"
    | cloudCluster cloudId clusterId => "clouds/" ++ cloudId ++ "/clusters/" ++ clusterId
    | clusters => "clusters"
    | managedClusters => "managedClusters"
    | managedCluster clusterId => "managedClusters/" ++ clusterId := by cases r <;> rfl
  rw [text]
  cases r <;>
    simp only [parts, String.toList_append, below, managed, last, between, List.map_cons,
      List.map_nil, List.intercalate_cons_cons, List.intercalate_singleton, List.append_assoc,
      List.cons_append, List.nil_append]

/-- No id in the path of the resource has a slash. -/
def IsFlat (r : Resource) : Prop := ∀ id ∈ r.ids, '/' ∉ id.toList

instance (r : Resource) : Decidable r.IsFlat := inferInstanceAs (Decidable (∀ _ ∈ _, _))

variable {r r' : Resource} {part : String}

/-- The words that stand between the ids. -/
def words : List String := ["clouds", "clusters", "managedClusters"]

theorem mem_words_of_not_mem_ids (member : part ∈ r.parts) (other : part ∉ r.ids) :
    part ∈ words := by
  cases r <;> simp only [parts, ids, List.mem_cons, List.not_mem_nil, or_false] at member other <;>
    grind [words]

theorem IsFlat.parts (flat : r.IsFlat) : ∀ part ∈ r.parts, '/' ∉ part.toList := by
  have plain : ∀ word ∈ words, '/' ∉ word.toList := by decide
  intro part member
  by_cases id : part ∈ r.ids
  · exact flat part id
  · exact plain part (mem_words_of_not_mem_ids member id)

/-- The path of a resource whose ids have no slash is split into its parts. -/
theorem splitOn_path (flat : r.IsFlat) :
    r.path.toList.splitOn '/' = r.parts.map String.toList := by
  rw [path_eq]
  apply List.splitOn_intercalate
  · exact List.forall_mem_map.mpr flat.parts
  · cases r <;> exact List.cons_ne_nil _ _

theorem path_injective (flat : r.IsFlat) (flat' : r'.IsFlat) (same : r.path = r'.path) :
    r = r' := by
  have texts : r.parts.map String.toList = r'.parts.map String.toList := by
    rw [← splitOn_path flat, ← splitOn_path flat', same]
  have parts : r.parts = r'.parts :=
    List.map_injective_iff.mpr (fun _ _ => String.toList_injective) texts
  have both : some r = some r' := by rw [← ofParts?_parts r, parts, ofParts?_parts]
  exact Option.some.inj both

end Resource

namespace Client

/-! ## What stands in front of them -/

variable {client : Client} {account other : String} {r r' : Resource}

theorem url_eq (client : Client) (account : String) (r : Resource) :
    client.url account r =
      client.hostUrl ++ "/accounts/" ++ account ++ "/topology/v1/" ++ r.path := rfl

theorem url_inj : client.url account r = client.url account r' ↔ r.path = r'.path := by
  rw [url_eq, url_eq, String.append_right_inj]

theorem url_account_inj : client.url account r = client.url other r ↔ account = other := by
  simp only [url_eq, String.append_left_inj, String.append_right_inj]

/-- Only slashes are cut off. -/
theorem exists_slashes (hostUrl : String) :
    ∃ slashes, hostUrl.toList = (trimSlashes hostUrl).toList ++ slashes ∧
      ∀ c ∈ slashes, c = '/' := by
  obtain ⟨slashes, whole, only⟩ := Url.exists_trailing (· = '/') hostUrl.toList
  refine ⟨slashes, ?_, fun c member => of_decide_eq_true (only c member)⟩
  rw [trimSlashes, String.toList_ofList]
  exact whole

/-- Behind the host, a URL goes on with a segment of its own. -/
theorem exists_below (client : Client) (account : String) (r : Resource) :
    ∃ y, (client.url account r).toList =
      client.hostUrl.toList ++ '/' :: ("accounts".toList ++ '/' :: y) := by
  have word : "/accounts/".toList = '/' :: ("accounts".toList ++ ['/']) := rfl
  refine ⟨account.toList ++ "/topology/v1/".toList ++ r.path.toList, ?_⟩
  rw [url_eq]
  simp only [String.toList_append, List.append_assoc]
  rw [word]
  simp only [List.append_assoc, List.cons_append, List.nil_append]

theorem getLast?_trimSlashes (hostUrl : String) :
    (trimSlashes hostUrl).toList.getLast? ≠ some '/' := by
  have stops := List.head?_dropWhile_not (· = '/') hostUrl.toList.reverse
  rw [trimSlashes, String.toList_ofList, List.getLast?_reverse]
  intro slash
  rw [slash] at stops
  simp at stops

theorem trimSlashes_append (hostUrl : String) (n : Nat) :
    trimSlashes (hostUrl ++ String.ofList (List.replicate n '/')) = trimSlashes hostUrl := by
  have slashes : ∀ c ∈ List.replicate n '/', decide (c = '/') = true :=
    fun c member => decide_eq_true (List.eq_of_mem_replicate member)
  rw [trimSlashes, trimSlashes, String.toList_append, String.toList_ofList, List.reverse_append,
    List.reverse_replicate, List.dropWhile_append_of_pos slashes]

/-- Different resources have different URLs. Paths and URLs of resources whose ids have no slash
differ, whatever the client and the account; so do the URLs of one resource for two accounts. The
slashes at the end of the text that names the host do not matter: behind what is left of it, which
does not end in a slash, stand one slash and the word `accounts`. -/
theorem resources_have_own_urls :
    (∀ (client : Client) (account : String) (r r' : Resource), r.IsFlat → r'.IsFlat → r ≠ r' →
      r.path ≠ r'.path ∧ client.url account r ≠ client.url account r') ∧
    (∀ (client : Client) (r : Resource) (account other : String),
      client.url account r = client.url other r ↔ account = other) ∧
    ∀ (hostUrl account : String) (r : Resource),
      (∀ n, (ofHost (hostUrl ++ String.ofList (List.replicate n '/'))).url account r =
        (ofHost hostUrl).url account r) ∧
      ∃ trimmed slashes behind, hostUrl.toList = trimmed ++ slashes ∧ (∀ c ∈ slashes, c = '/') ∧
        trimmed.getLast? ≠ some '/' ∧
        ((ofHost hostUrl).url account r).toList =
          trimmed ++ '/' :: ("accounts".toList ++ '/' :: behind) := by
  refine ⟨fun client account r r' flat flat' different => ?_, fun client r account other => ?_,
    fun hostUrl account r => ⟨fun n => ?_, ?_⟩⟩
  · have paths : r.path ≠ r'.path := mt (Resource.path_injective flat flat') different
    exact ⟨paths, mt url_inj.mp paths⟩
  · exact url_account_inj
  · rw [ofHost, trimSlashes_append, ofHost]
  · obtain ⟨slashes, whole, only⟩ := exists_slashes hostUrl
    obtain ⟨behind, below⟩ := exists_below (ofHost hostUrl) account r
    exact ⟨_, slashes, behind, whole, only, getLast?_trimSlashes hostUrl, below⟩

/-- An id may be empty, or be a word that other paths have in its place. -/
theorem collection_and_member_have_own_urls :
    let client := ofHost "http://h//"
    let r : Resource := .cloudCluster "clusters" ""
    let r' : Resource := .cloudClusters "clusters"
    (r.IsFlat ∧ r'.IsFlat ∧ r ≠ r') ∧
    r.path ≠ r'.path ∧ client.url "a" r ≠ client.url "a" r' := by
  intro client r r'
  have flat : r.IsFlat ∧ r'.IsFlat ∧ r ≠ r' := by decide
  exact ⟨flat, resources_have_own_urls.1 client "a" r r' flat.1 flat.2.1 flat.2.2⟩

end Client

end Enrollment.Inventory
