import Enrollment.Proofs.Inventory.Ids

/-!
# What a call does to a store

`Effect` lists, call by call, what a call that succeeds answers and what it leaves in the
store. Every invariant of a store is a case analysis of these effects. The three calls that
change one record put it back where it was, as `modifyFirst_eq_some` says.
-/

namespace Enrollment.Inventory.Store

variable {s t : Store} {call : Call} {a : call.Answer}

/-- A record that is found by its id is in the store under this id. -/
theorem mem_of_cluster? {id : String} {r : ClusterRecord} (found : s.cluster? id = some r) :
    r ∈ s.clusters ∧ r.id = some id := by
  rw [cluster?] at found
  have hit := List.find?_some found
  exact ⟨List.mem_of_find?_eq_some found, of_decide_eq_true hit⟩

/-- What holds the record that is changed stays around it. -/
theorem modifyFirst_eq_some {id : String} {f : ClusterRecord → ClusterRecord}
    {before after : List ClusterRecord} (h : modifyFirst id f before = some after) :
    ∃ front r back, before = front ++ r :: back ∧ r.id = some id ∧
      after = front ++ f r :: back := by
  induction before generalizing after with
  | nil => cases h
  | cons c cs ih =>
      rw [modifyFirst] at h
      by_cases hit : c.id = some id
      · rw [if_pos hit] at h
        cases h
        exact ⟨[], c, cs, rfl, hit, rfl⟩
      · rw [if_neg hit] at h
        obtain ⟨rest, changed, rfl⟩ := Option.map_eq_some_iff.mp h
        obtain ⟨front, r, back, rfl, named, rfl⟩ := ih changed
        exact ⟨c :: front, r, back, rfl, named, rfl⟩

/-- Of a record that is taken out by its id the others do not tell. -/
theorem filter_ne_append_cons {id : String} {front back : List ClusterRecord} {r : ClusterRecord}
    (named : r.id = some id) :
    (front ++ r :: back).filter (·.id ≠ some id) = (front ++ back).filter (·.id ≠ some id) := by
  rw [List.filter_append, List.filter_cons_of_neg (by simp [named]), ← List.filter_append]

/-- Whether a record with this id can be changed depends on its presence alone. -/
theorem exists_modifyFirst {id : String} {f : ClusterRecord → ClusterRecord}
    {clusters : List ClusterRecord} {r : ClusterRecord} (member : r ∈ clusters)
    (named : r.id = some id) : ∃ after, modifyFirst id f clusters = some after := by
  induction clusters with
  | nil => exact absurd member List.not_mem_nil
  | cons c cs ih =>
      rw [modifyFirst]
      by_cases hit : c.id = some id
      · exact ⟨_, if_pos hit⟩
      · rw [if_neg hit]
        rcases List.mem_cons.mp member with rfl | member
        · exact absurd named hit
        · obtain ⟨after, changed⟩ := ih member
          exact ⟨c :: after, by rw [changed]; rfl⟩

/-! A search that comes to a record finds one with the same id when a record has been changed. -/

section Search

variable {id : String} {f : ClusterRecord → ClusterRecord} {before after : List ClusterRecord}
variable {p : ClusterRecord → Bool} {r : ClusterRecord}

/-- A change that the search does not notice leaves it at the same record. -/
theorem find?_modifyFirst_of_keeps (changed : modifyFirst id f before = some after)
    (keeps : ∀ c, p (f c) = p c ∧ (f c).id = c.id) (found : before.find? p = some r) :
    ∃ q, after.find? p = some q ∧ q.id = r.id := by
  obtain ⟨front, c, back, rfl, -, rfl⟩ := modifyFirst_eq_some changed
  rw [List.find?_append] at found ⊢
  cases inFront : front.find? p with
  | some q =>
      rw [inFront] at found
      cases found
      exact ⟨r, rfl, rfl⟩
  | none =>
      rw [inFront, Option.none_or] at found
      rw [Option.none_or]
      by_cases hit : p c = true
      · rw [List.find?_cons_of_pos hit] at found
        cases found
        exact ⟨f r, List.find?_cons_of_pos ((keeps r).1.trans hit), (keeps r).2⟩
      · rw [List.find?_cons_of_neg hit] at found
        have missed : ¬ p (f c) = true := by rw [(keeps c).1]; exact hit
        exact ⟨r, (List.find?_cons_of_neg missed).trans found, rfl⟩

/-- A change that makes a record one that is searched for brings the search to this record: it
is the first with its id, so that nothing in front of it is searched for. -/
theorem find?_modifyFirst_of_hits (changed : modifyFirst id f before = some after)
    (hits : ∀ c, c.id = some id → p (f c) = true) (found : before.find? p = some r)
    (named : r.id = some id) : ∃ c, c.id = some id ∧ after.find? p = some (f c) := by
  induction before generalizing after with
  | nil => cases changed
  | cons c cs ih =>
      rw [modifyFirst] at changed
      by_cases hit : c.id = some id
      · rw [if_pos hit] at changed
        cases changed
        exact ⟨c, hit, List.find?_cons_of_pos (hits c hit)⟩
      · rw [if_neg hit] at changed
        obtain ⟨rest, behind, rfl⟩ := Option.map_eq_some_iff.mp changed
        have missed : ¬ p c = true := by
          intro here
          rw [List.find?_cons_of_pos here] at found
          cases found
          exact hit named
        rw [List.find?_cons_of_neg missed] at found
        obtain ⟨q, same, reached⟩ := ih behind found
        exact ⟨q, same, (List.find?_cons_of_neg missed).trans reached⟩

end Search

/-- The answer of a call that succeeds, and the store that it leaves. -/
inductive Effect (s : Store) : (call : Call) → call.Answer → Store → Prop
  | cloudRead {id : String} {cloud : CloudRecord} (found : s.cloud? id = some cloud) :
      Effect s (.getCloud id) cloud s
  | cloudsListed : Effect s .listClouds s.clouds s
  | cloudCreated {cloud : CloudRecord} (unnamed : cloud.id = none) :
      Effect s (.createCloud cloud) { cloud with id := some (s.nextId "cloud") }
        { s with
          clouds := s.clouds ++ [{ cloud with id := some (s.nextId "cloud") }]
          writes := s.writes ++ [.createCloud]
          issued := s.issued + 1 }
  | clustersListed : Effect s .listClusters s.clusters s
  | clusterRead {cloudId id : String} {r : ClusterRecord} (found : s.cluster? id = some r) :
      Effect s (.getCluster cloudId id) r s
  | clusterCreated {cloudId : String} {r : ClusterRecord} (unnamed : r.id = none) :
      Effect s (.createCluster cloudId r) (created (s.nextId "cluster") cloudId r)
        { s with
          clusters := s.clusters ++ [created (s.nextId "cluster") cloudId r]
          writes := s.writes ++ [.createCluster]
          issued := s.issued + 1 }
  | clusterUpdated {cloudId id : String} {r : ClusterRecord} {clusters : List ClusterRecord}
      (named : r.id = some id) (changed : modifyFirst id (updated r) s.clusters = some clusters) :
      Effect s (.updateCluster cloudId r) ()
        { s with clusters := clusters, writes := s.writes ++ [.updateCluster id] }
  | clusterPromoted {r : ClusterRecord} {clusters : List ClusterRecord} (named : r.idText ≠ "")
      (changed : modifyFirst r.idText (promoted r) s.clusters = some clusters) :
      Effect s (.promote r) ()
        { s with clusters := clusters, writes := s.writes ++ [.promote r.idText] }
  | managedRead {id : String} {r : ClusterRecord} (found : s.cluster? id = some r) :
      Effect s (.getManagedCluster id) r s
  | clusterUnmanaged {id : String} {clusters : List ClusterRecord}
      (changed : modifyFirst id unmanaged s.clusters = some clusters) :
      Effect s (.unmanage id) ()
        { s with clusters := clusters, writes := s.writes ++ [.unmanage id] }
  | clusterDeleted {cloudId id : String} (present : (s.cluster? id).isSome = true) :
      Effect s (.deleteCluster cloudId id) ()
        { s with
          clusters := s.clusters.filter (·.id ≠ some id)
          writes := s.writes ++ [.deleteCluster id] }

theorem Effect.unavailable_eq (h : s.Effect call a t) : t.unavailable = s.unavailable := by
  cases h <;> rfl

/-- The log of the writes only grows. -/
theorem Effect.writes_prefix (h : s.Effect call a t) : s.writes <+: t.writes := by
  cases h with
  | cloudRead | cloudsListed | clustersListed | clusterRead | managedRead =>
      exact List.prefix_refl _
  | _ => exact List.prefix_append _ _

/-- No call takes a cloud away. -/
theorem Effect.clouds_prefix (h : s.Effect call a t) : s.clouds <+: t.clouds := by
  cases h with
  | cloudCreated => exact List.prefix_append _ _
  | _ => exact List.prefix_refl _

theorem effect_of_answer (h : s.answer call = .ok (a, t)) : Effect s call a t := by
  cases call with
  | listClouds =>
      cases h
      exact .cloudsListed
  | listClusters =>
      cases h
      exact .clustersListed
  | getCloud id =>
      simp only [answer] at h
      split at h <;> cases h
      exact .cloudRead ‹_›
  | getCluster cloudId id =>
      simp only [answer] at h
      split at h <;> cases h
      exact .clusterRead ‹_›
  | getManagedCluster id =>
      simp only [answer] at h
      split at h <;> cases h
      exact .managedRead ‹_›
  | createCloud cloud =>
      simp only [answer] at h
      split at h
      · cases h
      · next unnamed =>
        cases h
        exact .cloudCreated (by simpa using unnamed)
  | createCluster cloudId cluster =>
      simp only [answer] at h
      split at h
      · cases h
      · next unnamed =>
        cases h
        exact .clusterCreated (by simpa using unnamed)
  | updateCluster cloudId cluster =>
      simp only [answer] at h
      split at h
      · cases h
      · split at h <;> cases h
        exact .clusterUpdated ‹_› ‹_›
  | promote cluster =>
      simp only [answer] at h
      split at h
      · cases h
      · next named =>
        split at h <;> cases h
        exact .clusterPromoted (fun empty => named (String.isEmpty_iff.mpr empty)) ‹_›
  | unmanage id =>
      simp only [answer] at h
      split at h <;> cases h
      exact .clusterUnmanaged ‹_›
  | deleteCluster cloudId id =>
      simp only [answer] at h
      split at h
      · cases h
      · next present =>
        cases h
        refine .clusterDeleted (Option.isSome_iff_ne_none.mpr fun gone => present ?_)
        rw [gone]
        rfl

end Enrollment.Inventory.Store
