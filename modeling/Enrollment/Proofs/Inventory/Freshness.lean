import Enrollment.Proofs.Inventory.Reaction
import Enrollment.Proofs.Inventory.Tracking

/-!
# Ids are drawn once

A store counts the ids that it draws, clouds and clusters together, and the number is part of the
id. An id is therefore never drawn again, not even when its record has been deleted. `Numbered`
says so of a store: each of its ids is of the right kind and has a number that has been drawn, no
two of them are equal, and the ids of deleted records have been drawn as well and are not in use.
As long as its record is not deleted, an id leads to the record that it has been drawn for.
-/

namespace Enrollment.Inventory

/-! ## What befalls a store -/

/-- A record is put in, a call is carried out, or the store is made unavailable or available
again. -/
inductive Action where
  | seed (record : Seed)
  | call (call : Call)
  | switch (off : Bool)

namespace Call

/-- The id that is handed out with an answer. -/
def drawn? : (call : Call) → call.Answer → Option String
  | createCloud _, cloud => cloud.id
  | createCluster _ _, cluster => cluster.id
  | getCloud _, _ | listClouds, _ | listClusters, _ | getCluster _ _, _ | updateCluster _ _, _
  | promote _, _ | getManagedCluster _, _ | unmanage _, _ | deleteCluster _ _, _ => none

/-- What a call that is carried out leaves of the record with this id. -/
def applied (id : String) (r : ClusterRecord) : Call → Option ClusterRecord
  | updateCluster _ given => some (if given.idText = id then Store.updated given r else r)
  | promote given => some (if given.idText = id then Store.promoted given r else r)
  | unmanage other => some (if other = id then Store.unmanaged r else r)
  | deleteCluster _ other => if other = id then none else some r
  | getCloud _ | listClouds | createCloud _ | listClusters | getCluster _ _ | createCluster _ _
  | getManagedCluster _ => some r

end Call

namespace Store

/-- The id that is handed out in an action, if there is one, and the store behind it. -/
def act (s : Store) : Action → Option String × Store
  | .seed (.cloud r) => (some (s.insertCloud r).1, (s.insertCloud r).2)
  | .seed (.cluster r) => (some (s.insertCluster r).1, (s.insertCluster r).2)
  | .call c =>
    match perform c s with
    | (.ok a, t) => (c.drawn? a, t)
    | (.error _, t) => (none, t)
  | .switch off => (none, { s with unavailable := off })

/-- The call that is carried out in an action. -/
def carriedOut? (s : Store) : Action → Option Call
  | .call c =>
    match (perform c s).1 with
    | .ok _ => some c
    | .error _ => none
  | .seed _ | .switch _ => none

/-- The ids that are handed out in the course of actions, and the store behind them. -/
def play : List Action → Store → List String × Store
  | [], s => ([], s)
  | action :: rest, s =>
    ((s.act action).1.toList ++ (play rest (s.act action).2).1, (play rest (s.act action).2).2)

/-- The calls that are carried out in the course of actions. -/
def carriedOut : List Action → Store → List Call
  | [], _ => []
  | action :: rest, s => (s.carriedOut? action).toList ++ carriedOut rest (s.act action).2

theorem play_append (before after : List Action) (s : Store) :
    (play (before ++ after) s).2 = (play after (play before s).2).2 := by
  induction before generalizing s with
  | nil => rfl
  | cons action rest ih => exact ih (s.act action).2

/-- What an action does to the contents of a store: nothing, or it puts in a record and draws an id
for it, or it carries out a call. -/
inductive Acts (s : Store) : Option String → Option Call → Store → Prop
  | still : Acts s none none s
  | cloudIn {r : CloudRecord} (idless : r.id = none) :
      Acts s (some (s.nextId "cloud")) none
        { s with
          clouds := s.clouds ++ [{ r with id := some (s.nextId "cloud") }]
          issued := s.issued + 1 }
  | clusterIn {r : ClusterRecord} (idless : r.id = none) :
      Acts s (some (s.nextId "cluster")) none
        { s with
          clusters := s.clusters ++ [{ r with id := some (s.nextId "cluster") }]
          issued := s.issued + 1 }
  | carriedOut {c : Call} {a : c.Answer} {t : Store} (effect : s.Effect c a t) :
      Acts s (c.drawn? a) (some c) t

theorem acts (s : Store) (action : Action) (idless : ∀ r, action = .seed r → r.id = none) :
    Acts s.contents (s.act action).1 (s.carriedOut? action) (s.act action).2.contents := by
  cases action with
  | seed record =>
      cases record with
      | cloud r =>
          have unnamed : r.id = none := idless (.cloud r) rfl
          simp only [act, insertCloud, unnamed, carriedOut?]
          exact .cloudIn unnamed
      | cluster r =>
          have unnamed : r.id = none := idless (.cluster r) rfl
          simp only [act, insertCluster, unnamed, carriedOut?]
          exact .clusterIn unnamed
  | switch off => exact .still
  | call c =>
      have performs := performs c s
      simp only [act, carriedOut?]
      generalize perform c s = p at performs ⊢
      obtain ⟨out, t⟩ := p
      cases performs with
      | unavailable => exact .still
      | failed _ _ same =>
          dsimp only at same ⊢
          rw [same]
          exact .still
      | done _ effect => exact .carriedOut effect

theorem act_call (s : Store) (c : Call) : (s.act (.call c)).2 = (perform c s).2 := by
  rw [act]
  split <;> next performed => rw [performed]

/-- What is found is answered. -/
theorem getCluster_eq {s : Store} (reachable : s.unavailable = false) (cloudId id : String) :
    (perform (.getCluster cloudId id) s).1 =
      match s.cluster? id with
      | some r => .ok r
      | none => .error (.notFound (.stored "GetCluster" id)) := by
  simp only [perform, reachable, Bool.false_eq_true, if_false, isRead, if_true, answer, cluster?]
  cases s.clusters.find? _ <;> rfl

/-! ## Numbers -/

/-- The ids of the clouds, and those of the clusters. -/
def ids (s : Store) : List (Option String) := s.clouds.map (·.id) ++ s.clusters.map (·.id)

/-- These ids are of one kind, and different, and their numbers have been drawn. -/
structure NumberedUpTo (kind : String) (issued : Nat) (ids : List (Option String)) : Prop where
  distinct : ids.Nodup
  drawn : ∀ id ∈ ids, ∃ n ≤ issued, id = some (idText kind n)

/-- The ids of a store have been drawn, and those of the clusters that have been deleted too, which
are in use no longer. -/
structure Numbered (s : Store) : Prop where
  clouds : NumberedUpTo "cloud" s.issued (s.clouds.map (·.id))
  clusters : NumberedUpTo "cluster" s.issued (s.clusters.map (·.id))
  deleted : ∀ id, .deleteCluster id ∈ s.writes →
    (∃ n ≤ s.issued, id = idText "cluster" n) ∧ some id ∉ s.clusters.map (·.id)

section

variable {s t : Store} {kind : String} {m n : Nat} {ids : List (Option String)}

theorem cluster?_eq_none {id : String} (absent : some id ∉ s.clusters.map (·.id)) :
    s.cluster? id = none := by
  refine List.find?_eq_none.mpr fun r member hit => ?_
  have named : r.id = some id := of_decide_eq_true hit
  exact absent (named ▸ List.mem_map_of_mem member)

theorem numbered_contents : s.contents.Numbered ↔ s.Numbered :=
  ⟨fun h => ⟨h.clouds, h.clusters, h.deleted⟩, fun h => ⟨h.clouds, h.clusters, h.deleted⟩⟩

theorem NumberedUpTo.nil : NumberedUpTo kind n [] :=
  ⟨List.nodup_nil, fun _ never => absurd never List.not_mem_nil⟩

theorem NumberedUpTo.mono (h : NumberedUpTo kind m ids) (le : m ≤ n) :
    NumberedUpTo kind n ids := by
  refine ⟨h.distinct, fun id member => ?_⟩
  obtain ⟨k, within, same⟩ := h.drawn id member
  exact ⟨k, Nat.le_trans within le, same⟩

theorem NumberedUpTo.sublist (h : NumberedUpTo kind n ids) {part : List (Option String)}
    (sub : part.Sublist ids) : NumberedUpTo kind n part :=
  ⟨h.distinct.sublist sub, fun id member => h.drawn id (sub.subset member)⟩

/-- The next number belongs to no id that has been drawn. -/
theorem NumberedUpTo.fresh (h : NumberedUpTo kind n ids) : some (idText kind (n + 1)) ∉ ids := by
  intro member
  obtain ⟨k, within, same⟩ := h.drawn _ member
  have number := idText_injective kind (Option.some.inj same)
  omega

theorem NumberedUpTo.append (h : NumberedUpTo kind n ids) :
    NumberedUpTo kind (n + 1) (ids ++ [some (idText kind (n + 1))]) := by
  constructor
  · refine List.nodup_append.mpr ⟨h.distinct, List.nodup_singleton _, ?_⟩
    rintro _ member _ new rfl
    exact h.fresh (List.mem_singleton.mp new ▸ member)
  · intro id member
    rcases List.mem_append.mp member with old | new
    · exact (h.mono (Nat.le_succ n)).drawn id old
    · exact ⟨n + 1, Nat.le_refl _, List.mem_singleton.mp new⟩

/-- The kind and the number of an id can be told from it. -/
theorem idText_cloud_ne_cluster (m n : Nat) : idText "cloud" m ≠ idText "cluster" n := by
  intro same
  have texts := congrArg String.toList same
  rw [toList_idText, toList_idText] at texts
  simp at texts

/-- All ids of a numbered store are different. -/
theorem Numbered.distinct (h : s.Numbered) : s.ids.Nodup := by
  refine List.nodup_append.mpr ⟨h.clouds.distinct, h.clusters.distinct, ?_⟩
  rintro id cloud _ cluster rfl
  obtain ⟨m, -, named⟩ := h.clouds.drawn id cloud
  obtain ⟨n, -, named'⟩ := h.clusters.drawn id cluster
  exact idText_cloud_ne_cluster m n (Option.some.inj (named.symm.trans named'))

theorem Numbered.nonempty (h : s.Numbered) :
    ∀ id ∈ s.ids, ∃ text, id = some text ∧ text ≠ "" := by
  intro id member
  rcases List.mem_append.mp member with cloud | cluster
  · obtain ⟨n, -, named⟩ := h.clouds.drawn id cloud
    exact ⟨_, named, idText_ne_empty _ n⟩
  · obtain ⟨n, -, named⟩ := h.clusters.drawn id cluster
    exact ⟨_, named, idText_ne_empty _ n⟩

/-- A store in which nothing has been put is numbered. -/
theorem numbered_empty : Numbered {} :=
  ⟨.nil, .nil, fun _ never => absurd never List.not_mem_nil⟩

/-! ### Steps -/

/-- A store stays numbered when each cluster was in it before or has the id that is drawn next, and
when no deletion is added to the log. -/
theorem Numbered.step (h : s.Numbered) (issued : s.issued ≤ t.issued)
    (clouds : NumberedUpTo "cloud" t.issued (t.clouds.map (·.id)))
    (clusters : NumberedUpTo "cluster" t.issued (t.clusters.map (·.id)))
    (known : ∀ id ∈ t.clusters.map (·.id),
      id ∈ s.clusters.map (·.id) ∨ id = some (s.nextId "cluster"))
    (kept : ∀ id, .deleteCluster id ∈ t.writes → .deleteCluster id ∈ s.writes) : t.Numbered := by
  refine ⟨clouds, clusters, fun id member => ?_⟩
  obtain ⟨⟨n, within, same⟩, gone⟩ := h.deleted id (kept id member)
  refine ⟨⟨n, Nat.le_trans within issued, same⟩, fun back => ?_⟩
  rcases known (some id) back with old | new
  · exact gone old
  · have number := idText_injective "cluster" (same.symm.trans (Option.some.inj new))
    omega

theorem Numbered.cloudIn (h : s.Numbered) (clusters : t.clusters = s.clusters)
    (clouds : t.clouds.map (·.id) = s.clouds.map (·.id) ++ [some (s.nextId "cloud")])
    (issued : t.issued = s.issued + 1)
    (kept : ∀ id, .deleteCluster id ∈ t.writes → .deleteCluster id ∈ s.writes) : t.Numbered := by
  have le : s.issued ≤ s.issued + 1 := Nat.le_succ _
  refine h.step (issued ▸ le) ?_ ?_ ?_ kept
  · rw [clouds, issued]
    exact h.clouds.append
  · rw [clusters, issued]
    exact h.clusters.mono le
  · rw [clusters]
    exact fun id => .inl

theorem Numbered.clusterIn (h : s.Numbered) (clouds : t.clouds = s.clouds)
    (clusters : t.clusters.map (·.id) = s.clusters.map (·.id) ++ [some (s.nextId "cluster")])
    (issued : t.issued = s.issued + 1)
    (kept : ∀ id, .deleteCluster id ∈ t.writes → .deleteCluster id ∈ s.writes) : t.Numbered := by
  have le : s.issued ≤ s.issued + 1 := Nat.le_succ _
  refine h.step (issued ▸ le) ?_ ?_ ?_ kept
  · rw [clouds, issued]
    exact h.clouds.mono le
  · rw [clusters, issued]
    exact h.clusters.append
  · intro id member
    rw [clusters, List.mem_append, List.mem_singleton] at member
    exact member

/-- The clusters are changed, but not their ids. -/
theorem Numbered.modify (h : s.Numbered) {clusters : List ClusterRecord} {entry : Write}
    (ids : clusters.map (·.id) = s.clusters.map (·.id)) (other : ∀ id, entry ≠ .deleteCluster id) :
    Numbered { s with clusters := clusters, writes := s.writes ++ [entry] } := by
  refine h.step (Nat.le_refl _) h.clouds ?_ ?_ ?_
  · rw [ids]
    exact h.clusters
  · rw [ids]
    exact fun id => .inl
  · intro id member
    rcases List.mem_append.mp member with old | new
    · exact old
    · exact absurd (List.mem_singleton.mp new).symm (other id)

theorem Numbered.delete (h : s.Numbered) {id : String} (present : (s.cluster? id).isSome = true) :
    Numbered { s with
      clusters := s.clusters.filter (·.id ≠ some id)
      writes := s.writes ++ [.deleteCluster id] } := by
  have part := (List.filter_sublist (p := (·.id ≠ some id)) (l := s.clusters)).map (·.id)
  refine ⟨h.clouds, h.clusters.sublist part, fun other member => ?_⟩
  rcases List.mem_append.mp member with old | new
  · obtain ⟨drawn, gone⟩ := h.deleted other old
    exact ⟨drawn, fun back => gone (part.subset back)⟩
  · obtain rfl : other = id := Write.deleteCluster.inj (List.mem_singleton.mp new)
    obtain ⟨r, found⟩ := Option.isSome_iff_exists.mp present
    obtain ⟨member, named⟩ := mem_of_cluster? found
    have inside : some other ∈ s.clusters.map (·.id) := named ▸ List.mem_map_of_mem member
    obtain ⟨n, within, same⟩ := h.clusters.drawn _ inside
    refine ⟨⟨n, within, Option.some.inj same⟩, fun back => ?_⟩
    obtain ⟨q, left, same⟩ := List.mem_map.mp back
    exact of_decide_eq_true (List.mem_filter.mp left).2 same

theorem Effect.numbered {c : Call} {a : c.Answer} (effect : s.Effect c a t) (h : s.Numbered) :
    t.Numbered := by
  cases effect with
  | cloudRead | cloudsListed | clustersListed | clusterRead | managedRead => exact h
  | cloudCreated => exact h.cloudIn rfl (List.map_append) rfl (by simp)
  | clusterCreated => exact h.clusterIn rfl (List.map_append) rfl (by simp)
  | clusterUpdated _ changed | clusterPromoted _ changed | clusterUnmanaged changed =>
      exact h.modify (map_id_modifyFirst changed fun _ => rfl) (by simp)
  | clusterDeleted present => exact h.delete present

theorem Acts.numbered {id : Option String} {c : Option Call} (acts : Acts s id c t)
    (h : s.Numbered) : t.Numbered := by
  cases acts with
  | still => exact h
  | cloudIn => exact h.cloudIn rfl (List.map_append) rfl (fun _ => id)
  | clusterIn => exact h.clusterIn rfl (List.map_append) rfl (fun _ => id)
  | carriedOut effect => exact effect.numbered h

/-- The id that is handed out is the next one, or there is none. -/
theorem Acts.drawn {id : Option String} {c : Option Call} (acts : Acts s id c t) :
    id = none ∧ t.issued = s.issued ∨
    (id = some (s.nextId "cloud") ∨ id = some (s.nextId "cluster")) ∧
      t.issued = s.issued + 1 := by
  cases acts with
  | still => exact .inl ⟨rfl, rfl⟩
  | cloudIn => exact .inr ⟨.inl rfl, rfl⟩
  | clusterIn => exact .inr ⟨.inr rfl, rfl⟩
  | carriedOut effect =>
      cases effect with
      | cloudCreated => exact .inr ⟨.inl rfl, rfl⟩
      | clusterCreated => exact .inr ⟨.inr rfl, rfl⟩
      | _ => exact .inl ⟨rfl, rfl⟩

end

/-! ## Courses -/

section

variable {s t : Store} {actions : List Action} {id : String} {r : ClusterRecord}

/-- Actions keep a store numbered that put in records without ids only. -/
theorem numbered_play (idless : ∀ r, .seed r ∈ actions → r.id = none) (h : s.Numbered) :
    (play actions s).2.Numbered := by
  induction actions generalizing s with
  | nil => exact h
  | cons action rest ih =>
      have first := acts s action fun r is => idless r (is ▸ List.mem_cons_self)
      have next := numbered_contents.mp (first.numbered (numbered_contents.mpr h))
      exact ih (fun r member => idless r (List.mem_cons_of_mem _ member)) next

/-- An id with a number that is still to be drawn. -/
def Undrawn (issued : Nat) (id : String) : Prop :=
  ∃ n, issued < n ∧ (id = idText "cloud" n ∨ id = idText "cluster" n)

theorem Undrawn.mono {m n : Nat} (h : Undrawn n id) (le : m ≤ n) : Undrawn m id := by
  obtain ⟨k, later, same⟩ := h
  exact ⟨k, Nat.lt_of_le_of_lt le later, same⟩

theorem undrawn_nextId (s : Store) {id : String}
    (next : id = s.nextId "cloud" ∨ id = s.nextId "cluster") :
    Undrawn s.issued id ∧ ¬ Undrawn (s.issued + 1) id := by
  refine ⟨⟨s.issued + 1, Nat.lt_succ_self _, next⟩, ?_⟩
  rintro ⟨n, later, again⟩
  have differs : s.issued + 1 ≠ n := Nat.ne_of_lt later
  rcases next with rfl | rfl <;> rcases again with same | same
  · exact differs (idText_injective _ same)
  · exact idText_cloud_ne_cluster _ _ same
  · exact idText_cloud_ne_cluster _ _ same.symm
  · exact differs (idText_injective _ same)

/-- The ids that are handed out are new, each of them, and different from each other. -/
theorem nodup_play (idless : ∀ r, .seed r ∈ actions → r.id = none) :
    (play actions s).1.Nodup ∧ ∀ id ∈ (play actions s).1, Undrawn s.issued id := by
  induction actions generalizing s with
  | nil => exact ⟨List.nodup_nil, fun _ never => absurd never List.not_mem_nil⟩
  | cons action rest ih =>
      have first := acts s action fun r is => idless r (is ▸ List.mem_cons_self)
      obtain ⟨distinct, undrawn⟩ := ih (s := (s.act action).2)
        fun r member => idless r (List.mem_cons_of_mem _ member)
      rw [play]
      rcases first.drawn with ⟨none, issued⟩ | ⟨drawn, issued⟩
      · replace issued : (s.act action).2.issued = s.issued := issued
        rw [none, ← issued]
        exact ⟨distinct, undrawn⟩
      · replace issued : (s.act action).2.issued = s.issued + 1 := issued
        obtain ⟨id, same, next⟩ : ∃ id, (s.act action).1 = some id ∧
            (id = s.nextId "cloud" ∨ id = s.nextId "cluster") := by
          rcases drawn with same | same
          · exact ⟨_, same, .inl rfl⟩
          · exact ⟨_, same, .inr rfl⟩
        obtain ⟨new, old⟩ := undrawn_nextId s next
        rw [issued] at undrawn
        rw [same]
        -- What is handed out later has a later number, so that it is none of the earlier ids.
        refine ⟨List.nodup_cons.mpr ⟨fun member => old (undrawn id member), distinct⟩, ?_⟩
        intro other member
        rcases List.mem_cons.mp member with rfl | later
        · exact new
        · exact (undrawn other later).mono (Nat.le_succ _)

/-! ### The record behind an id -/

/-- A change to the first record with some id changes what is found by this id only. -/
theorem find?_modifyFirst {other : String} {f : ClusterRecord → ClusterRecord}
    {before after : List ClusterRecord} (changed : modifyFirst other f before = some after)
    (keeps : ∀ r, (f r).id = r.id) (found : before.find? (·.id = some id) = some r) :
    after.find? (·.id = some id) = some (if other = id then f r else r) := by
  induction before generalizing after with
  | nil => cases changed
  | cons c rest ih =>
      rw [modifyFirst] at changed
      by_cases hit : c.id = some other
      · rw [if_pos hit] at changed
        cases changed
        by_cases same : other = id
        · rw [same] at hit
          rw [List.find?_cons_of_pos (by simpa using hit)] at found
          cases found
          rw [if_pos same]
          exact List.find?_cons_of_pos (by simpa [keeps] using hit)
        · have missed : c.id ≠ some id := by simpa [hit] using same
          rw [List.find?_cons_of_neg (by simpa using missed)] at found
          rw [if_neg same, List.find?_cons_of_neg (by simpa [keeps] using missed)]
          exact found
      · rw [if_neg hit] at changed
        obtain ⟨behind, inner, rfl⟩ := Option.map_eq_some_iff.mp changed
        by_cases named : c.id = some id
        · have differs : other ≠ id := fun same => hit (same ▸ named)
          rw [List.find?_cons_of_pos (by simpa using named)] at found
          cases found
          rw [if_neg differs]
          exact List.find?_cons_of_pos (by simpa using named)
        · rw [List.find?_cons_of_neg (by simpa using named)] at found ⊢
          exact ih inner found

/-- What is found by an id that is in use is what the call leaves of its record. -/
theorem Effect.cluster?_eq {c : Call} {a : c.Answer} (effect : s.Effect c a t)
    (found : s.cluster? id = some r) : t.cluster? id = c.applied id r := by
  cases effect with
  | cloudRead | cloudsListed | cloudCreated | clustersListed | clusterRead | managedRead =>
      exact found
  | clusterCreated =>
      rw [cluster?] at found ⊢
      rw [List.find?_append, found]
      rfl
  | clusterUpdated named changed =>
      rw [Call.applied, ClusterRecord.idText_of_id named]
      exact find?_modifyFirst changed (fun _ => rfl) found
  | clusterPromoted _ changed | clusterUnmanaged changed =>
      exact find?_modifyFirst changed (fun _ => rfl) found
  | @clusterDeleted _ other =>
      rw [Call.applied, cluster?, List.find?_filter]
      by_cases same : other = id
      · rw [if_pos same, List.find?_eq_none, same]
        simp
      · rw [if_neg same]
        refine (congrArg s.clusters.find? ?_).trans found
        funext q
        by_cases named : q.id = some id
        · simp [named, Ne.symm same]
        · simp [named]

theorem Acts.cluster?_eq {drawn : Option String} {c : Option Call} (acts : Acts s drawn c t)
    (found : s.cluster? id = some r) :
    t.cluster? id = c.toList.foldlM (Call.applied id) r := by
  cases acts with
  | still | cloudIn => exact found
  | clusterIn =>
      rw [cluster?] at found ⊢
      rw [List.find?_append, found]
      rfl
  | carriedOut effect =>
      rw [effect.cluster?_eq found]
      exact (bind_pure _).symm

/-- An id that is in use no longer has been deleted. -/
theorem Acts.deleted {drawn : Option String} {c : Option Call} (acts : Acts s drawn c t)
    (found : s.cluster? id = some r) (gone : t.cluster? id = none) :
    .deleteCluster id ∈ t.writes := by
  rw [acts.cluster?_eq found] at gone
  cases acts with
  | still | cloudIn | clusterIn => cases gone
  | carriedOut effect =>
      replace gone := (bind_pure _).symm.trans gone
      cases effect with
      | @clusterDeleted _ other =>
          by_cases same : other = id
          · rw [same]
            exact List.mem_append_right _ List.mem_cons_self
          · rw [Call.applied, if_neg same] at gone
            cases gone
      | _ => cases gone

theorem Acts.writes_prefix {drawn : Option String} {c : Option Call} (acts : Acts s drawn c t) :
    s.writes <+: t.writes := by
  cases acts with
  | still | cloudIn | clusterIn => exact List.prefix_refl _
  | carriedOut effect => exact effect.writes_prefix

theorem writes_prefix_play (idless : ∀ r, .seed r ∈ actions → r.id = none) :
    s.writes <+: (play actions s).2.writes := by
  induction actions generalizing s with
  | nil => exact List.prefix_refl _
  | cons action rest ih =>
      have first := acts s action fun r is => idless r (is ▸ List.mem_cons_self)
      have later : (s.act action).2.writes <+: (play rest (s.act action).2).2.writes :=
        ih fun r member => idless r (List.mem_cons_of_mem _ member)
      exact first.writes_prefix.trans later

/-- What is found by an id in the end is what the calls that are carried out leave of the record
that was found by it in the beginning. -/
theorem cluster?_play (idless : ∀ r, .seed r ∈ actions → r.id = none) (h : s.Numbered)
    (found : s.cluster? id = some r) :
    (play actions s).2.cluster? id = (carriedOut actions s).foldlM (Call.applied id) r := by
  induction actions generalizing s r with
  | nil => exact found
  | cons action rest ih =>
      have first := acts s action fun r is => idless r (is ▸ List.mem_cons_self)
      have later : ∀ r, .seed r ∈ rest → r.id = none :=
        fun r member => idless r (List.mem_cons_of_mem _ member)
      have next := numbered_contents.mp (first.numbered (numbered_contents.mpr h))
      have behind := first.cluster?_eq found
      rw [carriedOut, List.foldlM_append, ← behind]
      cases left : (s.act action).2.contents.cluster? id with
      | some q => exact ih later next left
      | none =>
          -- The id has been deleted, and it stays so: the log only grows.
          have gone : .deleteCluster id ∈ (play rest (s.act action).2).2.writes :=
            (writes_prefix_play later).subset (first.deleted found left)
          exact cluster?_eq_none ((numbered_play later next).deleted id gone).2

/-- The record that has just been created is found by its id, which was not in use. -/
theorem Numbered.cluster?_created (h : s.Numbered) {cloudId : String} {given : ClusterRecord}
    (created : (perform (.createCluster cloudId given) s).1 = .ok r) :
    r.id = some (s.nextId "cluster") ∧
      (perform (.createCluster cloudId given) s).2.cluster? (s.nextId "cluster") = some r := by
  have performs := performs (.createCluster cloudId given) s
  generalize perform (.createCluster cloudId given) s = p at performs created
  obtain ⟨out, t⟩ := p
  cases performs with
  | unavailable | failed => cases created
  | done _ effect =>
      cases created
      have absent : s.contents.clusters.find? (·.id = some (s.nextId "cluster")) = none :=
        cluster?_eq_none h.clusters.fresh
      change _ ∧ t.contents.cluster? _ = _
      generalize t.contents = behind at effect
      cases effect with
      | clusterCreated =>
          refine ⟨rfl, ?_⟩
          rw [cluster?, List.find?_append, absent, Option.none_or]
          exact List.find?_cons_of_pos (decide_eq_true rfl)

/-- A store can be reached as long as it is not made unavailable. -/
theorem reachable_play (on : .switch true ∉ actions) (reachable : s.unavailable = false) :
    (play actions s).2.unavailable = false := by
  induction actions generalizing s with
  | nil => exact reachable
  | cons action rest ih =>
      refine ih (fun member => on (List.mem_cons_of_mem _ member)) ?_
      cases action with
      | seed record =>
          cases record with
          | cloud r =>
              rw [act, insertCloud]
              split <;> exact reachable
          | cluster r =>
              rw [act, insertCluster]
              split <;> exact reachable
      | switch off =>
          cases off with
          | true => exact absurd List.mem_cons_self on
          | false => rfl
      | call c =>
          have performs := performs c s
          rw [act]
          generalize perform c s = p at performs ⊢
          obtain ⟨out, t⟩ := p
          cases performs with
          | unavailable => exact reachable
          | failed _ _ _ still | done _ _ still => exact still

/-- Whatever befalls a new store, as long as no record is put in with an id of its own. No id is
handed out twice. The ids of the records are different and not empty. The id of a cluster that has
been created leads to this cluster, as the calls that are carried out leave it, until it is
deleted, and then to nothing. -/
theorem issued_ids_are_fresh (idless : ∀ r, .seed r ∈ actions → r.id = none) :
    (play actions {}).1.Nodup ∧
      ((play actions {}).2.ids.Nodup ∧
        ∀ id ∈ (play actions {}).2.ids, ∃ text, id = some text ∧ text ≠ "") ∧
      (∀ {before after : List Action} {cloudId : String} {given r : ClusterRecord},
        actions = before ++ .call (.createCluster cloudId given) :: after →
        (perform (.createCluster cloudId given) (play before {}).2).1 = .ok r →
        (play actions {}).2.unavailable = false →
        ∃ id, r.id = some id ∧
          ∀ anywhere, (perform (.getCluster anywhere id) (play actions {}).2).1 =
            match (carriedOut after
                (perform (.createCluster cloudId given) (play before {}).2).2).foldlM
              (Call.applied id) r with
            | some q => .ok q
            | none => .error (.notFound (.stored "GetCluster" id))) ∧
      (.switch true ∉ actions → (play actions {}).2.unavailable = false) := by
  have numbered := numbered_play idless numbered_empty
  refine ⟨(nodup_play idless).1, ⟨numbered.distinct, numbered.nonempty⟩, ?_,
    fun on => reachable_play on rfl⟩
  rintro before after cloudId given r rfl created reachable
  have earlier := numbered_play (fun r member => idless r (List.mem_append_left _ member))
    numbered_empty
  have step := acts (play before {}).2 (.call (.createCluster cloudId given))
    fun _ seeded => nomatch seeded
  have next := numbered_contents.mp (step.numbered (numbered_contents.mpr earlier))
  obtain ⟨named, found⟩ := earlier.cluster?_created created
  rw [act_call] at next
  rw [play_append, play, act_call] at reachable ⊢
  refine ⟨_, named, fun anywhere => ?_⟩
  have later : ∀ r, .seed r ∈ after → r.id = none := fun r member =>
    idless r (List.mem_append_right _ (List.mem_cons_of_mem _ member))
  rw [getCluster_eq reachable, cluster?_play later next found]

/-- The last cluster does not get the id of the one that has been deleted. -/
theorem deleted_id_is_not_drawn_again :
    let actions : List Action := [.seed (.cloud {}), .call (.createCluster "cloud-0001" {}),
      .call (.deleteCluster "cloud-0001" "cluster-0002"), .call (.createCluster "cloud-0001" {})]
    (∀ r, .seed r ∈ actions → r.id = none) ∧
      (play actions {}).1 = ["cloud-0001", "cluster-0002", "cluster-0003"] ∧
      (play actions {}).1.Nodup := by
  intro actions
  have idless : ∀ r, .seed r ∈ actions → r.id = none := by simp [actions, Seed.id]
  exact ⟨idless, by decide, (issued_ids_are_fresh idless).1⟩

end

end Store

end Enrollment.Inventory
