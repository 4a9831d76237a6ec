import Enrollment.Proofs.Inventory.Log
import Enrollment.Proofs.Inventory.Tracking
import Enrollment.Proofs.Registration.Path

/-!
# Which record a registration promotes

A promotion cannot be taken back. There are three ways to it: the record has just been
created, or it is the first that is tracked for the identity, or it is the configured one and
no other record is tracked. A record that was there before has to be fit for the cluster, and
has to have been brought up to date. `Entitled` says so of the steps in front of a promotion;
`Ready` says it of the replies that came back over HTTP.
-/

namespace Enrollment.Registration

open Inventory Http

/-- An update of the record has succeeded. -/
def Refreshed (scope : Scope) (id : String) (before : List Step) : Prop :=
  ∃ cloudId current, current.id = some id ∧
    .call scope (.updateCluster cloudId current) (.ok ()) ∈ before

/-- What the steps in front of the promotion of a record have shown. -/
inductive Qualified (scope : Scope) (s : Settings) (identity : String) (r : ClusterRecord)
    (before : List Step) : Prop
  | created {cloudId : String} {pending : ClusterRecord}
      (answered : .call scope (.createCluster cloudId pending) (.ok r) ∈ before)
  | found {clusters : List ClusterRecord} (free : configuredId? s.clusterId = none)
      (listed : .call scope .listClusters (.ok clusters) ∈ before)
      (first : tracked? identity clusters = some r)
      (fit : r.standing identity = .promotable) (fresh : Refreshed scope r.idText before)
  | configured {id cloudId : String} {clusters : List ClusterRecord} {front back : List Step}
      (given : configuredId? s.clusterId = some id) (split : before = front ++ back)
      (read : .call scope (.getCluster cloudId id) (.ok r) ∈ front)
      (fit : r.standing identity = .promotable)
      (listed : .call scope .listClusters (.ok clusters) ∈ back)
      (unrivalled : rival? identity id clusters = none) (fresh : Refreshed scope r.idText before)

/-- A step promotes a record only when the steps in front of it have shown that it may. -/
def Entitled (cluster : LocalCluster) (s : Settings) (before : List Step) : Step → Prop
  | .call scope (.promote sent) _ =>
    scope.account = s.account ∧ ∃ identity r, cluster.identity = .ok identity ∧
      sent.idText = r.idText ∧ Qualified scope s identity r before
  | _ => True

section

variable {cluster : LocalCluster} {s : Settings} {scope : Scope} {before steps : List Step}

theorem Refreshed.append {id : String} (h : Refreshed scope id before) (front : List Step) :
    Refreshed scope id (front ++ before) := by
  obtain ⟨cloudId, current, named, member⟩ := h
  exact ⟨cloudId, current, named, List.mem_append_right front member⟩

theorem Qualified.append {identity : String} {r : ClusterRecord}
    (h : Qualified scope s identity r before) (lead : List Step) :
    Qualified scope s identity r (lead ++ before) := by
  cases h with
  | created answered => exact .created (List.mem_append_right lead answered)
  | found free listed first fit fresh =>
      exact .found free (List.mem_append_right lead listed) first fit (fresh.append lead)
  | configured given split read fit listed unrivalled fresh =>
      subst split
      exact .configured given (List.append_assoc lead _ _).symm (List.mem_append_right lead read)
        fit listed unrivalled (fresh.append lead)

theorem Entitled.append (front before : List Step) (step : Step)
    (h : Entitled cluster s before step) : Entitled cluster s (front ++ before) step := by
  unfold Entitled at h ⊢
  split at h
  · obtain ⟨acting, identity, r, self, same, qualified⟩ := h
    exact ⟨acting, identity, r, self, same, qualified.append front⟩
  · exact h

theorem CloudPath.entitled {out : Except Failure String}
    (path : CloudPath scope s.cloudId steps out) : Guarded (Entitled cluster s) steps := by
  cases path <;> simp [Entitled]

theorem ClusterPath.entitled {cloudId identity name : String} {out : Except Failure Resolution}
    (path : ClusterPath scope cloudId s.clusterId identity name steps out) :
    Guarded (Entitled cluster s) steps := by
  cases path with
  | anonymous => exact Guarded.nil
  | configured _ _ path => cases path <;> simp [Entitled]
  | byIdentity _ _ path => cases path <;> simp [Entitled]

/-- A record that was there before is qualified once it has been brought up to date. -/
theorem ClusterPath.qualified_adopted {cloudId identity name : String} {r : ClusterRecord}
    {second : List Step}
    (path : ClusterPath scope cloudId s.clusterId identity name second (.ok (.adopted r)))
    (fresh : Refreshed scope r.idText steps) :
    Qualified scope s identity r (second ++ steps) := by
  have fresh := fresh.append second
  cases path with
  | @configured id _ _ _ given path =>
      cases path with
      | @adopted _ clusters fit unrivalled =>
          let read : Step := .call scope (.getCluster cloudId id) (.ok r)
          let listed : Step := .call scope .listClusters (.ok clusters)
          have split : [read, listed] ++ steps = [read] ++ listed :: steps := rfl
          exact .configured given split List.mem_cons_self fit List.mem_cons_self unrivalled fresh
  | byIdentity _ free path =>
      cases path with
      | adopted first fit => exact .found free List.mem_cons_self first fit fresh

theorem ClusterPath.qualified_created {cloudId identity name : String} {r : ClusterRecord}
    {second : List Step}
    (path : ClusterPath scope cloudId s.clusterId identity name second (.ok (.created r))) :
    Qualified scope s identity r (second ++ steps) := by
  cases path with
  | configured _ _ path => cases path
  | byIdentity _ _ path =>
      cases path with
      | created => exact .created (List.mem_cons_of_mem _ List.mem_cons_self)

theorem PromotionPath.entitled {cloudId identity name : String} {version : ClusterVersion}
    {resolution : Resolution} {second : List Step} {out : Except Failure String}
    (acting : scope.account = s.account) (self : cluster.identity = .ok identity)
    (resolved : ClusterPath scope cloudId s.clusterId identity name second (.ok resolution))
    (path : PromotionPath scope s cloudId identity version resolution steps out) :
    Guarded (fun before => Entitled cluster s (second ++ before)) steps := by
  cases path with
  | unrefreshed => simp [Entitled, refreshCall]
  | @refreshed r =>
      have fresh : Refreshed scope r.idText
          [.call scope (refreshCall s cloudId identity version r) (.ok ())] :=
        ⟨_, _, rfl, List.mem_singleton.mpr rfl⟩
      rw [Guarded.cons_iff, Guarded.cons_iff]
      exact ⟨trivial, ⟨acting, identity, r, self, rfl, resolved.qualified_adopted fresh⟩,
        Guarded.nil⟩
  | @fresh r =>
      rw [Guarded.cons_iff]
      exact ⟨⟨acting, identity, r, self, rfl, resolved.qualified_created⟩, Guarded.nil⟩

/-- Every promotion of a registration is one that it is entitled to. -/
theorem RegistrationPath.entitled {out : Except Failure String}
    (path : RegistrationPath cluster s steps out) : Guarded (Entitled cluster s) steps := by
  refine path.guarded Entitled.append ?_ ?_ ?_
  · intro scope first result acting path
    exact path.entitled
  · intro scope identity cloudId second result acting self path
    exact path.entitled
  · intro scope identity cloudId second resolution version third result acting self resolved path
    exact path.entitled (account_of_knownScope acting) self resolved

end

variable [Url.Idna]

/-! ## Over HTTP -/

/-- What has come back over HTTP before a record with this id is promoted. -/
inductive Ready (client : Client) (cluster : LocalCluster) (s : Settings) (id : String)
    (log : List Event) : Prop
  | created {cloudId : String} {reply : Reply} {r : ClusterRecord}
      (answered : Answered client s.account .post (.cloudClusters cloudId) reply log)
      (status : reply.status = .created) (decoded : ClusterRecord.decode reply.body = .ok r)
      (named : r.idText = id)
  | found {identity cloudId : String} {clusters : List ClusterRecord} {r : ClusterRecord}
      {update : Reply}
      (self : cluster.identity = .ok identity) (free : configuredId? s.clusterId = none)
      (listed : Listed client s.account .clusters Listing.clusters clusters log)
      (first : clusters.find? (·.isTrackedFor identity) = some r)
      (fit : r.standing identity = .promotable) (named : r.idText = id)
      (updated : Answered client s.account .put (.cloudCluster cloudId id) update log)
      (accepted : 200 ≤ update.status.code ∧ update.status.code ≤ 204)
  | configured {identity cloudId cloudId' configured : String} {clusters : List ClusterRecord}
      {r : ClusterRecord} {read update : Reply} {front back : List Event}
      (self : cluster.identity = .ok identity) (given : configuredId? s.clusterId = some configured)
      (split : log = front ++ back)
      (answered : Answered client s.account .get (.cloudCluster cloudId configured) read front)
      (status : read.status = .ok) (decoded : ClusterRecord.decode read.body = .ok r)
      (fit : r.standing identity = .promotable) (named : r.idText = id)
      (listed : Listed client s.account .clusters Listing.clusters clusters back)
      (unrivalled : ∀ other ∈ clusters,
        ¬ (other.idText ≠ configured ∧ other.identity = identity ∧ other.install ≠ .unset))
      (updated : Answered client s.account .put (.cloudCluster cloudId' id) update log)
      (accepted : 200 ≤ update.status.code ∧ update.status.code ≤ 204)

/-- The replies that a qualified record is qualified by. -/
theorem Qualified.ready {client : Client} {cluster : LocalCluster} {s : Settings} {scope : Scope}
    {identity : String} {r : ClusterRecord} {before : List Step} {log passed : List Event}
    (h : Qualified scope s identity r before) (acting : scope.account = s.account)
    (self : cluster.identity = .ok identity) (logged : Logged client before passed)
    (part : passed <+: log) : Ready client cluster s r.idText log := by
  cases h with
  | created answered =>
      obtain ⟨reply, answered, status, decoded⟩ := logged.cluster_created answered
      rw [acting] at answered
      exact .created (answered.mono part.subset) status decoded rfl
  | found free listed first fit fresh =>
      obtain ⟨cloudId, current, named, member⟩ := fresh
      obtain ⟨update, updated, accepted⟩ := logged.cluster_updated named member
      have listed := logged.clusters_listed listed
      rw [acting] at updated listed
      exact .found self free (listed.mono part.subset) first fit rfl (updated.mono part.subset)
        accepted
  | configured given split read fit listed unrivalled fresh =>
      obtain ⟨cloudId, current, named, member⟩ := fresh
      obtain ⟨update, updated, accepted⟩ := logged.cluster_updated named member
      subst split
      obtain ⟨left, right, rfl, head, tail⟩ := logged_append_iff.mp logged
      obtain ⟨rest, rfl⟩ := part
      obtain ⟨reply, answered, status, decoded⟩ := head.cluster_found read
      have listed := tail.clusters_listed listed
      rw [acting] at updated answered listed
      refine .configured self given (List.append_assoc left right rest) answered status decoded fit
        rfl (listed.mono ?_) (rival?_eq_none.mp unrivalled) (updated.mono ?_) accepted
      · exact List.subset_append_left right rest
      · exact List.subset_append_left _ rest

/-- Only an owned, ready record is promoted. The body of every promotion that is sent is a
record with an id, and what has come back before shows that the record with this id is ready. -/
theorem register_promotes_only_ready_records {σ : Type} (net : Network σ) (client : Client)
    (cluster : LocalCluster) (s : Settings) (wire : Wire σ) :
    ∃ log, ((register cluster s).run.run (overHttp net client) wire).2.events =
        wire.events ++ log ∧
      EachSent log fun before request =>
        ∀ account, client.Addresses account .post .managedClusters request →
          ∃ sent : ClusterRecord, request.body = some (Utf8.encode sent.encode.toList) ∧
            sent.idText ≠ "" ∧ Ready client cluster s sent.idText before := by
  obtain ⟨steps, log, takes, events, logged⟩ :=
    exists_takes_logged net client (register cluster s).run wire
  refine ⟨log, events, ?_⟩
  intro before request arrival after split account posted
  obtain ⟨front, scope, call, answer, back, passed, rfl, sends, behind, short⟩ :=
    logged.exchange split
  have entitled := (register_takes takes).entitled front _ back rfl
  obtain ⟨record, rfl⟩ := sends.of_post_managedClusters posted
  obtain ⟨acting, identity, r, self, same, qualified⟩ := entitled
  obtain ⟨named, body⟩ := sends.promote
  have id : record.promotion.idText = r.idText := same
  refine ⟨record.promotion, body, ?_, ?_⟩
  · exact named
  · rw [id]
    exact qualified.ready acting self behind short

end Enrollment.Registration
