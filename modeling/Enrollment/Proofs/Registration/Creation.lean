import Enrollment.Proofs.Inventory.Log
import Enrollment.Proofs.Inventory.Tracking
import Enrollment.Proofs.Registration.Path

/-!
# What a registration creates

A registration creates a record only when a listing of all records of that kind has come back
whole and shows that there is none. `Warranted` says this of one step and of the steps in
front of it, and holds on every way through a registration. Over HTTP it becomes a statement
about requests: whatever replies break off, do not come, or cannot be read, no such failure is
taken for an empty listing.
-/

namespace Enrollment.Registration

open Inventory Http

/-- A step creates something only when the steps in front of it have shown that it is not
there, and when no id of it is configured. -/
def Warranted (cluster : LocalCluster) (s : Settings) (before : List Step) : Step → Prop
  | .call scope (.createCloud _) _ =>
    scope.account = s.account ∧ configuredId? s.cloudId = none ∧
      ∃ clouds, .call scope .listClouds (.ok clouds) ∈ before ∧ privateCloud? clouds = none
  | .call scope (.createCluster _ _) _ =>
    scope.account = s.account ∧ configuredId? s.clusterId = none ∧
      ∃ identity clusters, cluster.identity = .ok identity ∧
        .call scope .listClusters (.ok clusters) ∈ before ∧ tracked? identity clusters = none
  | _ => True

section

variable {cluster : LocalCluster} {s : Settings} {scope : Scope} {steps : List Step}

theorem Warranted.append (front before : List Step) (step : Step)
    (h : Warranted cluster s before step) : Warranted cluster s (front ++ before) step := by
  unfold Warranted at h ⊢
  split at h
  · obtain ⟨acting, free, clouds, listed, absent⟩ := h
    exact ⟨acting, free, clouds, List.mem_append_right front listed, absent⟩
  · obtain ⟨acting, free, identity, clusters, self, listed, absent⟩ := h
    exact ⟨acting, free, identity, clusters, self, List.mem_append_right front listed, absent⟩
  · exact h

theorem CloudPath.warranted {out : Except Failure String} (acting : scope.account = s.account)
    (path : CloudPath scope s.cloudId steps out) : Guarded (Warranted cluster s) steps := by
  cases path with
  | missing | configured | unlisted | found => simp [Warranted]
  | uncreated free absent | unnamed free absent | created free absent =>
      simp [Warranted, acting, free, absent]

theorem ClusterPath.warranted {cloudId identity name : String} {out : Except Failure Resolution}
    (acting : scope.account = s.account) (self : cluster.identity = .ok identity)
    (path : ClusterPath scope cloudId s.clusterId identity name steps out) :
    Guarded (Warranted cluster s) steps := by
  cases path with
  | anonymous => exact Guarded.nil
  | configured _ _ path => cases path <;> simp [Warranted]
  | byIdentity _ free path =>
      cases path with
      | unlisted | unfit | registered | adopted => simp [Warranted]
      | uncreated absent | created absent => simp [Warranted, acting, free, self, absent]

theorem PromotionPath.warranted {front : List Step} {cloudId identity : String}
    {version : ClusterVersion} {resolution : Resolution} {out : Except Failure String}
    (path : PromotionPath scope s cloudId identity version resolution steps out) :
    Guarded (fun before => Warranted cluster s (front ++ before)) steps := by
  cases path <;> simp [Warranted, refreshCall, promotionCall]

/-- Every step of a registration that creates something is warranted. -/
theorem RegistrationPath.warranted {out : Except Failure String}
    (path : RegistrationPath cluster s steps out) : Guarded (Warranted cluster s) steps := by
  refine path.guarded Warranted.append ?_ ?_ ?_
  · intro scope first result acting path
    exact path.warranted (account_of_knownScope acting)
  · intro scope identity cloudId second result acting self path
    exact path.warranted (account_of_knownScope acting) self
  · intro _ _ _ _ _ _ _ _ _ _ _ path
    exact path.warranted

end

/-- A failure is never read as absence. A registration posts a cluster only when its identity
is known, no id is configured, and a listing of the clusters has been answered before, whole,
with the status 200, in which no record is tracked for the identity; and it posts a cloud only
when none is configured and such a listing of the clouds has no private cloud with an id. -/
theorem register_creates_only_what_is_absent [Url.Idna] {σ : Type} (net : Network σ)
    (client : Client) (cluster : LocalCluster) (s : Settings) (wire : Wire σ) :
    ∃ log, ((register cluster s).run.run (overHttp net client) wire).2.events =
        wire.events ++ log ∧
      EachSent log fun before request =>
        (∀ account cloudId, client.Addresses account .post (.cloudClusters cloudId) request →
          configuredId? s.clusterId = none ∧ ∃ identity clusters,
            cluster.identity = .ok identity ∧
            Listed client s.account .clusters Listing.clusters clusters before ∧
            ∀ r ∈ clusters, ¬ (r.identity = identity ∧ r.install ≠ .unset)) ∧
        (∀ account, client.Addresses account .post .clouds request →
          configuredId? s.cloudId = none ∧ ∃ clouds,
            Listed client s.account .clouds Listing.clouds clouds before ∧
            ∀ cloud ∈ clouds, ¬ (cloud.isPrivate = true ∧ cloud.hasId = true)) := by
  obtain ⟨steps, log, takes, events, logged⟩ :=
    exists_takes_logged net client (register cluster s).run wire
  refine ⟨log, events, ?_⟩
  intro before request arrival after split
  obtain ⟨front, scope, call, answer, back, passed, rfl, sends, behind, short⟩ :=
    logged.exchange split
  have warranted := (register_takes takes).warranted front _ back rfl
  constructor
  · intro account cloudId posted
    obtain ⟨_, _, rfl⟩ := sends.of_post_cloudClusters posted
    obtain ⟨acting, free, identity, clusters, self, member, absent⟩ := warranted
    refine ⟨free, identity, clusters, self, ?_, tracked?_eq_none.mp absent⟩
    rw [← acting]
    exact (behind.clusters_listed member).mono short.subset
  · intro account posted
    obtain ⟨_, rfl⟩ := sends.of_post_clouds posted
    obtain ⟨acting, free, clouds, member, absent⟩ := warranted
    refine ⟨free, clouds, ?_, ?_⟩
    · rw [← acting]
      exact (behind.clouds_listed member).mono short.subset
    · intro cloud inside both
      have missed := List.find?_eq_none.mp absent cloud inside
      exact missed (by simp [both.1, both.2])

end Enrollment.Registration
