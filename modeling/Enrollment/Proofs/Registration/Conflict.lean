import Enrollment.Proofs.Inventory.Classification
import Enrollment.Proofs.Registration.Budget
import Enrollment.Proofs.Registration.Creation

/-!
# Conflicts leave the records of clusters untouched

A registration is at odds with the inventory when what it looks for is not there, when the
record it finds does not fit, or when another record is tracked for its cluster. All of these
are found out by reading. A call that writes to the records of clusters never reports one of
them: where it fails, it says that it has been refused, that it has got no reply or an
unexpected one, or that the reply cannot be read. So whatever has been sent before a conflict,
it has written no record of a cluster; at most the private cloud has been created.
-/

namespace Enrollment

open Inventory Http

/-- The inventory is not as the cluster expects it: a record is missing, or does not fit, or
another one is tracked. -/
def Failure.IsConflict : Failure → Prop
  | .incompatible _ _ | .identityConflict _ _ _ | .notFound _ => True
  | _ => False

theorem Failure.OfRequest.not_conflict {e : Failure} (h : e.OfRequest) : ¬ e.IsConflict := by
  cases e with
  | incompatible | identityConflict | notFound => exact h.elim
  | _ => exact id

/-- What is written to is not asked for. -/
theorem Inventory.Call.WritesCluster.not_readsOne {call : Call} (writes : call.WritesCluster) :
    ¬ call.ReadsOne := by
  cases call with
  | getCloud | getCluster | getManagedCluster => exact writes.elim
  | _ => exact id

namespace Registration

variable {client : Client} {cluster : LocalCluster} {s : Settings} {scope : Scope}
variable {steps : List Step} {log : List Event} {e : Failure}

/-- The failure of a step that writes to the records of clusters is no conflict. -/
def Plain (step : Step) : Prop :=
  ∀ scope call e, step = .call scope call (.error e) → call.WritesCluster → ¬ e.IsConflict

theorem Logged.plain [Url.Idna] (h : Logged client steps log) : ∀ step ∈ steps, Plain step := by
  rintro step member scope call e rfl writes
  obtain ⟨part, -, leaves⟩ := h.mem member
  exact (leaves.ofRequest writes.not_readsOne).not_conflict

theorem ClusterPath.spares {cloudId identity name : String} {configured : Option String}
    (path : ClusterPath scope cloudId configured identity name steps (.error e))
    (conflict : e.IsConflict) (plain : ∀ step ∈ steps, Plain step) :
    ∀ step ∈ steps, ¬ step.WritesCluster := by
  cases path with
  | anonymous => exact conflict.elim
  | configured _ _ path => cases path <;> simp [Step.WritesCluster, Call.WritesCluster]
  | byIdentity _ _ path =>
      cases path with
      | unlisted | unfit => simp [Step.WritesCluster, Call.WritesCluster]
      | uncreated =>
          have last := plain _ (List.mem_cons_of_mem _ List.mem_cons_self)
          exact absurd conflict (last _ _ _ rfl trivial)

theorem PromotionPath.not_conflict {cloudId identity : String} {version : ClusterVersion}
    {resolution : Resolution}
    (path : PromotionPath scope s cloudId identity version resolution steps (.error e))
    (plain : ∀ step ∈ steps, Plain step) : ¬ e.IsConflict := by
  cases path with
  | unrefreshed => exact plain _ List.mem_cons_self _ _ _ rfl trivial
  | @refreshed r answer _ result =>
      cases answer with
      | ok a => cases result
      | error e' =>
          cases result
          exact plain _ (List.mem_cons_of_mem _ List.mem_cons_self) _ _ _ rfl trivial
  | @fresh r answer _ result =>
      cases answer with
      | ok a => cases result
      | error e' =>
          cases result
          exact plain _ List.mem_cons_self _ _ _ rfl trivial

/-- No step in front of a conflict writes to the records of clusters. -/
theorem RegistrationPath.spares (path : RegistrationPath cluster s steps (.error e))
    (conflict : e.IsConflict) (plain : ∀ step ∈ steps, Plain step) :
    ∀ step ∈ steps, ¬ step.WritesCluster := by
  cases path with
  | unacting | unidentified => exact fun step member => absurd member List.not_mem_nil
  | homeless _ _ cloud => exact cloud.spares
  | unresolved _ _ cloud record =>
      intro step member
      rcases List.mem_append.mp member with member | member
      · exact cloud.spares step member
      · refine record.spares conflict (fun step member => ?_) step member
        exact plain step (List.mem_append_right _ member)
  | unversioned => exact conflict.elim
  | promoted _ _ _ _ _ _ promotion =>
      have third := promotion.not_conflict fun step member =>
        plain step (List.mem_append_right _ (List.mem_append_right _ member))
      exact absurd conflict third

/-- What has been sent when the records of clusters are left untouched: reads, and the post of
a cloud where none is configured. It is one and the same post, sent once under the standard
policies, and else as often as the client attempts what is not repeatable. -/
structure Untouched [Url.Idna] (client : Client) (s : Settings) (log : List Event) : Prop where
  spared : ∀ request ∈ requests log, ¬ client.WritesCluster request
  posted : ∀ request ∈ requests log, request.method = .get ∨
    configuredId? s.cloudId = none ∧ client.Addresses s.account .post .clouds request
  same : ∀ request ∈ requests log, ∀ other ∈ requests log, request.method ≠ .get →
    other.method ≠ .get → request = other
  tries : AtMost client.reads.attempts (fun request => request.method ≠ .get) log

/-- A registration that leaves the records of clusters alone posts a cloud, if anything. -/
theorem RegistrationPath.untouched [Url.Idna] {out : Except Failure String}
    (path : RegistrationPath cluster s steps out) (spares : ∀ step ∈ steps, ¬ step.WritesCluster)
    (logged : Logged client steps log) : Untouched client s log := by
  have sent : ∀ request ∈ requests log, request.method = .get ∨
      ∃ scope cloud answer, .call scope (.createCloud cloud) answer ∈ steps ∧
        client.Sends scope (.createCloud cloud) request ∧
        client.Addresses scope.account .post .clouds request := by
    intro request member
    obtain ⟨scope, call, answer, inside, sends⟩ := logged.sends member
    rcases sends.of_spares (spares _ inside) with get | ⟨⟨cloud, rfl⟩, posted⟩
    · exact .inl get
    · exact .inr ⟨scope, cloud, answer, inside, sends, posted⟩
  constructor
  case spared => exact fun request member => logged.spares spares member
  case posted =>
    intro request member
    rcases sent request member with get | ⟨scope, cloud, answer, inside, -, posted⟩
    · exact .inl get
    · obtain ⟨before, after, split⟩ := List.append_of_mem inside
      obtain ⟨acting, free, -⟩ := path.warranted before _ after split
      exact .inr ⟨free, acting ▸ posted⟩
  case same =>
    intro request member other member' write write'
    rcases sent request member with get | ⟨scope, cloud, answer, inside, sends, -⟩
    · exact absurd get write
    rcases sent other member' with get | ⟨scope', cloud', answer', inside', sends', -⟩
    · exact absurd get write'
    have step := List.inj_on_of_nodup_map path.nodup_operations inside inside' rfl
    obtain ⟨rfl, call, -⟩ := Step.call.inj step
    rw [← call] at sends'
    exact sends.unique sends'
  case tries =>
    refine (path.posts_cloud logged).of_imp fun request member write => ?_
    rcases sent request member with get | ⟨scope, _, _, _, _, posted⟩
    · exact absurd get write
    · exact ⟨scope.account, posted⟩

/-- A conflict leaves the records of clusters untouched. When a registration fails because
something is not found, is incompatible or belongs to another record, it has posted no
cluster, put none and promoted none: it has read, and at most it has posted a cloud, once, and
only if none is configured. -/
theorem register_conflict_spares_clusters [Url.Idna] {σ : Type} (net : Network σ) (client : Client)
    (cluster : LocalCluster) (s : Settings) (wire : Wire σ) (e : Failure)
    (failed : ((register cluster s).run.run (overHttp net client) wire).1 = .error e)
    (conflict : e.IsConflict) :
    ∃ log, ((register cluster s).run.run (overHttp net client) wire).2.events =
        wire.events ++ log ∧ Untouched client s log := by
  obtain ⟨steps, log, takes, events, logged⟩ :=
    exists_takes_logged net client (register cluster s).run wire
  rw [failed] at takes
  have path := register_takes takes
  exact ⟨log, events, path.untouched (path.spares conflict logged.plain) logged⟩

/-- A cloud is created, and then there is no cluster with the configured id in it. -/
theorem missing_cluster_spares_clusters :
    letI := Url.Idna.asciiOnly
    let json (s : String) : Bytes := Utf8.encode s.toList
    let script : List Cue := [
      .answer .ok (json r#"{"items":[]}"#) .zero,
      .answer .created (json r#"{"id":"c"}"#) .zero,
      .answer .notFound [] .zero]
    let client := Client.ofHost "http://h"
    let cluster : LocalCluster := ⟨fun _ => .ok "token", .ok {}, .ok "identity"⟩
    let settings : Settings := { account := "a", clusterId := some "k" }
    let after := (register cluster settings).run.run
      (overHttp ⟨Server.scripted, .recording⟩ client) { server := script }
    (after.1 = .error (.notFound (.cluster "k" "c")) ∧
      (Failure.notFound (.cluster "k" "c")).IsConflict) ∧
    ∃ log, after.2.events = [] ++ log ∧ Untouched client settings log := by
  suffices failed : _ from ⟨⟨failed, trivial⟩, @register_conflict_spares_clusters .asciiOnly
    _ _ _ _ _ { server := _ } _ failed trivial⟩
  decide +kernel

end Registration

end Enrollment
