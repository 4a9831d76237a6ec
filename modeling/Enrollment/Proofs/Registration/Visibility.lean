import Enrollment.Proofs.Registration.Pairing

/-!
# Records that a registration does not see

A registration lists the clusters of the account once, and looks in the listing for the records
that are tracked for its identity. Records of other identities and records that no connector tracks
may be there or not, and in any order. Two runs are compared here that are delivered the same but
for the one reply that lists the clusters: up to that reply they are in step because nothing
differs, at the reply because they read the same of it, and behind it because nothing differs
any more.
-/

namespace Enrollment

open Inventory Http

/-- The delivery is a complete reply with the status 200 that lists these clusters. -/
def Http.Delivery.Lists (delivery : Delivery) (clusters : List ClusterRecord) : Prop :=
  ∃ body, delivery.arrival = .reply ⟨.ok, body⟩ ∧
    Listing.clusters.decode body = .ok ⟨clusters⟩

namespace Registration

/-- The call for which delivery number `k` is made, in a run that begins here. -/
def Flow.taker? {α : Type} (h : Handler (Wire Nat)) (k : Nat) : Flow α → Wire Nat → Option Call
  | done _, _ => none
  | call scope c next, wire =>
    let called := h.call scope c wire
    if wire.server ≤ k ∧ k < called.2.server then some c else taker? h k (next called.1) called.2
  | now next, wire => taker? h k (next (h.now wire)) wire
  | pause time next, wire => taker? h k (next ()) (h.pause time wire)

/-- Two runs that are given different listings of clusters, in which the same records are tracked
for an identity. -/
def relisting (identity : String) : Likeness where
  scopes := Eq
  answers
    | .listClusters => SameTracked identity
    | _ => Eq

/-- Two replies that are the same, or list clusters of which the same are tracked. -/
inductive Relisted (identity : String) : Reply → Reply → Prop
  | same (reply : Reply) : Relisted identity reply reply
  | listed {body body' : Bytes} {clusters clusters' : List ClusterRecord}
      (first : Listing.clusters.decode body = .ok ⟨clusters⟩)
      (second : Listing.clusters.decode body' = .ok ⟨clusters'⟩)
      (tracked : SameTracked identity clusters clusters') :
      Relisted identity ⟨.ok, body⟩ ⟨.ok, body'⟩

section

variable {identity : String} {clusters clusters' : List ClusterRecord}

theorem plain_relisting : (relisting identity).Plain := by
  intro c other a a' same
  cases c with
  | listClusters => exact absurd rfl other
  | _ => exact same

theorem listsFor_relisting : (relisting identity).ListsFor identity := fun _ _ tracked => tracked

theorem relisting_refl (c : Call) (a : c.Answer) : (relisting identity).answers c a a := by
  cases c <;> exact rfl

theorem Relisted.status {reply reply' : Reply} (h : Relisted identity reply reply') :
    reply.status = reply'.status := by
  cases h <;> rfl

theorem interpret_listClusters {plan : Plan} {body : Bytes} (target : Target)
    (planned : Call.listClusters.plan = .ok plan)
    (listed : Listing.clusters.decode body = .ok ⟨clusters⟩) :
    Call.listClusters.interpret plan target ⟨.ok, body⟩ = .ok clusters := by
  cases planned
  have present : ¬ ((Plan.read .clusters false).canBeMissing = true ∧ Status.ok = .notFound) := by
    decide
  have accepted : (Plan.read .clusters false).accepted.holds .ok = true := by decide
  rw [Call.interpret, if_neg present, if_pos accepted, Call.answerOf, Call.decoded_ok_of listed]
  rfl

/-- The same is read of replies that list the same tracked records. -/
theorem Relisted.reads {reply reply' : Reply} (h : Relisted identity reply reply') {plan : Plan}
    (target : Target) (planned : Call.listClusters.plan = .ok plan) :
    Both ((relisting identity).answers .listClusters)
      (Call.listClusters.interpret plan target reply)
      (Call.listClusters.interpret plan target reply') := by
  cases h with
  | same => exact .refl (relisting_refl _) _
  | listed first second tracked =>
      rw [interpret_listClusters target planned first, interpret_listClusters target planned second]
      exact .ok tracked

/-- A listing of at most one tracked record can be given in any order. -/
theorem SameTracked.of_perm (permuted : clusters.Perm clusters')
    (few : (clusters.filter (·.isTrackedFor identity)).length ≤ 1) :
    SameTracked identity clusters clusters' := by
  have tracked : (clusters.filter (·.isTrackedFor identity)).Perm
      (clusters'.filter (·.isTrackedFor identity)) := permuted.filter _
  rw [SameTracked]
  cases found : clusters.filter (·.isTrackedFor identity) with
  | nil =>
      rw [found] at tracked
      exact (List.nil_perm.mp tracked).symm
  | cons r rest =>
      rw [found] at few tracked
      have none_left : rest.length ≤ 0 := Nat.le_of_succ_le_succ few
      have alone : rest = [] := List.length_eq_zero_iff.mp (Nat.le_zero.mp none_left)
      rw [alone] at tracked ⊢
      exact List.singleton_perm.mp tracked

/-! ## Runs in step -/

section

variable {client : Client} {deliveries deliveries' : Nat → Delivery} {pacing : Pacing} {k : Nat}
variable {wire wire' : Wire Nat} {α : Type} {R : α → α → Prop}
variable [Url.Idna]

theorem actsAlike_refl (client : Client) (scope : Scope) : client.ActsAlike Eq scope scope where
  account := rfl
  sendable := Iff.rfl
  orders _ :=
    { url := rfl
      requests := .refl (fun _ => ⟨rfl, rfl⟩) _ }

/-- The call that lists the clusters reads the same tracked records. -/
theorem perform_relisted (scope : Scope) (inStep : wire.InStep Eq wire')
    (near : ∀ n, (deliveries n).Alike (Relisted identity) (deliveries' n)) :
    Both ((relisting identity).answers .listClusters)
        (client.perform (.delivering deliveries pacing) scope .listClusters wire).1
        (client.perform (.delivering deliveries' pacing) scope .listClusters wire').1 ∧
      (client.perform (.delivering deliveries pacing) scope .listClusters wire).2.InStep Eq
        (client.perform (.delivering deliveries' pacing) scope .listClusters wire').2 := by
  refine Client.perform_inStep ?_ ?_ (actsAlike_refl client scope) inStep fun n _ _ => near n
  · intro reply reply' relisted
    exact relisted.status
  · intro plan target reply reply' planned relisted
    exact relisted.reads target planned

/-- Behind the delivery that differs the runs stay in step. -/
theorem inStep_behind (elsewhere : ∀ n, n ≠ k → deliveries' n = deliveries n) :
    Flow.InStep (relisting identity) (fun wire wire' => wire.InStep Eq wire' ∧ k < wire.server)
      (overHttp (.delivering deliveries pacing) client)
      (overHttp (.delivering deliveries' pacing) client) where
  call := by
    rintro scope _ c wire wire' rfl ⟨inStep, behind⟩
    have near : During (fun n => deliveries' n = deliveries n) wire.server
        (client.perform (.delivering deliveries pacing) scope c wire).2.server :=
      fun n reached _ => elsewhere n (Nat.ne_of_gt (Nat.lt_of_lt_of_le behind reached))
    obtain ⟨answers, there⟩ := Client.perform_inStep_of_same (relisting_refl c)
      (actsAlike_refl client scope) inStep near
    have onwards := Client.server_le_perform deliveries pacing client scope c wire
    exact ⟨answers, there, Nat.lt_of_lt_of_le behind onwards⟩
  now both := both.1.now
  pause time _ _ both :=
    ⟨Network.inStep_pause deliveries deliveries' pacing time both.1, both.2⟩

/-- Flows that are alike under different listings end alike, when the only delivery that differs
is made to the call that lists the clusters. -/
theorem run_relisted (elsewhere : ∀ n, n ≠ k → deliveries' n = deliveries n)
    (here : (deliveries k).Alike (Relisted identity) (deliveries' k)) {x y : Flow α}
    (alike : x.Alike (relisting identity) R y) (inStep : wire.InStep Eq wire')
    (asked : x.taker? (overHttp (.delivering deliveries pacing) client) k wire =
      some .listClusters) :
    R (x.run (overHttp (.delivering deliveries pacing) client) wire).1
        (y.run (overHttp (.delivering deliveries' pacing) client) wire').1 ∧
      (x.run (overHttp (.delivering deliveries pacing) client) wire).2.InStep Eq
        (y.run (overHttp (.delivering deliveries' pacing) client) wire').2 := by
  induction alike generalizing wire wire' with
  | done => cases asked
  | @call scope _ c next next' scopes rest ih =>
      obtain rfl : scope = _ := scopes
      rw [Flow.taker?] at asked
      by_cases taken : wire.server ≤ k ∧
          k < ((overHttp (.delivering deliveries pacing) client).call scope c wire).2.server
      · rw [if_pos taken] at asked
        cases asked
        have near (n : Nat) : (deliveries n).Alike (Relisted identity) (deliveries' n) := by
          by_cases same : n = k
          · rw [same]
            exact here
          · rw [elsewhere n same]
            exact (deliveries n).alike_refl .same
        obtain ⟨answers, there⟩ := perform_relisted scope inStep near
        obtain ⟨result, ended⟩ :=
          Flow.Alike.run (inStep_behind elsewhere) (rest _ _ answers) ⟨there, taken.2⟩
        exact ⟨result, ended.1⟩
      · rw [if_neg taken] at asked
        have near : During (fun n => deliveries' n = deliveries n) wire.server
            (client.perform (.delivering deliveries pacing) scope c wire).2.server := by
          intro n reached before
          apply elsewhere n
          rintro rfl
          exact taken ⟨reached, before⟩
        obtain ⟨answers, there⟩ := Client.perform_inStep_of_same (relisting_refl c)
          (actsAlike_refl client scope) inStep near
        exact ih _ _ answers there asked
  | now rest ih =>
      have shown : (overHttp (.delivering deliveries pacing) client).now wire =
          (overHttp (.delivering deliveries' pacing) client).now wire' := inStep.now
      rw [Flow.run_now, Flow.run_now, ← shown]
      exact ih _ inStep asked
  | pause time rest ih =>
      exact ih () (Network.inStep_pause deliveries deliveries' pacing time inStep) asked

/-- Records that are not tracked for this cluster are invisible. Two registrations are delivered
the same but for the listing of clusters. When the same records are tracked for the identity of the
cluster in both listings, in the same order, the runs have the same result, send the same requests
and make the same pauses, whatever other records there are. If at most one record is tracked, this
is so for any order of the whole listing. -/
theorem untracked_records_are_invisible (client : Client) (pacing : Pacing) (started : Instant)
    (cluster : LocalCluster) (s : Settings) (self : cluster.identity = .ok identity)
    (elsewhere : ∀ n, n ≠ k → deliveries' n = deliveries n)
    (elapsed : (deliveries k).elapsed = (deliveries' k).elapsed)
    (listed : (deliveries k).Lists clusters) (listed' : (deliveries' k).Lists clusters')
    (asked : (register cluster s).run.taker? (overHttp (.delivering deliveries pacing) client) k
      { server := 0, now := started } = some .listClusters)
    (tracked : SameTracked identity clusters clusters' ∨
      clusters.Perm clusters' ∧ (clusters.filter (·.isTrackedFor identity)).length ≤ 1) :
    let run := delivered client deliveries pacing started (register cluster s)
    let run' := delivered client deliveries' pacing started (register cluster s)
    run.1 = run'.1 ∧ requests run.2.events = requests run'.2.events ∧
      run.2.pauses = run'.2.pauses := by
  intro run run'
  have same : SameTracked identity clusters clusters' :=
    tracked.elim id fun permuted => .of_perm permuted.1 permuted.2
  have here : (deliveries k).Alike (Relisted identity) (deliveries' k) := by
    obtain ⟨body, arrived, first⟩ := listed
    obtain ⟨body', arrived', second⟩ := listed'
    refine ⟨?_, elapsed⟩
    rw [arrived, arrived']
    exact .reply (.listed first second same)
  have alike :
      Procedure.Alike (relisting identity) Eq (register cluster s) (register cluster s) := by
    apply alike_register plain_relisting
    · intro other known
      cases self.symm.trans known
      exact listsFor_relisting
    · exact ⟨.refl (fun _ => rfl) _, rfl, rfl⟩
  have begun : Wire.InStep Eq { server := 0, now := started } { server := 0, now := started } :=
    ⟨rfl, rfl, .nil⟩
  obtain ⟨result, ended⟩ := run_relisted elsewhere here alike begun asked
  refine ⟨result.eq, ?_, waits_eq_of_alike ended.events⟩
  have sent := requests_of_alike ended.events
  rwa [List.forall₂_eq_eq_eq] at sent

end

/-- A record that no connector has tracked is added in front of the record of the cluster. -/
theorem legacy_record_is_invisible :
    letI := Url.Idna.asciiOnly
    let json (s : String) : Bytes := Utf8.encode s.toList
    let clouds := json r#"{"items":[{"id":"c","name":"private","cloudType":"private"}]}"#
    let short := json r#"{"items":[{"id":"k","apiServiceID":"me","connectorInstall":"pending"}]}"#
    let long := json (r#"{"items":[{"id":"old","apiServiceID":"me"},"# ++
      r#"{"id":"k","apiServiceID":"me","connectorInstall":"pending"}]}"#)
    let deliveries (listing : Bytes) (n : Nat) : Delivery :=
      { arrival := .reply ⟨.ok, if n = 1 then listing else clouds⟩ }
    let client := Client.ofHost "http://h"
    let cluster : LocalCluster := ⟨fun _ => .ok "token", .ok {}, .ok "me"⟩
    let operation := register cluster { account := "a" }
    let run (listing : Bytes) :=
      delivered client (deliveries listing) .virtual Instant.start operation
    operation.run.taker? (overHttp (.delivering (deliveries short) .virtual) client) 1
        { server := 0, now := Instant.start } = some .listClusters ∧
      (run short).1 = (run long).1 := by
  let := Url.Idna.asciiOnly
  intro json clouds short long deliveries client cluster operation run
  let tracked : ClusterRecord := { id := some "k", identity := "me", install := .known .pending }
  have asked : operation.run.taker?
      (overHttp (.delivering (deliveries short) .virtual) client) 1
      { server := 0, now := Instant.start } = some .listClusters := by
    decide +kernel
  have elsewhere (n : Nat) (other : n ≠ 1) : deliveries long n = deliveries short n := by
    simp only [deliveries, if_neg other]
  have listed : (deliveries short 1).Lists [tracked] := ⟨short, rfl, by decide +kernel⟩
  have listed' : (deliveries long 1).Lists [{ id := some "old", identity := "me" }, tracked] :=
    ⟨long, rfl, by decide +kernel⟩
  have same : SameTracked "me" [tracked] [{ id := some "old", identity := "me" }, tracked] := rfl
  have self : cluster.identity = .ok "me" := rfl
  have elapsed : (deliveries short 1).elapsed = (deliveries long 1).elapsed := rfl
  clear_value clouds short long
  have runs := untracked_records_are_invisible client .virtual Instant.start cluster
    { account := "a" } self elsewhere elapsed listed listed' asked (.inl same)
  exact ⟨asked, runs.1⟩

end

end Registration

end Enrollment
