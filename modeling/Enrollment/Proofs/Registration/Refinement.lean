import Enrollment.Proofs.Inventory.Agreement
import Enrollment.Proofs.Registration.Path

/-!
# Registering over HTTP is registering in memory

A registration over HTTP, with a store behind the server, comes to the same as a registration that
makes its calls to the store itself: it yields the same id or fails in the same way, and it leaves
the same records. `Agrees` says so of any procedure, in the form of a contract: from a given store
both runs end alike, and what holds of the value and of the store that is left is `Q`. There is one
rule for a call, which is where client and store have to agree, and one for putting procedures
together. The registration is then walked through once; what is asserted on the way is what makes
the next call one that client and store agree on.

The URL of a request has to stay below a length, and one that does not is never requested. A
registration in memory knows nothing of this, so what is said here is said of registrations none of
whose calls has a URL of such a length.
-/

namespace Enrollment.Registration

open Inventory Http

/-! ## The calls of a run -/

namespace Flow

variable {α β σ : Type}

/-- The calls that a run makes, in their order. -/
def calls (h : Handler σ) : Flow α → σ → List (Scope × Call)
  | done _, _ => []
  | call scope c next, s =>
    (scope, c) :: (next (h.call scope c s).1).calls h (h.call scope c s).2
  | now next, s => (next (h.now s)).calls h s
  | pause d next, s => (next ()).calls h (h.pause d s)

theorem calls_bind (h : Handler σ) (x : Flow α) (f : α → Flow β) (s : σ) :
    (x.bind f).calls h s = x.calls h s ++ (f (x.run h s).1).calls h (x.run h s).2 := by
  induction x generalizing s with
  | done a => rfl
  | call scope c next ih => exact congrArg _ (ih _ _)
  | now next ih => exact ih _ s
  | pause d next ih => exact ih _ _

end Flow

theorem kind_reportedAs (missing : Missing) (e : Failure) :
    (Procedure.reportedAs missing e).kind = e.kind := by
  cases e <;> rfl

/-! ## Contracts of procedures that are run twice -/

section

variable (hostUrl : String) (net : Network Store) (pacing : Pacing)
variable {α β : Type}

/-- Over HTTP and in memory the procedure ends alike, and in the same store; if it succeeds, its
value and the store are as `Q` says. -/
def Agrees [Url.Idna] (x : Procedure α) (s : Store) (Q : α → Store → Prop) : Prop :=
  ∀ (wire : Wire Store) (timeline : Timeline), wire.server = s →
    (∀ p ∈ x.run.calls (inMemory pacing) (s, timeline),
      (Client.ofHost hostUrl).fits p.1 p.2 = true) →
    let remote := x.run.run (overHttp net (.ofHost hostUrl)) wire
    let home := x.run.run (inMemory pacing) (s, timeline)
    remote.1.mapError Failure.kind = home.1.mapError Failure.kind ∧
      remote.2.server = home.2.1 ∧ ∀ a, home.1 = .ok a → Q a home.2.1

end

namespace Agrees

variable {hostUrl : String} {net : Network Store} {pacing : Pacing} {α β : Type}
variable {x : Procedure α} {f : α → Procedure β} {s : Store}
variable {Q : α → Store → Prop} {R : β → Store → Prop}
variable [Url.Idna]

theorem ofExcept {result : Except Failure α} (post : ∀ a, result = .ok a → Q a s) :
    Agrees hostUrl net pacing (Procedure.ofExcept result) s Q := by
  intro wire timeline here _
  exact ⟨rfl, here, post⟩

theorem pure {a : α} (post : Q a s) :
    Agrees hostUrl net pacing (Pure.pure a : Procedure α) s Q := by
  apply ofExcept
  rintro _ ⟨⟩
  exact post

theorem throw {e : Failure} :
    Agrees hostUrl net pacing (MonadExcept.throw e : Procedure α) s Q := by
  apply ofExcept
  intro a never
  cases never

/-- A procedure that goes on from another one. -/
theorem bind (first : Agrees hostUrl net pacing x s Q)
    (rest : ∀ a t, Q a t → Agrees hostUrl net pacing (f a) t R) :
    Agrees hostUrl net pacing (x >>= f) s R := by
  intro wire timeline here short
  rw [Procedure.run_bind, Flow.calls_bind] at short
  obtain ⟨same, left, holds⟩ := first wire timeline here fun p member =>
    short p (List.mem_append_left _ member)
  have behind := fun p member => short p (List.mem_append_right _ member)
  simp only [Procedure.run_bind, Flow.run_bind_apply]
  generalize x.run.run (overHttp net (.ofHost hostUrl)) wire = remote at same left
  generalize x.run.run (inMemory pacing) (s, timeline) = home at same left holds behind
  obtain ⟨out, store, later⟩ := home
  obtain ⟨out', wire'⟩ := remote
  cases out with
  | ok a =>
      cases out' with
      | ok a' =>
          cases same
          exact rest a store (holds a rfl) wire' later left behind
      | error e => cases same
  | error e =>
      cases out' with
      | ok a => cases same
      | error e' =>
          have alike : e'.kind = e.kind := Except.error.inj same
          refine ⟨congrArg Except.error alike, left, ?_⟩
          intro b never
          cases never

end Agrees

/-- The account has a server of its store at the host, and a token that can be sent to it. -/
structure Reaches [Url.Idna] (hostUrl : String) (net : Network Store) (scope : Scope) : Prop where
  served : ∃ base, IsHost hostUrl base ∧ net.server = Store.served (directory base)
  named : IsPlainId scope.account
  sendable : Header.isValue (Client.bearer scope.token) = true

namespace Agrees

variable {hostUrl : String} {net : Network Store} {pacing : Pacing} {scope : Scope} {s : Store}
variable {c : Call}
variable [Url.Idna]

/-- One call, whose failures are reported in some words or other. -/
theorem of_single {x : Procedure c.Answer} {report : Failure → Failure}
    (single : x.run = .call scope c fun answer => .done (answer.mapError report))
    (alike : ∀ e, (report e).kind = e.kind) (reaches : Reaches hostUrl net scope)
    (sent : c.IsNeat) (neat : s.IsNeat) (applies : c.Applies s) :
    Agrees hostUrl net pacing x s fun a t => t.IsNeat ∧ s.contents.Effect c a t.contents := by
  obtain ⟨base, host, serving⟩ := reaches.served
  rintro wire timeline rfl short
  rw [single] at short ⊢
  have fits : (Client.ofHost hostUrl).fits scope c = true := short _ List.mem_cons_self
  obtain ⟨same, left⟩ := Client.perform_served host serving reaches.named reaches.sendable sent
    neat applies fits
  have upshot := upshot_perform sent applies
  have worded {α : Type} (out : Except Failure α) :
      (out.mapError report).mapError Failure.kind = out.mapError Failure.kind := by
    cases out with
    | ok a => rfl
    | error e => exact congrArg Except.error (alike e)
  simp only [Flow.run_call, Flow.run_done, worded]
  refine ⟨same, left, ?_⟩
  change ∀ a, (Store.perform c wire.server).1.mapError report = .ok a →
    (Store.perform c wire.server).2.IsNeat ∧
      wire.server.contents.Effect c a (Store.perform c wire.server).2.contents
  generalize Store.perform c wire.server = p at upshot
  intro a ends
  cases upshot with
  | unavailable | missing => cases ends
  | done effect =>
      cases ends
      have left := effect.isNeat sent ⟨neat.clouds, neat.clusters⟩
      exact ⟨⟨left.clouds, left.clusters⟩, effect⟩

theorem call (reaches : Reaches hostUrl net scope) (sent : c.IsNeat) (neat : s.IsNeat)
    (applies : c.Applies s) :
    Agrees hostUrl net pacing (Procedure.call scope c) s fun a t =>
      t.IsNeat ∧ s.contents.Effect c a t.contents :=
  of_single (Procedure.run_call scope c) (fun _ => rfl) reaches sent neat applies

theorem callOr {missing : Missing} (reaches : Reaches hostUrl net scope) (sent : c.IsNeat)
    (neat : s.IsNeat) (applies : c.Applies s) :
    Agrees hostUrl net pacing (Procedure.callOr missing scope c) s fun a t =>
      t.IsNeat ∧ s.contents.Effect c a t.contents :=
  of_single (Procedure.run_callOr missing scope c) (kind_reportedAs missing) reaches sent neat
    applies

end Agrees

/-! ## The registration -/

section

variable {hostUrl : String} {net : Network Store} {pacing : Pacing} {scope : Scope} {s t : Store}

theorem configuredId?_of_isPlainId {id : String} (plain : IsPlainId id) :
    configuredId? (some id) = some id :=
  Option.filter_some_pos (by simp [plain.ne_empty])

theorem mem_of_cloudCreated {cloud a : CloudRecord}
    (effect : s.contents.Effect (.createCloud cloud) a t.contents) : a ∈ t.clouds := by
  rw [← Store.clouds_contents t]
  generalize t.contents = u at effect
  cases effect
  exact List.mem_concat_self

theorem mem_of_clusterCreated {cloudId : String} {r a : ClusterRecord}
    (effect : s.contents.Effect (.createCluster cloudId r) a t.contents) : a ∈ t.clusters := by
  rw [← Store.clusters_contents t]
  generalize t.contents = u at effect
  cases effect
  exact List.mem_concat_self

theorem mem_of_clusterRead {cloudId id : String} {a : ClusterRecord}
    (effect : s.contents.Effect (.getCluster cloudId id) a t.contents) : a ∈ t.clusters := by
  rw [← Store.clusters_contents t]
  generalize t.contents = u at effect
  cases effect with
  | clusterRead found => exact List.mem_of_find?_eq_some found

theorem eq_of_cloudsListed {a : List CloudRecord}
    (effect : s.contents.Effect .listClouds a t.contents) : a = t.clouds := by
  rw [← Store.clouds_contents t]
  generalize t.contents = u at effect
  cases effect
  rfl

theorem eq_of_clustersListed {a : List ClusterRecord}
    (effect : s.contents.Effect .listClusters a t.contents) :
    a = t.clusters ∧ t.clusters = s.clusters := by
  rw [← Store.clusters_contents t, ← Store.clusters_contents s]
  generalize t.contents = u at effect
  cases effect
  exact ⟨rfl, rfl⟩

/-- An update leaves a record with every id that there has been one with. -/
theorem ids_of_clusterUpdated {cloudId : String} {r : ClusterRecord}
    (effect : s.contents.Effect (.updateCluster cloudId r) () t.contents) :
    t.clusters.map (·.id) = s.clusters.map (·.id) := by
  rw [← Store.clusters_contents t, ← Store.clusters_contents s]
  generalize t.contents = u at effect
  cases effect with
  | clusterUpdated _ changed => exact Store.map_id_modifyFirst changed fun _ => rfl

theorem agrees_resolvePrivateCloud [Url.Idna] (reaches : Reaches hostUrl net scope)
    (neat : s.IsNeat) :
    Agrees hostUrl net pacing (resolvePrivateCloud scope) s fun id t =>
      t.IsNeat ∧ IsPlainId id := by
  simp only [resolvePrivateCloud, findPrivateCloud, bind_assoc, pure_bind]
  have sent : Call.listClouds.IsNeat := trivial
  apply Agrees.bind (Agrees.call reaches sent neat trivial)
  rintro clouds t ⟨neat, effect⟩
  obtain rfl := eq_of_cloudsListed effect
  cases found : privateCloud? t.clouds with
  | some cloud =>
      apply Agrees.pure
      obtain ⟨id, same, plain⟩ := (neat.clouds cloud (List.mem_of_find?_eq_some found)).named
      rw [same]
      exact ⟨neat, plain⟩
  | none =>
      have sent : (Call.createCloud .privateCloud).IsNeat := ⟨Tag.isProper_known _, rfl⟩
      apply Agrees.bind (Agrees.call reaches sent neat trivial)
      rintro created t ⟨neat, effect⟩
      obtain ⟨id, same, plain⟩ := (neat.clouds created (mem_of_cloudCreated effect)).named
      have given : configuredId? created.id = some id := by
        rw [same, configuredId?_of_isPlainId plain]
      simp only [given]
      exact Agrees.pure ⟨neat, plain⟩

theorem agrees_resolveCloud [Url.Idna] (reaches : Reaches hostUrl net scope)
    {configured : Option String}
    (plain : ∀ id, configuredId? configured = some id → IsPlainId id) (neat : s.IsNeat) :
    Agrees hostUrl net pacing (resolveCloud scope configured) s fun id t =>
      t.IsNeat ∧ IsPlainId id := by
  unfold resolveCloud
  split
  · next id given =>
    have sent : (Call.getCloud id).IsNeat := plain id given
    apply Agrees.bind (Agrees.callOr reaches sent neat trivial)
    rintro cloud t ⟨neat, -⟩
    exact Agrees.pure ⟨neat, plain id given⟩
  · exact agrees_resolvePrivateCloud reaches neat

/-- A record that is found is one of the store, whatever it is found to be. -/
theorem record_of_classify {identity : String} {r : ClusterRecord} {resolution : Resolution}
    (judged : classify identity r = .ok resolution) : resolution.record = r := by
  unfold classify at judged
  split at judged <;> cases judged <;> rfl

theorem agrees_resolveByIdentity [Url.Idna] (reaches : Reaches hostUrl net scope)
    {cloudId identity name : String} (home : IsPlainId cloudId) (neat : s.IsNeat) :
    Agrees hostUrl net pacing (resolveByIdentity scope cloudId identity name) s fun r t =>
      t.IsNeat ∧ r.record ∈ t.clusters := by
  simp only [resolveByIdentity, findTracked, bind_assoc, pure_bind]
  have sent : Call.listClusters.IsNeat := trivial
  apply Agrees.bind (Agrees.call reaches sent neat trivial)
  rintro clusters t ⟨neat, effect⟩
  obtain ⟨rfl, -⟩ := eq_of_clustersListed effect
  cases found : tracked? identity t.clusters with
  | some r =>
      apply Agrees.ofExcept
      intro resolution judged
      rw [record_of_classify judged]
      exact ⟨neat, List.mem_of_find?_eq_some found⟩
  | none =>
      have unset {κ : Type} [Vocabulary κ] : (Tag.unset : Tag κ).IsProper := Tag.isProper_unset
      have sent : (Call.createCluster cloudId (pendingRecord cloudId identity name)).IsNeat :=
        ⟨home, ⟨unset, unset, unset, Tag.isProper_known _⟩, rfl⟩
      apply Agrees.bind (Agrees.call reaches sent neat trivial)
      rintro created t ⟨neat, effect⟩
      exact Agrees.pure ⟨neat, mem_of_clusterCreated effect⟩

theorem agrees_resolveConfigured [Url.Idna] (reaches : Reaches hostUrl net scope)
    {cloudId id identity : String} (home : IsPlainId cloudId) (plain : IsPlainId id)
    (neat : s.IsNeat) :
    Agrees hostUrl net pacing (resolveConfigured scope cloudId id identity) s fun r t =>
      t.IsNeat ∧ r.record ∈ t.clusters := by
  simp only [resolveConfigured, findRival, bind_assoc, pure_bind]
  have sent : (Call.getCluster cloudId id).IsNeat := ⟨home, plain⟩
  apply Agrees.bind (Agrees.callOr reaches sent neat trivial)
  rintro r t ⟨neat, effect⟩
  have member := mem_of_clusterRead effect
  apply Agrees.bind (Q := fun resolution u => u = t ∧ resolution.record = r)
  · apply Agrees.ofExcept
    intro resolution judged
    exact ⟨rfl, record_of_classify judged⟩
  rintro resolution _ ⟨rfl, rfl⟩
  split
  · exact Agrees.pure ⟨neat, member⟩
  · have sent : Call.listClusters.IsNeat := trivial
    apply Agrees.bind (Agrees.call reaches sent neat trivial)
    rintro clusters u ⟨neat, effect⟩
    obtain ⟨rfl, same⟩ := eq_of_clustersListed effect
    split
    · exact Agrees.throw
    · rw [← same] at member
      exact Agrees.pure ⟨neat, member⟩

theorem agrees_resolveCluster [Url.Idna] (reaches : Reaches hostUrl net scope)
    {cloudId identity name : String} {configured : Option String} (home : IsPlainId cloudId)
    (plain : ∀ id, configuredId? configured = some id → IsPlainId id) (neat : s.IsNeat) :
    Agrees hostUrl net pacing (resolveCluster scope cloudId configured identity name) s
      fun r t => t.IsNeat ∧ r.record ∈ t.clusters := by
  unfold resolveCluster
  split
  · exact Agrees.throw
  · split
    · next id given => exact agrees_resolveConfigured reaches home (plain id given) neat
    · exact agrees_resolveByIdentity reaches home neat

/-- The calls that promote a record of the store are neat, and the record is there for them. -/
theorem promotion_isNeat {settings : Settings} {cloudId identity : String} {r : ClusterRecord}
    {version : ClusterVersion} (home : IsPlainId cloudId) (neat : r.IsNeat) :
    (refreshCall settings cloudId identity version r).IsNeat ∧
      (promotionCall settings cloudId identity version r).IsNeat ∧ r.id = some r.idText := by
  obtain ⟨id, named, plain⟩ := neat.named
  have text : r.idText = id := ClusterRecord.idText_of_id named
  have proper : (refreshed r (settings.nameFor identity) version).IsProper :=
    ⟨Tag.isProper_unset, Tag.isProper_unset, Tag.isProper_unset, Tag.isProper_unset⟩
  have house : IsPlainId (cloudOf r cloudId) := by
    unfold cloudOf
    split
    · exact home
    · next given => exact neat.housed.resolve_left fun empty => given (String.isEmpty_iff.mpr empty)
  rw [← text] at named plain
  refine ⟨⟨house, proper, _, rfl, plain⟩, ⟨?_, _, rfl, plain⟩, named⟩
  exact ⟨proper.state, proper.managedState, proper.desiredState, proper.install⟩

theorem agrees_promote [Url.Idna] (reaches : Reaches hostUrl net scope) {settings : Settings}
    {cloudId identity : String} {resolution : Resolution} {version : ClusterVersion}
    (home : IsPlainId cloudId) (neat : s.IsNeat) (member : resolution.record ∈ s.clusters) :
    Agrees hostUrl net pacing (promote scope settings cloudId identity resolution version) s
      fun _ _ => True := by
  let refresh := refreshCall settings cloudId identity version resolution.record
  let promotion := promotionCall settings cloudId identity version resolution.record
  let id := resolution.record.idText
  obtain ⟨refreshed, sent, named⟩ :
      refresh.IsNeat ∧ promotion.IsNeat ∧ resolution.record.id = some id :=
    promotion_isNeat home (neat.clusters _ member)
  have promoted {t : Store} (neat : t.IsNeat) (present : ∃ c ∈ t.clusters, c.id = some id) :
      Agrees hostUrl net pacing (do let _ ← Procedure.call scope promotion; return id) t
        fun _ _ => True := by
    apply Agrees.bind (Agrees.call reaches sent neat present)
    intro _ t _
    exact Agrees.pure trivial
  cases resolution with
  | registered r | created r => exact promoted neat ⟨r, member, named⟩
  | adopted r =>
      have applies : refresh.Applies s := ⟨r, member, named⟩
      apply Agrees.bind (Agrees.call reaches refreshed neat applies)
      rintro ⟨⟩ t ⟨neat, effect⟩
      apply promoted neat
      have kept : some id ∈ t.clusters.map (·.id) := by
        rw [ids_of_clusterUpdated effect]
        exact List.mem_map.mpr ⟨r, member, named⟩
      exact List.mem_map.mp kept

end

/-- The account and the ids that are configured can stand in a URL, and the token can be sent. -/
structure Sendable (cluster : LocalCluster) (s : Settings) : Prop where
  account : IsPlainId s.account
  cloudId : ∀ id, configuredId? s.cloudId = some id → IsPlainId id
  clusterId : ∀ id, configuredId? s.clusterId = some id → IsPlainId id
  token : ∀ token, cluster.apiToken s.tokenRef = .ok token →
    Header.isValue (Client.bearer token) = true

namespace Sendable

variable {cluster : LocalCluster} {settings : Settings} {scope : Scope}

theorem of_knownScope (sendable : Sendable cluster settings)
    (acting : knownScope cluster settings = .ok scope) :
    IsPlainId scope.account ∧ Header.isValue (Client.bearer scope.token) = true := by
  obtain ⟨account, token⟩ := knownScope_ok acting
  rw [account]
  exact ⟨sendable.account, sendable.token _ token⟩

theorem reaches [Url.Idna] {hostUrl : String} {base : Url} {net : Network Store}
    (sendable : Sendable cluster settings) (host : IsHost hostUrl base)
    (serving : net.server = Store.served (directory base))
    (acting : knownScope cluster settings = .ok scope) : Reaches hostUrl net scope := by
  obtain ⟨named, token⟩ := sendable.of_knownScope acting
  exact ⟨⟨base, host, serving⟩, named, token⟩

end Sendable

/-- A registration over HTTP, at a host that serves a store, is the registration that makes its
calls to the store itself: it yields the same id, or a failure of the same kind, and it leaves the
same records. -/
theorem register_over_http_agrees_with_memory [Url.Idna] {hostUrl : String} {base : Url}
    (host : IsHost hostUrl base) (net : Network Store)
    (serving : net.server = Store.served (directory base)) (pacing : Pacing)
    (cluster : LocalCluster) (settings : Settings) (sendable : Sendable cluster settings)
    (wire : Wire Store) (timeline : Timeline) (neat : wire.server.IsNeat)
    (short : ∀ p ∈ (register cluster settings).run.calls (inMemory pacing) (wire.server, timeline),
      (Client.ofHost hostUrl).fits p.1 p.2 = true) :
    let remote := (register cluster settings).run.run (overHttp net (.ofHost hostUrl)) wire
    let home := (register cluster settings).run.run (inMemory pacing) (wire.server, timeline)
    remote.1.mapError Failure.kind = home.1.mapError Failure.kind ∧
      remote.2.server = home.2.1 := by
  have agrees : Agrees hostUrl net pacing (register cluster settings) wire.server
      fun _ _ => True := by
    unfold register
    rw [scopeOf_eq]
    apply Agrees.bind (Q := fun scope t => t.IsNeat ∧ Reaches hostUrl net scope)
    · apply Agrees.ofExcept
      intro scope acting
      exact ⟨neat, sendable.reaches host serving acting⟩
    rintro scope t ⟨neat, reaches⟩
    apply Agrees.bind (Q := fun _ t => t.IsNeat)
    · exact Agrees.ofExcept fun _ _ => neat
    intro identity t neat
    apply Agrees.bind (agrees_resolveCloud reaches sendable.cloudId neat)
    rintro cloudId t ⟨neat, home⟩
    apply Agrees.bind (agrees_resolveCluster reaches home sendable.clusterId neat)
    rintro resolution t ⟨neat, member⟩
    split
    · exact Agrees.pure trivial
    · apply Agrees.bind (Q := fun _ u => u.IsNeat ∧ resolution.record ∈ u.clusters)
      · exact Agrees.ofExcept fun _ _ => ⟨neat, member⟩
      rintro version t ⟨neat, member⟩
      exact agrees_promote reaches home neat member
  obtain ⟨same, left, -⟩ := agrees wire timeline rfl short
  exact ⟨same, left⟩

/-- A pending record is refreshed and promoted over HTTP as it is in memory. -/
theorem pending_record_is_registered_over_http :
    letI := Url.Idna.asciiOnly
    let base : Url :=
      { scheme := "http".toList, host := some (.named "h".toList), path := .segments [[]] }
    let cluster : LocalCluster :=
      ⟨fun _ => .ok "token", .ok ⟨"v1.29.4+k3s1", "1.29.4", "k3s"⟩, .ok "k"⟩
    let settings : Settings := { account := "a" }
    let store : Store :=
      { clouds := [{ CloudRecord.privateCloud with id := some "c1" }]
        clusters := [{ id := some "r1", identity := "k", install := .known .pending }] }
    let net : Network Store := ⟨Store.served (directory base), .recording⟩
    let wire : Wire Store := { server := store }
    (IsHost "http://h/" base ∧ Sendable cluster settings ∧ store.IsNeat ∧
      ∀ p ∈ (register cluster settings).run.calls (inMemory .recording) (store, {}),
        (Client.ofHost "http://h/").fits p.1 p.2 = true) ∧
    let remote := (register cluster settings).run.run (overHttp net (.ofHost "http://h/")) wire
    let home := (register cluster settings).run.run (inMemory .recording) (store, {})
    remote.1.mapError Failure.kind = home.1.mapError Failure.kind ∧
      remote.2.server = home.2.1 := by
  let := Url.Idna.asciiOnly
  intro base cluster settings store net wire
  have host : IsHost "http://h/" base := by
    refine ⟨?_, rfl, rfl, ?_⟩ <;> decide +kernel
  have sendable : Sendable cluster settings := by
    refine ⟨by decide, ?_, ?_, ?_⟩
    · intro id never
      cases never
    · intro id never
      cases never
    · rintro _ ⟨⟩
      decide
  have neat : store.IsNeat := by
    have unset {κ : Type} [Vocabulary κ] : (Tag.unset : Tag κ).IsProper := Tag.isProper_unset
    constructor
    · intro r member
      obtain rfl := List.mem_singleton.mp member
      exact ⟨Tag.isProper_known _, "c1", rfl, by decide⟩
    · intro r member
      obtain rfl := List.mem_singleton.mp member
      exact ⟨⟨unset, unset, unset, Tag.isProper_known _⟩, ⟨"r1", rfl, by decide⟩, .inl rfl⟩
  have short : ∀ p ∈ (register cluster settings).run.calls (inMemory .recording) (store, {}),
      (Client.ofHost "http://h/").fits p.1 p.2 = true := by
    decide +kernel
  exact ⟨⟨host, sendable, neat, short⟩,
    register_over_http_agrees_with_memory host net rfl .recording cluster settings sendable wire {}
      neat short⟩

/-! ## Ids that are too long -/

section

variable {σ : Type} {cluster : LocalCluster} {settings : Settings} {scope : Scope}
variable {identity id : String}

theorem register_of_cloud_error {h : Flow.Handler σ} {s : σ} {e : Failure}
    (acting : knownScope cluster settings = .ok scope) (self : cluster.identity = .ok identity)
    (given : configuredId? settings.cloudId = some id)
    (failed : (h.call scope (.getCloud id) s).1 = .error e) :
    ((register cluster settings).run.run h s).1 = .error (Procedure.reportedAs (.cloud id) e) := by
  unfold register resolveCloud Procedure.lookup
  rw [scopeOf_eq, acting, self, given]
  have reported : ((Procedure.callOr (.cloud id) scope (.getCloud id)).run.run h s).1 =
      .error (Procedure.reportedAs (.cloud id) e) := by
    rw [Procedure.run_callOr, Flow.run_call, failed]
    rfl
  simp only [Except.mapError, Procedure.ofExcept_ok_bind, bind_assoc]
  rw [Procedure.run_bind, Flow.run_bind_apply, reported]
  rfl

/-- Over HTTP nothing is sent for a cloud whose id makes its URL too long. -/
theorem register_of_long_cloud [Url.Idna] {hostUrl : String} {base : Url}
    (host : IsHost hostUrl base) (net : Network σ) (wire : Wire σ)
    (sendable : Sendable cluster settings)
    (acting : knownScope cluster settings = .ok scope) (self : cluster.identity = .ok identity)
    (given : configuredId? settings.cloudId = some id)
    (long : Order.urlLimit ≤ id.toList.length) :
    ((register cluster settings).run.run (overHttp net (.ofHost hostUrl)) wire).1.mapError
      Failure.kind = .error .noReply := by
  have sent : (Call.getCloud id).IsNeat := sendable.cloudId id given
  obtain ⟨named, token⟩ := sendable.of_knownScope acting
  have member : id ∈ (Resource.cloud id).parts := by simp [Resource.parts]
  obtain ⟨e, failed⟩ := Client.perform_of_long host net wire rfl sent named token member long
  rw [register_of_cloud_error acting self given failed]
  rfl

/-- In memory a cloud that is not there is missing, however long its id is. -/
theorem register_of_missing_cloud {pacing : Pacing} {s : Store × Timeline}
    (acting : knownScope cluster settings = .ok scope) (self : cluster.identity = .ok identity)
    (given : configuredId? settings.cloudId = some id) (reachable : s.1.unavailable = false)
    (missing : s.1.cloud? id = none) :
    ((register cluster settings).run.run (inMemory pacing) s).1.mapError Failure.kind =
      .error .notFound := by
  have failed : ((inMemory pacing).call scope (.getCloud id) s).1 =
      .error (.notFound (.stored "GetCloud" id)) := by
    change (Store.perform (.getCloud id) s.1).1 = _
    have available : ¬ s.1.unavailable = true := by simp [reachable]
    have counted : { s.1 with reads := s.1.reads + 1 }.cloud? id = none := missing
    simp only [Store.perform, if_neg available, Store.isRead, if_true, Store.answer, counted]
  rw [register_of_cloud_error acting self given failed]
  rfl

end

theorem isPlainId_replicate {n : Nat} (long : 2 < n) :
    IsPlainId (String.ofList (List.replicate n 'a')) := by
  apply isPlainId_of_long
  · rw [String.toList_ofList, List.length_replicate]
    exact long
  · rw [String.toList_ofList]
    intro c member
    rw [List.eq_of_mem_replicate member]
    rfl

/-- The URL of a cloud with a long id is not requested, although a server would reply to it: the
registration over HTTP fails in another way than the one in memory. -/
theorem long_ids_are_not_asked_for :
    letI := Url.Idna.asciiOnly
    let base : Url :=
      { scheme := "http".toList, host := some (.named "h".toList), path := .segments [[]] }
    let cluster : LocalCluster :=
      ⟨fun _ => .ok "token", .ok ⟨"v1.28.3", "1.28.3", "kubernetes"⟩, .ok "k"⟩
    let settings : Settings :=
      { account := "a", cloudId := some (String.ofList (List.replicate 65600 'a')) }
    let net : Network Store := ⟨Store.served (directory base), .recording⟩
    let wire : Wire Store := { server := {} }
    IsHost "http://h" base ∧ Sendable cluster settings ∧ wire.server.IsNeat ∧
    let remote := (register cluster settings).run.run (overHttp net (.ofHost "http://h")) wire
    let home := (register cluster settings).run.run (inMemory .recording) (wire.server, {})
    remote.1.mapError Failure.kind = .error .noReply ∧
      home.1.mapError Failure.kind = .error .notFound := by
  let := Url.Idna.asciiOnly
  intro base cluster settings net wire
  have host : IsHost "http://h" base := by
    refine ⟨?_, rfl, rfl, ?_⟩ <;> decide +kernel
  have plain : IsPlainId (String.ofList (List.replicate 65600 'a')) :=
    isPlainId_replicate (by decide)
  have long : Order.urlLimit ≤ (String.ofList (List.replicate 65600 'a')).toList.length := by
    rw [String.toList_ofList, List.length_replicate]
    decide
  have given : configuredId? settings.cloudId = some (String.ofList (List.replicate 65600 'a')) :=
    configuredId?_of_isPlainId plain
  have sendable : Sendable cluster settings := by
    refine ⟨by decide, ?_, ?_, ?_⟩
    · intro id same
      obtain rfl := Option.some.inj (given.symm.trans same)
      exact plain
    · intro id never
      cases never
    · rintro _ ⟨⟩
      decide
  have neat : wire.server.IsNeat := ⟨List.forall_mem_nil _, List.forall_mem_nil _⟩
  have acting : knownScope cluster settings = .ok ⟨"a", "token"⟩ := rfl
  refine ⟨host, sendable, neat, ?_, ?_⟩
  · exact register_of_long_cloud host net wire sendable acting rfl given long
  · exact register_of_missing_cloud acting rfl given rfl rfl

end Enrollment.Registration
