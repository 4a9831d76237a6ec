import Enrollment.Proofs.Inventory.Reaction
import Enrollment.Proofs.Inventory.Served

/-!
# A client and a store agree

A call that a client has a served store carry out comes to the same as when the store carries it
out at once. `Upshot` lists what may come of a call that the store can make sense of: it is refused
because the store is unavailable, it finds nothing, or it has its effect. In each case the reply of
the server is one that the client reads back as what it stands for, and whenever the client tries a
call again, the store has not changed since.
-/

namespace Enrollment

/-- What sort of failure it is, apart from the words in which it is told. -/
inductive Failure.Kind where
  | noReply
  | unexpectedStatus (status : Http.Status)
  | notFound
  | undecodable
  | refused
  | incompatible
  | identityConflict
  | lookup
  | unfinished
  deriving DecidableEq, Repr

def Failure.kind : Failure → Failure.Kind
  | .noReply _ _ => .noReply
  | .unexpectedStatus status _ => .unexpectedStatus status
  | .notFound _ => .notFound
  | .undecodable _ _ _ _ => .undecodable
  | .refused _ => .refused
  | .incompatible _ _ => .incompatible
  | .identityConflict _ _ _ => .identityConflict
  | .lookup _ _ => .lookup
  | .unfinished _ => .unfinished

namespace Inventory

open Http

/-! ## What comes of a call -/

/-- The records of clusters that the call writes to are there. -/
def Call.Applies (s : Store) : Call → Prop
  | .updateCluster _ r | .promote r => ∃ c ∈ s.clusters, c.id = some r.idText
  | .unmanage id | .deleteCluster _ id => ∃ c ∈ s.clusters, c.id = some id
  | _ => True

section

variable {s t : Store} {call : Call} {a : call.Answer} {e : Failure}

/-- All that a store answers with a failure is a question for a record that it does not have. -/
theorem answer_error (sent : call.IsNeat) (applies : call.Applies s)
    (failed : s.answer call = .error e) : call.ReadsOne ∧ ∃ what, e = .notFound what := by
  cases call with
  | listClouds | listClusters => cases failed
  | getCloud | getCluster | getManagedCluster =>
      simp only [Store.answer] at failed
      split at failed <;> cases failed
      exact ⟨trivial, _, rfl⟩
  | createCloud cloud =>
      simp only [Store.answer, sent.2] at failed
      cases failed
  | createCluster cloudId r =>
      simp only [Store.answer, sent.2.2] at failed
      cases failed
  | updateCluster cloudId r =>
      obtain ⟨-, -, id, named, -⟩ := sent
      obtain ⟨c, member, same⟩ := applies
      rw [ClusterRecord.idText_of_id named] at same
      obtain ⟨after, changed⟩ := Store.exists_modifyFirst (f := Store.updated r) member same
      simp only [Store.answer, named, changed] at failed
      cases failed
  | promote r =>
      obtain ⟨-, id, named, plain⟩ := sent
      obtain ⟨c, member, same⟩ := applies
      have given : ¬ r.idText.isEmpty = true := by
        rw [ClusterRecord.idText_of_id named, String.isEmpty_iff]
        exact plain.ne_empty
      obtain ⟨after, changed⟩ := Store.exists_modifyFirst (f := Store.promoted r) member same
      simp only [Store.answer, if_neg given, changed] at failed
      cases failed
  | unmanage id =>
      obtain ⟨c, member, same⟩ := applies
      obtain ⟨after, changed⟩ := Store.exists_modifyFirst (f := Store.unmanaged) member same
      simp only [Store.answer, changed] at failed
      cases failed
  | deleteCluster cloudId id =>
      obtain ⟨c, member, same⟩ := applies
      have found : ¬ (s.cluster? id).isNone = true := by
        rw [Option.isNone_iff_eq_none, Store.cluster?, List.find?_eq_none]
        intro none
        exact none c member (decide_eq_true same)
      simp only [Store.answer, if_neg found] at failed
      cases failed

theorem Call.Applies.contents (applies : call.Applies s) : call.Applies s.contents := by
  cases call <;> exact applies

/-- What may come of a call that the store can make sense of. -/
inductive Upshot (s : Store) (call : Call) : Except Failure call.Answer × Store → Prop
  | unavailable :
      Upshot s call
        (.error (.unexpectedStatus .serviceUnavailable (.unavailable call.operation)), s)
  | missing {what : Missing} {t : Store} (one : call.ReadsOne) :
      Upshot s call (.error (.notFound what), t)
  | done {a : call.Answer} {t : Store} (effect : s.contents.Effect call a t.contents) :
      Upshot s call (.ok a, t)

theorem upshot_perform (sent : call.IsNeat) (applies : call.Applies s) :
    Upshot s call (Store.perform call s) := by
  have performs := Store.performs call s
  generalize Store.perform call s = p at performs
  obtain ⟨out, t⟩ := p
  cases performs with
  | unavailable => exact .unavailable
  | failed _ why =>
      obtain ⟨one, what, rfl⟩ := answer_error sent applies.contents why
      exact .missing one
  | done _ effect => exact .done effect

/-! ## Replies -/

/-- A status that a call accepts says that the request has succeeded. -/
theorem isSuccess_of_accepts {status : Status} (accepted : call.Accepts status) :
    status.isSuccess = true := by
  have bounds : 200 ≤ status.code ∧ status.code < 300 := by
    cases call <;> simp only [Call.Accepts] at accepted <;> omega
  simp [Status.isSuccess, bounds]

/-- What a store answers is read back from the reply that it is written to. -/
theorem accepted_reads (effect : s.Effect call a t) (neat : t.IsNeat) :
    call.Accepts (call.accepted a).status ∧ call.valueOf (call.accepted a).body = .ok a ∧
      ¬ call.Nameless a := by
  cases effect with
  | cloudRead found =>
      have proper := (neat.clouds _ (List.mem_of_find?_eq_some found)).proper
      refine ⟨rfl, ?_, id⟩
      rw [Call.valueOf, Call.accepted, decode_cloud proper]
  | cloudsListed =>
      refine ⟨rfl, ?_, id⟩
      rw [Call.valueOf, Call.accepted, decode_clouds fun r member => (neat.clouds r member).proper]
      rfl
  | cloudCreated =>
      have proper := (neat.clouds _ List.mem_concat_self).proper
      refine ⟨rfl, ?_, id⟩
      rw [Call.valueOf, Call.accepted, decode_cloud proper]
  | clustersListed =>
      refine ⟨rfl, ?_, id⟩
      rw [Call.valueOf, Call.accepted,
        decode_clusters fun r member => (neat.clusters r member).proper]
      rfl
  | clusterRead found | managedRead found =>
      have proper := (neat.clusters _ (List.mem_of_find?_eq_some found)).proper
      refine ⟨rfl, ?_, id⟩
      rw [Call.valueOf, Call.accepted, decode_cluster proper]
  | clusterCreated =>
      have proper := (neat.clusters _ List.mem_concat_self).proper
      refine ⟨rfl, ?_, Store.idText_ne_empty _ _⟩
      rw [Call.valueOf, Call.accepted, decode_cluster proper]
  | clusterUpdated => exact ⟨show 200 ≤ 200 ∧ 200 ≤ 204 by decide, rfl, id⟩
  | clusterPromoted | clusterUnmanaged | clusterDeleted => exact ⟨rfl, rfl, id⟩

/-- The client reads the reply to a call as what it stands for. -/
theorem interpret_replied {plan : Plan} (target : Target) (planned : call.plan = .ok plan)
    (sent : call.IsNeat) (neat : s.IsNeat) (upshot : Upshot s call (Store.perform call s)) :
    (call.interpret plan target (Store.replied call s).1).mapError Failure.kind =
      (Store.perform call s).1.mapError Failure.kind := by
  have classified (reply : Reply) :
      call.Classified (.ok reply) (call.interpret plan target reply) :=
    (Call.interpret_verdict planned).classified
  unfold Store.replied
  generalize Store.perform call s = p at upshot
  cases upshot with
  | unavailable =>
      have rejected : ¬ call.Accepts .serviceUnavailable := by
        intro accepted
        exact absurd (isSuccess_of_accepts accepted) (by decide)
      have present : ¬ (call.ReadsOne ∧ Status.serviceUnavailable.code = 404) := by
        intro both
        exact absurd both.2 (by decide)
      obtain ⟨cause, same⟩ := ((classified ⟨.serviceUnavailable, []⟩).unexpected _).mpr
        ⟨_, rfl, rfl, .inl ⟨rejected, present⟩⟩
      dsimp only [Call.reply, Call.rejected]
      rw [same]
      rfl
  | missing one =>
      obtain ⟨what, same⟩ := (classified ⟨.notFound, []⟩).notFound.mpr ⟨_, rfl, rfl, one⟩
      dsimp only [Call.reply, Call.rejected]
      rw [same]
      rfl
  | done effect =>
      have left := effect.isNeat sent ⟨neat.clouds, neat.clusters⟩
      obtain ⟨status, body, named⟩ := accepted_reads effect left
      dsimp only [Call.reply]
      rw [((classified _).ok _).mpr ⟨_, rfl, status, body, named⟩]

end

/-! ## Requests -/

/-- The segments that lead to what lies below a URL whose path ends in a slash. -/
def directory (base : Url) : List (List Char) :=
  match base.path with
  | .whole _ => []
  | .segments list => list.dropLast

/-- The text names a host that can be requested, and nothing is asked of it yet: with a slash behind
it, the text is read as `base`. -/
structure IsHost [Url.Idna] (hostUrl : String) (base : Url) : Prop where
  read : Url.parse? (Client.trimSlashes hostUrl ++ "/") = some base
  query : base.query = none
  fragment : base.fragment = none
  requestable : Order.canRequest base.withoutUserinfo = true

namespace Client

/-- The URL of the request for a call is not too long to be requested. -/
def fits [Url.Idna] (client : Client) (scope : Scope) (call : Call) : Bool :=
  match call.plan with
  | .error _ => true
  | .ok plan =>
    (Url.parse? (client.url scope.account plan.resource)).all fun url =>
      url.withoutUserinfo.chars.length < Order.urlLimit

variable {hostUrl : String} {base : Url} {scope : Scope} {call : Call} {plan : Plan}

theorem withoutUserinfo_path (u : Url) (path : Url.Path) :
    { u with path := path }.withoutUserinfo = { u.withoutUserinfo with path := path } := by
  unfold Url.withoutUserinfo
  dsimp only
  split <;> rfl

theorem isPlain_segments (planned : call.plan = .ok plan) (sent : call.IsNeat) {account : String}
    (named : IsPlainId account) : ∀ s ∈ plan.resource.segments account, Url.IsPlain s := by
  have parts : ∀ part ∈ plan.resource.parts, IsPlainId part := by
    have clouds : IsPlainId "clouds" := by decide
    have clusters : IsPlainId "clusters" := by decide
    have managed : IsPlainId "managedClusters" := by decide
    cases call with
    | createCloud cloud =>
        simp only [Call.plan, sent.2] at planned
        cases planned
        simp [Resource.parts, Plan.create, *]
    | createCluster cloudId r =>
        simp only [Call.plan, sent.2.2] at planned
        cases planned
        simp [Resource.parts, Plan.create, sent.1, *]
    | updateCluster cloudId r =>
        obtain ⟨house, -, id, named, plain⟩ := sent
        simp only [Call.plan, named] at planned
        cases planned
        simp [Resource.parts, Plan.replace, *]
    | promote r =>
        simp only [Call.plan] at planned
        split at planned <;> cases planned
        simp [Resource.parts, Plan.create, *]
    | getCluster | deleteCluster =>
        cases planned
        simp [Resource.parts, Plan.read, Plan.delete, sent.1, sent.2, *]
    | getCloud id | getManagedCluster id | unmanage id =>
        cases planned
        have plain : IsPlainId id := sent
        simp [Resource.parts, Plan.read, Plan.delete, *]
    | listClouds | listClusters =>
        cases planned
        simp [Resource.parts, Plan.read, *]
  intro s member
  obtain ⟨part, inside, rfl⟩ := List.mem_map.mp member
  simp only [List.mem_cons] at inside
  rcases inside with rfl | rfl | rfl | rfl | inside
  · decide
  · exact named
  · decide
  · decide
  · exact parts part inside

/-- The URL of the request for a neat call, and the URL that it is read as. -/
theorem parse?_resource [Url.Idna] (host : IsHost hostUrl base) (planned : call.plan = .ok plan)
    (sent : call.IsNeat) {account : String} (named : IsPlainId account) :
    Url.parse? ((ofHost hostUrl).url account plan.resource) =
      some { base with path := .segments (directory base ++ plan.resource.segments account) } := by
  obtain ⟨port, special⟩ := special_of_canRequest host.requestable
  rw [Url.scheme_withoutUserinfo] at special
  obtain ⟨dir, path, below⟩ := Url.parse?_below host.read special host.query host.fragment
  have found : directory base = dir := by
    rw [directory, path]
    exact List.dropLast_concat
  rw [url, Resource.url_eq, found]
  exact below _ (by simp [Resource.segments]) (isPlain_segments planned sent named)

/-- The request for a neat call, unless its URL is too long. -/
theorem request?_resource [Url.Idna] (host : IsHost hostUrl base) (planned : call.plan = .ok plan)
    (sent : call.IsNeat) (named : IsPlainId scope.account)
    (short : (ofHost hostUrl).fits scope call = true) :
    ∃ request, ((ofHost hostUrl).order scope plan).request? = .ok request ∧
      request.method = plan.method ∧ request.body = plan.body ∧
        request.url.path = .segments (directory base ++ plan.resource.segments scope.account) := by
  have read := parse?_resource host planned sent named
  have requestable := host.requestable
  simp only [fits, planned, read, Option.all_some, withoutUserinfo_path, decide_eq_true_eq] at short
  simp only [Order.canRequest, Bool.and_eq_true] at requestable
  have sendable : Order.canRequest { base.withoutUserinfo with
      path := .segments (directory base ++ plan.resource.segments scope.account) } = true := by
    simp only [Order.canRequest, Bool.and_eq_true, decide_eq_true_eq]
    exact ⟨requestable.1, short⟩
  rw [← withoutUserinfo_path] at sendable
  refine ⟨_, request?_of_canRequest read sendable, rfl, rfl, ?_⟩
  dsimp only
  rw [withoutUserinfo_path]

/-! ## Calls -/

theorem isValid_of_isNeat (sent : call.IsNeat) : call.IsValid := by
  cases call with
  | createCloud cloud => exact sent.2
  | createCluster cloudId r => exact sent.2.2
  | updateCluster cloudId r =>
      obtain ⟨-, -, id, named, -⟩ := sent
      exact Option.isSome_iff_exists.mpr ⟨id, named⟩
  | promote r =>
      obtain ⟨-, id, named, plain⟩ := sent
      show r.idText ≠ ""
      rw [ClusterRecord.idText_of_id named]
      exact plain.ne_empty
  | _ => trivial

/-- A reply that may be followed by another attempt leaves the store as it is. -/
theorem settled_of_upshot {s : Store} (client : Client) (single : client.reads.attempts = 1)
    (sent : call.IsNeat) (neat : s.IsNeat) (upshot : Upshot s call (Store.perform call s)) :
    (Store.replied call s).1.status.isSuccess = true ∨ (client.policyOf call).attempts = 1 ∨
      (Store.replied call s).2 = s := by
  unfold Store.replied
  generalize Store.perform call s = p at upshot
  cases upshot with
  | unavailable => exact .inr (.inr rfl)
  | missing one =>
      have once : call.repeatable = false := by
        cases call with
        | updateCluster | promote => exact one.elim
        | _ => rfl
      rw [policyOf, once]
      exact .inr (.inl single)
  | done effect =>
      have left := effect.isNeat sent ⟨neat.clouds, neat.clusters⟩
      exact .inl (isSuccess_of_accepts (accepted_reads effect left).1)

/-- A client and a store agree on every neat call that applies to the store: what the client answers
is what the store answers, apart from the words of a failure, and the store is left as it leaves
itself. -/
theorem perform_served [Url.Idna] (host : IsHost hostUrl base) {net : Network Store}
    (serving : net.server = Store.served (directory base)) (named : IsPlainId scope.account)
    (sendable : Header.isValue (bearer scope.token) = true) (sent : call.IsNeat) {wire : Wire Store}
    (neat : wire.server.IsNeat) (applies : call.Applies wire.server)
    (short : (ofHost hostUrl).fits scope call = true) :
    ((ofHost hostUrl).perform net scope call wire).1.mapError Failure.kind =
        (Store.perform call wire.server).1.mapError Failure.kind ∧
      ((ofHost hostUrl).perform net scope call wire).2.server =
        (Store.perform call wire.server).2 := by
  obtain ⟨plan, planned⟩ := Call.exists_plan (isValid_of_isNeat sent)
  obtain ⟨request, ordered, method, body, path⟩ :=
    request?_resource host planned sent named short
  have replied := served_eq (s := wire.server) planned sent method body path
  rw [← serving] at replied
  have upshot := upshot_perform sent applies
  have patient : Duration.zero.toNanos <
      ((ofHost hostUrl).policyOf call).attemptTimeout.toNanos := by
    have standard : Duration.zero.toNanos < RetryPolicy.standardTimeout.toNanos := by decide
    unfold policyOf
    split <;> exact standard
  have settled := settled_of_upshot (ofHost hostUrl) rfl sent neat upshot
  rw [← policy_plan planned] at patient settled
  obtain ⟨handed, left⟩ := Network.execute_replied ordered replied patient settled
  rw [perform_eq net wire planned sendable]
  dsimp only
  rw [handed]
  dsimp only
  constructor
  · exact interpret_replied _ planned sent neat upshot
  · rw [left, Store.replied]

/-! ## URLs that are too long -/

/-- No request is made for a URL with a segment that is too long. -/
theorem not_canRequest_of_long {url : Url} {list : List (List Char)} {segment : List Char}
    (path : url.path = .segments list) (member : segment ∈ list)
    (long : Order.urlLimit ≤ segment.length) : Order.canRequest url = false := by
  obtain ⟨front, back, rfl⟩ := List.append_of_mem member
  have inPath : segment.length ≤ url.pathChars.length := by
    unfold Url.pathChars
    split <;> simp_all [Url.Path.chars] <;> omega
  have whole : url.pathChars.length ≤ url.chars.length := by
    simp only [Url.chars, List.length_append]
    omega
  have limit : ¬ url.chars.length < Order.urlLimit := by omega
  simp [Order.canRequest, limit]

/-- A call whose URL has an id in it that is too long is never sent. -/
theorem perform_of_long [Url.Idna] (host : IsHost hostUrl base) {σ : Type} (net : Network σ)
    (wire : Wire σ) (planned : call.plan = .ok plan) (sent : call.IsNeat)
    (named : IsPlainId scope.account) (sendable : Header.isValue (bearer scope.token) = true)
    {part : String} (member : part ∈ plan.resource.parts)
    (long : Order.urlLimit ≤ part.toList.length) :
    ∃ e, ((ofHost hostUrl).perform net scope call wire).1 =
      .error (.noReply ((ofHost hostUrl).target scope call plan) e) := by
  have read := parse?_resource host planned sent named
  have inPath : part.toList ∈ directory base ++ plan.resource.segments scope.account := by
    apply List.mem_append_right
    apply List.mem_map_of_mem
    exact List.mem_append_right ["accounts", scope.account, "topology", "v1"] member
  have refused : ∃ cause, ((ofHost hostUrl).order scope plan).request? = .error cause := by
    unfold Order.request?
    rw [show Url.parse? ((ofHost hostUrl).order scope plan).url = _ from read]
    dsimp only
    rw [withoutUserinfo_path, not_canRequest_of_long rfl inPath long]
    exact ⟨_, rfl⟩
  obtain ⟨cause, refused⟩ := refused
  rw [perform_eq net wire planned sendable]
  dsimp only
  rw [Network.execute_refused net _ wire refused]
  exact ⟨_, rfl⟩

end Client

end Inventory

end Enrollment
