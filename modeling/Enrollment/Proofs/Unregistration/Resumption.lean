import Enrollment.Proofs.Registration.Uniqueness
import Enrollment.Proofs.Unregistration.Undoing

/-!
# Interrupted unregistrations can be resumed

An unregistration writes twice, behind a poll, and nothing is undone when it is cut off in
between. The record that it leaves then is unmanaged and still there, so that the next attempt
unmanages it once more and deletes it. Two predicates on a store follow this over any number of
attempts: the record `Waits` until an attempt succeeds, and is `Gone` from then on. Neither of
them leaves room for a change of any other record.
-/

namespace Enrollment

open Inventory

/-! ## The record of a cluster that is being withdrawn -/

namespace Inventory.Store

variable {id : String} {start s t : Store} {front back : List ClusterRecord} {r : ClusterRecord}

/-- The first record with this id is the one that is changed. -/
theorem modifyFirst_append {f : ClusterRecord → ClusterRecord}
    (foreign : ∀ q ∈ front, q.id ≠ some id) (named : r.id = some id) :
    modifyFirst id f (front ++ r :: back) = some (front ++ f r :: back) := by
  induction front with
  | nil => rw [List.nil_append, modifyFirst, if_pos named, List.nil_append]
  | cons q front ih =>
      have other : ¬ q.id = some id := foreign q List.mem_cons_self
      have rest := ih fun q member => foreign q (List.mem_cons_of_mem _ member)
      rw [List.cons_append, modifyFirst, if_neg other, rest]
      rfl

/-- The clusters are those of `start`, each in its place, with one difference at most: the first
record with this id may be unmanaged. -/
def Waits (id : String) (start s : Store) : Prop :=
  ∃ front r back, start.clusters = front ++ r :: back ∧ (∀ q ∈ front, q.id ≠ some id) ∧
    r.id = some id ∧
    (s.clusters = front ++ r :: back ∨
      s.clusters = front ++ { r with managedState := .known .unmanaged } :: back)

/-- The clusters are those of `start` but for the records with this id. -/
def Gone (id : String) (start s : Store) : Prop := s.clusters = start.without id

/-- Apart from the record with this id all is as in `start`: clouds and other clusters are the
same, no id has been drawn, and nothing has been written but that this record is unmanaged and
deleted. -/
structure Spares (id : String) (start s : Store) : Prop where
  clouds : s.clouds = start.clouds
  others : s.without id = start.without id
  issued : s.issued = start.issued
  writes : ∃ writes, s.writes = start.writes ++ writes ∧
    ∀ w ∈ writes, w = .unmanage id ∨ w = .deleteCluster id

theorem Spares.refl (id : String) (s : Store) : Spares id s s :=
  ⟨rfl, rfl, rfl, [], (List.append_nil _).symm, fun _ member => absurd member List.not_mem_nil⟩

theorem Spares.of_contents (h : Spares id start.contents s.contents) : Spares id start s :=
  ⟨h.clouds, h.others, h.issued, h.writes⟩

/-- A private cloud that has an id is found. -/
theorem exists_homeId? (home : ∃ cloud ∈ s.clouds, cloud.isPrivate = true ∧ cloud.hasId = true) :
    ∃ cloudId, s.homeId? = some cloudId := by
  obtain ⟨cloud, member, own⟩ := home
  have some : (Registration.privateCloud? s.clouds).isSome = true :=
    List.find?_isSome.mpr ⟨cloud, member, Bool.and_eq_true_iff.mpr own⟩
  obtain ⟨r, found⟩ := Option.isSome_iff_exists.mp some
  have shown := List.find?_some found
  have named : r.id.isSome = true := by
    cases none : r.id with
    | none => simp [CloudRecord.hasId, none] at shown
    | some cloudId => rfl
  rw [homeId?, found]
  exact Option.isSome_iff_exists.mp named

/-- A record that is there waits from the beginning. -/
theorem waits_of_present (present : (start.cluster? id).isSome = true) : Waits id start start := by
  obtain ⟨r, found⟩ := Option.isSome_iff_exists.mp present
  obtain ⟨named, front, back, split, foreign⟩ := List.find?_eq_some_iff_append.mp found
  refine ⟨front, r, back, split, fun q member => ?_, of_decide_eq_true named, .inl split⟩
  have other := foreign q member
  simpa using other

/-- What waits is there. -/
theorem Waits.present (h : Waits id start s) : (s.cluster? id).isSome = true := by
  obtain ⟨front, r, back, -, -, named, same | changed⟩ := h
  · refine List.find?_isSome.mpr ⟨r, ?_, decide_eq_true named⟩
    rw [same]
    exact List.mem_append_right front List.mem_cons_self
  · refine List.find?_isSome.mpr ⟨unmanaged r, ?_, decide_eq_true named⟩
    rw [changed]
    exact List.mem_append_right front List.mem_cons_self

/-- What waits may be unmanaged, and waits on. -/
theorem Waits.unmanage (h : Waits id start s)
    (changed : modifyFirst id unmanaged s.clusters = some t.clusters) : Waits id start t := by
  obtain ⟨front, r, back, split, foreign, named, same | before⟩ := h
  · rw [same, modifyFirst_append foreign named] at changed
    exact ⟨front, r, back, split, foreign, named, .inr (Option.some.inj changed).symm⟩
  · have still : (unmanaged r).id = some id := named
    rw [before] at changed
    have again := (modifyFirst_append foreign still).symm.trans changed
    exact ⟨front, r, back, split, foreign, named, .inr (Option.some.inj again).symm⟩

/-- What waits may be deleted, and is gone then. -/
theorem Waits.delete (h : Waits id start s) (deleted : t.clusters = s.without id) :
    Gone id start t := by
  obtain ⟨front, r, back, split, -, named, same | changed⟩ := h
  · rw [Gone, deleted, without, without, same, split]
  · have still : (unmanaged r).id = some id := named
    rw [Gone, deleted, without, without, changed, split, filter_ne_append_cons named]
    exact filter_ne_append_cons still

theorem Gone.not_mem (h : Gone id start s) (member : r ∈ s.clusters) : r.id ≠ some id := by
  rw [h] at member
  simpa using (List.mem_filter.mp member).2

/-- What is gone cannot be unmanaged. -/
theorem Gone.not_unmanage (h : Gone id start s) {clusters : List ClusterRecord} :
    modifyFirst id unmanaged s.clusters ≠ some clusters := by
  intro changed
  obtain ⟨front, r, back, split, named, -⟩ := modifyFirst_eq_some changed
  have member : r ∈ s.clusters := by
    rw [split]
    exact List.mem_append_right front List.mem_cons_self
  exact h.not_mem member named

end Inventory.Store

namespace Registration

/-! ## Stores that acknowledge what they do -/

/-- What a step does to the contents of a store that may be out of reach: what has been carried
out is answered, and what has failed has changed nothing. -/
inductive Acknowledges : Store → Step → Store → Prop
  | answered {s t : Store} {scope : Scope} {call : Call} {a : call.Answer}
      (effect : s.Effect call a t) : Acknowledges s (.call scope call (.ok a)) t
  | failed {s : Store} {scope : Scope} {call : Call} {e : Failure} :
      Acknowledges s (.call scope call (.error e)) s
  | now {s : Store} {shown : Instant} : Acknowledges s (.now shown) s
  | pause {s : Store} {time : Duration} : Acknowledges s (.pause time) s

theorem Answers.acknowledges {s t : Store} {step : Step} (h : Answers s step t) :
    Acknowledges s step t := by
  cases h with
  | answered effect => exact .answered effect
  | refused => exact .failed
  | now => exact .now
  | pause => exact .pause

theorem moves_acknowledges {pacing : Pacing} {off : Nat → Bool} {s t : Nat × Store × Timeline}
    {step : Step} (h : (switched pacing off).Moves s step t) :
    Acknowledges s.2.1.contents step t.2.1.contents := by
  cases h with
  | call scope c =>
      obtain ⟨n, store, timeline⟩ := s
      simp only [switched, inMemory]
      cases out : off n with
      | true =>
          rw [Store.perform_of_unavailable c { store with unavailable := true } rfl]
          exact .failed
      | false =>
          have reachable : { store with unavailable := false }.unavailable = false := rfl
          exact (answers_perform scope c reachable).1.acknowledges
  | now => exact .now
  | pause => exact .pause

/-- The inventory is not switched off before any of the calls made between these two states. -/
def StaysOn (off : Nat → Bool) (s t : Nat × Store × Timeline) : Prop :=
  ∀ n, s.1 ≤ n → n < t.1 → off n = false

/-- An inventory that stays on answers. -/
theorem along_answers_of_staysOn {pacing : Pacing} {off : Nat → Bool}
    {s t : Nat × Store × Timeline} {steps : List Step}
    (h : Along (switched pacing off).Moves s steps t) :
    s.1 ≤ t.1 ∧ (StaysOn off s t → Along Answers s.2.1.contents steps t.2.1.contents) := by
  induction h with
  | nil s => exact ⟨Nat.le_refl _, fun _ => .nil _⟩
  | @cons s t u step steps first rest ih =>
      cases first with
      | call scope c =>
          obtain ⟨n, store, timeline⟩ := s
          have counted : n + 1 ≤ u.1 := ih.1
          refine ⟨Nat.le_of_succ_le counted, fun on => .cons ?_ (ih.2 ?_)⟩
          · have reachable : { store with unavailable := off n }.unavailable = false :=
              on n (Nat.le_refl n) counted
            exact (answers_perform scope c reachable).1
          · exact fun m behind => on m (Nat.le_of_succ_le behind)
      | now => exact ⟨ih.1, fun on => .cons .now (ih.2 on)⟩
      | pause => exact ⟨ih.1, fun on => .cons .pause (ih.2 on)⟩

section

variable {id : String} {start s t : Store} {scope : Scope} {step : Step} {steps : List Step}

/-! ## What one unregistration does -/

/-- The step is one that the unregistration of this cluster takes. -/
def Step.Withdraws (id : String) : Step → Prop
  | .call _ .listClouds _ => True
  | .call _ (.unmanage other) _ | .call _ (.deleteCluster _ other) _ => other = id
  | .call _ _ _ => False
  | .now _ | .pause _ => True

/-- The step asks for the clouds at most. -/
def Step.Looks : Step → Prop
  | .call _ .listClouds _ | .now _ | .pause _ => True
  | .call _ _ _ => False

theorem Step.Looks.withdraws (h : step.Looks) : step.Withdraws id := by
  cases step with
  | call scope call answer => cases call <;> first | exact h.elim | trivial
  | now | pause => trivial

theorem Acknowledges.eq_of_looks (h : Acknowledges s step t) (looks : step.Looks) : t = s := by
  cases h with
  | answered effect => cases effect <;> first | exact looks.elim | rfl
  | failed | now | pause => rfl

theorem Acknowledges.spares (h : Acknowledges s step t) (withdraws : step.Withdraws id)
    (spared : Store.Spares id start s) : Store.Spares id start t := by
  obtain ⟨clouds, others, issued, writes, logged, only⟩ := spared
  cases h with
  | answered effect =>
      cases effect with
      | cloudsListed => exact ⟨clouds, others, issued, writes, logged, only⟩
      | @clusterUnmanaged other clusters changed =>
          obtain rfl := withdraws
          refine ⟨clouds, others ▸ ?_, issued, writes ++ [.unmanage other], ?_, ?_⟩
          · refine Store.filter_modifyFirst changed fun r _ named => ?_
            exact ⟨by simp [named], by simp [Store.unmanaged, named]⟩
          · rw [logged, List.append_assoc]
          · exact List.forall_mem_append.mpr ⟨only, List.forall_mem_singleton.mpr (.inl rfl)⟩
      | @clusterDeleted cloudId other =>
          obtain rfl := withdraws
          refine ⟨clouds, others ▸ ?_, issued, writes ++ [.deleteCluster other], ?_, ?_⟩
          · simp [Store.without]
          · rw [logged, List.append_assoc]
          · exact List.forall_mem_append.mpr ⟨only, List.forall_mem_singleton.mpr (.inr rfl)⟩
      | _ => exact withdraws.elim
  | failed | now | pause => exact ⟨clouds, others, issued, writes, logged, only⟩

/-- A record that is gone stays so. -/
theorem Acknowledges.gone (h : Acknowledges s step t) (withdraws : step.Withdraws id)
    (gone : Store.Gone id start s) : Store.Gone id start t := by
  cases h with
  | answered effect =>
      cases effect with
      | cloudsListed => exact gone
      | clusterUnmanaged changed =>
          obtain rfl := withdraws
          exact absurd changed gone.not_unmanage
      | clusterDeleted =>
          obtain rfl := withdraws
          rw [Store.Gone, ← gone]
          exact List.filter_eq_self.mpr fun r member => decide_eq_true (gone.not_mem member)
      | _ => exact withdraws.elim
  | failed | now | pause => exact gone

theorem PollPath.looks {interval : Duration} {out : Except PollFailure (Option CloudRecord)}
    (path : PollPath (findPrivateCloud scope) interval steps out) : ∀ step ∈ steps, step.Looks := by
  have round {first : List Step} {result : Except Failure (Option CloudRecord)}
      (tried : (findPrivateCloud scope).run.Takes first result) : ∀ step ∈ first, step.Looks := by
    obtain ⟨answer, rfl, -⟩ := findPrivateCloud_takes tried
    exact List.forall_mem_singleton.mpr trivial
  induction path with
  | exhausted => exact fun step member => absurd member List.not_mem_nil
  | succeeded tried => exact round tried
  | abandoned tried =>
      exact List.forall_mem_append.mpr ⟨round tried, List.forall_mem_singleton.mpr trivial⟩
  | again tried _ ih =>
      refine List.forall_mem_append.mpr ⟨round tried, List.forall_mem_cons.mpr ⟨trivial, ?_⟩⟩
      exact List.forall_mem_cons.mpr ⟨trivial, ih⟩

/-- A poll for the clouds leaves a store as it is. -/
theorem PollPath.throughout {interval : Duration} {out : Except PollFailure (Option CloudRecord)}
    {I : Store → Prop} {started : Instant}
    (path : PollPath (findPrivateCloud scope) interval steps out) (holds : I s) :
    Throughout Acknowledges I s (.now started :: steps) := by
  have looks : ∀ step ∈ Step.now started :: steps, step.Looks :=
    List.forall_mem_cons.mpr ⟨trivial, path.looks⟩
  refine Throughout.of_keeps (fun s step t member holds moved => ?_) holds
  exact moved.eq_of_looks (looks step member) ▸ holds

variable {cluster : LocalCluster} {settings : Settings} {interval : Duration}
variable {out : Except Failure Unit}

theorem UnregistrationPath.withdraws
    (path : UnregistrationPath cluster settings interval id steps out) :
    ∀ step ∈ steps, step.Withdraws id := by
  have polls {scope : Scope} {polled : List Step} {result : Except PollFailure (Option CloudRecord)}
      (poll : PollPath (findPrivateCloud scope) interval polled result) :
      ∀ step ∈ polled, step.Withdraws id := fun step member => (poll.looks step member).withdraws
  cases path with
  | unacting => exact fun step member => absurd member List.not_mem_nil
  | unlisted _ poll | homeless _ poll => exact List.forall_mem_cons.mpr ⟨trivial, polls poll⟩
  | kept _ poll =>
      refine List.forall_mem_cons.mpr ⟨trivial, List.forall_mem_append.mpr ⟨polls poll, ?_⟩⟩
      exact List.forall_mem_singleton.mpr rfl
  | unmanaged _ poll =>
      refine List.forall_mem_cons.mpr ⟨trivial, List.forall_mem_append.mpr ⟨polls poll, ?_⟩⟩
      exact List.forall_mem_cons.mpr ⟨rfl, List.forall_mem_singleton.mpr rfl⟩

/-- Until its last step has been taken, an unregistration leaves the record waiting; and so does
the last step, unless it succeeds. -/
theorem UnregistrationPath.waits
    (path : UnregistrationPath cluster settings interval id steps out)
    (waits : Store.Waits id start s) :
    Throughout Acknowledges (Store.Waits id start) s steps.dropLast ∧
      ∀ t, Along Acknowledges s steps t →
        (out = .ok () → Store.Gone id start t) ∧ (out ≠ .ok () → Store.Waits id start t) := by
  -- A way whose steps all leave the record waiting, and which fails.
  have failing {steps : List Step} {e : Failure}
      (keeps : Throughout Acknowledges (Store.Waits id start) s steps) :
      Throughout Acknowledges (Store.Waits id start) s steps.dropLast ∧
        ∀ t, Along Acknowledges s steps t →
          (Except.error e = .ok () → Store.Gone id start t) ∧
            (Except.error e ≠ .ok () → Store.Waits id start t) := by
    refine ⟨?_, fun t along => ⟨fun same => (nomatch same), fun _ => keeps.last along⟩⟩
    intro before after u split along
    obtain ⟨rest, whole⟩ := List.dropLast_prefix steps
    exact keeps before (after ++ rest) u
      (by rw [← List.append_assoc, ← split, whole]) along
  cases path with
  | unacting => exact failing (Throughout.nil_iff.mpr waits)
  | unlisted _ poll | homeless _ poll => exact failing (poll.throughout waits)
  | kept _ poll =>
      rw [← List.cons_append]
      refine failing ((poll.throughout waits).append fun u polled => ?_)
      have here := (poll.throughout waits).last polled
      refine Throughout.cons_iff.mpr ⟨here, fun v moved => Throughout.nil_iff.mpr ?_⟩
      cases moved
      exact here
  | @unmanaged acting started polled cloud cloudId out _ poll =>
      have keeps : Throughout Acknowledges (Store.Waits id start) s
          (.now started :: (polled ++ [.call acting (.unmanage id) (.ok ())])) := by
        rw [← List.cons_append]
        refine (poll.throughout waits).append fun u reached => ?_
        have here := (poll.throughout waits).last reached
        refine Throughout.cons_iff.mpr ⟨here, fun v moved => Throughout.nil_iff.mpr ?_⟩
        cases moved with
        | answered effect =>
            cases effect with
            | clusterUnmanaged changed => exact here.unmanage changed
      have split : Step.now started :: (polled ++ [.call acting (.unmanage id) (.ok ()),
          .call acting (.deleteCluster cloudId id) out]) =
          .now started :: (polled ++ [.call acting (.unmanage id) (.ok ())]) ++
            [.call acting (.deleteCluster cloudId id) out] := by simp
      rw [split, List.dropLast_concat]
      refine ⟨keeps, fun t along => ?_⟩
      obtain ⟨u, first, last⟩ := along_append_iff.mp along
      have here := keeps.last first
      cases along_singleton_iff.mp last with
      | answered effect =>
          cases effect with
          | clusterDeleted =>
              exact ⟨fun _ => here.delete rfl, fun other => absurd rfl other⟩
      | failed => exact ⟨fun same => (nomatch same), fun _ => here⟩

/-- What is gone stays so, and is not unregistered once more. -/
theorem UnregistrationPath.gone
    (path : UnregistrationPath cluster settings interval id steps out)
    (gone : Store.Gone id start s) :
    Throughout Acknowledges (Store.Gone id start) s steps ∧
      ∀ t, Along Acknowledges s steps t → out ≠ .ok () := by
  refine ⟨Throughout.of_keeps (fun s step t member gone moved =>
    moved.gone (path.withdraws step member) gone) gone, fun t along => ?_⟩
  cases path with
  | unmanaged _ poll =>
      rw [← List.cons_append] at along
      obtain ⟨u, polled, behind⟩ := along_append_iff.mp along
      obtain ⟨v, moved, -⟩ := along_cons_iff.mp behind
      have here := (poll.throughout gone).last polled
      cases moved with
      | answered effect =>
          cases effect with
          | clusterUnmanaged changed => exact absurd changed here.not_unmanage
  | unacting | unlisted | homeless | kept => exact fun same => nomatch same

end

/-! ## Attempts -/

/-- An attempt to unregister a cluster: who makes it, with which settings, and how it polls. -/
structure Attempt where
  cluster : LocalCluster
  settings : Settings
  poll : PollPolicy

/-- The attempt to unregister the cluster with this id. -/
def Attempt.flow (id : String) (x : Attempt) : Flow (Except Failure Unit) :=
  (unregister x.cluster x.settings x.poll id).run

/-- Who makes the attempt knows an account and its token, and the clock can show when the poll
has to end. -/
structure Attempt.Able (x : Attempt) (timeline : Timeline) : Prop where
  account : x.settings.account ≠ ""
  secret : ∃ token, x.cluster.apiToken x.settings.tokenRef = .ok token
  timely : (timeline.now.add? x.poll.timeout).isSome = true

/-- Attempts that follow each other, and what each of them yields. -/
def withdrawals (id : String) : List Attempt → Flow (List (Except Failure Unit))
  | [] => .done []
  | x :: rest =>
    (x.flow id).bind fun result =>
      (withdrawals id rest).bind fun results => .done (result :: results)

section

variable {id : String} {start s t : Store} {steps : List Step} {attempts : List Attempt}
variable {results : List (Except Failure Unit)}

/-- The record waits until an attempt succeeds, which no more than one does. -/
theorem withdrawals_course (start : Store) (takes : (withdrawals id attempts).Takes steps results)
    (along : Along Acknowledges s steps t) :
    (Store.Gone id start s → Store.Gone id start t ∧ .ok () ∉ results) ∧
    (Store.Waits id start s →
      (.ok () ∈ results → Store.Gone id start t) ∧
      (.ok () ∉ results → Store.Waits id start t)) := by
  induction attempts generalizing s steps results with
  | nil =>
      obtain ⟨rfl, rfl⟩ := Flow.takes_done_iff.mp takes
      obtain rfl := along_nil_iff.mp along
      exact ⟨fun gone => ⟨gone, List.not_mem_nil⟩,
        fun waits => ⟨fun member => absurd member List.not_mem_nil, fun _ => waits⟩⟩
  | cons x rest ih =>
      obtain ⟨first, result, behind, rfl, head, takes⟩ := takes.of_bind
      obtain ⟨second, results, last, rfl, tail, takes⟩ := takes.of_bind
      obtain ⟨rfl, rfl⟩ := Flow.takes_done_iff.mp takes
      rw [List.append_nil] at along
      obtain ⟨u, left, right⟩ := along_append_iff.mp along
      have path := unregister_takes head
      obtain ⟨whenGone, whenWaiting⟩ := ih tail right
      refine ⟨fun gone => ?_, fun waits => ?_⟩
      · obtain ⟨keeps, fails⟩ := path.gone gone
        obtain ⟨gone, others⟩ := whenGone (keeps.last left)
        refine ⟨gone, fun member => ?_⟩
        rcases List.mem_cons.mp member with same | member
        · exact fails u left same.symm
        · exact others member
      · obtain ⟨succeeded, failed⟩ := (path.waits waits).2 u left
        by_cases result = .ok ()
        case pos same =>
          refine ⟨fun _ => (whenGone (succeeded same)).1, fun none => ?_⟩
          exact absurd (List.mem_cons.mpr (.inl same.symm)) none
        case neg other =>
          obtain ⟨removed, kept⟩ := whenWaiting (failed other)
          refine ⟨fun member => ?_, fun none => ?_⟩
          · rcases List.mem_cons.mp member with same | member
            · exact absurd same.symm other
            · exact removed member
          · exact kept fun member => none (List.mem_cons_of_mem _ member)

theorem withdrawals_withdraw (takes : (withdrawals id attempts).Takes steps results) :
    ∀ step ∈ steps, step.Withdraws id := by
  induction attempts generalizing steps results with
  | nil =>
      obtain ⟨rfl, -⟩ := Flow.takes_done_iff.mp takes
      exact fun step member => absurd member List.not_mem_nil
  | cons x rest ih =>
      obtain ⟨first, result, behind, rfl, head, takes⟩ := takes.of_bind
      obtain ⟨second, results, last, rfl, tail, takes⟩ := takes.of_bind
      obtain ⟨rfl, -⟩ := Flow.takes_done_iff.mp takes
      rw [List.append_nil]
      exact List.forall_mem_append.mpr ⟨(unregister_takes head).withdraws, ih tail⟩

theorem spares_of_withdraws (withdraw : ∀ step ∈ steps, step.Withdraws id)
    (spared : Store.Spares id start s) :
    Throughout Acknowledges (Store.Spares id start) s steps :=
  Throughout.of_keeps (fun _ step _ member spared moved =>
    moved.spares (withdraw step member) spared) spared

end

/-! ## Moments of a run -/

namespace Flow

variable {α σ : Type} {h : Handler σ}

theorem states_ne_nil (x : Flow α) (s : σ) : x.states h s ≠ [] := by
  cases x <;> exact List.cons_ne_nil _ _

/-- Every state of a run but the last one is passed in front of one of its steps. -/
theorem exists_along_of_mem_dropLast_states (x : Flow α) {s t : σ}
    (member : t ∈ (x.states h s).dropLast) :
    ∃ before step after, x.trace h s = before ++ step :: after ∧ Along h.Moves s before t := by
  have onwards {s s' : σ} {step : Step} {steps : List Step} {states : List σ}
      (first : h.Moves s step s') (more : states ≠ []) (member : t ∈ (s :: states).dropLast)
      (later : t ∈ states.dropLast →
        ∃ before next after, steps = before ++ next :: after ∧ Along h.Moves s' before t) :
      ∃ before next after, step :: steps = before ++ next :: after ∧ Along h.Moves s before t := by
    rw [List.dropLast_cons_of_ne_nil more] at member
    rcases List.mem_cons.mp member with rfl | member
    · exact ⟨[], step, steps, rfl, .nil t⟩
    · obtain ⟨before, next, after, rfl, along⟩ := later member
      exact ⟨step :: before, next, after, rfl, .cons first along⟩
  induction x generalizing s with
  | done a => exact absurd member List.not_mem_nil
  | call scope c next ih =>
      exact onwards (.call s scope c) (states_ne_nil _ _) member fun member => ih _ member
  | now next ih => exact onwards (.now s) (states_ne_nil _ _) member fun member => ih _ member
  | pause d next ih =>
      exact onwards (.pause s d) (states_ne_nil _ _) member fun member => ih _ member

end Flow

/-- How an attempt goes on from former ones. `before` is what those have yielded and the state
behind them; `after` is the same for the attempt, which passes through `moments`. All other
clusters and all clouds are as they were in the beginning. If one of the former attempts has
succeeded, the cluster is gone throughout; otherwise it is there, the same or unmanaged, until the
attempt succeeds, and is gone then. The attempt succeeds when it is able to and the inventory
stays on. -/
structure GoesOn (off : Nat → Bool) (id : String) (start : Store) (next : Attempt)
    (before : List (Except Failure Unit) × Nat × Store × Timeline)
    (after : Except Failure Unit × Nat × Store × Timeline)
    (moments : List (Nat × Store × Timeline)) : Prop where
  spares : ∀ state ∈ moments, Store.Spares id start state.2.1
  gone : .ok () ∈ before.1 → ∀ state ∈ moments, Store.Gone id start state.2.1
  waits : .ok () ∉ before.1 → ∀ state ∈ moments.dropLast, Store.Waits id start state.2.1
  kept : .ok () ∉ before.1 → after.1 ≠ .ok () → Store.Waits id start after.2.2.1
  removed : .ok () ∉ before.1 → after.1 = .ok () → Store.Gone id start after.2.2.1
  succeeds : .ok () ∉ before.1 → next.Able before.2.2.2 → StaysOn off before.2 after.2 →
    after.1 = .ok ()

/-- An interrupted unregistration can be resumed. Take a store with a private cloud that has an
id, and with a cluster that has this id. Let anyone try to unregister the cluster, any number of
times, while the inventory is switched off and on again before any of the calls; then one more
attempt goes on from there. -/
theorem interrupted_unregistrations_resume (pacing : Pacing) (off : Nat → Bool) (start : Store)
    (timeline : Timeline) (id : String) (attempts : List Attempt) (next : Attempt)
    (home : ∃ cloud ∈ start.clouds, cloud.isPrivate = true ∧ cloud.hasId = true)
    (present : (start.cluster? id).isSome = true) :
    let inventory := switched pacing off
    let before := (withdrawals id attempts).run inventory (0, start, timeline)
    let after := (next.flow id).run inventory before.2
    GoesOn off id start next before after ((next.flow id).states inventory before.2) := by
  intro inventory before after
  let view (state : Nat × Store × Timeline) : Store := state.2.1.contents
  have follow : ∀ s step t, inventory.Moves s step t → Acknowledges (view s) step (view t) :=
    fun _ _ _ => moves_acknowledges
  -- The former attempts.
  obtain ⟨formerly, taken, moved, -⟩ := Flow.exists_takes_run inventory (withdrawals id attempts)
    (0, start, timeline)
  have former : Along Acknowledges start.contents formerly (view before.2) := moved.map view follow
  obtain ⟨-, course⟩ := withdrawals_course start taken former
  obtain ⟨gone, waits⟩ := course (Store.waits_of_present present)
  have spared : Store.Spares id start.contents (view before.2) :=
    (spares_of_withdraws (withdrawals_withdraw taken) (.refl id start.contents)).last former
  -- The attempt that follows them.
  have takes := Flow.takes_trace inventory (next.flow id) before.2
  have moves := Flow.along_trace inventory (next.flow id) before.2
  have along : Along Acknowledges (view before.2) _ (view after.2) := moves.map view follow
  have path := unregister_takes takes
  constructor
  case spares =>
    intro state member
    obtain ⟨front, back, split, reached⟩ := Flow.exists_along_of_mem_states inventory _ member
    have everything := spares_of_withdraws path.withdraws spared
    exact (everything front back (view state) split (reached.map view follow)).of_contents
  case gone =>
    intro succeeded state member
    obtain ⟨front, back, split, reached⟩ := Flow.exists_along_of_mem_states inventory _ member
    have everything := (path.gone (gone succeeded)).1
    exact everything front back (view state) split (reached.map view follow)
  case waits =>
    intro failed state member
    obtain ⟨front, step, back, split, reached⟩ :=
      Flow.exists_along_of_mem_dropLast_states _ member
    have inside : ((next.flow id).trace inventory before.2).dropLast =
        front ++ (step :: back).dropLast := by
      rw [split, List.dropLast_append_of_ne_nil (List.cons_ne_nil step back)]
    exact (path.waits (waits failed)).1 front _ (view state) inside (reached.map view follow)
  case kept => exact fun failed => ((path.waits (waits failed)).2 (view after.2) along).2
  case removed => exact fun failed => ((path.waits (waits failed)).2 (view after.2) along).1
  case succeeds =>
    intro failed able on
    obtain ⟨token, secret⟩ := able.secret
    have acting := knownScope_of_token able.account secret
    have tries (started : Instant) : (next.flow id).trace inventory before.2 ≠ [.now started] := by
      intro idle
      rw [idle] at moves takes
      obtain ⟨_, read, -⟩ := along_cons_iff.mp moves
      cases read with
      | now => exact unregister_tries acting able.timely takes
    obtain ⟨cloudId, found⟩ := Store.exists_homeId? home
    have there : (view before.2).homeId? = some cloudId := by
      rw [Store.homeId?, spared.clouds]
      exact found
    have answered := (along_answers_of_staysOn moves).2 on
    exact ((path.of_answers acting tries (waits failed).present answered).1 cloudId there).1

/-- The deletion is cut off, and made up for by the next attempt. -/
theorem cut_off_deletion_is_made_up :
    let start : Store := {
      clouds := [{ id := some "aws" }, { CloudRecord.privateCloud with id := some "home" }]
      clusters := [{ id := some "other" },
        { id := some "id", identity := "identity", managedState := .known .managed }] }
    let x : Attempt :=
      ⟨⟨fun _ => .ok "token", .ok {}, .ok "identity"⟩, { account := "account" }, .standard⟩
    let inventory := switched .virtual (· = 2)
    let before := (withdrawals "id" [x]).run inventory (0, start, {})
    let after := (x.flow "id").run inventory before.2
    ((∃ cloud ∈ start.clouds, cloud.isPrivate = true ∧ cloud.hasId = true) ∧
      (start.cluster? "id").isSome = true ∧ .ok () ∉ before.1 ∧
      (before.2.2.1.cluster? "id").map (·.managedState) = some (.known .unmanaged) ∧
      x.Able before.2.2.2 ∧ StaysOn (· = 2) before.2 after.2 ∧ after.1 = .ok ()) ∧
    GoesOn (· = 2) "id" start x before after ((x.flow "id").states inventory before.2) := by
  intro start x inventory before after
  have home : ∃ cloud ∈ start.clouds, cloud.isPrivate = true ∧ cloud.hasId = true := by decide
  have present : (start.cluster? "id").isSome = true := by decide
  have failed : .ok () ∉ before.1 := by decide +kernel
  have unmanaged : (before.2.2.1.cluster? "id").map (·.managedState) = some (.known .unmanaged) := by
    decide +kernel
  have able : x.Able before.2.2.2 := ⟨by decide, ⟨"token", rfl⟩, by decide +kernel⟩
  have on : StaysOn (· = 2) before.2 after.2 := by
    have calls : before.2.1 = 3 := by decide +kernel
    intro n later _
    rw [calls] at later
    exact decide_eq_false (by omega)
  have resumes := interrupted_unregistrations_resume .virtual (· = 2) start {} "id" [x] x home
    present
  have succeeded : after.1 = .ok () := by decide +kernel
  exact ⟨⟨home, present, failed, unmanaged, able, on, succeeded⟩, resumes⟩

end Registration

end Enrollment
