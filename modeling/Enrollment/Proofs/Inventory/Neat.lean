import Enrollment.Proofs.Inventory.Effect
import Enrollment.Proofs.Record.RoundTrip
import Enrollment.Proofs.Url.Extension

/-!
# Stores whose records can be sent

A record can be sent without loss when its tags are proper, and it can be asked for when its id
is a segment that a URL takes as it is. A store is neat when this is so of all its records. The
calls that a registration makes keep a store neat, because the ids that a store draws are plain
themselves.
-/

namespace Enrollment

open Json

/-! ## Ids -/

/-- The id is a segment that a URL takes as it is. -/
def IsPlainId (id : String) : Prop := Url.IsPlain id.toList

instance (id : String) : Decidable (IsPlainId id) := inferInstanceAs (Decidable (Url.IsPlain _))

theorem IsPlainId.ne_empty {id : String} (plain : IsPlainId id) : id ≠ "" := by
  rintro rfl
  exact plain.nonempty rfl

/-- An id that is longer than two dots need only be unreserved. -/
theorem isPlainId_of_long {id : String} (long : 2 < id.toList.length)
    (unreserved : ∀ c ∈ id.toList, Url.isUnreserved c = true) : IsPlainId id := by
  have other (cs : List Char) (short : cs.length ≤ 2) : id.toList ≠ cs := by
    rintro rfl
    omega
  exact ⟨other [] (by decide), unreserved, other ['.'] (by decide), other ['.', '.'] (by decide)⟩

namespace Inventory.Store

theorem isUnreserved_of_mem_zeroPadded {width n : Nat} {c : Char}
    (member : c ∈ Duration.zeroPadded width n) : Url.isUnreserved c = true := by
  have digit : c.isDigit = true := by
    rcases List.mem_append.mp member with zero | digit
    · rw [List.eq_of_mem_replicate zero]
      rfl
    · exact Nat.isDigit_of_mem_toDigits (by decide) (by decide) digit
  simp [Url.isUnreserved, Char.isAlphanum, digit]

/-- The ids that a store draws are plain. -/
theorem isPlainId_idText {kind : String} (word : kind.toList.all Url.isUnreserved = true)
    (long : 2 < kind.toList.length) (n : Nat) : IsPlainId (idText kind n) := by
  apply isPlainId_of_long
  · rw [toList_idText, List.length_append]
    omega
  · rw [toList_idText]
    intro c member
    rcases List.mem_append.mp member with front | behind
    · exact List.all_eq_true.mp word c front
    · rcases List.mem_cons.mp behind with rfl | digit
      · rfl
      · exact isUnreserved_of_mem_zeroPadded digit

end Inventory.Store

/-! ## Records -/

/-- The record can be sent, and it can be asked for. -/
structure CloudRecord.IsNeat (r : CloudRecord) : Prop where
  proper : r.IsProper
  named : ∃ id, r.id = some id ∧ IsPlainId id

/-- The record can be sent, and it can be asked for in the cloud that it says it is in. -/
structure ClusterRecord.IsNeat (r : ClusterRecord) : Prop where
  proper : r.IsProper
  named : ∃ id, r.id = some id ∧ IsPlainId id
  housed : r.cloudId = "" ∨ IsPlainId r.cloudId

theorem Tag.isProper_known {κ : Type} [Vocabulary κ] (word : κ) : (known word).IsProper := by
  intro s same
  cases same

/-! Marking a record as one that is sent leaves its tags proper. -/

namespace ClusterRecord.IsProper

variable {r : ClusterRecord}

theorem stamped (proper : r.IsProper) : r.stamped.IsProper :=
  ⟨proper.state, proper.managedState, proper.desiredState, proper.install⟩

theorem withoutId (proper : r.IsProper) : { r with id := none }.IsProper :=
  ⟨proper.state, proper.managedState, proper.desiredState, proper.install⟩

theorem promotion (proper : r.IsProper) : r.promotion.IsProper :=
  ⟨proper.state, proper.managedState, Tag.isProper_known _, Tag.isProper_known _⟩

end ClusterRecord.IsProper

namespace Inventory

/-- Every record of the store is neat. -/
structure Store.IsNeat (s : Store) : Prop where
  clouds : ∀ r ∈ s.clouds, r.IsNeat
  clusters : ∀ r ∈ s.clusters, r.IsNeat

/-- What a call sends survives being sent, and the ids in its URL are plain. -/
def Call.IsNeat : Call → Prop
  | .getCloud id | .getManagedCluster id | .unmanage id => IsPlainId id
  | .listClouds | .listClusters => True
  | .createCloud cloud => cloud.IsProper ∧ cloud.id = none
  | .getCluster cloudId id | .deleteCluster cloudId id => IsPlainId cloudId ∧ IsPlainId id
  | .createCluster cloudId r => IsPlainId cloudId ∧ r.IsProper ∧ r.id = none
  | .updateCluster cloudId r => IsPlainId cloudId ∧ r.IsProper ∧ ∃ id, r.id = some id ∧ IsPlainId id
  | .promote r => r.IsProper ∧ ∃ id, r.id = some id ∧ IsPlainId id

namespace Store

variable {s t : Store} {call : Call} {a : call.Answer}

theorem forall_mem_modifyFirst {id : String} {f : ClusterRecord → ClusterRecord}
    {P : ClusterRecord → Prop} {before after : List ClusterRecord}
    (changed : modifyFirst id f before = some after) (keeps : ∀ r, P r → P (f r))
    (h : ∀ r ∈ before, P r) : ∀ r ∈ after, P r := by
  obtain ⟨front, r, back, rfl, -, rfl⟩ := modifyFirst_eq_some changed
  intro q member
  rcases List.mem_append.mp member with inFront | behind
  · exact h q (List.mem_append_left _ inFront)
  · rcases List.mem_cons.mp behind with rfl | inBack
    · exact keeps r (h r (List.mem_append_right _ List.mem_cons_self))
    · exact h q (List.mem_append_right _ (List.mem_cons_of_mem _ inBack))

/-- A neat call keeps a store neat. -/
theorem Effect.isNeat (h : s.Effect call a t) (sent : call.IsNeat) (neat : s.IsNeat) :
    t.IsNeat := by
  cases h with
  | cloudRead | cloudsListed | clustersListed | clusterRead | managedRead => exact neat
  | cloudCreated =>
      have plain : IsPlainId (s.nextId "cloud") := isPlainId_idText (by decide) (by decide) _
      refine ⟨fun r member => ?_, neat.clusters⟩
      rcases List.mem_append.mp member with old | new
      · exact neat.clouds r old
      · rw [List.mem_singleton.mp new]
        exact ⟨sent.1, _, rfl, plain⟩
  | clusterCreated =>
      have plain : IsPlainId (s.nextId "cluster") := isPlainId_idText (by decide) (by decide) _
      refine ⟨neat.clouds, fun r member => ?_⟩
      rcases List.mem_append.mp member with old | new
      · exact neat.clusters r old
      · rw [List.mem_singleton.mp new]
        obtain ⟨home, ⟨-, -, desired, install⟩, -⟩ := sent
        refine ⟨⟨?_, ?_, desired, install⟩, ⟨_, rfl, plain⟩, .inr home⟩
        · exact Tag.isProper_known _
        · exact Tag.isProper_known _
  | clusterUpdated named changed =>
      refine ⟨neat.clouds, forall_mem_modifyFirst changed (fun r neat => ?_) neat.clusters⟩
      obtain ⟨⟨state, managed, desired, install⟩, named, housed⟩ := neat
      exact ⟨⟨state, managed, desired, install⟩, named, housed⟩
  | clusterPromoted named changed =>
      refine ⟨neat.clouds, forall_mem_modifyFirst changed (fun r neat => ?_) neat.clusters⟩
      obtain ⟨⟨state, -, desired, -⟩, named, housed⟩ := neat
      exact ⟨⟨state, Tag.isProper_known _, desired, Tag.isProper_known _⟩, named, housed⟩
  | clusterUnmanaged changed =>
      refine ⟨neat.clouds, forall_mem_modifyFirst changed (fun r neat => ?_) neat.clusters⟩
      obtain ⟨⟨state, -, desired, install⟩, named, housed⟩ := neat
      exact ⟨⟨state, Tag.isProper_known _, desired, install⟩, named, housed⟩
  | clusterDeleted =>
      exact ⟨neat.clouds, fun r member => neat.clusters r (List.mem_filter.mp member).1⟩

end Store

end Inventory

end Enrollment
