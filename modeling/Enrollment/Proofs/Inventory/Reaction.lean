import Enrollment.Proofs.Flow.Steps
import Enrollment.Proofs.Inventory.Effect

/-!
# How a store reacts to a step

A store may answer a call, it may carry the call out and still be taken to have failed, or it
may fail and stay as it is. `Reacts` allows all three, so that what is proved of it holds of an
inventory that is out of reach at times, and of one whose answers get lost.
-/

namespace Enrollment.Inventory.Store

/-- What a store holds, whatever has been read of it and whether it can be reached. -/
def contents (s : Store) : Store := { s with reads := 0, unavailable := false }

@[simp] theorem clouds_contents (s : Store) : s.contents.clouds = s.clouds := rfl

@[simp] theorem clusters_contents (s : Store) : s.contents.clusters = s.clusters := rfl

/-- An answer depends on what a store holds, and on nothing else. -/
theorem answer_contents (s : Store) (call : Call) :
    s.contents.answer call = (s.answer call).map fun a => (a.1, a.2.contents) := by
  cases call with
  | getCloud id =>
      simp only [answer, cloud?, clouds_contents]
      cases s.clouds.find? _ <;> rfl
  | listClouds | listClusters => rfl
  | getCluster _ id | getManagedCluster id =>
      simp only [answer, cluster?, clusters_contents]
      cases s.clusters.find? _ <;> rfl
  | createCloud cloud =>
      simp only [answer]
      split <;> rfl
  | createCluster cloudId cluster =>
      simp only [answer]
      split <;> rfl
  | updateCluster _ cluster =>
      simp only [answer, clusters_contents]
      cases cluster.id with
      | none => rfl
      | some id =>
          dsimp only
          cases modifyFirst id (updated cluster) s.clusters <;> rfl
  | promote cluster =>
      simp only [answer, clusters_contents]
      split
      · rfl
      · cases modifyFirst cluster.idText (promoted cluster) s.clusters <;> rfl
  | unmanage id =>
      simp only [answer, clusters_contents]
      cases modifyFirst id unmanaged s.clusters <;> rfl
  | deleteCluster _ id =>
      have same : s.contents.cluster? id = s.cluster? id := rfl
      by_cases gone : (s.cluster? id).isNone = true
      · simp only [answer, same, if_pos gone]
        rfl
      · simp only [answer, same, if_neg gone]
        rfl

/-- What comes of a call. A store that is unavailable refuses it. A store that can be reached fails
for the reason that what it holds gives, and holds the same; or the call has its effect. -/
inductive Performs (s : Store) (call : Call) : Except Failure call.Answer → Store → Prop
  | unavailable (off : s.unavailable = true) :
      Performs s call
        (.error (.unexpectedStatus .serviceUnavailable (.unavailable call.operation))) s
  | failed {e : Failure} {t : Store} (on : s.unavailable = false)
      (why : s.contents.answer call = .error e) (same : t.contents = s.contents)
      (still : t.unavailable = false) : Performs s call (.error e) t
  | done {a : call.Answer} {t : Store} (on : s.unavailable = false)
      (effect : s.contents.Effect call a t.contents) (still : t.unavailable = false) :
      Performs s call (.ok a) t

theorem performs (call : Call) (s : Store) :
    Performs s call (perform call s).1 (perform call s).2 := by
  cases reachable : s.unavailable with
  | true =>
      rw [perform_of_unavailable call s reachable]
      exact .unavailable reachable
  | false =>
      let counted := if isRead call then { s with reads := s.reads + 1 } else s
      have same : counted.contents = s.contents ∧ counted.unavailable = false := by
        unfold counted
        split
        · exact ⟨rfl, reachable⟩
        · exact ⟨rfl, reachable⟩
      have available : ¬ s.unavailable = true := by simp [reachable]
      have answer := answer_contents counted call
      rw [same.1] at answer
      cases found : counted.answer call with
      | error e =>
          have performed : perform call s = (.error e, counted) := by
            unfold perform
            rw [if_neg available]
            dsimp only
            rw [found]
          rw [found] at answer
          rw [performed]
          exact .failed reachable answer same.1 same.2
      | ok result =>
          have performed : perform call s = (.ok result.1, result.2) := by
            unfold perform
            rw [if_neg available]
            dsimp only
            rw [found]
          have still := (effect_of_answer found).unavailable_eq
          rw [found] at answer
          rw [performed]
          exact .done reachable (effect_of_answer answer) (still.trans same.2)

end Enrollment.Inventory.Store

namespace Enrollment.Registration

open Inventory

/-- What a step may do to the contents of a store. -/
inductive Reacts : Store → Step → Store → Prop
  | answered {s t : Store} {scope : Scope} {call : Call} {a : call.Answer}
      (effect : s.Effect call a t) : Reacts s (.call scope call (.ok a)) t
  | unacknowledged {s t : Store} {scope : Scope} {call : Call} {a : call.Answer} {e : Failure}
      (effect : s.Effect call a t) : Reacts s (.call scope call (.error e)) t
  | failed {s : Store} {scope : Scope} {call : Call} {e : Failure} :
      Reacts s (.call scope call (.error e)) s
  | now {s : Store} {shown : Instant} : Reacts s (.now shown) s
  | pause {s : Store} {time : Duration} : Reacts s (.pause time) s

/-- What a step does to the contents of a store that answers every call. -/
inductive Answers : Store → Step → Store → Prop
  | answered {s t : Store} {scope : Scope} {call : Call} {a : call.Answer}
      (effect : s.Effect call a t) : Answers s (.call scope call (.ok a)) t
  | refused {s : Store} {scope : Scope} {call : Call} {e : Failure}
      (why : s.answer call = .error e) : Answers s (.call scope call (.error e)) s
  | now {s : Store} {shown : Instant} : Answers s (.now shown) s
  | pause {s : Store} {time : Duration} : Answers s (.pause time) s

theorem Answers.reacts {s t : Store} {step : Step} (h : Answers s step t) : Reacts s step t := by
  cases h with
  | answered effect => exact .answered effect
  | refused => exact .failed
  | now => exact .now
  | pause => exact .pause

/-- A store that can be reached answers, and can be reached afterwards. -/
theorem answers_perform (scope : Scope) (call : Call) {s : Store}
    (reachable : s.unavailable = false) :
    Answers s.contents (.call scope call (Store.perform call s).1)
      (Store.perform call s).2.contents ∧ (Store.perform call s).2.unavailable = false := by
  have performs := Store.performs call s
  generalize Store.perform call s = p at performs
  obtain ⟨out, t⟩ := p
  cases performs with
  | unavailable off => cases reachable.symm.trans off
  | failed _ why same still =>
      dsimp only
      rw [same]
      exact ⟨.refused why, still⟩
  | done _ effect still => exact ⟨.answered effect, still⟩

/-- The inventory in memory answers every call, as long as it can be reached. -/
theorem along_answers {pacing : Pacing} {s t : Store × Timeline} {steps : List Step}
    (reachable : s.1.unavailable = false) (h : Along (inMemory pacing).Moves s steps t) :
    Along Answers s.1.contents steps t.1.contents ∧ t.1.unavailable = false := by
  refine h.map_of (I := fun s => s.1.unavailable = false) (fun s => s.1.contents)
    (fun s step t reachable first => ?_) reachable
  cases first with
  | call scope c => exact answers_perform scope c reachable
  | now => exact ⟨.now, reachable⟩
  | pause => exact ⟨.pause, reachable⟩

/-- A call that a store carries out is a reaction of what it holds. -/
theorem reacts_perform (scope : Scope) (call : Call) (s : Store) :
    Reacts s.contents (.call scope call (Store.perform call s).1)
      (Store.perform call s).2.contents := by
  cases reachable : s.unavailable with
  | true =>
      rw [Store.perform_of_unavailable call s reachable]
      exact .failed
  | false => exact (answers_perform scope call reachable).1.reacts

/-- So is every step that the inventory in memory takes part in. -/
theorem moves_reacts {pacing : Pacing} {s t : Store × Timeline} {step : Step}
    (h : (inMemory pacing).Moves s step t) : Reacts s.1.contents step t.1.contents := by
  cases h with
  | call scope c => exact reacts_perform scope c s.1
  | now => exact .now
  | pause => exact .pause

end Enrollment.Registration
