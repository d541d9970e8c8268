import GatewayOperator.Proofs.Reconcile.Object
import GatewayOperator.Proofs.Store.Effect

/-!
# Steps of a pass

Every step of a pass is a program that writes at most once, and last: a convergence, a creation, a
deletion, a release of one binding, and the writes to the object itself. So a step that fails has
done nothing. The steps that others follow also fail when their writes are refused.
-/

namespace GatewayOperator

open StoreProgram

variable {k : Kind}

/-! ## Convergence -/

theorem writesLast_amend (key : Key) (mutate : Mutation k) (current : Resource k) :
    (amend key mutate current).WritesLast := by
  unfold amend
  cases mutated key mutate current with
  | error e => trivial
  | ok desired =>
    show WritesLast (if desired.sameAs current then _ else _)
    split
    · trivial
    · exact (writesLast_update desired).map fun _ => Outcome.updated

theorem heedsRefusals_amend (key : Key) (mutate : Mutation k) (current : Resource k) :
    (amend key mutate current).HeedsRefusals := by
  unfold amend
  refine HeedsRefusals.bind (p := StoreProgram.ofExcept _) trivial fun desired => ?_
  split
  · trivial
  · exact (heedsRefusals_ask (.update k desired)).bind fun _ => trivial

theorem writesLast_converge (key : Key) (mutate : Mutation k) :
    (converge k key mutate).WritesLast := by
  unfold converge
  refine writesLast_get_bind fun found => ?_
  cases found with
  | some current => exact writesLast_amend key mutate current
  | none =>
    show WritesLast (Program.bind (StoreProgram.ofExcept _) _)
    cases mutated key mutate (.empty k key) with
    | error e => trivial
    | ok desired =>
      refine writesLast_tryCreate_bind (fun _ => ⟨.created, rfl⟩) fun e => ?_
      cases e with
      | alreadyExists kind text =>
        refine writesLast_get_bind fun again => ?_
        cases again with
        | some current => exact writesLast_amend key mutate current
        | none => trivial
      | _ => trivial

theorem heedsRefusals_converge (key : Key) (mutate : Mutation k) :
    (converge k key mutate).HeedsRefusals := by
  unfold converge
  refine (heedsRefusals_ask (.get k key)).bind fun found => ?_
  cases found with
  | some current => exact heedsRefusals_amend key mutate current
  | none =>
    refine HeedsRefusals.bind (p := StoreProgram.ofExcept _) trivial fun desired => ?_
    refine heedsRefusals_tryCreate_bind (fun j => ⟨Server.writesRejected j, rfl⟩) fun a => ?_
    cases a with
    | ok stored => trivial
    | error e =>
      cases e with
      | alreadyExists kind text =>
        refine (heedsRefusals_ask (.get k key)).bind fun again => ?_
        cases again with
        | some current => exact heedsRefusals_amend key mutate current
        | none => trivial
      | _ => trivial

theorem writesLast_createIfAbsent (r : Resource k) : (createIfAbsent r).WritesLast := by
  unfold createIfAbsent
  refine writesLast_get_bind fun found => ?_
  cases found with
  | some current => trivial
  | none =>
    refine writesLast_tryCreate_bind (fun _ => ⟨.created, rfl⟩) fun e => ?_
    cases e <;> trivial

theorem heedsRefusals_createIfAbsent (r : Resource k) : (createIfAbsent r).HeedsRefusals := by
  unfold createIfAbsent
  refine (heedsRefusals_ask (.get k r.key)).bind fun found => ?_
  cases found with
  | some current => trivial
  | none =>
    refine heedsRefusals_tryCreate_bind (fun j => ⟨Server.writesRejected j, rfl⟩) fun a => ?_
    cases a with
    | ok stored => trivial
    | error e => cases e <;> trivial

/-! ## Targets -/

namespace Target

theorem writesLast_work (x : Target) : x.work.WritesLast := by
  cases x with
  | present r => exact (writesLast_createIfAbsent r).map fun _ => ()
  | settled d => exact (writesLast_converge d.key _).map fun _ => ()
  | absent k key => exact writesLast_delete key

theorem heedsRefusals_work (x : Target) : x.work.HeedsRefusals := by
  cases x with
  | present r => exact (heedsRefusals_createIfAbsent r).bind fun _ => trivial
  | settled d => exact (heedsRefusals_converge d.key _).bind fun _ => trivial
  | absent k key => exact heedsRefusals_ask (.delete k key)

end Target

/-! ## Releases -/

namespace Binding

theorem writesLast_handle (b : Binding) (account ns : String) (found : Option (Resource b.kind)) :
    (b.handle account ns found).WritesLast := by
  cases found with
  | none => trivial
  | some r =>
    unfold handle
    dsimp only
    split
    · exact (writesLast_update (b.pruned r account ns)).map fun _ => ()
    · trivial

theorem writesLast_release (b : Binding) (account ns : String) :
    (b.release account ns).WritesLast := by
  rw [release_eq]
  exact writesLast_get_bind (writesLast_handle b account ns)

theorem heedsRefusals_release (b : Binding) (account ns : String) :
    (b.release account ns).HeedsRefusals := by
  rw [release_eq]
  refine (heedsRefusals_ask (.get b.kind (b.key account ns))).bind fun found => ?_
  cases found with
  | none => trivial
  | some r =>
    unfold handle
    dsimp only
    split
    · exact (heedsRefusals_ask (.update b.kind (b.pruned r account ns))).bind fun _ => trivial
    · trivial

end Binding

/-! ## The object -/

theorem writesLast_addFinalizer (r : Resource k) (finalizer : String) :
    (addFinalizer r finalizer).WritesLast := by
  unfold addFinalizer
  split
  · trivial
  · exact (writesLast_update _).map some

theorem heedsRefusals_addFinalizer (r : Resource k) (finalizer : String) :
    (addFinalizer r finalizer).HeedsRefusals := by
  unfold addFinalizer
  split
  · trivial
  · exact (heedsRefusals_ask (.update k _)).bind fun _ => trivial

theorem writesLast_removeFinalizer (r : Resource k) (finalizer : String) :
    (removeFinalizer r finalizer).WritesLast := by
  unfold removeFinalizer
  split
  · exact (writesLast_update _).map fun _ => ()
  · trivial

theorem writesLast_recordStatus (r : Resource k) (account : String) :
    (recordStatus r account).WritesLast := by
  unfold recordStatus
  dsimp only
  split
  · trivial
  · exact (writesLast_updateStatus _).map fun _ => ()

end GatewayOperator
