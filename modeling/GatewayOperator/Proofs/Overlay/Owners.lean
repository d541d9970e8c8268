import GatewayOperator.Proofs.Overlay.Resource

/-!
# Owners after an overlay

Owner references accumulate: an overlay adds the desired ones whose uid is not there yet, and takes
none away. `Extends` says this of two lists of owners, together with where the new ones come from.
`AreApart` is what is left of "one controller" under such a merge: controllers have different uids,
and there may be as many of them as there are uids (`length_controllers_le_one`).
-/

namespace GatewayOperator

/-- Whether a reference claims to be the one that manages the object. -/
def OwnerReference.isController (o : OwnerReference) : Bool := o.controller == some true

namespace Metadata

/-- The owners of an object. -/
def owners (m : Metadata) : List OwnerReference := m.ownerReferences.getD []

/-- The owners that claim to manage the object. -/
def controllers (m : Metadata) : List OwnerReference := m.owners.filter (·.isController)

theorem mem_controllers {m : Metadata} {o : OwnerReference} :
    o ∈ m.controllers ↔ o ∈ m.owners ∧ o.isController = true := List.mem_filter

end Metadata

namespace OwnerReference

/-- Controllers with different uids. -/
def AreApart (os : List OwnerReference) : Prop :=
  os.Pairwise fun o p => o.isController = true → p.isController = true → o.uid ≠ p.uid

theorem areApart_addMissing {os : List OwnerReference} (h : AreApart os) (o : OwnerReference) :
    AreApart (addMissing sharesUid os o) := by
  unfold addMissing
  split
  · exact h
  · rename_i hmissing
    refine List.pairwise_append.2 ⟨h, List.pairwise_singleton _ _, fun p hp q hq _ _ hsame => ?_⟩
    obtain rfl := List.mem_singleton.1 hq
    exact hmissing (List.any_eq_true.2 ⟨p, hp, by simpa [sharesUid] using hsame⟩)

theorem areApart_foldl_addMissing {os : List OwnerReference} (h : AreApart os)
    (refs : List OwnerReference) : AreApart (refs.foldl (addMissing sharesUid) os) := by
  induction refs generalizing os with
  | nil => exact h
  | cons o refs ih => exact ih (areApart_addMissing h o)

/-- What may become of the owners of an object: those that are there stay, and some may come that
are eligible. -/
structure Extends (eligible : OwnerReference → Prop) (before after : List OwnerReference) :
    Prop where
  kept : ∀ o ∈ before, o ∈ after
  added : ∀ o ∈ after, o ∈ before ∨ eligible o
  apart : AreApart before → AreApart after

variable {eligible : OwnerReference → Prop}

theorem Extends.refl (os : List OwnerReference) : Extends eligible os os :=
  ⟨fun _ h => h, fun _ h => Or.inl h, id⟩

/-- A first owner. -/
theorem extends_singleton {o : OwnerReference} (h : eligible o) : Extends eligible [] [o] := by
  refine ⟨fun _ hnone => absurd hnone List.not_mem_nil, fun p hp => ?_,
    fun _ => List.pairwise_singleton _ _⟩
  obtain rfl := List.mem_singleton.1 hp
  exact Or.inr h

theorem extends_mergeOwners {current desired : Option (List OwnerReference)}
    (h : ∀ o ∈ desired.getD [], eligible o) :
    Extends eligible (current.getD []) ((mergeOwners current desired).getD []) := by
  cases desired with
  | none => exact .refl _
  | some refs =>
    rw [mergeOwners_some, Option.getD_some]
    refine ⟨fun o ho => mem_foldl_addMissing sharesUid ho, fun o ho => ?_,
      fun hapart => areApart_foldl_addMissing hapart refs⟩
    exact (mem_of_mem_foldl_addMissing sharesUid ho).imp_right (h o)

end OwnerReference

namespace Resource

open OwnerReference

variable {k : Kind}

/-- The owners after an overlay are those that were there and desired ones. -/
theorem extends_overlay {eligible : OwnerReference → Prop} (live : Resource k) {d : Resource k}
    (h : ∀ o ∈ d.metadata.owners, eligible o) :
    Extends eligible live.metadata.owners (live.overlay d).metadata.owners := by
  have howners : (live.overlay d).metadata.ownerReferences =
      (live.metadata.overlay d.metadata).ownerReferences := by
    -- a stamp is an annotation
    rcases overlay_stamps live d with heq | ⟨body, heq⟩ <;> rw [heq]
    rfl
  unfold Metadata.owners
  rw [howners]
  exact extends_mergeOwners h

end Resource

theorem areApart_iff {m : Metadata} :
    OwnerReference.AreApart m.owners ↔ m.controllers.Pairwise fun o p => o.uid ≠ p.uid :=
  List.pairwise_filter.symm

theorem areApart_of_length_le_one {m : Metadata} (h : m.controllers.length ≤ 1) :
    OwnerReference.AreApart m.owners := by
  rw [areApart_iff]
  match hcontrollers : m.controllers with
  | [] => exact .nil
  | [o] => exact List.pairwise_singleton _ o
  | _ :: _ :: _ =>
    rw [hcontrollers] at h
    simp at h

/-- Controllers of one uid are one controller. -/
theorem length_controllers_le_one {m : Metadata} (hapart : OwnerReference.AreApart m.owners)
    (hsame : ∀ o ∈ m.controllers, ∀ p ∈ m.controllers, o.uid = p.uid) :
    m.controllers.length ≤ 1 := by
  rw [areApart_iff] at hapart
  match hcontrollers : m.controllers with
  | [] => exact Nat.zero_le 1
  | [o] => exact Nat.le_refl 1
  | o :: p :: rest =>
    rw [hcontrollers] at hapart hsame
    have hne := (List.pairwise_cons.1 hapart).1 p List.mem_cons_self
    exact absurd (hsame o List.mem_cons_self p (List.mem_cons_of_mem _ List.mem_cons_self)) hne

/-- Controllers of two uids are two controllers. -/
theorem two_le_length_controllers {m : Metadata} {o p : OwnerReference} (ho : o ∈ m.controllers)
    (hp : p ∈ m.controllers) (hne : o.uid ≠ p.uid) : 2 ≤ m.controllers.length := by
  match hcontrollers : m.controllers with
  | [] =>
    rw [hcontrollers] at ho
    cases ho
  | [q] =>
    rw [hcontrollers] at ho hp
    have hsame : o = p := (List.mem_singleton.1 ho).trans (List.mem_singleton.1 hp).symm
    exact absurd (congrArg OwnerReference.uid hsame) hne
  | _ :: _ :: rest => exact Nat.le_add_left 2 rest.length

end GatewayOperator
