import GatewayOperator.Definition.Manifest
import GatewayOperator.Proofs.Reconcile.Component

/-!
# Identities under convergence

A convergence fails if what a mutation makes of an object is at another key than the one that was
asked for (`ReportsMove`), and such a failure stays until somebody changes the input.

* An overlay moves nothing, and every compiled object has a place, so no step of a pass fails in
  this way whatever the store does (`not_reportsMove_work`).
* A definition is given by a user, and its manifest may name a namespace, which no definition can be
  in. The fresh object has none either, so the convergence blames the overlay for it
  (`reportsMove_convergeTo_iff`).
* A mutation that does move its object is refused before anything is written
  (`run_converge_of_moved`).

`moves_are_reported` puts the three together.
-/

namespace GatewayOperator

open StoreProgram
open Program (run_bind)

variable {k : Kind} {σ : Type}

/-- A result that blames a mutation for a change of name or namespace. -/
def ReportsMove {α : Type} (r : Except Failure α) : Prop :=
  ∃ kind source target, r = .error (.identityChanged kind source target)

section Results

variable {α β : Type}

theorem not_reportsMove_ok (a : α) : ¬ ReportsMove (.ok a) := by
  rintro ⟨kind, source, target, h⟩
  cases h

/-- A program in two parts reports a move only if a part does. -/
theorem not_reportsMove_bind {world : Program.World storeInterface σ} {p : StoreProgram α}
    {f : α → StoreProgram β} {s : σ} (hp : ¬ ReportsMove (p.run world s).1)
    (hf : ∀ a t, p.run world s = (.ok a, t) → ¬ ReportsMove ((f a).run world t).1) :
    ¬ ReportsMove ((p >>= f).run world s).1 := by
  rw [Program.bind_eq, run_bind]
  rcases hrun : p.run world s with ⟨e | a, t⟩
  · rw [hrun] at hp
    rintro ⟨kind, source, target, h⟩
    cases h
    exact hp ⟨kind, source, target, rfl⟩
  · exact hf a t hrun

end Results

/-! ## Stores that keep objects at their keys -/

/-- A store of any kind that gives an object at the key it is asked for, and that has no word about
moves. -/
structure KeepsPlaces (world : Program.World storeInterface σ) : Prop where
  found : ∀ (k : Kind) (key : Key) (s : σ) (r : Resource k), k.hasPlace key →
    (world (.get k key) s).1 = .ok (some r) → r.key = key
  failures : ∀ q s, ¬ ReportsMove (world q s).1

/-- The server in memory is one of them. -/
theorem keepsPlaces_server : KeepsPlaces Server.world where
  found k key s r _ h := Server.key_of_find? (Except.ok.inj h)
  failures q s := by
    rintro ⟨kind, source, target, h⟩
    cases q with
    | get k key => cases h
    | create k r =>
      rw [Server.world_create, Server.create] at h
      split at h
      · cases h
      split at h <;> cases h
    | update k r =>
      rw [Server.world_update, Server.update] at h
      split at h
      · cases h
      split at h
      · cases h
      split at h
      · cases h
      dsimp only at h
      split at h <;> cases h
    | updateStatus k r =>
      rw [Server.world_updateStatus, Server.updateStatus] at h
      split at h
      · cases h
      split at h <;> cases h
    | delete k key =>
      rw [Server.world_delete, Server.delete_ok] at h
      cases h

section Steps

variable {world : Program.World storeInterface σ} (hworld : KeepsPlaces world)
include hworld

theorem not_reportsMove_get (k : Kind) (key : Key) (s : σ) :
    ¬ ReportsMove ((get k key).run world s).1 :=
  hworld.failures (.get k key) s

theorem not_reportsMove_amend {key : Key} {live d : Resource k} (hkey : live.key = key) (s : σ) :
    ¬ ReportsMove ((amend key (fun r => .ok (r.overlay d)) live).run world s).1 := by
  rw [amend_overlay_eq d hkey]
  split
  · exact not_reportsMove_ok _
  · exact not_reportsMove_bind (hworld.failures (.update k (live.overlay d)) s) fun _ _ _ =>
      not_reportsMove_ok _

/-- What was found at the key that was asked for is amended there. -/
theorem not_reportsMove_found {key : Key} {d : Resource k} {found : Option (Resource k)} {s t : σ}
    {absent : StoreProgram Outcome} (hplace : k.hasPlace key)
    (hget : (get k key).run world s = (.ok found, t))
    (habsent : ¬ ReportsMove (absent.run world t).1) :
    ¬ ReportsMove ((match found with
      | some live => amend key (fun r => .ok (r.overlay d)) live
      | none => absent).run world t).1 := by
  cases found with
  | none => exact habsent
  | some live =>
    exact not_reportsMove_amend hworld
      (hworld.found k key s live hplace (congrArg Prod.fst hget)) t

/-- A creation fails with the store's own failure. -/
theorem not_reportsMove_refused {α : Type} {r : Resource k} {e : Failure} {s t : σ}
    (h : (tryCreate r).run world s = (.ok (.error e), t)) :
    ¬ ReportsMove (.error e : Except Failure α) := by
  have hanswer : (world (.create k r) s).1 = .error e := Except.ok.inj (congrArg Prod.fst h)
  rintro ⟨kind, source, target, hmove⟩
  cases hmove
  exact hworld.failures (.create k r) s ⟨kind, source, target, hanswer⟩

/-- A convergence to an object that has a place reports no move. -/
theorem not_reportsMove_convergeTo {d : Resource k} (hplace : k.hasPlace d.key) (s : σ) :
    ¬ ReportsMove ((convergeTo d).run world s).1 := by
  unfold convergeTo converge
  refine not_reportsMove_bind (not_reportsMove_get hworld k d.key s) fun found t hget => ?_
  refine not_reportsMove_found hworld hplace hget ?_
  rw [mutated_overlay_eq, if_pos (Resource.key_empty hplace)]
  refine not_reportsMove_bind (not_reportsMove_ok _) fun fresh u hfresh => ?_
  refine not_reportsMove_bind (not_reportsMove_ok _) fun created v hcreated => ?_
  cases created with
  | ok r => exact not_reportsMove_ok _
  | error e =>
    cases e with
    | alreadyExists kind text =>
      refine not_reportsMove_bind (not_reportsMove_get hworld k d.key v) fun again w hagain => ?_
      refine not_reportsMove_found hworld hplace hagain ?_
      rintro ⟨kind, source, target, h⟩
      cases h
    | _ => exact not_reportsMove_refused hworld hcreated

/-- A creation of what is not there reports no move. -/
theorem not_reportsMove_createIfAbsent (r : Resource k) (s : σ) :
    ¬ ReportsMove ((createIfAbsent r).run world s).1 := by
  unfold createIfAbsent
  refine not_reportsMove_bind (not_reportsMove_get hworld k r.key s) fun found t _ => ?_
  cases found with
  | some live => exact not_reportsMove_ok _
  | none =>
    refine not_reportsMove_bind (not_reportsMove_ok _) fun created v hcreated => ?_
    cases created with
    | ok r => exact not_reportsMove_ok _
    | error e =>
      cases e with
      | alreadyExists kind text => exact not_reportsMove_ok _
      | _ => exact not_reportsMove_refused hworld hcreated

/-- No step towards a target that has a place reports a move. -/
theorem not_reportsMove_work {x : Target} (hplace : x.HasPlace) (s : σ) :
    ¬ ReportsMove (x.work.run world s).1 := by
  cases x with
  | present r =>
    exact not_reportsMove_bind (not_reportsMove_createIfAbsent hworld r s) fun _ _ _ =>
      not_reportsMove_ok _
  | settled d =>
    exact not_reportsMove_bind (not_reportsMove_convergeTo hworld hplace s) fun _ _ _ =>
      not_reportsMove_ok _
  | absent k key => exact hworld.failures (.delete k key) s

end Steps

/-! ## Mutations that move an object -/

/-- A mutation that moves what stands at the key, or a fresh object, is refused, and nothing is
written. -/
theorem run_converge_of_moved {key : Key} {mutate : Mutation k} {s : Server} {r : Resource k}
    (h : mutate (s.standing k key) = .ok r) (hmoved : r.key ≠ key) :
    (converge k key mutate).run Server.world s =
      (.error (.identityChanged k.name key.text r.key.text), s) := by
  have hrefused : mutated key mutate (s.standing k key) =
      .error (.identityChanged k.name key.text r.key.text) := by
    rw [mutated_of_ok h, if_neg hmoved]
  unfold converge
  rw [run_get_bind]
  cases hfind : s.find? k key with
  | some live =>
    rw [Server.standing_of_found hfind] at hrefused
    show (amend key mutate live).run Server.world s = _
    unfold amend
    rw [hrefused, run_ofExcept_error_bind]
  | none =>
    rw [Server.standing_of_missing hfind] at hrefused
    show (StoreProgram.ofExcept _ >>= _).run Server.world s = _
    rw [hrefused, run_ofExcept_error_bind]

/-! ## Objects without a place -/

/-- A fresh object is at its key exactly if objects of its kind can be there. -/
theorem Resource.key_empty_iff {key : Key} : (Resource.empty k key).key = key ↔ k.hasPlace key := by
  refine ⟨fun h => ?_, Resource.key_empty⟩
  cases hnamespaced : k.isNamespaced with
  | true => exact Or.inl hnamespaced
  | false =>
    right
    rw [← congrArg Key.ns h, Resource.empty, hnamespaced]
    rfl

/-- A convergence reports a move exactly if it is to create an object that names a namespace and has
none by its kind. -/
theorem reportsMove_convergeTo_iff (d : Resource k) (s : Server) :
    ReportsMove ((convergeTo d).run Server.world s).1 ↔
      s.find? k d.key = none ∧ ¬ k.hasPlace d.key := by
  constructor
  · intro hmove
    refine ⟨?_, fun hplace => not_reportsMove_convergeTo keepsPlaces_server hplace s hmove⟩
    cases hfind : s.find? k d.key with
    | none => rfl
    | some live =>
      unfold convergeTo converge at hmove
      rw [run_get_bind, hfind] at hmove
      exact absurd hmove (not_reportsMove_amend keepsPlaces_server (Server.key_of_find? hfind) s)
  · rintro ⟨hfind, hplace⟩
    have hmoved : ((Resource.empty k d.key).overlay d).key ≠ d.key := by
      rw [Resource.key_overlay]
      exact fun h => hplace (Resource.key_empty_iff.1 h)
    have hrun : (convergeTo d).run Server.world s =
        (.error
          (.identityChanged k.name d.key.text ((Resource.empty k d.key).overlay d).key.text), s) :=
      run_converge_of_moved (by rw [Server.standing_of_missing hfind]) hmoved
    exact ⟨_, _, _, congrArg Prod.fst hrun⟩

theorem hasPlace_definition_iff {key : Key} : Kind.definition.hasPlace key ↔ key.ns = none :=
  or_iff_right Bool.false_ne_true

/-- When moves are reported. No step towards a compiled object reports one, whichever store it is. A
convergence to a definition reports one exactly if it is to create it and a namespace is named. A
mutation that moves its object is reported, and the store stays as it was. -/
theorem moves_are_reported {world : Program.World storeInterface σ} (hworld : KeepsPlaces world)
    (u : σ) (s : Server) :
    (∀ (c : Component) (settings : PassSettings) (owner : Resource c.kind),
      ∀ x ∈ c.reached settings owner,
      ¬ ReportsMove (x.work.run world u).1) ∧
    (∀ d : Resource .definition, ReportsMove ((convergeTo d).run Server.world s).1 ↔
      s.find? .definition d.key = none ∧ d.metadata.ns ≠ none) ∧
    (∀ (k : Kind) (key : Key) (mutate : Mutation k) (r : Resource k),
      mutate (s.standing k key) = .ok r → r.key ≠ key →
        (converge k key mutate).run Server.world s =
          (.error (.identityChanged k.name key.text r.key.text), s)) := by
  refine ⟨fun c settings owner x hx => ?_, fun d => ?_, fun k key mutate r => run_converge_of_moved⟩
  · have hplace : x.HasPlace := (Component.isCompiled_of_reached x hx).placed
    exact not_reportsMove_work hworld hplace u
  · rw [reportsMove_convergeTo_iff, hasPlace_definition_iff]
    rfl

/-! A manifest with a definition in a namespace is read. -/

def placedManifest : String :=
  "apiVersion: apiextensions.k8s.io/v1\nkind: CustomResourceDefinition\n" ++
  "metadata:\n  name: plugins\n  namespace: edge\n" ++
  "spec:\n  group: higress.io\n  names:\n    kind: Plugin\n    plural: plugins\n" ++
  "  scope: Cluster\n  versions: []\n"

/-- In a server without objects its definition cannot be installed. -/
theorem moves_are_reported_placedManifest : KeepsPlaces Server.world ∧
    ∃ d, Manifest.read "crds/plugins.yaml" placedManifest = .ok [d] ∧ d.metadata.ns = some "edge" ∧
      ReportsMove ((convergeTo d).run Server.world {}).1 := by
  have hread : ((Manifest.read "crds/plugins.yaml" placedManifest).toOption.map fun ds =>
    ds.map Resource.key) =
      some [.inNamespace "edge" "plugins"] := by decide +kernel
  obtain ⟨ds, hds, hkeys⟩ := Option.map_eq_some_iff.1 hread
  obtain ⟨d, rfl, hkey⟩ := List.map_eq_singleton_iff.1 hkeys
  have hns : d.metadata.ns = some "edge" := congrArg Key.ns hkey
  refine ⟨keepsPlaces_server, d, ?_, hns,
    ((moves_are_reported keepsPlaces_server {} {}).2.1 d).2 ⟨rfl, by simp [hns]⟩⟩
  cases hresult : Manifest.read "crds/plugins.yaml" placedManifest with
  | error e =>
    rw [hresult] at hds
    cases hds
  | ok found =>
    rw [hresult] at hds
    cases hds
    rfl

end GatewayOperator
