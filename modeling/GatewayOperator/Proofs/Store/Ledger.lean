import GatewayOperator.Proofs.Store.Version
import Mathlib.Data.List.Nodup

/-!
# The books of a server

What a server that was seeded and then called has stored, and what a call does to it.

`Step` says once what a call may do: nothing, or one write at the place that it is about
(`step_world`). `Called` is the life of a server: it starts empty, is seeded with objects and then
called, and `log` keeps every object as it was stored, under the version that it was stored with.
Each property of calls is a case analysis on `Step`; each property of states is an invariant of
`Called`:

* `IsLedger`: the n-th object that was stored has version n, and what is there was stored;
* `IsHeld`: what is being deleted has finalizers.

`isSound_of_called` puts them together.
-/

namespace GatewayOperator

namespace Server

variable {k : Kind} {s t : Server} {log : List AnyResource}

/-! ## What a call may do -/

/-- One object was stored, with the next version. -/
structure Stores (s t : Server) (key : Key) (r : Resource k) : Prop where
  version : t.version = s.version + 1
  numbered : r.metadata.resourceVersion = some (toString (s.version + 1))
  here : t.find? k key = some r
  elsewhere : ∀ (j : Kind) (other : Key), ¬ (j = k ∧ other = key) →
    t.find? j other = s.find? j other

/-- One object was taken away. -/
structure Removes (s t : Server) (k : Kind) (key : Key) : Prop where
  version : t.version = s.version
  here : t.find? k key = none
  elsewhere : ∀ (j : Kind) (other : Key), ¬ (j = k ∧ other = key) →
    t.find? j other = s.find? j other

/-- What a call may make of a server. -/
inductive Step (s : Server) : StoreRequest → Server → Prop
  | idle (q : StoreRequest) : Step s q s
  | created {t : Server} {k : Kind} {r : Resource k} :
      s.find? k r.key = none →
      Stores s t r.key
        (r.issued (some (toString (s.version + 1))) (some (uidOf (s.version + 1)))) →
      Step s (.create k r) t
  | updated {t : Server} {k : Kind} {r stored : Resource k} :
      s.find? k r.key = some stored → isReleased (merged r stored) = false →
      Stores s t r.key (withVersion (merged r stored) (s.version + 1)) → Step s (.update k r) t
  | released {t : Server} {k : Kind} {r stored : Resource k} :
      s.find? k r.key = some stored → isReleased (merged r stored) = true →
      Removes s t k r.key → Step s (.update k r) t
  | reported {t : Server} {k : Kind} {r stored : Resource k} :
      s.find? k r.key = some stored →
      Stores s t r.key (withVersion (stored.withStatusOf r) (s.version + 1)) →
      Step s (.updateStatus k r) t
  | marked {t : Server} {k : Kind} {key : Key} {stored : Resource k} :
      s.find? k key = some stored → stored.metadata.hasFinalizers = true →
      Stores s t key ((withVersion stored (s.version + 1)).withMetadata fun m =>
        { m with deletionTimestamp := some s.clock }) →
      Step s (.delete k key) t
  | deleted {t : Server} {k : Kind} {key : Key} {stored : Resource k} :
      s.find? k key = some stored → stored.metadata.hasFinalizers = false →
      Removes s t k key → Step s (.delete k key) t

theorem stores_put {key : Key} {r : Resource k} (hkey : r.key = key)
    (hversion : r.metadata.resourceVersion = some (toString (s.version + 1))) :
    Stores s (({ s with version := s.version + 1 } : Server).put key r) key r :=
  ⟨rfl, hversion, find?_put_self _ hkey, fun _ _ hplace => find?_put_other _ hkey hplace⟩

theorem removes_without (s : Server) (k : Kind) (key : Key) :
    Removes s { s with objects := s.without k key } k key := by
  refine ⟨rfl, ?_, fun j other hplace => ?_⟩
  · rw [find?_without, if_pos ⟨rfl, rfl⟩]
  · rw [find?_without, if_neg hplace]

/-- A note of a write makes no difference. -/
theorem Stores.record {key other : Key} {r : Resource k} (h : Stores s t key r) (j : Kind)
    (op : WriteOp) : Stores s (t.record j other op) key r :=
  ⟨h.version, h.numbered, h.here, h.elsewhere⟩

theorem Stores.of_record {key other : Key} {r : Resource k} {j : Kind} {op : WriteOp}
    (h : Stores (s.record j other op) t key r) : Stores s t key r :=
  ⟨h.version, h.numbered, h.here, h.elsewhere⟩

theorem Removes.of_record {key other : Key} {j : Kind} {op : WriteOp}
    (h : Removes (s.record j other op) t k key) : Removes s t k key :=
  ⟨h.version, h.here, h.elsewhere⟩

/-- A call does one of these. -/
theorem step_world (s : Server) (q : StoreRequest) : Step s q (world q s).2 := by
  cases q with
  | get k key => exact .idle _
  | create k r =>
    rw [world_create]
    unfold create
    split
    · exact .idle _
    split
    · exact .idle _
    · rename_i habsent
      exact .created (by simpa using habsent)
        ((stores_put (by rfl) (by rfl)).record k .create)
  | update k r =>
    rw [world_update]
    unfold update
    split
    · exact .idle _
    split
    · exact .idle _
    · rename_i stored hstored
      split
      · exact .idle _
      dsimp only
      split
      · rename_i hgone
        exact .released hstored hgone (removes_without (s.record k r.key .update) k r.key).of_record
      · rename_i hstays
        have hheld : isReleased (merged r stored) = false := by simpa [isReleased] using hstays
        exact .updated hstored hheld
          (.of_record (stores_put (s := s.record k r.key .update) (by rfl) (by rfl)))
  | updateStatus k r =>
    rw [world_updateStatus]
    unfold updateStatus
    split
    · exact .idle _
    · rename_i stored hstored
      split
      · exact .idle _
      · have hkey := key_of_find? hstored
        exact .reported hstored ((stores_put (by exact hkey) (by rfl)).record k .updateStatus)
  | delete k key =>
    rw [world_delete]
    unfold delete
    split
    · exact .idle _
    · rename_i stored hstored
      dsimp only
      split
      · rename_i hheld
        have hkey := key_of_find? hstored
        exact .marked hstored hheld
          (.of_record (stores_put (s := s.record k key .delete) (by exact hkey) (by rfl)))
      · rename_i hfree
        exact .deleted hstored (by simpa using hfree)
          (removes_without (s.record k key .delete) k key).of_record

/-- An accepted status update that carries a version found the object with that version. -/
theorem version_of_updateStatus_ok {r r' : Resource k} {version : String}
    (hversion : r.metadata.resourceVersion = some version) (h : s.updateStatus r = (.ok r', t)) :
    ∃ stored, s.find? k r.key = some stored ∧
      stored.metadata.resourceVersion = r.metadata.resourceVersion := by
  unfold updateStatus at h
  split at h
  · cases h
  · rename_i stored hstored
    split at h
    · cases h
    · rename_i hfresh
      refine ⟨stored, hstored, ?_⟩
      simp only [isStale, hversion, Option.isSome_some, Bool.true_and, bne_iff_ne, ne_eq,
        Decidable.not_not] at hfresh
      rw [hversion, hfresh]

/-! ## The life of a server -/

/-- What a call stored: the object at its place, if a version was given. -/
def storedBy (s : Server) (q : StoreRequest) : List AnyResource :=
  if (world q s).2.version = s.version then []
  else (((world q s).2.find? q.kind q.key).map fun r => ⟨q.kind, r⟩).toList

/-- A request that creates nothing that is already being deleted. -/
def CreatesUnmarked : StoreRequest → Prop
  | .create _ r => r.metadata.isBeingDeleted = false
  | _ => True

/-- A server that was seeded, and what it has stored, the oldest first. -/
inductive Seeded : List AnyResource → Server → Prop
  | empty (rejected : List String) (clock : String) :
      Seeded [] { rejected := rejected, clock := clock }
  | insert {log : List AnyResource} {s : Server} {k : Kind} (r : Resource k) :
      Seeded log s → r.metadata.isBeingDeleted = false →
      Seeded (log ++ [⟨k, (s.insert r).1⟩]) (s.insert r).2

/-- A server that was seeded and then called, and what it has stored, the oldest first. -/
inductive Called : List AnyResource → Server → Prop
  | seeded {log : List AnyResource} {s : Server} : Seeded log s → Called log s
  /-- time passes, and other kinds may be refused from now on -/
  | passed {log : List AnyResource} {s : Server} (rejected : List String) (clock : String) :
      Called log s → Called log { s with rejected := rejected, clock := clock }
  | called {log : List AnyResource} {s : Server} (q : StoreRequest) :
      Called log s → CreatesUnmarked q → Called (log ++ s.storedBy q) (world q s).2

/-- Every object that is there was stored, and the n-th that was stored has version n. -/
structure IsLedger (log : List AnyResource) (s : Server) : Prop where
  versions : log.map (fun a => a.2.metadata.resourceVersion) =
    (List.range s.version).map fun n => some (toString (n + 1))
  stored : ∀ (k : Kind) (key : Key) (r : Resource k), s.find? k key = some r → ⟨k, r⟩ ∈ log

/-- Finalizers hold back whatever is there and being deleted. -/
def IsHeld (s : Server) : Prop :=
  ∀ (k : Kind) (key : Key) (r : Resource k), s.find? k key = some r →
    r.metadata.isBeingDeleted = true → r.metadata.hasFinalizers = true

/-! ## The books -/

theorem isLedger_empty (rejected : List String) (clock : String) :
    IsLedger [] { rejected := rejected, clock := clock } :=
  ⟨rfl, fun _ _ _ h => nomatch h⟩

theorem IsLedger.append (h : IsLedger log s) {key : Key} {r : Resource k}
    (hstores : Stores s t key r) :
    IsLedger (log ++ [⟨k, r⟩]) t := by
  constructor
  · rw [List.map_append, h.versions, hstores.version, List.range_succ, List.map_append]
    simp [hstores.numbered]
  · intro j other x hx
    by_cases hplace : j = k ∧ other = key
    · obtain ⟨rfl, rfl⟩ := hplace
      rw [hstores.here] at hx
      cases hx
      exact List.mem_append_right _ (List.mem_singleton_self _)
    · rw [hstores.elsewhere j other hplace] at hx
      exact List.mem_append_left _ (h.stored j other x hx)

theorem IsLedger.remove (h : IsLedger log s) {key : Key} (hremoves : Removes s t k key) :
    IsLedger log t := by
  constructor
  · rw [h.versions, hremoves.version]
  · intro j other x hx
    by_cases hplace : j = k ∧ other = key
    · obtain ⟨rfl, rfl⟩ := hplace
      rw [hremoves.here] at hx
      cases hx
    · rw [hremoves.elsewhere j other hplace] at hx
      exact h.stored j other x hx

theorem storedBy_of_stores {q : StoreRequest} {r : Resource q.kind}
    (h : Stores s (world q s).2 q.key r) : s.storedBy q = [⟨q.kind, r⟩] := by
  unfold storedBy
  rw [if_neg (by rw [h.version]; omega), h.here]
  rfl

theorem storedBy_of_version {q : StoreRequest} (h : (world q s).2.version = s.version) :
    s.storedBy q = [] := if_pos h

/-- A call writes down what it stores. -/
theorem IsLedger.call (h : IsLedger log s) (q : StoreRequest) :
    IsLedger (log ++ s.storedBy q) (world q s).2 := by
  have hstep := step_world s q
  generalize ht : (world q s).2 = t at hstep
  cases hstep with
  | idle =>
    rw [storedBy_of_version (by rw [ht]), List.append_nil]
    exact h
  | created _ hstores =>
    rw [storedBy_of_stores (ht ▸ hstores)]
    exact h.append hstores
  | updated _ _ hstores =>
    rw [storedBy_of_stores (ht ▸ hstores)]
    exact h.append hstores
  | reported _ hstores =>
    rw [storedBy_of_stores (ht ▸ hstores)]
    exact h.append hstores
  | marked _ _ hstores =>
    rw [storedBy_of_stores (ht ▸ hstores)]
    exact h.append hstores
  | released _ _ hremoves =>
    rw [storedBy_of_version (by rw [ht, hremoves.version]), List.append_nil]
    exact h.remove hremoves
  | deleted _ _ hremoves =>
    rw [storedBy_of_version (by rw [ht, hremoves.version]), List.append_nil]
    exact h.remove hremoves

theorem stores_insert (s : Server) (r : Resource k) :
    Stores s (s.insert r).2 r.key (s.insert r).1 :=
  stores_put rfl rfl

theorem Seeded.isLedger (h : Seeded log s) : IsLedger log s := by
  induction h with
  | empty rejected clock => exact isLedger_empty rejected clock
  | insert r _ _ ih => exact ih.append (stores_insert _ r)

theorem Called.isLedger (h : Called log s) : IsLedger log s := by
  induction h with
  | seeded h => exact h.isLedger
  | passed rejected clock _ ih => exact ⟨ih.versions, ih.stored⟩
  | called q _ _ ih => exact ih.call q

namespace IsLedger

variable (h : IsLedger log s)

include h

theorem nodup : (log.map fun a => a.2.metadata.resourceVersion).Nodup := by
  rw [h.versions]
  refine List.Nodup.map (fun m n hsame => ?_) List.nodup_range
  have hnumber : m + 1 = n + 1 := eq_of_toString (Option.some.inj hsame)
  omega

/-- Only one object was ever stored with a version. -/
theorem eq_of_version {a b : AnyResource} (ha : a ∈ log) (hb : b ∈ log)
    (hversion : a.2.metadata.resourceVersion = b.2.metadata.resourceVersion) : a = b :=
  List.inj_on_of_nodup_map h.nodup ha hb hversion

theorem version_of_mem {a : AnyResource} (ha : a ∈ log) :
    ∃ n, 1 ≤ n ∧ n ≤ s.version ∧ a.2.metadata.resourceVersion = some (toString n) := by
  have hversion : a.2.metadata.resourceVersion ∈
      log.map fun a => a.2.metadata.resourceVersion := List.mem_map_of_mem ha
  rw [h.versions] at hversion
  obtain ⟨n, hn, hnumber⟩ := List.mem_map.1 hversion
  exact ⟨n + 1, by omega, List.mem_range.1 hn, hnumber.symm⟩

/-- Objects at different places have different versions. -/
theorem place_of_version {j : Kind} {key other : Key} {r : Resource k} {x : Resource j}
    (hr : s.find? k key = some r) (hx : s.find? j other = some x)
    (hversion : r.metadata.resourceVersion = x.metadata.resourceVersion) : k = j ∧ key = other := by
  have hsame : (⟨k, r⟩ : AnyResource) = ⟨j, x⟩ :=
    h.eq_of_version (h.stored k key r hr) (h.stored j other x hx) hversion
  cases hsame
  exact ⟨rfl, (key_of_find? hr).symm.trans (key_of_find? hx)⟩

end IsLedger

/-! ## Objects that are being deleted -/

theorem IsHeld.store (h : IsHeld s) {key : Key} {r : Resource k} (hstores : Stores s t key r)
    (hheld : r.metadata.isBeingDeleted = true → r.metadata.hasFinalizers = true) : IsHeld t := by
  intro j other x hx hmarked
  by_cases hplace : j = k ∧ other = key
  · obtain ⟨rfl, rfl⟩ := hplace
    rw [hstores.here] at hx
    cases hx
    exact hheld hmarked
  · rw [hstores.elsewhere j other hplace] at hx
    exact h j other x hx hmarked

theorem IsHeld.remove (h : IsHeld s) {key : Key} (hremoves : Removes s t k key) : IsHeld t := by
  intro j other x hx hmarked
  by_cases hplace : j = k ∧ other = key
  · obtain ⟨rfl, rfl⟩ := hplace
    rw [hremoves.here] at hx
    cases hx
  · rw [hremoves.elsewhere j other hplace] at hx
    exact h j other x hx hmarked

/-- No call leaves an object that is being deleted without finalizers. -/
theorem IsHeld.call (h : IsHeld s) {q : StoreRequest} (hq : CreatesUnmarked q) :
    IsHeld (world q s).2 := by
  have hstep := step_world s q
  generalize (world q s).2 = t at hstep
  cases hstep with
  | idle => exact h
  | @created _ _ r _ hstores =>
    have hunmarked : r.metadata.isBeingDeleted = false := hq
    exact h.store hstores fun hmarked => absurd (hunmarked.symm.trans hmarked) (by decide)
  | updated _ hstays hstores =>
    refine h.store hstores fun hmarked => ?_
    change (merged _ _).metadata.isBeingDeleted = true at hmarked
    change (merged _ _).metadata.hasFinalizers = true
    simpa [isReleased, hmarked] using hstays
  | @reported _ k r stored hstored hstores =>
    -- a status update leaves mark and finalizers as they were
    exact h.store hstores (h k r.key stored hstored)
  | marked _ hheld hstores => exact h.store hstores fun _ => hheld
  | released _ _ hremoves => exact h.remove hremoves
  | deleted _ _ hremoves => exact h.remove hremoves

theorem Seeded.isHeld (h : Seeded log s) : IsHeld s := by
  induction h with
  | empty rejected clock => exact fun _ _ _ hr => nomatch hr
  | insert r _ hunmarked ih =>
    exact ih.store (stores_insert _ r) fun hmarked =>
      absurd (hunmarked.symm.trans hmarked) (by decide)

theorem Called.isHeld (h : Called log s) : IsHeld s := by
  induction h with
  | seeded h => exact h.isHeld
  | passed rejected clock _ ih => exact ih
  | called q _ hq ih => exact ih.call hq

/-! ## What a call does to what is there -/

theorem withStatusOf_merged (r stored : Resource k) (version : Nat) :
    (withVersion (merged r stored) version).withStatusOf stored =
      withVersion (merged r stored) version := by
  cases k with
  | autoscaler version => cases version <;> rfl
  | _ => rfl

theorem Step.elsewhere {q : StoreRequest} (hstep : Step s q t) {j : Kind} {other : Key}
    (hplace : ¬ (j = q.kind ∧ other = q.key)) : t.find? j other = s.find? j other := by
  cases hstep with
  | idle => rfl
  | created _ hstores => exact hstores.elsewhere j other hplace
  | updated _ _ hstores => exact hstores.elsewhere j other hplace
  | released _ _ hremoves => exact hremoves.elsewhere j other hplace
  | reported _ hstores => exact hstores.elsewhere j other hplace
  | marked _ _ hstores => exact hstores.elsewhere j other hplace
  | deleted _ _ hremoves => exact hremoves.elsewhere j other hplace

/-- What is there after a call was there before, or the call stored it. -/
theorem mem_storedBy {q : StoreRequest} {key : Key} {r : Resource k}
    (hr : (world q s).2.find? k key = some r) :
    s.find? k key = some r ∨ (⟨k, r⟩ : AnyResource) ∈ s.storedBy q := by
  have hstep := step_world s q
  by_cases hplace : k = q.kind ∧ key = q.key
  · obtain ⟨rfl, rfl⟩ := hplace
    by_cases hversion : (world q s).2.version = s.version
    · -- without a new version the place is as it was, or empty
      generalize (world q s).2 = t at hstep hr hversion
      cases hstep with
      | idle => exact Or.inl hr
      | created _ hstores => exact absurd (hstores.version.symm.trans hversion) (by omega)
      | updated _ _ hstores => exact absurd (hstores.version.symm.trans hversion) (by omega)
      | reported _ hstores => exact absurd (hstores.version.symm.trans hversion) (by omega)
      | marked _ _ hstores => exact absurd (hstores.version.symm.trans hversion) (by omega)
      | released _ _ hremoves => cases hremoves.here.symm.trans hr
      | deleted _ _ hremoves => cases hremoves.here.symm.trans hr
    · right
      rw [storedBy, if_neg hversion, hr]
      exact List.mem_singleton_self _
  · exact Or.inl ((hstep.elsewhere hplace).symm.trans hr)

/-- An update leaves every status as it was. -/
theorem status_of_update {r : Resource k} (hstep : Step s (.update k r) t) {j : Kind} {key : Key}
    {x y : Resource j} (hx : s.find? j key = some x) (hy : t.find? j key = some y) :
    y.withStatusOf x = y := by
  by_cases hplace : j = k ∧ key = r.key
  · obtain ⟨rfl, rfl⟩ := hplace
    cases hstep with
    | idle =>
      cases hx.symm.trans hy
      exact x.withStatusOf_self
    | updated hstored _ hstores =>
      cases hx.symm.trans hstored
      cases hstores.here.symm.trans hy
      exact withStatusOf_merged r x _
    | released _ _ hremoves => cases hremoves.here.symm.trans hy
  · cases hx.symm.trans ((hstep.elsewhere hplace).symm.trans hy)
    exact x.withStatusOf_self

/-- A status update changes the status and the version of its object, if anything. -/
theorem place_of_updateStatus {r : Resource k} (hstep : Step s (.updateStatus k r) t) :
    t.find? k r.key = s.find? k r.key ∨
      ∃ stored, s.find? k r.key = some stored ∧
        t.find? k r.key = some (withVersion (stored.withStatusOf r) (s.version + 1)) := by
  cases hstep with
  | idle => exact Or.inl rfl
  | reported hstored hstores => exact Or.inr ⟨_, hstored, hstores.here⟩

/-- What is being deleted stays so until it is gone. -/
theorem marked_of_step {q : StoreRequest} (hstep : Step s q t) {key : Key} {x y : Resource k}
    (hx : s.find? k key = some x) (hmarked : x.metadata.isBeingDeleted = true)
    (hy : t.find? k key = some y) : y.metadata.isBeingDeleted = true := by
  by_cases hplace : k = q.kind ∧ key = q.key
  · obtain ⟨rfl, rfl⟩ := hplace
    cases hstep with
    | idle =>
      cases hx.symm.trans hy
      exact hmarked
    | created habsent _ => cases hx.symm.trans habsent
    | @updated _ _ r stored hstored hstays hstores =>
      cases hx.symm.trans hstored
      cases hstores.here.symm.trans hy
      -- the stored mark is kept, whatever the update says
      change (stored.metadata.deletionTimestamp <|> r.metadata.deletionTimestamp).isSome = true
      obtain ⟨since, hsince⟩ := Option.isSome_iff_exists.1 hmarked
      rw [hsince]
      rfl
    | reported hstored hstores =>
      cases hx.symm.trans hstored
      cases hstores.here.symm.trans hy
      exact hmarked
    | marked _ _ hstores =>
      cases hstores.here.symm.trans hy
      rfl
    | released _ _ hremoves => cases hremoves.here.symm.trans hy
    | deleted _ _ hremoves => cases hremoves.here.symm.trans hy
  · cases hx.symm.trans ((hstep.elsewhere hplace).symm.trans hy)
    exact hmarked

/-- What is gone after a call was deleted, or its last finalizer was taken off while it was being
deleted. -/
theorem gone_of_step {q : StoreRequest} (hstep : Step s q t) {key : Key} {x : Resource k}
    (hx : s.find? k key = some x) (hgone : t.find? k key = none) :
    (q = .delete k key ∧ x.metadata.hasFinalizers = false) ∨
      ∃ r, q = .update k r ∧ r.key = key ∧ r.metadata.hasFinalizers = false ∧
        (x.metadata.isBeingDeleted = true ∨ r.metadata.isBeingDeleted = true) := by
  by_cases hplace : k = q.kind ∧ key = q.key
  · obtain ⟨rfl, rfl⟩ := hplace
    cases hstep with
    | idle => cases hx.symm.trans hgone
    | created _ hstores => cases hstores.here.symm.trans hgone
    | updated _ _ hstores => cases hstores.here.symm.trans hgone
    | reported _ hstores => cases hstores.here.symm.trans hgone
    | marked _ _ hstores => cases hstores.here.symm.trans hgone
    | deleted hstored hfree _ =>
      cases hx.symm.trans hstored
      exact Or.inl ⟨rfl, hfree⟩
    | @released _ _ r stored hstored hreleased _ =>
      cases hx.symm.trans hstored
      simp only [isReleased, Bool.and_eq_true, Bool.not_eq_true'] at hreleased
      obtain ⟨hmarked, hfree⟩ := hreleased
      change (stored.metadata.deletionTimestamp <|> r.metadata.deletionTimestamp).isSome = true
        at hmarked
      refine Or.inr ⟨r, rfl, rfl, hfree, ?_⟩
      unfold Metadata.isBeingDeleted
      cases hsince : stored.metadata.deletionTimestamp with
      | none => exact Or.inr (by simpa [hsince] using hmarked)
      | some since => exact Or.inl rfl
  · cases hx.symm.trans ((hstep.elsewhere hplace).symm.trans hgone)

/-! ## The result -/

/-- What holds of a server that has stored the objects in `log`, in this order. -/
structure IsSound (log : List AnyResource) (s : Server) : Prop where
  /-- every object that is there was stored -/
  stored : ∀ (k : Kind) (key : Key) (r : Resource k), s.find? k key = some r → ⟨k, r⟩ ∈ log
  numbered : ∀ (k : Kind) (key : Key) (r : Resource k), s.find? k key = some r →
    ∃ n, 1 ≤ n ∧ n ≤ s.version ∧ r.metadata.resourceVersion = some (toString n)
  /-- objects at different places have different versions -/
  apart : ∀ (j k : Kind) (other key : Key) (x : Resource j) (r : Resource k),
    s.find? j other = some x → s.find? k key = some r →
    x.metadata.resourceVersion = r.metadata.resourceVersion → j = k ∧ other = key
  /-- no version was given twice -/
  once : (log.map fun a => a.2.metadata.resourceVersion).Nodup
  held : ∀ (k : Kind) (key : Key) (r : Resource k), s.find? k key = some r →
    r.metadata.isBeingDeleted = true → r.metadata.hasFinalizers = true

/-- What holds of a call to a server that has stored the objects in `log`, in this order. -/
structure IsSoundCall (log : List AnyResource) (s : Server) (q : StoreRequest) : Prop where
  /-- what was not there before was stored by the call -/
  stored : ∀ (k : Kind) (key : Key) (r : Resource k), (world q s).2.find? k key = some r →
    s.find? k key = some r ∨ ⟨k, r⟩ ∈ s.storedBy q
  /-- who carries a version replaces exactly what was stored with it -/
  replaces : ∀ (k : Kind) (r : Resource k), q = .update k r ∨ q = .updateStatus k r →
    r.metadata.resourceVersion.isSome = true → (∃ a, (world q s).1 = .ok a) →
    ∃ stored, s.find? k r.key = some stored ∧ ⟨k, stored⟩ ∈ log ∧
      ∀ a ∈ log, a.2.metadata.resourceVersion = r.metadata.resourceVersion ↔ a = ⟨k, stored⟩
  keepsStatus : ∀ (k : Kind) (r : Resource k), q = .update k r →
    ∀ (j : Kind) (key : Key) (x y : Resource j), s.find? j key = some x →
      (world q s).2.find? j key = some y → y.withStatusOf x = y
  keepsRest : ∀ (k : Kind) (r : Resource k), q = .updateStatus k r →
    (∀ (j : Kind) (key : Key), ¬ (j = k ∧ key = r.key) →
      (world q s).2.find? j key = s.find? j key) ∧
    ((world q s).2.find? k r.key = s.find? k r.key ∨
      ∃ stored, s.find? k r.key = some stored ∧
        (world q s).2.find? k r.key = some (withVersion (stored.withStatusOf r) (s.version + 1)))
  keepsMark : ∀ (k : Kind) (key : Key) (x y : Resource k), s.find? k key = some x →
    x.metadata.isBeingDeleted = true → (world q s).2.find? k key = some y →
    y.metadata.isBeingDeleted = true
  gone : ∀ (k : Kind) (key : Key) (x : Resource k), s.find? k key = some x →
    (world q s).2.find? k key = none →
    (q = .delete k key ∧ x.metadata.hasFinalizers = false) ∨
      ∃ r, q = .update k r ∧ r.key = key ∧ r.metadata.hasFinalizers = false ∧
        (x.metadata.isBeingDeleted = true ∨ r.metadata.isBeingDeleted = true)
  refused : ∀ e, (world q s).1 = .error e → (world q s).2 = s

/-- An accepted write that carries a version found the object with that version. -/
theorem version_of_ok {q : StoreRequest} {r : Resource k}
    (hq : q = .update k r ∨ q = .updateStatus k r)
    (hversion : r.metadata.resourceVersion.isSome = true) (hok : ∃ a, (world q s).1 = .ok a) :
    ∃ stored, s.find? k r.key = some stored ∧
      stored.metadata.resourceVersion = r.metadata.resourceVersion := by
  obtain ⟨version, hversion⟩ := Option.isSome_iff_exists.1 hversion
  obtain ⟨a, ha⟩ := hok
  rcases hq with rfl | rfl
  · exact version_of_update_ok hversion (Prod.ext ha rfl)
  · exact version_of_updateStatus_ok hversion (Prod.ext ha rfl)

theorem IsLedger.isSoundCall (h : IsLedger log s) (q : StoreRequest) : IsSoundCall log s q where
  stored _ _ _ hr := mem_storedBy hr
  replaces k r hq hversion hok := by
    obtain ⟨stored, hstored, hsame⟩ := version_of_ok hq hversion hok
    have hlogged := h.stored k r.key stored hstored
    refine ⟨stored, hstored, hlogged, fun a ha => ⟨fun hcarried => ?_, ?_⟩⟩
    · exact h.eq_of_version ha hlogged (hcarried.trans hsame.symm)
    · rintro rfl
      exact hsame
  keepsStatus k r hq j key x y hx hy := by
    subst hq
    exact status_of_update (step_world s _) hx hy
  keepsRest k r hq := by
    subst hq
    exact ⟨fun j key hplace => (step_world s _).elsewhere hplace,
      place_of_updateStatus (step_world s _)⟩
  keepsMark _ _ _ _ hx hmarked hy := marked_of_step (step_world s q) hx hmarked hy
  gone _ _ _ hx hgone := gone_of_step (step_world s q) hx hgone
  refused _ h := world_refused h

/-- Whatever a server is seeded with and asked for, as long as nothing enters it that is already
being deleted: its versions are numbers that were given once, what is being deleted stays so and has
finalizers, and every call keeps to what it may do. -/
theorem isSound_of_called (h : Called log s) :
    IsSound log s ∧ ∀ q, IsSoundCall log s q := by
  have hledger := h.isLedger
  refine ⟨⟨hledger.stored, ?_, ?_, hledger.nodup, h.isHeld⟩, hledger.isSoundCall⟩
  · exact fun k key r hr => hledger.version_of_mem (hledger.stored k key r hr)
  · exact fun j k other key x r hx hr hversion => hledger.place_of_version hx hr hversion

/-- A ConfigMap with a finalizer is seeded and then deleted: two versions are given. -/
theorem isSound_of_deletion : ∃ (log : List AnyResource) (s : Server), Called log s ∧
    s.version = 2 ∧ log.length = 2 ∧ IsSound log s ∧ ∀ q, IsSoundCall log s q := by
  have seeded := Seeded.insert
    (⟨{ ns := some "team", name := some "mesh", finalizers := some ["hold"] }, {}⟩ :
      Resource .configMap) (.empty [] "") rfl
  have called := Called.called (.delete .configMap (.inNamespace "team" "mesh"))
    (.seeded seeded) trivial
  exact ⟨_, _, called, by decide, by decide, isSound_of_called called⟩

end Server

end GatewayOperator
