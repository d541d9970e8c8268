import GatewayOperator.Proofs.Overlay.Resource
import GatewayOperator.Store.Server

/-!
# What requests do to a server

A server is a map from places, a kind and a key, to objects (`find?_put`, `find?_without`). Each
request has one lemma that says what it answers and leaves at its place (`create_ok`, `update_ok`,
`updateStatus_ok`, `find?_delete`), and `find?_world` says that no request touches another place
than its own.
-/

namespace GatewayOperator

namespace AnyResource

theorem as?_mk {k : Kind} (r : Resource k) : as? ⟨k, r⟩ k = some r := by
  simp [as?]

theorem isAt_iff {a : AnyResource} {k : Kind} {key : Key} :
    a.isAt k key = true ↔ a.1 = k ∧ a.2.key = key := by
  simp [isAt]

/-- An object is at one place only. -/
theorem isAt_eq_false {a : AnyResource} {j k : Kind} {other key : Key}
    (h : ¬ (j = k ∧ other = key)) (hat : a.isAt j other = true) : a.isAt k key = false := by
  rw [Bool.eq_false_iff]
  intro ha
  obtain ⟨hk, hkey⟩ := isAt_iff.1 ha
  obtain ⟨hj, hother⟩ := isAt_iff.1 hat
  exact h ⟨hj.symm.trans hk, hother.symm.trans hkey⟩

end AnyResource

namespace Server

variable {k : Kind}

/-! ## Places -/

/-- An object is found under its own key. -/
theorem key_of_find? {s : Server} {key : Key} {r : Resource k} (h : s.find? k key = some r) :
    r.key = key := by
  unfold find? at h
  obtain ⟨a, ha, has⟩ := Option.bind_eq_some_iff.1 h
  have hat := List.find?_some ha
  obtain ⟨j, x⟩ := a
  obtain ⟨rfl, hkey⟩ := AnyResource.isAt_iff.1 hat
  rw [AnyResource.as?_mk] at has
  cases has
  exact hkey

/-- What is found in a namespace lives there. -/
theorem ns_of_find? {s : Server} {ns name : String} {r : Resource k}
    (h : s.find? k (.inNamespace ns name) = some r) : r.metadata.ns = some ns :=
  congrArg Key.ns (key_of_find? h)

/-- What is found is one of the objects. -/
theorem mem_of_find? {s : Server} {key : Key} {r : Resource k} (h : s.find? k key = some r) :
    ⟨k, r⟩ ∈ s.objects := by
  unfold find? at h
  obtain ⟨a, ha, has⟩ := Option.bind_eq_some_iff.1 h
  have hat := List.find?_some ha
  have hmem := List.mem_of_find?_eq_some ha
  obtain ⟨j, x⟩ := a
  obtain ⟨rfl, -⟩ := AnyResource.isAt_iff.1 hat
  rw [AnyResource.as?_mk] at has
  cases has
  exact hmem

theorem find?_replaceFirst (l : List AnyResource) {key : Key} {r : Resource k} (hr : r.key = key)
    (j : Kind) (other : Key) :
    (replaceFirst (fun a => a.isAt k key) ⟨k, r⟩ l).find? (fun a => a.isAt j other) =
      if j = k ∧ other = key then some ⟨k, r⟩ else l.find? fun a => a.isAt j other := by
  have hself : AnyResource.isAt ⟨k, r⟩ j other = decide (j = k ∧ other = key) := by
    rw [Bool.eq_iff_iff, AnyResource.isAt_iff, decide_eq_true_iff]
    constructor
    · rintro ⟨rfl, rfl⟩
      exact ⟨rfl, hr⟩
    · rintro ⟨rfl, rfl⟩
      exact ⟨rfl, hr⟩
  induction l with
  | nil =>
    rw [replaceFirst, List.find?_cons, hself]
    by_cases h : j = k ∧ other = key <;> simp [h]
  | cons a l ih =>
    rw [replaceFirst]
    by_cases ha : a.isAt k key = true
    · rw [if_pos ha, List.find?_cons, List.find?_cons, hself]
      by_cases h : j = k ∧ other = key
      · simp [h]
      · -- the replaced object was at another place than the one asked for
        have hnot : a.isAt j other = false :=
          AnyResource.isAt_eq_false (fun hp => h ⟨hp.1.symm, hp.2.symm⟩) ha
        simp [h, hnot]
    · rw [if_neg ha, List.find?_cons, List.find?_cons, ih]
      by_cases h : j = k ∧ other = key
      · obtain ⟨rfl, rfl⟩ := h
        simp [ha]
      · simp [h]

/-- Keeping an object changes what is at its place and nothing else. -/
theorem find?_put (s : Server) {key : Key} {r : Resource k} (hr : r.key = key) (j : Kind)
    (other : Key) :
    (s.put key r).find? j other =
      if h : j = k ∧ other = key then some (h.1 ▸ r) else s.find? j other := by
  unfold find? put
  simp only [find?_replaceFirst s.objects hr]
  by_cases h : j = k ∧ other = key
  · obtain ⟨rfl, rfl⟩ := h
    simp [AnyResource.as?_mk]
  · simp [h]

theorem find?_put_self (s : Server) {key : Key} {r : Resource k} (hr : r.key = key) :
    (s.put key r).find? k key = some r := by
  simp [find?_put s hr]

theorem find?_put_other (s : Server) {key : Key} {r : Resource k} (hr : r.key = key) {j : Kind}
    {other : Key} (h : ¬ (j = k ∧ other = key)) :
    (s.put key r).find? j other = s.find? j other := by
  simp [find?_put s hr, h]

/-- Taking away an object changes what is at its place and nothing else. -/
theorem find?_without (s : Server) (k : Kind) (key : Key) (j : Kind) (other : Key) :
    ({ s with objects := s.without k key } : Server).find? j other =
      if j = k ∧ other = key then none else s.find? j other := by
  unfold find? without
  by_cases h : j = k ∧ other = key
  · obtain ⟨rfl, rfl⟩ := h
    have hnone : (s.objects.filter fun a => !a.isAt j other).find?
        (fun a => a.isAt j other) = none := by
      rw [List.find?_eq_none]
      intro a ha
      simpa using (List.mem_filter.1 ha).2
    simp [hnone]
  · have hpred : (fun a : AnyResource => decide ((!a.isAt k key) = true ∧ a.isAt j other = true)) =
        fun a => a.isAt j other := by
      funext a
      cases hat : a.isAt j other with
      | false => simp
      | true => simp [AnyResource.isAt_eq_false h hat]
    rw [List.find?_filter, hpred, if_neg h]

@[simp] theorem find?_record (s : Server) (k : Kind) (key : Key) (op : WriteOp) (j : Kind)
    (other : Key) : (s.record k key op).find? j other = s.find? j other := rfl

/-! ## Requests at their place -/

theorem withVersion_eq_issued (r : Resource k) (version : Nat) :
    withVersion r version = r.issued (some (toString version)) r.metadata.uid := rfl

/-- Whether nothing holds an object back any more that is being deleted. -/
def isReleased (r : Resource k) : Bool := r.metadata.isBeingDeleted && !r.metadata.hasFinalizers

/-- A created object was not there before and is there with a version and a uid. -/
theorem create_ok {s t : Server} {r r' : Resource k} (h : s.create r = (.ok r', t)) :
    s.find? k r.key = none ∧
      r' = r.issued (some (toString (s.version + 1))) (some (uidOf (s.version + 1))) ∧
      t.find? k r.key = some r' := by
  unfold create at h
  split at h
  · cases h
  split at h
  · cases h
  · rename_i habsent
    obtain ⟨hr, ht⟩ := Prod.mk.inj h
    cases hr
    subst ht
    refine ⟨by simpa using habsent, rfl, ?_⟩
    rw [find?_record, find?_put_self]
    rfl

/-- Where nothing is, a creation fails only if the kind is refused. -/
theorem create_error {s : Server} {r : Resource k} {e : Failure} (hnone : s.find? k r.key = none)
    (h : (s.create r).1 = .error e) : e = writesRejected k := by
  unfold create at h
  split at h
  · cases h
    rfl
  · rw [hnone] at h
    cases h

/-- An object that already exists is there. -/
theorem isSome_of_alreadyExists {s : Server} {r : Resource k} {kind text : String}
    (h : (s.create r).1 = .error (.alreadyExists kind text)) : (s.find? k r.key).isSome = true := by
  unfold create at h
  split at h
  · cases h
  split at h
  · assumption
  · cases h

/-- Where nothing is and the kind is not refused, an object is created. -/
theorem create_succeeds {s : Server} {r : Resource k} (hrejects : s.rejects k = false)
    (hnone : s.find? k r.key = none) : ∃ r' t, s.create r = (.ok r', t) := by
  unfold create
  rw [if_neg (by simp [hrejects]), if_neg (by simp [hnone])]
  exact ⟨_, _, rfl⟩

/-- An object that was read and is still there as it was read is updated. -/
theorem update_succeeds {s : Server} {r stored : Resource k} (hrejects : s.rejects k = false)
    (hstored : s.find? k r.key = some stored) (hfresh : isStale r stored = false) :
    ∃ r' t, s.update r = (.ok r', t) := by
  unfold update
  rw [if_neg (by simp [hrejects]), hstored]
  dsimp only
  rw [if_neg (by simp [hfresh])]
  split
  · exact ⟨_, _, rfl⟩
  · exact ⟨_, _, rfl⟩

theorem updateStatus_succeeds {s : Server} {r stored : Resource k}
    (hstored : s.find? k r.key = some stored) (hfresh : isStale r stored = false) :
    ∃ r' t, s.updateStatus r = (.ok r', t) := by
  unfold updateStatus
  rw [hstored]
  dsimp only
  rw [if_neg (by simp [hfresh])]
  exact ⟨_, _, rfl⟩

/-- An updated object was there before, and is there with the next version unless nothing holds back
its deletion. -/
theorem update_ok {s t : Server} {r r' : Resource k} (h : s.update r = (.ok r', t)) :
    ∃ stored, s.find? k r.key = some stored ∧
      if isReleased (merged r stored) then t.find? k r.key = none
      else r' = withVersion (merged r stored) (s.version + 1) ∧ t.find? k r.key = some r' := by
  unfold update at h
  -- a refused kind, a missing object and a stale one are not updated
  split at h
  · cases h
  split at h
  · cases h
  · rename_i stored hstored
    refine ⟨stored, hstored, ?_⟩
    split at h
    · cases h
    · simp only at h
      split at h
      · rename_i hgone
        have hreleased : isReleased (merged r stored) = true := hgone
        obtain ⟨-, ht⟩ := Prod.mk.inj h
        subst ht
        rw [if_pos hreleased]
        exact (find?_without (s.record k r.key .update) k r.key k r.key).trans (if_pos ⟨rfl, rfl⟩)
      · rename_i hstays
        have hheld : ¬ isReleased (merged r stored) = true := hstays
        obtain ⟨hr, ht⟩ := Prod.mk.inj h
        cases hr
        subst ht
        rw [if_neg hheld]
        refine ⟨rfl, ?_⟩
        rw [find?_put_self]
        rfl

/-- An update keeps the mark of an object that is being deleted. -/
theorem merged_of_mark {r stored : Resource k}
    (h : r.metadata.deletionTimestamp = stored.metadata.deletionTimestamp) :
    merged r stored = r.withStatusOf stored := by
  have hmark : (stored.metadata.deletionTimestamp <|>
      (r.withStatusOf stored).metadata.deletionTimestamp) = r.metadata.deletionTimestamp := by
    show (stored.metadata.deletionTimestamp <|> r.metadata.deletionTimestamp) = _
    rw [h]
    cases stored.metadata.deletionTimestamp <;> rfl
  unfold merged Resource.withMetadata
  dsimp only
  rw [hmark]
  rfl

/-- An update does not let an object go that is not being deleted. -/
theorem isReleased_merged {r stored : Resource k}
    (hmark : r.metadata.deletionTimestamp = stored.metadata.deletionTimestamp)
    (hstays : stored.metadata.isBeingDeleted = false) : isReleased (merged r stored) = false := by
  have hmarked : (merged r stored).metadata.isBeingDeleted = false := by
    rw [merged_of_mark hmark]
    show r.metadata.deletionTimestamp.isSome = false
    rw [hmark]
    exact hstays
  simp [isReleased, hmarked]

/-- An object that is not being deleted is still there after it was updated. -/
theorem update_staying_ok {s t : Server} {key : Key} {r stored r' : Resource k}
    (hstored : s.find? k key = some stored) (hkey : r.key = key)
    (hmark : r.metadata.deletionTimestamp = stored.metadata.deletionTimestamp)
    (hstays : stored.metadata.isBeingDeleted = false) (h : s.update r = (.ok r', t)) :
    r' = withVersion (r.withStatusOf stored) (s.version + 1) ∧ t.find? k key = some r' := by
  obtain ⟨found, hfound, hplace⟩ := update_ok h
  rw [hkey, hstored] at hfound
  cases hfound
  rw [isReleased_merged hmark hstays, merged_of_mark hmark, hkey] at hplace
  exact hplace

/-- A status update leaves everything but status and version as it was. -/
theorem updateStatus_ok {s t : Server} {r r' : Resource k} (h : s.updateStatus r = (.ok r', t)) :
    ∃ stored, s.find? k r.key = some stored ∧
      r' = withVersion (stored.withStatusOf r) (s.version + 1) ∧ t.find? k r.key = some r' := by
  unfold updateStatus at h
  split at h
  · cases h
  · rename_i stored hstored
    refine ⟨stored, hstored, ?_⟩
    split at h
    · cases h
    · obtain ⟨hr, ht⟩ := Prod.mk.inj h
      cases hr
      subst ht
      refine ⟨rfl, ?_⟩
      have hkey := key_of_find? hstored
      rw [find?_record, find?_put_self]
      exact hkey

/-- A deletion takes an object away, unless finalizers hold it back: then it is marked. -/
theorem find?_delete (s : Server) (k : Kind) (key : Key) :
    (s.delete k key).2.find? k key =
      (s.find? k key).bind fun stored =>
        if stored.metadata.hasFinalizers then
          some ((withVersion stored (s.version + 1)).withMetadata fun m =>
            { m with deletionTimestamp := some s.clock })
        else none := by
  unfold delete
  split
  · rename_i hnone
    simp [hnone]
  · rename_i stored hstored
    have hkey := key_of_find? hstored
    rw [hstored, Option.bind_some]
    split
    · exact find?_put_self _ hkey
    · exact (find?_without (s.record k key .delete) k key k key).trans (if_pos ⟨rfl, rfl⟩)

theorem delete_ok (s : Server) (k : Kind) (key : Key) : (s.delete k key).1 = .ok () := by
  unfold delete
  split
  · rfl
  · split <;> rfl

/-! ## Requests elsewhere -/

@[simp] theorem world_create (s : Server) (r : Resource k) :
    world (.create k r) s = s.create r := rfl

@[simp] theorem world_update (s : Server) (r : Resource k) :
    world (.update k r) s = s.update r := rfl

@[simp] theorem world_updateStatus (s : Server) (r : Resource k) :
    world (.updateStatus k r) s = s.updateStatus r := rfl

@[simp] theorem world_delete (s : Server) (k : Kind) (key : Key) :
    world (.delete k key) s = s.delete k key := rfl

/-- No request touches another place than its own. -/
theorem find?_world (q : StoreRequest) (s : Server) {j : Kind} {other : Key}
    (h : ¬ (j = q.kind ∧ other = q.key)) : (world q s).2.find? j other = s.find? j other := by
  -- every branch returns the store as it is, puts one object or takes one away
  cases q with
  | get k key => rfl
  | create k r =>
    rw [world_create]
    unfold create
    split
    · rfl
    split
    · rfl
    · dsimp only
      exact find?_put_other _ (by rfl) h
  | update k r =>
    rw [world_update]
    unfold update
    split
    · rfl
    split
    · rfl
    split
    · rfl
    dsimp only
    split
    · exact (find?_without (s.record k r.key .update) k r.key j other).trans (if_neg h)
    · dsimp only
      exact find?_put_other _ (by rfl) h
  | updateStatus k r =>
    rw [world_updateStatus]
    unfold updateStatus
    split
    · rfl
    · rename_i stored hstored
      split
      · rfl
      · have hkey := key_of_find? hstored
        dsimp only
        exact find?_put_other _ (by exact hkey) h
  | delete k key =>
    rw [world_delete]
    unfold delete
    split
    · rfl
    · rename_i stored hstored
      simp only
      split
      · have hkey := key_of_find? hstored
        exact find?_put_other _ (by exact hkey) h
      · exact (find?_without (s.record k key .delete) k key j other).trans (if_neg h)

/-- A request that is refused changes nothing. -/
theorem world_refused {q : StoreRequest} {s : Server} {e : Failure} (h : (world q s).1 = .error e) :
    (world q s).2 = s := by
  -- requests check everything before they change the store
  cases q with
  | get k key => rfl
  | create k r =>
    rw [world_create] at h ⊢
    unfold create at h ⊢
    dsimp only at h ⊢
    split
    · rfl
    split
    · rfl
    · rw [if_neg (by assumption), if_neg (by assumption)] at h
      cases h
  | update k r =>
    rw [world_update] at h ⊢
    cases hupdate : s.update r with
    | mk a t =>
      rw [hupdate] at h
      obtain rfl : a = .error e := h
      unfold update at hupdate
      split at hupdate
      · exact (Prod.mk.inj hupdate).2.symm
      split at hupdate
      · exact (Prod.mk.inj hupdate).2.symm
      split at hupdate
      · exact (Prod.mk.inj hupdate).2.symm
      dsimp only at hupdate
      split at hupdate <;> cases hupdate
  | updateStatus k r =>
    rw [world_updateStatus] at h ⊢
    cases hupdate : s.updateStatus r with
    | mk a t =>
      rw [hupdate] at h
      obtain rfl : a = .error e := h
      unfold updateStatus at hupdate
      split at hupdate
      · exact (Prod.mk.inj hupdate).2.symm
      split at hupdate
      · exact (Prod.mk.inj hupdate).2.symm
      · cases hupdate
  | delete k key =>
    rw [world_delete, delete_ok] at h
    cases h

/-- No request changes which kinds are refused, or the time. -/
theorem fixed_world (q : StoreRequest) (s : Server) :
    (world q s).2.rejected = s.rejected ∧ (world q s).2.clock = s.clock := by
  cases q with
  | get k key => exact ⟨rfl, rfl⟩
  | create k r =>
    rw [world_create]
    unfold create
    dsimp only
    repeat' split
    all_goals exact ⟨rfl, rfl⟩
  | update k r =>
    rw [world_update]
    unfold update
    dsimp only
    repeat' split
    all_goals exact ⟨rfl, rfl⟩
  | updateStatus k r =>
    rw [world_updateStatus]
    unfold updateStatus
    dsimp only
    repeat' split
    all_goals exact ⟨rfl, rfl⟩
  | delete k key =>
    rw [world_delete]
    unfold delete
    dsimp only
    repeat' split
    all_goals exact ⟨rfl, rfl⟩

theorem rejected_world (q : StoreRequest) (s : Server) : (world q s).2.rejected = s.rejected :=
  (fixed_world q s).1

theorem clock_world (q : StoreRequest) (s : Server) : (world q s).2.clock = s.clock :=
  (fixed_world q s).2

/-! ## What a request may leave at a place -/

/-- What a request may leave at a place. -/
inductive Leaves (s : Server) (q : StoreRequest) (k : Kind) (key : Key) : Option (Resource k) → Prop
  | same : Leaves s q k key (s.find? k key)
  | released (r stored : Resource k) :
      q = .update k r → r.key = key → s.find? k key = some stored →
      isReleased (merged r stored) = true → Leaves s q k key none
  | deleted (stored : Resource k) :
      q = .delete k key → s.find? k key = some stored → stored.metadata.hasFinalizers = false →
      Leaves s q k key none
  | created (r : Resource k) (version uid : Option String) :
      q = .create k r → r.key = key → Leaves s q k key (some (r.issued version uid))
  | updated (r stored : Resource k) (version : Nat) :
      q = .update k r → r.key = key → s.find? k key = some stored →
      Leaves s q k key (some (withVersion (merged r stored) version))
  | reported (r stored : Resource k) (version : Nat) :
      q = .updateStatus k r → r.key = key → s.find? k key = some stored →
      Leaves s q k key (some (withVersion (stored.withStatusOf r) version))
  | marked (stored : Resource k) (version : Nat) (clock : String) :
      q = .delete k key → s.find? k key = some stored →
      Leaves s q k key (some ((withVersion stored version).withMetadata fun m =>
        { m with deletionTimestamp := some clock }))

theorem leaves_world (s : Server) (q : StoreRequest) (k : Kind) (key : Key) :
    Leaves s q k key ((world q s).2.find? k key) := by
  by_cases hplace : k = q.kind ∧ key = q.key
  · -- whether a request was answered decides what it did
    cases hanswer : (world q s).1 with
    | error e =>
      rw [world_refused hanswer]
      exact .same
    | ok a =>
      obtain ⟨rfl, rfl⟩ := hplace
      cases q with
      | get k key => exact .same
      | create k r =>
        obtain ⟨-, rfl, hfind⟩ := create_ok (Prod.ext hanswer rfl)
        exact hfind ▸ .created r _ _ rfl rfl
      | update k r =>
        obtain ⟨stored, hstored, hfind⟩ := update_ok (Prod.ext hanswer rfl)
        split at hfind
        · rename_i hreleased
          exact hfind ▸ .released r stored rfl rfl hstored hreleased
        · obtain ⟨rfl, hfind⟩ := hfind
          exact hfind ▸ .updated r stored _ rfl rfl hstored
      | updateStatus k r =>
        obtain ⟨stored, hstored, rfl, hfind⟩ := updateStatus_ok (Prod.ext hanswer rfl)
        exact hfind ▸ .reported r stored _ rfl rfl hstored
      | delete k key =>
        have hfind := find?_delete s k key
        cases hstored : s.find? k key with
        | none =>
          rw [hstored, Option.bind_none, ← hstored] at hfind
          exact hfind ▸ .same
        | some stored =>
          rw [hstored, Option.bind_some] at hfind
          split at hfind
          · exact hfind ▸ .marked stored _ _ rfl hstored
          · rename_i hunheld
            exact hfind ▸ .deleted stored rfl hstored (by simpa using hunheld)
  · rw [find?_world q s hplace]
    exact .same

end Server

end GatewayOperator
