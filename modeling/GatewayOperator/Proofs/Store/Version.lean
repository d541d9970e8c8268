import GatewayOperator.Proofs.Store.Server

/-!
# Versions

A server gives every version once. `IsNumbered` says that its objects carry versions that it has
given; it holds of an empty server and is kept by everything that happens to one. `Precedes` relates
a server to a later state of it: an object of the later state was there before, or it carries a
version that had not been given. So an object that was read is still there as it was read if its
version is (`IsNumbered.eq_of_version`), also if it was deleted and created anew in between.
-/

namespace GatewayOperator

/-- Numbers are written apart. -/
theorem eq_of_toString {m n : Nat} (h : toString m = toString n) : m = n := by
  have hdigits : Nat.toDigits 10 m = Nat.toDigits 10 n := by
    rw [← Nat.toList_repr, ← Nat.toList_repr]
    exact congrArg String.toList h
  rw [← @Nat.ofDigitChars_ten_toDigits m, hdigits, Nat.ofDigitChars_ten_toDigits]

namespace Server

variable {k : Kind} {s t u : Server}

/-- Every object carries a version that the server has given. -/
def IsNumbered (s : Server) : Prop :=
  ∀ (k : Kind) (key : Key) (r : Resource k), s.find? k key = some r →
    ∃ n, n ≤ s.version ∧ r.metadata.resourceVersion = some (toString n)

/-- A server and a later state of it. -/
structure Precedes (s t : Server) : Prop where
  version_le : s.version ≤ t.version
  /-- an object was there before, or it was written since -/
  origin : ∀ (k : Kind) (key : Key) (r : Resource k), t.find? k key = some r →
    s.find? k key = some r ∨
      ∃ n, s.version < n ∧ n ≤ t.version ∧ r.metadata.resourceVersion = some (toString n)

theorem Precedes.refl (s : Server) : s.Precedes s :=
  ⟨Nat.le_refl _, fun _ _ _ h => Or.inl h⟩

theorem Precedes.trans (hst : s.Precedes t) (htu : t.Precedes u) : s.Precedes u := by
  refine ⟨Nat.le_trans hst.version_le htu.version_le, fun k key r hr => ?_⟩
  rcases htu.origin k key r hr with hbefore | ⟨n, hlt, hle, hversion⟩
  · rcases hst.origin k key r hbefore with hbefore | ⟨n, hlt, hle, hversion⟩
    · exact Or.inl hbefore
    · exact Or.inr ⟨n, hlt, Nat.le_trans hle htu.version_le, hversion⟩
  · exact Or.inr ⟨n, Nat.lt_of_le_of_lt hst.version_le hlt, hle, hversion⟩

theorem IsNumbered.of_precedes (hs : s.IsNumbered) (h : s.Precedes t) : t.IsNumbered := by
  intro k key r hr
  rcases h.origin k key r hr with hbefore | ⟨n, -, hle, hversion⟩
  · obtain ⟨n, hle, hversion⟩ := hs k key r hbefore
    exact ⟨n, Nat.le_trans hle h.version_le, hversion⟩
  · exact ⟨n, hle, hversion⟩

/-- Where the version of an object is that of one that was read earlier, the object is that one. -/
theorem IsNumbered.eq_of_version (hs : s.IsNumbered) (h : s.Precedes t) {key : Key}
    {r stored : Resource k} (hr : s.find? k key = some r) (hstored : t.find? k key = some stored)
    (hversion : stored.metadata.resourceVersion = r.metadata.resourceVersion) : stored = r := by
  rcases h.origin k key stored hstored with hbefore | ⟨n, hlt, -, hnew⟩
  · exact Option.some.inj (hbefore.symm.trans hr)
  · -- what was written since has a version above all that had been given
    obtain ⟨m, hle, hold⟩ := hs k key r hr
    have htext : toString n = toString m :=
      Option.some.inj (hnew.symm.trans (hversion.trans hold))
    have hsame : n = m := eq_of_toString htext
    omega

/-- An update that carries a version is accepted only if the stored object has that version. -/
theorem version_of_update_ok {r r' : Resource k} {version : String}
    (hversion : r.metadata.resourceVersion = some version) (h : s.update r = (.ok r', t)) :
    ∃ stored, s.find? k r.key = some stored ∧
      stored.metadata.resourceVersion = r.metadata.resourceVersion := by
  unfold update at h
  split at h
  · cases h
  split at h
  · cases h
  · rename_i stored hstored
    split at h
    · cases h
    · rename_i hfresh
      refine ⟨stored, hstored, ?_⟩
      simp only [isStale, hversion, Option.isSome_some, Bool.true_and, bne_iff_ne, ne_eq,
        Decidable.not_not] at hfresh
      rw [hversion, hfresh]

/-! ## What happens to a server -/

/-- Keeping an object under the next version. -/
theorem precedes_put (s : Server) {key : Key} {r : Resource k} (hkey : r.key = key)
    (hversion : r.metadata.resourceVersion = some (toString (s.version + 1))) :
    s.Precedes (({ s with version := s.version + 1 } : Server).put key r) := by
  refine ⟨Nat.le_succ _, fun j other x hx => ?_⟩
  rw [find?_put _ hkey] at hx
  split at hx
  · rename_i hplace
    obtain ⟨rfl, rfl⟩ := hplace
    cases hx
    exact Or.inr ⟨_, Nat.lt_succ_self _, Nat.le_refl _, hversion⟩
  · exact Or.inl hx

theorem precedes_without (s : Server) (k : Kind) (key : Key) :
    s.Precedes { s with objects := s.without k key } := by
  refine ⟨Nat.le_refl _, fun j other x hx => ?_⟩
  rw [find?_without] at hx
  split at hx
  · cases hx
  · exact Or.inl hx

/-- A note of a write makes no difference. -/
theorem Precedes.record (h : s.Precedes t) (k : Kind) (key : Key) (op : WriteOp) :
    s.Precedes (t.record k key op) :=
  ⟨h.version_le, h.origin⟩

theorem Precedes.of_record {key : Key} {op : WriteOp} (h : (s.record k key op).Precedes t) :
    s.Precedes t :=
  ⟨h.version_le, h.origin⟩

/-- Every request leads to a later state. -/
theorem precedes_world (q : StoreRequest) (s : Server) : s.Precedes (world q s).2 := by
  cases q with
  | get k key => exact .refl s
  | create k r =>
    rw [world_create]
    unfold create
    split
    · exact .refl s
    split
    · exact .refl s
    · exact (precedes_put s (by rfl) (by rfl)).record k r.key .create
  | update k r =>
    rw [world_update]
    unfold update
    split
    · exact .refl s
    split
    · exact .refl s
    split
    · exact .refl s
    dsimp only
    split
    · exact .of_record (precedes_without (s.record k r.key .update) k r.key)
    · exact .of_record (precedes_put (s.record k r.key .update) (by rfl) (by rfl))
  | updateStatus k r =>
    rw [world_updateStatus]
    unfold updateStatus
    split
    · exact .refl s
    · rename_i stored hstored
      split
      · exact .refl s
      · have hkey := key_of_find? hstored
        exact (precedes_put s (by exact hkey) (by rfl)).record k r.key .updateStatus
  | delete k key =>
    rw [world_delete]
    unfold delete
    split
    · exact .refl s
    · rename_i stored hstored
      dsimp only
      split
      · have hkey := key_of_find? hstored
        exact .of_record (precedes_put (s.record k key .delete) (by exact hkey) (by rfl))
      · exact .of_record (precedes_without (s.record k key .delete) k key)

theorem isNumbered_empty : ({} : Server).IsNumbered := by
  intro k key r hr
  cases hr

end Server

end GatewayOperator
