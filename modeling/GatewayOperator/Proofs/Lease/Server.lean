import GatewayOperator.Json.Pointer
import GatewayOperator.Lease.Acquire
import GatewayOperator.Proofs.Json.Canonical
import GatewayOperator.Proofs.Program
import GatewayOperator.Proofs.Store.Version
import Mathlib.Data.Set.Insert

/-!
# API servers with a lease

`LeaseServer` is an API server as far as the lease goes: how it answers, which lease it stores and
which versions it has given. `IsLawful` says what replicas rely on. A write happens at once or not
at all, a patch that names a version changes only the lease of that version, a creation finds no
lease, and a version is given once. A write that happened may still be answered with a failure; an
answer that says so means that it happened.

A server acts on a request as it is sent, so what it stores is read from JSON, in which an instant
has six digits. A creation stores what the JSON of its lease says (`Lease.sent`). A patch is merged
into the JSON of the lease (`LeasePatch.applied`), so that a renewal, which does not name the
holder, leaves it.

`Precedes` relates a state of a lawful server to a later one: the lease is the same, or its version
had not been given. So a lease that was read is still stored if its version is
(`IsLawful.stored_eq`).
-/

namespace GatewayOperator

/-! ## Merge patches -/

namespace Json

mutual

/-- A value after a merge patch: the fields of the patch are merged into those of the value, null
takes a field away, and anything but an object replaces the value. -/
def merged (target : Json) : Json → Json
  | .obj changes => .obj (mergedFields target.fields changes)
  | .null => .null
  | .bool b => .bool b
  | .int n => .int n
  | .float x => .float x
  | .str s => .str s
  | .arr items => .arr items

def mergedFields (target : Fields) : Fields → Fields
  | [] => target
  | (name, change) :: rest =>
    mergedFields
      (if change.isNull then target.without name
        else target.set name (merged ((target.get? name).getD .null) change)) rest

end

namespace Fields

theorem get?_set (name k : String) (value : Json) (fs : Fields) :
    get? (Fields.set name value fs) k = if name = k then some value else get? fs k := by
  induction fs with
  | nil => rfl
  | cons f fs ih =>
    simp only [Fields.set]
    split
    · rename_i hname
      subst hname
      simp only [get?]
      split <;> rfl
    · rename_i hname
      simp only [get?, ih]
      by_cases hf : f.1 = k
      · have hk : name ≠ k := fun h => hname (hf.trans h.symm)
        simp [hf, hk]
      · simp [hf]

theorem get?_without (name k : String) (fs : Fields) :
    get? (Fields.without fs name) k = if name = k then none else get? fs k := by
  induction fs with
  | nil => simp [without, get?]
  | cons f fs ih =>
    by_cases hname : f.1 = name
    · have hcons : Fields.without (f :: fs) name = Fields.without fs name := by
        simp [without, hname]
      rw [hcons, ih, get?, hname]
      split <;> rfl
    · have hcons : Fields.without (f :: fs) name = f :: Fields.without fs name := by
        simp [without, hname]
      simp only [hcons, get?, ih]
      by_cases hk : f.1 = k
      · have hne : name ≠ k := fun h => hname (hk.trans h.symm)
        simp [hk, hne]
      · simp [hk]

theorem get?_eq_none {fs : Fields} {name : String} (h : name ∉ fs.map (·.1)) :
    get? fs name = none := by
  induction fs with
  | nil => rfl
  | cons f fs ih =>
    rw [List.map_cons, List.mem_cons, not_or] at h
    rw [get?, if_neg (Ne.symm h.1), ih h.2]

end Fields

/-- The fields after a merge patch that names each of its fields once. -/
theorem get?_mergedFields {changes : Fields} (h : (changes.map (·.1)).Nodup) (target : Fields)
    (k : String) :
    Fields.get? (mergedFields target changes) k =
      match changes.get? k with
      | none => target.get? k
      | some change => if change.isNull then none
          else some (merged ((target.get? k).getD .null) change) := by
  induction changes generalizing target with
  | nil => rfl
  | cons c changes ih =>
    obtain ⟨name, change⟩ := c
    obtain ⟨hname, hrest⟩ := List.nodup_cons.1 h
    rw [mergedFields, ih hrest, Fields.get?]
    by_cases hk : name = k
    · subst hk
      rw [if_pos rfl, Fields.get?_eq_none hname]
      by_cases hnull : change.isNull <;> simp [hnull, Fields.get?_without, Fields.get?_set]
    · rw [if_neg hk]
      have htarget : Fields.get? (if change.isNull then target.without name
          else target.set name (merged ((target.get? name).getD .null) change)) k =
          target.get? k := by
        split <;> simp [Fields.get?_without, Fields.get?_set, hk]
      rw [htarget]

end Json

namespace LeaseSpec

theorem textAt?_holderIdentity (s : LeaseSpec) :
    s.toJson.textAt? "holderIdentity" = s.holderIdentity := by
  simp only [toJson, Json.textAt?, Json.field?, Json.Fields.get?_append, Json.Fields.get?_optional,
    Json.Fields.get?_ofText?]
  cases s.holderIdentity <;> simp [Json.text?]

end LeaseSpec

namespace Lease

theorem field?_spec_toJson (l : Lease) : l.toJson.field? "spec" = l.spec.map LeaseSpec.toJson := by
  unfold toJson
  cases l.spec <;> simp [Json.field?, Json.optional, Json.Fields.get?]

/-- What a lease says as it is sent. -/
def sent (l : Lease) : Option LeaseSpec := (l.toJson.field? "spec").map .ofJson

/-- The holder is sent as it is. -/
theorem holderIdentity_sent (l : Lease) : (l.sent.bind (·.holderIdentity)) = l.holder? := by
  rw [sent, field?_spec_toJson, holder?]
  cases l.spec with
  | none => rfl
  | some s => exact s.textAt?_holderIdentity

end Lease

namespace LeasePatch

/-- What the patch says of the specification. -/
def changes (p : LeasePatch) : Json.Fields :=
  Json.optional "acquireTime" (p.holder.map fun _ => microTime p.renewTime) ++
    Json.ofText? "holderIdentity" p.holder ++
    [("leaseDurationSeconds", Json.ofInt32 leaseDuration), ("renewTime", microTime p.renewTime)]

theorem nodup_changes (p : LeasePatch) : (p.changes.map (·.1)).Nodup := by
  unfold changes
  cases p.holder <;> simp [Json.optional, Json.ofText?]

theorem get?_changes_holderIdentity (p : LeasePatch) :
    p.changes.get? "holderIdentity" = p.holder.map .str := by
  simp only [changes, Json.Fields.get?_append, Json.Fields.get?_optional,
    Json.Fields.get?_ofText?]
  simp [Json.Fields.get?]

/-- What a lease says after a patch. -/
def applied (p : LeasePatch) (l : Lease) : LeaseSpec :=
  .ofJson (((l.toJson.merged p.toJson).field? "spec").getD .null)

theorem applied_eq (p : LeasePatch) (l : Lease) :
    p.applied l = .ofJson (.obj (Json.mergedFields
      ((l.spec.map LeaseSpec.toJson).getD .null).fields p.changes)) := by
  have hpatch : p.toJson = .obj [("metadata", .obj [("resourceVersion",
      (p.version.map Json.str).getD .null)]), ("spec", .obj p.changes)] := rfl
  rw [applied, hpatch, Json.merged, Json.field?, Json.get?_mergedFields (by simp),
    ← l.field?_spec_toJson]
  rfl

/-- A patch that names a holder makes it the holder, and one that names none leaves the one there
is. -/
theorem holderIdentity_applied (p : LeasePatch) (l : Lease) :
    (p.applied l).holderIdentity = (p.holder <|> l.holder?) := by
  have hlease : ((((l.spec.map LeaseSpec.toJson).getD .null).fields.get? "holderIdentity").bind
      Json.text?) = l.holder? := by
    unfold Lease.holder?
    cases l.spec with
    | none => rfl
    | some s => exact s.textAt?_holderIdentity
  rw [applied_eq, ← hlease]
  change ((Json.mergedFields _ p.changes).get? "holderIdentity").bind Json.text? = _
  rw [Json.get?_mergedFields p.nodup_changes, get?_changes_holderIdentity]
  cases p.holder <;> rfl

end LeasePatch

/-! ## Servers -/

/-- An API server, as far as the lease goes. -/
structure LeaseServer (σ : Type) where
  world : Program.World leaseInterface σ
  stored : σ → Option Lease
  /-- the versions that have been given so far -/
  versions : σ → Set String

namespace LeaseServer

variable {σ : Type} {S : LeaseServer σ} {s t u : σ}

/-- Nothing happens to the lease. -/
structure Keeps (S : LeaseServer σ) (s t : σ) : Prop where
  stored : S.stored t = S.stored s
  versions : S.versions s ⊆ S.versions t

/-- The lease is written, with a version that had not been given. -/
structure Writes (S : LeaseServer σ) (s t : σ) (spec : Option LeaseSpec) : Prop where
  stored : ∃ l v, S.stored t = some l ∧ l.spec = spec ∧ l.metadata.resourceVersion = some v ∧
    v ∉ S.versions s ∧ v ∈ S.versions t
  versions : S.versions s ⊆ S.versions t

/-- A call that is refused. -/
def Refuses (S : LeaseServer σ) {α : Type} (s : σ) (r : Except ApiFailure α × σ) : Prop :=
  S.Keeps s r.2 ∧ ∃ f, r.1 = .error f

/-- What replicas rely on. A write that has happened may be answered by a failure. -/
structure IsLawful (S : LeaseServer σ) : Prop where
  versioned : ∀ s l, S.stored s = some l →
    ∃ v ∈ S.versions s, l.metadata.resourceVersion = some v
  now : ∀ s, S.Keeps s (S.world .now s).2
  get : ∀ s, S.Keeps s (S.world .get s).2
  answered : ∀ s l, (S.world .get s).1 = .ok l → l = S.stored s
  create : ∀ l s, S.Refuses s (S.world (.create l) s) ∨
    S.stored s = none ∧ S.Writes s (S.world (.create l) s).2 l.sent
  patch : ∀ p s, S.Refuses s (S.world (.patch p) s) ∨
    ∃ l, S.stored s = some l ∧ (p.version = none ∨ p.version = l.metadata.resourceVersion) ∧
      S.Writes s (S.world (.patch p) s).2 (some (p.applied l))

/-- A state and a later one: the lease is the same, or its version had not been given. -/
structure Precedes (S : LeaseServer σ) (s t : σ) : Prop where
  versions : S.versions s ⊆ S.versions t
  stays : (S.stored s).isSome → (S.stored t).isSome
  origin : S.stored t = S.stored s ∨
    ∀ l v, S.stored t = some l → l.metadata.resourceVersion = some v → v ∉ S.versions s

theorem Precedes.refl (S : LeaseServer σ) (s : σ) : S.Precedes s s := ⟨subset_rfl, id, .inl rfl⟩

theorem Precedes.trans (hst : S.Precedes s t) (htu : S.Precedes t u) : S.Precedes s u := by
  refine ⟨hst.versions.trans htu.versions, fun h => htu.stays (hst.stays h), ?_⟩
  rcases htu.origin with hsame | hnew
  · rw [hsame]
    exact hst.origin
  · exact .inr fun l v hl hv hmem => hnew l v hl hv (hst.versions hmem)

theorem Keeps.precedes (h : S.Keeps s t) : S.Precedes s t :=
  ⟨h.versions, by rw [h.stored]; exact id, .inl h.stored⟩

theorem Writes.precedes {spec : Option LeaseSpec} (h : S.Writes s t spec) : S.Precedes s t := by
  obtain ⟨l, v, hl, -, hv, hnew, -⟩ := h.stored
  refine ⟨h.versions, fun _ => by rw [hl]; rfl, .inr fun l' v' hl' hv' => ?_⟩
  obtain rfl := Option.some.inj (hl.symm.trans hl')
  obtain rfl := Option.some.inj (hv.symm.trans hv')
  exact hnew

/-- Whatever is asked, the state that follows is a later one. -/
theorem IsLawful.precedes (h : S.IsLawful) (q : LeaseRequest) (s : σ) :
    S.Precedes s (S.world q s).2 := by
  cases q with
  | now => exact (h.now s).precedes
  | get => exact (h.get s).precedes
  | create l =>
    rcases h.create l s with ⟨hkeeps, -⟩ | ⟨-, hwrites⟩
    · exact hkeeps.precedes
    · exact hwrites.precedes
  | patch p =>
    rcases h.patch p s with ⟨hkeeps, -⟩ | ⟨l, -, -, hwrites⟩
    · exact hkeeps.precedes
    · exact hwrites.precedes

/-- A lease that was read is still the stored one if its version is. -/
theorem IsLawful.stored_eq (h : S.IsLawful) (hst : S.Precedes s t) {l l' : Lease}
    (hl : S.stored s = some l) (hl' : S.stored t = some l')
    (hversion : l'.metadata.resourceVersion = l.metadata.resourceVersion) : l' = l := by
  rcases hst.origin with hsame | hnew
  · exact Option.some.inj (hl'.symm.trans (hsame.trans hl))
  · obtain ⟨v, hmem, hv⟩ := h.versioned s l hl
    exact absurd hmem (hnew l' v hl' (hversion.trans hv))

/-- What was replaced by a write never comes back. -/
theorem IsLawful.version_ne (h : S.IsLawful) {spec : Option LeaseSpec} (hst : S.Writes s t spec)
    (htu : S.Precedes t u) :
    (S.stored u).map (·.metadata.resourceVersion) ≠
      (S.stored s).map (·.metadata.resourceVersion) := by
  obtain ⟨new, v, hnew, -, hv, hfresh, -⟩ := hst.stored
  obtain ⟨later, hlater⟩ := Option.isSome_iff_exists.1 (htu.stays (by rw [hnew]; rfl))
  rw [hlater]
  cases hold : S.stored s with
  | none => simp
  | some old =>
    obtain ⟨w, hw, hversion⟩ := h.versioned s old hold
    simp only [Option.map_some, ne_eq, Option.some.injEq, hversion]
    intro hback
    rcases htu.origin with hsame | horigin
    · -- the write's own lease: its version had not been given before
      obtain rfl : later = new := Option.some.inj (hlater.symm.trans (hsame.trans hnew))
      obtain rfl := Option.some.inj (hv.symm.trans hback)
      exact hfresh hw
    · exact horigin later w hlater hback (hst.versions hw)

end LeaseServer

/-! ## A server of one lease -/

/-- A server that stores a lease and nothing else, and what its clocks are going to show. -/
structure LeaseStore where
  /-- what the lease says, where there is one -/
  spec : Option (Option LeaseSpec) := none
  /-- the last version given -/
  version : Nat := 0
  readings : List Instant := []

namespace LeaseStore

/-- The lease with the last version. -/
def stored (s : LeaseStore) : Option Lease :=
  s.spec.map fun spec =>
    { metadata := { name := some leaseName, resourceVersion := some (toString s.version) }
      spec := spec }

def put (s : LeaseStore) (spec : Option LeaseSpec) : LeaseStore :=
  { s with spec := some spec, version := s.version + 1 }

def refusal (code : Nat) (reason : String) : ApiFailure :=
  .refused { code := code, reason := reason }

def world : Program.World leaseInterface LeaseStore
  | .now, s => (.ok (s.readings.headD ⟨0, 0⟩), { s with readings := s.readings.tail })
  | .get, s => (.ok s.stored, s)
  | .create l, s =>
    match s.stored with
    | none => (.ok (), s.put l.sent)
    | some _ => (.error (refusal 409 "AlreadyExists"), s)
  | .patch p, s =>
    match s.stored with
    | none => (.error (refusal 404 "NotFound"), s)
    | some l =>
      if p.version = none ∨ p.version = l.metadata.resourceVersion then
        (.ok (), s.put (some (p.applied l)))
      else (.error (refusal 409 "Conflict"), s)

def server : LeaseServer LeaseStore where
  world := world
  stored := stored
  versions s := {v | ∃ n, n ≤ s.version ∧ v = toString n}

theorem keeps_readings (s : LeaseStore) (readings : List Instant) :
    server.Keeps s { s with readings := readings } := ⟨rfl, subset_rfl⟩

theorem writes_put (s : LeaseStore) (spec : Option LeaseSpec) :
    server.Writes s (s.put spec) spec where
  stored := by
    refine ⟨_, _, rfl, rfl, rfl, ?_, s.version + 1, le_rfl, rfl⟩
    rintro ⟨n, hn, htext⟩
    have : s.version + 1 = n := eq_of_toString htext
    omega
  versions := fun _ ⟨n, hn, hv⟩ => ⟨n, Nat.le_succ_of_le hn, hv⟩

theorem isLawful_server : server.IsLawful where
  versioned s l hl := by
    obtain ⟨spec, -, rfl⟩ := Option.map_eq_some_iff.1 hl
    exact ⟨_, ⟨s.version, le_rfl, rfl⟩, rfl⟩
  now s := s.keeps_readings _
  get s := s.keeps_readings _
  answered s l h := by
    cases h
    rfl
  create l s := by
    change server.Refuses s (world (.create l) s) ∨
      s.stored = none ∧ server.Writes s (world (.create l) s).2 l.sent
    unfold world
    dsimp only
    cases hstored : s.stored with
    | none => exact .inr ⟨rfl, s.writes_put l.sent⟩
    | some old => exact .inl ⟨⟨rfl, subset_rfl⟩, _, rfl⟩
  patch p s := by
    change server.Refuses s (world (.patch p) s) ∨ ∃ l, s.stored = some l ∧
      (p.version = none ∨ p.version = l.metadata.resourceVersion) ∧
      server.Writes s (world (.patch p) s).2 (some (p.applied l))
    unfold world
    dsimp only
    cases hstored : s.stored with
    | none => exact .inl ⟨⟨rfl, subset_rfl⟩, _, rfl⟩
    | some l =>
      dsimp only
      split
      · rename_i hversion
        exact .inr ⟨l, rfl, hversion, s.writes_put _⟩
      · exact .inl ⟨⟨rfl, subset_rfl⟩, _, rfl⟩

end LeaseStore

end GatewayOperator
