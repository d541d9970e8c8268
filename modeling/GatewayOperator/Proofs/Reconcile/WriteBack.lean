import GatewayOperator.Proofs.Reconcile.Settle
import GatewayOperator.Proofs.Settings.RoundTrip
import GatewayOperator.Proofs.Store.Ledger
import GatewayOperator.Resource.Wire

/-!
# Writing desired states back

A pass reads its desired state as a whole, and writes it back as a whole when it adds a finalizer,
takes one off or records a status. What does not survive the encoding, or what somebody else wrote
in the meantime, would be lost there.

`IsWriteBack raw q` says what such a request is: the object as it was read, with other finalizers or
with another status (`asks_addFinalizer_isWriteBack` and the lemmas beside it). It is read on the
other side as what was sent, because specifications round-trip (`decode?_toJson_gateway`,
`decode?_toJson_controller`), and a server that takes it holds exactly the object that was read,
because no version is given twice (`contentKept_of_isWriteBack`).
-/

namespace GatewayOperator

open Wire
open Json.Fields (get? get?_append)

/-! ## Normal specifications -/

/-- A gateway's specification whose values of other APIs are ones that these APIs can hold. -/
structure GatewaySpec.IsNormal (s : GatewaySpec) : Prop where
  common : s.common.IsNormal
  container : s.container.IsNormal

/-- A controller's specification whose values of other APIs are ones that these APIs can hold. -/
structure ControllerSpec.IsNormal (s : ControllerSpec) : Prop where
  common : s.common.IsNormal
  controller : s.controller.container.IsNormal
  pilot : s.pilot.container.IsNormal

theorem GatewaySpec.IsNormal.roundTrips {s : GatewaySpec} (h : s.IsNormal) : RoundTrips s :=
  GatewaySpec.roundTrips h.common h.container

theorem ControllerSpec.IsNormal.roundTrips {s : ControllerSpec} (h : s.IsNormal) : RoundTrips s :=
  ControllerSpec.roundTrips h.common h.controller h.pilot

namespace Resource

/-! ## Whole objects -/

/-- Metadata and content are found among the fields of an object. -/
theorem decodeManaged?_obj {Spec : Type} [Wire Spec] {m : Metadata} {c : Managed Spec}
    (hm : m.IsNormal) (hspec : RoundTrips c.spec) (version kind : Json) :
    decodeManaged? (.obj ([("apiVersion", version), ("kind", kind), ("metadata", m.toJson)] ++
      c.toFields)) = some (m, c) := by
  have hmetadata : (Metadata.read m.toJson).toOption = some m := by
    rw [Metadata.read_toJson hm]
    rfl
  have hstatus : readUnset (c.status.map encode) = some c.status :=
    readUnset_maybe fun status _ => status.roundTrips
  simp [decodeManaged?, ownFields?, Managed.toFields, get?_append, get?, required, orUnset_eq,
    hmetadata, hspec.decode_encode, hstatus]

theorem decode?_toJson_gateway {g : Gateway} (hm : g.metadata.IsNormal)
    (hspec : g.content.spec.IsNormal) : decode? .gateway g.toJson = some g := by
  simp only [decode?, toJson, Kind.contentFields]
  rw [decodeManaged?_obj hm hspec.roundTrips]
  rfl

theorem decode?_toJson_controller {c : Controller} (hm : c.metadata.IsNormal)
    (hspec : c.content.spec.IsNormal) : decode? .controller c.toJson = some c := by
  simp only [decode?, toJson, Kind.contentFields]
  rw [decodeManaged?_obj hm hspec.roundTrips]
  rfl

end Resource

/-! ## Requests that write back -/

section Requests

variable {k : Kind} {raw : Resource k}

/-- The object as it was read, with other finalizers or with another status. -/
inductive IsWriteBack (raw : Resource k) : StoreRequest → Prop
  | held (finalizers : Option (List String)) :
      IsWriteBack raw (.update k (raw.restated finalizers raw.metadata.resourceVersion raw.content))
  | reported (status : k.Content) :
      IsWriteBack raw (.updateStatus k
        (raw.restated raw.metadata.finalizers raw.metadata.resourceVersion status))

theorem isWriteBack_withFinalizers (raw : Resource k) (finalizers : Option (List String)) :
    IsWriteBack raw
      (.update k (raw.withMetadata fun m => { m with finalizers := finalizers })) := by
  rw [Resource.withMetadata_finalizers]
  exact .held finalizers

theorem isWriteBack_withReported (raw : Resource k) (status : ComponentStatus) :
    IsWriteBack raw
      (.updateStatus k { raw with content := k.withReported raw.content status }) := by
  have hcontent : Resource.contentWithStatusOf k raw.content (k.withReported raw.content status) =
      k.withReported raw.content status := by
    cases k with
    | autoscaler version => cases version <;> rfl
    | _ => rfl
  have hreported : IsWriteBack raw _ := .reported (k.withReported raw.content status)
  unfold Resource.restated at hreported
  rwa [hcontent] at hreported

theorem asks_addFinalizer_isWriteBack (raw : Resource k) (finalizer : String) :
    (addFinalizer raw finalizer).Asks (IsWriteBack raw) := by
  unfold addFinalizer
  split
  · trivial
  · exact ⟨isWriteBack_withFinalizers raw _, fun a => by cases a <;> trivial⟩

theorem asks_removeFinalizer_isWriteBack (raw : Resource k) (finalizer : String) :
    (removeFinalizer raw finalizer).Asks (IsWriteBack raw) := by
  unfold removeFinalizer
  split
  · exact ⟨isWriteBack_withFinalizers raw _, fun a => by cases a <;> trivial⟩
  · trivial

theorem asks_recordStatus_isWriteBack (raw : Resource k) (account : String) :
    (recordStatus raw account).Asks (IsWriteBack raw) := by
  unfold recordStatus
  dsimp only
  split
  · trivial
  · exact ⟨isWriteBack_withReported raw _, fun a => by cases a <;> trivial⟩

/-! ## What a server makes of them -/

/-- A server that takes a write-back with finalizers holds exactly the object that was read: it gave
the version of that object only once. -/
theorem eq_raw_of_taken {log : List AnyResource} {s : Server} (hledger : Server.IsLedger log s)
    (hraw : ⟨k, raw⟩ ∈ log) {r : Resource k}
    (hversion : r.metadata.resourceVersion = raw.metadata.resourceVersion)
    (htaken : ∃ a, (Server.world (.update k r) s).1 = .ok a) : s.find? k r.key = some raw := by
  obtain ⟨n, -, -, hnumber⟩ := hledger.version_of_mem hraw
  obtain ⟨stored, hstored, hsame⟩ := Server.version_of_ok (Or.inl rfl)
    (by rw [hversion, hnumber]; rfl) htaken
  have heq : (⟨k, stored⟩ : AnyResource) = ⟨k, raw⟩ :=
    hledger.eq_of_version (hledger.stored k r.key stored hstored) hraw (hsame.trans hversion)
  cases heq
  exact hstored

/-- An update with the content that was read changes none. -/
theorem contentKept_of_update {log : List AnyResource} {s : Server}
    (hledger : Server.IsLedger log s) (hraw : ⟨k, raw⟩ ∈ log) {r : Resource k}
    (hversion : r.metadata.resourceVersion = raw.metadata.resourceVersion)
    (hcontent : r.content = raw.content) {x y : Resource k} (hx : s.find? k r.key = some x)
    (hy : (Server.world (.update k r) s).2.find? k r.key = some y) : y.content = x.content := by
  cases hanswer : (Server.world (.update k r) s).1 with
  | error e =>
    rw [Server.world_refused hanswer] at hy
    cases hx.symm.trans hy
    rfl
  | ok a =>
    have hfind := eq_raw_of_taken hledger hraw hversion ⟨a, hanswer⟩
    have hstep := Server.step_world s (.update k r)
    cases hx.symm.trans hfind
    generalize (Server.world (.update k r) s).2 = t at hstep hy
    cases hstep with
    | idle =>
      cases hx.symm.trans hy
      rfl
    | updated hstored _ hstores =>
      cases hx.symm.trans hstored
      cases hstores.here.symm.trans hy
      change Resource.contentWithStatusOf k r.content raw.content = raw.content
      rw [hcontent, Resource.contentWithStatusOf_self]
    | released _ _ hremoves => cases hremoves.here.symm.trans hy

/-- A write-back changes no content but the status, whoever wrote to the object since it was
read. -/
theorem contentKept_of_isWriteBack {log : List AnyResource} {s : Server} {q : StoreRequest}
    (hledger : Server.IsLedger log s) (hraw : ⟨k, raw⟩ ∈ log) (hq : IsWriteBack raw q)
    {key : Key} {x y : Resource k} (hx : s.find? k key = some x)
    (hy : (Server.world q s).2.find? k key = some y) :
    Resource.contentWithStatusOf k x.content y.content = y.content := by
  have hstep := Server.step_world s q
  by_cases hplace : k = q.kind ∧ key = q.key
  · cases hq with
    | held finalizers =>
      obtain ⟨-, rfl⟩ := hplace
      have hcontent := contentKept_of_update hledger hraw
        (r := raw.restated finalizers raw.metadata.resourceVersion raw.content) rfl
        (Resource.contentWithStatusOf_self _) hx hy
      rw [hcontent, Resource.contentWithStatusOf_self]
    | reported status =>
      obtain ⟨-, rfl⟩ := hplace
      rcases Server.place_of_updateStatus hstep with hsame | ⟨stored, hstored, hreported⟩
      · cases hx.symm.trans (hsame.symm.trans hy)
        exact Resource.contentWithStatusOf_self _
      · cases hx.symm.trans hstored
        cases hreported.symm.trans hy
        exact Resource.contentWithStatusOf_status x.content x.content _
  · rw [hstep.elsewhere hplace] at hy
    cases hx.symm.trans hy
    exact Resource.contentWithStatusOf_self _

end Requests

/-! ## Round trip -/

/-- A request that loses nothing of the specification of an object that was read: what is sent has
it, is read as what was sent, and no server that ever stored the object holds another specification
for it. -/
structure KeepsSpec {k : Kind} {Spec : Type} (specOf : Resource k → Spec) (raw : Resource k)
    (q : StoreRequest) : Prop where
  sent : ∃ r : Resource k, (q = .update k r ∨ q = .updateStatus k r) ∧ specOf r = specOf raw ∧
    Resource.decode? k r.toJson = some r
  kept : ∀ log s, Server.Called log s → ⟨k, raw⟩ ∈ log → ∀ key x y, s.find? k key = some x →
    (Server.world q s).2.find? k key = some y → specOf y = specOf x

/-- The programs that write an object back as a whole. -/
def WriteBacksKeepSpec {k : Kind} {Spec : Type} (specOf : Resource k → Spec)
    (raw : Resource k) : Prop :=
  ∀ name : String,
    (addFinalizer raw name).Asks (KeepsSpec specOf raw) ∧
    (removeFinalizer raw name).Asks (KeepsSpec specOf raw) ∧
    (recordStatus raw name).Asks (KeepsSpec specOf raw)

theorem writeBacksKeepSpec_of {k : Kind} {Spec : Type} {specOf : Resource k → Spec}
    {raw : Resource k}
    (hspec : ∀ x y : Resource k,
      Resource.contentWithStatusOf k x.content y.content = y.content → specOf y = specOf x)
    (hsent : ∀ finalizers version status,
      Resource.decode? k (raw.restated finalizers version status).toJson =
        some (raw.restated finalizers version status)) : WriteBacksKeepSpec specOf raw := by
  have hkeeps : ∀ q, IsWriteBack raw q → KeepsSpec specOf raw q := by
    intro q hq
    refine ⟨?_, fun log s hcalled hraw key x y hx hy =>
      hspec x y (contentKept_of_isWriteBack hcalled.isLedger hraw hq hx hy)⟩
    have hsame := fun finalizers status =>
      hspec raw (raw.restated finalizers raw.metadata.resourceVersion status)
        (Resource.contentWithStatusOf_status raw.content raw.content status)
    cases hq with
    | held finalizers => exact ⟨_, Or.inl rfl, hsame _ _, hsent _ _ _⟩
    | reported status => exact ⟨_, Or.inr rfl, hsame _ _, hsent _ _ _⟩
  intro name
  exact ⟨Program.asks_mono hkeeps (asks_addFinalizer_isWriteBack raw name),
    Program.asks_mono hkeeps (asks_removeFinalizer_isWriteBack raw name),
    Program.asks_mono hkeeps (asks_recordStatus_isWriteBack raw name)⟩

theorem Metadata.IsNormal.restated {k : Kind} {raw : Resource k} (h : raw.metadata.IsNormal)
    (finalizers : Option (List String)) (version : Option String) (status : k.Content) :
    (raw.restated finalizers version status).metadata.IsNormal :=
  ⟨h.creationTimestamp, h.deletionGracePeriodSeconds, h.deletionTimestamp, h.generation,
    h.managedFields⟩

theorem writeBacksKeepSpec_gateway {raw : Gateway} (hmetadata : raw.metadata.IsNormal)
    (hspec : raw.content.spec.IsNormal) :
    WriteBacksKeepSpec (k := .gateway) (fun g : Gateway => g.content.spec) raw :=
  writeBacksKeepSpec_of (fun _ _ h => (congrArg Managed.spec h).symm) fun _ _ _ =>
    Resource.decode?_toJson_gateway (hmetadata.restated _ _ _) hspec

theorem writeBacksKeepSpec_controller {raw : Controller} (hmetadata : raw.metadata.IsNormal)
    (hspec : raw.content.spec.IsNormal) :
    WriteBacksKeepSpec (k := .controller) (fun c : Controller => c.content.spec) raw :=
  writeBacksKeepSpec_of (fun _ _ h => (congrArg Managed.spec h).symm) fun _ _ _ =>
    Resource.decode?_toJson_controller (hmetadata.restated _ _ _) hspec

/-- No specification is lost on the wire: desired states, the configuration of the mesh and its
networks are read back as they were written, and what writes desired states back as a whole keeps
their specification. -/
theorem roundTrips_desiredStates :
    (∀ s : GatewaySpec, s.IsNormal → decode (encode s) = some s) ∧
    (∀ s : ControllerSpec, s.IsNormal → decode (encode s) = some s) ∧
    (∀ m : MeshConfig, decode (encode m) = some m) ∧
    (∀ networks : Dict Network, decode (encode networks) = some networks) ∧
    (∀ g : Gateway, g.metadata.IsNormal → g.content.spec.IsNormal →
      WriteBacksKeepSpec (k := .gateway) (fun r => r.content.spec) g) ∧
    (∀ c : Controller, c.metadata.IsNormal → c.content.spec.IsNormal →
      WriteBacksKeepSpec (k := .controller) (fun r => r.content.spec) c) :=
  ⟨fun _ h => h.roundTrips.decode_encode, fun _ h => h.roundTrips.decode_encode,
    fun m => m.roundTrips.decode_encode,
    fun _ => (roundTrips_dict fun e _ => e.2.roundTrips).decode_encode,
    fun _ => writeBacksKeepSpec_gateway, fun _ => writeBacksKeepSpec_controller⟩

/-- A gateway with a toleration, a port and a creation time. -/
def toleratingGateway : Gateway where
  metadata := {
    ns := some "team", name := some "edge", creationTimestamp := some "2024-05-01T00:00:00Z",
    resourceVersion := some "7" }
  content := {
    spec := {
      common := {
        tolerations := [⟨.obj [("key", .str "dedicated"), ("operator", .str "Exists")]⟩] }
      container := { ports := [⟨.obj [("containerPort", .int 80)]⟩] } } }

theorem toleratingGateway_isNormal :
    toleratingGateway.metadata.IsNormal ∧ toleratingGateway.content.spec.IsNormal := by
  refine ⟨⟨?_, nofun, nofun, nofun, nofun⟩, ⟨nofun, ?_, nofun⟩, ⟨nofun, nofun, ?_, nofun, nofun⟩⟩
  · intro t ht
    obtain rfl := Option.some.inj ht
    rfl
  · intro f hf
    obtain rfl := List.mem_singleton.1 hf
    rfl
  · intro f hf
    obtain rfl := List.mem_singleton.1 hf
    rfl

theorem roundTrips_toleratingGateway :
    decode (encode toleratingGateway.content.spec) = some toleratingGateway.content.spec ∧
      WriteBacksKeepSpec (k := .gateway) (fun r => r.content.spec) toleratingGateway := by
  obtain ⟨hmetadata, hspec⟩ := toleratingGateway_isNormal
  obtain ⟨hgateways, -, -, -, hwriteBacks, -⟩ := roundTrips_desiredStates
  exact ⟨hgateways _ hspec, hwriteBacks _ hmetadata hspec⟩

end GatewayOperator
