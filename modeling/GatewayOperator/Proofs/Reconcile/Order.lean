import GatewayOperator.Proofs.Compile.References
import GatewayOperator.Proofs.Reconcile.Calls

/-!
# Consistency and order of compiled objects

What is compiled from an object fits together by itself: the parts of its pod, its maps, and the
names by which its objects refer to each other (`Component.IsConsistent`).

It also appears in an order that fits: when a pass that converges works on an object, it is done
with all that the object refers to (`Component.compiled_refer_consistently`). The induction is on
the list of targets, and what it carries is that every earlier target was worked on and its place
was left alone since (`Target.WorkedIn`).
-/

namespace GatewayOperator

open StoreProgram
open Program (Runs)

/-! ## Steps of a run -/

namespace Target

/-- Among calls that a store has seen until now, a step towards a target succeeded. Its place was as
at first before the step, and is as the step left it since. -/
def WorkedIn (y : Target) (s : Server) (calls : List StoreCall) (now : Server) : Prop :=
  ∃ front first back u v, calls = front ++ first ++ back ∧
    Runs Server.world y.work u first (.ok ()) v ∧
    u.find? y.kind y.key = s.find? y.kind y.key ∧ now.find? y.kind y.key = v.find? y.kind y.key

variable {x y : Target} {s u v : Server} {calls : List StoreCall}

/-- A step at an untouched place. -/
theorem workedIn_of_work {front first : List StoreCall}
    (h : Runs Server.world y.work u first (.ok ()) v)
    (huntouched : u.find? y.kind y.key = s.find? y.kind y.key) : y.WorkedIn s (front ++ first) v :=
  ⟨front, first, [], u, v, by simp, h, huntouched, rfl⟩

/-- Other steps leave it so. -/
theorem WorkedIn.work {more : List StoreCall} (hy : y.WorkedIn s calls u) (hapart : Apart y x)
    (h : Runs Server.world x.work u more (.ok ()) v) : y.WorkedIn s (calls ++ more) v := by
  obtain ⟨front, first, back, u', v', rfl, hwork, huntouched, hkept⟩ := hy
  have hframe : v.find? y.kind y.key = u.find? y.kind y.key :=
    find?_runs_of_about x.asks_work h hapart
  exact ⟨front, first, back ++ more, u', v', by simp, hwork, huntouched, hframe.trans hkept⟩

/-- If nothing failed on the way and nothing was being deleted, there is what the target asks
for. -/
theorem WorkedIn.left (hy : y.WorkedIn s calls v)
    (hanswered : ∀ q ∈ calls, q.IsAnswered Server.world)
    (hstays : ∀ r, s.find? y.kind y.key = some r → r.metadata.isBeingDeleted = false) :
    y.Left s v := by
  obtain ⟨front, first, back, u, u', rfl, hwork, huntouched, hkept⟩ := hy
  have hrun : y.work.run Server.world u = (.ok (), u') :=
    hwork.run_eq fun q hq => hanswered q (by simp [hq])
  exact local_left s y u' v hkept.symm (left_of_work y u u' ⟨huntouched, hstays⟩ hrun)

/-- In a run with these calls one target is done when the step towards another one begins: a step
towards it has succeeded, and what that left is there. -/
def PrecedesIn (y x : Target) (s : Server) (calls : List StoreCall) : Prop :=
  ∃ front second back u v, calls = front ++ second ++ back ∧ y.WorkedIn s front u ∧
    Runs Server.world x.work u second (.ok ()) v ∧
    ((∀ q ∈ front, q.IsAnswered Server.world) →
      (∀ r, s.find? y.kind y.key = some r → r.metadata.isBeingDeleted = false) → y.Left s u)

/-- Calls before and after do not change that. -/
theorem PrecedesIn.within (h : y.PrecedesIn x s calls) (early late : List StoreCall) :
    y.PrecedesIn x s (early ++ calls ++ late) := by
  obtain ⟨front, second, back, u, v, rfl, ⟨before, first, since, u', v', rfl, hrest⟩,
    hwork, hleft⟩ := h
  refine ⟨early ++ (before ++ first ++ since), second, back ++ late, u, v, by simp,
    ⟨early ++ before, first, since, u', v', by simp, hrest⟩, hwork,
    fun hanswered => hleft fun q hq => ?_⟩
  exact hanswered q (List.mem_append_right _ hq)

/-- Targets that refer back are worked on after those that they refer to. -/
theorem precedesIn_of_workAll {excused : Reference → Prop} {earlier xs : List Target}
    {front : List StoreCall} (hapart : (earlier ++ xs).Pairwise Apart)
    (hrefers : RefersBack excused earlier xs) (hworked : ∀ y ∈ earlier, y.WorkedIn s front u)
    (huntouched : ∀ x ∈ xs, u.find? x.kind x.key = s.find? x.kind x.key)
    (h : Runs Server.world (workAll xs) u calls (.ok ()) v) :
    ∀ x ∈ xs, ∀ ref ∈ x.references,
      excused ref ∨ ∃ y ∈ earlier ++ xs, y.IsNamedBy ref ∧ y.PrecedesIn x s (front ++ calls) := by
  induction xs generalizing earlier front u calls with
  | nil => simp
  | cons x xs ih =>
    obtain ⟨hx, hxs⟩ := hrefers
    rw [workAll_cons] at h
    obtain ⟨first, rest, _, w, rfl, hwork, hrest⟩ := h.of_bind_ok
    obtain ⟨-, hlater, hbetween⟩ := List.pairwise_append.1 hapart
    intro z hz
    rcases List.mem_cons.1 hz with rfl | hz
    · intro ref href
      rcases hx ref href with hexcused | ⟨y, hy, hnamed⟩
      · exact Or.inl hexcused
      · have hyx := hworked y hy
        exact Or.inr
          ⟨y, by simp [hy], hnamed, front, first, rest, u, w, by simp, hyx, hwork, hyx.left⟩
    · -- the step just made joins the earlier ones
      have hworked' : ∀ y ∈ earlier ++ [x], y.WorkedIn s (front ++ first) w := by
        intro y hy
        rcases List.mem_append.1 hy with hy | hy
        · exact (hworked y hy).work (hbetween y hy x List.mem_cons_self) hwork
        · obtain rfl := List.mem_singleton.1 hy
          exact workedIn_of_work hwork (huntouched y List.mem_cons_self)
      have huntouched' : ∀ y ∈ xs, w.find? y.kind y.key = s.find? y.kind y.key := by
        intro y hy
        have hframe : w.find? y.kind y.key = u.find? y.kind y.key :=
          find?_runs_of_about x.asks_work hwork fun hplace =>
            (List.pairwise_cons.1 hlater).1 y hy ⟨hplace.1.symm, hplace.2.symm⟩
        exact hframe.trans (huntouched y (List.mem_cons_of_mem x hy))
      have hapart' : ((earlier ++ [x]) ++ xs).Pairwise Apart := by simpa using hapart
      have hall := ih hapart' hxs hworked' huntouched' hrest z hz
      simpa using hall

end Target

namespace Component

variable {c : Component} {settings : PassSettings} {raw : Resource c.kind} {s t : Server}
  {calls : List StoreCall}

/-! ## Consistency -/

/-- Whether the settings ask for a token in the pod. -/
def AsksToken : (c : Component) → Resource c.kind → Prop
  | .gateway, g => g.content.spec.common.jwtPolicy = "third-party-jwt"
  | .controller, r =>
    r.content.spec.runsEmbeddedDiscovery = true ∧ r.content.spec.pilotJwtPolicy = "third-party-jwt"

/-- The maps that the pod takes files from are compiled. A controller has none. -/
def MapsAgree : (c : Component) → Resource c.kind → Prop
  | .gateway, g => GatewayCompile.MapsAgree g (gateway.pod g)
  | .controller, r => ∀ v ∈ (controller.pod r).volumeList, v.configMap? = none

/-- The names by which compiled objects refer to each other. -/
structure NamesAgree (c : Component) (owner : Resource c.kind) : Prop where
  account : (c.serviceAccount owner).key = ⟨owner.metadata.ns, (c.pod owner).serviceAccountName⟩
  roles : (c.access owner).role.key = ⟨owner.metadata.ns, (c.pod owner).serviceAccountName⟩ ∧
    (c.access owner).clusterRole.key = ⟨none, (c.pod owner).serviceAccountName⟩
  roleRefs : (c.access owner).roleBinding.content.roleRef =
      ⟨"rbac.authorization.k8s.io", "Role", (c.pod owner).serviceAccountName⟩ ∧
    (c.access owner).clusterRoleBinding.content.roleRef =
      ⟨"rbac.authorization.k8s.io", "ClusterRole", (c.pod owner).serviceAccountName⟩
  subjects : ∀ b ∈
      [(c.access owner).roleBinding.content, (c.access owner).clusterRoleBinding.content],
    b.subjects = some
      [⟨none, "ServiceAccount", (c.pod owner).serviceAccountName, some owner.metadata.nsOrEmpty⟩]
  autoscaler : ∀ (a : AutoscalingSettings) (version : AutoscalingVersion),
    ∃ x, (c.autoscaler owner a version).scaleTarget? = some x ∧ x.kind = "Deployment" ∧
      (c.autoscaler owner a version).key.ns = (c.deployment owner).key.ns ∧
      x.name = (c.deployment owner).key.name

/-- What is compiled from an object fits together. -/
structure IsConsistent (c : Component) (owner : Resource c.kind) : Prop where
  rendered : (c.deployment owner).podSpec? = some (c.pod owner).toJson
  coherent : (c.pod owner).IsCoherent
  token : (∃ m, (c.pod owner).Mounts m ∧ m.path = "/var/run/secrets/tokens") ↔ c.AsksToken owner
  maps : c.MapsAgree owner
  names : c.NamesAgree owner

theorem namesAgree (c : Component) (owner : Resource c.kind) : c.NamesAgree owner where
  account := by cases c <;> rfl
  roles := by cases c <;> exact ⟨rfl, rfl⟩
  roleRefs := by cases c <;> exact ⟨rfl, rfl⟩
  subjects b hb := by
    simp only [List.mem_cons, List.not_mem_nil, or_false] at hb
    cases c <;> rcases hb with rfl | rfl <;> rfl
  autoscaler a version := by
    refine ⟨⟨some "apps/v1", "Deployment", owner.metadata.anyName⟩, ?_, rfl, ?_, ?_⟩
    · cases version <;> rfl
    · rw [key_deployment]
      cases version <;> rfl
    · rw [key_deployment]

theorem isConsistent (c : Component) (owner : Resource c.kind) : c.IsConsistent owner where
  rendered := podSpec?_compiled owner
  coherent := by
    cases c with
    | gateway => exact GatewayCompile.isCoherent_pod _ _ _
    | controller => exact ControllerCompile.isCoherent_pod _ _ _
  token := by
    cases c with
    | gateway => exact GatewayCompile.mounts_token_iff _ _ _
    | controller => exact ControllerCompile.mounts_token_iff _ _ _
  maps := by
    cases c with
    | gateway => exact GatewayCompile.maps_agree _ _ _
    | controller => exact configMap?_controller owner
  names := namesAgree c owner

/-! ## Order -/

/-- What converges was compiled, and all of it was worked on. -/
theorem runs_converge_ok {owner : Resource c.kind}
    (h : Runs Server.world (c.converge settings owner) s calls (.ok ()) t) :
    ∃ xs, c.targets settings owner = .ok xs ∧
      Runs Server.world (Target.workAll xs) s calls (.ok ()) t := by
  cases hxs : c.targets settings owner with
  | ok xs => exact ⟨xs, rfl, converge_of_targets hxs ▸ h⟩
  | error e =>
    rw [converge_eq, hxs] at h
    obtain ⟨front, back, _, u, -, -, hend⟩ := h.of_bind_ok
    cases hend

/-- The work on compiled objects begins in a store where nothing has happened at their places. -/
theorem runs_between_ok {ns : String} (hns : raw.metadata.ns = some ns)
    {stored : Option (Resource c.kind)}
    (h : Runs Server.world (c.between settings raw stored) s calls (.ok ()) t) :
    ∃ xs front back u, c.targets settings (c.withDefaults raw) = .ok xs ∧ calls = front ++ back ∧
      Runs Server.world (Target.workAll xs) u back (.ok ()) t ∧
      ∀ x ∈ xs, u.find? x.kind x.key = s.find? x.kind x.key := by
  obtain ⟨front, rest, _, v, rfl, hinstall, hrest⟩ := h.of_bind_ok
  rw [releasePrevious_eq_releaseAll] at hrest
  obtain ⟨mid, back, _, u, rfl, hrelease, hconverge⟩ := hrest.of_bind_ok
  obtain ⟨xs, hxs, hwork⟩ := runs_converge_ok hconverge
  refine ⟨xs, front ++ mid, back, u, hxs, by simp, hwork, ?_⟩
  intro x hx
  have hinstalled : v.find? x.kind x.key = s.find? x.kind x.key :=
    (find?_runs hinstall fun q hq habout => (isCompiled_of_targets hxs x hx).notDefinition
      (habout.1.symm.trans (hinstall.asks asks_install_definition q hq))).2
  have hreleased : u.find? x.kind x.key = v.find? x.kind x.key :=
    find?_runs_releaseAll (ne_place_of_mem_previousReleases hns (reached_of_targets hxs ▸ hx))
      hrelease
  exact hreleased.trans hinstalled

/-- Everything that a settled object makes refer to something else appears after that. -/
theorem precedesIn_of_settle {ns : String} (hns : raw.metadata.ns = some ns)
    (henabled : (c.common (c.withDefaults raw)).serviceAccountEnabled = true)
    (h : Runs Server.world (c.settle settings raw) s calls (.ok ()) t) :
    ∃ xs, c.targets settings (c.withDefaults raw) = .ok xs ∧ ∀ x ∈ xs, ∀ ref ∈ x.references,
      c.IsRootCertificate (c.withDefaults raw) ref ∨
        ∃ y ∈ xs, y.IsNamedBy ref ∧ y.PrecedesIn x s calls := by
  rw [settle_eq] at h
  obtain ⟨adds, rest, stored, u, rfl, hadd, hrest⟩ := h.of_bind_ok
  obtain ⟨mid, last, _, v, rfl, hbetween, -⟩ := hrest.of_bind_ok
  obtain ⟨xs, front, back, w, hxs, rfl, hwork, huntouched⟩ := runs_between_ok hns hbetween
  have hcompiled := isCompiled_of_targets hxs
  have hadded : ∀ x ∈ xs, w.find? x.kind x.key = s.find? x.kind x.key := by
    intro x hx
    have hframe : u.find? x.kind x.key = s.find? x.kind x.key :=
      find?_runs_of_about (asks_addFinalizer raw c.finalizer) hadd fun hplace =>
        ne_kind_of_isDependent (hcompiled x hx).dependent hplace.1
    exact (huntouched x hx).trans hframe
  have hnone : ∀ y ∈ ([] : List Target), y.WorkedIn s (adds ++ front) w := by simp
  have hall := Target.precedesIn_of_workAll (targets_apart hxs) (refersBack_targets henabled hxs)
    hnone hadded hwork
  refine ⟨xs, hxs, fun x hx ref href => ?_⟩
  rcases hall x hx ref href with hroot | ⟨y, hy, hnamed, hprecedes⟩
  · exact Or.inl hroot
  · exact Or.inr ⟨y, hy, hnamed, by simpa using hprecedes.within [] last⟩

/-- What is compiled from an object fits together. With a service account, a pass that converges is
done with everything that an object refers to when it begins to work on the object, the mesh's root
certificate excepted. -/
theorem compiled_refer_consistently :
    (∀ (c : Component) (owner : Resource c.kind), c.IsConsistent owner) ∧
      ∀ (c : Component) (settings : PassSettings) (ns name : String) (s t : Server)
        (calls : List StoreCall),
        Runs Server.world (c.pass settings (.inNamespace ns name)) s calls (.ok .converged) t →
        ∃ raw, s.find? c.kind (.inNamespace ns name) = some raw ∧
          ((c.common (c.withDefaults raw)).serviceAccountEnabled = true →
            ∃ xs, c.targets settings (c.withDefaults raw) = .ok xs ∧ ∀ x ∈ xs, ∀ ref ∈ x.references,
              c.IsRootCertificate (c.withDefaults raw) ref ∨
                ∃ y ∈ xs, y.IsNamedBy ref ∧ y.PrecedesIn x s calls) := by
  refine ⟨isConsistent, ?_⟩
  intro c settings ns name s t calls h
  obtain ⟨raw, hraw⟩ : ∃ raw, s.find? c.kind (.inNamespace ns name) = some raw := by
    cases isPassRun_of_pass h with
    | idle _ _ hother => exact absurd rfl hother
    | teardown raw _ _ _ hraw => exact ⟨raw, hraw⟩
    | settle raw _ _ _ hraw => exact ⟨raw, hraw⟩
  refine ⟨raw, hraw, fun henabled => ?_⟩
  obtain ⟨-, reads, rest, rfl, hsettle⟩ := settle_of_converged hraw h
  obtain ⟨xs, hxs, hall⟩ := precedesIn_of_settle (Server.ns_of_find? hraw) henabled hsettle
  refine ⟨xs, hxs, fun x hx ref href => ?_⟩
  rcases hall x hx ref href with hroot | ⟨y, hy, hnamed, hprecedes⟩
  · exact Or.inl hroot
  · exact Or.inr ⟨y, hy, hnamed, by simpa using hprecedes.within reads []⟩

/-- The service account of a gateway is there before its Deployment. -/
theorem compiled_refer_consistently_groupedStore :
    gateway.IsConsistent (gateway.withDefaults appliedGateway) ∧
      ∃ calls t,
        Runs Server.world (gateway.pass {} (.inNamespace "higress-system" "edge")) groupedStore
          calls (.ok .converged) t ∧
        ∃ y : Target, y.IsNamedBy ⟨.serviceAccount, "higress-system", "higress-gateway"⟩ ∧
          y.PrecedesIn (.settled (gateway.deployment (gateway.withDefaults appliedGateway)))
            groupedStore calls := by
  refine ⟨compiled_refer_consistently.1 .gateway _, ?_⟩
  have hend :
      ((gateway.pass {} (.inNamespace "higress-system" "edge")).run Server.world groupedStore).1 =
        .ok .converged := rfl
  obtain ⟨calls, hruns⟩ := Program.runs_of_run (Prod.ext hend rfl)
  refine ⟨calls, _, hruns, ?_⟩
  obtain ⟨raw, hraw, hall⟩ :=
    compiled_refer_consistently.2 .gateway {} "higress-system" "edge" groupedStore _ calls hruns
  cases hraw
  obtain ⟨xs, hxs, hrefs⟩ := hall rfl
  obtain ⟨ms, -, rfl⟩ := targets_eq hxs
  have hmem : (⟨.serviceAccount, "higress-system", "higress-gateway"⟩ : Reference) ∈
      (Target.settled (gateway.deployment (gateway.withDefaults appliedGateway))).references := by
    show _ ∈ (gateway.deployment (gateway.withDefaults appliedGateway)).podReferences
    rw [podReferences_compiled]
    exact List.mem_cons_self
  rcases hrefs _ (by simp) _ hmem with hroot | ⟨y, -, hnamed, hprecedes⟩
  · cases hroot
  · exact ⟨y, hnamed, hprecedes⟩

end Component

end GatewayOperator
