import GatewayOperator.Proofs.Reconcile.HandsOff
import GatewayOperator.Proofs.Reconcile.Undisturbed
import Mathlib.Data.List.Pairwise

/-!
# Accounts that objects of two namespaces share

What belongs to a namespace is worked on by the objects of the namespace only, but the role and the
binding of the cluster are named after a service account, and objects of two namespaces may have
accounts of one name. Each of them then writes its own labels, and its component's rules, over the
other one's. `AgreeOnAccess` says when that makes no difference, and `rests_iff_agree` that
everything depends on it: after a converged pass of both objects no further pass of either of them
writes anything if they agree, and the next pass changes the role if they do not.
-/

namespace GatewayOperator

open StoreProgram

namespace Component

variable {c c₁ c₂ : Component} {settings : PassSettings} {raw : Resource c.kind}
  {raw₁ : Resource c₁.kind} {raw₂ : Resource c₂.kind} {s t u : Server}
  {ns ns₁ ns₂ name₁ name₂ : String} {xs ys : List Target} {x y : Target}

/-! ## What is shared -/

/-- An object that asks for a service account and for its access rules. -/
structure ManagesAccess (c : Component) (raw : Resource c.kind) : Prop where
  account : (c.common (c.withDefaults raw)).serviceAccountEnabled = true
  rbac : (c.common (c.withDefaults raw)).rbacEnabled = true

/-- Two objects that can write what they share in turns: whenever both manage access of accounts of
one name, their labels do not contradict each other. -/
def AgreeOnAccess (c₁ : Component) (raw₁ : Resource c₁.kind) (c₂ : Component)
    (raw₂ : Resource c₂.kind) : Prop :=
  c₁.account raw₁ = c₂.account raw₂ → c₁.ManagesAccess raw₁ → c₂.ManagesAccess raw₂ →
    (standardLabels raw₁ c₁.label).TakesTurns (standardLabels raw₂ c₂.label)

/-- Labels name the component and its object, so objects that agree are of one kind and have one
name. -/
theorem eq_of_takesTurns
    (h : (standardLabels raw₁ c₁.label).TakesTurns (standardLabels raw₂ c₂.label)) :
    c₁ = c₂ ∧ raw₁.metadata.anyName = raw₂.metadata.anyName := by
  have hlabel : c₁.label = c₂.label :=
    h.values "app.kubernetes.io/name" _ _ (by simp [standardLabels, Dict.get?_insert])
      (by simp [standardLabels, Dict.get?_insert])
  refine ⟨?_, h.values "app.kubernetes.io/instance" _ _ (by simp [standardLabels, Dict.get?_insert])
    (by simp [standardLabels, Dict.get?_insert])⟩
  cases c₁ <;> cases c₂ <;> first | rfl | exact absurd hlabel (by decide)

/-- The role of the cluster that is compiled from an object. -/
def clusterRole (c : Component) (raw : Resource c.kind) : Resource .clusterRole :=
  ⟨clusterMetadata (c.account raw) (standardLabels raw c.label), { rules := some c.rules }⟩

/-- The binding of the cluster that is compiled from an object. -/
def clusterRoleBinding (c : Component) (raw : Resource c.kind) : Resource .clusterRoleBinding :=
  ⟨clusterMetadata (c.account raw) (standardLabels raw c.label),
    ⟨roleRefTo .clusterRole (c.account raw),
      some [Subject.serviceAccount (c.account raw) raw.metadata.nsOrEmpty]⟩⟩

theorem access_clusterRole : (c.access (c.withDefaults raw)).clusterRole = c.clusterRole raw := by
  cases c <;> rfl

theorem access_clusterRoleBinding :
    (c.access (c.withDefaults raw)).clusterRoleBinding = c.clusterRoleBinding raw := by
  cases c <;> rfl

theorem ns_of_isWorkload {name : String} {k : Kind} {place : Key} (h : IsWorkload ns name k place) :
    place.ns = some ns := by
  cases h <;> rfl

/-- What is compiled from an object is in its namespace, but for the role and the binding of the
cluster. -/
theorem ns_of_reached (hns : raw.metadata.ns = some ns)
    (hx : x ∈ c.reached settings (c.withDefaults raw)) :
    x.key.ns = some ns ∨ c.ManagesAccess raw ∧
      (x = .settled (c.clusterRole raw) ∨ x = .settled (c.clusterRoleBinding raw)) := by
  have hns' : (c.withDefaults raw).metadata.ns = some ns := by rw [metadata_withDefaults, hns]
  have henabled (haccess : x.kind.isAccess = true) : c.ManagesAccess raw := by
    obtain ⟨haccount, hrbac⟩ := isAccess_of_reached hns' hx haccess
    exact ⟨haccount, hrbac⟩
  rcases isWorkload_of_reached hns' hx with hidentity | hworkload
  · rw [identity_eq] at hidentity
    rcases of_mem_identityTargets hidentity with rfl | rfl | rfl | rfl | rfl
    · exact Or.inl hns'
    · exact Or.inl hns'
    · exact Or.inl hns'
    · exact Or.inr ⟨henabled rfl, Or.inl (congrArg Target.settled access_clusterRole)⟩
    · exact Or.inr ⟨henabled rfl, Or.inr (congrArg Target.settled access_clusterRoleBinding)⟩
  · exact Or.inl (ns_of_isWorkload hworkload)

/-- Where access is managed, the role of the cluster is compiled, after objects of the namespace
only. -/
theorem targets_of_managesAccess (hns : raw.metadata.ns = some ns) (hmanages : c.ManagesAccess raw)
    (hxs : c.targets settings (c.withDefaults raw) = .ok xs) :
    ∃ front back, xs = front ++ .settled (c.clusterRole raw) :: back ∧
      ∀ x ∈ front, x.key.ns = some ns := by
  have hns' : (c.withDefaults raw).metadata.ns = some ns := by rw [metadata_withDefaults, hns]
  obtain ⟨ms, -, rfl⟩ := targets_eq hxs
  have hidentity : identityTargets (c.withDefaults raw) (c.common (c.withDefaults raw)) c.label
      c.rules = [.present (c.serviceAccount (c.withDefaults raw)),
        .settled (c.access (c.withDefaults raw)).role,
        .settled (c.access (c.withDefaults raw)).roleBinding] ++ .settled (c.clusterRole raw) ::
        [.settled (c.access (c.withDefaults raw)).clusterRoleBinding] := by
    simp only [identityTargets, hmanages.account, hmanages.rbac, if_true]
    rw [← access_clusterRole]
    rfl
  rw [hidentity, List.append_assoc]
  refine ⟨_, _, rfl, fun x hx => ?_⟩
  simp only [List.mem_cons, List.not_mem_nil, or_false] at hx
  rcases hx with rfl | rfl | rfl <;> exact hns'

/-! ## What withstands what -/

/-- Definitions withstand every pass with the same settings. -/
theorem withstands_of_definition {ds : List Target} (hds : c₁.definitionTargets settings = .ok ds)
    (hapart : ds.Pairwise Target.Apart) (hx : x ∈ ds) (hy : c₂.IsTargetOf settings raw₂ y) :
    x.Withstands y := by
  have hkind := (kind_of_definitionTargets hds x hx).1
  rcases hy with ⟨es, hes, hy⟩ | hy
  · -- whoever installs definitions installs the same ones
    have hsame : ds = es := by
      cases c₁ with
      | gateway =>
        cases hds
        cases hx
      | controller =>
        cases c₂ with
        | gateway =>
          cases hes
          cases hy
        | controller => exact Except.ok.inj (hds.symm.trans hes)
    subst hsame
    by_cases heq : x = y
    · subst heq
      obtain ⟨d, rfl⟩ := settled_of_definitionTargets hds x hx
      exact .refl trivial
    · have hsymm : Std.Symm Target.Apart := ⟨fun _ _ h hp => h ⟨hp.1.symm, hp.2.symm⟩⟩
      exact .apart (hapart.forall hx hy heq)
  · exact .apart fun hplace => (isCompiled_of_reached y hy).notDefinition
      (hplace.1.symm.trans hkind)

/-- What is compiled in one namespace withstands every pass of an object of another one. -/
theorem withstands_of_ns (hne : ns₁ ≠ ns₂) (hns₂ : raw₂.metadata.ns = some ns₂)
    (hx : x.key.ns = some ns₁) (hnot : x.kind ≠ .definition) (hy : c₂.IsTargetOf settings raw₂ y) :
    x.Withstands y := by
  refine .apart fun hplace => ?_
  rcases hy with ⟨es, hes, hy⟩ | hy
  · exact hnot (hplace.1.trans (kind_of_definitionTargets hes y hy).1)
  · rw [hplace.2] at hx
    rcases ns_of_reached hns₂ hy with hy | ⟨-, rfl | rfl⟩
    · exact hne (Option.some.inj (hx.symm.trans hy))
    · cases hx
    · cases hx

/-- Objects that agree withstand each other at the places that they share. -/
theorem withstands_of_agree (hne : ns₁ ≠ ns₂) (hns₁ : raw₁.metadata.ns = some ns₁)
    (hns₂ : raw₂.metadata.ns = some ns₂) (hagree : AgreeOnAccess c₁ raw₁ c₂ raw₂)
    (hxs : c₁.targets settings (c₁.withDefaults raw₁) = .ok xs) (hx : x ∈ xs)
    (hy : c₂.IsTargetOf settings raw₂ y) : x.Withstands y := by
  have hnot := (isCompiled_of_targets hxs x hx).notDefinition
  rcases ns_of_reached hns₁ (reached_of_targets hxs ▸ hx) with hns | ⟨hmanages₁, hshared₁⟩
  · exact withstands_of_ns hne hns₂ hns hnot hy
  by_cases hapart : x.Apart y
  · exact .apart hapart
  obtain ⟨hkind, hkey⟩ : x.kind = y.kind ∧ x.key = y.key := Decidable.not_not.1 hapart
  -- the other object compiles a role or a binding of the cluster too, for an account of the same
  -- name
  have hshared₂ : c₂.ManagesAccess raw₂ ∧
      (y = .settled (c₂.clusterRole raw₂) ∨ y = .settled (c₂.clusterRoleBinding raw₂)) := by
    rcases hy with ⟨es, hes, hy⟩ | hy
    · exact absurd (hkind.trans (kind_of_definitionTargets hes y hy).1) hnot
    · refine (ns_of_reached hns₂ hy).resolve_left fun hns => ?_
      rw [← hkey] at hns
      rcases hshared₁ with rfl | rfl <;> cases hns
  obtain ⟨hmanages₂, hshared₂⟩ := hshared₂
  have hnamed : c₁.account raw₁ = c₂.account raw₂ := by
    rcases hshared₁ with rfl | rfl <;> rcases hshared₂ with rfl | rfl <;>
      exact congrArg Key.name hkey
  have hturn := hagree hnamed hmanages₁ hmanages₂
  rcases hshared₁ with rfl | rfl <;> rcases hshared₂ with rfl | rfl
  · refine .turns fun r hsame => ?_
    have hself := Resource.clusterRole_eq_of_sameAs hsame
    unfold clusterRole at hself ⊢
    obtain rfl := (eq_of_takesTurns hturn).1
    rw [hnamed] at hself ⊢
    exact Resource.clusterRole_turn hself hturn
  · cases hkind
  · cases hkind
  · refine .turns fun r hsame => ?_
    have hself := Resource.clusterRoleBinding_eq_of_sameAs hsame
    unfold clusterRoleBinding at hself ⊢
    rw [hnamed] at hself ⊢
    exact Resource.clusterRoleBinding_turn hself hturn

/-- Releases of one namespace leave quiet what is compiled from objects of another one. -/
theorem isQuiet_of_release {b : Binding} {account : String} (hne : ns₁ ≠ ns₂)
    (hns₁ : raw₁.metadata.ns = some ns₁) (hx : c₁.IsTargetOf settings raw₁ x)
    (h : (b.release account ns₂).run Server.world s = (.ok (), t)) (hs : s.IsUnheld)
    (hquiet : x.IsQuiet s) : x.IsQuiet t := by
  by_cases hapart : ¬ (x.kind = b.kind ∧ x.key = b.key account ns₂)
  · exact Target.local_isQuiet x s t (Binding.find?_release h hapart).symm hquiet
  obtain ⟨hkind, hkey⟩ := Decidable.not_not.1 hapart
  rcases hx with ⟨ds, hds, hx⟩ | hx
  · rw [(kind_of_definitionTargets hds x hx).1] at hkind
    cases b <;> cases hkind
  · have hns' : (c₁.withDefaults raw₁).metadata.ns = some ns₁ := by rw [metadata_withDefaults, hns₁]
    obtain ⟨d, rfl, hd⟩ := binding_of_reached hns' b hx hkind
    cases b with
    | role =>
      rw [Target.key_settled, hd.key] at hkey
      exact absurd (Option.some.inj (congrArg Key.ns hkey)) hne
    | cluster =>
      refine Binding.settled_of_release (fun y hy => ?_) h hs hquiet
      have hsubjects : d.content.subjects.getD [] = _ := hd.subjects
      rw [hsubjects, List.mem_singleton] at hy
      subst hy
      simp [Subject.isAccount, Subject.serviceAccount, hne]

/-! ## Two passes -/

/-- A converged pass of one object, and after it one of an object of another namespace. -/
structure InTurn (settings : PassSettings) (c₁ : Component) (ns₁ name₁ : String)
    (raw₁ : Resource c₁.kind) (c₂ : Component) (ns₂ name₂ : String) (raw₂ : Resource c₂.kind)
    (t u : Server) : Prop where
  ne : ns₁ ≠ ns₂
  ns_first : raw₁.metadata.ns = some ns₁
  ns_second : raw₂.metadata.ns = some ns₂
  stays_first : raw₁.metadata.isBeingDeleted = false
  stays_second : raw₂.metadata.isBeingDeleted = false
  found : t.find? c₂.kind (.inNamespace ns₂ name₂) = some raw₂
  unheld : t.IsUnheld
  first : c₁.Converged settings (.inNamespace ns₁ name₁) Target.IsQuiet raw₁ t
  second : c₂.Converged settings (.inNamespace ns₂ name₂) Target.IsQuiet raw₂ u
  stages : Nonempty (Stages c₂ settings raw₂ t u)

/-- A pass that converges leaves other objects as they are that passes run on. -/
theorem find?_of_converged
    (h : (c₁.pass settings (.inNamespace ns₁ name₁)).run Server.world s = (.ok .converged, t))
    (hplace : ¬ (c₂.kind = c₁.kind ∧ Key.inNamespace ns₂ name₂ = .inNamespace ns₁ name₁)) :
    t.find? c₂.kind (.inNamespace ns₂ name₂) = s.find? c₂.kind (.inNamespace ns₂ name₂) := by
  obtain ⟨raw, hraw, hstays, -, hsettle⟩ := settle_of_pass h
  obtain ⟨stages⟩ := stages_of_settle hsettle
  exact stages.find?_independent hraw hstays isDependent_kind_eq_false hplace

/-- A pass that converges leaves everything quiet that it worked on, and nothing is held back after
it. -/
theorem quiet_of_pass (hs : s.IsUnheld)
    (h : (c.pass settings (.inNamespace ns name)).run Server.world s = (.ok .converged, t)) :
    ∃ raw, s.find? c.kind (.inNamespace ns name) = some raw ∧ raw.metadata.isBeingDeleted = false ∧
      c.Converged settings (.inNamespace ns name) Target.IsQuiet raw t ∧
      Nonempty (Stages c settings raw s t) ∧ t.IsUnheld := by
  obtain ⟨raw, hraw, hstays, hconverged⟩ :=
    converged_of_pass Target.local_isFree Target.local_isQuiet Target.isQuiet_of_work
      (fun raw _ x hx => hx.isFree fun r hr => hs _ _ r hx.isDependent hr) h
  obtain ⟨_, hfound, -, -, hsettle⟩ := settle_of_pass h
  cases hraw.symm.trans hfound
  obtain ⟨stages⟩ := stages_of_settle hsettle
  exact ⟨raw, hraw, hstays, hconverged, ⟨stages⟩, stages.isUnheld hs⟩

theorem inTurn_of_passes (hne : ns₁ ≠ ns₂) (hs : s.IsUnheld)
    (h₁ : (c₁.pass settings (.inNamespace ns₁ name₁)).run Server.world s = (.ok .converged, t))
    (h₂ : (c₂.pass settings (.inNamespace ns₂ name₂)).run Server.world t = (.ok .converged, u)) :
    ∃ raw₁ raw₂, s.find? c₁.kind (.inNamespace ns₁ name₁) = some raw₁ ∧
      s.find? c₂.kind (.inNamespace ns₂ name₂) = some raw₂ ∧
      InTurn settings c₁ ns₁ name₁ raw₁ c₂ ns₂ name₂ raw₂ t u := by
  obtain ⟨raw₁, hraw₁, hstays₁, hconverged₁, -, ht⟩ := quiet_of_pass hs h₁
  obtain ⟨raw₂, hraw₂, hstays₂, hconverged₂, hstages, -⟩ := quiet_of_pass ht h₂
  have hplace : ¬ (c₂.kind = c₁.kind ∧ Key.inNamespace ns₂ name₂ = .inNamespace ns₁ name₁) :=
    fun hplace => hne (Option.some.inj (congrArg Key.ns hplace.2)).symm
  exact ⟨raw₁, raw₂, hraw₁, (find?_of_converged h₁ hplace).symm.trans hraw₂,
    ⟨hne, Server.ns_of_find? hraw₁, Server.ns_of_find? hraw₂, hstays₁, hstays₂, hraw₂, ht,
      hconverged₁, hconverged₂, hstages⟩⟩

namespace InTurn

variable (h : InTurn settings c₁ ns₁ name₁ raw₁ c₂ ns₂ name₂ raw₂ t u)

include h

/-- What the first pass left quiet is quiet after the second one, if it withstands that. -/
theorem isQuiet (hx : c₁.IsTargetOf settings raw₁ x)
    (hwithstands : ∀ y, c₂.IsTargetOf settings raw₂ y → x.Withstands y) (hquiet : x.IsQuiet t) :
    x.IsQuiet u := by
  obtain ⟨stages⟩ := h.stages
  have hkept : u.IsUnheld ∧ x.IsQuiet u := by
    refine stages.keeps (I := fun s => s.IsUnheld ∧ x.IsQuiet s)
      (fun s v hframe _ hs => ⟨fun k key r hk hr => ?_, ?_⟩)
      (fun b account s v hrun hs => ⟨Binding.isUnheld_of_release hrun hs.1, ?_⟩)
      (fun y hy s v hrun hs => ⟨?_, ?_⟩) ⟨h.unheld, hquiet⟩
    · exact hs.1 k key r hk (hframe k key hk ▸ hr)
    · exact Target.local_isQuiet x s v (hframe _ _ hx.isDependent).symm hs.2
    · rw [Metadata.nsOrEmpty_of_ns h.ns_second] at hrun
      exact isQuiet_of_release h.ne h.ns_first hx hrun hs.1 hs.2
    · exact Target.isUnheld_of_work hy.isUnmarked hy.isDependent hrun hs.1
    · exact Target.isQuiet_of_withstood (hwithstands y hy) hy.isDependent hrun hs.1 hs.2
  exact hkept.2

/-- The second pass leaves alone the object of the first one, its namespace and its definitions. -/
theorem converged {Q : Target → Server → Prop}
    (hdefinition : ∀ x : Target, x.kind = .definition → x.IsQuiet u → Q x u)
    (hcompiled : ∀ xs, c₁.targets settings (c₁.withDefaults raw₁) = .ok xs → ∀ x ∈ xs,
      x.IsQuiet t → Q x u) :
    c₁.Converged settings (.inNamespace ns₁ name₁) Q raw₁ u := by
  obtain ⟨stages⟩ := h.stages
  obtain ⟨ds, hds, hinstalled⟩ := h.first.installed
  obtain ⟨xs, hxs, hquiet⟩ := h.first.compiled
  have hobject : u.find? c₁.kind (.inNamespace ns₁ name₁) =
      t.find? c₁.kind (.inNamespace ns₁ name₁) :=
    stages.find?_independent h.found h.stays_second isDependent_kind_eq_false
      fun hplace => h.ne (Option.some.inj (congrArg Key.ns hplace.2))
  refine ⟨?_, ?_, ⟨ds, hds, fun hapart x hx => ?_⟩, ⟨xs, hxs, fun x hx => ?_⟩⟩
  · rw [stages.isActive_eq]
    exact h.first.active
  · rw [hobject]
    exact h.first.object
  · refine hdefinition x (kind_of_definitionTargets hds x hx).1 ?_
    exact h.isQuiet (Or.inl ⟨ds, hds, hx⟩) (fun y hy => withstands_of_definition hds hapart hx hy)
      (hinstalled hapart x hx)
  · exact hcompiled xs hxs x hx (hquiet x hx)

/-- Between objects that agree, the second pass leaves everything quiet that the first one worked
on. -/
theorem quiet_of_agree (hagree : AgreeOnAccess c₁ raw₁ c₂ raw₂) :
    c₁.Converged settings (.inNamespace ns₁ name₁) Target.IsQuiet raw₁ u :=
  h.converged (fun _ _ hquiet => hquiet) fun _ hxs _ hx hquiet =>
    h.isQuiet (isTargetOf_of_targets hxs hx)
      (fun _ hy => withstands_of_agree h.ne h.ns_first h.ns_second hagree hxs hx hy) hquiet

/-- In any case it leaves quiet what is in the namespace of the first one. -/
theorem quiet_in_ns : c₁.Converged settings (.inNamespace ns₁ name₁)
    (fun x s => x.kind = .definition ∨ x.key.ns = some ns₁ → x.IsQuiet s) raw₁ u :=
  h.converged (fun _ _ hquiet _ => hquiet) fun xs hxs x hx hquiet hplace => by
    have hnot := (isCompiled_of_targets hxs x hx).notDefinition
    exact h.isQuiet (isTargetOf_of_targets hxs hx)
      (fun _ hy => withstands_of_ns h.ne h.ns_second (hplace.resolve_left hnot) hnot hy) hquiet

theorem isUnheld_second : u.IsUnheld := by
  obtain ⟨stages⟩ := h.stages
  exact stages.isUnheld h.unheld

/-- Where roles of the cluster are refused, the second pass leaves them as they are. -/
theorem find?_of_refused (hrefused : t.rejects .clusterRole = true) (account : String) :
    u.find? .clusterRole (.inCluster account) = t.find? .clusterRole (.inCluster account) := by
  obtain ⟨stages⟩ := h.stages
  have hkept : u.rejects .clusterRole = true ∧
      u.find? .clusterRole (.inCluster account) = t.find? .clusterRole (.inCluster account) := by
    refine stages.keeps (I := fun s => s.rejects .clusterRole = true ∧
        s.find? .clusterRole (.inCluster account) = t.find? .clusterRole (.inCluster account))
      (fun s v hframe hrejected hs => ⟨?_, (hframe _ _ rfl).trans hs.2⟩)
      (fun b other s v hrun hs => ⟨?_, (Binding.find?_release hrun ?_).trans hs.2⟩)
      (fun y hy s v hrun hs => ?_) ⟨hrefused, rfl⟩
    · rw [Server.rejects, hrejected]
      exact hs.1
    · exact (rejects_of_run hrun _).trans hs.1
    · rintro ⟨hkind, -⟩
      cases b <;> cases hkind
    · refine ⟨(rejects_of_run hrun _).trans hs.1, ?_⟩
      by_cases hapart : ¬ (Kind.clusterRole = y.kind ∧ Key.inCluster account = y.key)
      · exact (Target.find?_work hrun hapart).trans hs.2
      -- the one target that may be at such a place is settled by a convergence
      obtain ⟨hkind, hkey⟩ := Decidable.not_not.1 hapart
      have hrole : y = .settled (c₂.clusterRole raw₂) := by
        rcases hy with ⟨ds, hds, hy⟩ | hy
        · exact absurd (hkind.trans (kind_of_definitionTargets hds y hy).1) (by simp)
        · rcases ns_of_reached h.ns_second hy with hns | ⟨-, rfl | rfl⟩
          · rw [← hkey] at hns
            cases hns
          · rfl
          · cases hkind
      subst hrole
      obtain ⟨o, w, hconverge, hend⟩ := Program.run_bind_ok.1 hrun
      cases hend
      rw [convergeTo_refused hs.1 hconverge]
      exact hs.2
  exact hkept.2

end InTurn

/-- Where nothing is refused, an object converges also after the pass of another object. -/
theorem pass_converges_after {ds : List Target}
    (hplace : ¬ (c₂.kind = c₁.kind ∧ Key.inNamespace ns₂ name₂ = .inNamespace ns₁ name₁))
    (h : (c₁.pass settings (.inNamespace ns₁ name₁)).run Server.world s = (.ok .converged, t))
    (hrejects : s.rejected = []) (hraw : s.find? c₂.kind (.inNamespace ns₂ name₂) = some raw₂)
    (hstays : raw₂.metadata.isBeingDeleted = false)
    (hactive : s.isActive raw₂.metadata.nsOrEmpty = true)
    (hds : c₂.definitionTargets settings = .ok ds) (hplaces : ∀ x ∈ ds, x.HasPlace)
    (hxs : c₂.targets settings (c₂.withDefaults raw₂) = .ok xs) :
    ∃ u, (c₂.pass settings (.inNamespace ns₂ name₂)).run Server.world t = (.ok .converged, u) := by
  obtain ⟨raw, -, -, -, hsettle⟩ := settle_of_pass h
  obtain ⟨stages⟩ := stages_of_settle hsettle
  exact pass_converges ((rejected_of_run h).trans hrejects)
    ((find?_of_converged h hplace).trans hraw) hstays
    ((stages.isActive_eq _).trans hactive) hds hplaces hxs

/-! ## The next pass -/

/-- Where access is managed, a converged pass leaves the role of the cluster settled. -/
theorem settled_clusterRole {key : Key} (hns : raw.metadata.ns = some ns)
    (hmanages : c.ManagesAccess raw) (h : c.Converged settings key Target.IsQuiet raw t) :
    t.Settled (c.clusterRole raw) := by
  obtain ⟨xs, hxs, hquiet⟩ := h.compiled
  obtain ⟨front, back, rfl, -⟩ := targets_of_managesAccess hns hmanages hxs
  exact hquiet (.settled (c.clusterRole raw)) (List.mem_append_right _ List.mem_cons_self)

/-- The next pass of an object settles its role of the cluster, if everything before the role is
quiet. -/
theorem settled_of_next {key : Key} (hns : raw.metadata.ns = some ns)
    (hstays : raw.metadata.isBeingDeleted = false)
    (hdefs : c = .controller → settings.HasDistinctDefinitions) (hmanages : c.ManagesAccess raw)
    (h : c.Converged settings key
      (fun x s => x.kind = .definition ∨ x.key.ns = some ns → x.IsQuiet s) raw t)
    (ht : t.IsUnheld) (haccepts : t.rejects .clusterRole = false) :
    ((c.pass settings key).run Server.world t).2.Settled (c.clusterRole raw) := by
  obtain ⟨ds, hds, hinstalled⟩ := h.installed
  obtain ⟨xs, hxs, hrun⟩ := run_pass_of_converged hstays h hds fun x hx =>
    hinstalled (apart_of_definitionTargets hdefs hds) x hx
      (Or.inl (kind_of_definitionTargets hds x hx).1)
  obtain ⟨xs', hxs', hquiet⟩ := h.compiled
  cases hxs.symm.trans hxs'
  obtain ⟨front, back, rfl, hfront⟩ := targets_of_managesAccess hns hmanages hxs
  have hfirst : (Target.workAll front).run Server.world t = (.ok (), t) :=
    Target.workAll_quiet fun x hx => Target.work_quiet
      (hquiet x (List.mem_append_left _ hx) (Or.inr (hfront x hx)))
  obtain ⟨o, v, hrole⟩ := convergeTo_succeeds (d := c.clusterRole raw) haccepts (Or.inr rfl)
  have hsettled : v.Settled (c.clusterRole raw) :=
    convergeTo_ok (fun r hr => (ht .clusterRole _ r rfl hr).1) trivial hrole
  -- what comes after the role is elsewhere
  have hrest : ((c.pass settings key).run Server.world t).2.find? .clusterRole
      (c.clusterRole raw).key = v.find? .clusterRole (c.clusterRole raw).key := by
    have hapart := (List.pairwise_append.1 (targets_apart hxs)).2.1
    have hback := (List.pairwise_cons.1 hapart).1
    have hasks : ((Target.workAll back).bind fun _ =>
        (pure PassEnd.converged : StoreProgram PassEnd)).Asks
        fun q => ∃ x ∈ back, StoreRequest.isAbout x.kind x.key q :=
      Program.asks_bind (Target.asks_workAll back) fun _ => trivial
    rw [hrun, Target.workAll_append, Program.bind_assoc, Program.run_bind_of_ok hfirst,
      Target.workAll_cons, Target.work_settled, Program.bind_assoc, Program.bind_assoc,
      Program.run_bind_of_ok hrole]
    refine find?_run hasks ?_ v
    rintro q ⟨x, hx, hkind, hkey⟩ ⟨hkind', hkey'⟩
    exact hback x hx ⟨hkind'.trans hkind, hkey'.trans hkey⟩
  obtain ⟨r, hr, hsame⟩ := hsettled
  exact ⟨r, hrest.trans hr, hsame⟩

/-- Where both roles that are compiled under one name are settled, the objects can write them in
turns. -/
theorem takesTurns_labels_of_settled (hnamed : c₁.account raw₁ = c₂.account raw₂)
    (h₁ : u.Settled (c₁.clusterRole raw₁)) (h₂ : u.Settled (c₂.clusterRole raw₂)) :
    (standardLabels raw₁ c₁.label).TakesTurns (standardLabels raw₂ c₂.label) := by
  obtain ⟨r₁, hr₁, hsame₁⟩ := h₁
  obtain ⟨r₂, hr₂, hsame₂⟩ := h₂
  have hkey : (c₁.clusterRole raw₁).key = (c₂.clusterRole raw₂).key := congrArg Key.inCluster hnamed
  rw [hkey, hr₂] at hr₁
  cases hr₁
  have hmeta₁ : r₁.metadata.overlay
      (clusterMetadata (c₁.account raw₁) (standardLabels raw₁ c₁.label)) = r₁.metadata :=
    congrArg Resource.metadata (Resource.clusterRole_eq_of_sameAs hsame₁)
  have hmeta₂ : r₁.metadata.overlay
      (clusterMetadata (c₂.account raw₂) (standardLabels raw₂ c₂.label)) = r₁.metadata :=
    congrArg Resource.metadata (Resource.clusterRole_eq_of_sameAs hsame₂)
  rw [← hnamed] at hmeta₂
  exact Metadata.takesTurns_of_settled hmeta₁ hmeta₂

/-- Between objects that do not agree, the second pass unsettles the role of the first one, whose
next pass settles it again. -/
theorem InTurn.settled_next (h : InTurn settings c₁ ns₁ name₁ raw₁ c₂ ns₂ name₂ raw₂ t u)
    (hdefs : c₁ = .controller → settings.HasDistinctDefinitions)
    (hdisagree : ¬ AgreeOnAccess c₁ raw₁ c₂ raw₂) (hrejected : u.rejected = t.rejected) :
    ¬ u.Settled (c₁.clusterRole raw₁) ∧
      ((c₁.pass settings (.inNamespace ns₁ name₁)).run Server.world u).2.Settled
        (c₁.clusterRole raw₁) := by
  simp only [AgreeOnAccess, Classical.not_imp] at hdisagree
  obtain ⟨hnamed, hmanages₁, hmanages₂, hturns⟩ := hdisagree
  have hnot : ¬ u.Settled (c₁.clusterRole raw₁) := fun hsettled =>
    hturns (takesTurns_labels_of_settled hnamed hsettled
      (settled_clusterRole h.ns_second hmanages₂ h.second))
  refine ⟨hnot, settled_of_next h.ns_first h.stays_first hdefs hmanages₁ h.quiet_in_ns
    h.isUnheld_second (Bool.eq_false_iff.2 fun hrefused => ?_)⟩
  -- if the role were refused, the second pass would not have changed it
  have hkept := h.find?_of_refused (by rw [Server.rejects, ← hrejected]; exact hrefused)
    (c₁.account raw₁)
  obtain ⟨r, hr, hsame⟩ := settled_clusterRole h.ns_first hmanages₁ h.first
  exact hnot ⟨r, hkept.trans hr, hsame⟩

/-! ## Rest -/

/-- A pass of one of two objects. -/
inductive PassOfEither (settings : PassSettings) (c₁ : Component) (key₁ : Key) (c₂ : Component)
    (key₂ : Key) (s : Server) : Server → Prop
  | first : PassOfEither settings c₁ key₁ c₂ key₂ s ((c₁.pass settings key₁).run Server.world s).2
  | second : PassOfEither settings c₁ key₁ c₂ key₂ s ((c₂.pass settings key₂).run Server.world s).2

/-- After a converged pass of each of two objects of different namespaces, whether anything is left
to do depends on what they share. If they agree on that, every further pass of either converges and
writes nothing, in whichever order the passes come. If they do not, the next pass changes the role
of the cluster that both have written. -/
theorem rests_iff_agree (c₁ c₂ : Component) (settings : PassSettings)
    (ns₁ name₁ ns₂ name₂ : String) (s t u : Server) (hne : ns₁ ≠ ns₂)
    (hdefs : c₁ = .controller ∨ c₂ = .controller → settings.HasDistinctDefinitions)
    (hfree : s.IsUnheld)
    (h₁ : (c₁.pass settings (.inNamespace ns₁ name₁)).run Server.world s = (.ok .converged, t))
    (h₂ : (c₂.pass settings (.inNamespace ns₂ name₂)).run Server.world t = (.ok .converged, u)) :
    ∃ raw₁ raw₂, s.find? c₁.kind (.inNamespace ns₁ name₁) = some raw₁ ∧
      s.find? c₂.kind (.inNamespace ns₂ name₂) = some raw₂ ∧
      (AgreeOnAccess c₁ raw₁ c₂ raw₂ → ∀ v, Relation.ReflTransGen
        (PassOfEither settings c₁ (.inNamespace ns₁ name₁) c₂ (.inNamespace ns₂ name₂)) u v →
          v = u ∧
          (c₁.pass settings (.inNamespace ns₁ name₁)).run Server.world v = (.ok .converged, v) ∧
          (c₂.pass settings (.inNamespace ns₂ name₂)).run Server.world v = (.ok .converged, v)) ∧
      (¬ AgreeOnAccess c₁ raw₁ c₂ raw₂ →
        ((c₁.pass settings (.inNamespace ns₁ name₁)).run Server.world u).2.find? .clusterRole
            (.inCluster (c₁.account raw₁)) ≠
          u.find? .clusterRole (.inCluster (c₁.account raw₁))) := by
  obtain ⟨raw₁, raw₂, hraw₁, hraw₂, h⟩ := inTurn_of_passes hne hfree h₁ h₂
  refine ⟨raw₁, raw₂, hraw₁, hraw₂, fun hagree => ?_, fun hdisagree => ?_⟩
  · have hpass₁ := pass_of_quiet h.stays_first (fun hc => hdefs (Or.inl hc))
      (h.quiet_of_agree hagree)
    have hpass₂ := pass_of_quiet h.stays_second (fun hc => hdefs (Or.inr hc)) h.second
    intro v hv
    obtain rfl : v = u := by
      induction hv with
      | refl => rfl
      | tail _ hstep ih =>
        subst ih
        cases hstep with
        | first => rw [hpass₁]
        | second => rw [hpass₂]
    exact ⟨rfl, hpass₁, hpass₂⟩
  · obtain ⟨hnot, hsettled⟩ := h.settled_next (fun hc => hdefs (Or.inl hc)) hdisagree
      (rejected_of_run h₂)
    intro heq
    obtain ⟨r, hr, hsame⟩ := hsettled
    exact hnot ⟨r, heq.symm.trans hr, hsame⟩

/-! Two namespaces have a gateway with default settings each. -/

/-- A gateway without settings of its own. -/
def gatewayIn (ns name : String) : Gateway where
  metadata := { name := some name, ns := some ns }
  content := { spec := {} }

/-- A store with two such gateways for which no pass ran. -/
def pairedStore (name₁ name₂ : String) : Server where
  objects := [⟨.namespaceKind, { name := some "east" }, {}⟩,
    ⟨.namespaceKind, { name := some "west" }, {}⟩,
    ⟨.gateway, gatewayIn "east" name₁⟩, ⟨.gateway, gatewayIn "west" name₂⟩]

theorem isUnheld_pairedStore (name₁ name₂ : String) : (pairedStore name₁ name₂).IsUnheld := by
  intro k key r hdependent hr
  have hmem := Server.mem_of_find? hr
  simp only [pairedStore, List.mem_cons, List.not_mem_nil, or_false] at hmem
  rcases hmem with hmem | hmem | hmem | hmem <;> cases hmem <;> cases hdependent

/-- Gateways of one name come to rest, and gateways of two names do not. -/
theorem rests_iff_agree_pairedStore :
    (∃ t u, (gateway.pass {} (.inNamespace "east" "edge")).run Server.world
        (pairedStore "edge" "edge") = (.ok .converged, t) ∧
      (gateway.pass {} (.inNamespace "west" "edge")).run Server.world t = (.ok .converged, u) ∧
      (gateway.pass {} (.inNamespace "east" "edge")).run Server.world u = (.ok .converged, u) ∧
      (gateway.pass {} (.inNamespace "west" "edge")).run Server.world u = (.ok .converged, u)) ∧
    ∃ t u, (gateway.pass {} (.inNamespace "east" "front")).run Server.world
        (pairedStore "front" "back") = (.ok .converged, t) ∧
      (gateway.pass {} (.inNamespace "west" "back")).run Server.world t = (.ok .converged, u) ∧
      ((gateway.pass {} (.inNamespace "east" "front")).run Server.world u).2.find? .clusterRole
          (.inCluster "higress-gateway") ≠
        u.find? .clusterRole (.inCluster "higress-gateway") := by
  have hdefs : gateway = .controller ∨ gateway = .controller →
      PassSettings.HasDistinctDefinitions {} := by
    rintro (h | h) <;> cases h
  constructor
  · obtain ⟨t, ht⟩ : ∃ t, (gateway.pass {} (.inNamespace "east" "edge")).run Server.world
        (pairedStore "edge" "edge") = (.ok .converged, t) :=
      pass_converges rfl rfl rfl rfl rfl (by simp) rfl
    obtain ⟨u, hu⟩ : ∃ u, (gateway.pass {} (.inNamespace "west" "edge")).run Server.world t =
        (.ok .converged, u) :=
      pass_converges_after (by decide) ht rfl rfl rfl rfl rfl (by simp) rfl
    obtain ⟨raw₁, raw₂, h₁, h₂, hrests, -⟩ :=
      rests_iff_agree gateway gateway {} "east" "edge" "west"
      "edge" (pairedStore "edge" "edge") t u (by decide) hdefs (isUnheld_pairedStore _ _) ht hu
    obtain rfl : gatewayIn "east" "edge" = raw₁ := Option.some.inj h₁
    obtain rfl : gatewayIn "west" "edge" = raw₂ := Option.some.inj h₂
    exact ⟨t, u, ht, hu, (hrests (fun _ _ _ => .refl _) u .refl).2⟩
  · obtain ⟨t, ht⟩ : ∃ t, (gateway.pass {} (.inNamespace "east" "front")).run Server.world
        (pairedStore "front" "back") = (.ok .converged, t) :=
      pass_converges rfl rfl rfl rfl rfl (by simp) rfl
    obtain ⟨u, hu⟩ : ∃ u, (gateway.pass {} (.inNamespace "west" "back")).run Server.world t =
        (.ok .converged, u) :=
      pass_converges_after (by decide) ht rfl rfl rfl rfl rfl (by simp) rfl
    obtain ⟨raw₁, raw₂, h₁, h₂, -, hchanges⟩ :=
      rests_iff_agree gateway gateway {} "east" "front" "west"
      "back" (pairedStore "front" "back") t u (by decide) hdefs (isUnheld_pairedStore _ _) ht hu
    obtain rfl : gatewayIn "east" "front" = raw₁ := Option.some.inj h₁
    obtain rfl : gatewayIn "west" "back" = raw₂ := Option.some.inj h₂
    refine ⟨t, u, ht, hu, hchanges fun hagree => ?_⟩
    exact absurd (eq_of_takesTurns (hagree rfl ⟨rfl, rfl⟩ ⟨rfl, rfl⟩)).2 (by decide)

end Component

end GatewayOperator
