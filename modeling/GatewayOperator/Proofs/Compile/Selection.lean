import GatewayOperator.Proofs.Reconcile.Selector
import GatewayOperator.Proofs.Settings.Defaulting

/-!
# The gateway that a controller selects

A controller is started with a selector for the pods of its gateway, rendered from the name that the
controller's settings give. The pods of a gateway without labels of its own get the selector's label
by default, and its value is rendered from the name of the component:

* `selectsPods_iff_component`: a controller selects the pods of such a gateway in its namespace
  exactly if it names `gatewayComponent`, whatever the gateway's own name is,
* `selectsPods_programmed_iff`: so it selects the gateway that it names exactly if that one has the
  default name.
-/

namespace GatewayOperator

/-- Texts differ, however they go on, if neither of their beginnings begins with the other. -/
theorem append_ne_append {a b : String} (hab : ¬ a.toList <+: b.toList)
    (hba : ¬ b.toList <+: a.toList) (x y : String) : a ++ x ≠ b ++ y := by
  intro heq
  have hlists : a.toList ++ x.toList = b.toList ++ y.toList := by
    simpa using congrArg String.toList heq
  have hprefix : b.toList <+: a.toList ++ x.toList := hlists ▸ List.prefix_append _ _
  exact (List.prefix_or_prefix_of_prefix (List.prefix_append _ _) hprefix).elim hab hba

namespace ControllerCompile

/-! ## The rendered selector -/

section Rendered

variable {s : ControllerSpec} {ns : String}

theorem mem_args_iff (arg : String) : arg ∈ args s ns ↔
    arg = "--gatewaySelectorKey=" ++ gatewaySelectorKey ∨
    arg = "--gatewaySelectorValue=" ++ (ns ++ ("-" ++ s.controller.gatewayName)) ∨
    arg = "--ingressClass=" ++ s.controller.ingressClass ∨
    ¬ s.common.statusEnabled = true ∧ arg = "--enableStatus=" ++ "false" ∨
    ¬ s.controller.watchNamespace = "" ∧
    arg = "--watchNamespace=" ++ s.controller.watchNamespace := by
  simp only [args, List.mem_append, List.mem_cons, List.mem_ite_nil_left,
    List.not_mem_nil, or_false, String.append_assoc, or_assoc]
  rfl

/-- One selector key is rendered. -/
theorem selectorKey_mem_args_iff (key : String) :
    "--gatewaySelectorKey=" ++ key ∈ args s ns ↔ key = gatewaySelectorKey := by
  rw [mem_args_iff, String.append_right_inj]
  refine or_iff_left ?_
  rintro (h | h | ⟨-, h⟩ | ⟨-, h⟩)
  all_goals exact absurd h (append_ne_append (by decide) (by decide) _ _)

/-- One selector value is rendered. -/
theorem selectorValue_mem_args_iff (value : String) :
    "--gatewaySelectorValue=" ++ value ∈ args s ns ↔
      value = ns ++ ("-" ++ s.controller.gatewayName) := by
  rw [mem_args_iff, String.append_right_inj]
  refine (or_iff_right fun h => ?_).trans (or_iff_left ?_)
  · exact append_ne_append (by decide) (by decide) _ _ h
  · rintro (h | ⟨-, h⟩ | ⟨-, h⟩)
    all_goals exact append_ne_append (by decide) (by decide) _ _ h

end Rendered

/-! ## Selected pods -/

/-- The selector that a controller is started with is a label of the pods of a Deployment. -/
def SelectsPods (c : Controller) (deployment : Resource .deployment) : Prop :=
  ∃ key value, "--gatewaySelectorKey=" ++ key ∈ args c.content.spec c.metadata.nsOrEmpty ∧
    "--gatewaySelectorValue=" ++ value ∈ args c.content.spec c.metadata.nsOrEmpty ∧
    deployment.podLabel? key = some value

/-- A controller programs a gateway beside it by its name: it gives this name, or none if the
gateway has the default one. -/
structure Programs (c : Controller) (g : Gateway) : Prop where
  together : c.metadata.nsOrEmpty = g.metadata.nsOrEmpty
  hasName : g.metadata.anyName ≠ ""
  named : c.content.spec.controller.gatewayName = g.metadata.anyName ∨
    c.content.spec.controller.gatewayName = "" ∧ g.metadata.anyName = gatewayComponent

section Selects

variable {c : Controller} {g : Gateway}

/-- The pods of a gateway without labels of its own have the name of the component under the
selector's key. -/
theorem podLabel?_selector (h : g.content.spec.common.selectorLabels.isEmpty = true) :
    (GatewayCompile.deployment g.gatewayWithDefaults).podLabel? gatewaySelectorKey =
      some (g.metadata.nsOrEmpty ++ ("-" ++ gatewayComponent)) := by
  have hselector := (g.content.spec.defaulted_withDefaults g.metadata.nsOrEmpty).selector
  have hlabel := hselector.component (Dict.eq_empty_of_isEmpty h) gatewaySelectorKey (by decide)
  rw [get?_componentLabels, if_pos rfl, String.append_assoc] at hlabel
  exact (Resource.podLabel?_deployment _ _ _).trans hlabel

/-- Of the gateways without labels of their own a controller selects all in its namespace or
none. -/
theorem selectsPods_iff_component (hns : c.metadata.nsOrEmpty = g.metadata.nsOrEmpty)
    (hlabels : g.content.spec.common.selectorLabels.isEmpty = true) :
    SelectsPods c.controllerWithDefaults (GatewayCompile.deployment g.gatewayWithDefaults) ↔
      orText c.content.spec.controller.gatewayName gatewayComponent = gatewayComponent := by
  have hvalue : c.controllerWithDefaults.metadata.nsOrEmpty = g.metadata.nsOrEmpty := hns
  unfold SelectsPods
  simp only [selectorKey_mem_args_iff, selectorValue_mem_args_iff]
  constructor
  · rintro ⟨key, value, rfl, rfl, hlabel⟩
    rw [podLabel?_selector hlabels, hvalue, Option.some_inj, String.append_right_inj,
      String.append_right_inj] at hlabel
    exact hlabel.symm
  · intro hname
    refine ⟨_, _, rfl, rfl, ?_⟩
    rw [podLabel?_selector hlabels, hvalue]
    exact congrArg (fun name => some (g.metadata.nsOrEmpty ++ ("-" ++ name))) hname.symm

/-- A controller selects the gateway that it programs exactly if that one has the name of the
component. -/
theorem selectsPods_programmed_iff (h : Programs c g)
    (hlabels : g.content.spec.common.selectorLabels.isEmpty = true) :
    SelectsPods c.controllerWithDefaults (GatewayCompile.deployment g.gatewayWithDefaults) ↔
      g.metadata.anyName = gatewayComponent := by
  rw [selectsPods_iff_component h.together hlabels, orText]
  rcases h.named with hname | ⟨hunset, hname⟩
  · rw [hname, if_neg h.hasName]
  · rw [if_pos hunset, hname]

/-! A gateway with a name of its own, and a controller that names it. -/

def namedGateway : Gateway where
  metadata := { name := some "edge", ns := some "ns" }
  content := { spec := {} }

def namingController : Controller where
  metadata := { name := some "hc", ns := some "ns" }
  content := { spec := { controller := { gatewayName := "edge" } } }

theorem selectsPods_programmed_namedGateway : Programs namingController namedGateway ∧
    namedGateway.content.spec.common.selectorLabels.isEmpty = true ∧
    ¬ SelectsPods namingController.controllerWithDefaults
      (GatewayCompile.deployment namedGateway.gatewayWithDefaults) := by
  have hprograms : Programs namingController namedGateway := ⟨rfl, by decide, Or.inl rfl⟩
  refine ⟨hprograms, rfl, fun hselects => ?_⟩
  have hname := (selectsPods_programmed_iff hprograms rfl).1 hselects
  revert hname
  decide

end Selects

end ControllerCompile

end GatewayOperator
