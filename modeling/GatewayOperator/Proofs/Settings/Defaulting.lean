import GatewayOperator.Defaulting
import GatewayOperator.Proofs.Dict

/-!
# Settings that are filled in

Each setting has a value that counts as unset: none, an empty text, an empty dictionary or zero.
Defaulting keeps what is set and gives what is unset a fixed value (`FilledIn`). `Defaulted` says
this of a record, setting by setting; what it does not list stays as it is. The labels that select a
gateway's pods are filled in twice, by the component and then by the network that the gateway joins
(`SelectorDefaulted`).

* `FilledIn.stable`: what was filled in stays when it is filled in again, so the records do,
  whatever their defaults are (`GatewaySpec.Defaulted.stable`, `ControllerSpec.Defaulted.stable`),
* `defaulting_idempotent_and_conservative`: the defaults of gateways and controllers are filled in
  once and for all, and over nothing that the user gave.
-/

namespace GatewayOperator

/-! ## One setting -/

/-- How a setting follows from the given one: it is kept if it was set, and supplied if it counted
as unset. -/
structure FilledIn {α : Type} (unset fallback given filled : α) : Prop where
  kept : given ≠ unset → filled = given
  supplied : given = unset → filled = fallback

section Setting

variable {α : Type} {unset fallback given filled again : α}

/-- A setting that was filled in is filled in already. -/
theorem FilledIn.stable (h : FilledIn unset fallback given filled)
    (h' : FilledIn unset fallback filled again) :
    again = filled := by
  by_cases hfilled : filled = unset
  · -- a setting that is still unset has a default that counts as unset
    by_cases hgiven : given = unset
    · rw [h'.supplied hfilled, h.supplied hgiven]
    · exact absurd ((h.kept hgiven).symm.trans hfilled) hgiven
  · exact h'.kept hfilled

theorem filledIn_ite [DecidableEq α] (unset fallback given : α) :
    FilledIn unset fallback given (if given = unset then fallback else given) where
  kept hset := if_neg hset
  supplied hunset := if_pos hunset

theorem filledIn_orText (fallback given : String) :
    FilledIn "" fallback given (orText given fallback) :=
  filledIn_ite "" fallback given

theorem filledIn_orElse (fallback given : Option α) :
    FilledIn none fallback given (given <|> fallback) where
  kept hset := by
    cases given with
    | none => exact absurd rfl hset
    | some a => rfl
  supplied hunset := by
    rw [hunset]
    rfl

theorem filledIn_getD (fallback : α) (given : Option α) :
    FilledIn none (some fallback) given (some (given.getD fallback)) := by
  have heq : some (given.getD fallback) = (given <|> some fallback) := by cases given <;> rfl
  rw [heq]
  exact filledIn_orElse (some fallback) given

end Setting

/-! ## The labels of a gateway's pods -/

/-- The labels of a gateway's pods if the user gives none. -/
def componentLabels (ns : String) : Dict String :=
  .ofList [("app", gatewayComponent), (gatewaySelectorKey, ns ++ "-" ++ gatewayComponent)]

theorem get?_componentLabels (ns key : String) : (componentLabels ns).get? key =
    if key = gatewaySelectorKey then some (ns ++ "-" ++ gatewayComponent)
    else if key = "app" then some gatewayComponent else none := by
  change
    (((∅ : Dict String).insert "app" gatewayComponent).insert gatewaySelectorKey _).get? key = _
  rw [Dict.get?_insert, Dict.get?_insert, Dict.get?_empty]

/-- How the labels that select a gateway's pods follow from the given ones. -/
structure SelectorDefaulted (ns network : String) (given filled : Dict String) : Prop where
  kept : ∀ key value, given.get? key = some value → filled.get? key = some value
  /-- to labels of the user's own at most the network is added -/
  own : given ≠ ∅ → ∀ key, key ≠ topologyNetworkLabel → filled.get? key = given.get? key
  component : given = ∅ → ∀ key, key ≠ topologyNetworkLabel →
    filled.get? key = (componentLabels ns).get? key
  network : given.get? topologyNetworkLabel = none →
    filled.get? topologyNetworkLabel = if network = "" then none else some network

namespace SelectorDefaulted

variable {ns network : String} {given filled again : Dict String}

/-- A gateway's pods are never selected by nothing. -/
theorem ne_empty (h : SelectorDefaulted ns network given filled) : filled ≠ ∅ := by
  intro hempty
  have hnone (key : String) : filled.get? key = none := by rw [hempty, Dict.get?_empty]
  by_cases hgiven : given = ∅
  · have happ := h.component hgiven "app" (by decide)
    rw [hnone, get?_componentLabels, if_neg (by decide), if_pos rfl] at happ
    cases happ
  · refine hgiven (Dict.eq_empty_of_isEmpty (Dict.isEmpty_iff.2 fun key => ?_))
    cases hlabel : given.get? key with
    | none => rfl
    | some value => exact ((hnone key).symm.trans (h.kept key value hlabel)).symm

/-- Neither the component nor the network adds a label a second time. -/
theorem stable (h : SelectorDefaulted ns network given filled)
    (h' : SelectorDefaulted ns network filled again) :
    again = filled := by
  refine Dict.ext_get? fun key => ?_
  by_cases hkey : key = topologyNetworkLabel
  · subst hkey
    cases hlabel : filled.get? topologyNetworkLabel with
    | some value => exact h'.kept _ value hlabel
    | none =>
      have hgiven : given.get? topologyNetworkLabel = none := by
        cases hgiven : given.get? topologyNetworkLabel with
        | none => rfl
        | some value => exact (h.kept _ value hgiven).symm.trans hlabel
      rw [h'.network hlabel, ← h.network hgiven, hlabel]
  · exact h'.own h.ne_empty key hkey

end SelectorDefaulted

section Selector

variable (labels : Dict String) (ns network : String)

theorem gatewaySelector_empty : gatewaySelector ∅ ns = componentLabels ns := rfl

theorem gatewaySelector_of_ne {labels : Dict String} (h : labels ≠ ∅) :
    gatewaySelector labels ns = labels :=
  if_neg fun hempty => h (Dict.eq_empty_of_isEmpty hempty)

theorem get?_withNetworkLabel_ne {key : String} (h : key ≠ topologyNetworkLabel) :
    (withNetworkLabel labels network).get? key = labels.get? key := by
  unfold withNetworkLabel
  split
  · rfl
  · exact Dict.get?_insert_ne labels network h

theorem get?_withNetworkLabel_self : (withNetworkLabel labels network).get? topologyNetworkLabel =
    (labels.get? topologyNetworkLabel).or (if network = "" then none else some network) := by
  unfold withNetworkLabel Dict.contains
  by_cases hnetwork : network = ""
  · simp [hnetwork]
  · cases hlabel : labels.get? topologyNetworkLabel <;> simp [hnetwork, hlabel]

theorem selectorDefaulted_withNetworkLabel :
    SelectorDefaulted ns network labels (withNetworkLabel (gatewaySelector labels ns) network) where
  kept key value hlabel := by
    have hne : labels ≠ ∅ := by
      rintro rfl
      cases hlabel
    rw [gatewaySelector_of_ne ns hne]
    by_cases hkey : key = topologyNetworkLabel
    · subst hkey
      rw [get?_withNetworkLabel_self, hlabel, Option.some_or]
    · rw [get?_withNetworkLabel_ne labels network hkey, hlabel]
  own hne key hkey := by rw [get?_withNetworkLabel_ne _ network hkey, gatewaySelector_of_ne ns hne]
  component hempty key hkey := by
    rw [get?_withNetworkLabel_ne _ network hkey, hempty, gatewaySelector_empty]
  network hnone := by
    have hselector : (gatewaySelector labels ns).get? topologyNetworkLabel = none := by
      by_cases hempty : labels = ∅
      · rw [hempty, gatewaySelector_empty, get?_componentLabels, if_neg (by decide),
          if_neg (by decide)]
      · rw [gatewaySelector_of_ne ns hempty, hnone]
    rw [get?_withNetworkLabel_self, hselector, Option.none_or]

example : withNetworkLabel
    (gatewaySelector (.ofList [(topologyNetworkLabel, "west")]) "ns") "east" =
    .ofList [(topologyNetworkLabel, "west")] := by decide

end Selector

/-! ## Records of settings -/

/-- How the settings of a container follow from the given ones. -/
structure ContainerSettings.Defaulted (name image : String)
    (given filled : ContainerSettings) : Prop where
  name : FilledIn "" name given.name filled.name
  repository : FilledIn "" (defaultImageRegistry ++ "/" ++ image) given.image.repository
    filled.image.repository
  tag : FilledIn "" defaultImageTag given.image.tag filled.image.tag
  untouched : filled = { given with
    name := filled.name
    image := { given.image with repository := filled.image.repository, tag := filled.image.tag } }

theorem ContainerSettings.defaulted_withDefaults (s : ContainerSettings) (name image : String) :
    s.Defaulted name image (s.withDefaults name image) where
  name := filledIn_orText name s.name
  repository := filledIn_orText _ s.image.repository
  tag := filledIn_orText defaultImageTag s.image.tag
  untouched := rfl

theorem ContainerSettings.Defaulted.stable {name image : String}
    {given filled again : ContainerSettings}
    (h : given.Defaulted name image filled) (h' : filled.Defaulted name image again) :
    again = filled := by
  rw [h'.untouched, h.name.stable h'.name, h.repository.stable h'.repository, h.tag.stable h'.tag]

/-- How the settings that both kinds share follow from the given ones, the pods' labels and the
Service apart. -/
structure CommonSettings.Defaulted (account : String) (replicas : Option Int32)
    (given filled : CommonSettings) : Prop where
  rbac : FilledIn none (some { enable := true }) given.rbac filled.rbac
  serviceAccount :
    FilledIn none (some { enable := true, name := account }) given.serviceAccount
      filled.serviceAccount
  replicas : FilledIn none replicas given.replicas filled.replicas
  enableStatus : FilledIn none (some true) given.enableStatus filled.enableStatus
  untouched : filled = { given with
    rbac := filled.rbac
    serviceAccount := filled.serviceAccount
    replicas := filled.replicas
    enableStatus := filled.enableStatus
    selectorLabels := filled.selectorLabels
    service := filled.service }

/-- The labels and the Service are filled in after the other settings, and by each kind for
itself. -/
theorem CommonSettings.defaulted_withDefaults (s : CommonSettings) (account : String)
    (replicas : Option Int32) (labels : Dict String) (service : Option ServiceSettings) :
    s.Defaulted account replicas
      { s.withDefaults account replicas with selectorLabels := labels, service := service } where
  rbac := filledIn_getD _ s.rbac
  serviceAccount := filledIn_getD _ s.serviceAccount
  replicas := filledIn_orElse replicas s.replicas
  enableStatus := filledIn_getD true s.enableStatus
  untouched := rfl

theorem CommonSettings.Defaulted.stable {account : String} {replicas : Option Int32}
    {given filled again : CommonSettings} (h : given.Defaulted account replicas filled)
    (h' : filled.Defaulted account replicas again)
    (hlabels : again.selectorLabels = filled.selectorLabels)
    (hservice : again.service = filled.service) : again = filled := by
  rw [h'.untouched, h.rbac.stable h'.rbac, h.serviceAccount.stable h'.serviceAccount,
    h.replicas.stable h'.replicas, h.enableStatus.stable h'.enableStatus, hlabels, hservice]

/-! ## Gateways -/

namespace GatewaySpec

/-- How the settings of a gateway in a namespace follow from the given ones. -/
structure Defaulted (ns : String) (given filled : GatewaySpec) : Prop where
  common : given.common.Defaulted gatewayComponent (some defaultGatewayReplicas) filled.common
  selector :
    SelectorDefaulted ns given.networkGateway given.common.selectorLabels
      filled.common.selectorLabels
  service : FilledIn none (some defaultGatewayService) given.common.service filled.common.service
  container : given.container.Defaulted gatewayComponent "gateway" filled.container
  skywalking : FilledIn none (some { enable := false }) given.skywalking filled.skywalking
  untouched : filled = { given with
    common := filled.common
    container := filled.container
    skywalking := filled.skywalking }

theorem defaulted_withDefaults (s : GatewaySpec) (ns : String) :
    s.Defaulted ns (s.withDefaults ns) where
  common := s.common.defaulted_withDefaults _ _ _ _
  selector := selectorDefaulted_withNetworkLabel s.common.selectorLabels ns s.networkGateway
  service := filledIn_getD defaultGatewayService s.common.service
  container := s.container.defaulted_withDefaults gatewayComponent "gateway"
  skywalking := filledIn_getD _ s.skywalking
  untouched := rfl

theorem Defaulted.stable {ns : String} {given filled again : GatewaySpec}
    (h : given.Defaulted ns filled) (h' : filled.Defaulted ns again) : again = filled := by
  have hnetwork : filled.networkGateway = given.networkGateway := by rw [h.untouched]
  have hlabels : again.common.selectorLabels = filled.common.selectorLabels :=
    h.selector.stable (hnetwork ▸ h'.selector)
  have hcommon : again.common = filled.common :=
    h.common.stable h'.common hlabels (h.service.stable h'.service)
  rw [h'.untouched, hcommon, h.container.stable h'.container, h.skywalking.stable h'.skywalking]

end GatewaySpec

/-! ## Controllers -/

namespace ControllerSpec

/-- How the settings of a controller follow from the given ones. -/
structure Defaulted (given filled : ControllerSpec) : Prop where
  common : given.common.Defaulted controllerComponent none filled.common
  selector : FilledIn ∅ (.ofList [("app", controllerComponent)]) given.common.selectorLabels
    filled.common.selectorLabels
  /-- only gateways are exposed by default -/
  service : filled.common.service = given.common.service
  controller : given.controller.container.Defaulted controllerComponent "higress"
    filled.controller.container
  gatewayName : FilledIn "" gatewayComponent given.controller.gatewayName
    filled.controller.gatewayName
  ingressClass : FilledIn "" defaultIngressClass given.controller.ingressClass
    filled.controller.ingressClass
  pilot : given.pilot.container.Defaulted pilotContainer "pilot" filled.pilot.container
  clusterDomain : FilledIn "" defaultClusterDomain given.pilot.clusterDomain
    filled.pilot.clusterDomain
  keepalive : FilledIn 0 defaultKeepaliveMinutes given.pilot.keepaliveMaxServerConnectionAge
    filled.pilot.keepaliveMaxServerConnectionAge
  untouched : filled = {
    common := filled.common
    controller := { given.controller with
      container := filled.controller.container
      gatewayName := filled.controller.gatewayName
      ingressClass := filled.controller.ingressClass }
    pilot := { given.pilot with
      container := filled.pilot.container
      clusterDomain := filled.pilot.clusterDomain
      keepaliveMaxServerConnectionAge := filled.pilot.keepaliveMaxServerConnectionAge } }

theorem defaulted_withDefaults (s : ControllerSpec) : s.Defaulted s.withDefaults where
  common := s.common.defaulted_withDefaults _ _ _ _
  selector := {
    kept := fun hset => if_neg fun hempty => hset (Dict.eq_empty_of_isEmpty hempty)
    supplied := fun hunset => if_pos (hunset ▸ Dict.isEmpty_empty) }
  service := rfl
  controller := s.controller.container.defaulted_withDefaults controllerComponent "higress"
  gatewayName := filledIn_orText gatewayComponent s.controller.gatewayName
  ingressClass := filledIn_orText defaultIngressClass s.controller.ingressClass
  pilot := s.pilot.container.defaulted_withDefaults pilotContainer "pilot"
  clusterDomain := filledIn_orText defaultClusterDomain s.pilot.clusterDomain
  keepalive := filledIn_ite 0 defaultKeepaliveMinutes s.pilot.keepaliveMaxServerConnectionAge
  untouched := rfl

theorem Defaulted.stable {given filled again : ControllerSpec} (h : given.Defaulted filled)
    (h' : filled.Defaulted again) : again = filled := by
  have hcommon : again.common = filled.common :=
    h.common.stable h'.common (h.selector.stable h'.selector) h'.service
  rw [h'.untouched, hcommon, h.controller.stable h'.controller, h.gatewayName.stable h'.gatewayName,
    h.ingressClass.stable h'.ingressClass, h.pilot.stable h'.pilot,
    h.clusterDomain.stable h'.clusterDomain, h.keepalive.stable h'.keepalive]

end ControllerSpec

/-! ## Desired states -/

/-- Filling in the settings of a gateway or a controller keeps all that the user gave and changes
nothing else of the object, and doing it once is enough. -/
theorem defaulting_idempotent_and_conservative :
    (∀ g : Gateway, g.gatewayWithDefaults.gatewayWithDefaults = g.gatewayWithDefaults ∧
      g.gatewayWithDefaults.metadata = g.metadata ∧
      g.gatewayWithDefaults.content.status = g.content.status ∧
      g.content.spec.Defaulted g.metadata.nsOrEmpty g.gatewayWithDefaults.content.spec) ∧
    (∀ c : Controller, c.controllerWithDefaults.controllerWithDefaults = c.controllerWithDefaults ∧
      c.controllerWithDefaults.metadata = c.metadata ∧
      c.controllerWithDefaults.content.status = c.content.status ∧
      c.content.spec.Defaulted c.controllerWithDefaults.content.spec) := by
  refine ⟨fun g => ⟨?_, rfl, rfl, g.content.spec.defaulted_withDefaults _⟩,
    fun c => ⟨?_, rfl, rfl, c.content.spec.defaulted_withDefaults⟩⟩
  · have hspec := (g.content.spec.defaulted_withDefaults g.metadata.nsOrEmpty).stable
      (GatewaySpec.defaulted_withDefaults _ _)
    exact congrArg (fun spec => ({ g with content := { g.content with spec } } : Gateway)) hspec
  · have hspec := c.content.spec.defaulted_withDefaults.stable
      (ControllerSpec.defaulted_withDefaults _)
    exact congrArg (fun spec => ({ c with content := { c.content with spec } } : Controller)) hspec

end GatewayOperator
