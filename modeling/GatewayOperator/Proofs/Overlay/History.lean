import GatewayOperator.Proofs.Overlay.Metadata

/-!
# Labels and annotations over a history

Labels and annotations have several writers: the operator overlays what it renders, others set and
remove keys of their own in between. `Metadata.Evolves` is such a history, and `Metadata.ofOthers`
what the other writers alone would have left. The memory of the operator is the record of owned
keys, a text in the very annotations that are merged, so the invariant `Metadata.Reflects` speaks of
the record and of the bindings:

* `Metadata.Reflects.edit` and `Metadata.Reflects.overlay`: each event keeps it,
* `Metadata.reflects_of_evolves`: so it holds after every history,
* `Metadata.bound_after_overlay`: after an overlay the metadata binds what was rendered last and
  what the others wrote, and nothing else.
-/

namespace GatewayOperator

/-! ## Changes to a dictionary -/

/-- What a writer does to a dictionary: a key is given a value or taken away. -/
abbrev Changes := Dict (Option String)

/-- One change at a key. -/
def Dict.change (d : Dict String) (k : String) : Option String → Dict String
  | some v => d.insert k v
  | none => d.erase k

/-- The dictionary after a writer's changes. -/
def Dict.changed (d : Dict String) (c : Changes) : Dict String :=
  c.entries.foldl (fun d x => d.change x.1 x.2) d

namespace Dict

theorem get?_change (d : Dict String) (k j : String) (x : Option String) :
    (d.change k x).get? j = if j = k then x else d.get? j := by
  cases x with
  | some v => exact get?_insert d k j v
  | none => exact get?_erase d k j

/-- A key that is changed has its new value or none, every other key the old one. -/
theorem get?_changed (d : Dict String) (c : Changes) (k : String) :
    (d.changed c).get? k = (c.get? k).getD (d.get? k) := by
  have hfold : (d.changed c).get? k = ((c.get? k).map id).getD (d.get? k) :=
    get?_foldl (fun d x j => get?_change d x.1 j x.2) c.ascending d k
  rw [hfold, Option.map_id, id]

end Dict

namespace Metadata

/-! ## Histories -/

/-- The two dictionaries of metadata. -/
inductive Part where
  | labels
  | annotations
  deriving DecidableEq, Repr

/-- What a dictionary of the metadata binds, unset or not. -/
def bound (m : Metadata) : Part → Dict String
  | .labels => m.labels.getD ∅
  | .annotations => m.annotations.getD ∅

/-- The metadata binds a key. -/
def Renders (m : Metadata) (p : Part) (k : String) : Prop := k ∈ (m.bound p).keys

/-- Whether a binding is one of the operator's own records. They are annotations. -/
def isRecord : Part → String → Bool
  | .labels, _ => false
  | .annotations, k => isBookkeeping k

/-- What happens to the metadata of a live object. -/
inductive Event where
  /-- The operator puts desired metadata onto it. -/
  | overlay (d : Metadata)
  /-- Another writer changes bindings. -/
  | edit (c : Part → Changes)

/-- The metadata after a history. An edit changes bindings: whether it leaves an emptied dictionary
unset, and what it does to other fields, is its own matter. -/
inductive Evolves (m₀ : Metadata) : List Event → Metadata → Prop
  | start : Evolves m₀ [] m₀
  | overlay {h : List Event} {m : Metadata} (d : Metadata) :
      Evolves m₀ h m → Evolves m₀ (h ++ [.overlay d]) (m.overlay d)
  | edit {h : List Event} {m m' : Metadata} (c : Part → Changes) :
      Evolves m₀ h m → (∀ p, m'.bound p = (m.bound p).changed (c p)) →
        Evolves m₀ (h ++ [.edit c]) m'

/-- What an event leaves of the bindings of the other writers. -/
def Event.onOthers (p : Part) (d : Dict String) : Event → Dict String
  | .overlay _ => d
  | .edit c => d.changed (c p)

/-- What the other writers would have left without the operator: what was there at first, with their
changes. -/
def ofOthers (m₀ : Metadata) (h : List Event) (p : Part) : Dict String :=
  h.foldl (Event.onOthers p) (m₀.bound p)

/-- The writers keep to keys of their own. The operator renders no key of its records, and nobody
else writes these or a key that the operator renders at some time in the same dictionary. -/
structure KeepsApart (m₀ : Metadata) (h : List Event) : Prop where
  rendered : ∀ d, .overlay d ∈ h → ∀ p k, d.Renders p k → isBookkeeping k = false
  initial : ∀ p, ∀ k ∈ (m₀.bound p).keys,
    isRecord p k = false ∧ ∀ d, .overlay d ∈ h → ¬ d.Renders p k
  edited : ∀ c, .edit c ∈ h → ∀ p, ∀ k ∈ (c p).keys,
    isRecord p k = false ∧ ∀ d, .overlay d ∈ h → ¬ d.Renders p k

theorem get?_of_not_renders {m : Metadata} {p : Part} {k : String} (h : ¬ m.Renders p k) :
    (m.bound p).get? k = none := Dict.get?_eq_none h

/-! ## What others hold -/

theorem KeepsApart.of_append {m₀ : Metadata} {h : List Event} {e : Event}
    (ha : KeepsApart m₀ (h ++ [e])) : KeepsApart m₀ h := by
  have hold : ∀ {x : Event}, x ∈ h → x ∈ h ++ [e] := List.mem_append_left _
  constructor
  · intro d hd
    exact ha.rendered d (hold hd)
  · intro p k hk
    obtain ⟨hrecord, hnone⟩ := ha.initial p k hk
    exact ⟨hrecord, fun d hd => hnone d (hold hd)⟩
  · intro c hc p k hk
    obtain ⟨hrecord, hnone⟩ := ha.edited c (hold hc) p k hk
    exact ⟨hrecord, fun d hd => hnone d (hold hd)⟩

/-- What changes leave at a key was there or is one of the changes. -/
theorem mem_keys_changed {d : Dict String} {c : Changes} {k : String} (h : k ∈ (d.changed c).keys) :
    k ∈ c.keys ∨ k ∈ d.keys := by
  rw [Dict.mem_keys, Dict.get?_changed] at h
  rw [Dict.mem_keys, Dict.mem_keys]
  cases hc : c.get? k with
  | some x => exact Or.inl rfl
  | none =>
    rw [hc, Option.getD_none] at h
    exact Or.inr h

theorem mem_keys_foldl {p : Part} {h : List Event} {d : Dict String} {k : String}
    (hk : k ∈ (h.foldl (Event.onOthers p) d).keys) :
    k ∈ d.keys ∨ ∃ c, .edit c ∈ h ∧ k ∈ (c p).keys := by
  induction h generalizing d with
  | nil => exact Or.inl hk
  | cons e h ih =>
    rcases ih hk with hfirst | ⟨c, hc, hck⟩
    · cases e with
      | overlay d' => exact Or.inl hfirst
      | edit c =>
        rcases mem_keys_changed hfirst with hck | hd
        · exact Or.inr ⟨c, List.mem_cons_self, hck⟩
        · exact Or.inl hd
    · exact Or.inr ⟨c, List.mem_cons_of_mem _ hc, hck⟩

/-- What others hold is no record and no key that is ever rendered. -/
theorem KeepsApart.ofOthers {m₀ : Metadata} {h : List Event} (ha : KeepsApart m₀ h) {p : Part}
    {k : String} (hk : k ∈ (m₀.ofOthers h p).keys) :
    isRecord p k = false ∧ ∀ d, .overlay d ∈ h → ¬ d.Renders p k := by
  rcases mem_keys_foldl hk with hinit | ⟨c, hc, hck⟩
  · exact ha.initial p k hinit
  · exact ha.edited c hc p k hck

theorem ofOthers_overlay (m₀ : Metadata) (h : List Event) (d : Metadata) (p : Part) :
    m₀.ofOthers (h ++ [.overlay d]) p = m₀.ofOthers h p := by
  simp [ofOthers, Event.onOthers]

theorem ofOthers_edit (m₀ : Metadata) (h : List Event) (c : Part → Changes) (p : Part) :
    m₀.ofOthers (h ++ [.edit c]) p = (m₀.ofOthers h p).changed (c p) := by
  simp [ofOthers, Event.onOthers]

/-! ## One event -/

/-- The keys that a record names in a dictionary. -/
def keysIn (o : OwnedKeys) : Part → List String
  | .labels => o.labels
  | .annotations => o.annotations

/-- The record names what is rendered, but for the operator's own keys. -/
theorem mem_keysIn {d : Metadata} {p : Part} {k : String} :
    k ∈ keysIn (OwnedKeys.ofMetadata d) p ↔ d.Renders p k ∧ isBookkeeping k = false := by
  have hmem (x : Option (Dict String)) :
      k ∈ OwnedKeys.keysOf x ↔ k ∈ (x.getD ∅).keys ∧ isBookkeeping k = false := by
    cases x with
    | none => simp [OwnedKeys.keysOf, Dict.mem_keys]
    | some x => simp [OwnedKeys.keysOf]
  cases p with
  | labels => exact hmem d.labels
  | annotations => exact hmem d.annotations

/-- What an overlay leaves at a key: the desired binding, or the live one unless an earlier
convergence rendered it and this one does not. -/
theorem get?_overlay (m d : Metadata) {p : Part} {k : String} (hk : isRecord p k = false) :
    ((m.overlay d).bound p).get? k = ((d.bound p).get? k).or
      (if k ∈ keysIn (OwnedKeys.recorded m) p ∧ k ∉ keysIn (OwnedKeys.ofMetadata d) p then none
        else (m.bound p).get? k) := by
  cases p with
  | labels =>
    show ((mergeBindings _ _).getD ∅).get? k = _
    rw [get?_mergeBindings, get?_dropReleased]
    rfl
  | annotations =>
    have hne : k ≠ ownedKeysAnnotation := by
      rintro rfl
      simp [isRecord, isBookkeeping] at hk
    show ((recordOwned _ _).getD ∅).get? k = _
    rw [get?_recordOwned, if_neg hne, get?_mergeBindings, get?_dropReleased]
    rfl

/-- The metadata binds what was rendered last over what others hold, and its record names the
former. -/
structure Reflects (m last : Metadata) (others : Part → Dict String) : Prop where
  binds : ∀ p k, isRecord p k = false →
    (m.bound p).get? k = ((last.bound p).get? k).or ((others p).get? k)
  records : OwnedKeys.recorded m = OwnedKeys.ofMetadata last

/-- An overlay takes away what the last one rendered and binds what this one renders. -/
theorem Reflects.overlay {m last d : Metadata} {others : Part → Dict String}
    (hm : m.Reflects last others)
    (hlast : ∀ p k, last.Renders p k → isBookkeeping k = false ∧ k ∉ (others p).keys) :
    (m.overlay d).Reflects d others := by
  refine ⟨fun p k hk => ?_, recorded_overlay m d⟩
  rw [get?_overlay m d hk, hm.records]
  cases hd : (d.bound p).get? k with
  | some v => rfl
  | none =>
    have hnow : k ∉ keysIn (OwnedKeys.ofMetadata d) p := by
      rw [mem_keysIn, Renders, Dict.mem_keys, hd]
      simp
    by_cases hbefore : last.Renders p k
    · -- rendered by the last overlay only: it goes, and no other writer holds it
      obtain ⟨hbook, hothers⟩ := hlast p k hbefore
      have hmem : k ∈ keysIn (OwnedKeys.ofMetadata last) p := mem_keysIn.2 ⟨hbefore, hbook⟩
      rw [if_pos ⟨hmem, hnow⟩, Dict.get?_eq_none hothers]
    · have hmem : k ∉ keysIn (OwnedKeys.ofMetadata last) p := fun h => hbefore (mem_keysIn.1 h).1
      rw [if_neg (fun h => hmem h.1), hm.binds p k hk, get?_of_not_renders hbefore]
      rfl

/-- An edit of keys that the last overlay did not render changes what others hold. -/
theorem Reflects.edit {m m' last : Metadata} {others : Part → Dict String} {c : Part → Changes}
    (hm : m.Reflects last others) (hedit : ∀ p, m'.bound p = (m.bound p).changed (c p))
    (hc : ∀ p, ∀ k ∈ (c p).keys, isRecord p k = false ∧ ¬ last.Renders p k) :
    m'.Reflects last fun p => (others p).changed (c p) := by
  constructor
  · intro p k hk
    rw [hedit p, Dict.get?_changed, Dict.get?_changed, hm.binds p k hk]
    cases hx : (c p).get? k with
    | none => rfl
    | some x =>
      have hkey : k ∈ (c p).keys := by
        rw [Dict.mem_keys, hx]
        rfl
      rw [get?_of_not_renders (hc p k hkey).2]
      rfl
  · -- the record is an annotation that no edit changes
    have hkeep : (m'.bound .annotations).get? ownedKeysAnnotation =
        (m.bound .annotations).get? ownedKeysAnnotation := by
      have hnot : ownedKeysAnnotation ∉ (c .annotations).keys := by
        intro hmem
        have hrecord := (hc .annotations _ hmem).1
        simp [isRecord, isBookkeeping] at hrecord
      rw [hedit .annotations, Dict.get?_changed, Dict.get?_eq_none hnot, Option.getD_none]
    rw [← hm.records]
    unfold OwnedKeys.recorded
    rw [← Dict.get?_getD, ← Dict.get?_getD]
    exact congrArg (fun x => (x.bind OwnedKeys.parse?).getD {}) hkeep

/-! ## A whole history -/

/-- What is rendered after an event. -/
def Event.onRendered (last : Metadata) : Event → Metadata
  | .overlay d => d
  | .edit _ => last

/-- What the last overlay of a history rendered, or nothing. -/
def lastRendered (h : List Event) : Metadata := h.foldl Event.onRendered {}

theorem lastRendered_overlay (h : List Event) (d : Metadata) :
    lastRendered (h ++ [.overlay d]) = d := by
  simp [lastRendered, Event.onRendered]

theorem lastRendered_edit (h : List Event) (c : Part → Changes) :
    lastRendered (h ++ [.edit c]) = lastRendered h := by
  simp [lastRendered, Event.onRendered]

theorem foldl_onRendered (h : List Event) (last : Metadata) :
    h.foldl Event.onRendered last = last ∨ .overlay (h.foldl Event.onRendered last) ∈ h := by
  induction h generalizing last with
  | nil => exact Or.inl rfl
  | cons e h ih =>
    rcases ih (e.onRendered last) with heq | hmem
    · cases e with
      | overlay d =>
        right
        rw [List.foldl_cons, heq]
        exact List.mem_cons_self
      | edit c => exact Or.inl heq
    · exact Or.inr (List.mem_cons_of_mem _ hmem)

/-- What binds a key was rendered by an overlay. -/
theorem overlay_lastRendered {h : List Event} {p : Part} {k : String}
    (hk : (lastRendered h).Renders p k) : .overlay (lastRendered h) ∈ h := by
  rcases foldl_onRendered h {} with hnone | hmem
  · rw [lastRendered, hnone] at hk
    cases p <;> cases hk
  · exact hmem

/-- At first nothing is recorded. -/
theorem KeepsApart.reflects {m₀ : Metadata} (ha : KeepsApart m₀ []) :
    m₀.Reflects {} m₀.bound := by
  constructor
  · intro p k _
    cases p <;> rfl
  · have hnone : (m₀.bound .annotations).get? ownedKeysAnnotation = none := by
      apply Dict.get?_eq_none
      intro hmem
      have hrecord := (ha.initial .annotations _ hmem).1
      simp [isRecord, isBookkeeping] at hrecord
    unfold OwnedKeys.recorded
    rw [← Dict.get?_getD]
    exact congrArg (fun x => (x.bind OwnedKeys.parse?).getD {}) hnone

/-- After every history the metadata binds what was rendered last over what the others left. -/
theorem reflects_of_evolves {m₀ m : Metadata} {h : List Event} (hrun : Evolves m₀ h m)
    (ha : KeepsApart m₀ h) : m.Reflects (lastRendered h) (m₀.ofOthers h) := by
  induction hrun with
  | start => exact ha.reflects
  | @overlay h m d _ ih =>
    -- what was rendered last is an overlay of the history, so nobody else holds a key of it
    have hbefore := ha.of_append
    have hstep := (ih hbefore).overlay (d := d) fun p k hk => by
      have hmem := overlay_lastRendered hk
      exact ⟨hbefore.rendered _ hmem p k hk, fun hother => (hbefore.ofOthers hother).2 _ hmem hk⟩
    rw [lastRendered_overlay, funext (ofOthers_overlay m₀ h d)]
    exact hstep
  | @edit h m m' c _ hedit ih =>
    -- and the edit touches no key of it
    have hstep := (ih ha.of_append).edit hedit fun p k hk => by
      have hlast := List.mem_append_right h (List.mem_singleton.2 (Eq.refl (Event.edit c)))
      obtain ⟨hrecord, hnot⟩ := ha.edited c hlast p k hk
      exact ⟨hrecord, fun hr => hnot _ (List.mem_append_left _ (overlay_lastRendered hr)) hr⟩
    rw [lastRendered_edit, funext (ofOthers_edit m₀ h c)]
    exact hstep

/-! ## After an overlay -/

theorem Reflects.labels_eq {m last : Metadata} {others : Part → Dict String}
    (hm : m.Reflects last others) :
    m.bound .labels = (others .labels).union (last.bound .labels) := by
  apply Dict.ext_get?
  intro k
  rw [Dict.get?_union]
  exact hm.binds .labels k rfl

/-- Where nobody else writes the operator's records, the annotations beside them are determined. -/
theorem Reflects.annotations_eq {m last : Metadata} {others : Part → Dict String}
    (hm : m.Reflects last others)
    (hlast : ∀ k ∈ (last.bound .annotations).keys, isBookkeeping k = false)
    (hothers : ∀ k ∈ (others .annotations).keys, isBookkeeping k = false) :
    (m.bound .annotations).filterKeys (fun k => !isBookkeeping k) =
      (others .annotations).union (last.bound .annotations) := by
  have hnone : ∀ {d : Dict String} {k : String}, isBookkeeping k = true →
      (∀ k ∈ d.keys, isBookkeeping k = false) → d.get? k = none := by
    intro d k hk hd
    apply Dict.get?_eq_none
    intro hmem
    rw [hd k hmem] at hk
    cases hk
  apply Dict.ext_get?
  intro k
  rw [Dict.get?_filterKeys, Dict.get?_union]
  cases hk : isBookkeeping k with
  | false => exact hm.binds .annotations k hk
  | true =>
    rw [hnone hk hlast, hnone hk hothers]
    rfl

/-- A key that is neither rendered nor held by others is not there. -/
theorem Reflects.not_renders {m last : Metadata} {others : Part → Dict String}
    (hm : m.Reflects last others) {p : Part} {k : String} (hk : isRecord p k = false)
    (hlast : ¬ last.Renders p k) (hothers : k ∉ (others p).keys) : ¬ m.Renders p k := by
  intro hmem
  rw [Renders, Dict.mem_keys, hm.binds p k hk, get?_of_not_renders hlast,
    Dict.get?_eq_none hothers] at hmem
  cases hmem

/-- A key that is not rendered has the value that others gave it. -/
theorem Reflects.get?_eq {m last : Metadata} {others : Part → Dict String}
    (hm : m.Reflects last others) {p : Part} {k : String} (hk : isRecord p k = false)
    (hlast : ¬ last.Renders p k) : (m.bound p).get? k = (others p).get? k := by
  rw [hm.binds p k hk, get?_of_not_renders hlast]
  rfl

/-- After an overlay the labels are exactly the rendered ones and those of the other writers, and so
are the annotations, the operator's records apart. What an earlier overlay rendered and this one
does not is gone, and what another writer holds was there all along and still is. -/
theorem bound_after_overlay {m₀ m d : Metadata} {h : List Event} (hrun : Evolves m₀ h m)
    (ha : KeepsApart m₀ (h ++ [.overlay d])) :
    (m.overlay d).bound .labels = (m₀.ofOthers h .labels).union (d.bound .labels) ∧
    ((m.overlay d).bound .annotations).filterKeys (fun k => !isBookkeeping k) =
      (m₀.ofOthers h .annotations).union (d.bound .annotations) ∧
    (∀ p k, (∃ d', .overlay d' ∈ h ∧ d'.Renders p k) → ¬ d.Renders p k →
      ¬ (m.overlay d).Renders p k) ∧
    ∀ p k v, (m₀.ofOthers h p).get? k = some v →
      (m.bound p).get? k = some v ∧ ((m.overlay d).bound p).get? k = some v := by
  have hbefore : m.Reflects (lastRendered h) (m₀.ofOthers h) :=
    reflects_of_evolves hrun ha.of_append
  have hafter : (m.overlay d).Reflects d (m₀.ofOthers h) := by
    have hall := reflects_of_evolves (hrun.overlay d) ha
    rwa [lastRendered_overlay, funext (ofOthers_overlay m₀ h d)] at hall
  have hothers : ∀ p, ∀ k ∈ (m₀.ofOthers h p).keys,
      isRecord p k = false ∧ ∀ d', .overlay d' ∈ h ++ [.overlay d] → ¬ d'.Renders p k := by
    intro p k hk
    rw [← ofOthers_overlay m₀ h d] at hk
    exact ha.ofOthers hk
  have hearlier : ∀ {d'}, Event.overlay d' ∈ h → Event.overlay d' ∈ h ++ [.overlay d] :=
    List.mem_append_left _
  have hlast : Event.overlay d ∈ h ++ [.overlay d] :=
    List.mem_append_right _ (List.mem_singleton.2 rfl)
  refine ⟨hafter.labels_eq, ?_, ?_, ?_⟩
  · exact hafter.annotations_eq (ha.rendered d hlast .annotations)
      fun k hk => (hothers .annotations k hk).1
  · rintro p k ⟨d', hd', hrendered⟩ hnot
    have hbook : isBookkeeping k = false := ha.rendered d' (hearlier hd') p k hrendered
    have hrecord : isRecord p k = false := by
      cases p with
      | labels => rfl
      | annotations => exact hbook
    exact hafter.not_renders hrecord hnot fun hmem =>
      (hothers p k hmem).2 d' (hearlier hd') hrendered
  · intro p k v hv
    have hkey : k ∈ (m₀.ofOthers h p).keys := by
      rw [Dict.mem_keys, hv]
      rfl
    obtain ⟨hrecord, hnot⟩ := hothers p k hkey
    have hthen : ¬ (lastRendered h).Renders p k := fun hr =>
      hnot _ (hearlier (overlay_lastRendered hr)) hr
    constructor
    · rw [hbefore.get?_eq hrecord hthen, hv]
    · rw [hafter.get?_eq hrecord (hnot d hlast), hv]

/-- Metadata with a label of another writer. -/
def teamMetadata : Metadata := { labels := some (Dict.ofList [("team", "edge")]) }

/-- Desired metadata with an annotation. -/
def notedMetadata : Metadata where
  labels := some (Dict.ofList [("app", "gateway")])
  annotations := some (Dict.ofList [("note", "first")])

/-- The same without its annotation. -/
def plainMetadata : Metadata := { labels := some (Dict.ofList [("app", "proxy")]) }

/-- Another writer takes the team away and names a tier. -/
def retiered : Part → Changes
  | .labels => Dict.ofList [("team", none), ("tier", some "front")]
  | .annotations => ∅

/-- The annotation that is no longer rendered is gone, and the other writer's tier stays. -/
theorem bound_after_overlay_retiered :
    let m : Metadata := { teamMetadata.overlay notedMetadata with
      labels := some (Dict.ofList [("app", "gateway"), ("tier", "front")]) }
    (m.overlay plainMetadata).bound .labels = Dict.ofList [("app", "proxy"), ("tier", "front")] ∧
    ¬ (m.overlay plainMetadata).Renders .annotations "note" := by
  intro m
  have hrun : Evolves teamMetadata [.overlay notedMetadata, .edit retiered] m := by
    refine Evolves.edit retiered (Evolves.overlay notedMetadata Evolves.start) fun p => ?_
    cases p <;> rfl
  have hoverlays : ∀ d, Event.overlay d ∈
      [Event.overlay notedMetadata, .edit retiered] ++ [.overlay plainMetadata] →
        d = notedMetadata ∨ d = plainMetadata := by
    intro d hd
    simpa using hd
  have hforeign : ∀ {p : Part} {k : String},
      isRecord p k = false ∧ ¬ notedMetadata.Renders p k ∧ ¬ plainMetadata.Renders p k →
        isRecord p k = false ∧ ∀ d, Event.overlay d ∈
          [Event.overlay notedMetadata, .edit retiered] ++ [.overlay plainMetadata] →
            ¬ d.Renders p k := by
    rintro p k ⟨hrecord, hnoted, hplain⟩
    refine ⟨hrecord, fun d hd => ?_⟩
    rcases hoverlays d hd with rfl | rfl
    · exact hnoted
    · exact hplain
  have hapart : KeepsApart teamMetadata
      ([.overlay notedMetadata, .edit retiered] ++ [.overlay plainMetadata]) := by
    constructor
    · intro d hd p
      rcases hoverlays d hd with rfl | rfl <;> cases p <;> unfold Renders <;> decide
    · intro p k hk
      apply hforeign
      revert k
      cases p <;> unfold Renders <;> decide
    · intro c hc p k hk
      have heq : c = retiered := by simpa using hc
      subst heq
      apply hforeign
      revert k
      cases p <;> unfold Renders <;> decide
  obtain ⟨hlabels, -, hgone, -⟩ := bound_after_overlay hrun hapart
  constructor
  · rw [hlabels]
    rfl
  · apply hgone .annotations "note"
    · exact ⟨notedMetadata, List.mem_cons_self, by unfold Renders; decide⟩
    · unfold Renders; decide

end Metadata

end GatewayOperator
