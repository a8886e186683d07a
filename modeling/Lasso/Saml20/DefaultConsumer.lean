import Mathlib.Data.List.Find
import Lasso.Library.StableSort
import Lasso.Provider.Metadata
import Lasso.Saml20.Provider

/-!
# The descriptors of SAML 2.0 metadata

A descriptor is loaded element by element, and its endpoints are put in order by role, kind, isDefault
and index. Which assertion consumer service is the default one is decided twice: by a rule in document
order, whose result is kept as an index, and by this order.

## Main definitions

* `loadEndpointType2`, `compareEndpointType` — an endpoint, and the order of endpoints.
* `loadDescriptor` — `load_descriptor`.
* `designated` — the service that the rule designates.
* `LeadsServices` — the service is the first one of the least index.

## Main results

* `defaultConsumer_iff` — when the default endpoint is that of the designated service.
-/

namespace Lasso.Saml20

open StableSort

/-! ## Endpoints -/

/-- `xsdUnsignedShortParse`; the `long` that is read is cut to an `int`. -/
def xsdUnsignedShortParse (value : String) : Option Int :=
  let long := max (-2 ^ 63) (min (2 ^ 63 - 1) (Decimal.strtol value.toList))
  let l := long.bmod (2 ^ 32)
  if l < 0 ∨ l ≥ 65535 then none else some l

/-- -1 if true, 1 if false, and 0 if invalid or not present -/
def isDefaultValue : Option String → Int
  | some "true" => -1
  | some "false" => 1
  | _ => 0

/-- An AssertionConsumerService element -/
def isConsumerElement (node : XmlNode) : Bool :=
  node.isElementNode "AssertionConsumerService" saml2MetadataHref

/-- `load_endpoint_type2`. The counter for the other endpoints is never increased. -/
def loadEndpointType2 (role : ProviderRole) (node : XmlNode) : Option EndpointType :=
  match node.elementName, node.getProp "Binding", node.getProp "Location" with
  | some kind, some binding, some url =>
    let endpoint : EndpointType :=
      { role, kind, binding, url, returnUrl := node.getProp "ResponseLocation", index := 0 }
    if isConsumerElement node ||
        node.isElementNode "ArtifactResolutionService" saml2MetadataHref then
      ((node.getProp "index").bind xsdUnsignedShortParse).map fun index =>
        { endpoint with index, isDefault := isDefaultValue (node.getProp "isDefault") }
    else some endpoint
  | _, _, _ => none

/-- `compare_endpoint_type`: by role, by kind, by isDefault (truth first, then absent, then false),
then by index -/
def compareEndpointType : EndpointType → EndpointType → Ordering :=
  compareLex (compareOn (·.role.toInt)) <| compareLex (compareOn (·.kind)) <|
    compareLex (compareOn (·.isDefault)) (compareOn (·.index))

/-- The first endpoint need not come after the second. -/
def InOrder (a b : EndpointType) : Prop := (compareEndpointType a b).isLE = true

instance : DecidableRel InOrder := fun _ _ => inferInstanceAs (Decidable (_ = true))

instance : Std.TransCmp compareEndpointType := by
  unfold compareEndpointType
  infer_instance

instance : IsTrans EndpointType InOrder := ⟨fun _ _ _ => Std.TransCmp.isLE_trans⟩

instance : Std.Total InOrder where
  total a b := by
    have hswap : compareEndpointType b a = (compareEndpointType a b).swap :=
      Std.OrientedCmp.eq_swap
    unfold InOrder
    rw [hswap]
    cases compareEndpointType a b <;> simp

/-! ## Descriptors -/

/-- `_lasso_provider_add_metadata_value_for_role`; a role without a prefix keeps nothing. -/
def addMetadataValue (metadata : Metadata) (role : ProviderRole) (name value : String) : Metadata :=
  match role.metadataHead with
  | none => metadata
  | some head =>
    let symbol := head ++ " " ++ name
    let l := (metadata.descriptors.lookup symbol).getD []
    { metadata with descriptors := metadata.descriptors.insert symbol (l ++ [value]) }

/-- `load_endpoint_type`: the metadata values of an endpoint, and the index of the first assertion
consumer service that is the default -/
def loadEndpointType (role : ProviderRole) (metadata : Metadata) (node : XmlNode) : Metadata :=
  match (node.getProp "Binding").bind bindingUriToIdentifier, node.getProp "Location" with
  | some binding, some value =>
    let index := node.getProp "index"
    let metadata :=
      if isConsumerElement node ∧ node.getProp "isDefault" = some "true" ∧
          metadata.defaultAssertionConsumer = none then
        { metadata with defaultAssertionConsumer := index }
      else metadata
    let name := (node.elementName.getD "") ++ " " ++ binding ++
      (if isConsumerElement node then " " ++ index.getD "(null)" else "")
    let metadata :=
      match node.getProp "ResponseLocation" with
      | some responseValue =>
        addMetadataValue metadata role (name ++ " ResponseLocation") responseValue
      | none => metadata
    addMetadataValue metadata role name value
  | _, _ => metadata

/-- `_lasso_provider_load_key_descriptor` -/
def loadKeyDescriptor (metadata : Metadata) (keyDescriptor : XmlNode) : Metadata :=
  let use := keyDescriptor.getProp "use"
  let metadata :=
    if use = none ∨ use = some "signing" then
      { metadata with
        signingKeyDescriptors := metadata.signingKeyDescriptors ++ [keyDescriptor] }
    else metadata
  if use = none ∨ use = some "encryption" then
    { metadata with encryptionKeyDescriptor := some keyDescriptor }
  else metadata

/-- The assertion consumer services of a descriptor, in document order. -/
def consumerElements (descriptor : XmlNode) : List XmlNode :=
  descriptor.children.filter isConsumerElement

/-- `load_default_assertion_consumer` -/
def loadDefaultAssertionConsumer (descriptor : XmlNode) (metadata : Metadata) : Bool × Metadata :=
  if metadata.defaultAssertionConsumer.isSome then (true, metadata)
  else
    let services := consumerElements descriptor
    let notFalse := services.filter (·.getProp "isDefault" ≠ some "false")
    match (notFalse.findSome? (·.getProp "index")).or
        (services.head?.bind (·.getProp "index")) with
    | some index => (true, { metadata with defaultAssertionConsumer := some index })
    | none => (false, metadata)

/-- One turn of the loop over the elements of a descriptor. The attributes of an identity provider are
not kept here. -/
def loadDescriptorChild (role : ProviderRole) (metadata : Metadata) (t : XmlNode) : Metadata :=
  if !t.isElement then metadata
  else if t.isElementNode "KeyDescriptor" saml2MetadataHref then loadKeyDescriptor metadata t
  else if t.isElementNode "Attribute" saml2MetadataHref ∧ role = .idp then metadata
  else if (t.getProp "Binding").isSome then
    let metadata := loadEndpointType role metadata t
    { metadata with endpoints := metadata.endpoints ++ (loadEndpointType2 role t).toList }
  else addMetadataValue metadata role (t.elementName.getD "") t.textContent

/-- `descriptor_attrs` -/
def descriptorAttrs : List String :=
  ["validUntil", "cacheDuration", "AuthnRequestsSigned", "WantAuthnRequestsSigned", "errorURL"]

/-- The protocol is one of those that the descriptor supports. -/
def supportsProtocol (descriptor : XmlNode) : Bool :=
  (descriptor.getProp "protocolSupportEnumeration").any fun value =>
    (value.toList.splitOn ' ').contains saml2ProtocolHref.toList

/-- `load_descriptor`. A descriptor without `protocolSupportEnumeration` is not returned from. -/
def loadDescriptor (node : XmlNode) (role : ProviderRole) (metadata : Metadata) : Bool × Metadata :=
  if !supportsProtocol node then (false, metadata)
  else
    -- add role to supported roles for the provider
    let metadata := { metadata with roles := Int.lor metadata.roles role.toInt }
    let metadata := node.children.foldl (loadDescriptorChild role) metadata
    let metadata := { metadata with endpoints := metadata.endpoints.insertionSort InOrder }
    let metadata := descriptorAttrs.foldl (fun metadata name =>
      ((node.getProp name).map (addMetadataValue metadata role name)).getD metadata) metadata
    let (loaded, metadata) := loadDefaultAssertionConsumer node metadata
    (loaded || decide (role ≠ .sp), metadata)

/-! ## The rule -/

/-- The default assertion consumer service: the first one that is the default, else the first one that
is not said not to be, else the first one. -/
def designated (descriptor : XmlNode) : Option XmlNode :=
  let services := consumerElements descriptor
  ((services.find? (·.getProp "isDefault" = some "true")).or
    (services.find? (·.getProp "isDefault" ≠ some "false"))).or services.head?

/-- The endpoint of an element. -/
def childEndpoint (role : ProviderRole) (t : XmlNode) : Option EndpointType :=
  if t.isElementNode "KeyDescriptor" saml2MetadataHref ∨
      t.isElementNode "Attribute" saml2MetadataHref ∧ role = .idp then none
  else loadEndpointType2 role t

/-- The endpoints of a descriptor, in document order. -/
def descriptorEndpoints (descriptor : XmlNode) (role : ProviderRole) : List EndpointType :=
  descriptor.children.filterMap (childEndpoint role)

/-- An assertion consumer service with a supported binding. -/
def isSupportedConsumer (e : EndpointType) : Bool :=
  isAssertionConsumerService e && supportedAssertionConsumerBindings.contains e.binding

/-- The endpoint has the least isDefault and index of the supported services of a descriptor, and is
the first one with these. -/
structure LeadsServices (descriptor : XmlNode) (d : EndpointType) : Prop where
  isDefault_le : ∀ e ∈ descriptorEndpoints descriptor .sp, isSupportedConsumer e = true →
    d.isDefault ≤ e.isDefault
  index_le : ∀ e ∈ descriptorEndpoints descriptor .sp, isSupportedConsumer e = true →
    e.isDefault = d.isDefault → d.index ≤ e.index
  first : (descriptorEndpoints descriptor .sp).find? (fun e => isSupportedConsumer e &&
    decide (e.isDefault = d.isDefault ∧ e.index = d.index)) = some d

/-- The endpoint of the designated service leads; if it has none, no service is supported. -/
def RuleFollowed (descriptor : XmlNode) : Prop :=
  match (designated descriptor).bind (childEndpoint .sp) with
  | some d => LeadsServices descriptor d
  | none => ∀ e ∈ descriptorEndpoints descriptor .sp, isSupportedConsumer e = false

/-! ## Loading endpoints -/

section

variable {metadata : Metadata} {role : ProviderRole}

@[simp] theorem addMetadataValue_endpoints (name value : String) :
    (addMetadataValue metadata role name value).endpoints = metadata.endpoints := by
  unfold addMetadataValue
  split <;> rfl

@[simp] theorem loadEndpointType_endpoints (node : XmlNode) :
    (loadEndpointType role metadata node).endpoints = metadata.endpoints := by
  unfold loadEndpointType
  split
  · dsimp only
    rw [addMetadataValue_endpoints]
    split
    · rw [addMetadataValue_endpoints]
      split_ifs <;> rfl
    · split_ifs <;> rfl
  · rfl

@[simp] theorem loadKeyDescriptor_endpoints (keyDescriptor : XmlNode) :
    (loadKeyDescriptor metadata keyDescriptor).endpoints = metadata.endpoints := by
  unfold loadKeyDescriptor
  dsimp only
  split_ifs <;> rfl

@[simp] theorem loadDefaultAssertionConsumer_endpoints (descriptor : XmlNode) :
    (loadDefaultAssertionConsumer descriptor metadata).2.endpoints = metadata.endpoints := by
  unfold loadDefaultAssertionConsumer
  split_ifs
  · rfl
  · dsimp only
    split <;> rfl

theorem loadDescriptorChild_endpoints (t : XmlNode) :
    (loadDescriptorChild role metadata t).endpoints =
      metadata.endpoints ++ (childEndpoint role t).toList := by
  have hnone (h : t.elementName = none ∨ t.getProp "Binding" = none) :
      loadEndpointType2 role t = none := by
    unfold loadEndpointType2
    split
    · rename_i hkind hbinding _
      simp [hkind, hbinding] at h
    · rfl
  unfold loadDescriptorChild childEndpoint
  by_cases helement : t.isElement = true
  · rw [if_neg (by simp [helement])]
    by_cases hkey : t.isElementNode "KeyDescriptor" saml2MetadataHref = true
    · rw [if_pos hkey, if_pos (.inl hkey), loadKeyDescriptor_endpoints]
      simp
    · rw [if_neg hkey]
      by_cases hattribute : t.isElementNode "Attribute" saml2MetadataHref = true ∧ role = .idp
      · rw [if_pos hattribute, if_pos (.inr hattribute)]
        simp
      · rw [if_neg hattribute, if_neg (not_or.mpr ⟨hkey, hattribute⟩)]
        split_ifs with hbinding
        · simp
        · simp [hnone (.inr (by simpa using hbinding))]
  · have hname : t.elementName = none := by
      cases t with
      | element => simp [XmlNode.isElement] at helement
      | _ => rfl
    simp [helement, hnone (.inl hname)]

theorem foldl_loadDescriptorChild_endpoints (children : List XmlNode) :
    (children.foldl (loadDescriptorChild role) metadata).endpoints =
      metadata.endpoints ++ children.filterMap (childEndpoint role) := by
  induction children generalizing metadata with
  | nil => simp
  | cons t children ih =>
    rw [List.foldl_cons, ih, loadDescriptorChild_endpoints, List.append_assoc]
    cases hchild : childEndpoint role t <;> simp [hchild]

/-- The endpoints of a descriptor are added to those of the descriptors before, and all of them are
sorted. -/
theorem loadDescriptor_endpoints {descriptor : XmlNode}
    (hprotocol : supportsProtocol descriptor = true) :
    (loadDescriptor descriptor role metadata).2.endpoints =
      (metadata.endpoints ++ descriptorEndpoints descriptor role).insertionSort InOrder := by
  have hattrs (names : List String) (m : Metadata) :
      (names.foldl (fun metadata name =>
        ((descriptor.getProp name).map (addMetadataValue metadata role name)).getD metadata)
        m).endpoints = m.endpoints := by
    induction names generalizing m with
    | nil => rfl
    | cons name names ih =>
      rw [List.foldl_cons, ih]
      cases descriptor.getProp name <;> simp
  simp only [loadDescriptor, hprotocol, Bool.not_true, Bool.false_eq_true, if_false,
    loadDefaultAssertionConsumer_endpoints, hattrs, foldl_loadDescriptorChild_endpoints,
    descriptorEndpoints]

end

/-! ## The default endpoint -/

section

variable {metadata : Metadata} {descriptor : XmlNode} {d e : EndpointType}

/-- Two assertion consumer services are in the order of isDefault and index. -/
theorem inOrder_iff (hd : isAssertionConsumerService d = true)
    (he : isAssertionConsumerService e = true) :
    InOrder d e ↔ d.isDefault < e.isDefault ∨ d.isDefault = e.isDefault ∧ d.index ≤ e.index := by
  simp only [isAssertionConsumerService, Bool.and_eq_true, beq_iff_eq] at hd he
  simp only [InOrder, compareEndpointType, compareLex, compareOn, hd, he,
    Std.ReflCmp.compare_self, Ordering.eq_then]
  rcases lt_trichotomy d.isDefault e.isDefault with hlt | heq | hgt
  · simp [compare_lt_iff_lt.mpr hlt, hlt]
  · simp [heq, Std.isLE_compare]
  · simp [compare_gt_iff_gt.mpr hgt, hgt.le, hgt.ne']

theorem isAssertionConsumerService_of_supported {e : EndpointType}
    (he : isSupportedConsumer e = true) : isAssertionConsumerService e = true :=
  (Bool.and_eq_true_iff.mp he).1

/-- Coming before all supported services, by the values that are compared. -/
theorem forall_inOrder_iff {endpoints : List EndpointType} (hd : isSupportedConsumer d = true) :
    (∀ e ∈ endpoints, isSupportedConsumer e = true → InOrder d e) ↔
      (∀ e ∈ endpoints, isSupportedConsumer e = true → d.isDefault ≤ e.isDefault) ∧
        ∀ e ∈ endpoints, isSupportedConsumer e = true → e.isDefault = d.isDefault →
          d.index ≤ e.index := by
  have horder {e : EndpointType} (he : isSupportedConsumer e = true) :=
    inOrder_iff (isAssertionConsumerService_of_supported hd)
      (isAssertionConsumerService_of_supported he)
  constructor
  · intro h
    refine ⟨fun e he hsupported => ?_, fun e he hsupported heq => ?_⟩
    · have hle := (horder hsupported).mp (h e he hsupported)
      omega
    · have hle := (horder hsupported).mp (h e he hsupported)
      omega
  · rintro ⟨hdefault, hindex⟩ e he hsupported
    have hle := hdefault e he hsupported
    have hle' := hindex e he hsupported
    rw [horder hsupported]
    omega

/-- Those that come before a leading service as well have the same values. -/
theorem find?_inOrder_eq {endpoints : List EndpointType} (hd : isSupportedConsumer d = true)
    (hleads : ∀ e ∈ endpoints, isSupportedConsumer e = true → InOrder d e) :
    endpoints.find? (fun e => isSupportedConsumer e && decide (InOrder e d)) =
      endpoints.find? fun e => isSupportedConsumer e &&
        decide (e.isDefault = d.isDefault ∧ e.index = d.index) := by
  apply List.find?_congr
  intro e he
  by_cases hsupported : isSupportedConsumer e = true
  · have hconsumer := isAssertionConsumerService_of_supported hsupported
    have hconsumer' := isAssertionConsumerService_of_supported hd
    have hle := (inOrder_iff hconsumer' hconsumer).mp (hleads e he hsupported)
    rw [hsupported, Bool.true_and, Bool.true_and, decide_eq_decide, inOrder_iff hconsumer hconsumer']
    omega
  · simp [hsupported]

/-- The default endpoint is the one that leads the services. -/
theorem getAssertionConsumerService_eq_some_iff (p : Provider)
    (hnone : ∀ e ∈ metadata.endpoints, isAssertionConsumerService e = false)
    (hprotocol : supportsProtocol descriptor = true) :
    getAssertionConsumerService
        { p with endpoints := (loadDescriptor descriptor .sp metadata).2.endpoints } (-1) = some d ↔
      LeadsServices descriptor d := by
  have hfind : getAssertionConsumerService
      { p with endpoints := (loadDescriptor descriptor .sp metadata).2.endpoints } (-1) =
      ((metadata.endpoints ++ descriptorEndpoints descriptor .sp).insertionSort InOrder).find?
        isSupportedConsumer := by
    rw [← loadDescriptor_endpoints hprotocol]
    rfl
  have hold (q : EndpointType → Bool) :
      metadata.endpoints.find? (fun e => isSupportedConsumer e && q e) = none := by
    rw [List.find?_eq_none]
    intro e he
    simp [isSupportedConsumer, hnone e he]
  rw [hfind, find?_insertionSort_eq_some_iff, List.find?_append, hold, Option.none_or]
  constructor
  · rintro ⟨hleast, hfirst⟩
    obtain ⟨hmem, hd⟩ := of_find?_and hfirst
    have hleads : ∀ e ∈ descriptorEndpoints descriptor .sp, isSupportedConsumer e = true →
        InOrder d e := fun e he => hleast e (List.mem_append_right _ he)
    obtain ⟨hdefault, hindex⟩ := (forall_inOrder_iff hd).mp hleads
    exact ⟨hdefault, hindex, (find?_inOrder_eq hd hleads).symm.trans hfirst⟩
  · intro h
    obtain ⟨-, hd⟩ := of_find?_and h.first
    have hleads := (forall_inOrder_iff hd).mpr ⟨h.isDefault_le, h.index_le⟩
    refine ⟨fun e he hsupported => ?_, (find?_inOrder_eq hd hleads).trans h.first⟩
    rcases List.mem_append.mp he with hold | he
    · simp [isSupportedConsumer, hnone e hold] at hsupported
    · exact hleads e he hsupported

theorem getAssertionConsumerService_eq_none_iff (p : Provider)
    (hnone : ∀ e ∈ metadata.endpoints, isAssertionConsumerService e = false)
    (hprotocol : supportsProtocol descriptor = true) :
    getAssertionConsumerService
        { p with endpoints := (loadDescriptor descriptor .sp metadata).2.endpoints } (-1) = none ↔
      ∀ e ∈ descriptorEndpoints descriptor .sp, isSupportedConsumer e = false := by
  have hfind : getAssertionConsumerService
      { p with endpoints := (loadDescriptor descriptor .sp metadata).2.endpoints } (-1) =
      ((metadata.endpoints ++ descriptorEndpoints descriptor .sp).insertionSort InOrder).find?
        isSupportedConsumer := by
    rw [← loadDescriptor_endpoints hprotocol]
    rfl
  have hold (e : EndpointType) (he : e ∈ metadata.endpoints) : isSupportedConsumer e = false := by
    simp [isSupportedConsumer, hnone e he]
  rw [hfind, List.find?_eq_none]
  constructor
  · intro h e he
    simpa using h e (by simp [he])
  · intro h e he
    rcases List.mem_append.mp ((List.mem_insertionSort InOrder).mp he) with hmem | hmem
    · simp [hold e hmem]
    · simp [h e hmem]

end

/-- The default endpoint is that of the designated service if and only if this endpoint leads. -/
theorem defaultConsumer_iff (p : Provider) (metadata : Metadata) (descriptor : XmlNode)
    (hnone : ∀ e ∈ metadata.endpoints, isAssertionConsumerService e = false)
    (hprotocol : supportsProtocol descriptor = true) :
    getAssertionConsumerService
        { p with endpoints := (loadDescriptor descriptor .sp metadata).2.endpoints } (-1) =
      (designated descriptor).bind (childEndpoint .sp) ↔ RuleFollowed descriptor := by
  unfold RuleFollowed
  cases (designated descriptor).bind (childEndpoint .sp) with
  | none => exact getAssertionConsumerService_eq_none_iff p hnone hprotocol
  | some d => exact getAssertionConsumerService_eq_some_iff p hnone hprotocol

/-! ## The index -/

section

variable {descriptor t : XmlNode} {d e : EndpointType}

/-- The isDefault of a service, as it is compared. -/
def defaultRank (t : XmlNode) : Int := isDefaultValue (t.getProp "isDefault")

theorem defaultRank_mem (t : XmlNode) :
    defaultRank t = -1 ∨ defaultRank t = 0 ∨ defaultRank t = 1 := by
  unfold defaultRank isDefaultValue
  split <;> simp

theorem defaultRank_eq_neg_one_iff (t : XmlNode) :
    defaultRank t = -1 ↔ t.getProp "isDefault" = some "true" := by
  unfold defaultRank isDefaultValue
  split <;> simp_all

theorem defaultRank_eq_one_iff (t : XmlNode) :
    defaultRank t = 1 ↔ t.getProp "isDefault" = some "false" := by
  unfold defaultRank isDefaultValue
  split <;> simp_all

/-- A search among the services of a descriptor. -/
theorem find?_consumerElements {q : XmlNode → Bool}
    (h : (consumerElements descriptor).find? q = some t) :
    isConsumerElement t = true ∧ q t = true ∧
      ∃ before after, descriptor.children = before ++ t :: after ∧
        ∀ c ∈ before, isConsumerElement c = true → q c = false := by
  rw [consumerElements, List.find?_filter, List.find?_eq_some_iff_append] at h
  obtain ⟨ht, before, after, hchildren, hbefore⟩ := h
  obtain ⟨hconsumer, hq⟩ := of_decide_eq_true ht
  refine ⟨hconsumer, hq, before, after, hchildren, fun c hc hservice => ?_⟩
  simpa [hservice] using hbefore c hc

/-- The rule designates the first service of the least isDefault. -/
theorem designated_eq_some (h : designated descriptor = some t) :
    isConsumerElement t = true ∧ ∃ before after, descriptor.children = before ++ t :: after ∧
      (∀ c ∈ before, isConsumerElement c = true → defaultRank t < defaultRank c) ∧
      (∀ c ∈ after, isConsumerElement c = true → defaultRank t ≤ defaultRank c) := by
  have hmem {before after : List XmlNode} {c : XmlNode}
      (hchildren : descriptor.children = before ++ t :: after) (hc : c ∈ after)
      (hservice : isConsumerElement c = true) : c ∈ consumerElements descriptor := by
    simp [consumerElements, hchildren, hc, hservice]
  unfold designated at h
  dsimp only at h
  cases htrue : (consumerElements descriptor).find? (·.getProp "isDefault" = some "true") with
  | some t' =>
    rw [htrue, Option.some_or, Option.some_or, Option.some.injEq] at h
    subst h
    obtain ⟨hconsumer, ht, before, after, hchildren, hbefore⟩ := find?_consumerElements htrue
    have hrank := (defaultRank_eq_neg_one_iff t').mpr (by simpa using ht)
    refine ⟨hconsumer, before, after, hchildren, fun c hc hservice => ?_, fun c hc hservice => ?_⟩
    · have hother := (defaultRank_eq_neg_one_iff c).not.mpr (by simpa using hbefore c hc hservice)
      have := defaultRank_mem c
      omega
    · have := defaultRank_mem c
      omega
  | none =>
    have hnotTrue (c : XmlNode) (hc : c ∈ consumerElements descriptor) : defaultRank c ≠ -1 :=
      (defaultRank_eq_neg_one_iff c).not.mpr (by simpa using List.find?_eq_none.mp htrue c hc)
    rw [htrue, Option.none_or] at h
    cases hfalse : (consumerElements descriptor).find? (·.getProp "isDefault" ≠ some "false") with
    | some t' =>
      rw [hfalse, Option.some_or, Option.some.injEq] at h
      subst h
      obtain ⟨hconsumer, ht, before, after, hchildren, hbefore⟩ := find?_consumerElements hfalse
      have hrank := (defaultRank_eq_one_iff t').not.mpr (by simpa using ht)
      have htrank := hnotTrue t' (List.mem_of_find?_eq_some hfalse)
      refine ⟨hconsumer, before, after, hchildren, fun c hc hservice => ?_,
        fun c hc hservice => ?_⟩
      · have hother := (defaultRank_eq_one_iff c).mpr (by simpa using hbefore c hc hservice)
        have := defaultRank_mem t'
        omega
      · have hother := hnotTrue c (hmem hchildren hc hservice)
        have := defaultRank_mem t'
        have := defaultRank_mem c
        omega
    | none =>
      have hallFalse (c : XmlNode) (hc : c ∈ consumerElements descriptor) : defaultRank c = 1 :=
        (defaultRank_eq_one_iff c).mpr (by simpa using List.find?_eq_none.mp hfalse c hc)
      rw [hfalse, Option.none_or] at h
      have hhead : (consumerElements descriptor).find? (fun _ => true) = some t := by
        obtain ⟨services, hservices⟩ := List.head?_eq_some_iff.mp h
        rw [hservices]
        rfl
      obtain ⟨hconsumer, -, before, after, hchildren, hbefore⟩ := find?_consumerElements hhead
      refine ⟨hconsumer, before, after, hchildren, fun c hc hservice => ?_,
        fun c hc hservice => ?_⟩
      · exact absurd (hbefore c hc hservice) (by simp)
      · rw [hallFalse t (List.mem_of_head? h), hallFalse c (hmem hchildren hc hservice)]

theorem loadEndpointType2_eq_some {role : ProviderRole} (h : loadEndpointType2 role t = some e) :
    e.role = role ∧ t.elementName = some e.kind ∧
      (isConsumerElement t = true → e.isDefault = defaultRank t) := by
  unfold loadEndpointType2 at h
  split at h
  · rename_i kind binding url hkind _ _
    dsimp only at h
    split_ifs at h with hindexed
    · obtain ⟨index, -, rfl⟩ := Option.map_eq_some_iff.mp h
      exact ⟨rfl, hkind, fun _ => rfl⟩
    · cases h
      refine ⟨rfl, hkind, fun hconsumer => ?_⟩
      simp [hconsumer] at hindexed
  · cases h

/-- In a descriptor without elements of that name in another namespace, the designated service leads
if and only if it is supported and no other one with the same isDefault has a smaller index. -/
theorem leadsServices_iff
    (hns : ∀ c ∈ descriptor.children,
      c.elementName = some "AssertionConsumerService" → isConsumerElement c = true)
    (ht : designated descriptor = some t) (hd : childEndpoint .sp t = some d) :
    LeadsServices descriptor d ↔
      isSupportedConsumer d = true ∧
        ∀ e ∈ descriptorEndpoints descriptor .sp, isSupportedConsumer e = true →
          e.isDefault = d.isDefault → d.index ≤ e.index := by
  have hload {c : XmlNode} {e : EndpointType} (he : childEndpoint .sp c = some e) :
      loadEndpointType2 .sp c = some e := by
    unfold childEndpoint at he
    split at he
    · cases he
    · exact he
  have hservice {c : XmlNode} {e : EndpointType} (hc : c ∈ descriptor.children)
      (he : childEndpoint .sp c = some e) (hsupported : isSupportedConsumer e = true) :
      isConsumerElement c = true ∧ e.isDefault = defaultRank c := by
    obtain ⟨-, hname, hrank⟩ := loadEndpointType2_eq_some (hload he)
    have hkind : e.kind = "AssertionConsumerService" := by
      simp only [isSupportedConsumer, isAssertionConsumerService, Bool.and_eq_true,
        beq_iff_eq] at hsupported
      exact hsupported.1.2
    have hconsumer := hns c hc (hkind ▸ hname)
    exact ⟨hconsumer, hrank hconsumer⟩
  obtain ⟨hconsumer, before, after, hchildren, hbefore, hafter⟩ := designated_eq_some ht
  have hrank : d.isDefault = defaultRank t := (loadEndpointType2_eq_some (hload hd)).2.2 hconsumer
  have hendpoints : descriptorEndpoints descriptor .sp =
      before.filterMap (childEndpoint .sp) ++ d :: after.filterMap (childEndpoint .sp) := by
    simp [descriptorEndpoints, hchildren, hd]
  constructor
  · intro h
    exact ⟨(of_find?_and h.first).2, h.index_le⟩
  · rintro ⟨hsupported, hindex⟩
    refine ⟨fun e he hother => ?_, hindex, ?_⟩
    · rw [descriptorEndpoints] at he
      obtain ⟨c, hc, he⟩ := List.mem_filterMap.mp he
      obtain ⟨hc', hdefault⟩ := hservice hc he hother
      rw [hrank, hdefault]
      rw [hchildren, List.mem_append, List.mem_cons] at hc
      rcases hc with hc | rfl | hc
      · exact (hbefore c hc hc').le
      · exact le_rfl
      · exact hafter c hc hc'
    · have hnone : (before.filterMap (childEndpoint .sp)).find? (fun e => isSupportedConsumer e &&
          decide (e.isDefault = d.isDefault ∧ e.index = d.index)) = none := by
        rw [List.find?_eq_none]
        intro e he
        obtain ⟨c, hc, he⟩ := List.mem_filterMap.mp he
        have hmem : c ∈ descriptor.children := by simp [hchildren, hc]
        rw [Bool.and_eq_true, decide_eq_true_eq]
        rintro ⟨hother, hdefault, -⟩
        obtain ⟨hc', hother⟩ := hservice hmem he hother
        have := hbefore c hc hc'
        omega
      rw [hendpoints, List.find?_append, hnone, Option.none_or,
        List.find?_cons_of_pos (by simp [hsupported])]

end

/-! ## Two services -/

def consumerElement (index location : String) : XmlNode :=
  .element (some saml2MetadataHref) "AssertionConsumerService" [
    { name := "Binding", value := saml2MetadataBindingPost },
    { name := "Location", value := location },
    { name := "index", value := index }] []

/-- A service provider with two services without isDefault, of the given indexes. -/
def twoServices (index index' : String) : XmlNode :=
  .element (some saml2MetadataHref) "SPSSODescriptor" [
    { name := "protocolSupportEnumeration", value := saml2ProtocolHref }] [
    consumerElement index "https://sp.example/first",
    consumerElement index' "https://sp.example/second"]

/-- The default endpoint after the descriptor was loaded. -/
def defaultEndpoint (descriptor : XmlNode) : Option EndpointType :=
  getAssertionConsumerService
    { ({ providerId := some "https://sp.example" } : Provider) with
      endpoints := (loadDescriptor descriptor .sp {}).2.endpoints } (-1)

/-- The first service is designated, the second one is the default. -/
theorem smallerIndex_preferred :
    ((designated (twoServices "1" "0")).bind (childEndpoint .sp)).map (·.url) =
        some "https://sp.example/first" ∧
      (defaultEndpoint (twoServices "1" "0")).map (·.url) = some "https://sp.example/second" := by
  decide

theorem defaultConsumer_twoServices :
    supportsProtocol (twoServices "0" "1") = true ∧
      (RuleFollowed (twoServices "0" "1") ∧ defaultEndpoint (twoServices "0" "1") =
        (designated (twoServices "0" "1")).bind (childEndpoint .sp)) := by
  have hprotocol : supportsProtocol (twoServices "0" "1") = true := by decide
  have hiff := defaultConsumer_iff { providerId := some "https://sp.example" } {}
    (twoServices "0" "1") (by simp) hprotocol
  have hsame : defaultEndpoint (twoServices "0" "1") =
      (designated (twoServices "0" "1")).bind (childEndpoint .sp) := by decide
  exact ⟨hprotocol, hiff.mp hsame, hsame⟩

end Lasso.Saml20
