import Mathlib.Data.List.ReduceOption
import Lasso.IdFf.RequestClasses
import Lasso.Xml.QueryRoundTrip

/-!
# ID-FF 1.2 authentication requests in queries

An AuthnRequest without Scoping and Extension is built into a query and read from it. What comes
back has every field that the table of the class knows; RespondWith is in the element of a request
only, and a RequestAuthnContext without a value is none.

## Main definitions

* `AuthnRequestObject` — the request.
* `AuthnRequestObject.initFromQuery` — `init_from_query` of the class.

## Main results

* `AuthnRequestObject.newFromQuery_buildQuery` — the request that comes back.
-/

namespace Lasso.IdFf

open NamedFields

/-- `LassoLibRequestAuthnContext` -/
structure RequestAuthnContext where
  classRef : List Bytes := []
  statementRef : List Bytes := []
  comparison : Option Bytes := none
deriving DecidableEq

/-- `LassoLibAuthnRequest` without Scoping and Extension. The defaults are those of a new object:
`instance_init` sets `IsPassive`. -/
structure AuthnRequestObject where
  respondWith : List Bytes := []
  requestId : Option Bytes := none
  majorVersion : Int := 0
  minorVersion : Int := 0
  issueInstant : Option Bytes := none
  providerId : Option Bytes := none
  affiliationId : Option Bytes := none
  nameIdPolicy : Option Bytes := none
  forceAuthn : Bool := false
  isPassive : Bool := true
  protocolProfile : Option Bytes := none
  assertionConsumerServiceId : Option Bytes := none
  requestAuthnContext : Option RequestAuthnContext := none
  relayState : Option Bytes := none
  consent : Option Bytes := none
deriving DecidableEq

def RequestAuthnContext.toNode (context : RequestAuthnContext) : NodeObject :=
  .mk requestAuthnContextClass [
    ("AuthnContextClassRef", textsMember context.classRef),
    ("AuthnContextStatementRef", textsMember context.statementRef),
    ("AuthnContextComparison", textMember context.comparison)]

/-- `query_snippets` of `LassoLibAuthnRequest` -/
def authnRequestQuerySnippets : List QuerySnippet := [
  { path := "RequestID" },
  { path := "MajorVersion" },
  { path := "MinorVersion" },
  { path := "IssueInstant" },
  { path := "ProviderID" },
  { path := "AffiliationID" },
  { path := "ForceAuthn" },
  { path := "IsPassive" },
  { path := "NameIDPolicy" },
  { path := "ProtocolProfile" },
  { path := "AssertionConsumerServiceID" },
  { path := "RequestAuthnContext/AuthnContextStatementRef"
    fieldName := some "AuthnContextStatementRef" },
  { path := "RequestAuthnContext/AuthnContextClassRef"
    fieldName := some "AuthnContextClassRef" },
  { path := "RequestAuthnContext/AuthnContextComparison"
    fieldName := some "AuthnContextComparison" },
  { path := "RelayState" },
  { path := "Scoping/ProxyCount", fieldName := some "ProxyCount" },
  { path := "Scoping/IDPList/IDPEntries", fieldName := some "IDPEntries" },
  { path := "Scoping/IDPList/GetComplete", fieldName := some "GetComplete" },
  { path := "consent" },
  { path := "Extension" }]

namespace AuthnRequestObject

/-- The members of the request. -/
def toNode (request : AuthnRequestObject) : NodeObject :=
  .mk libAuthnRequestClass [
    ("RespondWith", textsMember request.respondWith),
    ("RequestID", textMember request.requestId),
    ("MajorVersion", .integer request.majorVersion),
    ("MinorVersion", .integer request.minorVersion),
    ("IssueInstant", textMember request.issueInstant),
    ("Extension", .xmlNodes []),
    ("ProviderID", textMember request.providerId),
    ("AffiliationID", textMember request.affiliationId),
    ("NameIDPolicy", textMember request.nameIdPolicy),
    ("ForceAuthn", .boolean request.forceAuthn),
    ("IsPassive", .boolean request.isPassive),
    ("ProtocolProfile", textMember request.protocolProfile),
    ("AssertionConsumerServiceID", textMember request.assertionConsumerServiceId),
    ("RequestAuthnContext", .node (request.requestAuthnContext.map (·.toNode))),
    ("RelayState", textMember request.relayState),
    ("Scoping", .node none),
    ("consent", textMember request.consent)]

/-! ## The fields of the query -/

/-- A list in the RequestAuthnContext, which is only set where there is one. -/
def referencesField (name : String) (get : RequestAuthnContext → List Bytes)
    (put : List Bytes → RequestAuthnContext → RequestAuthnContext) :
    Field AuthnRequestObject Bytes Bytes :=
  .coded name.toList joinedValues strsplit
    (fun request => (request.requestAuthnContext.map get).getD [])
    fun values request => { request with
      requestAuthnContext := request.requestAuthnContext.map (put values) }

/-- The fields of a query, in the order of the table. -/
def queryFields : List (Field AuthnRequestObject Bytes Bytes) := [
  textField "RequestID" (·.requestId) fun value request => { request with requestId := value },
  integerField "MajorVersion" (·.majorVersion) fun value request =>
    { request with majorVersion := value },
  integerField "MinorVersion" (·.minorVersion) fun value request =>
    { request with minorVersion := value },
  textField "IssueInstant" (·.issueInstant) fun value request =>
    { request with issueInstant := value },
  textField "ProviderID" (·.providerId) fun value request => { request with providerId := value },
  textField "AffiliationID" (·.affiliationId) fun value request =>
    { request with affiliationId := value },
  booleanField "ForceAuthn" (·.forceAuthn) fun value request =>
    { request with forceAuthn := value },
  booleanField "IsPassive" (·.isPassive) fun value request => { request with isPassive := value },
  textField "NameIDPolicy" (·.nameIdPolicy) fun value request =>
    { request with nameIdPolicy := value },
  textField "ProtocolProfile" (·.protocolProfile) fun value request =>
    { request with protocolProfile := value },
  textField "AssertionConsumerServiceID" (·.assertionConsumerServiceId) fun value request =>
    { request with assertionConsumerServiceId := value },
  referencesField "AuthnContextStatementRef" (·.statementRef) fun values context =>
    { context with statementRef := values },
  referencesField "AuthnContextClassRef" (·.classRef) fun values context =>
    { context with classRef := values },
  textField "AuthnContextComparison" (·.requestAuthnContext.bind (·.comparison))
    fun value request => { request with
      requestAuthnContext := request.requestAuthnContext.map ({ · with comparison := value }) },
  textField "RelayState" (·.relayState) fun value request => { request with relayState := value },
  absentField "ProxyCount", absentField "IDPEntries", absentField "GetComplete",
  textField "consent" (·.consent) fun value request => { request with consent := value },
  absentField "Extension"]

variable {methods : QueryMethods}

theorem context_cases {P : AuthnRequestObject → Prop}
    (hnone : ∀ request : AuthnRequestObject, P { request with requestAuthnContext := none })
    (hsome : ∀ (request : AuthnRequestObject) (context : RequestAuthnContext),
      P { request with requestAuthnContext := some context })
    (request : AuthnRequestObject) : P request := by
  cases hcontext : request.requestAuthnContext with
  | none =>
    have h := hnone request
    rwa [← hcontext] at h
  | some context =>
    have h := hsome request context
    rwa [← hcontext] at h

/-- Every row of the table is for its field. -/
theorem describes :
    List.Forall₂ (Describes methods toNode) authnRequestQuerySnippets queryFields := by
  simp only [authnRequestQuerySnippets, queryFields, List.forall₂_cons, List.forall₂_nil_left_iff]
  refine ⟨?_, ?_, ?_, ?_, ?_, ?_, ?_, ?_, ?_, ?_, ?_, ?_, ?_, ?_, ?_, ?_, ?_, ?_, ?_, ?_, trivial⟩
  · exact describes_of_leads rfl (by decide) fun _ => .string rfl nofun rfl fun _ => rfl
  · exact describes_of_leads rfl (by decide) fun _ => .integer rfl nofun rfl fun _ => rfl
  · exact describes_of_leads rfl (by decide) fun _ => .integer rfl nofun rfl fun _ => rfl
  · exact describes_of_leads rfl (by decide) fun _ => .string rfl nofun rfl fun _ => rfl
  · exact describes_of_leads rfl (by decide) fun _ => .string rfl nofun rfl fun _ => rfl
  · exact describes_of_leads rfl (by decide) fun _ => .string rfl nofun rfl fun _ => rfl
  · exact describes_of_leads rfl (by decide) fun _ => .boolean rfl nofun rfl fun _ => rfl
  · exact describes_of_leads rfl (by decide) fun _ => .boolean rfl nofun rfl fun _ => rfl
  · exact describes_of_leads rfl (by decide) fun _ => .string rfl nofun rfl fun _ => rfl
  · exact describes_of_leads rfl (by decide) fun _ => .string rfl nofun rfl fun _ => rfl
  · exact describes_of_leads rfl (by decide) fun _ => .string rfl nofun rfl fun _ => rfl
  -- a RequestAuthnContext that is not there is not made by a path through it
  · exact describes_of_leads rfl (by decide) <| context_cases
      (fun _ => .missing rfl rfl fun _ => rfl) fun _ _ => .strings rfl rfl rfl fun _ => rfl
  · exact describes_of_leads rfl (by decide) <| context_cases
      (fun _ => .missing rfl rfl fun _ => rfl) fun _ _ => .strings rfl rfl rfl fun _ => rfl
  · exact describes_of_leads rfl (by decide) <| context_cases
      (fun _ => .missing rfl rfl fun _ => rfl) fun _ _ => .string rfl nofun rfl fun _ => rfl
  · exact describes_of_leads rfl (by decide) fun _ => .string rfl nofun rfl fun _ => rfl
  · exact describes_of_leads rfl (by decide) fun _ => .missing rfl rfl fun _ => rfl
  · exact describes_of_leads rfl (by decide) fun _ => .missing rfl rfl fun _ => rfl
  · exact describes_of_leads rfl (by decide) fun _ => .missing rfl rfl fun _ => rfl
  · exact describes_of_leads rfl (by decide) fun _ => .string rfl nofun rfl fun _ => rfl
  · exact ⟨rfl, fun _ _ => ⟨rfl, _, rfl, rfl, rfl⟩, fun h => absurd rfl h⟩

/-- The table of the class, for the request. -/
def queryCodec (methods : QueryMethods) : QueryCodec AuthnRequestObject methods where
  object := toNode
  table := authnRequestQuerySnippets
  fields := queryFields
  describes := describes
  names := by decide
  plain := by decide

/-! ## The values of a request -/

/-- The `char *` members of the request and its RequestAuthnContext. -/
def members (request : AuthnRequestObject) : List (Option Bytes) :=
  [request.requestId, request.issueInstant, request.providerId, request.affiliationId,
    request.nameIdPolicy, request.protocolProfile, request.assertionConsumerServiceId,
    request.requestAuthnContext.bind (·.comparison), request.relayState, request.consent]

/-- The strings of the request. -/
def texts (request : AuthnRequestObject) : List Bytes := request.members.reduceOption

/-- The references of the RequestAuthnContext. -/
def classRef (request : AuthnRequestObject) : List Bytes :=
  (request.requestAuthnContext.map (·.classRef)).getD []

def statementRef (request : AuthnRequestObject) : List Bytes :=
  (request.requestAuthnContext.map (·.statementRef)).getD []

/-- The values are such as C has them, and no reference is empty or contains a space. -/
structure WellFormed (request : AuthnRequestObject) : Prop where
  texts : ∀ text ∈ request.texts, IsCString text
  majorVersion : -2 ^ 31 ≤ request.majorVersion ∧ request.majorVersion < 2 ^ 31
  minorVersion : -2 ^ 31 ≤ request.minorVersion ∧ request.minorVersion < 2 ^ 31
  references : ∀ reference ∈ request.classRef ++ request.statementRef,
    IsCString reference ∧ reference ≠ [] ∧ ' ' ∉ reference

variable {source target : AuthnRequestObject}

theorem carry_references {name : String} {get : RequestAuthnContext → List Bytes}
    {put : List Bytes → RequestAuthnContext → RequestAuthnContext}
    (href : ∀ reference ∈ (source.requestAuthnContext.map get).getD [],
      reference ≠ [] ∧ ' ' ∉ reference)
    (hmissing : target.requestAuthnContext.map (put []) = target.requestAuthnContext) :
    (referencesField name get put).carry source target = { target with
      requestAuthnContext := target.requestAuthnContext.map
        (put ((source.requestAuthnContext.map get).getD [])) } := by
  refine Field.carry_coded (fun value h => ?_) fun h => ?_
  · exact strsplit_joinedValues (fun reference hmem => (href reference hmem).2) h
  · have hnil := (joinedValues_eq_none fun reference hmem => (href reference hmem).1).mp h
    rw [hnil, hmissing]

/-- What a request becomes that has read the fields of another one. -/
theorem foldl_queryFields (h : source.WellFormed) :
    queryFields.foldl (fun target field => field.carry source target)
        { requestAuthnContext := some {} } =
      { source with
        respondWith := []
        requestAuthnContext := some (source.requestAuthnContext.getD {}) } := by
  have hreferences : ∀ reference ∈ source.classRef ++ source.statementRef,
      reference ≠ [] ∧ ' ' ∉ reference := fun reference hmem => (h.references reference hmem).2
  obtain ⟨hclass, hstatement⟩ := List.forall_mem_append.mp hreferences
  have hmajor : ∀ target, (integerField "MajorVersion" (·.majorVersion) fun value request =>
      { request with majorVersion := value }).carry source target =
        { target with majorVersion := source.majorVersion } :=
    fun _ => carry_integer h.majorVersion
  have hminor : ∀ target, (integerField "MinorVersion" (·.minorVersion) fun value request =>
      { request with minorVersion := value }).carry source target =
        { target with minorVersion := source.minorVersion } :=
    fun _ => carry_integer h.minorVersion
  have hclasses := fun target => @carry_references source target "AuthnContextClassRef"
    (·.classRef) (fun values context => { context with classRef := values }) hclass
  have hstatements := fun target => @carry_references source target "AuthnContextStatementRef"
    (·.statementRef) (fun values context => { context with statementRef := values }) hstatement
  -- each field is as in a new request before it is taken over
  simp (disch := simp) only [queryFields, List.foldl_cons, List.foldl_nil, carry_text,
    carry_boolean, carry_absent, hmajor, hminor, hclasses, hstatements]
  cases source.requestAuthnContext <;> rfl

/-- What is written is written in bytes. -/
theorem bytes_of_values (h : source.WellFormed) :
    ∀ part ∈ values queryFields source, ∀ c ∈ part.2, c.toNat < 256 := by
  have hreferences : ∀ {references : List Bytes} {text : Bytes},
      (∀ reference ∈ references, reference ∈ source.classRef ++ source.statementRef) →
      joinedValues references = some text → ∀ c ∈ text, c.toNat < 256 := by
    intro references text hmem hjoined c hc
    rcases mem_joinedValues hjoined hc with rfl | ⟨reference, hreference, hc⟩
    · decide
    · exact ((h.references reference (hmem reference hreference)).1 c hc).2
  have hboolean : ∀ value : Bool, ∀ text ∈ some (if value then "true" else "false").toList,
      ∀ c ∈ text, c.toNat < 256 := by
    have hwords : ∀ value : Bool, IsCString (if value then "true" else "false").toList := by decide
    rintro value _ ⟨⟩ c hc
    exact (hwords value c hc).2
  have htexts : ∀ value ∈ source.members, ∀ text ∈ value, ∀ c ∈ text, c.toNat < 256 :=
    fun value hvalue text htext c hc =>
      (h.texts text (List.reduceOption_mem_iff.mpr (htext ▸ hvalue)) c hc).2
  simp only [members, List.forall_mem_cons] at htexts
  obtain ⟨hrequestId, hissueInstant, hproviderId, haffiliationId, hnameIdPolicy,
    hprotocolProfile, hconsumer, hcomparison, hrelayState, hconsent, -⟩ := htexts
  refine forall_mem_values (P := fun text : Bytes => ∀ c ∈ text, c.toNat < 256) ?_
  simp only [queryFields, List.forall_mem_cons]
  exact ⟨hrequestId, toNat_lt_of_integer _, toNat_lt_of_integer _, hissueInstant, hproviderId,
    haffiliationId, hboolean _, hboolean _, hnameIdPolicy, hprotocolProfile, hconsumer,
    fun _ => hreferences fun _ => List.mem_append_right _,
    fun _ => hreferences fun _ => List.mem_append_left _,
    hcomparison, hrelayState, nofun, nofun, nofun, hconsent, nofun, nofun⟩

/-! ## Reading a request -/

/-- `init_from_query` of the class. The method of the parent fills in the fields and returns `TRUE`,
as the class has a table. -/
def initFromQuery (methods : QueryMethods) (node : NodeObject) (queryFields : List Bytes) :
    Except QueryFault (Bool × NodeObject) := do
  let node := node.setMember "RequestAuthnContext" (.node (some (RequestAuthnContext.toNode {})))
  let node ← initFromQueryFields methods authnRequestQuerySnippets node queryFields
  match node.members.lookup "RequestAuthnContext" with
  | some (.node (some context)) =>
    let node :=
      if context.isNull "AuthnContextClassRef" && context.isNull "AuthnContextStatementRef" &&
          context.isNull "AuthnContextComparison" then
        node.setMember "RequestAuthnContext" (.node none)
      else node
    return (!node.isNull "ProviderID", node)
  | _ => throw .nullPointer

/-- `lasso_node_build_query` -/
def buildQuery (methods : QueryMethods) (request : AuthnRequestObject) : Except QueryFault Bytes :=
  buildQueryFromSnippets methods authnRequestQuerySnippets request.toNode

/-- `lasso_node_init_from_query` on a new request -/
def newFromQuery (env : Env) (methods : QueryMethods) (query : Bytes) :
    Except QueryFault (Bool × NodeObject) :=
  initFromQuery methods (toNode {}) (urlencodedToStrings env query)

/-- The request with an absent RequestAuthnContext in place of an empty one. -/
def withoutEmptyContext (request : AuthnRequestObject) : AuthnRequestObject :=
  { request with requestAuthnContext := request.requestAuthnContext.filter (· ≠ {}) }

theorem context_isNull (context : RequestAuthnContext) :
    (context.toNode.isNull "AuthnContextClassRef" &&
        context.toNode.isNull "AuthnContextStatementRef" &&
        context.toNode.isNull "AuthnContextComparison") = decide (context = {}) := by
  obtain ⟨classRef, statementRef, comparison⟩ := context
  have hlists : (RequestAuthnContext.toNode ⟨classRef, statementRef, comparison⟩).isNull
      "AuthnContextClassRef" = classRef.isEmpty := by
    cases classRef <;> rfl
  have hstatements : (RequestAuthnContext.toNode ⟨classRef, statementRef, comparison⟩).isNull
      "AuthnContextStatementRef" = statementRef.isEmpty := by
    cases statementRef <;> rfl
  have hcomparison : (RequestAuthnContext.toNode ⟨classRef, statementRef, comparison⟩).isNull
      "AuthnContextComparison" = comparison.isNone := by
    cases comparison <;> rfl
  rw [hlists, hstatements, hcomparison, Bool.eq_iff_iff]
  simp [and_assoc]

theorem isNull_providerId (request : AuthnRequestObject) :
    (!request.toNode.isNull "ProviderID") = request.providerId.isSome := by
  have hlookup : request.toNode.members.lookup "ProviderID" =
      some (textMember request.providerId) := rfl
  rw [NodeObject.isNull, hlookup]
  cases request.providerId <;> rfl

/-- The RequestAuthnContext that is made before reading goes when it stays empty. -/
theorem initFromQuery_eq {request : AuthnRequestObject} {queryFields : List Bytes}
    {context : RequestAuthnContext}
    (hfields : initFromQueryFields methods authnRequestQuerySnippets
      (toNode { requestAuthnContext := some {} }) queryFields =
        .ok (toNode { request with requestAuthnContext := some context })) :
    initFromQuery methods (toNode {}) queryFields = .ok (request.providerId.isSome,
      toNode { request with requestAuthnContext := (some context).filter (· ≠ {}) }) := by
  have hstart : (toNode {}).setMember "RequestAuthnContext"
      (.node (some (RequestAuthnContext.toNode {}))) =
        toNode { requestAuthnContext := some {} } := rfl
  have hlookup : (toNode { request with requestAuthnContext := some context }).members.lookup
      "RequestAuthnContext" = some (.node (some context.toNode)) := rfl
  have hrelease : (toNode { request with requestAuthnContext := some context }).setMember
      "RequestAuthnContext" (.node none) = toNode { request with requestAuthnContext := none } :=
    rfl
  rw [initFromQuery, hstart, hfields]
  simp only [bind, Except.bind, hlookup, context_isNull]
  by_cases hempty : context = {}
  · subst hempty
    simp only [decide_true, if_true, hrelease, isNull_providerId]
    rfl
  · simp only [hempty, decide_false, Bool.false_eq_true, if_false, isNull_providerId]
    simp [Option.filter, hempty, pure, Except.pure]

/-- What comes back from the query of a well-formed request. -/
theorem newFromQuery_eq {env : Env} (henv : env.Unescapes) {request : AuthnRequestObject}
    (h : request.WellFormed) {query : Bytes} (hquery : buildQuery methods request = .ok query) :
    newFromQuery env methods query = .ok (request.providerId.isSome,
      toNode { request.withoutEmptyContext with respondWith := [] }) := by
  obtain rfl := Except.ok.inj (((queryCodec methods).buildQuery_eq request).symm.trans hquery)
  have hread := (queryCodec methods).initFromQueryFields_eq henv (bytes_of_values h)
    { requestAuthnContext := some {} }
  rw [show (queryCodec methods).fields = queryFields from rfl, foldl_queryFields h] at hread
  have hcontext : (some (request.requestAuthnContext.getD {})).filter (· ≠ {}) =
      request.requestAuthnContext.filter (· ≠ {}) := by
    cases request.requestAuthnContext <;> simp
  have hresult := @initFromQuery_eq methods { request with respondWith := [] } _
    (request.requestAuthnContext.getD {}) hread
  rw [hcontext] at hresult
  exact hresult

/-- A request with a ProviderID is read from its query with the same values, an empty
RequestAuthnContext counting as none, but without RespondWith. -/
theorem newFromQuery_buildQuery {env : Env} (henv : env.Unescapes) (methods : QueryMethods)
    {request : AuthnRequestObject} (h : request.WellFormed)
    (hprovider : request.providerId.isSome) :
    ∃ query, buildQuery methods request = .ok query ∧
      newFromQuery env methods query =
        .ok (true, toNode { request.withoutEmptyContext with respondWith := [] }) := by
  have hquery := (queryCodec methods).buildQuery_eq request
  exact ⟨_, hquery, hprovider ▸ newFromQuery_eq henv h hquery⟩

/-- A request for one of two classes. -/
def classesRequest : AuthnRequestObject where
  requestId := some "_1".toList
  majorVersion := 1
  minorVersion := 2
  providerId := some "https://sp/md?a=1&b".toList
  forceAuthn := true
  isPassive := false
  requestAuthnContext := some { classRef := ["urn:a".toList, "urn:b".toList] }
  relayState := some []

theorem newFromQuery_classes :
    ∃ query, buildQuery noMethods classesRequest = .ok query ∧
      newFromQuery redirectEnv noMethods query =
        .ok (true, toNode { classesRequest.withoutEmptyContext with respondWith := [] }) :=
  newFromQuery_buildQuery (unescapes_percentDecode rfl) noMethods
    ⟨by decide, by decide, by decide, by decide⟩ rfl

/-- A request that says what to respond with. -/
def respondingRequest : AuthnRequestObject where
  respondWith := ["saml:AuthenticationStatement".toList]
  providerId := some "https://sp".toList

/-- RespondWith is lost. -/
theorem respondWith_lost :
    ¬ ∃ query, buildQuery noMethods respondingRequest = .ok query ∧
      newFromQuery redirectEnv noMethods query =
        .ok (true, respondingRequest.withoutEmptyContext.toNode) := by
  rintro ⟨query, hquery, hread⟩
  have hwf : respondingRequest.WellFormed := ⟨by decide, by decide, by decide, by decide⟩
  have heq := (newFromQuery_eq (unescapes_percentDecode rfl) hwf hquery).symm.trans hread
  have hnode := (Prod.mk.inj (Except.ok.inj heq)).2
  have hmember := congrArg (·.members.lookup "RespondWith") hnode
  exact absurd (MemberValue.strings.inj (Option.some.inj hmember)) (by decide)

end AuthnRequestObject

end Lasso.IdFf
