import Mathlib.Data.List.ReduceOption
import Lasso.IdFf.RequestClasses
import Lasso.Xml.QueryRoundTrip

/-!
# ID-FF 1.2 logout requests in queries

A LogoutRequest is built into a query and read from it. The query has the first session index only,
and a Format that is not in it becomes the name of a constant.

## Main definitions

* `LibLogoutRequestObject` — the request.
* `LibLogoutRequestObject.initFromQuery` — `init_from_query` of the class.

## Main results

* `LibLogoutRequestObject.newFromQuery_eq` — the request that comes back.
-/

namespace Lasso.IdFf

open NamedFields

/-- `LassoSamlNameIdentifier` -/
structure NameIdentifierObject where
  nameQualifier : Option Bytes := none
  format : Option Bytes := none
  content : Option Bytes := none

def NameIdentifierObject.toNode (nameIdentifier : NameIdentifierObject) : NodeObject :=
  .mk samlNameIdentifierClass [
    ("NameQualifier", textMember nameIdentifier.nameQualifier),
    ("Format", textMember nameIdentifier.format),
    ("content", textMember nameIdentifier.content)]

/-- `LassoLibLogoutRequest`, with the list of its private data. The defaults are those of a new
object. -/
structure LibLogoutRequestObject where
  respondWith : List Bytes := []
  requestId : Option Bytes := none
  majorVersion : Int := 0
  minorVersion : Int := 0
  issueInstant : Option Bytes := none
  extension : List XmlNode := []
  providerId : Option Bytes := none
  nameIdentifier : Option NameIdentifierObject := none
  sessionIndex : Option Bytes := none
  otherSessionIndexes : List Bytes := []
  relayState : Option Bytes := none
  consent : Option Bytes := none
  notOnOrAfter : Option Bytes := none

/-- `query_snippets` of `LassoLibLogoutRequest` -/
def logoutRequestQuerySnippets : List QuerySnippet := [
  { path := "RequestID" },
  { path := "MajorVersion" },
  { path := "MinorVersion" },
  { path := "IssueInstant" },
  { path := "ProviderID" },
  { path := "NameIdentifier/NameQualifier", fieldName := some "NameQualifier" },
  { path := "NameIdentifier/Format", fieldName := some "NameFormat" },
  { path := "NameIdentifier/content", fieldName := some "NameIdentifier" },
  { path := "SessionIndex" },
  { path := "RelayState" },
  { path := "consent" }]

namespace LibLogoutRequestObject

/-- The members of the request. -/
def toNode (request : LibLogoutRequestObject) : NodeObject :=
  .mk libLogoutRequestClass [
    ("RespondWith", textsMember request.respondWith),
    ("RequestID", textMember request.requestId),
    ("MajorVersion", .integer request.majorVersion),
    ("MinorVersion", .integer request.minorVersion),
    ("IssueInstant", textMember request.issueInstant),
    ("Extension", .xmlNodes request.extension),
    ("ProviderID", textMember request.providerId),
    ("NameIdentifier", .node (request.nameIdentifier.map (·.toNode))),
    ("SessionIndex", textMember request.sessionIndex),
    (privateSessionIndexes, textsMember request.otherSessionIndexes),
    ("RelayState", textMember request.relayState),
    ("consent", textMember request.consent),
    ("NotOnOrAfter", textMember request.notOnOrAfter)]

/-! ## Session indexes -/

/-- `lasso_lib_logout_request_set_session_indexes` -/
def setSessionIndexes (sessionIndexes : List Bytes) (request : LibLogoutRequestObject) :
    LibLogoutRequestObject :=
  { request with
    sessionIndex := sessionIndexes.head?
    otherSessionIndexes := sessionIndexes.tail }

/-- `lasso_lib_logout_request_get_session_indexes` -/
def getSessionIndexes (request : LibLogoutRequestObject) : List Bytes :=
  request.sessionIndex.toList ++ request.otherSessionIndexes

theorem getSessionIndexes_setSessionIndexes (sessionIndexes : List Bytes)
    (request : LibLogoutRequestObject) :
    (request.setSessionIndexes sessionIndexes).getSessionIndexes = sessionIndexes := by
  cases sessionIndexes <;> rfl

/-! ## The fields of the query -/

/-- A string of the NameIdentifier, which is only set where there is one. -/
def nameIdentifierField (name : String) (get : NameIdentifierObject → Option Bytes)
    (put : Option Bytes → NameIdentifierObject → NameIdentifierObject) :
    Field LibLogoutRequestObject Bytes Bytes :=
  textField name (·.nameIdentifier.bind get) fun value request =>
    { request with nameIdentifier := request.nameIdentifier.map (put value) }

/-- The fields of a query, in the order of the table. -/
def queryFields : List (Field LibLogoutRequestObject Bytes Bytes) := [
  textField "RequestID" (·.requestId) fun value request => { request with requestId := value },
  integerField "MajorVersion" (·.majorVersion) fun value request =>
    { request with majorVersion := value },
  integerField "MinorVersion" (·.minorVersion) fun value request =>
    { request with minorVersion := value },
  textField "IssueInstant" (·.issueInstant) fun value request =>
    { request with issueInstant := value },
  textField "ProviderID" (·.providerId) fun value request => { request with providerId := value },
  nameIdentifierField "NameQualifier" (·.nameQualifier) fun value nameIdentifier =>
    { nameIdentifier with nameQualifier := value },
  nameIdentifierField "NameFormat" (·.format) fun value nameIdentifier =>
    { nameIdentifier with format := value },
  nameIdentifierField "NameIdentifier" (·.content) fun value nameIdentifier =>
    { nameIdentifier with content := value },
  -- the snippet for the list in the private data has the same name, and comes later
  textField "SessionIndex" (·.sessionIndex) fun value request =>
    { request with sessionIndex := value },
  textField "RelayState" (·.relayState) fun value request => { request with relayState := value },
  textField "consent" (·.consent) fun value request => { request with consent := value }]

variable {methods : QueryMethods}

theorem nameIdentifier_cases {P : LibLogoutRequestObject → Prop}
    (hnone : ∀ request : LibLogoutRequestObject, P { request with nameIdentifier := none })
    (hsome : ∀ (request : LibLogoutRequestObject) (nameIdentifier : NameIdentifierObject),
      P { request with nameIdentifier := some nameIdentifier })
    (request : LibLogoutRequestObject) : P request := by
  cases hname : request.nameIdentifier with
  | none =>
    have h := hnone request
    rwa [← hname] at h
  | some nameIdentifier =>
    have h := hsome request nameIdentifier
    rwa [← hname] at h

/-- Every row of the table is for its field. -/
theorem describes :
    List.Forall₂ (Describes methods toNode) logoutRequestQuerySnippets queryFields := by
  simp only [logoutRequestQuerySnippets, queryFields, List.forall₂_cons,
    List.forall₂_nil_left_iff]
  refine ⟨?_, ?_, ?_, ?_, ?_, ?_, ?_, ?_, ?_, ?_, ?_, trivial⟩
  · exact describes_of_leads rfl (by decide) fun _ => .string rfl nofun rfl fun _ => rfl
  · exact describes_of_leads rfl (by decide) fun _ => .integer rfl nofun rfl fun _ => rfl
  · exact describes_of_leads rfl (by decide) fun _ => .integer rfl nofun rfl fun _ => rfl
  · exact describes_of_leads rfl (by decide) fun _ => .string rfl nofun rfl fun _ => rfl
  · exact describes_of_leads rfl (by decide) fun _ => .string rfl nofun rfl fun _ => rfl
  -- a NameIdentifier that is not there is not made by a path through it
  · exact describes_of_leads rfl (by decide) <| nameIdentifier_cases
      (fun _ => .missing rfl rfl fun _ => rfl) fun _ _ => .string rfl nofun rfl fun _ => rfl
  · exact describes_of_leads rfl (by decide) <| nameIdentifier_cases
      (fun _ => .missing rfl rfl fun _ => rfl) fun _ _ => .string rfl nofun rfl fun _ => rfl
  · exact describes_of_leads rfl (by decide) <| nameIdentifier_cases
      (fun _ => .missing rfl rfl fun _ => rfl) fun _ _ => .string rfl nofun rfl fun _ => rfl
  · exact describes_of_leads rfl (by decide) fun _ => .string rfl nofun rfl fun _ => rfl
  · exact describes_of_leads rfl (by decide) fun _ => .string rfl nofun rfl fun _ => rfl
  · exact describes_of_leads rfl (by decide) fun _ => .string rfl nofun rfl fun _ => rfl

/-- The table of the class, for the request. -/
def queryCodec (methods : QueryMethods) : QueryCodec LibLogoutRequestObject methods where
  object := toNode
  table := logoutRequestQuerySnippets
  fields := queryFields
  describes := describes
  names := by decide
  plain := by decide

/-! ## The values of a request -/

/-- The `char *` members that the query has. -/
def members (request : LibLogoutRequestObject) : List (Option Bytes) :=
  [request.requestId, request.issueInstant, request.providerId,
    request.nameIdentifier.bind (·.nameQualifier), request.nameIdentifier.bind (·.format),
    request.nameIdentifier.bind (·.content), request.sessionIndex, request.relayState,
    request.consent]

/-- The strings that the query has. -/
def texts (request : LibLogoutRequestObject) : List Bytes := request.members.reduceOption

/-- The values are such as C has them, and the extensions are elements of their name. -/
structure WellFormed (request : LibLogoutRequestObject) : Prop where
  texts : ∀ text ∈ request.texts, IsCString text
  majorVersion : -2 ^ 31 ≤ request.majorVersion ∧ request.majorVersion < 2 ^ 31
  minorVersion : -2 ^ 31 ≤ request.minorVersion ∧ request.minorVersion < 2 ^ 31
  extension : ∀ node ∈ request.extension, node.isElementNode "Extension" libHref = true

variable {source target request : LibLogoutRequestObject}

theorem carry_nameIdentifier {name : String} {get : NameIdentifierObject → Option Bytes}
    {put : Option Bytes → NameIdentifierObject → NameIdentifierObject}
    (hmissing : target.nameIdentifier.map (put none) = target.nameIdentifier) :
    (nameIdentifierField name get put).carry source target = { target with
      nameIdentifier := target.nameIdentifier.map (put (source.nameIdentifier.bind get)) } :=
  carry_text (by rw [hmissing])

/-- The part of a request that its query has. -/
def queryPart (request : LibLogoutRequestObject) : LibLogoutRequestObject :=
  { request with
    respondWith := []
    extension := []
    otherSessionIndexes := []
    notOnOrAfter := none }

/-- What a request becomes that has read the fields of another one. -/
theorem foldl_queryFields (h : source.WellFormed) :
    queryFields.foldl (fun target field => field.carry source target)
        { nameIdentifier := some {} } =
      { source.queryPart with nameIdentifier := some (source.nameIdentifier.getD {}) } := by
  have hmajor : ∀ target, (integerField "MajorVersion" (·.majorVersion)
      fun value (request : LibLogoutRequestObject) => { request with majorVersion := value }).carry
        source target = { target with majorVersion := source.majorVersion } :=
    fun _ => carry_integer h.majorVersion
  have hminor : ∀ target, (integerField "MinorVersion" (·.minorVersion)
      fun value (request : LibLogoutRequestObject) => { request with minorVersion := value }).carry
        source target = { target with minorVersion := source.minorVersion } :=
    fun _ => carry_integer h.minorVersion
  -- each field is as in a new request before it is taken over
  simp (disch := simp) only [queryFields, List.foldl_cons, List.foldl_nil, carry_text,
    carry_nameIdentifier, hmajor, hminor]
  unfold queryPart
  cases source.nameIdentifier <;> rfl

/-- What is written is written in bytes. -/
theorem bytes_of_values (h : source.WellFormed) :
    ∀ part ∈ values queryFields source, ∀ c ∈ part.2, c.toNat < 256 := by
  have htexts : ∀ value ∈ source.members, ∀ text ∈ value, ∀ c ∈ text, c.toNat < 256 :=
    fun value hvalue text htext c hc =>
      (h.texts text (List.reduceOption_mem_iff.mpr (htext ▸ hvalue)) c hc).2
  simp only [members, List.forall_mem_cons] at htexts
  obtain ⟨hrequestId, hissueInstant, hproviderId, hnameQualifier, hformat, hcontent,
    hsessionIndex, hrelayState, hconsent, -⟩ := htexts
  refine forall_mem_values (P := fun text : Bytes => ∀ c ∈ text, c.toNat < 256) ?_
  simp only [queryFields, List.forall_mem_cons]
  exact ⟨hrequestId, toNat_lt_of_integer _, toNat_lt_of_integer _, hissueInstant, hproviderId,
    hnameQualifier, hformat, hcontent, hsessionIndex, hrelayState, hconsent, nofun⟩

/-! ## Reading a request -/

/-- The string that `init_from_query` makes the Format when there is none. In the source the name of
the constant is between quotes. -/
def defaultFormat : Bytes := "LASSO_SAML2_NAME_IDENTIFIER_FORMAT_UNSPECIFIED".toList

/-- `init_from_query` of the class. The method of the parent fills in the fields and returns `TRUE`,
as the class has a table. -/
def initFromQuery (methods : QueryMethods) (node : NodeObject) (queryFields : List Bytes) :
    Except QueryFault (Bool × NodeObject) := do
  let node := node.setMember "NameIdentifier" (.node (some (NameIdentifierObject.toNode {})))
  let node ← initFromQueryFields methods logoutRequestQuerySnippets node queryFields
  match node.members.lookup "NameIdentifier" with
  | some (.node (some nameIdentifier)) =>
    if node.isNull "ProviderID" || nameIdentifier.isNull "content" then
      return (false, node.setMember "NameIdentifier" (.node none))
    else if nameIdentifier.isNull "Format" then
      return (true, node.setMember "NameIdentifier"
        (.node (some (nameIdentifier.setMember "Format" (textMember (some defaultFormat))))))
    else return (true, node)
  | some (.node none) => return (false, node)
  | _ => throw .otherType

/-- `lasso_node_build_query` -/
def buildQuery (methods : QueryMethods) (request : LibLogoutRequestObject) :
    Except QueryFault Bytes :=
  buildQueryFromSnippets methods logoutRequestQuerySnippets request.toNode

/-- `lasso_node_init_from_query` on a new request -/
def newFromQuery (env : Env) (methods : QueryMethods) (query : Bytes) :
    Except QueryFault (Bool × NodeObject) :=
  initFromQuery methods (toNode {}) (urlencodedToStrings env query)

/-- The NameIdentifier with a Format. -/
def withFormat (nameIdentifier : NameIdentifierObject) : NameIdentifierObject :=
  { nameIdentifier with format := some (nameIdentifier.format.getD defaultFormat) }

theorem isNull_providerId : request.toNode.isNull "ProviderID" = request.providerId.isNone := by
  have hlookup : request.toNode.members.lookup "ProviderID" =
      some (textMember request.providerId) := rfl
  rw [NodeObject.isNull, hlookup]
  cases request.providerId <;> rfl

theorem isNull_nameIdentifier (nameIdentifier : NameIdentifierObject) :
    nameIdentifier.toNode.isNull "content" = nameIdentifier.content.isNone ∧
      nameIdentifier.toNode.isNull "Format" = nameIdentifier.format.isNone := by
  obtain ⟨nameQualifier, format, content⟩ := nameIdentifier
  constructor
  · cases content <;> rfl
  · cases format <;> rfl

/-- A request with a ProviderID and the content of a NameIdentifier is complete, and gets a
Format. -/
theorem initFromQuery_eq {queryFields : List Bytes} {nameIdentifier : NameIdentifierObject}
    (hfields : initFromQueryFields methods logoutRequestQuerySnippets
      (toNode { nameIdentifier := some {} }) queryFields =
        .ok (toNode { request with nameIdentifier := some nameIdentifier }))
    (hprovider : request.providerId.isSome) (hcontent : nameIdentifier.content.isSome) :
    initFromQuery methods (toNode {}) queryFields =
      .ok (true, toNode { request with nameIdentifier := some (withFormat nameIdentifier) }) := by
  have hstart : (toNode {}).setMember "NameIdentifier"
      (.node (some (NameIdentifierObject.toNode {}))) = toNode { nameIdentifier := some {} } := rfl
  have hlookup : (toNode { request with nameIdentifier := some nameIdentifier }).members.lookup
      "NameIdentifier" = some (.node (some nameIdentifier.toNode)) := rfl
  have hset : (toNode { request with nameIdentifier := some nameIdentifier }).setMember
      "NameIdentifier" (.node (some (nameIdentifier.toNode.setMember "Format"
        (textMember (some defaultFormat))))) = toNode { request with
          nameIdentifier := some { nameIdentifier with format := some defaultFormat } } := rfl
  have hnotnull : request.providerId.isNone = false ∧ nameIdentifier.content.isNone = false := by
    simp [Option.isNone_eq_false_iff, hprovider, hcontent]
  rw [initFromQuery, hstart, hfields]
  simp only [bind, Except.bind, hlookup, isNull_providerId, isNull_nameIdentifier, hnotnull,
    Bool.or_self, Bool.false_eq_true, if_false, hset]
  unfold withFormat
  cases hformat : nameIdentifier.format with
  | none => rfl
  | some format =>
    have hsame : { nameIdentifier with format := some format } = nameIdentifier := by
      rw [← hformat]
    rw [Option.getD_some, hsame]
    rfl

/-- What comes back from the query of a complete request. -/
theorem newFromQuery_eq {env : Env} (henv : env.Unescapes) (h : request.WellFormed)
    {nameIdentifier : NameIdentifierObject} (hprovider : request.providerId.isSome)
    (hname : request.nameIdentifier = some nameIdentifier)
    (hcontent : nameIdentifier.content.isSome) :
    ∃ query, buildQuery methods request = .ok query ∧
      newFromQuery env methods query = .ok (true,
        toNode { request.queryPart with nameIdentifier := some (withFormat nameIdentifier) }) := by
  refine ⟨_, (queryCodec methods).buildQuery_eq request, ?_⟩
  have hread := (queryCodec methods).initFromQueryFields_eq henv (bytes_of_values h)
    { nameIdentifier := some {} }
  rw [show (queryCodec methods).fields = queryFields from rfl, foldl_queryFields h, hname,
    Option.getD_some] at hread
  exact initFromQuery_eq hread hprovider hcontent

end LibLogoutRequestObject

end Lasso.IdFf
