import Lasso.Library.Run
import Lasso.Library.Search
import Lasso.Library.Tables
import Lasso.Saml20.IssuedConditions
import Lasso.Session.Dump

/-!
# Endpoint references in a session

A service consumer keeps the endpoint references that a discovery service has given it in its
session, by the type of the service, and writes them into the dump of the session. The type is not
written: it is taken from the reference again when the dump is read.

## Main definitions

* `WsAddrEndpointReference` — an endpoint reference with its metadata.
* `addEndpointReference`, `getEndpointReference`, `getAssertionIdentityToken` — the operations.
* `EprEvent`, `runEprs` — references that are added, and restarts between them.

## Main results

* `getEndpointReference_runEprs` — the last reference for a service type is found, with its token.
-/

namespace Lasso.IdWsf2

open Search Tables

/-! ## The references -/

/-- An assertion as a token, with its conditions. -/
structure SecurityAssertion where
  assertion : Saml2Assertion
  conditions : Option Saml2Conditions := none

/-- A token; of other ones than assertions, the XML that they were read from. -/
inductive TokenNode where
  | saml2Assertion (token : SecurityAssertion)
  | other (originalXmlnode : Option XmlNode)

/-- `lasso_node_get_original_xmlnode` of a token -/
def TokenNode.originalXmlnode : TokenNode → Option XmlNode
  | saml2Assertion token => token.assertion.originalXmlnode
  | other originalXmlnode => originalXmlnode

/-- `LassoIdWsf2SecToken` -/
structure IdWsf2SecToken where
  any : Option TokenNode := none
  usage : Option String := none
  ref : Option String := none

/-- `LASSO_IDWSF2_SEC_TOKEN_USAGE_SECURITY_TOKEN` -/
def secTokenUsageSecurityToken : String :=
  "urn:liberty:security:tokenusage:2006-08:SecurityToken"

/-- `LassoIdWsf2DiscoSecurityContext` -/
structure IdWsf2DiscoSecurityContext where
  securityMechId : List String := []
  token : List IdWsf2SecToken := []

/-- An object in the metadata of an endpoint reference. -/
inductive EprMetadata where
  | abstract (content : Option String)
  | providerId (content : Option String)
  | serviceType (content : Option String)
  | framework (version : Option String)
  | securityContext (context : IdWsf2DiscoSecurityContext)
  | other

/-- `LassoWsAddrEndpointReference` -/
structure WsAddrEndpointReference where
  address : Option String := none
  metadata : Option (List EprMetadata) := none

namespace EprMetadata

def asServiceType : EprMetadata → Option (Option String)
  | serviceType content => some content
  | _ => none

/-- The assertion in the first token of a security context. -/
def assertionToken : EprMetadata → Option SecurityAssertion
  | securityContext context =>
    match context.token.head?.bind (·.any) with
    | some (.saml2Assertion token) => some token
    | _ => none
  | _ => none

end EprMetadata

namespace WsAddrEndpointReference

/-- The first `disco:ServiceType` in the metadata, whose content may be missing. -/
def firstServiceType (epr : WsAddrEndpointReference) : Option (Option String) :=
  (epr.metadata.getD []).findSome? (·.asServiceType)

/-- `lasso_wsa_endpoint_reference_get_idwsf2_service_type` -/
def getServiceType (epr : WsAddrEndpointReference) : Option String := epr.firstServiceType.join

end WsAddrEndpointReference

/-! ## The operations -/

/-- `session->private_data->eprs` -/
abbrev Eprs := AList fun _ : String => WsAddrEndpointReference

/-- `lasso_session_add_endpoint_reference`, if it ends: the source reads the metadata, and the
content of the service type, without looking whether they are there. -/
def addEndpointReference (eprs : Eprs) (epr : WsAddrEndpointReference) : Option Eprs :=
  epr.metadata.bind fun _ =>
    match epr.firstServiceType with
    | none => some eprs
    | some serviceType => serviceType.map (eprs.insert · epr)

/-- `lasso_session_get_endpoint_reference` -/
def getEndpointReference (eprs : Eprs) (serviceType : Option String) :
    Option WsAddrEndpointReference :=
  serviceType.bind eprs.lookup

/-- `lasso_session_get_assertion_identity_token` -/
def getAssertionIdentityToken (eprs : Eprs) (serviceType : Option String) :
    Option SecurityAssertion :=
  (getEndpointReference eprs serviceType).bind fun epr =>
    epr.metadata.bind (·.findSome? (·.assertionToken))

/-! ## The dump -/

/-- How the references of a session are written and read. -/
structure EprCodec where
  /-- `lasso_node_get_xmlNode` -/
  getXmlNode : WsAddrEndpointReference → XmlElement
  /-- the object that `init_from_xml` fills in, whatever its code -/
  initFromXml : XmlNode → WsAddrEndpointReference
  /-- the order in which `g_hash_table_foreach` visits the keys of a table -/
  foreachOrder : List String → List String

variable (codec : EprCodec)

/-- `lasso_session_id_wsf2_dump_eprs` -/
def dumpEprs (eprs : Eprs) : Option XmlNode :=
  if eprs.keys = [] then none
  else some (.element (some lassoHref) "EndpointReferences" []
    ((entriesIn (codec.foreachOrder eprs.keys) eprs).map fun entry =>
      (codec.getXmlNode entry.2).val))

/-- `lasso_session_id_wsf2_init_eprs`, if it ends -/
def initEprs (eprs : Eprs) (t : XmlNode) : Option Eprs :=
  if t.elementName = some "EndpointReferences" then
    (t.children.filter (·.isElement)).foldlM
      (fun eprs node => addEndpointReference eprs (codec.initFromXml node)) eprs
  else some eprs

/-- What the loop over the children of a dump makes of the references; `others` are the children
for the other tables of the session. -/
def restartEprs (others : List XmlNode) (eprs : Eprs) : Option Eprs :=
  (others ++ (dumpEprs codec eprs).toList).foldlM (initEprs codec) ∅

/-! ## Runs -/

/-- A reference that is added, and a restart with the other children of the dump. -/
inductive EprEvent where
  | add (epr : WsAddrEndpointReference)
  | restart (others : List XmlNode)

/-- The references after an event, if it ends. -/
def stepEprs (eprs : Eprs) : EprEvent → Option Eprs
  | .add epr => addEndpointReference eprs epr
  | .restart others => restartEprs codec others eprs

/-- The references after a run that starts without any, if all events end. -/
def runEprs (events : List EprEvent) : Option Eprs := events.foldlM (stepEprs codec) ∅

/-- The reference that an event adds for the service type. -/
def EprEvent.added (serviceType : String) : EprEvent → Option WsAddrEndpointReference
  | .add epr => if epr.firstServiceType = some (some serviceType) then some epr else none
  | .restart _ => none

/-! ## The step -/

/-- The reference is put into the table, and read back as it was written. -/
structure Storable (epr : WsAddrEndpointReference) : Prop where
  metadata : epr.metadata.isSome
  serviceType : epr.firstServiceType ≠ some none
  kept : codec.initFromXml (codec.getXmlNode epr).val = epr

/-- A reference that is added is storable, and a restart has no other element of the name. -/
def EprEvent.Fits : EprEvent → Prop
  | .add epr => Storable codec epr
  | .restart others => ∀ t ∈ others, t.elementName ≠ some "EndpointReferences"

/-- Every reference is stored by its own service type. -/
def KeyedEprs (eprs : Eprs) : Prop :=
  ∀ key epr, eprs.lookup key = some epr → Storable codec epr ∧
    epr.firstServiceType = some (some key)

section

variable {codec} {eprs : Eprs} {epr : WsAddrEndpointReference} {others : List XmlNode}

theorem addEndpointReference_keyed {key : String} (hmetadata : epr.metadata.isSome)
    (htype : epr.firstServiceType = some (some key)) :
    addEndpointReference eprs epr = some (eprs.insert key epr) := by
  obtain ⟨metadata, hmetadata⟩ := Option.isSome_iff_exists.mp hmetadata
  simp [addEndpointReference, hmetadata, htype]

/-- Adding a storable reference replaces the one of its service type only. -/
theorem addEndpointReference_storable (h : Storable codec epr) :
    ∃ eprs', addEndpointReference eprs epr = some eprs' ∧
      ∀ key, eprs'.lookup key = (EprEvent.added key (.add epr)).or (eprs.lookup key) := by
  cases htype : epr.firstServiceType with
  | none =>
    obtain ⟨metadata, hmetadata⟩ := Option.isSome_iff_exists.mp h.metadata
    refine ⟨eprs, by simp [addEndpointReference, hmetadata, htype], fun key => ?_⟩
    simp [EprEvent.added, htype]
  | some serviceType =>
    cases serviceType with
    | none => exact absurd htype h.serviceType
    | some serviceType =>
      refine ⟨_, addEndpointReference_keyed h.metadata htype, fun key => ?_⟩
      by_cases hkey : key = serviceType
      · subst hkey
        simp [EprEvent.added, htype]
      · simp [EprEvent.added, htype, AList.lookup_insert_ne hkey, Ne.symm hkey]

/-- The elements of a dump are read into the entries that they were written for. -/
theorem foldlM_addEndpointReference (entries : List (String × WsAddrEndpointReference))
    (h : ∀ entry ∈ entries, Storable codec entry.2 ∧
      entry.2.firstServiceType = some (some entry.1)) :
    ((entries.map fun entry => (codec.getXmlNode entry.2).val).filter (·.isElement)).foldlM
      (fun eprs node => addEndpointReference eprs (codec.initFromXml node)) eprs =
        some (insertEntries eprs entries) := by
  induction entries generalizing eprs with
  | nil => rfl
  | cons entry entries ih =>
    obtain ⟨⟨hmetadata, -, hkept⟩, htype⟩ := h entry List.mem_cons_self
    rw [List.map_cons, List.filter_cons_of_pos (codec.getXmlNode entry.2).property,
      List.foldlM_cons, hkept, addEndpointReference_keyed hmetadata htype]
    exact ih fun entry hentry => h entry (List.mem_cons_of_mem _ hentry)

/-- A restart ends, and every reference is found again. -/
theorem restartEprs_keyed (horder : ∀ keys, (codec.foreachOrder keys).Perm keys)
    (h : KeyedEprs codec eprs) (hothers : (EprEvent.restart others).Fits codec) :
    ∃ eprs', restartEprs codec others eprs = some eprs' ∧
      ∀ key, eprs'.lookup key = eprs.lookup key := by
  have hskip : others.foldlM (initEprs codec) ∅ = some ∅ := by
    induction others with
    | nil => rfl
    | cons t others ih =>
      have hname := hothers t List.mem_cons_self
      rw [List.foldlM_cons, initEprs, if_neg hname]
      exact ih fun t ht => hothers t (List.mem_cons_of_mem _ ht)
  unfold restartEprs dumpEprs
  rw [List.foldlM_append, hskip]
  split_ifs with hkeys
  · refine ⟨∅, rfl, fun key => ?_⟩
    have hnotMem : key ∉ eprs.keys := by simp [hkeys]
    rw [AList.lookup_empty, AList.lookup_eq_none.mpr hnotMem]
  · have hread := @foldlM_addEndpointReference codec ∅
      (entriesIn (codec.foreachOrder eprs.keys) eprs) fun entry hentry =>
        h entry.1 entry.2 (mem_entriesIn.mp hentry).2
    refine ⟨_, ?_, fun key => lookup_insertEntries_entriesIn (horder eprs.keys) key⟩
    simp only [Option.toList_some, Option.bind_eq_bind, Option.bind_some, List.foldlM_cons,
      List.foldlM_nil, initEprs, XmlNode.elementName, XmlNode.children, if_true]
    rw [hread]
    rfl

/-! ## The run -/

/-- Every event that fits ends. It puts its own reference into the table, if it has one, and leaves
every other reference where it is. -/
theorem stepEprs_fits (horder : ∀ keys, (codec.foreachOrder keys).Perm keys)
    (h : KeyedEprs codec eprs) {e : EprEvent} (hfits : e.Fits codec) :
    ∃ eprs', stepEprs codec eprs e = some eprs' ∧ KeyedEprs codec eprs' ∧
      ∀ key, eprs'.lookup key = (e.added key).or (eprs.lookup key) := by
  cases e with
  | add epr =>
    obtain ⟨eprs', hadd, hlookup⟩ := @addEndpointReference_storable _ eprs _ hfits
    refine ⟨eprs', hadd, fun key found hfound => ?_, hlookup⟩
    rw [hlookup, EprEvent.added] at hfound
    split_ifs at hfound with htype
    · obtain rfl := Option.some.inj hfound
      exact ⟨hfits, htype⟩
    · exact h key found hfound
  | restart others =>
    obtain ⟨eprs', hrestart, hlookup⟩ := restartEprs_keyed horder h hfits
    refine ⟨eprs', hrestart, fun key found hfound => ?_, hlookup⟩
    exact h key found ((hlookup key).symm.trans hfound)

/-- Every run ends, and after it the session has for each service type the reference that was added
last for it, and its token, however often the session was dumped and restored in between. -/
theorem getEndpointReference_runEprs (horder : ∀ keys, (codec.foreachOrder keys).Perm keys)
    (events : List EprEvent) (hfits : ∀ e ∈ events, e.Fits codec) :
    ∃ eprs, runEprs codec events = some eprs ∧ ∀ serviceType : String,
      getEndpointReference eprs serviceType =
        lastSome (EprEvent.added serviceType) none events ∧
      getAssertionIdentityToken eprs serviceType =
        (lastSome (EprEvent.added serviceType) none events).bind fun epr =>
          epr.metadata.bind (·.findSome? (·.assertionToken)) := by
  have hrun : ∃ eprs, runEprs codec events = some eprs ∧ KeyedEprs codec eprs ∧
      ∀ key, eprs.lookup key = lastSome (EprEvent.added key) none events := by
    induction events using List.reverseRecOn with
    | nil =>
      refine ⟨∅, rfl, fun key epr h => ?_, fun key => rfl⟩
      rw [AList.lookup_empty] at h
      cases h
    | append_singleton events e ih =>
      obtain ⟨eprs, hrun, hkeyed, hlookup⟩ := ih fun e he =>
        hfits e (List.mem_append_left _ he)
      obtain ⟨eprs', hstep, hkeyed', hlookup'⟩ := stepEprs_fits horder hkeyed
        (hfits e (by simp))
      refine ⟨eprs', ?_, hkeyed', fun key => ?_⟩
      · rw [runEprs] at hrun ⊢
        simp [List.foldlM_append, hrun, hstep]
      · rw [hlookup', hlookup, lastSome_append]
        rfl
  obtain ⟨eprs, hrun, -, hlookup⟩ := hrun
  refine ⟨eprs, hrun, fun serviceType => ?_⟩
  have hfound : getEndpointReference eprs serviceType =
      lastSome (EprEvent.added serviceType) none events := hlookup serviceType
  exact ⟨hfound, by rw [getAssertionIdentityToken, hfound]⟩

end

/-! ### Two references for one type -/

/-- A reference to the personal profile service at an address. -/
def profileEpr (address : String) : WsAddrEndpointReference where
  address := some address
  metadata := some [.abstract (some "profile"), .serviceType (some "urn:liberty:id-sis-pp")]

/-- A codec that writes the address only. -/
def addressCodec : EprCodec where
  getXmlNode epr := ⟨.element none "EndpointReference" [] [.text (epr.address.getD "")], rfl⟩
  initFromXml node :=
    match node.children with
    | [.text address] => profileEpr address
    | _ => {}
  foreachOrder keys := keys

theorem storable_profileEpr (address : String) : Storable addressCodec (profileEpr address) where
  metadata := rfl
  serviceType := by
    have htype : (profileEpr address).firstServiceType = some (some "urn:liberty:id-sis-pp") := rfl
    simp [htype]
  kept := rfl

theorem getEndpointReference_moved : ∃ eprs,
    runEprs addressCodec [.add (profileEpr "https://old/pp"), .restart [],
      .add (profileEpr "https://new/pp"), .restart []] = some eprs ∧
    getEndpointReference eprs (some "urn:liberty:id-sis-pp") = profileEpr "https://new/pp" := by
  obtain ⟨eprs, hrun, hfound⟩ := @getEndpointReference_runEprs addressCodec
    (fun _ => List.Perm.refl _) [.add (profileEpr "https://old/pp"), .restart [],
      .add (profileEpr "https://new/pp"), .restart []] (by
        intro e he
        simp only [List.mem_cons, List.not_mem_nil, or_false] at he
        rcases he with rfl | rfl | rfl | rfl
        · exact storable_profileEpr _
        · exact fun t ht => by cases ht
        · exact storable_profileEpr _
        · exact fun t ht => by cases ht)
  exact ⟨eprs, hrun, (hfound "urn:liberty:id-sis-pp").1⟩

end Lasso.IdWsf2
