import Lasso.Saml20.Logout
import Lasso.Saml20.LogoutRequestRead

/-!
# The session indexes of a logout request

The list that is set on a request is what is read from its element, unless the request is about a
BaseID, for which there is no class to read it.

## Main definitions

* `LogoutRequestObject.CarriesSessionIndexes` — the receiver has the list of the sender, and decides
  by it.

## Main results

* `LogoutRequestObject.carriesSessionIndexes_iff` — this is so without a BaseID.
-/

namespace Lasso

/-! ## The receiver -/

/-- The request with the members for session indexes that the reader has written. -/
def Samlp2LogoutRequest.withParsed (request : Samlp2LogoutRequest) (object : ParsedNode) :
    Samlp2LogoutRequest :=
  { request with
    sessionIndex := object.content "SessionIndex"
    otherSessionIndexes := object.contents privateSessionIndex }

namespace Saml20.Logout

/-- The check of the session indexes in a validation passes. -/
def KnowsSession (cx : Context) (logout : Logout) (request : Samlp2LogoutRequest)
    (remoteProvider : Provider) : Prop :=
  (logoutPrincipal cx logout request remoteProvider).1 ≠ .profile .missingAssertion ∧
    (logoutPrincipal cx logout request remoteProvider).1 ≠ .logout .unknownPrincipal

/-- The check passes for a list with a session index that the receiver knows, and for an empty list
of an identity provider if it knows any. -/
def DecidesBy (request : Samlp2LogoutRequest) (sessionIndexes : List String) : Prop :=
  ∀ (cx : Context) (logout : Logout) (remoteProvider : Provider) (nameId : Saml2NameId)
    (session : Session), request.nameId = some nameId → logout.profile.session = some session →
    let known := session.getSessionIndexes (logout.profile.remoteProviderId.getD "")
      (some (.saml2NameId nameId))
    (KnowsSession cx logout request remoteProvider ↔
      (∃ sessionIndex ∈ sessionIndexes, sessionIndex ∈ known) ∨
        remoteProvider.role = .idp ∧ sessionIndexes = [] ∧ known ≠ [])

/-- The codes of a validation from the check on. -/
theorem fst_logoutPrincipal {cx : Context} {logout : Logout} {request : Samlp2LogoutRequest}
    {remoteProvider : Provider} {nameId : Saml2NameId} {session : Session}
    (hnameId : request.nameId = some nameId) (hsession : logout.profile.session = some session) :
    let known := session.getSessionIndexes (logout.profile.remoteProviderId.getD "")
      (some (.saml2NameId nameId))
    ∃ rc, rc ∈ [Rc.logout .unsupportedProfile, Rc.ok] ∧
      (logoutPrincipal cx logout request remoteProvider).1 =
        if known = [] then .profile .missingAssertion
        else if namesSession remoteProvider request known then rc
        else .logout .unknownPrincipal := by
  dsimp only
  unfold logoutPrincipal
  rw [hnameId]
  dsimp only
  rw [hsession]
  dsimp only
  generalize session.getSessionIndexes _ _ = known
  by_cases hempty : known = []
  · exact ⟨.ok, by simp, by rw [if_pos hempty, if_pos hempty]⟩
  · simp only [if_neg hempty]
    cases namesSession remoteProvider request known with
    | false => exact ⟨.ok, by simp, rfl⟩
    | true =>
      simp only [Bool.not_true, Bool.false_eq_true, if_false, if_true]
      split
      · exact ⟨_, List.mem_cons_self, rfl⟩
      · exact ⟨.ok, by simp, rfl⟩

/-- A request with the list in its two members decides by it. -/
theorem decidesBy_of_head {request : Samlp2LogoutRequest} {sessionIndexes : List String}
    (hfirst : request.sessionIndex = sessionIndexes.head?)
    (hothers : request.otherSessionIndexes = sessionIndexes.tail) :
    request.getSessionIndexes = sessionIndexes ∧ DecidesBy request sessionIndexes := by
  have hlist : request.getSessionIndexes = sessionIndexes := by
    unfold Samlp2LogoutRequest.getSessionIndexes
    rw [hfirst, hothers]
    cases sessionIndexes <;> rfl
  have hnone : request.sessionIndex = none ↔ sessionIndexes = [] := by
    rw [hfirst]
    cases sessionIndexes <;> simp
  refine ⟨hlist, fun cx logout remoteProvider nameId session hnameId hsession => ?_⟩
  dsimp only
  set known := session.getSessionIndexes (logout.profile.remoteProviderId.getD "")
    (some (.saml2NameId nameId)) with hknown
  have hnames : namesSession remoteProvider request known = true ↔
      remoteProvider.role = .idp ∧ sessionIndexes = [] ∨
        ∃ sessionIndex ∈ sessionIndexes, sessionIndex ∈ known := by
    unfold namesSession
    rw [hlist]
    simp [hnone]
  obtain ⟨rc, hrc, hcode⟩ := @fst_logoutPrincipal cx logout request remoteProvider nameId session
    hnameId hsession
  rw [← hknown] at hcode
  unfold KnowsSession
  rw [hcode]
  by_cases hempty : known = []
  · simp [hempty]
  · rw [if_neg hempty]
    by_cases hpasses : namesSession remoteProvider request known = true
    · have hsides := hnames.mp hpasses
      rw [if_pos hpasses]
      simp only [List.mem_cons, List.not_mem_nil, or_false] at hrc
      constructor
      · intro _
        exact hsides.symm.imp_right fun ⟨hrole, hnil⟩ => ⟨hrole, hnil, hempty⟩
      · intro _
        rcases hrc with rfl | rfl <;> exact ⟨nofun, nofun⟩
    · have hsides := hnames.not.mp hpasses
      rw [if_neg hpasses]
      constructor
      · intro hcodes
        exact absurd rfl hcodes.2
      · rintro (hshared | ⟨hrole, hnil, -⟩)
        · exact absurd (.inr hshared) hsides
        · exact absurd (.inl ⟨hrole, hnil⟩) hsides

end Saml20.Logout

namespace LogoutRequestObject

variable (encrypted : Saml2EncryptedElement → EncryptedNodes) (lassoDump : Bool)
  (R : LogoutRequestRegistry) (searchNs : NsScope) (request : LogoutRequestObject)

/-! ## What is read -/

/-- What the parent's method has written. -/
structure ParentStores (request : LogoutRequestObject) (sessionIndexes : List String)
    (stores : List Store) : Prop where
  subject : (((ParsedNode.mk "LassoSamlp2LogoutRequest" stores).subnode "BaseID").toList ++
    ((ParsedNode.mk "LassoSamlp2LogoutRequest" stores).subnode "NameID").toList ++
    ((ParsedNode.mk "LassoSamlp2LogoutRequest" stores).subnode "EncryptedID").toList).length = 1 ↔
      request.HasSubject
  first : stores.filterMap (Store.contentOf "SessionIndex") = sessionIndexes.head?.toList
  others : stores.filterMap (Store.contentOf privateSessionIndex) = []

theorem parentStores_of_children {front : List Store} {subject : Option (String × ParsedNode)}
    {sessionIndexes : List String} (hfront : ∀ store ∈ front, Apart store)
    (hfields : ∀ part ∈ subject, part.1 ∈ ["NameID", "EncryptedID"])
    (hsubject : subject.isSome ↔ request.HasSubject) :
    ParentStores request sessionIndexes
      (front ++ (subjectStores subject ++
        sessionIndexes.head?.toList.map (.content "SessionIndex"))) := by
  have hcontent : ∀ field ∈ ["BaseID", "NameID", "EncryptedID", "SessionIndex",
      privateSessionIndex], front.filterMap (Store.contentOf field) = [] := fun field hfield =>
    List.filterMap_eq_nil_iff.mpr fun store hstore => (hfront store hstore field hfield).1
  have hnode : ∀ field ∈ ["BaseID", "NameID", "EncryptedID", "SessionIndex",
      privateSessionIndex], front.filterMap (Store.nodeOf field) = [] := fun field hfield =>
    List.filterMap_eq_nil_iff.mpr fun store hstore => (hfront store hstore field hfield).2
  have hindexes : ∀ field, (sessionIndexes.head?.toList.map (Store.content "SessionIndex")).filterMap
      (Store.nodeOf field) = [] := by
    intro field
    cases sessionIndexes <;> simp [Store.nodeOf]
  constructor
  · simp only [ParsedNode.subnode_eq_getLast?, ParsedNode.stores, List.filterMap_append, hindexes]
    rw [hnode _ (by decide), hnode _ (by decide), hnode _ (by decide), ← hsubject]
    cases subject with
    | none => simp [subjectStores]
    | some part =>
      obtain ⟨field, object⟩ := part
      have hfield : field ∈ ["NameID", "EncryptedID"] := hfields _ rfl
      simp only [List.mem_cons, List.not_mem_nil, or_false] at hfield
      rcases hfield with rfl | rfl <;> simp [subjectStores, Store.nodeOf]
  · rw [List.filterMap_append, List.filterMap_append, hcontent _ (by decide)]
    cases subject <;> cases sessionIndexes <;> simp [subjectStores, Store.contentOf]
  · rw [List.filterMap_append, List.filterMap_append, hcontent _ (by decide)]
    cases subject <;> cases sessionIndexes <;>
      simp [subjectStores, Store.contentOf, privateSessionIndex]

/-- Attributes are not stored under the members for the subject and the session indexes. -/
theorem apart_attributeStores {node : XmlNode} {attr : XmlAttr} {store : Store}
    (h : store ∈ attributeStores logoutRequestClass.toLassoNodeClass node attr) : Apart store := by
  have hfields : ∀ snippet ∈ logoutRequestClass.snippets, snippet.kind = .attribute →
      ∀ field ∈ snippet.field,
        field ∉ ["BaseID", "NameID", "EncryptedID", "SessionIndex", privateSessionIndex] := by
    decide
  obtain ⟨snippet, hsnippet, hkind, field, hfield, rfl⟩ := mem_attributeStores rfl h
  exact apart_content (hfields snippet hsnippet hkind field hfield) _

/-- The parent's method reads the element of a request. -/
theorem implInit_getXmlNode : ∃ stores, ParentStores request request.getSessionIndexes stores ∧
    implInit R.toRegistry searchNs logoutRequestClass.toLassoNodeClass
      ⟨[], getXmlNode encrypted lassoDump request⟩
      ((PlacedNode.mk [] (getXmlNode encrypted lassoDump request)).children.map
        (·.result R.toRegistry searchNs)) = .ok (.ok stores) := by
  obtain ⟨attrs, lead, hnode, hattrs, hlead⟩ := getXmlNode_eq encrypted lassoDump request
  obtain ⟨c, front, subject, hreads, hfront, hfields, hsubject⟩ :=
    @reads_children encrypted lassoDump request R searchNs
      (getXmlNode encrypted lassoDump request) lead hlead request.getSessionIndexes
      (by rw [hnode]; rfl)
  have hxsi : NoXsiType (getXmlNode encrypted lassoDump request).attrs := by
    rw [hnode]
    exact noXsiType_of_ns hattrs
  have hname : logoutRequestClass.nameMismatch R.toRegistry
      (getXmlNode encrypted lassoDump request) = false := by
    rw [hnode]
    rfl
  have hchildren := hreads.initChildren_eq []
  have hown := congrArg XmlNode.children hnode
  dsimp only [XmlNode.children] at hown
  rw [← hown] at hchildren
  set attributes := (getXmlNode encrypted lassoDump request).attrs.flatMap
    (attributeStores logoutRequestClass.toLassoNodeClass (getXmlNode encrypted lassoDump request))
    with hattributes
  have happart : ∀ store ∈ attributes ++ front, Apart store := by
    intro store hstore
    rcases List.mem_append.mp hstore with hstore | hstore
    · obtain ⟨attr, -, hstore⟩ := List.mem_flatMap.mp hstore
      exact apart_attributeStores hstore
    · exact hfront store hstore
  refine ⟨_, parentStores_of_children request happart hfields hsubject, ?_⟩
  have himpl := @implInit_eq R.toRegistry searchNs logoutRequestClass.toLassoNodeClass
    logoutRequestData ⟨[], getXmlNode encrypted lassoDump request⟩ [requestAbstractData] rfl
    (by decide) hname hxsi
  refine himpl.trans ((congrArg _ hchildren).trans ?_)
  rw [List.append_assoc]
  rfl

/-- The run of the method on the element of a request. -/
abbrev read : InitResult :=
  (ParseTask.mk logoutRequestClass.toLassoNodeClass
    ⟨[], getXmlNode encrypted lassoDump request⟩).run R.toRegistry searchNs

/-- A request with a subject that is read is accepted with all session indexes, and another one is
refused. -/
theorem read_eq : ∃ stores, ParentStores request request.getSessionIndexes stores ∧
    (request.HasSubject → read encrypted lassoDump R searchNs request =
      .ok (.ok (stores ++
        request.getSessionIndexes.tail.map (.content privateSessionIndex)))) ∧
    (¬ request.HasSubject → read encrypted lassoDump R searchNs request = .ok (.error 1)) := by
  obtain ⟨stores, hstores, himpl⟩ := implInit_getXmlNode encrypted lassoDump R searchNs request
  obtain ⟨attrs, lead, hnode, -, hlead⟩ := getXmlNode_eq encrypted lassoDump request
  have hwalk : sessionIndexElements (getXmlNode encrypted lassoDump request) =
      request.getSessionIndexes.map sessionIndexNode := by
    refine sessionIndexElements_eq ?_ (fun node hnode =>
      elementName_before encrypted lassoDump request hnode) hlead
    rw [hnode]
    rfl
  have hthen : read encrypted lassoDump R searchNs request =
      logoutRequestInitFromXml (getXmlNode encrypted lassoDump request) (.ok stores) := by
    unfold read ParseTask.run initFromXml
    dsimp only [logoutRequestClass]
    exact (congrArg (· >>= _) himpl).trans rfl
  refine ⟨stores, hstores, fun hsubject => ?_, fun hsubject => ?_⟩
  · rw [hthen, logoutRequestInitFromXml, if_neg (not_not.mpr (hstores.subject.mpr hsubject)),
      hwalk, ← List.map_tail, List.map_map]
    congr 3
    refine List.map_congr_left fun sessionIndex _ => ?_
    exact congrArg _ (textContent_sessionIndexNode sessionIndex)
  · rw [hthen, logoutRequestInitFromXml, if_pos (hstores.subject.not.mpr hsubject)]

/-! ## The two sides of a logout -/

/-- A list that is set on the request gets to the receiver, who decides by it. -/
def CarriesSessionIndexes (sessionIndexes : List String) : Prop :=
  let sent := { request with
    toSamlp2LogoutRequest := request.toSamlp2LogoutRequest.setSessionIndexes sessionIndexes }
  ∃ stores, read encrypted lassoDump R searchNs sent = .ok (.ok stores) ∧
    ∀ request : Samlp2LogoutRequest,
      let received := request.withParsed (.mk "LassoSamlp2LogoutRequest" stores)
      received.getSessionIndexes = sessionIndexes ∧
        Saml20.Logout.DecidesBy received sessionIndexes

/-- The list gets to the receiver if and only if the request has a subject that can be read. -/
theorem carriesSessionIndexes_iff (sessionIndexes : List String) :
    CarriesSessionIndexes encrypted lassoDump R searchNs request sessionIndexes ↔
      request.HasSubject := by
  set sent := { request with
    toSamlp2LogoutRequest := request.toSamlp2LogoutRequest.setSessionIndexes sessionIndexes }
    with hsent
  have hlist : sent.getSessionIndexes = sessionIndexes := by
    rw [hsent]
    cases sessionIndexes <;> rfl
  have hsubject : sent.HasSubject ↔ request.HasSubject := by
    rw [hsent]
    cases sessionIndexes <;> rfl
  obtain ⟨stores, hstores, haccepted, hrefused⟩ := read_eq encrypted lassoDump R searchNs sent
  rw [hlist] at hstores haccepted
  constructor
  · rintro ⟨accepted, hread, -⟩
    by_contra hnone
    have hread' : read encrypted lassoDump R searchNs sent = .ok (.ok accepted) := hread
    rw [hrefused (hsubject.not.mpr hnone)] at hread'
    cases hread'
  · intro hsome
    refine ⟨_, haccepted (hsubject.mpr hsome), fun request => ?_⟩
    dsimp only
    refine Saml20.Logout.decidesBy_of_head ?_ ?_
    · have hcontents : (ParsedNode.mk "LassoSamlp2LogoutRequest" (stores ++
          sessionIndexes.tail.map (.content privateSessionIndex))).contents "SessionIndex" =
            sessionIndexes.head?.toList := by
        rw [ParsedNode.contents, ParsedNode.stores, List.filterMap_append, hstores.first,
          filterMap_contentOf, if_neg (by decide), List.append_nil]
      rw [Samlp2LogoutRequest.withParsed, ParsedNode.content_eq_getLast?, hcontents]
      cases sessionIndexes <;> rfl
    · rw [Samlp2LogoutRequest.withParsed, ParsedNode.contents, ParsedNode.stores,
        List.filterMap_append, hstores.others, filterMap_contentOf, if_pos rfl, List.nil_append]

/-! ### A request about a BaseID -/

/-- A registry with the classes in a request and no others. -/
def requestRegistry : LogoutRequestRegistry where
  types
    | "LassoSaml2NameID" => some nameIdClass.toLassoNodeClass
    | "LassoSaml2EncryptedElement" => some encryptedElementClass.toLassoNodeClass
    | "LassoSamlp2Extensions" => some extensionsClass
    | _ => none
  mapping href name :=
    if href = saml2AssertionHref then
      match name with
      | "Issuer" => some "LassoSaml2NameID"
      | "EncryptedID" => some "LassoSaml2EncryptedElement"
      | _ => none
    else none
  wsfPrefix _ _ := none
  types_name := by
    intro typename cls h
    split at h
    · cases h
      rfl
    · cases h
      rfl
    · cases h
      rfl
    · cases h
  types_nameId := rfl
  types_encryptedElement := rfl
  types_extensions := rfl
  types_baseId := rfl
  mapping_issuer := rfl
  mapping_encryptedId := rfl
  mapping_nameId := rfl
  mapping_baseId := rfl
  mapping_extensions := rfl

/-- The receiver does not take a request that names its subject by a BaseID. -/
theorem baseId_not_carried :
    ¬ CarriesSessionIndexes (fun _ => { data_named := by simp, keys_named := by simp }) false
      requestRegistry (fun _ _ => none)
      { baseId := some { nameQualifier := some "https://idp.example.com" } } ["s1"] := by
  rintro ⟨stores, hread, -⟩
  obtain ⟨-, -, -, hrefused⟩ := read_eq
    (fun _ => { data_named := by simp, keys_named := by simp }) false requestRegistry
    (fun _ _ => none)
    { baseId := some { nameQualifier := some "https://idp.example.com" }
      sessionIndex := some "s1" }
  have hnone : ¬ HasSubject
      { baseId := some { nameQualifier := some "https://idp.example.com" }
        sessionIndex := some "s1" } := fun hsubject => nomatch hsubject.1
  have hread' := hread.symm.trans (hrefused hnone)
  cases hread'

end LogoutRequestObject

end Lasso
