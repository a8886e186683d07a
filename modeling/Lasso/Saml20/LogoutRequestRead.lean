import Lasso.Saml20.LogoutRequestXml
import Lasso.Xml.SnippetCursor

/-!
# Reading the element of a logout request

The children of the element are put together piece by piece: those for the members of every request,
the one for the subject, and those for the session indexes.

## Main results

* `LogoutRequestObject.getXmlNode_eq` — the element.
* `LogoutRequestObject.reads_children` — all of its children are taken.
* `LogoutRequestObject.sessionIndexElements_eq` — the walk that reads the session indexes again.
-/

namespace Lasso

variable {lassoDump : Bool} {searchNs : NsScope} {cursor cursor' : Nat}

/-! ## The objects in a request -/

theorem Saml2NameId.getXmlNode_eq (lassoDump : Bool) (nameId : Saml2NameId) :
    ∃ attrs, nameId.getXmlNode lassoDump = .element (some saml2AssertionHref) "NameID" attrs
        (nameId.content.toList.map .text) ∧ ∀ attr ∈ attrs, attr.ns = none := by
  obtain ⟨attrs, hnode, hattrs⟩ := @buildXmlNode_eq_element lassoDump nameIdClass [
    ("content", .string nameId.content), ("Format", .string nameId.format),
    ("SPProvidedID", .string nameId.spProvidedId),
    ("NameQualifier", .string nameId.nameQualifier),
    ("SPNameQualifier", .string nameId.spNameQualifier)] rfl (by decide) (by decide)
  refine ⟨attrs, hnode.trans ?_, fun attr hattr => (hattrs attr hattr).1⟩
  congr 1
  cases nameId.content <;> rfl

theorem Saml2BaseIdAbstract.getXmlNode_eq (lassoDump : Bool) (baseId : Saml2BaseIdAbstract) :
    ∃ attrs children, baseId.getXmlNode lassoDump =
        .element (some saml2AssertionHref) "BaseIDAbstract" attrs children ∧
      ∀ attr ∈ attrs, attr.ns = none := by
  obtain ⟨attrs, hnode, hattrs⟩ := @buildXmlNode_eq_element lassoDump baseIdAbstractClass [
    ("NameQualifier", .string baseId.nameQualifier),
    ("SPNameQualifier", .string baseId.spNameQualifier)] rfl (by decide) (by decide)
  exact ⟨attrs, _, hnode, fun attr hattr => (hattrs attr hattr).1⟩

/-- A NameID is read from its element, under any name that leads to it. -/
theorem read_nameId {R : Registry} {name : String} {attrs : List XmlAttr}
    {content : Option String} {typename : Option String} (hattrs : ∀ attr ∈ attrs, attr.ns = none)
    (hclass : ∀ path, classFor R searchNs
      ⟨path, .element (some saml2AssertionHref) name attrs (content.toList.map .text)⟩ typename =
        some nameIdClass.toLassoNodeClass)
    (hname : nameIdClass.nameMismatch R
      (.element (some saml2AssertionHref) name attrs (content.toList.map .text)) = false) :
    ∃ object, ∀ path, newWithType R searchNs
      ⟨path, .element (some saml2AssertionHref) name attrs (content.toList.map .text)⟩ typename =
        .ok (some object) := by
  have hchildren : ∀ path, initChildren nameIdClass.snippets nameIdClass.snippetAny
      (.element (some saml2AssertionHref) name attrs (content.toList.map .text))
      (nextNodeSnippet nameIdClass.snippets 0)
      ((placeFrom path 0 (content.toList.map .text)).map (·.result R searchNs)) = .ok (.ok []) := by
    intro path
    cases content with
    | none => rfl
    | some text => rfl
  exact ⟨_, fun path => newWithType_of_initChildren (hclass path) rfl rfl (by decide) hname
    (noXsiType_of_ns hattrs) (hchildren path)⟩

section

variable (R : LogoutRequestRegistry)

theorem typename_nameId : typeNameFromHrefAndNodename R.toRegistry saml2AssertionHref "NameID" =
    some "LassoSaml2NameID" := by
  have hprefix : prefixFromHrefAndNodename R.toRegistry saml2AssertionHref "NameID" =
    some "Saml2" := rfl
  simp [typeNameFromHrefAndNodename, hprefix, R.mapping_nameId, R.types_nameId]

theorem typename_encryptedId :
    typeNameFromHrefAndNodename R.toRegistry saml2AssertionHref "EncryptedID" =
      some "LassoSaml2EncryptedElement" := by
  simp [typeNameFromHrefAndNodename, R.mapping_encryptedId, R.types_encryptedElement]

theorem typename_extensions :
    typeNameFromHrefAndNodename R.toRegistry saml2ProtocolHref "Extensions" =
      some "LassoSamlp2Extensions" := by
  have hprefix : prefixFromHrefAndNodename R.toRegistry saml2ProtocolHref "Extensions" =
    some "Samlp2" := rfl
  simp [typeNameFromHrefAndNodename, hprefix, R.mapping_extensions, R.types_extensions]

/-- There is no class with the name that a BaseID would have. -/
theorem typename_baseId :
    typeNameFromHrefAndNodename R.toRegistry saml2AssertionHref "BaseID" = none := by
  have hprefix : prefixFromHrefAndNodename R.toRegistry saml2AssertionHref "BaseID" =
    some "Saml2" := rfl
  simp [typeNameFromHrefAndNodename, hprefix, R.mapping_baseId, R.types_baseId]

/-- The NameID of a request is read. -/
theorem Saml2NameId.read_nameId (searchNs : NsScope) (nameId : Saml2NameId) :
    ∃ object, ∀ path, newWithType R.toRegistry searchNs
      ⟨path, nameId.getXmlNode lassoDump⟩ none = .ok (some object) := by
  obtain ⟨attrs, hnode, hattrs⟩ := nameId.getXmlNode_eq lassoDump
  rw [hnode]
  exact Lasso.read_nameId hattrs (fun path => classFor_of_name (noXsiType_of_ns hattrs)
    (typename_nameId R) R.types_nameId) rfl

/-- The Issuer of a request is read. -/
theorem Saml2NameId.read_issuer (searchNs : NsScope) (nameId : Saml2NameId) :
    ∃ object, ∀ path, newWithType R.toRegistry searchNs
      ⟨path, issuerSnippet.applyNs (nameId.getXmlNode lassoDump)⟩ (some "LassoSaml2NameID") =
        .ok (some object) := by
  obtain ⟨attrs, hnode, hattrs⟩ := nameId.getXmlNode_eq lassoDump
  rw [hnode]
  refine Lasso.read_nameId hattrs (fun path => R.types_nameId) ?_
  rw [LassoNodeClass.nameMismatch_eq_false]
  exact .inr ⟨_, _, rfl, rfl, R.mapping_issuer⟩

/-- A BaseID is not read. -/
theorem Saml2BaseIdAbstract.read_baseId (searchNs : NsScope) (baseId : Saml2BaseIdAbstract)
    (path : List Nat) :
    newWithType R.toRegistry searchNs
      ⟨path, baseIdSnippet.applyNs (baseId.getXmlNode lassoDump)⟩ none = .ok none := by
  obtain ⟨attrs, children, hnode, hattrs⟩ := baseId.getXmlNode_eq lassoDump
  have happlied : baseIdSnippet.applyNs (baseId.getXmlNode lassoDump) =
      .element (some saml2AssertionHref) "BaseID" attrs children := by
    rw [hnode]
    rfl
  have hclass : classFor R.toRegistry searchNs
      ⟨path, .element (some saml2AssertionHref) "BaseID" attrs children⟩ none = none := by
    have hxsi : NoXsiType (XmlNode.element (some saml2AssertionHref) "BaseID" attrs
      children).attrs := noXsiType_of_ns hattrs
    have hname : typenameByName R.toRegistry
      (.element (some saml2AssertionHref) "BaseID" attrs children) = none := typename_baseId R
    rw [classFor, Option.none_or, autoTypename, xsiTypename_eq_none hxsi, hname]
    rfl
  rw [happlied, newWithType_eq, hclass]

/-- Extensions are read, whatever is in them. -/
theorem Samlp2Extensions.read_extensions (searchNs : NsScope) (extensions : Samlp2Extensions) :
    ∃ object, ∀ path, newWithType R.toRegistry searchNs ⟨path, extensions.getXmlNode⟩ none =
      .ok (some object) := by
  have hchildren : ∀ path, initChildren extensionsClass.snippets extensionsClass.snippetAny
      extensions.getXmlNode (nextNodeSnippet extensionsClass.snippets 0)
      ((placeFrom path 0 extensions.any).map (·.result R.toRegistry searchNs)) =
        .ok (.ok (extensions.any.map (.xmlNode "any"))) := by
    intro path
    have hnodes : ((placeFrom path 0 extensions.any).map (·.result R.toRegistry searchNs)).map
        (·.node) = extensions.any := by
      have hresult : (fun child : ChildResult => child.node) ∘
          (PlacedNode.result R.toRegistry searchNs ·) = PlacedNode.node := by
        funext place
        exact place.result_node
      rw [List.map_map, hresult, placeFrom_map_node]
    generalize (placeFrom path 0 extensions.any).map (·.result R.toRegistry searchNs) = children
      at hnodes ⊢
    rw [← hnodes]
    cases children with
    | nil => rfl
    | cons child children =>
      rw [initChildren, if_neg (by decide), List.map_map]
      rfl
  exact ⟨_, fun path => newWithType_of_initChildren (classFor_of_name extensions.no_type
    (typename_extensions R) R.types_extensions) rfl rfl (by decide) rfl extensions.no_type
    (hchildren path)⟩

/-- The element of an EncryptedID, in place. -/
theorem EncryptedNodes.getXmlNode_eq (lassoDump : Bool) (nodes : EncryptedNodes) :
    ∃ attrs, encryptedIdSnippet.applyNs (nodes.getXmlNode lassoDump) =
        .element (some saml2AssertionHref) "EncryptedID" attrs
          (nodes.encryptedData.toList ++ (nodes.encryptedKey ++
            (nodes.originalData.filter fun _ => lassoDump).toList.map (·.getXmlNode lassoDump))) ∧
      ∀ attr ∈ attrs, attr.ns = none := by
  obtain ⟨attrs, hnode, hattrs⟩ := @buildXmlNode_eq_element lassoDump encryptedElementClass [
    ("EncryptedData", .xmlNode nodes.encryptedData),
    ("EncryptedKey", .xmlNodes nodes.encryptedKey),
    ("original_data", .node (nodes.originalData.map (·.getXmlNode lassoDump)))]
    rfl (by decide) (by decide)
  refine ⟨attrs, ?_, fun attr hattr => (hattrs attr hattr).1⟩
  unfold getXmlNode
  rw [hnode]
  have happlied : ∀ nameId : Saml2NameId,
      originalDataSnippet.applyNs (nameId.getXmlNode lassoDump) = nameId.getXmlNode lassoDump := by
    intro nameId
    obtain ⟨attrs, hnode, -⟩ := nameId.getXmlNode_eq lassoDump
    rw [hnode]
    rfl
  have hmap : (nodes.originalData.map (·.getXmlNode lassoDump)).toList.map
      originalDataSnippet.applyNs = nodes.originalData.toList.map (·.getXmlNode lassoDump) := by
    cases nodes.originalData with
    | none => rfl
    | some nameId => exact congrArg ([·]) (happlied nameId)
  have hchildren : (encryptedElementClass.written lassoDump (List.lookup · [
      ("EncryptedData", MemberValue.xmlNode nodes.encryptedData),
      ("EncryptedKey", .xmlNodes nodes.encryptedKey),
      ("original_data", .node (nodes.originalData.map (·.getXmlNode lassoDump)))])).flatMap
        (fun part => snippetChildren encryptedElementClass.nameData.ns part.1 part.2) =
      nodes.encryptedData.toList ++ (nodes.encryptedKey ++
        (nodes.originalData.filter fun _ => lassoDump).toList.map (·.getXmlNode lassoDump)) := by
    cases lassoDump with
    | false =>
      show nodes.encryptedData.toList ++ (nodes.encryptedKey ++ []) = _
      cases nodes.originalData <;> rfl
    | true =>
      show nodes.encryptedData.toList ++ (nodes.encryptedKey ++
        ((nodes.originalData.map (·.getXmlNode true)).toList.map
          originalDataSnippet.applyNs ++ [])) = _
      rw [hmap, List.append_nil]
      cases nodes.originalData <;> rfl
  rw [hchildren]
  rfl

/-- The children of an EncryptedID are taken. -/
theorem EncryptedNodes.reads_children (searchNs : NsScope) (nodes : EncryptedNodes)
    {parent : XmlNode} (hns : parent.ns = some saml2AssertionHref) :
    ∃ c stores, ReadsNodes R.toRegistry searchNs encryptedElementClass.snippets none parent 0
      (nodes.encryptedData.toList ++ (nodes.encryptedKey ++
        (nodes.originalData.filter fun _ => lassoDump).toList.map (·.getXmlNode lassoDump)))
      stores c := by
  have hdata : ∀ node ∈ nodes.encryptedData, ∃ stores, (∀ store ∈ stores, True) ∧ ∀ c ≤ 0,
      ReadsNodes R.toRegistry searchNs encryptedElementClass.snippets none parent c [node]
        stores 1 := by
    intro node hnode
    obtain ⟨attrs, children, rfl⟩ := XmlNode.isElementNode_iff.mp (nodes.data_named node hnode)
    have hi : encryptedElementClass.snippets[0]? = some encryptedDataSnippet := rfl
    exact ⟨_, fun _ _ => trivial, fun c hc => .named hi rfl rfl (by decide) rfl rfl
      (fun path => storeMatched_xmlNode rfl (.inl rfl)) hc⟩
  have hkeys : ∀ node ∈ nodes.encryptedKey, ∃ stores, (∀ store ∈ stores, True) ∧ ∀ c ≤ 1,
      ReadsNodes R.toRegistry searchNs encryptedElementClass.snippets none parent c [node]
        stores 1 := by
    intro node hnode
    obtain ⟨attrs, children, rfl⟩ := XmlNode.isElementNode_iff.mp (nodes.keys_named node hnode)
    have hi : encryptedElementClass.snippets[1]? = some encryptedKeySnippet := rfl
    exact ⟨_, fun _ _ => trivial, fun c hc => .named hi rfl rfl (by decide) rfl rfl
      (fun path => storeMatched_xmlNode rfl (.inr rfl)) hc⟩
  have horiginal : ∀ node ∈ (nodes.originalData.filter fun _ => lassoDump).map
      (·.getXmlNode lassoDump), ∃ stores, (∀ store ∈ stores, True) ∧ ∀ c ≤ 2,
      ReadsNodes R.toRegistry searchNs encryptedElementClass.snippets none parent c [node]
        stores 3 := by
    intro node hnode
    obtain ⟨nameId, -, rfl⟩ := Option.mem_map.mp hnode
    obtain ⟨object, hread⟩ := @Saml2NameId.read_nameId lassoDump R searchNs nameId
    obtain ⟨attrs, hnode, -⟩ := nameId.getXmlNode_eq lassoDump
    have hi : encryptedElementClass.snippets[2]? = some originalDataSnippet := rfl
    have hname : (nameId.getXmlNode lassoDump).elementName = some originalDataSnippet.name := by
      rw [hnode]
      rfl
    refine ⟨_, fun _ _ => trivial, fun c hc => .named hi rfl rfl (by decide) hname ?_
      (fun path => storeMatched_node rfl rfl (hread path)) hc⟩
    exact nodeMatchSnippet_of_parent hns hname (by rw [hnode]; rfl) rfl
  obtain ⟨c, hc, data, -, hdata⟩ := ReadsNodes.option hdata (Nat.zero_le 1) (Nat.le_refl 0)
  obtain ⟨c', hc', keys, -, hkeys⟩ := ReadsNodes.list hkeys hc
  obtain ⟨c'', -, original, -, horiginal⟩ :=
    ReadsNodes.option horiginal (by decide : 2 ≤ 3) (Nat.le_succ_of_le hc')
  rw [Option.toList_map] at horiginal
  exact ⟨c'', _, hdata.append (hkeys.append horiginal)⟩

/-- An EncryptedID is read. -/
theorem EncryptedNodes.read_encryptedId (searchNs : NsScope) (nodes : EncryptedNodes) :
    ∃ object, ∀ path, newWithType R.toRegistry searchNs
      ⟨path, encryptedIdSnippet.applyNs (nodes.getXmlNode lassoDump)⟩ none =
        .ok (some object) := by
  obtain ⟨attrs, hnode, hattrs⟩ := nodes.getXmlNode_eq lassoDump
  rw [hnode]
  set parent := XmlNode.element (some saml2AssertionHref) "EncryptedID" attrs
    (nodes.encryptedData.toList ++ (nodes.encryptedKey ++
      (nodes.originalData.filter fun _ => lassoDump).toList.map (·.getXmlNode lassoDump)))
  obtain ⟨c, stores, hreads⟩ :=
    @EncryptedNodes.reads_children lassoDump R searchNs nodes parent rfl
  have hxsi : NoXsiType parent.attrs := noXsiType_of_ns hattrs
  have hname : encryptedElementClass.nameMismatch R.toRegistry parent = false := by
    rw [LassoNodeClass.nameMismatch_eq_false]
    exact .inr ⟨_, _, rfl, rfl, R.mapping_encryptedId⟩
  exact ⟨_, fun path => newWithType_of_initChildren (classFor_of_name (noXsiType_of_ns hattrs)
    (typename_encryptedId R) R.types_encryptedElement) rfl rfl (by decide) hname hxsi
    (hreads.initChildren_eq path)⟩

end

/-! ## The element of a request -/

namespace LogoutRequestObject

variable (encrypted : Saml2EncryptedElement → EncryptedNodes) (lassoDump : Bool)
  (request : LogoutRequestObject)

def issuerNodes : List XmlNode :=
  (request.issuer.map (·.getXmlNode lassoDump)).toList.map issuerSnippet.applyNs

def extensionsNodes : List XmlNode :=
  (request.extensions.map (·.getXmlNode)).toList.map extensionsSnippet.applyNs

/-- The child for a member that is in dumps only. -/
def dumpNodes (name : String) (text : Option String) : List XmlNode :=
  if lassoDump then text.toList.map (newTextChild (some saml2ProtocolHref) name) else []

/-- The child for the subject: the first one of those that are there. -/
def subjectNode : Option XmlNode :=
  match request.baseId, request.nameId, request.encryptedId with
  | some baseId, _, _ => some (baseIdSnippet.applyNs (baseId.getXmlNode lassoDump))
  | none, some nameId, _ => some (nameIdSnippet.applyNs (nameId.getXmlNode lassoDump))
  | none, none, some element =>
    some (encryptedIdSnippet.applyNs ((encrypted element).getXmlNode lassoDump))
  | none, none, none => none

/-- The children before the session indexes. -/
def leadingNodes : List XmlNode :=
  issuerNodes lassoDump request ++ (request.signatureTemplate ++
    (extensionsNodes request ++ (dumpNodes lassoDump "PrivateKeyFile" request.privateKeyFile ++
      (dumpNodes lassoDump "CertificateFile" request.certificateFile ++
        (subjectNode encrypted lassoDump request).toList))))

theorem written_eq :
    (logoutRequestClass.written lassoDump
        (List.lookup · (members encrypted lassoDump { request with sessionIndex := none }))).flatMap
      (fun part => snippetChildren logoutRequestClass.nameData.ns part.1 part.2) =
    issuerNodes lassoDump request ++ (extensionsNodes request ++
      (dumpNodes lassoDump "PrivateKeyFile" request.privateKeyFile ++
        (dumpNodes lassoDump "CertificateFile" request.certificateFile ++
          (subjectNode encrypted lassoDump request).toList))) := by
  obtain ⟨⟨abstract, nameId, encryptedId, sessionIndex, others⟩, baseId, extensions, version,
    issueInstant, destination, reason, notOnOrAfter, signType, signMethod, privateKeyFile,
    certificateFile, signature⟩ := request
  -- each subject jumps over those after it
  cases baseId with
  | some baseId => cases lassoDump <;> rfl
  | none =>
    cases nameId with
    | some nameId => cases lassoDump <;> rfl
    | none => cases encryptedId <;> cases lassoDump <;> rfl

/-! ### The elements for session indexes -/

def sessionIndexNode (sessionIndex : String) : XmlNode :=
  newTextChild (some saml2ProtocolHref) "SessionIndex" sessionIndex

theorem textContent_sessionIndexNode (sessionIndex : String) :
    (sessionIndexNode sessionIndex).textContent = sessionIndex := by
  exact XmlNode.textContent_text _ _ _ _

/-- An element for each session index, and a line feed behind it. -/
def sessionIndexNodes (sessionIndexes : List String) : List XmlNode :=
  sessionIndexes.flatMap fun sessionIndex => [sessionIndexNode sessionIndex, .text "\n"]

theorem foldl_xmlSecAddChild_of_ne_nil {children : List XmlNode} (h : children ≠ [])
    (sessionIndexes : List String) :
    sessionIndexes.foldl (fun children sessionIndex =>
      xmlSecAddChild children (sessionIndexNode sessionIndex)) children =
        children ++ sessionIndexNodes sessionIndexes := by
  induction sessionIndexes generalizing children with
  | nil => exact (List.append_nil _).symm
  | cons sessionIndex sessionIndexes ih =>
    have hadded : xmlSecAddChild children (sessionIndexNode sessionIndex) =
        children ++ [sessionIndexNode sessionIndex, .text "\n"] := by
      rw [xmlSecAddChild, if_neg h]
    rw [List.foldl_cons, hadded, ih (by simp), List.append_assoc]
    rfl

/-- There is a line feed in front only if there are no other children. -/
theorem foldl_xmlSecAddChild (children : List XmlNode) (sessionIndexes : List String) :
    ∃ lead, (∀ node ∈ lead, node = .text "\n") ∧
      sessionIndexes.foldl (fun children sessionIndex =>
        xmlSecAddChild children (sessionIndexNode sessionIndex)) children =
          children ++ (lead ++ sessionIndexNodes sessionIndexes) := by
  by_cases h : children = []
  · subst h
    cases sessionIndexes with
    | nil => exact ⟨[], by simp, rfl⟩
    | cons sessionIndex sessionIndexes =>
      refine ⟨[.text "\n"], by simp, ?_⟩
      rw [List.foldl_cons, foldl_xmlSecAddChild_of_ne_nil (by simp [xmlSecAddChild])]
      rfl
  · exact ⟨[], by simp, foldl_xmlSecAddChild_of_ne_nil h sessionIndexes⟩

/-- The element of a request. -/
theorem getXmlNode_eq : ∃ attrs lead, getXmlNode encrypted lassoDump request =
      .element (some saml2ProtocolHref) "LogoutRequest" attrs
        (leadingNodes encrypted lassoDump request ++
          (lead ++ sessionIndexNodes request.getSessionIndexes)) ∧
    (∀ attr ∈ attrs, attr.ns = none) ∧ ∀ node ∈ lead, node = .text "\n" := by
  obtain ⟨attrs, hnode, hattrs⟩ := @buildXmlNode_eq_element lassoDump logoutRequestClass
    (members encrypted lassoDump { request with sessionIndex := none }) rfl (by decide) (by decide)
  obtain ⟨lead, hlead, hfold⟩ := foldl_xmlSecAddChild (request.withSignature
    (issuerNodes lassoDump request ++ (extensionsNodes request ++
      (dumpNodes lassoDump "PrivateKeyFile" request.privateKeyFile ++
        (dumpNodes lassoDump "CertificateFile" request.certificateFile ++
          (subjectNode encrypted lassoDump request).toList))))) request.getSessionIndexes
  have hlength : (issuerNodes lassoDump request).length = request.issuer.toList.length := by
    unfold issuerNodes
    cases request.issuer <;> rfl
  have hsignature : ∀ nodes, request.withSignature (issuerNodes lassoDump request ++ nodes) =
      issuerNodes lassoDump request ++ (request.signatureTemplate ++ nodes) := by
    intro nodes
    unfold withSignature
    rw [← hlength]
    dsimp only
    rw [List.take_left, List.drop_left, List.append_assoc]
  refine ⟨attrs, lead, ?_, fun attr hattr => (hattrs attr hattr).1, hlead⟩
  unfold getXmlNode
  rw [hnode, written_eq]
  unfold sessionIndexNode at hfold
  dsimp only
  rw [hfold, hsignature]
  rfl

/-! ## Reading the element -/

/-- What is written to members that the session indexes and the subject have no part in. -/
def Apart (store : Store) : Prop :=
  ∀ field ∈ ["BaseID", "NameID", "EncryptedID", "SessionIndex", privateSessionIndex],
    store.contentOf field = none ∧ store.nodeOf field = none

theorem apart_content {field : String} (h : field ∉
      ["BaseID", "NameID", "EncryptedID", "SessionIndex", privateSessionIndex]) (value : String) :
    Apart (.content field value) := by
  intro other hother
  have hne : field ≠ other := fun heq => h (heq ▸ hother)
  simp [Store.contentOf, Store.nodeOf, hne]

theorem apart_node {field : String} (h : field ∉
      ["BaseID", "NameID", "EncryptedID", "SessionIndex", privateSessionIndex])
    (object : Option ParsedNode) : Apart (.node field object) := by
  intro other hother
  have hne : field ≠ other := fun heq => h (heq ▸ hother)
  simp [Store.contentOf, Store.nodeOf, hne]

section Reading

variable (R : LogoutRequestRegistry) (searchNs : NsScope) {parent : XmlNode}

/-- Nodes that are read from the element of a request. -/
abbrev ReadsRequest (parent : XmlNode) (cursor : Nat) (nodes : List XmlNode) (stores : List Store)
    (cursor' : Nat) : Prop :=
  ReadsNodes R.toRegistry searchNs logoutRequestClass.snippets none parent cursor nodes stores
    cursor'

theorem reads_issuerNodes : ∃ c ≤ 1, ∃ stores, (∀ store ∈ stores, Apart store) ∧
    ReadsRequest R searchNs parent 0 (issuerNodes lassoDump request) stores c := by
  unfold issuerNodes
  rw [← Option.toList_map]
  refine ReadsNodes.option (fun node hnode => ?_) (Nat.zero_le 1) (Nat.le_refl 0)
  rw [Option.map_map] at hnode
  obtain ⟨nameId, -, rfl⟩ := Option.mem_map.mp hnode
  obtain ⟨object, hread⟩ := @Saml2NameId.read_issuer lassoDump R searchNs nameId
  obtain ⟨attrs, hnode, -⟩ := nameId.getXmlNode_eq lassoDump
  have hi : logoutRequestClass.snippets[0]? = some issuerSnippet := rfl
  refine ⟨_, ?_, fun c hc => .named hi rfl rfl (by decide) ?_ ?_
    (fun path => storeMatched_node rfl rfl (hread path)) hc⟩
  · exact List.forall_mem_singleton.mpr (apart_node (by decide) _)
  · dsimp only [Function.comp]
    rw [hnode]
    rfl
  · dsimp only [Function.comp]
    rw [hnode]
    simp [nodeMatchSnippet, Snippet.applyNs, issuerSnippet, XmlNode.elementName, XmlNode.ns]

theorem reads_signatureTemplate (hle : cursor ≤ 1) :
    ∃ c ≤ 2, ∃ stores, (∀ store ∈ stores, Apart store) ∧
      ReadsRequest R searchNs parent cursor request.signatureTemplate stores c := by
  unfold signatureTemplate
  rw [← Option.toList_map]
  refine ReadsNodes.option (fun node hnode => ?_) (by decide : 1 ≤ 2) hle
  obtain ⟨children, -, rfl⟩ := Option.mem_map.mp hnode
  have hi : logoutRequestClass.snippets[1]? = some signatureSnippet := rfl
  refine ⟨[], List.forall_mem_nil _, fun c hc => .named hi rfl rfl (by decide) rfl ?_
    (fun path => storeMatched_signature rfl) hc⟩
  simp [nodeMatchSnippet, signatureSnippet, XmlNode.elementName, XmlNode.ns]

theorem reads_extensionsNodes (hns : parent.ns = some saml2ProtocolHref) (hle : cursor ≤ 2) :
    ∃ c ≤ 10, ∃ stores, (∀ store ∈ stores, Apart store) ∧
      ReadsRequest R searchNs parent cursor (extensionsNodes request) stores c := by
  unfold extensionsNodes
  rw [← Option.toList_map, Option.map_map]
  refine ReadsNodes.option (fun node hnode => ?_) (by decide : 2 ≤ 10) hle
  obtain ⟨extensions, -, rfl⟩ := Option.mem_map.mp hnode
  obtain ⟨object, hread⟩ := extensions.read_extensions R searchNs
  have hi : logoutRequestClass.snippets[2]? = some extensionsSnippet := rfl
  refine ⟨_, ?_, fun c hc => .named hi rfl rfl (by decide) rfl
    (nodeMatchSnippet_of_parent hns rfl rfl rfl)
    (fun path => storeMatched_node rfl rfl (hread path)) hc⟩
  exact List.forall_mem_singleton.mpr (apart_node (by decide) _)

/-- The child for a member that is in dumps only. -/
theorem reads_dumpNodes {i : Nat} {snippet : Snippet} {field : String} (text : Option String)
    (hns : parent.ns = some saml2ProtocolHref)
    (hi : logoutRequestClass.snippets[i]? = some snippet)
    (hafter : ReadsNodes.After logoutRequestClass.snippets i snippet (i + 1))
    (hpassed : ∀ other ∈ logoutRequestClass.snippets.take i, other.any = false ∧
      other.mandatory = false ∧ other.jumpOnMiss = false ∧ other.name ≠ snippet.name)
    (hholds : snippet.holdsNodes = true) (hkind : snippet.kind = .content)
    (hsnippet : snippet.nsUri = none) (hfield : snippet.field = some field)
    (hother : field ∉ ["BaseID", "NameID", "EncryptedID", "SessionIndex", privateSessionIndex])
    (hle : cursor ≤ i) :
    ∃ c ≤ i + 1, ∃ stores, (∀ store ∈ stores, Apart store) ∧
      ReadsRequest R searchNs parent cursor (dumpNodes lassoDump snippet.name text) stores c := by
  have hoption : dumpNodes lassoDump snippet.name text =
      ((text.filter fun _ => lassoDump).map
        (newTextChild (some saml2ProtocolHref) snippet.name)).toList := by
    unfold dumpNodes
    cases lassoDump <;> cases text <;> rfl
  rw [hoption]
  refine ReadsNodes.option (fun node hnode => ?_) (Nat.le_succ i) hle
  obtain ⟨value, -, rfl⟩ := Option.mem_map.mp hnode
  refine ⟨_, ?_, fun c hc =>
    .textChild hns hi hafter hholds hpassed (.inl hkind) hsnippet hfield value hc⟩
  exact List.forall_mem_singleton.mpr (apart_content hother _)

theorem reads_baseId (baseId : Saml2BaseIdAbstract) (hle : cursor ≤ 12) :
    ReadsRequest R searchNs parent cursor [baseIdSnippet.applyNs (baseId.getXmlNode lassoDump)]
      [] 15 := by
  obtain ⟨attrs, children, hnode, -⟩ := baseId.getXmlNode_eq lassoDump
  have hstored : ∀ path, storeMatched baseIdSnippet (PlacedNode.result R.toRegistry searchNs
      ⟨path, baseIdSnippet.applyNs (baseId.getXmlNode lassoDump)⟩) = .ok ((none :
        Option ParsedNode).toList.map (.node "BaseID" <| some ·)) :=
    fun path => storeMatched_node rfl rfl (baseId.read_baseId R searchNs path)
  have hi : logoutRequestClass.snippets[12]? = some baseIdSnippet := rfl
  refine .named hi rfl rfl (by decide) ?_ ?_ hstored hle
  · rw [hnode]
    rfl
  · rw [hnode]
    simp [nodeMatchSnippet, Snippet.applyNs, baseIdSnippet, XmlNode.elementName, XmlNode.ns]

theorem reads_nameId (nameId : Saml2NameId) (hle : cursor ≤ 12) :
    ∃ object, ReadsRequest R searchNs parent cursor
      [nameIdSnippet.applyNs (nameId.getXmlNode lassoDump)] [.node "NameID" (some object)] 15 := by
  obtain ⟨attrs, hnode, -⟩ := nameId.getXmlNode_eq lassoDump
  obtain ⟨object, hread⟩ := @Saml2NameId.read_nameId lassoDump R searchNs nameId
  have happlied : nameIdSnippet.applyNs (nameId.getXmlNode lassoDump) =
      nameId.getXmlNode lassoDump := by
    rw [hnode]
    rfl
  have hstored : ∀ path, storeMatched nameIdSnippet (PlacedNode.result R.toRegistry searchNs
      ⟨path, nameId.getXmlNode lassoDump⟩) =
        .ok ((some object).toList.map (.node "NameID" <| some ·)) :=
    fun path => storeMatched_node rfl rfl (hread path)
  have hi : logoutRequestClass.snippets[13]? = some nameIdSnippet := rfl
  rw [happlied]
  refine ⟨object, .named hi rfl rfl (by decide) ?_ ?_ hstored (by omega)⟩
  · rw [hnode]
    rfl
  · rw [hnode]
    simp [nodeMatchSnippet, nameIdSnippet, XmlNode.elementName, XmlNode.ns]

theorem reads_encryptedId (nodes : EncryptedNodes) (hle : cursor ≤ 12) :
    ∃ object, ReadsRequest R searchNs parent cursor
      [encryptedIdSnippet.applyNs (nodes.getXmlNode lassoDump)]
        [.node "EncryptedID" (some object)] 15 := by
  obtain ⟨attrs, hnode, -⟩ := nodes.getXmlNode_eq lassoDump
  obtain ⟨object, hread⟩ := @EncryptedNodes.read_encryptedId lassoDump R searchNs nodes
  have hstored : ∀ path, storeMatched encryptedIdSnippet (PlacedNode.result R.toRegistry searchNs
      ⟨path, encryptedIdSnippet.applyNs (nodes.getXmlNode lassoDump)⟩) =
        .ok ((some object).toList.map (.node "EncryptedID" <| some ·)) :=
    fun path => storeMatched_node rfl rfl (hread path)
  have hi : logoutRequestClass.snippets[14]? = some encryptedIdSnippet := rfl
  refine ⟨object, .named hi rfl rfl (by decide) ?_ ?_ hstored (by omega)⟩
  · rw [hnode]
    rfl
  · rw [hnode]
    simp [nodeMatchSnippet, encryptedIdSnippet, XmlNode.elementName, XmlNode.ns]

/-- The request has a subject that is read. -/
def HasSubject : Prop :=
  request.baseId = none ∧ (request.nameId.isSome ∨ request.encryptedId.isSome)

/-- What is written for a subject under its member. -/
def subjectStores (subject : Option (String × ParsedNode)) : List Store :=
  subject.toList.map fun (field, object) => .node field (some object)

/-- What the child for the subject writes. -/
theorem reads_subjectNode (hle : cursor ≤ 12) :
    ∃ c ≤ 15, ∃ subject : Option (String × ParsedNode),
      ReadsRequest R searchNs parent cursor (subjectNode encrypted lassoDump request).toList
        (subjectStores subject) c ∧
      (∀ part ∈ subject, part.1 ∈ ["NameID", "EncryptedID"]) ∧
      (subject.isSome ↔ request.HasSubject) := by
  unfold subjectNode HasSubject
  cases request.baseId with
  | some baseId => exact ⟨15, by omega, none, reads_baseId lassoDump R searchNs baseId hle, by simp,
      by simp⟩
  | none =>
    cases request.nameId with
    | some nameId =>
      obtain ⟨object, hreads⟩ := reads_nameId lassoDump R searchNs nameId hle
      exact ⟨15, by omega, some ("NameID", object), hreads, by simp, by simp⟩
    | none =>
      cases request.encryptedId with
      | some element =>
        obtain ⟨object, hreads⟩ := reads_encryptedId lassoDump R searchNs (encrypted element) hle
        exact ⟨15, by omega, some ("EncryptedID", object), hreads, by simp, by simp⟩
      | none => exact ⟨cursor, by omega, none, .nil, by simp, by simp⟩

/-! ### The session indexes -/

theorem reads_sessionIndexNode (sessionIndex : String)
    (hns : parent.ns = some saml2ProtocolHref) (hle : cursor ≤ 15) :
    ReadsRequest R searchNs parent cursor [sessionIndexNode sessionIndex]
      [.content "SessionIndex" sessionIndex] 16 := by
  have hi : logoutRequestClass.snippets[15]? = some sessionIndexSnippet := rfl
  exact .textChild hns hi rfl rfl (by decide) (.inl rfl) rfl rfl sessionIndex hle

/-- The other elements are taken, and not stored. -/
theorem reads_otherSessionIndexNodes (sessionIndexes : List String)
    (hns : parent.ns = some saml2ProtocolHref) :
    ReadsRequest R searchNs parent 16 (sessionIndexNodes sessionIndexes) [] 16 := by
  induction sessionIndexes with
  | nil => exact .nil
  | cons sessionIndex sessionIndexes ih =>
    have hi : logoutRequestClass.snippets[16]? = some otherSessionIndexSnippet := rfl
    have hfound : findSnippet logoutRequestClass.snippets parent (sessionIndexNode sessionIndex)
        (logoutRequestClass.snippets.length + 1) 16 = .found otherSessionIndexSnippet 16 :=
      findSnippet_first hi (Nat.le_refl _) rfl (fun j other hle hlt => absurd hle (by omega))
        (nodeMatchSnippet_of_parent hns rfl rfl rfl) (by decide)
    have helement : ReadsRequest R searchNs parent 16 [sessionIndexNode sessionIndex] [] 16 :=
      .element (by decide) rfl hfound fun path => storeMatched_none rfl
    exact (helement.append (.text (by decide) "\n")).append ih

theorem reads_sessionIndexNodes (sessionIndexes : List String)
    (hns : parent.ns = some saml2ProtocolHref) (hle : cursor ≤ 15) :
    ∃ c, ReadsRequest R searchNs parent cursor (sessionIndexNodes sessionIndexes)
      (sessionIndexes.head?.toList.map (.content "SessionIndex")) c := by
  cases sessionIndexes with
  | nil => exact ⟨cursor, .nil⟩
  | cons sessionIndex sessionIndexes =>
    have hfirst := reads_sessionIndexNode R searchNs sessionIndex hns hle
    have hfeed : ReadsRequest R searchNs parent 16 [.text "\n"] [] 16 := .text (by decide) "\n"
    exact ⟨16, (hfirst.append hfeed).append
      (reads_otherSessionIndexNodes R searchNs sessionIndexes hns)⟩

theorem reads_lineFeeds {lead : List XmlNode} (hlead : ∀ node ∈ lead, node = .text "\n")
    (hle : cursor ≤ 15) : ReadsRequest R searchNs parent cursor lead [] cursor := by
  induction lead with
  | nil => exact .nil
  | cons node lead ih =>
    obtain ⟨rfl, hrest⟩ := List.forall_mem_cons.mp hlead
    have hlive : cursor < logoutRequestClass.snippets.length := Nat.lt_of_le_of_lt hle (by decide)
    exact (ReadsNodes.text hlive "\n").append (ih hrest)

/-- The children before the session indexes are taken. -/
theorem reads_leadingNodes (hns : parent.ns = some saml2ProtocolHref) :
    ∃ c ≤ 15, ∃ front subject,
      ReadsRequest R searchNs parent 0 (leadingNodes encrypted lassoDump request)
        (front ++ subjectStores subject) c ∧
      (∀ store ∈ front, Apart store) ∧
      (∀ part ∈ subject, part.1 ∈ ["NameID", "EncryptedID"]) ∧
      (subject.isSome ↔ request.HasSubject) := by
  obtain ⟨c₁, h₁, issuer, hissuer, hreads₁⟩ :=
    @reads_issuerNodes lassoDump request R searchNs parent
  obtain ⟨c₂, h₂, signature, hsignature, hreads₂⟩ :=
    @reads_signatureTemplate c₁ request R searchNs parent h₁
  obtain ⟨c₃, h₃, extensions, hextensions, hreads₃⟩ :=
    reads_extensionsNodes request R searchNs hns h₂
  have hkeyFile : logoutRequestClass.snippets[10]? = some privateKeyFileSnippet := rfl
  have hcertificate : logoutRequestClass.snippets[11]? = some certificateFileSnippet := rfl
  obtain ⟨c₄, h₄, keyFile, hkeyFile, hreads₄⟩ := reads_dumpNodes lassoDump R searchNs
    request.privateKeyFile hns hkeyFile rfl (by decide) rfl rfl rfl rfl (by decide) h₃
  obtain ⟨c₅, h₅, certificate, hcertificate, hreads₅⟩ := reads_dumpNodes lassoDump R searchNs
    request.certificateFile hns hcertificate rfl (by decide) rfl rfl rfl rfl (by decide) h₄
  obtain ⟨c₆, h₆, subject, hreads₆, hfields, hsubject⟩ :=
    reads_subjectNode encrypted lassoDump request R searchNs h₅
  have hreads := hreads₁.append (hreads₂.append (hreads₃.append (hreads₄.append
    (hreads₅.append hreads₆))))
  refine ⟨c₆, h₆, issuer ++ (signature ++ (extensions ++ (keyFile ++ certificate))), subject, ?_,
    ?_, hfields, hsubject⟩
  · simp only [List.append_assoc]
    exact hreads
  · simp only [List.forall_mem_append]
    exact ⟨hissuer, hsignature, hextensions, hkeyFile, hcertificate⟩

/-- All children of a request are taken. -/
theorem reads_children {lead : List XmlNode} (hlead : ∀ node ∈ lead, node = .text "\n")
    (sessionIndexes : List String) (hns : parent.ns = some saml2ProtocolHref) :
    ∃ c front subject,
      ReadsRequest R searchNs parent 0
        (leadingNodes encrypted lassoDump request ++ (lead ++ sessionIndexNodes sessionIndexes))
        (front ++ (subjectStores subject ++
          sessionIndexes.head?.toList.map (.content "SessionIndex"))) c ∧
      (∀ store ∈ front, Apart store) ∧
      (∀ part ∈ subject, part.1 ∈ ["NameID", "EncryptedID"]) ∧
      (subject.isSome ↔ request.HasSubject) := by
  obtain ⟨c, hc, front, subject, hreads, hfront, hfields, hsubject⟩ :=
    reads_leadingNodes encrypted lassoDump request R searchNs hns
  obtain ⟨c', hindexes⟩ := reads_sessionIndexNodes R searchNs sessionIndexes hns hc
  have hall := hreads.append ((reads_lineFeeds R searchNs hlead hc).append hindexes)
  rw [List.nil_append, List.append_assoc] at hall
  exact ⟨c', front, subject, hall, hfront, hfields, hsubject⟩

end Reading

/-! ### The walk over the siblings -/

theorem elementName_applyNs {snippet : Snippet} {node : XmlNode} (hany : snippet.any = false)
    (hempty : snippet.name ≠ "") {name : String} (hname : snippet.name ≠ name) :
    (snippet.applyNs node).elementName ≠ some name := by
  cases node <;> simp [Snippet.applyNs, XmlNode.elementName, hany, hempty, hname]

/-- The children before the session indexes have other names. -/
theorem elementName_before {node : XmlNode}
    (h : node ∈ leadingNodes encrypted lassoDump request) :
    node.elementName ≠ some "SessionIndex" := by
  have hdump : ∀ {name text}, name ≠ "SessionIndex" → node ∈ dumpNodes lassoDump name text →
      node.elementName ≠ some "SessionIndex" := by
    intro name text hname hnode
    unfold dumpNodes at hnode
    split_ifs at hnode
    · obtain ⟨value, -, rfl⟩ := List.mem_map.mp hnode
      simpa [newTextChild, XmlNode.elementName] using hname
    · cases hnode
  simp only [leadingNodes, List.mem_append] at h
  rcases h with h | h | h | h | h | h
  · obtain ⟨node, -, rfl⟩ := List.mem_map.mp h
    exact elementName_applyNs rfl (by decide) (by decide)
  · obtain ⟨children, -, rfl⟩ := List.mem_map.mp h
    simp [XmlNode.elementName]
  · obtain ⟨node, -, rfl⟩ := List.mem_map.mp h
    exact elementName_applyNs rfl (by decide) (by decide)
  · exact hdump (by decide) h
  · exact hdump (by decide) h
  · rw [Option.mem_toList] at h
    unfold subjectNode at h
    split at h
    · cases h
      exact elementName_applyNs rfl (by decide) (by decide)
    · cases h
      exact elementName_applyNs rfl (by decide) (by decide)
    · cases h
      exact elementName_applyNs rfl (by decide) (by decide)
    · cases h

theorem filter_sessionIndexNodes (sessionIndexes : List String) :
    (sessionIndexNodes sessionIndexes).filter (·.isElement) =
      sessionIndexes.map sessionIndexNode := by
  induction sessionIndexes with
  | nil => rfl
  | cons sessionIndex sessionIndexes ih => exact congrArg (sessionIndexNode sessionIndex :: ·) ih

/-- The walk comes to the elements for the session indexes, and to no others. -/
theorem sessionIndexElements_eq {xmlnode : XmlNode} {before lead : List XmlNode}
    {sessionIndexes : List String}
    (hchildren : xmlnode.children = before ++ (lead ++ sessionIndexNodes sessionIndexes))
    (hbefore : ∀ node ∈ before, node.elementName ≠ some "SessionIndex")
    (hlead : ∀ node ∈ lead, node = .text "\n") :
    sessionIndexElements xmlnode = sessionIndexes.map sessionIndexNode := by
  have hfeeds : lead.filter (·.isElement) = [] := by
    rw [List.filter_eq_nil_iff]
    intro node hnode
    rw [hlead node hnode]
    decide
  have hpassed : ∀ node ∈ before.filter (·.isElement),
      (!node.isElementNode "SessionIndex" saml2ProtocolHref) = true := by
    intro node hnode
    rw [Bool.not_eq_true', Bool.eq_false_iff]
    intro hname
    obtain ⟨attrs, children, rfl⟩ := XmlNode.isElementNode_iff.mp hname
    exact hbefore _ (List.mem_of_mem_filter hnode) rfl
  unfold sessionIndexElements
  rw [hchildren, List.filter_append, List.filter_append, hfeeds, List.nil_append,
    filter_sessionIndexNodes, List.dropWhile_append_of_pos hpassed]
  have hall : ∀ node ∈ sessionIndexes.map sessionIndexNode,
      node.isElementNode "SessionIndex" saml2ProtocolHref = true := by
    rw [List.forall_mem_map]
    exact fun sessionIndex _ => rfl
  have hdrop : (sessionIndexes.map sessionIndexNode).dropWhile
      (fun child => !child.isElementNode "SessionIndex" saml2ProtocolHref) =
        sessionIndexes.map sessionIndexNode := by
    cases sessionIndexes <;> rfl
  rw [hdrop, List.takeWhile_eq_self_iff]
  exact hall

end LogoutRequestObject

end Lasso
