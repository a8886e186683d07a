import Lasso.IdFf.LogoutRequestQuery
import Lasso.Xml.ReadMembers
import Lasso.Xml.SnippetCursor

/-!
# ID-FF 1.2 logout requests in elements

A LogoutRequest is made into an element and read from it. All session indexes are in the element,
which knows no defaults.

## Main definitions

* `LibLogoutRequestRegistry` — a registry with the classes in a request.
* `LibLogoutRequestObject.newFromXml` — a new request that is filled in from an element.

## Main results

* `LibLogoutRequestObject.newFromXml_getXmlNode` — the request that comes back.
-/

namespace Lasso.IdFf

open NodeObject

/-! ## Attributes with texts -/

/-- Attributes for texts, under their names. -/
def textAttributes (texts : List (String × Option String)) : List XmlAttr :=
  texts.filterMap fun part => part.2.map fun value => { name := part.1, value }

/-- What such attributes write. -/
def textStores (texts : List (String × Option String)) : List Store :=
  texts.filterMap fun part => part.2.map (.content part.1)

section Texts

variable {texts : List (String × Option String)}

theorem ns_of_mem_textAttributes {attr : XmlAttr} (h : attr ∈ textAttributes texts) :
    attr.ns = none := by
  obtain ⟨part, -, hattr⟩ := List.mem_filterMap.mp h
  obtain ⟨value, -, rfl⟩ := Option.map_eq_some_iff.mp hattr
  rfl

theorem names_textAttributes (h : (texts.map (·.1)).Nodup) :
    (textAttributes texts).Pairwise fun attr attr' => attr.name ≠ attr'.name := by
  refine (List.pairwise_map.mp h).filterMap _ ?_
  intro part part' hne attr hattr attr' hattr'
  obtain ⟨value, -, rfl⟩ := Option.map_eq_some_iff.mp hattr
  obtain ⟨value', -, rfl⟩ := Option.map_eq_some_iff.mp hattr'
  exact hne

theorem flatMap_attributeStores {cls : LassoNodeClass} {node : XmlNode}
    (h : ∀ part ∈ texts, ∀ value,
      attributeStores cls node { name := part.1, value } = [.content part.1 value]) :
    (textAttributes texts).flatMap (attributeStores cls node) = textStores texts := by
  induction texts with
  | nil => rfl
  | cons part texts ih =>
    obtain ⟨hpart, htexts⟩ := List.forall_mem_cons.mp h
    unfold textAttributes textStores at ih ⊢
    cases hvalue : part.2 with
    | none => simp [hvalue, ih htexts]
    | some value => simp [hvalue, ih htexts, hpart]

theorem contents_textStores (field : String) :
    (textStores texts).filterMap (Store.contentOf field) =
      texts.flatMap fun part => if part.1 = field then part.2.toList else [] := by
  rw [textStores, List.filterMap_filterMap, List.filterMap_eq_flatMap_toList]
  refine List.flatMap_congr fun part _ => ?_
  by_cases hname : part.1 = field
  · cases part.2 <;> simp [Store.contentOf, hname]
  · cases part.2 <;> simp [Store.contentOf, hname]

theorem nsName_of_mem_zip {cls : LassoNodeClass} {values : List (MemberValue XmlNode)}
    (h : ∀ snippet ∈ cls.snippets, snippet.kind = .attribute → snippet.nsName = none) :
    ∀ part ∈ cls.snippets.zip values, part.1.kind = .attribute → part.1.nsName = none :=
  fun part hpart => h part.1 (List.of_mem_zip hpart).1

/-- The element of an object, from what its snippets lead to. -/
theorem buildXmlNode_of_written {cls : WritableClass}
    {members : List (String × MemberValue XmlNode)}
    {written : List (Snippet × MemberValue XmlNode)} (hsub : cls.data.xsiSubType = false)
    (hwritten : cls.written false (List.lookup · members) = written)
    (hattrs : snippetAttributes cls.nsDef written = textAttributes texts)
    (hnames : (texts.map (·.1)).Nodup) :
    buildXmlNode false cls members =
      (XmlNode.element cls.nameData.ns cls.nameData.nodeName (textAttributes texts)
        (written.flatMap fun part => snippetChildren cls.nameData.ns part.1 part.2)).rewriteLiberty
          (cls.isLiberty11 (List.lookup · members)) := by
  have hxsi : cls.xsiType = [] := by simp [WritableClass.xsiType, hsub]
  have hdistinct : (textAttributes texts).Pairwise fun attr attr' =>
      attr.name = attr'.name → attr.ns ≠ attr'.ns :=
    (names_textAttributes hnames).imp fun hne heq => absurd heq hne
  unfold buildXmlNode
  dsimp only
  rw [hwritten, hattrs, hxsi, foldl_setNsProp hdistinct, List.nil_append]

end Texts

/-! ## The NameIdentifier -/

namespace NameIdentifierObject

variable (nameIdentifier : NameIdentifierObject)

def attributeTexts : List (String × Option String) := [
  ("NameQualifier", nameIdentifier.nameQualifier.map String.ofList),
  ("Format", nameIdentifier.format.map String.ofList)]

/-- The element of a NameIdentifier. -/
def element : XmlNode :=
  .element (some samlAssertionHref) "NameIdentifier" (textAttributes nameIdentifier.attributeTexts)
    ((nameIdentifier.content.map String.ofList).toList.map .text)

/-- What the snippets of the class lead to, in their order. -/
def written : List (Snippet × MemberValue XmlNode) :=
  samlNameIdentifierClass.snippets.zip [
    .string (nameIdentifier.nameQualifier.map String.ofList),
    .string (nameIdentifier.format.map String.ofList),
    .string (nameIdentifier.content.map String.ofList)]

theorem attributes_eq :
    snippetAttributes samlNameIdentifierClass.nsDef nameIdentifier.written =
      textAttributes nameIdentifier.attributeTexts := by
  rw [written, snippetAttributes_eq_filterMap _ (nsName_of_mem_zip (by decide)), textAttributes,
    List.filterMap_eq_flatMap_toList, List.filterMap_eq_flatMap_toList]
  simp [samlNameIdentifierClass, LassoNodeClass.snippets, LassoNodeClass.classList,
    samlNameIdentifierData, namedAttribute, Snippet.text, attributeTexts]

theorem getXmlNode_eq : nameIdentifier.toNode.getXmlNode false = nameIdentifier.element := by
  have hbuild := @buildXmlNode_of_written nameIdentifier.attributeTexts samlNameIdentifierClass
    (nameIdentifier.toNode.members.map fun member => (member.1, member.2.map (getXmlNode false)))
    nameIdentifier.written rfl rfl nameIdentifier.attributes_eq (by simp [attributeTexts])
  have hchildren : nameIdentifier.written.flatMap (fun part =>
      snippetChildren samlNameIdentifierClass.nameData.ns part.1 part.2) =
        (nameIdentifier.content.map String.ofList).toList.map .text := by
    simp [written, samlNameIdentifierClass, LassoNodeClass.snippets, LassoNodeClass.classList,
      samlNameIdentifierData, namedAttribute, Snippet.text, snippetChildren]
  rw [getXmlNode, toNode, fold_mk]
  refine hbuild.trans ?_
  rw [hchildren]
  exact XmlNode.rewriteLiberty_false _

end NameIdentifierObject

namespace LibLogoutRequestObject

variable (request : LibLogoutRequestObject)

/-- What the snippets of the class lead to, in their order. -/
def written : List (Snippet × MemberValue XmlNode) :=
  libLogoutRequestClass.snippets.zip [
    .strings (request.respondWith.map String.ofList),
    .string (request.requestId.map String.ofList),
    .string (request.requestId.map String.ofList),
    .integer request.majorVersion,
    .integer request.minorVersion,
    .string (request.issueInstant.map String.ofList),
    .xmlNodes request.extension,
    .string (request.providerId.map String.ofList),
    .node (request.nameIdentifier.map (·.element)),
    .string (request.sessionIndex.map String.ofList),
    .strings (request.otherSessionIndexes.map String.ofList),
    .string (request.relayState.map String.ofList),
    .string (request.consent.map String.ofList),
    .string (request.notOnOrAfter.map String.ofList)]

/-- The members, with the element of the NameIdentifier. -/
def xmlMembers : List (String × MemberValue XmlNode) :=
  request.toNode.members.map fun member => (member.1, member.2.map (getXmlNode false))

theorem written_eq :
    libLogoutRequestClass.written false (List.lookup · request.xmlMembers) = request.written := by
  have hname : MemberValue.map (getXmlNode false) (.node (request.nameIdentifier.map (·.toNode))) =
      .node (request.nameIdentifier.map (·.element)) := by
    simp [MemberValue.map, Function.comp_def, NameIdentifierObject.getXmlNode_eq]
  unfold written
  rw [← hname]
  rfl

def attributeTexts : List (String × Option String) := [
  ("RequestID", request.requestId.map String.ofList),
  ("MajorVersion", some (toString request.majorVersion)),
  ("MinorVersion", some (toString request.minorVersion)),
  ("IssueInstant", request.issueInstant.map String.ofList),
  ("consent", request.consent.map String.ofList),
  ("NotOnOrAfter", request.notOnOrAfter.map String.ofList)]

theorem attributes_eq :
    snippetAttributes libLogoutRequestClass.nsDef request.written =
      textAttributes request.attributeTexts := by
  rw [written, snippetAttributes_eq_filterMap _ (nsName_of_mem_zip (by decide)), textAttributes,
    List.filterMap_eq_flatMap_toList, List.filterMap_eq_flatMap_toList]
  simp [libLogoutRequestClass, LassoNodeClass.snippets, LassoNodeClass.classList,
    libLogoutRequestData, samlpRequestAbstractData, contentSnippet, namedAttribute, Snippet.text,
    attributeTexts]

/-- The children of the element. -/
def children : List XmlNode :=
  (request.respondWith.map String.ofList).map (newTextChild (some libHref) "RespondWith") ++
    (request.extension ++
      ((request.providerId.map String.ofList).toList.map
          (newTextChild (some libHref) "ProviderID") ++
        (request.nameIdentifier.toList.map (·.element) ++
          ((request.getSessionIndexes.map String.ofList).map
              (newTextChild (some libHref) "SessionIndex") ++
            (request.relayState.map String.ofList).toList.map
              (newTextChild (some libHref) "RelayState")))))

theorem children_eq :
    request.written.flatMap (fun part => snippetChildren (some libHref) part.1 part.2) =
      request.children := by
  simp [written, libLogoutRequestClass, LassoNodeClass.snippets, LassoNodeClass.classList,
    libLogoutRequestData, samlpRequestAbstractData, contentSnippet, namedAttribute, Snippet.text,
    snippetChildren, children, getSessionIndexes, Snippet.applyNs, newTextChild, Function.comp_def,
    NameIdentifierObject.element, Option.toList_map]

/-- The element of a request, if it is not one of ID-FF 1.1. -/
def element : XmlNode :=
  .element (some libHref) "LogoutRequest" (textAttributes request.attributeTexts) request.children

/-- Version 1.0 is for ID-FF 1.1. -/
theorem isLiberty11_eq :
    libLogoutRequestClass.isLiberty11 (List.lookup · request.xmlMembers) =
      decide (request.majorVersion = 1 ∧ request.minorVersion = 0) := by
  have hmajor : libLogoutRequestClass.versionPart (List.lookup · request.xmlMembers)
      "MajorVersion" = some (some request.majorVersion) := rfl
  have hminor : libLogoutRequestClass.versionPart (List.lookup · request.xmlMembers)
      "MinorVersion" = some (some request.minorVersion) := rfl
  have hns : libLogoutRequestClass.nameData.ns = some libHref := rfl
  rw [WritableClass.isLiberty11, hmajor, hminor, hns, Bool.eq_iff_iff]
  simp

theorem getXmlNode_eq :
    request.toNode.getXmlNode false = request.element.rewriteLiberty
      (decide (request.majorVersion = 1 ∧ request.minorVersion = 0)) := by
  have hbuild := @buildXmlNode_of_written request.attributeTexts libLogoutRequestClass
    request.xmlMembers request.written rfl request.written_eq request.attributes_eq
    (by simp [attributeTexts])
  rw [isLiberty11_eq] at hbuild
  rw [getXmlNode, toNode, fold_mk]
  refine hbuild.trans ?_
  have hchildren := request.children_eq
  rw [element, ← hchildren]
  rfl

end LibLogoutRequestObject

/-! ## Reading the element -/

/-- A registry with the class of a NameIdentifier. There are no mappings for its element, and none
for the element of ID-FF 1.1. -/
structure LibLogoutRequestRegistry extends Registry where
  types_nameIdentifier :
    types "LassoSamlNameIdentifier" = some samlNameIdentifierClass.toLassoNodeClass
  mapping_nameIdentifier : mapping samlAssertionHref "NameIdentifier" = none
  mapping_liberty11 : mapping liberty11Href "LogoutRequest" = none

section Reading

variable (R : LibLogoutRequestRegistry) (searchNs : NsScope)

theorem typename_nameIdentifier :
    typeNameFromHrefAndNodename R.toRegistry samlAssertionHref "NameIdentifier" =
      some "LassoSamlNameIdentifier" := by
  have hprefix : prefixFromHrefAndNodename R.toRegistry samlAssertionHref "NameIdentifier" =
    some "Saml" := rfl
  simp [typeNameFromHrefAndNodename, hprefix, R.mapping_nameIdentifier, R.types_nameIdentifier]

namespace NameIdentifierObject

variable (nameIdentifier : NameIdentifierObject)

/-- What is read from the element of a NameIdentifier. The content of an element is a string, even
if there is none. -/
def parsed : ParsedNode :=
  .mk "LassoSamlNameIdentifier"
    (.content "content" ((nameIdentifier.content.map String.ofList).getD "") ::
      textStores nameIdentifier.attributeTexts)

theorem read (path : List Nat) :
    newWithType R.toRegistry searchNs ⟨path, nameIdentifier.element⟩ none =
      .ok (some nameIdentifier.parsed) := by
  have hattrs : NoXsiType nameIdentifier.element.attrs :=
    noXsiType_of_ns fun attr => ns_of_mem_textAttributes
  have hchildren : initChildren samlNameIdentifierClass.snippets samlNameIdentifierClass.snippetAny
      nameIdentifier.element (nextNodeSnippet samlNameIdentifierClass.snippets 0)
      ((placeFrom path 0 nameIdentifier.element.children).map (·.result R.toRegistry searchNs)) =
        .ok (.ok []) := by
    unfold element XmlNode.children
    cases nameIdentifier.content <;> rfl
  have hclass : classFor R.toRegistry searchNs ⟨path, nameIdentifier.element⟩ none =
      some samlNameIdentifierClass.toLassoNodeClass :=
    classFor_of_name hattrs (typename_nameIdentifier R) R.types_nameIdentifier
  have hstores : nameIdentifier.element.attrs.flatMap
      (attributeStores samlNameIdentifierClass.toLassoNodeClass nameIdentifier.element) =
        textStores nameIdentifier.attributeTexts := by
    refine flatMap_attributeStores ?_
    simp only [attributeTexts, List.forall_mem_cons]
    exact ⟨fun _ => rfl, fun _ => rfl, nofun⟩
  have htext : textChildStores samlNameIdentifierClass.toLassoNodeClass nameIdentifier.element =
      [.content "content" ((nameIdentifier.content.map String.ofList).getD "")] := by
    have hcontent : nameIdentifier.element.textContent =
        (nameIdentifier.content.map String.ofList).getD "" := by
      cases hcontent : nameIdentifier.content <;>
        simp [element, hcontent, XmlNode.textContent, XmlNode.textContents]
    rw [← hcontent]
    rfl
  rw [newWithType_of_initChildren hclass rfl rfl (by decide) rfl hattrs hchildren, hstores, htext,
    List.append_nil]
  rfl

end NameIdentifierObject

namespace LibLogoutRequestObject

variable (request : LibLogoutRequestObject) {parent : XmlNode} {cursor : Nat}

/-- Children of a request that are read. -/
abbrev ReadsRequest (parent : XmlNode) (cursor : Nat) (nodes : List XmlNode) (stores : List Store)
    (cursor' : Nat) : Prop :=
  ReadsNodes R.toRegistry searchNs libLogoutRequestClass.snippets none parent cursor nodes stores
    cursor'

theorem reads_respondWith (texts : List String) (hns : parent.ns = some libHref) :
    ∃ c ≤ 0, ReadsRequest R searchNs parent 0
      (texts.map (newTextChild (some libHref) "RespondWith"))
      (texts.map (.content "RespondWith")) c := by
  have hi : libLogoutRequestClass.snippets[0]? =
    some { name := "RespondWith", kind := .listContent, field := some "RespondWith" } := rfl
  exact ReadsNodes.map (fun text _ c hc =>
    .textChild hns hi rfl rfl (by decide) (.inr rfl) rfl rfl text hc) (Nat.le_refl 0)

theorem reads_extension {nodes : List XmlNode} (hns : parent.ns = some libHref)
    (hnodes : ∀ node ∈ nodes, node.isElementNode "Extension" libHref = true) (hle : cursor ≤ 6) :
    ∃ c ≤ 6, ReadsRequest R searchNs parent cursor nodes (nodes.map (.xmlNode "Extension")) c := by
  have hi : libLogoutRequestClass.snippets[6]? =
    some { name := "Extension", kind := .extension, field := some "Extension" } := rfl
  have hreads := @ReadsNodes.map libLogoutRequestClass.snippets none parent cursor R.toRegistry
    searchNs XmlNode id (.xmlNode "Extension") 6 nodes
  rw [List.map_id] at hreads
  refine hreads (fun node hnode c hc => ?_) hle
  obtain ⟨attrs, children, rfl⟩ := XmlNode.isElementNode_iff.mp (hnodes node hnode)
  exact .named hi rfl rfl (by decide) rfl (nodeMatchSnippet_of_parent hns rfl rfl rfl)
    (fun path => storeMatched_extension rfl rfl) hc

theorem reads_providerId (text : Option String) (hns : parent.ns = some libHref)
    (hle : cursor ≤ 7) :
    ∃ c ≤ 8, ReadsRequest R searchNs parent cursor
      (text.toList.map (newTextChild (some libHref) "ProviderID"))
      (text.toList.map (.content "ProviderID")) c := by
  have hi : libLogoutRequestClass.snippets[7]? = some (contentSnippet "ProviderID") := rfl
  exact ReadsNodes.mapOption (fun text _ c hc =>
    .textChild hns hi rfl rfl (by decide) (.inl rfl) rfl rfl text hc) (by decide) hle

theorem reads_nameIdentifier (nameIdentifier : Option NameIdentifierObject) (hle : cursor ≤ 8) :
    ∃ c ≤ 9, ReadsRequest R searchNs parent cursor (nameIdentifier.toList.map (·.element))
      (nameIdentifier.toList.map fun nameIdentifier =>
        .node "NameIdentifier" (some nameIdentifier.parsed)) c := by
  have hi : libLogoutRequestClass.snippets[8]? =
    some { name := "NameIdentifier", kind := .node, field := some "NameIdentifier",
           nsName := some "saml", nsUri := some samlAssertionHref } := rfl
  refine ReadsNodes.mapOption (fun nameIdentifier _ c hc => ?_) (by decide) hle
  have hmatch : nodeMatchSnippet parent nameIdentifier.element
      { name := "NameIdentifier", kind := .node, field := some "NameIdentifier",
        nsName := some "saml", nsUri := some samlAssertionHref } = true := by
    simp [nodeMatchSnippet, NameIdentifierObject.element, XmlNode.elementName, XmlNode.ns]
  have hstored : ∀ path, storeMatched
      { name := "NameIdentifier", kind := .node, field := some "NameIdentifier",
        nsName := some "saml", nsUri := some samlAssertionHref }
      (PlacedNode.result R.toRegistry searchNs ⟨path, nameIdentifier.element⟩) =
        .ok ((some nameIdentifier.parsed).toList.map (.node "NameIdentifier" <| some ·)) :=
    fun path => storeMatched_node rfl rfl (nameIdentifier.read R searchNs path)
  exact .named hi rfl rfl (by decide) rfl hmatch hstored hc

/-- The first of the elements is for the public member, and the others for the private data. -/
theorem reads_sessionIndexes (texts : List String) (hns : parent.ns = some libHref)
    (hle : cursor ≤ 9) :
    ∃ c ≤ 10, ReadsRequest R searchNs parent cursor
      (texts.map (newTextChild (some libHref) "SessionIndex"))
      (texts.head?.toList.map (.content "SessionIndex") ++
        texts.tail.map (.content privateSessionIndexes)) c := by
  cases texts with
  | nil => exact ⟨cursor, by omega, .nil⟩
  | cons first others =>
    have hi : libLogoutRequestClass.snippets[9]? = some (contentSnippet "SessionIndex") := rfl
    have hi' : libLogoutRequestClass.snippets[10]? = some
      { name := "SessionIndex", kind := .listContent, field := some privateSessionIndexes } := rfl
    have hfirst : ReadsRequest R searchNs parent cursor
        [newTextChild (some libHref) "SessionIndex" first] [.content "SessionIndex" first] 10 :=
      .textChild hns hi rfl rfl (by decide) (.inl rfl) rfl rfl first hle
    have hothers : ReadsRequest R searchNs parent 10
        (others.map (newTextChild (some libHref) "SessionIndex"))
        (others.map (.content privateSessionIndexes)) 10 := by
      refine ReadsNodes.stay fun text _ => .element (by decide) rfl
        (findSnippet_first hi' (Nat.le_refl _) rfl (fun j other hle hlt => absurd hle (by omega))
          (nodeMatchSnippet_of_parent hns rfl rfl rfl) (by decide)) fun path => ?_
      rw [storeMatched_listContent rfl rfl, newTextChild, XmlNode.textContent_text]
    exact ⟨10, by omega, hfirst.append hothers⟩

theorem reads_relayState (text : Option String) (hns : parent.ns = some libHref)
    (hle : cursor ≤ 10) :
    ∃ c ≤ 14, ReadsRequest R searchNs parent cursor
      (text.toList.map (newTextChild (some libHref) "RelayState"))
      (text.toList.map (.content "RelayState")) c := by
  have hi : libLogoutRequestClass.snippets[11]? = some (contentSnippet "RelayState") := rfl
  exact ReadsNodes.mapOption (fun text _ c hc =>
    .textChild hns hi rfl rfl (by decide) (.inl rfl) rfl rfl text hc) (by decide : 11 ≤ 14)
    (by omega)

/-- What the children of the element write. -/
def childStores : List Store :=
  (request.respondWith.map String.ofList).map (.content "RespondWith") ++
    (request.extension.map (.xmlNode "Extension") ++
      ((request.providerId.map String.ofList).toList.map (.content "ProviderID") ++
        (request.nameIdentifier.toList.map (fun nameIdentifier =>
            .node "NameIdentifier" (some nameIdentifier.parsed)) ++
          ((request.getSessionIndexes.map String.ofList).head?.toList.map
                (.content "SessionIndex") ++
              (request.getSessionIndexes.map String.ofList).tail.map
                (.content privateSessionIndexes) ++
            (request.relayState.map String.ofList).toList.map (.content "RelayState")))))

/-- All children of a request are taken. -/
theorem reads_children (hns : parent.ns = some libHref)
    (hextension : ∀ node ∈ request.extension, node.isElementNode "Extension" libHref = true) :
    ∃ c, ReadsRequest R searchNs parent 0 request.children request.childStores c := by
  obtain ⟨c₁, h₁, hreads₁⟩ := reads_respondWith R searchNs
    (request.respondWith.map String.ofList) hns
  obtain ⟨c₂, h₂, hreads₂⟩ := reads_extension R searchNs hns hextension (by omega : c₁ ≤ 6)
  obtain ⟨c₃, h₃, hreads₃⟩ := reads_providerId R searchNs
    (request.providerId.map String.ofList) hns (by omega : c₂ ≤ 7)
  obtain ⟨c₄, h₄, hreads₄⟩ := @reads_nameIdentifier R searchNs parent c₃ request.nameIdentifier h₃
  obtain ⟨c₅, h₅, hreads₅⟩ := reads_sessionIndexes R searchNs
    (request.getSessionIndexes.map String.ofList) hns h₄
  obtain ⟨c₆, -, hreads₆⟩ := reads_relayState R searchNs
    (request.relayState.map String.ofList) hns h₅
  exact ⟨c₆, hreads₁.append (hreads₂.append (hreads₃.append (hreads₄.append
    (hreads₅.append hreads₆))))⟩

/-- What is written to a new request. -/
def stores : List Store := textStores request.attributeTexts ++ request.childStores

/-- The element of ID-FF 1.2 is read. -/
theorem run_element (path : List Nat)
    (hextension : ∀ node ∈ request.extension, node.isElementNode "Extension" libHref = true) :
    (ParseTask.mk libLogoutRequestClass.toLassoNodeClass ⟨path, request.element⟩).run R.toRegistry
      searchNs = .ok (.ok request.stores) := by
  have hattrs : NoXsiType request.element.attrs :=
    noXsiType_of_ns fun attr => ns_of_mem_textAttributes
  have hns : request.element.ns = some libHref := rfl
  obtain ⟨c, hreads⟩ := request.reads_children R searchNs hns hextension
  have hstores : request.element.attrs.flatMap
      (attributeStores libLogoutRequestClass.toLassoNodeClass request.element) =
        textStores request.attributeTexts := by
    refine flatMap_attributeStores ?_
    simp only [attributeTexts, List.forall_mem_cons]
    exact ⟨fun _ => rfl, fun _ => rfl, fun _ => rfl, fun _ => rfl, fun _ => rfl, fun _ => rfl,
      nofun⟩
  have himpl := @implInit_eq R.toRegistry searchNs libLogoutRequestClass.toLassoNodeClass
    libLogoutRequestData ⟨path, request.element⟩ [samlpRequestAbstractData] rfl (by decide) rfl
    hattrs
  have hread : initChildren libLogoutRequestClass.snippets libLogoutRequestClass.snippetAny
      request.element (nextNodeSnippet libLogoutRequestClass.snippets 0)
      ((PlacedNode.mk path request.element).children.map (·.result R.toRegistry searchNs)) =
        .ok (.ok request.childStores) := hreads.initChildren_eq path
  dsimp only at himpl
  rw [hstores, hread] at himpl
  exact himpl

/-- The element of ID-FF 1.1 is not. -/
theorem run_liberty11 (path : List Nat) :
    (ParseTask.mk libLogoutRequestClass.toLassoNodeClass
      ⟨path, request.element.rewriteLiberty true⟩).run R.toRegistry searchNs = .ok (.error 1) := by
  have hdata : libLogoutRequestClass.dataMismatch (request.element.rewriteLiberty true) = true :=
    rfl
  have hmismatch : libLogoutRequestClass.nameMismatch R.toRegistry
      (request.element.rewriteLiberty true) = true := by
    rw [← Bool.not_eq_false, LassoNodeClass.nameMismatch_eq_false, hdata]
    rintro (hmatch | ⟨href, name, hhref, hname, hmapping⟩)
    · cases hmatch
    · obtain rfl : liberty11Href = href := Option.some.inj hhref
      obtain rfl : "LogoutRequest" = name := Option.some.inj hname
      rw [R.mapping_liberty11] at hmapping
      cases hmapping
  have hrun : ∀ place, (ParseTask.mk libLogoutRequestClass.toLassoNodeClass place).run R.toRegistry
      searchNs = implInit R.toRegistry searchNs libLogoutRequestClass.toLassoNodeClass place
        (place.children.map (·.result R.toRegistry searchNs)) := fun _ => rfl
  have hchain : libLogoutRequestClass.chain = [libLogoutRequestData, samlpRequestAbstractData] :=
    rfl
  rw [hrun, implInit, hchain]
  dsimp only
  rw [if_pos hmismatch]
  rfl

/-! ### The members -/

end LibLogoutRequestObject

end Reading

/-- The nodes that are written to a member. -/
def xmlNodeOf (field : String) : Store → Option XmlNode
  | .xmlNode field' node => if field' = field then some node else none
  | _ => none

/-- The members of a NameIdentifier that was read. -/
def NameIdentifierObject.ofParsed (object : ParsedNode) : NameIdentifierObject where
  nameQualifier := (object.content "NameQualifier").map (·.toList)
  format := (object.content "Format").map (·.toList)
  content := (object.content "content").map (·.toList)

theorem NameIdentifierObject.ofParsed_parsed (nameIdentifier : NameIdentifierObject) :
    ofParsed nameIdentifier.parsed =
      { nameIdentifier with content := some (nameIdentifier.content.getD []) } := by
  obtain ⟨nameQualifier, format, content⟩ := nameIdentifier
  have hcontents : ∀ field, (parsed ⟨nameQualifier, format, content⟩).contents field =
      (if "content" = field then [(content.map String.ofList).getD ""] else []) ++
        (attributeTexts ⟨nameQualifier, format, content⟩).flatMap fun part =>
          if part.1 = field then part.2.toList else [] := by
    intro field
    rw [parsed, ParsedNode.contents, ParsedNode.stores, List.filterMap_cons, contents_textStores]
    by_cases hname : "content" = field <;> simp [Store.contentOf, hname]
  unfold ofParsed
  simp only [ParsedNode.content_eq_getLast?, hcontents, attributeTexts]
  cases nameQualifier <;> cases format <;> cases content <;> simp

namespace LibLogoutRequestObject

/-- The members of a request that was read. -/
def ofParsed (object : ParsedNode) : LibLogoutRequestObject where
  respondWith := (object.contents "RespondWith").map (·.toList)
  requestId := (object.content "RequestID").map (·.toList)
  majorVersion := ((object.content "MajorVersion").map (readInteger false)).getD 0
  minorVersion := ((object.content "MinorVersion").map (readInteger false)).getD 0
  issueInstant := (object.content "IssueInstant").map (·.toList)
  extension := object.stores.filterMap (xmlNodeOf "Extension")
  providerId := (object.content "ProviderID").map (·.toList)
  nameIdentifier := (object.subnode "NameIdentifier").map NameIdentifierObject.ofParsed
  sessionIndex := (object.content "SessionIndex").map (·.toList)
  otherSessionIndexes := (object.contents privateSessionIndexes).map (·.toList)
  relayState := (object.content "RelayState").map (·.toList)
  consent := (object.content "consent").map (·.toList)
  notOnOrAfter := (object.content "NotOnOrAfter").map (·.toList)

variable (request : LibLogoutRequestObject)

/-- The texts that are written to a member. -/
theorem contents_stores (field : String) :
    request.stores.filterMap (Store.contentOf field) =
      (request.attributeTexts.flatMap fun part => if part.1 = field then part.2.toList else []) ++
        ((if "RespondWith" = field then request.respondWith.map String.ofList else []) ++
          ((if "ProviderID" = field then (request.providerId.map String.ofList).toList else []) ++
            ((if "SessionIndex" = field then
                (request.getSessionIndexes.map String.ofList).head?.toList else []) ++
              (if privateSessionIndexes = field then
                (request.getSessionIndexes.map String.ofList).tail else []) ++
              (if "RelayState" = field then (request.relayState.map String.ofList).toList
                else [])))) := by
  have hextension : (request.extension.map (Store.xmlNode "Extension")).filterMap
      (Store.contentOf field) = [] :=
    List.filterMap_eq_nil_iff.mpr (List.forall_mem_map.mpr fun _ _ => rfl)
  have hname : (request.nameIdentifier.toList.map fun nameIdentifier =>
      Store.node "NameIdentifier" (some nameIdentifier.parsed)).filterMap
        (Store.contentOf field) = [] :=
    List.filterMap_eq_nil_iff.mpr (List.forall_mem_map.mpr fun _ _ => rfl)
  rw [stores, childStores, List.filterMap_append, contents_textStores]
  simp only [List.filterMap_append, filterMap_contentOf, hextension, hname, List.nil_append]

/-- Only the extensions and the NameIdentifier are not written as texts. -/
theorem filterMap_stores {α : Type} {f : Store → Option α}
    (h : ∀ field text, f (.content field text) = none) :
    request.stores.filterMap f =
      (request.extension.map (.xmlNode "Extension")).filterMap f ++
        (request.nameIdentifier.toList.map fun nameIdentifier =>
          .node "NameIdentifier" (some nameIdentifier.parsed)).filterMap f := by
  have hmap : ∀ field (texts : List String), (texts.map (Store.content field)).filterMap f = [] :=
    fun field texts => List.filterMap_eq_nil_iff.mpr (List.forall_mem_map.mpr fun _ _ => h field _)
  have htexts : (textStores request.attributeTexts).filterMap f = [] := by
    refine List.filterMap_eq_nil_iff.mpr fun store hstore => ?_
    obtain ⟨part, -, hpart⟩ := List.mem_filterMap.mp hstore
    obtain ⟨text, -, rfl⟩ := Option.map_eq_some_iff.mp hpart
    exact h _ _
  rw [stores, childStores]
  simp only [List.filterMap_append, hmap, htexts, List.nil_append, List.append_nil]

theorem nodes_stores : request.stores.filterMap (Store.nodeOf "NameIdentifier") =
    request.nameIdentifier.toList.map fun nameIdentifier => some nameIdentifier.parsed := by
  rw [filterMap_stores request fun _ _ => rfl]
  simp [Store.nodeOf, Function.comp_def]

theorem xmlNodes_stores : request.stores.filterMap (xmlNodeOf "Extension") = request.extension := by
  rw [filterMap_stores request fun _ _ => rfl]
  simp [xmlNodeOf, Function.comp_def]

/-- What the element of a request says. -/
def elementPart (request : LibLogoutRequestObject) : LibLogoutRequestObject :=
  { request.setSessionIndexes request.getSessionIndexes with
    majorVersion := max 0 request.majorVersion
    minorVersion := max 0 request.minorVersion
    nameIdentifier := request.nameIdentifier.map fun nameIdentifier =>
      { nameIdentifier with content := some (nameIdentifier.content.getD []) } }

theorem ofParsed_stores (h : request.WellFormed) (className : String) :
    ofParsed (.mk className request.stores) = request.elementPart := by
  have hcontents : ∀ field, (ParsedNode.mk className request.stores).contents field = _ :=
    request.contents_stores
  have hsubnode : (ParsedNode.mk className request.stores).subnode "NameIdentifier" =
      request.nameIdentifier.map (·.parsed) := by
    rw [ParsedNode.subnode_eq_getLast?, ParsedNode.stores, nodes_stores]
    cases request.nameIdentifier <;> rfl
  have hlast : ∀ text : Option String, text.toList.getLast? = text := by
    intro text
    cases text <;> rfl
  unfold ofParsed elementPart setSessionIndexes
  simp only [ParsedNode.content_eq_getLast?, hcontents, attributeTexts, hsubnode]
  simp [privateSessionIndexes, hlast, xmlNodes_stores, ParsedNode.stores, Function.comp_def,
    NameIdentifierObject.ofParsed_parsed]
  exact ⟨readInteger_toString_max h.majorVersion, readInteger_toString_max h.minorVersion⟩

/-- `lasso_node_init_from_xml` of a new request -/
def newFromXml (R : Registry) (searchNs : NsScope) (place : PlacedNode) :
    Option LibLogoutRequestObject :=
  match (ParseTask.mk libLogoutRequestClass.toLassoNodeClass place).run R searchNs with
  | .ok (.ok stores) => some (ofParsed (.mk libLogoutRequestClass.name stores))
  | _ => none

variable {request} (R : LibLogoutRequestRegistry) (searchNs : NsScope) (path : List Nat)

/-- What comes back from the element of a request. -/
theorem newFromXml_getXmlNode (h : request.WellFormed) :
    newFromXml R.toRegistry searchNs ⟨path, request.toNode.getXmlNode false⟩ =
      if request.majorVersion = 1 ∧ request.minorVersion = 0 then none
      else some request.elementPart := by
  rw [getXmlNode_eq]
  split_ifs with hversion
  · rw [decide_eq_true hversion, newFromXml, run_liberty11]
  · rw [decide_eq_false hversion, XmlNode.rewriteLiberty_false, newFromXml,
      run_element R searchNs request path h.extension]
    exact congrArg some (ofParsed_stores request h _)

/-! ## The two ways to send a request -/

theorem toNode_nameIdentifier_injective : Function.Injective NameIdentifierObject.toNode := by
  rintro ⟨nameQualifier, format, content⟩ ⟨nameQualifier', format', content'⟩ h
  simpa [NameIdentifierObject.toNode] using h

theorem toNode_injective : Function.Injective toNode := by
  intro request request' h
  cases request
  cases request'
  simp only [toNode, NodeObject.mk.injEq, true_and, List.cons.injEq, Prod.mk.injEq, textMember_inj,
    textsMember_inj, MemberValue.integer.injEq, MemberValue.xmlNodes.injEq,
    MemberValue.node.injEq, and_true,
    (Option.map_injective toNode_nameIdentifier_injective).eq_iff] at h
  simpa using h

/-- The query and the element of a request are read as the same request. -/
def ReadAlike (env : Env) (methods : QueryMethods) (R : Registry) (searchNs : NsScope)
    (path : List Nat) (request : LibLogoutRequestObject) : Prop :=
  ∃ query read, buildQuery methods request = .ok query ∧
    newFromQuery env methods query = .ok (true, read.toNode) ∧
    newFromXml R searchNs ⟨path, request.toNode.getXmlNode false⟩ = some read

/-- The request is one that the query has as a whole, and the element in a version that is read. -/
structure SameBothWays (request : LibLogoutRequestObject) : Prop where
  sessionIndexes : request.otherSessionIndexes = []
  format : (request.nameIdentifier.bind (·.format)).isSome
  respondWith : request.respondWith = []
  notOnOrAfter : request.notOnOrAfter = none
  extension : request.extension = []
  majorVersion : 0 ≤ request.majorVersion
  minorVersion : 0 ≤ request.minorVersion
  liberty12 : ¬ (request.majorVersion = 1 ∧ request.minorVersion = 0)

variable {env : Env} (methods : QueryMethods)
  {nameIdentifier : NameIdentifierObject}

/-- The two objects are compared member by member. -/
theorem queryPart_eq_elementPart_iff (hname : request.nameIdentifier = some nameIdentifier)
    (hcontent : nameIdentifier.content.isSome) :
    { request.queryPart with nameIdentifier := some (withFormat nameIdentifier) } =
        request.elementPart ↔
      request.otherSessionIndexes = [] ∧ nameIdentifier.format.isSome ∧ request.respondWith = [] ∧
        request.notOnOrAfter = none ∧ request.extension = [] ∧ 0 ≤ request.majorVersion ∧
        0 ≤ request.minorVersion := by
  obtain ⟨nameQualifier, format, content⟩ := nameIdentifier
  obtain ⟨text, rfl⟩ := Option.isSome_iff_exists.mp hcontent
  have hindexes : request.sessionIndex = request.getSessionIndexes.head? ∧
      request.getSessionIndexes.tail = [] ↔ request.otherSessionIndexes = [] := by
    unfold getSessionIndexes
    cases request.sessionIndex <;> cases request.otherSessionIndexes <;> simp
  have hversion : ∀ n : Int, n = max 0 n ↔ 0 ≤ n := by
    intro n
    omega
  have hformat : some (format.getD defaultFormat) = format ↔ format.isSome := by
    cases format <;> simp
  simp only [queryPart, withFormat, elementPart, setSessionIndexes, hname, mk.injEq]
  simp only [Option.map_some, Option.some.injEq, NameIdentifierObject.mk.injEq, Option.getD_some,
    hversion, hformat, true_and, and_true]
  constructor
  · rintro ⟨hrespondWith, hmajor, hminor, hextension, hformat, hfirst, htail, hnotOnOrAfter⟩
    exact ⟨hindexes.mp ⟨hfirst, htail.symm⟩, hformat, hrespondWith.symm, hnotOnOrAfter.symm,
      hextension.symm, hmajor, hminor⟩
  · rintro ⟨hothers, hformat, hrespondWith, hnotOnOrAfter, hextension, hmajor, hminor⟩
    obtain ⟨hfirst, htail⟩ := hindexes.mpr hothers
    exact ⟨hrespondWith.symm, hmajor, hminor, hextension.symm, hformat, hfirst, htail.symm,
      hnotOnOrAfter.symm⟩

theorem readAlike_iff_eq (henv : env.Unescapes) (h : request.WellFormed)
    (hprovider : request.providerId.isSome)
    (hname : request.nameIdentifier = some nameIdentifier)
    (hcontent : nameIdentifier.content.isSome) :
    ReadAlike env methods R.toRegistry searchNs path request ↔
      ¬ (request.majorVersion = 1 ∧ request.minorVersion = 0) ∧
        { request.queryPart with nameIdentifier := some (withFormat nameIdentifier) } =
          request.elementPart := by
  obtain ⟨query, hquery, hread⟩ :=
    @newFromQuery_eq methods request env henv h nameIdentifier hprovider hname hcontent
  unfold ReadAlike
  rw [newFromXml_getXmlNode R searchNs path h]
  constructor
  · rintro ⟨query', read, hquery', hread', hxml⟩
    obtain rfl := Except.ok.inj (hquery.symm.trans hquery')
    split_ifs at hxml with hversion
    obtain rfl := Option.some.inj hxml
    have heq := (Prod.mk.inj (Except.ok.inj (hread.symm.trans hread'))).2
    exact ⟨hversion, toNode_injective heq⟩
  · rintro ⟨hversion, heq⟩
    rw [if_neg hversion]
    exact ⟨query, _, hquery, heq ▸ hread, rfl⟩

/-- The classes of requests, without mappings. -/
def logoutRequestRegistry : LibLogoutRequestRegistry where
  types typename :=
    [libLogoutRequestClass, samlNameIdentifierClass].map (·.toLassoNodeClass) |>.find?
      (·.name == typename)
  mapping _ _ := none
  wsfPrefix _ _ := none
  types_name typename cls h := by simpa using List.find?_some h
  types_nameIdentifier := rfl
  mapping_nameIdentifier := rfl
  mapping_liberty11 := rfl

/-- A request for one session. -/
def sessionRequest : LibLogoutRequestObject where
  requestId := some "_1".toList
  majorVersion := 1
  minorVersion := 2
  providerId := some "https://sp/md?a=1&b".toList
  nameIdentifier := some { format := some "urn:f".toList, content := some "alice".toList }
  sessionIndex := some "s 1".toList
  relayState := some []

/-- A request for two sessions. -/
def sessionsRequest : LibLogoutRequestObject :=
  sessionRequest.setSessionIndexes ["s1".toList, "s2".toList]

end LibLogoutRequestObject

end Lasso.IdFf
