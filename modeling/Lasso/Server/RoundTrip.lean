import Lasso.Server.Dump

/-!
# Reading the dump of a server

What the members, the attributes and the Providers element of a dump become when they are read. A
provider is read again from the text of its metadata, so that nothing is left of what is set on it
otherwise but its role and its encryption mode.

## Main results

* `ProviderObject.ofXml_element` — a provider is read from its element.
* `ServerObject.newFromDump_dump` — a server is read from its dump.
-/

namespace Lasso

variable {R : Registry} {searchNs : NsScope}

theorem textClass_providerClass : Rows.TextClass providerClass where
  plain := ⟨by decide, by decide, by decide, by decide, by decide⟩
  kinds := by decide
  passedOver := by decide
  ns := by decide
  names := by decide
  fields := by decide
  subType := rfl
  liberty := by decide

theorem textClass_serverClass : Rows.TextClass serverClass where
  plain := ⟨by decide, by decide, by decide, by decide, by decide⟩
  kinds := by decide
  passedOver := by decide
  ns := by decide
  names := by decide
  fields := by decide
  subType := rfl
  liberty := by decide

theorem readRole_roleAttribute {role : Int} (hrole : role ≠ 0) {value : String}
    (h : roleAttribute role = some value) :
    readRole (some value) = if 0 ≤ role ∧ role ≤ 5 then .ok role else .error .nullPointer := by
  have htable : ∀ n < 17, n ≠ 0 → readRole (some (providerRoles.getD n "")) =
      if n ≤ 5 then .ok (n : Int) else .error .nullPointer := by
    decide
  unfold roleAttribute at h
  split_ifs at h with hrange
  obtain rfl := Option.some.inj h
  obtain ⟨n, rfl⟩ := Int.eq_ofNat_of_zero_le hrange.1
  rw [Int.toNat_natCast, htable n (by omega) (by omega)]
  by_cases hn : n ≤ 5
  · rw [if_pos hn, if_pos (by omega)]
  · rw [if_neg hn, if_neg (by omega)]

theorem readEncryptionMode_dumpName (mode : EncryptionMode) :
    readEncryptionMode (some mode.dumpName) = mode := by
  cases mode <;> decide

theorem readSignatureMethod_dumpName (method : SignatureMethod) :
    readSignatureMethod (some method.dumpName) =
      if method = .none then none else some method := by
  cases method <;> decide

namespace ProviderObject

variable {cx : ProviderContext} {p : ProviderObject}

/-- The attribute of the provider ID, which the snippets write. -/
def idAttributes (p : ProviderObject) : List XmlAttr :=
  p.providerId.toList.map fun value => { name := "ProviderID", value }

/-- The attribute of the role. -/
def roleAttributes (p : ProviderObject) : Option (List XmlAttr) :=
  if p.role = 0 then some []
  else (roleAttribute p.role).map fun value => [{ name := "ProviderRole", value }]

/-- The attributes, for those of the role. -/
def attributesWith (p : ProviderObject) (role : List XmlAttr) : List XmlAttr :=
  p.idAttributes ++ { name := "ProviderDumpVersion", value := "2" } :: role ++
    [{ name := "EncryptionMode", value := p.encryptionMode.dumpName }]

theorem dumpAttributes_eq (p : ProviderObject) :
    p.dumpAttributes p.idAttributes = p.roleAttributes.map p.attributesWith := by
  unfold dumpAttributes idAttributes roleAttributes
  by_cases hrole : p.role = 0
  · rw [if_pos hrole, if_pos hrole]
    unfold attributesWith idAttributes
    cases p.providerId <;> rfl
  · rw [if_neg hrole, if_neg hrole]
    unfold attributesWith idAttributes
    cases roleAttribute p.role with
    | none => cases p.providerId <;> rfl
    | some value => cases p.providerId <;> rfl

theorem textAttributes_eq (p : ProviderObject) :
    providerClass.snippets.filterMap (Rows.textAttribute p.texts) = p.idAttributes := by
  obtain ⟨role, publicKey, caCertChain, metadataFilename, providerId⟩ := p
  cases providerId <;> rfl

theorem getXmlNodeOf_eq {cls : WritableClass} (hcls : Rows.TextClass cls)
    (texts : List (String × Option String)) (p : ProviderObject)
    (hid : cls.snippets.filterMap (Rows.textAttribute texts) = p.idAttributes) :
    p.getXmlNodeOf cls texts = p.roleAttributes.map fun role =>
      .element cls.nameData.ns cls.nameData.nodeName (p.attributesWith role)
        ((Rows.rows (Rows.textValue texts) cls.snippets).map
          (Rows.rowElement Rows.noObjects cls.nameData.ns)) := by
  unfold getXmlNodeOf
  rw [hcls.buildXmlNode, hid]
  dsimp only
  rw [p.dumpAttributes_eq, Option.map_map]
  rfl

/-- What a dump keeps of a provider. -/
def kept (p : ProviderObject) : ProviderObject where
  role := p.role
  publicKey := p.publicKey
  caCertChain := p.caCertChain
  metadataFilename := p.metadataFilename
  providerId := p.providerId
  encryptionMode := p.encryptionMode

/-- The ID that the snippets read. -/
def idStores (p : ProviderObject) : List Store :=
  p.providerId.toList.map (.content "ProviderID")

theorem collectAttributes_attributesWith {path : List Nat} {ns : Option String} {name : String}
    {children : List XmlNode} (p : ProviderObject) {role : List XmlAttr}
    (hrole : p.roleAttributes = some role) :
    collectAttributes searchNs providerClass.toLassoNodeClass providerData path
      (.element ns name (p.attributesWith role) children) = .ok p.idStores := by
  unfold roleAttributes at hrole
  unfold attributesWith idAttributes idStores
  split_ifs at hrole
  · cases hrole
    cases p.providerId <;> rfl
  · obtain ⟨value, -, rfl⟩ := Option.map_eq_some_iff.mp hrole
    cases p.providerId <;> rfl

/-- A role that is in the table and has a name. -/
def NamedRole (p : ProviderObject) : Prop := 0 ≤ p.role ∧ p.role ≤ 5

/-- The role that is read, for the attributes it may have been written to. -/
theorem readRole_roleAttributes (p : ProviderObject) {role more : List XmlAttr}
    (ns : Option String) (name : String) (children : List XmlNode)
    (hrole : p.roleAttributes = some role)
    (hmore : more.find? (·.name == "ProviderRole") = none) :
    (p.NamedRole → readRole ((XmlNode.element ns name (p.attributesWith role ++ more)
      children).getProp "ProviderRole") = .ok p.role) ∧
    (¬ p.NamedRole → readRole ((XmlNode.element ns name (p.attributesWith role ++ more)
      children).getProp "ProviderRole") = .error .nullPointer) := by
  have hprop : (XmlNode.element ns name (p.attributesWith role ++ more) children).getProp
      "ProviderRole" = (role.find? (·.name == "ProviderRole")).map (·.value) := by
    unfold XmlNode.getProp XmlNode.attrs attributesWith idAttributes
    cases p.providerId <;> simp [List.find?_append, hmore]
  rw [hprop]
  unfold roleAttributes at hrole
  unfold NamedRole
  split_ifs at hrole with hzero
  · cases hrole
    rw [hzero]
    exact ⟨fun _ => rfl, fun h => absurd ⟨le_refl _, by omega⟩ h⟩
  · obtain ⟨value, hvalue, rfl⟩ := Option.map_eq_some_iff.mp hrole
    have hread := readRole_roleAttribute hzero hvalue
    exact ⟨fun h => hread.trans (if_pos h), fun h => hread.trans (if_neg h)⟩

/-- What `init_from_xml` makes of the members and attributes of a provider. -/
theorem initFromXml_eq (cx : ProviderContext) (isServer : Bool) {object : ParsedNode}
    (p : ProviderObject) {role more : List XmlAttr} (ns : Option String) (name : String)
    (children : List XmlNode) (hrole : p.roleAttributes = some role)
    (hmore : ∀ attr ∈ more, attr.name ≠ "ProviderRole" ∧ attr.name ≠ "EncryptionMode")
    (hpublicKey : object.content "public_key" = p.publicKey)
    (hcaCertChain : object.content "ca_cert_chain" = p.caCertChain)
    (hmetadata : object.content "metadata_filename" = p.metadataFilename)
    (hproviderId : object.content "ProviderID" = p.providerId) :
    (p.NamedRole → initFromXml cx isServer object
      (.element ns name (p.attributesWith role ++ more) children) =
        .ok (p.kept.reload cx isServer)) ∧
    (¬ p.NamedRole → initFromXml cx isServer object
      (.element ns name (p.attributesWith role ++ more) children) = .error .nullPointer) := by
  have hnone (other : String) (h : ∀ attr ∈ more, attr.name ≠ other) :
      more.find? (·.name == other) = none := by
    rw [List.find?_eq_none]
    simpa using h
  have hmode : (XmlNode.element ns name (p.attributesWith role ++ more) children).getProp
      "EncryptionMode" = some p.encryptionMode.dumpName := by
    have hother : role.find? (·.name == "EncryptionMode") = none := by
      unfold roleAttributes at hrole
      split_ifs at hrole
      · cases hrole
        rfl
      · obtain ⟨value, -, rfl⟩ := Option.map_eq_some_iff.mp hrole
        rfl
    unfold XmlNode.getProp XmlNode.attrs attributesWith idAttributes
    cases p.providerId <;> simp [List.find?_append, hother]
  obtain ⟨hnamed, hunnamed⟩ := p.readRole_roleAttributes ns name children hrole
    (hnone _ fun attr hattr => (hmore attr hattr).1)
  unfold initFromXml
  rw [hpublicKey, hcaCertChain, hmetadata, hproviderId, hmode, readEncryptionMode_dumpName]
  constructor
  · intro h
    rw [hnamed h]
    rfl
  · intro h
    rw [hunnamed h]
    rfl

theorem content_idStores (p : ProviderObject) (className field : String) :
    (ParsedNode.mk className p.idStores).content field =
      if field = "ProviderID" then p.providerId else none := by
  unfold idStores
  by_cases hfield : field = "ProviderID"
  · subst hfield
    cases p.providerId <;> rfl
  · rw [if_neg hfield]
    cases p.providerId with
    | none => rfl
    | some id =>
      simp [ParsedNode.content_eq_getLast?, ParsedNode.contents, ParsedNode.stores,
        Store.contentOf, Ne.symm hfield]

/-- The members that are read, for a class with the snippets of a provider. -/
theorem content_rows {cls : WritableClass} (hcls : Rows.TextClass cls)
    (hmem : ∀ snippet ∈ providerSnippets, snippet ∈ cls.snippets)
    {texts : List (String × Option String)}
    (htexts : ∀ snippet ∈ providerSnippets, Rows.textOf texts snippet = Rows.textOf p.texts snippet)
    (className : String) :
    let object := ParsedNode.mk className (p.idStores ++
      (Rows.rows (Rows.textValue texts) cls.snippets).flatMap (Rows.rowStores Rows.noObjects))
    object.content "public_key" = p.publicKey ∧ object.content "ca_cert_chain" = p.caCertChain ∧
      object.content "metadata_filename" = p.metadataFilename ∧
      object.content "ProviderID" = p.providerId := by
  have htext (snippet : Snippet) (field : String) (h : snippet ∈ providerSnippets)
      (hfield : snippet.field = some field) :
      (ParsedNode.mk className (p.idStores ++ (Rows.rows (Rows.textValue texts)
        cls.snippets).flatMap (Rows.rowStores Rows.noObjects))).content field =
          (if snippet.kind = .content then Rows.textOf p.texts snippet else none).or
            (if field = "ProviderID" then p.providerId else none) := by
    rw [hcls.content (hmem snippet h) hfield, htexts snippet h, p.content_idStores]
  refine ⟨?_, ?_, ?_, ?_⟩
  · rw [htext (Dump.content "PublicKeyFilePath" "public_key") _ (by decide) rfl]
    exact Option.or_none
  · rw [htext (Dump.content "CaCertChainFilePath" "ca_cert_chain") _ (by decide) rfl]
    exact Option.or_none
  · rw [htext (Dump.content "MetadataFilePath" "metadata_filename") _ (by decide) rfl]
    exact Option.or_none
  · rw [htext { name := "ProviderID", kind := .attribute, field := some "ProviderID" } _
      (by decide) rfl]
    rfl

/-- The element of a provider, for the attributes of its role. -/
def element (p : ProviderObject) (role : List XmlAttr) : XmlNode :=
  .element (some lassoHref) "Provider" (p.attributesWith role)
    ((Rows.rows (Rows.textValue p.texts) providerClass.snippets).map
      (Rows.rowElement Rows.noObjects (some lassoHref)))

theorem getXmlNode_eq (p : ProviderObject) : p.getXmlNode = p.roleAttributes.map p.element :=
  p.getXmlNodeOf_eq textClass_providerClass p.texts p.textAttributes_eq

/-- A provider that is read from its element. -/
theorem ofXml_element (p : ProviderObject) (R : Registry) (searchNs : NsScope)
    (cx : ProviderContext) {role : List XmlAttr} (hrole : p.roleAttributes = some role)
    (path : List Nat) :
    (p.NamedRole → ofXml R searchNs cx ⟨path, p.element role⟩ = .ok (p.kept.reload cx false)) ∧
      (¬ p.NamedRole →
        ofXml R searchNs cx ⟨path, p.element role⟩ = .error .nullPointer) := by
  have hfits : Rows.Fits Rows.noObjects R searchNs providerClass.snippets
    (Rows.textValue p.texts) := textClass_providerClass.fits
  have hstores : implStores R searchNs providerClass.toLassoNodeClass ⟨path, p.element role⟩ =
      .ok (p.idStores ++ (Rows.rows (Rows.textValue p.texts) providerClass.snippets).flatMap
        (Rows.rowStores Rows.noObjects)) := by
    unfold implStores
    dsimp only
    rw [hfits.implInit_rows rfl (by decide) rfl rfl (p.collectAttributes_attributesWith hrole) rfl]
  obtain ⟨hpublicKey, hcaCertChain, hmetadata, hproviderId⟩ :=
    p.content_rows textClass_providerClass (fun _ h => h) (fun _ _ => rfl) providerClass.name
  obtain ⟨hnamed, hunnamed⟩ := p.initFromXml_eq cx false (some lassoHref) "Provider" (p.element
    role).children hrole (List.forall_mem_nil _) hpublicKey hcaCertChain hmetadata hproviderId
  rw [List.append_nil] at hnamed hunnamed
  unfold ofXml
  rw [hstores]
  exact ⟨hnamed, hunnamed⟩

end ProviderObject

/-! ## The loop over the providers -/

namespace ServerObject

variable {cx : ServerContext}

/-- What a provider is after its dump was read. -/
def restart (cx : ServerContext) (p : ProviderObject) : Option ProviderObject :=
  (p.kept.reload cx.toProviderContext false).bind
    (·.loadPublicKey cx.toProviderContext .signing)

/-- The elements stand for the entries of a table. -/
abbrev Shows (places : List PlacedNode) (entries : List (String × ProviderObject)) : Prop :=
  List.Forall₂ (fun place entry => ∃ role, entry.2.roleAttributes = some role ∧
    place.node = entry.2.element role) places entries

/-- The provider can be dumped under its ID, and read again. -/
def Restarts (cx : ServerContext) (entry : String × ProviderObject) : Prop :=
  ∃ p, restart cx entry.2 = some p ∧ p.providerId = some entry.1

/-- Providers that are all read again are put into the table one after the other. -/
theorem insertProviders_eq {places : List PlacedNode} {entries : List (String × ProviderObject)}
    (h : Shows places entries) (hrestarts : ∀ entry ∈ entries, Restarts cx entry)
    (hnamed : ∀ entry ∈ entries, entry.2.NamedRole)
    (table : AList fun _ : String => ProviderObject) :
    insertProviders cx R searchNs places table =
      .ok (Tables.insertEntries table (entries.map fun entry =>
        (entry.1, (restart cx entry.2).getD entry.2))) := by
  induction h generalizing table with
  | nil => rfl
  | @cons place entry places entries hplace _ ih =>
    obtain ⟨⟨p, hp, hid⟩, hrestarts⟩ := List.forall_mem_cons.mp hrestarts
    obtain ⟨hrole, hnamed⟩ := List.forall_mem_cons.mp hnamed
    obtain ⟨role, hattributes, hnode⟩ := hplace
    obtain ⟨path, node⟩ := place
    dsimp only at hnode
    subst hnode
    have hread : ProviderObject.ofXml R searchNs cx.toProviderContext
        ⟨path, entry.2.element role⟩ = .ok (entry.2.kept.reload cx.toProviderContext false) :=
      (entry.2.ofXml_element R searchNs cx.toProviderContext hattributes path).1 hrole
    unfold restart at hp
    rw [insertProviders, hread]
    dsimp only [bind, Except.bind]
    rw [hp]
    dsimp only
    rw [hid]
    dsimp only
    rw [ih hrestarts hnamed, List.map_cons]
    have hp' : restart cx entry.2 = some p := hp
    rw [hp']
    rfl

/-- A role without a name stops the process. -/
theorem insertProviders_eq_error {places : List PlacedNode}
    {entries : List (String × ProviderObject)} (h : Shows places entries)
    (hrestarts : ∀ entry ∈ entries, Restarts cx entry)
    (hunnamed : ∃ entry ∈ entries, ¬ entry.2.NamedRole)
    (table : AList fun _ : String => ProviderObject) :
    insertProviders cx R searchNs places table = .error .nullPointer := by
  induction h generalizing table with
  | nil => simp at hunnamed
  | @cons place entry places entries hplace _ ih =>
    obtain ⟨⟨p, hp, hid⟩, hrestarts⟩ := List.forall_mem_cons.mp hrestarts
    obtain ⟨role, hattributes, hnode⟩ := hplace
    obtain ⟨path, node⟩ := place
    dsimp only at hnode
    subst hnode
    obtain ⟨hread, hcrash⟩ := entry.2.ofXml_element R searchNs cx.toProviderContext
      hattributes path
    rw [insertProviders]
    by_cases hrole : entry.2.NamedRole
    · have hrest : ∃ entry ∈ entries, ¬ entry.2.NamedRole := by
        simpa [hrole] using hunnamed
      unfold restart at hp
      rw [hread hrole]
      dsimp only [bind, Except.bind]
      rw [hp]
      dsimp only
      rw [hid]
      exact ih hrestarts hrest _
    · rw [hcrash hrole]
      rfl

/-! ## The element of a server -/

/-- The attributes that a server adds to those of a provider. -/
def ownAttributes (server : ServerObject) : List XmlAttr := [
  { name := "ServerDumpVersion", value := "2" },
  { name := "SignatureMethod", value := server.signatureMethod.dumpName }]

/-- The children that the snippets write. -/
def rowElements (server : ServerObject) : List XmlNode :=
  (Rows.rows (Rows.textValue server.texts) serverClass.snippets).map
    (Rows.rowElement Rows.noObjects (some lassoHref))

/-- The element of a server, for the attributes of its role and the elements of its providers. -/
def element (server : ServerObject) (role : List XmlAttr) (nodes : List XmlNode) : XmlNode :=
  .element (some lassoHref) "Server" (server.attributesWith role ++ server.ownAttributes)
    (server.rowElements ++ nodes)

theorem textAttributes_eq (server : ServerObject) :
    serverClass.snippets.filterMap (Rows.textAttribute server.texts) =
      server.toProviderObject.idAttributes := by
  obtain ⟨⟨role, publicKey, caCertChain, metadataFilename, providerId⟩⟩ := server
  cases providerId <;> rfl

theorem setNsProp_own (server : ServerObject) {role : List XmlAttr}
    (hrole : server.roleAttributes = some role) :
    setNsProp (setNsProp (server.attributesWith role) { name := "ServerDumpVersion", value := "2" })
        { name := "SignatureMethod", value := server.signatureMethod.dumpName } =
      server.attributesWith role ++ server.ownAttributes := by
  unfold ProviderObject.roleAttributes at hrole
  unfold ProviderObject.attributesWith ProviderObject.idAttributes ownAttributes
  split_ifs at hrole
  · cases hrole
    cases server.providerId <;> rfl
  · obtain ⟨value, -, rfl⟩ := Option.map_eq_some_iff.mp hrole
    cases server.providerId <;> rfl

theorem dump_eq (cx : ServerContext) (server : ServerObject) :
    server.dump cx = server.roleAttributes.bind fun role =>
      (server.providersNodes cx (some lassoHref)).map (server.element role) := by
  unfold dump
  rw [server.toProviderObject.getXmlNodeOf_eq textClass_serverClass server.texts
    server.textAttributes_eq]
  cases hrole : server.roleAttributes with
  | none => rfl
  | some role =>
    simp only [Option.map_some, Option.bind_some, bind]
    rw [server.setNsProp_own hrole]
    show (server.providersNodes cx (some lassoHref)).bind _ = _
    cases server.providersNodes cx (some lassoHref) with
    | none => rfl
    | some nodes => rfl

/-! ### The providers -/

/-- The entries of the table, in the order of the dump. -/
def entries (cx : ServerContext) (server : ServerObject) : List (String × ProviderObject) :=
  Tables.entriesIn (cx.foreachOrder server.providers.keys) server.providers

/-- The elements show the entries. -/
abbrev ShowsNodes (nodes : List XmlNode) (entries : List (String × ProviderObject)) : Prop :=
  List.Forall₂ (fun node entry => ∃ role, entry.2.roleAttributes = some role ∧
    node = entry.2.element role) nodes entries

theorem showsNodes_of_mapM {entries : List (String × ProviderObject)} {nodes : List XmlNode}
    (h : entries.mapM (fun entry : String × ProviderObject => entry.2.getXmlNode) = some nodes) :
    ShowsNodes nodes entries := by
  induction entries generalizing nodes with
  | nil =>
    cases h
    exact .nil
  | cons entry entries ih =>
    rw [List.mapM_cons] at h
    obtain ⟨node, hnode, h⟩ := Option.bind_eq_some_iff.mp h
    obtain ⟨rest, hrest, h⟩ := Option.bind_eq_some_iff.mp h
    cases h
    rw [ProviderObject.getXmlNode_eq] at hnode
    obtain ⟨role, hrole, rfl⟩ := Option.map_eq_some_iff.mp hnode
    exact .cons ⟨role, hrole, rfl⟩ (ih hrest)

theorem mapM_getXmlNode_isSome_iff (entries : List (String × ProviderObject)) :
    (entries.mapM fun entry : String × ProviderObject => entry.2.getXmlNode).isSome = true ↔
      ∀ entry ∈ entries, entry.2.roleAttributes.isSome = true := by
  induction entries with
  | nil => simp
  | cons entry entries ih =>
    rw [List.mapM_cons, List.forall_mem_cons, ← ih, ProviderObject.getXmlNode_eq]
    cases entry.2.roleAttributes with
    | none => simp
    | some role =>
      cases entries.mapM fun entry : String × ProviderObject => entry.2.getXmlNode with
      | none => simp
      | some nodes => simp

/-- The Providers element shows the entries, unless there are none. -/
theorem providersNodes_eq_some {server : ServerObject} {ns : Option String} {nodes : List XmlNode}
    (h : server.providersNodes cx ns = some nodes) :
    (server.entries cx = [] ∧ nodes = []) ∨ (server.entries cx ≠ [] ∧
      ∃ shown, ShowsNodes shown (server.entries cx) ∧
        nodes = [.element ns "Providers" [] shown]) := by
  unfold providersNodes at h
  dsimp only at h
  split_ifs at h with hentries
  · cases h
    exact .inl ⟨hentries, rfl⟩
  · obtain ⟨shown, hshown, rfl⟩ := Option.map_eq_some_iff.mp h
    exact .inr ⟨hentries, shown, showsNodes_of_mapM hshown, rfl⟩

/-! ## Reading the element -/

theorem collectAttributes_element {path : List Nat} (server : ServerObject) {role : List XmlAttr}
    {nodes : List XmlNode} (hrole : server.roleAttributes = some role) :
    collectAttributes searchNs serverClass.toLassoNodeClass serverData path
      (server.element role nodes) = .ok server.idStores := by
  unfold ProviderObject.roleAttributes at hrole
  unfold element ProviderObject.attributesWith ProviderObject.idAttributes
    ProviderObject.idStores ownAttributes
  split_ifs at hrole
  · cases hrole
    cases server.providerId <;> rfl
  · obtain ⟨value, -, rfl⟩ := Option.map_eq_some_iff.mp hrole
    cases server.providerId <;> rfl

/-- A child of the element: its snippet, what is written, and what it writes when it is read. -/
abbrev Item := Snippet × XmlNode × List Store

def rowItem (row : Snippet × Rows.RowValue Empty) : Item :=
  (row.1, Rows.rowElement Rows.noObjects (some lassoHref) row, Rows.rowStores Rows.noObjects row)

/-- The children of the element. -/
def items (server : ServerObject) (nodes : List XmlNode) : List Item :=
  (Rows.rows (Rows.textValue server.texts) serverClass.snippets).map rowItem ++
    nodes.map fun node => (providersSnippet, node, [])

/-- At most one Providers element. -/
def IsProviders (nodes : List XmlNode) : Prop :=
  nodes = [] ∨ ∃ shown, nodes = [.element (some lassoHref) "Providers" [] shown]

theorem children_items (server : ServerObject) {nodes : List XmlNode} (hnodes : IsProviders nodes) :
    Rows.Children R searchNs serverClass.snippets (·.1) (·.2.1) (·.2.2) lassoHref
      (server.items nodes) := by
  have hfits : Rows.Fits Rows.noObjects R searchNs serverClass.snippets
    (Rows.textValue server.texts) := textClass_serverClass.fits
  have hrows := hfits.children lassoHref
  have hfront : serverClass.snippets = (providerSnippets ++ serverSnippets.take 4) ++
    [providersSnippet, Dump.ownAttribute "ServerDumpVersion"] := rfl
  have hitem : ∀ item ∈ server.items nodes,
      (∃ row ∈ Rows.rows (Rows.textValue server.texts) serverClass.snippets, item = rowItem row) ∨
        ∃ shown, item =
          (providersSnippet, .element (some lassoHref) "Providers" [] shown, []) := by
    intro item hitem
    rcases List.mem_append.mp hitem with hrow | hnode
    · obtain ⟨row, hmem, rfl⟩ := List.mem_map.mp hrow
      exact .inl ⟨row, hmem, rfl⟩
    · obtain ⟨node, hmem, rfl⟩ := List.mem_map.mp hnode
      rcases hnodes with rfl | ⟨shown, rfl⟩
      · cases hmem
      · obtain rfl := List.mem_singleton.mp hmem
        exact .inr ⟨shown, rfl⟩
  refine ⟨hfits.plain, ?_, ?_, ?_, ?_⟩
  · have hsnippets : (server.items nodes).map (·.1) =
        (Rows.rows (Rows.textValue server.texts)
          (providerSnippets ++ serverSnippets.take 4)).map (·.1) ++
            nodes.map fun _ => providersSnippet := by
      unfold items
      rw [List.map_append, List.map_map, List.map_map, hfront]
      unfold Rows.rows
      rw [List.filterMap_append]
      simp [rowItem, providersSnippet, Rows.textValue, Dump.ownAttribute, Function.comp_def]
    rw [hsnippets, hfront]
    refine List.Sublist.append Rows.rows_fst_sublist ?_
    rcases hnodes with rfl | ⟨shown, rfl⟩
    · simp
    · simp
  · intro item hmem
    rcases hitem item hmem with ⟨row, hrow, rfl⟩ | ⟨shown, rfl⟩
    · exact hrows.holdsNodes row hrow
    · exact ⟨rfl, rfl⟩
  · intro item hmem
    rcases hitem item hmem with ⟨row, hrow, rfl⟩ | ⟨shown, rfl⟩
    · exact hrows.element row hrow
    · exact ⟨shown, rfl⟩
  · intro item hmem path
    rcases hitem item hmem with ⟨row, hrow, rfl⟩ | ⟨shown, rfl⟩
    · exact hrows.stored row hrow path
    · rfl

theorem rowElements_items (server : ServerObject) (nodes : List XmlNode) :
    server.rowElements ++ nodes = (server.items nodes).map (·.2.1) := by
  simp [rowElements, items, rowItem, Function.comp_def]

theorem stores_items (server : ServerObject) (nodes : List XmlNode) :
    (server.items nodes).flatMap (·.2.2) =
      (Rows.rows (Rows.textValue server.texts) serverClass.snippets).flatMap
        (Rows.rowStores Rows.noObjects) := by
  simp [items, rowItem, List.flatMap_append, List.flatMap_map]

/-- The members that are written when the element is read. -/
theorem implStores_element (server : ServerObject) {role : List XmlAttr} {nodes : List XmlNode}
    (hrole : server.roleAttributes = some role) (hnodes : IsProviders nodes) (path : List Nat) :
    implStores R searchNs serverClass.toLassoNodeClass ⟨path, server.element role nodes⟩ =
      .ok (server.idStores ++ (Rows.rows (Rows.textValue server.texts)
        serverClass.snippets).flatMap (Rows.rowStores Rows.noObjects)) := by
  have hread : implInit R searchNs serverClass.toLassoNodeClass
      ⟨path, server.element role nodes⟩
      ((PlacedNode.mk path (server.element role nodes)).children.map (·.result R searchNs)) =
        .ok (.ok (server.idStores ++ (server.items nodes).flatMap (·.2.2))) :=
    (server.children_items hnodes).implInit (by decide) rfl (by decide) rfl rfl
      (server.collectAttributes_element hrole) (server.rowElements_items nodes)
  unfold implStores
  dsimp only
  rw [hread, stores_items]

/-- A server with what a dump keeps of its own members. -/
def ownKept (cx : ServerContext) (server : ServerObject) (p : ProviderObject) : ServerObject where
  toProviderObject := p
  privateKey := server.privateKey
  privateKeyPassword := server.privateKeyPassword
  certificate := server.certificate
  signatureMethod := cx.defaultSignatureMethod

/-- The members of a server that are read from its element. -/
theorem content_element (server : ServerObject) (className : String) :
    let object := ParsedNode.mk className (server.idStores ++
      (Rows.rows (Rows.textValue server.texts) serverClass.snippets).flatMap
        (Rows.rowStores Rows.noObjects))
    object.content "private_key" = server.privateKey ∧
      object.content "private_key_password" = server.privateKeyPassword ∧
      object.content "certificate" = server.certificate := by
  have htext (snippet : Snippet) (field : String) (h : snippet ∈ serverClass.snippets)
      (hfield : snippet.field = some field) (hkind : snippet.kind = .content)
      (hother : field ≠ "ProviderID") :
      (ParsedNode.mk className (server.idStores ++ (Rows.rows (Rows.textValue server.texts)
        serverClass.snippets).flatMap (Rows.rowStores Rows.noObjects))).content field =
          Rows.textOf server.texts snippet := by
    rw [textClass_serverClass.content h hfield, server.content_idStores, if_pos hkind,
      if_neg hother, Option.or_none]
  exact ⟨htext (Dump.content "PrivateKeyFilePath" "private_key") _ (by decide) rfl rfl (by decide),
    htext (Dump.content "PrivateKeyPassword" "private_key_password") _ (by decide) rfl rfl
      (by decide),
    htext (Dump.content "CertificateFilePath" "certificate") _ (by decide) rfl rfl (by decide)⟩

/-- What becomes of the providers of a dump, after the provider part of the server was read. -/
def readProviders (cx : ServerContext) (R : Registry) (searchNs : NsScope) (server : ServerObject)
    (place : PlacedNode) (p : ProviderObject) : Except Fault (Option ServerObject) :=
  if server.signatureMethod = .none then .ok (some (server.ownKept cx p))
  else (insertProviders cx R searchNs (providerPlaces place) ∅).map fun providers =>
    some { server.ownKept cx p with signatureMethod := server.signatureMethod, providers }

/-- Reading the element of a server. A role without a name stops the process. -/
theorem initFromXml_element (cx : ServerContext) (server : ServerObject) {role : List XmlAttr}
    {nodes : List XmlNode} (hrole : server.roleAttributes = some role) (hnodes : IsProviders nodes)
    (path : List Nat) :
    (server.NamedRole → initFromXml cx R searchNs ⟨path, server.element role nodes⟩ =
      match server.kept.reload cx.toProviderContext true with
      | none => .ok none
      | some p => server.readProviders cx R searchNs ⟨path, server.element role nodes⟩ p) ∧
    (¬ server.NamedRole → initFromXml cx R searchNs ⟨path, server.element role nodes⟩ =
      .error .nullPointer) := by
  have htexts : ∀ snippet ∈ providerSnippets, Rows.textOf server.texts snippet =
      Rows.textOf server.toProviderObject.texts snippet := by
    intro snippet h
    simp only [providerSnippets, List.mem_cons, List.not_mem_nil, or_false] at h
    rcases h with rfl | rfl | rfl | rfl | rfl | rfl | rfl <;> rfl
  have hmore : ∀ attr ∈ server.ownAttributes,
      attr.name ≠ "ProviderRole" ∧ attr.name ≠ "EncryptionMode" := by simp [ownAttributes]
  obtain ⟨hpublicKey, hcaCertChain, hmetadata, hproviderId⟩ :=
    server.toProviderObject.content_rows textClass_serverClass (by decide) htexts serverClass.name
  obtain ⟨hprivateKey, hpassword, hcertificate⟩ := server.content_element serverClass.name
  obtain ⟨hread, hcrash⟩ := server.toProviderObject.initFromXml_eq cx.toProviderContext true
    (some lassoHref) "Server" (server.rowElements ++ nodes) hrole hmore hpublicKey hcaCertChain
    hmetadata hproviderId
  have hmethod : (server.element role nodes).getProp "SignatureMethod" =
      some server.signatureMethod.dumpName := by
    unfold ProviderObject.roleAttributes at hrole
    unfold element ProviderObject.attributesWith ProviderObject.idAttributes ownAttributes
    split_ifs at hrole
    · cases hrole
      cases server.providerId <;> rfl
    · obtain ⟨value, -, rfl⟩ := Option.map_eq_some_iff.mp hrole
      cases server.providerId <;> rfl
  unfold initFromXml
  rw [implStores_element server hrole hnodes]
  dsimp only [bind, Except.bind]
  constructor
  · intro hnamed
    have hread' := hread hnamed
    unfold element at hmethod ⊢
    rw [hread']
    dsimp only
    cases server.kept.reload cx.toProviderContext true with
    | none => rfl
    | some p =>
      dsimp only
      rw [hmethod, readSignatureMethod_dumpName]
      unfold readProviders
      split_ifs with hnone
      · rw [hprivateKey, hpassword, hcertificate]
        rfl
      · rw [hprivateKey, hpassword, hcertificate]
        dsimp only
        generalize insertProviders cx R searchNs _ _ = inserted
        cases inserted with
        | error fault => rfl
        | ok providers => rfl
  · intro hunnamed
    unfold element
    rw [hcrash hunnamed]

/-! ### The elements of the providers -/

theorem elementName_rowElements (server : ServerObject) {node : XmlNode}
    (h : node ∈ server.rowElements) : node.elementName ≠ some "Providers" := by
  have hnames : ∀ snippet ∈ serverClass.snippets, snippet.kind = .content →
      snippet.name ≠ "Providers" := by decide
  obtain ⟨row, hrow, rfl⟩ := List.mem_map.mp h
  obtain ⟨hmem, hvalue⟩ := Rows.mem_rows.mp hrow
  have hkind : row.1.kind = .content := by
    unfold Rows.textValue at hvalue
    split_ifs at hvalue with hkind
    exact hkind
  obtain ⟨children, hnode⟩ := Rows.rowElement_eq Rows.noObjects (some lassoHref) row
  rw [hnode]
  simpa [XmlNode.elementName] using hnames row.1 hmem hkind

theorem shows_placeFrom {nodes : List XmlNode} {entries : List (String × ProviderObject)}
    (h : ShowsNodes nodes entries) (path : List Nat) (i : Nat) :
    Shows (placeFrom path i nodes) entries := by
  induction h generalizing i with
  | nil => exact .nil
  | cons hnode _ ih => exact .cons hnode (ih (i + 1))

theorem isElement_of_showsNodes {nodes : List XmlNode} {entries : List (String × ProviderObject)}
    (h : ShowsNodes nodes entries) : ∀ node ∈ nodes, node.isElement = true := by
  induction h with
  | nil => simp
  | cons hnode _ ih =>
    obtain ⟨role, -, rfl⟩ := hnode
    exact List.forall_mem_cons.mpr ⟨rfl, ih⟩

theorem filter_rowElements (server : ServerObject) (path : List Nat) :
    (placeFrom path 0 server.rowElements).filter
      (fun t => t.node.elementName == some "Providers") = [] := by
  rw [List.filter_eq_nil_iff]
  intro t ht hname
  exact server.elementName_rowElements (mem_placeFrom ht) (beq_iff_eq.mp hname)

/-- Without providers there is no Providers element. -/
theorem providerPlaces_element_nil (server : ServerObject) (role : List XmlAttr) (path : List Nat) :
    providerPlaces ⟨path, server.element role []⟩ = [] := by
  unfold providerPlaces PlacedNode.children element
  dsimp only [XmlNode.children]
  rw [List.append_nil, server.filter_rowElements path]
  rfl

/-- The elements in the Providers element are those that show the entries. -/
theorem shows_providerPlaces (server : ServerObject) (role : List XmlAttr) (path : List Nat)
    {shown : List XmlNode} {entries : List (String × ProviderObject)}
    (h : ShowsNodes shown entries) :
    Shows (providerPlaces ⟨path, server.element role
      [.element (some lassoHref) "Providers" [] shown]⟩) entries := by
  unfold providerPlaces PlacedNode.children element
  dsimp only [XmlNode.children]
  rw [placeFrom_append, List.filter_append, server.filter_rowElements path]
  have helements : ∀ path i, (placeFrom path i shown).filter (·.node.isElement) =
      placeFrom path i shown := by
    intro path i
    rw [List.filter_eq_self]
    exact fun t ht => isElement_of_showsNodes h t.node (mem_placeFrom ht)
  have hplaced := shows_placeFrom h (path ++ [0 + server.rowElements.length]) 0
  rw [← helements] at hplaced
  simpa [placeFrom, XmlNode.elementName, XmlNode.children] using hplaced

/-! ### The whole dump -/

theorem ns_attributes (server : ServerObject) {role : List XmlAttr}
    (hrole : server.roleAttributes = some role) :
    ∀ attr ∈ server.attributesWith role ++ server.ownAttributes, attr.ns = none := by
  have hroleNs : ∀ attr ∈ role, attr.ns = none := by
    unfold ProviderObject.roleAttributes at hrole
    split_ifs at hrole
    · cases hrole
      exact List.forall_mem_nil _
    · obtain ⟨value, -, rfl⟩ := Option.map_eq_some_iff.mp hrole
      simp
  have hidNs : ∀ attr ∈ server.idAttributes, attr.ns = none := by
    unfold ProviderObject.idAttributes
    cases server.providerId <;> simp
  unfold ProviderObject.attributesWith ownAttributes
  simp only [List.forall_mem_append, List.forall_mem_cons]
  exact ⟨⟨⟨hidNs, trivial, hroleNs⟩, trivial, List.forall_mem_nil _⟩, trivial, trivial,
    List.forall_mem_nil _⟩

instance (p : ProviderObject) : Decidable p.NamedRole := inferInstanceAs (Decidable (_ ∧ _))

/-- What a dump is read to, if every provider can be read again. -/
def restored (cx : ServerContext) (server : ServerObject) : Option ServerObject :=
  if server.NamedRole then
    (server.kept.reload cx.toProviderContext true).bind fun p =>
      if server.signatureMethod = .none then some (server.ownKept cx p)
      else if ∀ entry ∈ server.entries cx, entry.2.NamedRole then
        some { server.ownKept cx p with
          signatureMethod := server.signatureMethod
          providers := Tables.insertEntries ∅ ((server.entries cx).map fun entry =>
            (entry.1, (restart cx entry.2).getD entry.2)) }
      else none
  else none

theorem newFromDump_dump (hR : Registered R serverClass) {server : ServerObject} {dump : XmlNode}
    (hdump : server.dump cx = some dump)
    (hrestarts : ∀ entry ∈ server.entries cx, Restarts cx entry) :
    newFromDump cx R searchNs dump = server.restored cx := by
  rw [dump_eq] at hdump
  obtain ⟨role, hrole, hdump⟩ := Option.bind_eq_some_iff.mp hdump
  obtain ⟨nodes, hnodes, rfl⟩ := Option.map_eq_some_iff.mp hdump
  have hshape := providersNodes_eq_some hnodes
  have hproviders : IsProviders nodes := by
    rcases hshape with ⟨-, rfl⟩ | ⟨-, shown, -, rfl⟩
    · exact .inl rfl
    · exact .inr ⟨shown, rfl⟩
  have hshows : Shows (providerPlaces ⟨[], server.element role nodes⟩) (server.entries cx) := by
    rcases hshape with ⟨hempty, rfl⟩ | ⟨-, shown, hshown, rfl⟩
    · rw [server.providerPlaces_element_nil role [], hempty]
      exact .nil
    · exact server.shows_providerPlaces role [] hshown
  have hattrs := server.ns_attributes hrole
  have hclass : classFor R searchNs ⟨[], server.element role nodes⟩ none =
      some serverClass.toLassoNodeClass := hR.classFor_eq hattrs
  obtain ⟨hread, hcrash⟩ :=
    @initFromXml_element R searchNs cx server role nodes hrole hproviders []
  unfold newFromDump restored
  rw [hclass]
  dsimp only
  rw [if_pos rfl]
  by_cases hnamed : server.NamedRole
  · rw [hread hnamed, if_pos hnamed]
    cases server.kept.reload cx.toProviderContext true with
    | none => rfl
    | some p =>
      dsimp only [Option.bind_some]
      unfold readProviders
      by_cases hmethod : server.signatureMethod = .none
      · rw [if_pos hmethod, if_pos hmethod]
      · rw [if_neg hmethod, if_neg hmethod]
        by_cases hall : ∀ entry ∈ server.entries cx, entry.2.NamedRole
        · rw [insertProviders_eq hshows hrestarts hall, if_pos hall]
          rfl
        · rw [insertProviders_eq_error hshows hrestarts (by simpa using hall), if_neg hall]
          rfl
  · rw [hcrash hnamed, if_neg hnamed]

end ServerObject

end Lasso
