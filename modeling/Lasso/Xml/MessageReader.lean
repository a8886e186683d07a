import Lasso.Library.Base64
import Lasso.Xml.UriEscape

/-!
# Two ways to find out what a message is

`xmltextreaderFromMessage` looks at the first and the last character of a message and makes an XML
reader from it, so that its issuer is known before it is processed. `initFromMessageWithFormat`,
which processes the message, tests for base64 first and for a `<` anywhere.

## Main definitions

* `xmltextreaderFromMessage` — `lasso_xmltextreader_from_message`.
* `nodeKind`, `nodeDocument` — what `initFromMessageWithFormat` takes a message for.

## Main results

* `Agree.iff_takenAlike` — on which messages the two agree.
-/

namespace Lasso

/-- What a message is taken for. A query string in base64 is read by
`lasso_node_init_from_message_with_format` only. -/
inductive MessageKind where
  | xml
  | base64
  | query
  | base64Query
deriving DecidableEq

/-- The text begins with the character that an XML document begins with. -/
def beginsXml (text : Bytes) : Bool := text.head? == some '<'

/-! ## The reader -/

/-- `xmlSecBase64Decode` into a new buffer of the length of the text; `g_malloc` gives no buffer of
length zero. -/
def decodeIntoNew (env : Env) (text : Bytes) : Int × Bytes :=
  if text = [] then (-1, []) else env.base64Decode text text.length

/-- `lasso_get_saml_message` -/
def getSamlMessage (env : Env) (queryFields : List Bytes) : Option Bytes :=
  match saml2QueryMessage queryFields with
  | none => none
  | some message =>
    if !isBase64 message then none
    else
      let decoded := decodeIntoNew env message
      if decoded.1 < 0 then none else (lassoInflate env decoded.2).map cString

/-- The test by which the reader tells a redirect message from the base64 of a POST. -/
def looksRedirect (message : Bytes) : Bool :=
  message.contains '=' && message.getLast? != some '='

/-- What `lasso_xmltextreader_from_message` takes a message for, and the text that it makes a
reader of. -/
structure MessageReader where
  kind : Option MessageKind := none
  document : Option Bytes := none

/-- `lasso_xmltextreader_from_message` -/
def xmltextreaderFromMessage (env : Env) (message : Bytes) : MessageReader :=
  if beginsXml message then { kind := some .xml, document := some message }
  else if looksRedirect message then
    { kind := some .query
      document := (getSamlMessage env (urlencodedToStrings env message)).filter beginsXml }
  else if !isBase64 message then {}
  else
    let decoded := decodeIntoNew env message
    if decoded.1 < 0 then {}
    else { kind := some .base64, document := (some decoded.2).filter beginsXml }

/-! ## The node -/

/-- The message is decoded before anything else is looked at. -/
def isDecoded (env : Env) (message : Bytes) : Bool :=
  !message.isEmpty && isBase64 message && decide (0 ≤ (env.base64Decode message message.length).1)

/-- The text in which the characters of a document or a query are looked for. -/
def messageText (env : Env) (message : Bytes) : Bytes :=
  if isDecoded env message then cString (env.base64Decode message message.length).2 else message

/-- The text is a SOAP message. -/
def isSoapText (env : Env) (text : Bytes) : Bool := (env.parseMemory text).any (·.isSoap)

/-- What `lasso_node_init_from_message_with_format` takes a message for. -/
def nodeKind (env : Env) (message : Bytes) : Option MessageKind :=
  let text := messageText env message
  if text.contains '<' then
    some (if isDecoded env message && !isSoapText env text then .base64 else .xml)
  else if text.contains '&' || text.contains '=' then
    some (if isDecoded env message then .base64Query else .query)
  else if isDecoded env message then some .base64
  else none

/-- The document in a part of a query string. -/
def deflatedQueryText (env : Env) (deflateString : Bytes) : Option Bytes :=
  let b64 := env.uriUnescape deflateString
  let decoded := env.base64Decode b64 (b64.length * 4)
  if decoded.1 = -1 then none else (lassoInflate env decoded.2).map cString

theorem initFromDeflatedQueryPart_eq {α : Type*} (env : Env)
    (initFromXml : α → Option XmlNode → Rc × α) (node : α) (deflateString : Bytes) :
    initFromDeflatedQueryPart env initFromXml node deflateString =
      match deflatedQueryText env deflateString with
      | none => (false, node)
      | some text => (true, (initFromXml node (env.parseMemory text)).2) := by
  unfold initFromDeflatedQueryPart deflatedQueryText
  dsimp only
  split_ifs
  · rfl
  · cases lassoInflate env (env.base64Decode (env.uriUnescape deflateString)
      ((env.uriUnescape deflateString).length * 4)).2 <;> rfl

section Node

variable {α : Type*} (env : Env) (initFromXml : α → Option XmlNode → Rc × α) (node : α)

/-- A SAML 2.0 message, once it is read without constraint. -/
def readMessage (message : Bytes) : ParsedMessage α :=
  initFromMessageWithFormat env (saml2NodeClass env initFromXml) node message .unknown

/-- The text of the document that the node was initialised from. -/
def nodeDocument (message : Bytes) : Option Bytes :=
  match (readMessage env initFromXml node message).format with
  | .xml | .soap | .base64 => some (messageText env message)
  | .query =>
    (saml2QueryMessage (urlencodedToStrings env (messageText env message))).bind
      (deflatedQueryText env)
  | .xschemaError | .error | .unknown => none

/-- The text is a document that the node can be initialised from. -/
def IsReadable (text : Bytes) : Prop :=
  ∃ doc, env.parseMemory text = some doc ∧ (initFromXml node (some doc)).1 = .ok

end Node

/-! ## What the node is read from -/

section

variable {α : Type*} {env : Env} {initFromXml : α → Option XmlNode → Rc × α} {node : α}
  {message : Bytes}

theorem messageText_of_decoded (h : isDecoded env message = true) :
    messageText env message = cString (env.base64Decode message message.length).2 := if_pos h

theorem messageText_of_not_decoded (h : isDecoded env message = false) :
    messageText env message = message := if_neg (by simp [h])

/-- The format that is returned, by the characters in the text. -/
theorem readMessage_format :
    (readMessage env initFromXml node message).format =
      if (messageText env message).contains '<' then
        match env.parseMemory (messageText env message) with
        | none => .unknown
        | some doc =>
          match (initFromXml node ((if doc.isSoap then doc.getSoapContent.bind (NodeRef.at? doc)
            else some (.ofRoot doc)).map (·.node))).1 with
          | .ok => if doc.isSoap then .soap else if isDecoded env message then .base64 else .xml
          | _ => .xschemaError
      else if (messageText env message).contains '&' || (messageText env message).contains '=' then
        if ((saml2QueryMessage (urlencodedToStrings env (messageText env message))).bind
          (deflatedQueryText env)).isSome then .query else .error
      else .error := by
  have hdecoded : (!message.isEmpty && isBase64 message &&
      decide (0 ≤ (env.base64Decode message message.length).1)) = isDecoded env message := rfl
  have htext : (if isDecoded env message = true then
      cString (env.base64Decode message message.length).2 else message) =
      messageText env message := rfl
  unfold readMessage initFromMessageWithFormat
  simp only [beq_self_eq_true, Bool.true_or, Bool.true_and, hdecoded, htext, if_true]
  by_cases hlt : (messageText env message).contains '<' = true
  · rw [if_pos hlt, if_pos hlt]
    cases env.parseMemory (messageText env message) with
    | none => rfl
    | some doc =>
      dsimp only [saml2NodeClass]
      generalize (if doc.isSoap = true then doc.getSoapContent.bind (NodeRef.at? doc)
        else some (NodeRef.ofRoot doc)) = root
      generalize initFromXml node (root.map (·.node)) = result
      obtain ⟨rc, node'⟩ := result
      cases rc <;> rfl
  · rw [if_neg hlt, if_neg hlt]
    by_cases hmark : ((messageText env message).contains '&' ||
        (messageText env message).contains '=') = true
    · rw [if_pos hmark, if_pos hmark]
      dsimp only [saml2NodeClass]
      unfold initFromSaml2QueryFields
      cases saml2QueryMessage (urlencodedToStrings env (messageText env message)) with
      | none => rfl
      | some req =>
        dsimp only [Option.bind_some]
        rw [initFromDeflatedQueryPart_eq]
        rcases Option.eq_none_or_eq_some (deflatedQueryText env req) with hnone | ⟨text, hsome⟩
        · simp [hnone]
        · simp [hsome]
    · rw [if_neg hmark, if_neg hmark]

/-- The kind is the one that the returned format stands for. -/
theorem nodeKind_of_format :
    ((readMessage env initFromXml node message).format = .xml ∨
      (readMessage env initFromXml node message).format = .soap →
      nodeKind env message = some .xml) ∧
    ((readMessage env initFromXml node message).format = .base64 →
      nodeKind env message = some .base64) ∧
    ((readMessage env initFromXml node message).format = .query →
      nodeKind env message =
        some (if isDecoded env message then .base64Query else .query)) := by
  rw [readMessage_format]
  unfold nodeKind isSoapText
  by_cases hlt : (messageText env message).contains '<' = true
  · simp only [if_pos hlt]
    cases env.parseMemory (messageText env message) with
    | none => simp
    | some doc =>
      dsimp only [Option.any_some]
      split
      · rcases Bool.eq_false_or_eq_true doc.isSoap with hsoap | hsoap <;>
          rcases Bool.eq_false_or_eq_true (isDecoded env message) with hdecoded | hdecoded <;>
          simp [hsoap, hdecoded]
      · simp
  · simp only [if_neg hlt]
    split_ifs <;> simp

/-- A document that is no SOAP message is read from the text of the message. -/
theorem nodeDocument_of_markup (hmarkup : (messageText env message).contains '<' = true)
    (hsoap : isSoapText env (messageText env message) = false) {text : Bytes} :
    nodeDocument env initFromXml node message = some text ↔
      messageText env message = text ∧
        IsReadable env initFromXml node (messageText env message) := by
  unfold nodeDocument
  rw [readMessage_format, if_pos hmarkup]
  unfold IsReadable isSoapText at *
  cases hparse : env.parseMemory (messageText env message) with
  | none => simp
  | some doc =>
    rw [hparse, Option.any_some] at hsoap
    have hroot : ((if doc.isSoap = true then doc.getSoapContent.bind (NodeRef.at? doc)
        else some (.ofRoot doc)).map (·.node)) = some doc := by
      rw [hsoap]
      rfl
    dsimp only
    rw [hroot, hsoap]
    rcases Bool.eq_false_or_eq_true (isDecoded env message) with hdecoded | hdecoded <;>
      cases hrc : (initFromXml node (some doc)).1 <;> simp [hrc, hdecoded]

theorem nodeDocument_eq_messageText (hmarkup : (messageText env message).contains '<' = true)
    {text : Bytes} (h : nodeDocument env initFromXml node message = some text) :
    messageText env message = text := by
  unfold nodeDocument at h
  split at h
  · exact Option.some.inj h
  · exact Option.some.inj h
  · exact Option.some.inj h
  · rename_i hformat
    rw [readMessage_format, if_pos hmarkup] at hformat
    split at hformat
    · cases hformat
    · split at hformat
      · split_ifs at hformat
      · cases hformat
  · cases h
  · cases h
  · cases h

/-- A document that is read from a query string is the last one in it. -/
theorem nodeDocument_of_query (hmarkup : (messageText env message).contains '<' = false)
    (hquery : ((messageText env message).contains '&' ||
      (messageText env message).contains '=') = true) :
    nodeDocument env initFromXml node message =
      (saml2QueryMessage (urlencodedToStrings env (messageText env message))).bind
        (deflatedQueryText env) := by
  unfold nodeDocument
  rw [readMessage_format, if_neg (by rw [hmarkup]; simp), if_pos hquery]
  cases (saml2QueryMessage (urlencodedToStrings env (messageText env message))).bind
    (deflatedQueryText env) <;> rfl

theorem nodeDocument_of_plain (hmarkup : (messageText env message).contains '<' = false)
    (hquery : ((messageText env message).contains '&' ||
      (messageText env message).contains '=') = false) :
    nodeDocument env initFromXml node message = none := by
  unfold nodeDocument
  rw [readMessage_format, if_neg (by rw [hmarkup]; simp), if_neg (by rw [hquery]; simp)]

/-! ## Agreement -/

/-- The functions of libxml2 and xmlsec that both ways rest on: unescaping copies what is not
escaped, and a larger buffer does not change what is decoded. -/
structure Env.Codecs (env : Env) : Prop where
  copies : env.CopiesPlain
  empty : env.uriUnescape [] = []
  fits : ∀ text size larger, size ≤ larger → 0 ≤ (env.base64Decode text size).1 →
    env.base64Decode text larger = env.base64Decode text size

/-- Both take the message for the same kind, and where both find a document it is the same text. -/
structure Agree (env : Env) (initFromXml : α → Option XmlNode → Rc × α) (node : α)
    (message : Bytes) : Prop where
  kind : (xmltextreaderFromMessage env message).kind = nodeKind env message
  document : ∀ a, (xmltextreaderFromMessage env message).document = some a →
    ∀ b, nodeDocument env initFromXml node message = some b → a = b

/-- The decoded message is a document up to a zero byte. -/
def CutAtZero (env : Env) (initFromXml : α → Option XmlNode → Rc × α) (node : α)
    (message : Bytes) : Prop :=
  '\x00' ∈ (env.base64Decode message message.length).2 ∧
    beginsXml (env.base64Decode message message.length).2 = true ∧
    IsReadable env initFromXml node (messageText env message)

/-- The messages that the character tests of the two do not tell apart. -/
inductive TakenAlike (env : Env) (initFromXml : α → Option XmlNode → Rc × α) (node : α)
    (message : Bytes) : Prop where
  | xml (h : beginsXml message = true)
  | base64 (hdecoded : isDecoded env message = true) (hredirect : looksRedirect message = false)
      (hmarkup : (messageText env message).contains '<' = true)
      (hsoap : isSoapText env (messageText env message) = false)
      (hzero : ¬ CutAtZero env initFromXml node message)
  | base64Plain (hdecoded : isDecoded env message = true)
      (hredirect : looksRedirect message = false)
      (hmarkup : (messageText env message).contains '<' = false)
      (hquery : ((messageText env message).contains '&' ||
        (messageText env message).contains '=') = false)
  | query (hdecoded : isDecoded env message = false) (hredirect : looksRedirect message = true)
      (hmarkup : message.contains '<' = false)
  | plain (hdecoded : isDecoded env message = false)
      (hmarkup : message.contains '<' = false)
      (hquery : (message.contains '&' || message.contains '=') = false)

theorem mem_of_isBase64 (h : isBase64 message = true) {c : Char} (hc : c ∈ message) :
    c.isAlphanum = true ∨ c ∈ "+/=\n\r".toList := by
  unfold isBase64 at h
  dsimp only at h
  rw [List.isEmpty_iff, List.dropWhile_eq_nil_iff] at h
  rw [← List.takeWhile_append_dropWhile (p := fun c : Char =>
    c.isAlphanum || c == '+' || c == '/' || c == '\n' || c == '\r') (l := message)] at hc
  rcases List.mem_append.mp hc with hc | hc
  · have hletter := List.mem_takeWhile_imp hc
    simp only [Bool.or_eq_true, beq_iff_eq] at hletter
    simp
    tauto
  · have hpadding := h c hc
    simp only [Bool.or_eq_true, beq_iff_eq] at hpadding
    simp
    tauto

theorem contains_of_beginsXml (h : beginsXml message = true) : message.contains '<' = true :=
  List.contains_iff_mem.mpr (List.mem_of_mem_head? (by simpa [beginsXml] using h))

theorem isBase64_of_beginsXml (h : beginsXml message = true) : isBase64 message = false := by
  cases hbase64 : isBase64 message with
  | false => rfl
  | true =>
    have hmem : '<' ∈ message := List.mem_of_mem_head? (by simpa [beginsXml] using h)
    have hletter := mem_of_isBase64 hbase64 hmem
    revert hletter
    decide

theorem uriUnescape_of_isBase64 (henv : env.Codecs) (h : isBase64 message = true) :
    env.uriUnescape message = message := by
  have hpercent : '%' ∉ message := by
    intro hmem
    have hletter := mem_of_isBase64 h hmem
    revert hletter
    decide
  have hcopied := henv.copies.append hpercent (s := [])
  rwa [henv.empty, List.append_nil] at hcopied

/-- The reader and the node find the same document in a query string. -/
theorem deflatedQueryText_of_getSamlMessage (henv : env.Codecs) {fields : List Bytes} {text : Bytes}
    (h : getSamlMessage env fields = some text) :
    (saml2QueryMessage fields).bind (deflatedQueryText env) = some text := by
  unfold getSamlMessage at h
  split at h
  · cases h
  · rename_i req hreq
    dsimp only at h
    split_ifs at h with hbase64 hdecode
    have hnonempty : req ≠ [] := by
      rintro rfl
      exact hdecode (by simp [decodeIntoNew])
    have hbase64 : isBase64 req = true := by simpa using hbase64
    rw [decodeIntoNew, if_neg hnonempty] at h hdecode
    have hfits := henv.fits req req.length (req.length * 4) (by omega) (by omega)
    have herror : (env.base64Decode req req.length).1 ≠ -1 := by omega
    rw [hreq, Option.bind_some, deflatedQueryText, uriUnescape_of_isBase64 henv hbase64, hfits,
      if_neg herror]
    exact h

/-- What the reader takes a message for that is decoded. -/
theorem reader_of_decoded (h : isDecoded env message = true) :
    xmltextreaderFromMessage env message =
      if looksRedirect message then
        { kind := some .query
          document := (getSamlMessage env (urlencodedToStrings env message)).filter beginsXml }
      else
        { kind := some .base64
          document := (some (env.base64Decode message message.length).2).filter beginsXml } := by
  simp only [isDecoded, Bool.and_eq_true, Bool.not_eq_true', List.isEmpty_eq_false_iff,
    decide_eq_true_eq] at h
  obtain ⟨⟨hnonempty, hbase64⟩, hdecode⟩ := h
  have hxml : beginsXml message = false := by
    cases hxml : beginsXml message with
    | false => rfl
    | true => simp [isBase64_of_beginsXml hxml] at hbase64
  have hnot : ¬ (env.base64Decode message message.length).1 < 0 := by omega
  simp only [xmltextreaderFromMessage, decodeIntoNew, hxml, hbase64, if_neg hnonempty, if_neg hnot,
    Bool.not_true, Bool.false_eq_true, if_false]

theorem reader_of_not_decoded (h : isDecoded env message = false)
    (hxml : beginsXml message = false) :
    xmltextreaderFromMessage env message =
      if looksRedirect message then
        { kind := some .query
          document := (getSamlMessage env (urlencodedToStrings env message)).filter beginsXml }
      else {} := by
  unfold xmltextreaderFromMessage
  rw [hxml, if_neg Bool.false_ne_true]
  split_ifs with hredirect hbase64
  · rfl
  · rfl
  · have hbase64 : isBase64 message = true := by simpa using hbase64
    have hdecode : (decodeIntoNew env message).1 < 0 := by
      by_contra hdecode
      have hnonempty : message ≠ [] := by
        rintro rfl
        exact hdecode (by simp [decodeIntoNew])
      rw [decodeIntoNew, if_neg hnonempty] at hdecode
      have hdecoded : isDecoded env message = true := by
        simp only [isDecoded, Bool.and_eq_true, Bool.not_eq_true', List.isEmpty_eq_false_iff,
          decide_eq_true_eq]
        exact ⟨⟨hnonempty, hbase64⟩, by omega⟩
      rw [h] at hdecoded
      cases hdecoded
    exact if_pos hdecode

/-- A decoded text is the whole text unless there is a zero byte in it. -/
theorem cString_eq_self_iff {text : Bytes} : cString text = text ↔ '\x00' ∉ text := by
  rw [cString, List.takeWhile_eq_self_iff]
  constructor
  · intro hall hmem
    simpa using hall _ hmem
  · intro hzero c hc
    have hne : c ≠ '\x00' := fun heq => hzero (heq ▸ hc)
    simpa using hne

theorem isDecoded_of_beginsXml (h : beginsXml message = true) : isDecoded env message = false := by
  simp [isDecoded, isBase64_of_beginsXml h]

theorem nodeKind_of_decoded (hdecoded : isDecoded env message = true) :
    nodeKind env message = some (
      if (messageText env message).contains '<' then
        if isSoapText env (messageText env message) then .xml else .base64
      else if (messageText env message).contains '&' || (messageText env message).contains '=' then
        .base64Query
      else .base64) := by
  unfold nodeKind
  rw [hdecoded]
  dsimp only
  generalize (messageText env message).contains '<' = markup
  generalize isSoapText env (messageText env message) = soap
  generalize ((messageText env message).contains '&' || (messageText env message).contains '=') =
    query
  cases markup <;> cases soap <;> cases query <;> rfl

theorem nodeKind_of_not_decoded (hdecoded : isDecoded env message = false) :
    nodeKind env message =
      if message.contains '<' then some .xml
      else if message.contains '&' || message.contains '=' then some .query
      else none := by
  unfold nodeKind
  rw [hdecoded, messageText_of_not_decoded hdecoded]
  rfl

/-- The documents of a decoded message are the same unless a zero byte cuts one of them off. -/
theorem documents_of_decoded (hdecoded : isDecoded env message = true)
    (hmarkup : (messageText env message).contains '<' = true)
    (hsoap : isSoapText env (messageText env message) = false) :
    (∀ a, (some (env.base64Decode message message.length).2).filter beginsXml = some a →
      ∀ b, nodeDocument env initFromXml node message = some b → a = b) ↔
      ¬ CutAtZero env initFromXml node message := by
  have htext := messageText_of_decoded hdecoded
  constructor
  · rintro hsame ⟨hzero, hbegins, hreadable⟩
    have heq := hsame _ (Option.filter_eq_some_iff.mpr ⟨rfl, hbegins⟩) _
      ((nodeDocument_of_markup hmarkup hsoap).mpr ⟨rfl, hreadable⟩)
    rw [htext] at heq
    exact cString_eq_self_iff.mp heq.symm hzero
  · intro hnot a ha b hb
    obtain ⟨ha, hbegins⟩ := Option.filter_eq_some_iff.mp ha
    obtain rfl := Option.some.inj ha
    obtain ⟨rfl, hreadable⟩ := (nodeDocument_of_markup hmarkup hsoap).mp hb
    rw [htext]
    by_contra hne
    have hzero : '\x00' ∈ (env.base64Decode message message.length).2 := by
      by_contra hzero
      exact hne (cString_eq_self_iff.mpr hzero).symm
    exact hnot ⟨hzero, hbegins, hreadable⟩

theorem agree_iff_of_decoded (hdecoded : isDecoded env message = true) :
    Agree env initFromXml node message ↔ TakenAlike env initFromXml node message := by
  have hreader := reader_of_decoded hdecoded
  have hkind := nodeKind_of_decoded hdecoded
  constructor
  · rintro ⟨hsame, hdocument⟩
    rw [hkind, hreader] at hsame
    rw [hreader] at hdocument
    cases hredirect : looksRedirect message with
    | true =>
      rw [hredirect] at hsame
      simp only [if_true, Option.some.injEq] at hsame
      split_ifs at hsame
    | false =>
      simp only [hredirect, Bool.false_eq_true, if_false, Option.some.injEq] at hsame hdocument
      split_ifs at hsame with hmarkup hsoap hquery
      · have hsoap : isSoapText env (messageText env message) = false := by simpa using hsoap
        exact .base64 hdecoded hredirect hmarkup hsoap
          ((documents_of_decoded hdecoded hmarkup hsoap).mp hdocument)
      · exact .base64Plain hdecoded hredirect (by simpa using hmarkup) (by simpa using hquery)
  · intro halike
    cases halike with
    | xml h =>
      rw [isDecoded_of_beginsXml h] at hdecoded
      cases hdecoded
    | base64 _ hredirect hmarkup hsoap hzero =>
      rw [hredirect, if_neg Bool.false_ne_true] at hreader
      rw [if_pos hmarkup, hsoap, if_neg Bool.false_ne_true] at hkind
      exact ⟨by rw [hreader, hkind], by
        rw [hreader]
        exact (documents_of_decoded hdecoded hmarkup hsoap).mpr hzero⟩
    | base64Plain _ hredirect hmarkup hquery =>
      rw [hredirect, if_neg Bool.false_ne_true] at hreader
      rw [hmarkup, hquery, if_neg Bool.false_ne_true, if_neg Bool.false_ne_true] at hkind
      refine ⟨by rw [hreader, hkind], fun a _ b hb => ?_⟩
      rw [nodeDocument_of_plain hmarkup hquery] at hb
      cases hb
    | query h | plain h =>
      rw [h] at hdecoded
      cases hdecoded

/-- A message that begins like a document is one for both. -/
theorem agree_of_beginsXml (hdecoded : isDecoded env message = false)
    (hxml : beginsXml message = true) : Agree env initFromXml node message := by
  have hkind := nodeKind_of_not_decoded hdecoded
  have htext := messageText_of_not_decoded hdecoded
  have hreader : xmltextreaderFromMessage env message =
      { kind := some .xml, document := some message } := by simp [xmltextreaderFromMessage, hxml]
  have hmarkup := contains_of_beginsXml hxml
  rw [if_pos hmarkup] at hkind
  refine ⟨by rw [hreader, hkind], fun a ha b hb => ?_⟩
  rw [hreader] at ha
  obtain rfl := Option.some.inj ha
  rw [← nodeDocument_eq_messageText (by rw [htext]; exact hmarkup) hb, htext]

theorem agree_iff_of_not_decoded (henv : env.Codecs) (hdecoded : isDecoded env message = false) :
    Agree env initFromXml node message ↔ TakenAlike env initFromXml node message := by
  have hkind := nodeKind_of_not_decoded hdecoded
  have htext := messageText_of_not_decoded hdecoded
  cases hxml : beginsXml message with
  | true => exact iff_of_true (agree_of_beginsXml hdecoded hxml) (.xml hxml)
  | false =>
    have hreader := reader_of_not_decoded hdecoded hxml
    constructor
    · rintro ⟨hsame, -⟩
      rw [hreader, hkind] at hsame
      cases hredirect : looksRedirect message with
      | true =>
        rw [hredirect, if_pos rfl] at hsame
        refine .query hdecoded hredirect ?_
        by_contra hmarkup
        rw [if_pos (by simpa using hmarkup)] at hsame
        cases hsame
      | false =>
        rw [hredirect, if_neg Bool.false_ne_true] at hsame
        split_ifs at hsame with hmarkup hquery
        exact .plain hdecoded (by simpa using hmarkup) (by simpa using hquery)
    · intro halike
      cases halike with
      | xml h =>
        rw [h] at hxml
        cases hxml
      | base64 h | base64Plain h =>
        rw [h] at hdecoded
        cases hdecoded
      | query _ hredirect hmarkup =>
        have hquery : (message.contains '&' || message.contains '=') = true := by
          simp only [looksRedirect, Bool.and_eq_true] at hredirect
          rw [hredirect.1, Bool.or_true]
        rw [hmarkup, hquery, if_neg Bool.false_ne_true, if_pos rfl] at hkind
        rw [if_pos hredirect] at hreader
        refine ⟨by rw [hreader, hkind], fun a ha b hb => ?_⟩
        rw [hreader] at ha
        rw [nodeDocument_of_query (by rw [htext]; exact hmarkup) (by rw [htext]; exact hquery),
          htext, deflatedQueryText_of_getSamlMessage henv (Option.filter_eq_some_iff.mp ha).1] at hb
        exact Option.some.inj hb
      | plain _ hmarkup hquery =>
        have hredirect : looksRedirect message = false := by
          simp only [Bool.or_eq_false_iff] at hquery
          simp only [looksRedirect, hquery.2, Bool.false_and]
        rw [hmarkup, hquery, if_neg Bool.false_ne_true, if_neg Bool.false_ne_true] at hkind
        rw [hredirect, if_neg Bool.false_ne_true] at hreader
        refine ⟨by rw [hreader, hkind], fun a ha => ?_⟩
        rw [hreader] at ha
        cases ha

/-- The two ways to read a message agree on exactly the messages that are taken alike. -/
theorem Agree.iff_takenAlike (henv : env.Codecs) (initFromXml : α → Option XmlNode → Rc × α)
    (node : α) (message : Bytes) :
    Agree env initFromXml node message ↔ TakenAlike env initFromXml node message := by
  cases hdecoded : isDecoded env message with
  | true => exact agree_iff_of_decoded hdecoded
  | false => exact agree_iff_of_not_decoded henv hdecoded

end

/-! ## A document in base64 -/

/-- Base64 is a C string. -/
theorem cString_encode (bytes : List Nat) :
    ∀ c ∈ Base64.encode bytes, c ≠ '\x00' ∧ c.toNat < 256 := by
  have halphabet : ∀ c ∈ Base64.alphabet, c ≠ '\x00' ∧ c.toNat < 256 :=
    cString_of_all (by decide)
  intro c hc
  rcases Base64.isCode_of_mem_encode hc with hletter | rfl
  · exact halphabet c hletter
  · decide

theorem cString_encode_text (s : Bytes) :
    ∀ c ∈ Base64.encode (s.map Char.toNat), c ≠ '\x00' ∧ c.toNat < 256 := cString_encode _

/-- `xmlSecBase64Decode`, which passes over line breaks. -/
def base64DecodeLines (b64 : Bytes) (size : Nat) : Int × Bytes :=
  match Base64.decode (b64.filter fun c => c != '\n' && c != '\r') with
  | some bytes => if bytes.length ≤ size then (bytes.length, bytes.map Char.ofNat) else (-1, [])
  | none => (-1, [])

theorem base64DecodeLines_encode {s : Bytes} {size : Nat} (hbytes : ∀ c ∈ s, c.toNat < 256)
    (hsize : s.length ≤ size) :
    base64DecodeLines (Base64.encode (s.map Char.toNat)) size = ((s.length : Int), s) := by
  have hlt : ∀ b ∈ s.map Char.toNat, b < 256 := by
    intro b hb
    obtain ⟨c, hc, rfl⟩ := List.mem_map.mp hb
    exact hbytes c hc
  have hlines : (Base64.encode (s.map Char.toNat)).filter (fun c => c != '\n' && c != '\r') =
      Base64.encode (s.map Char.toNat) := by
    apply List.filter_eq_self.mpr
    intro c hc
    rcases Base64.isCode_of_mem_encode hc with hletter | rfl
    · have halphabet : (Base64.alphabet.all fun c => c != '\n' && c != '\r') = true := by decide
      exact List.all_eq_true.mp halphabet c hletter
    · decide
  simp [base64DecodeLines, hlines, Base64.decode_encode hlt, Function.comp_def, hsize]

/-- An environment with the base64 codec, where `<a></a>` is the only document. -/
def messageEnv : Env :=
  { Env.refusing with
    base64Decode := base64DecodeLines
    uriUnescape := percentDecode
    parseMemory := fun text =>
      if text = "<a></a>".toList then some (.element none "a" [] []) else none }

theorem messageEnv_codecs : messageEnv.Codecs where
  copies := (unescapes_percentDecode rfl).copies
  empty := (unescapes_percentDecode rfl).empty
  fits text size larger hle hdecoded := by
    show base64DecodeLines text larger = base64DecodeLines text size
    replace hdecoded : 0 ≤ (base64DecodeLines text size).1 := hdecoded
    unfold base64DecodeLines at hdecoded ⊢
    split at hdecoded
    · split_ifs at hdecoded with hsize
      · rw [if_pos hsize, if_pos (hsize.trans hle)]
      · simp at hdecoded
    · simp at hdecoded

/-- The class of messages that accepts every document. -/
def acceptsXml (node : Unit) (xmlnode : Option XmlNode) : Rc × Unit :=
  (if xmlnode.isSome then .ok else .castFailed, node)

theorem iff_takenAlike_posted :
    Agree messageEnv acceptsXml () "PGE+PC9hPg==".toList := by
  apply (Agree.iff_takenAlike messageEnv_codecs acceptsXml () _).mpr
  refine .base64 (by decide +kernel) (by decide) (by decide +kernel) (by decide +kernel) ?_
  rintro ⟨hzero, -⟩
  revert hzero
  decide +kernel

/-- The same message with a line break at its end is a query string for the reader, and a query
string with an empty last field is none for it. -/
theorem taken_differently :
    messageEnv.Codecs ∧ ¬ Agree messageEnv acceptsXml () "PGE+PC9hPg==\n".toList ∧
      ¬ Agree messageEnv acceptsXml () "SAMLRequest=abc&RelayState=".toList := by
  refine ⟨messageEnv_codecs, ?_, ?_⟩
  · intro hagree
    have hkind := hagree.kind
    revert hkind
    decide +kernel
  · intro hagree
    have hkind := hagree.kind
    revert hkind
    decide +kernel

end Lasso
