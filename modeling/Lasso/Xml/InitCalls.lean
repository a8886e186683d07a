import Lasso.Xml.MessageReader

/-!
# The elements that a node is initialised from

`initFromMessageWithFormat` looks for an XML document in a message and gives its element to
`init_from_xml`. The functions are run on a node that records these calls.

## Main definitions

* `QueryReader` — the two ways in which the classes read a query.
* `recordedMessage`, `recordedPart` — a run with its calls.

## Main results

* `rejectsMalformed_iff` — when each call has an element, and a success a good call.
-/

namespace Lasso

/-! ## What a message is read as -/

/-- The text in which `initFromMessageWithFormat` looks for a document or a query. -/
def takenText (env : Env) (message : Bytes) (constraint : MessageFormat) : Bytes :=
  if constraint = .unknown ∨ constraint = .base64 then messageText env message else message

/-- The text is parsed as a document. -/
def takesMarkup (constraint : MessageFormat) (text : Bytes) : Bool :=
  (constraint == .unknown || constraint == .xml || constraint == .base64 || constraint == .soap) &&
    text.contains '<'

/-- The text is read as a query, if it is not parsed. -/
def takesQuery (constraint : MessageFormat) (text : Bytes) : Bool :=
  (constraint == .unknown || constraint == .query) && (text.contains '&' || text.contains '=')

/-- The element of a document that a node is initialised from: the root, or the content of a SOAP
message. -/
def messageRoot (doc : XmlNode) : Option NodeRef :=
  if doc.isSoap then doc.getSoapContent.bind (NodeRef.at? doc) else some (.ofRoot doc)

/-- The format of a message whose document has initialised a node. -/
def documentFormat (env : Env) (message : Bytes) (constraint : MessageFormat) (doc : XmlNode) :
    MessageFormat :=
  if doc.isSoap then .soap
  else if (constraint = .unknown ∨ constraint = .base64) ∧ isDecoded env message = true then .base64
  else .xml

section

variable {α : Type*} {env : Env} {cls : NodeClass α} {node : α} {message : Bytes}
  {constraint : MessageFormat}

theorem initFromMessageWithFormat_eq (env : Env) (cls : NodeClass α) (node : α) (message : Bytes)
    (constraint : MessageFormat) :
    initFromMessageWithFormat env cls node message constraint =
      let text := takenText env message constraint
      if takesMarkup constraint text then
        match env.parseMemory text with
        | none => { format := .unknown, node }
        | some doc =>
          if constraint = .unknown ∨ constraint = .soap then
            match cls.initFromXml node ((messageRoot doc).map (·.node)) with
            | (.ok, node) =>
              { format := documentFormat env message constraint doc
                doc := some doc, root := messageRoot doc, node }
            | (_, node) =>
              { format := .xschemaError, doc := some doc, root := messageRoot doc, node }
          else { format := .error, doc := some doc, root := some (.ofRoot doc), node }
      else if takesQuery constraint text then
        match cls.initFromQuery node (urlencodedToStrings env text) with
        | (false, node) => { format := .error, node }
        | (true, node) => { format := .query, node }
      else { format := .error, node } := by
  have hdecoded : (!message.isEmpty && isBase64 message &&
      decide (0 ≤ (env.base64Decode message message.length).1)) = isDecoded env message := rfl
  unfold initFromMessageWithFormat takenText takesMarkup takesQuery messageText documentFormat
  simp only [Bool.and_assoc] at hdecoded ⊢
  simp only [hdecoded]
  -- the constraint and the decoding decide which tests are made
  cases constraint <;> cases isDecoded env message <;> simp <;> rfl

end

/-! ## Recording the calls -/

/-- A call of `init_from_xml`. -/
structure InitCall where
  element : Option XmlNode
  rc : Rc

/-- `init_from_xml` of a node that records its calls. -/
def recordCall {α : Type*} (initFromXml : α → Option XmlNode → Rc × α) :
    α × List InitCall → Option XmlNode → Rc × α × List InitCall
  | (node, calls), element =>
    let (rc, node) := initFromXml node element
    (rc, node, calls ++ [{ element, rc }])

/-- How a class reads a query: the SAML 2.0 messages inflate a document, the ID-FF messages take
their fields from the query. -/
inductive QueryReader (α : Type*) where
  | deflated
  | fields (initFromQuery : α → List Bytes → Bool × α)

namespace QueryReader

/-- The class with this `init_from_query`. -/
def nodeClass {α : Type*} (env : Env) (initFromXml : α → Option XmlNode → Rc × α) :
    QueryReader α → NodeClass α
  | deflated => saml2NodeClass env initFromXml
  | fields initFromQuery => { initFromXml, initFromQuery }

/-- The same for a node that records its calls. -/
def record {α : Type*} : QueryReader α → QueryReader (α × List InitCall)
  | deflated => deflated
  | fields initFromQuery => fields fun (node, calls) queryFields =>
    let (ok, node) := initFromQuery node queryFields
    (ok, node, calls)

end QueryReader

/-- `lasso_node_init_from_message_with_format` on a node that records its calls. -/
def recordedMessage {α : Type*} (env : Env) (reader : QueryReader α)
    (initFromXml : α → Option XmlNode → Rc × α) (node : α) (message : Bytes)
    (constraint : MessageFormat) : ParsedMessage (α × List InitCall) :=
  initFromMessageWithFormat env (reader.record.nodeClass env (recordCall initFromXml)) (node, [])
    message constraint

/-- `lasso_node_init_from_deflated_query_part` on a node that records its calls. -/
def recordedPart {α : Type*} (env : Env) (initFromXml : α → Option XmlNode → Rc × α) (node : α)
    (deflateString : Bytes) : Bool × α × List InitCall :=
  initFromDeflatedQueryPart env (recordCall initFromXml) (node, []) deflateString

/-- The texts that a message contains. -/
inductive ContainsText (env : Env) (message : Bytes) : Bytes → Prop where
  | plain : ContainsText env message message
  | decoded : ContainsText env message (messageText env message)
  | deflated {text req inflated : Bytes} (h : ContainsText env message text)
      (hreq : saml2QueryMessage (urlencodedToStrings env text) = some req)
      (hinflated : deflatedQueryText env req = some inflated) : ContainsText env message inflated

/-- No call is about a missing element, and what succeeds has a call that went well, about an
element of a document in one of the texts. -/
structure Guarded (env : Env) (texts : Bytes → Prop) (succeeds : Prop) (calls : List InitCall) :
    Prop where
  element : ∀ c ∈ calls, c.element.isSome
  document : succeeds → ∃ text doc, texts text ∧ env.parseMemory text = some doc ∧
    ∃ c ∈ calls, c.rc = .ok ∧
      (c.element = some doc ∨ c.element = (messageRoot doc).map (·.node))

/-- The formats of a message that was read. -/
def MessageFormat.isSuccess : MessageFormat → Bool
  | .xml | .base64 | .query | .soap => true
  | .xschemaError | .error | .unknown => false

/-- A message is rejected unless it has a document that the node is initialised from. -/
def RejectsMalformed {α : Type*} (env : Env) (reader : QueryReader α)
    (initFromXml : α → Option XmlNode → Rc × α) (node : α) (message : Bytes)
    (constraint : MessageFormat) : Prop :=
  let m := recordedMessage env reader initFromXml node message constraint
  Guarded env (ContainsText env message) (m.format.isSuccess = true) m.node.2

/-- A deflated part is rejected unless it has such a document. -/
def RejectsMalformedPart {α : Type*} (env : Env) (initFromXml : α → Option XmlNode → Rc × α)
    (node : α) (deflateString : Bytes) : Prop :=
  let result := recordedPart env initFromXml node deflateString
  Guarded env (fun text => deflatedQueryText env deflateString = some text) (result.1 = true)
    result.2.2

/-! ## Well-formed messages -/

/-- What is deflated in a part is a document that the node can be initialised from. -/
def PartReadable {α : Type*} (env : Env) (initFromXml : α → Option XmlNode → Rc × α) (node : α)
    (deflateString : Bytes) : Prop :=
  ∀ text, deflatedQueryText env deflateString = some text → IsReadable env initFromXml node text

/-- A query from which a class reads a document; one that it reads without document is not read. -/
def QueryReader.Readable {α : Type*} (env : Env) (initFromXml : α → Option XmlNode → Rc × α)
    (node : α) (queryFields : List Bytes) : QueryReader α → Prop
  | deflated => ∀ req, saml2QueryMessage queryFields = some req →
      PartReadable env initFromXml node req
  | fields initFromQuery => (initFromQuery node queryFields).1 = false

/-- A document that is parsed has an element for the node, and a query a readable document. -/
def WellFormedMessage {α : Type*} (env : Env) (reader : QueryReader α)
    (initFromXml : α → Option XmlNode → Rc × α) (node : α) (message : Bytes)
    (constraint : MessageFormat) : Prop :=
  let text := takenText env message constraint
  if takesMarkup constraint text then
    constraint = .unknown ∨ constraint = .soap →
      ∀ doc, env.parseMemory text = some doc → (messageRoot doc).isSome
  else takesQuery constraint text →
    reader.Readable env initFromXml node (urlencodedToStrings env text)

section

variable {α : Type*} {env : Env} {reader : QueryReader α}
  {initFromXml : α → Option XmlNode → Rc × α} {node : α} {message : Bytes}
  {constraint : MessageFormat}

/-- The calls do not change what is done. -/
theorem recordedPart_fst (deflateString : Bytes) :
    (recordedPart env initFromXml node deflateString).1 =
        (initFromDeflatedQueryPart env initFromXml node deflateString).1 ∧
      (recordedPart env initFromXml node deflateString).2.1 =
        (initFromDeflatedQueryPart env initFromXml node deflateString).2 := by
  unfold recordedPart
  rw [initFromDeflatedQueryPart_eq, initFromDeflatedQueryPart_eq]
  cases deflatedQueryText env deflateString <;> exact ⟨rfl, rfl⟩

theorem guarded_nil {texts : Bytes → Prop} {succeeds : Prop} :
    Guarded env texts succeeds [] ↔ ¬ succeeds := by
  constructor
  · intro h hsucceeds
    obtain ⟨_, _, _, _, c, hc, -⟩ := h.document hsucceeds
    cases hc
  · intro h
    exact ⟨by simp, fun hsucceeds => absurd hsucceeds h⟩

/-- A success with one call, on the root of a text. -/
theorem guarded_root {texts : Bytes → Prop} {text : Bytes} (htext : texts text) {rc : Rc} :
    Guarded env texts True [{ element := env.parseMemory text, rc }] ↔
      ∃ doc, env.parseMemory text = some doc ∧ rc = .ok := by
  constructor
  · intro h
    obtain ⟨doc, hdoc⟩ := Option.isSome_iff_exists.mp (h.element _ List.mem_cons_self)
    obtain ⟨_, _, _, _, c, hc, hrc, -⟩ := h.document trivial
    obtain rfl := List.mem_singleton.mp hc
    exact ⟨doc, hdoc, hrc⟩
  · rintro ⟨doc, hdoc, rfl⟩
    refine ⟨?_, fun _ => ⟨text, doc, htext, hdoc, _, List.mem_cons_self, rfl, .inl hdoc⟩⟩
    intro c hc
    obtain rfl := List.mem_singleton.mp hc
    simp [hdoc]

/-- A deflated part is guarded just when its text is a readable document. -/
theorem guarded_recordedPart {texts : Bytes → Prop} {deflateString : Bytes}
    (htexts : ∀ text, deflatedQueryText env deflateString = some text → texts text) :
    Guarded env texts ((recordedPart env initFromXml node deflateString).1 = true)
        (recordedPart env initFromXml node deflateString).2.2 ↔
      PartReadable env initFromXml node deflateString := by
  unfold recordedPart PartReadable IsReadable
  rw [initFromDeflatedQueryPart_eq]
  cases hinflated : deflatedQueryText env deflateString with
  | none =>
    simp [guarded_nil]
  | some text =>
    have hroot := @guarded_root env texts text (htexts text hinflated)
      (initFromXml node (env.parseMemory text)).1
    simp only [recordCall, List.nil_append, Option.some.injEq, forall_eq', hroot]
    constructor
    · rintro ⟨doc, hdoc, hrc⟩
      exact ⟨doc, hdoc, hdoc ▸ hrc⟩
    · rintro ⟨doc, hdoc, hrc⟩
      exact ⟨doc, hdoc, by rw [hdoc]; exact hrc⟩

theorem rejectsMalformedPart_iff (env : Env) (initFromXml : α → Option XmlNode → Rc × α) (node : α)
    (deflateString : Bytes) :
    RejectsMalformedPart env initFromXml node deflateString ↔
      PartReadable env initFromXml node deflateString :=
  guarded_recordedPart fun _ htext => htext

/-- What the calls return is what the node is. -/
theorem recordedMessage_eq (env : Env) (reader : QueryReader α)
    (initFromXml : α → Option XmlNode → Rc × α) (node : α) (message : Bytes)
    (constraint : MessageFormat) :
    let m := initFromMessageWithFormat env (reader.nodeClass env initFromXml) node message
      constraint
    let recorded := recordedMessage env reader initFromXml node message constraint
    recorded.format = m.format ∧ recorded.node.1 = m.node := by
  intro m recorded
  have hm : m = initFromMessageWithFormat env (reader.nodeClass env initFromXml) node message
    constraint := rfl
  have hrecorded : recorded = initFromMessageWithFormat env
    (reader.record.nodeClass env (recordCall initFromXml)) (node, []) message constraint := rfl
  rw [initFromMessageWithFormat_eq] at hm hrecorded
  rw [hm, hrecorded]
  dsimp only
  generalize takenText env message constraint = text
  split_ifs with hmarkup hinit hquery
  · cases env.parseMemory text with
    | none => exact ⟨rfl, rfl⟩
    | some doc =>
      rcases hresult : initFromXml node ((messageRoot doc).map (·.node)) with ⟨rc, after⟩
      cases reader <;> cases rc <;>
        simp [QueryReader.nodeClass, QueryReader.record, saml2NodeClass, recordCall, hresult]
  · cases env.parseMemory text <;> exact ⟨rfl, rfl⟩
  · cases reader with
    | deflated =>
      simp only [QueryReader.nodeClass, QueryReader.record, saml2NodeClass,
        initFromSaml2QueryFields]
      cases saml2QueryMessage (urlencodedToStrings env text) with
      | none => exact ⟨rfl, rfl⟩
      | some req =>
        dsimp only
        rw [initFromDeflatedQueryPart_eq, initFromDeflatedQueryPart_eq]
        cases deflatedQueryText env req <;> exact ⟨rfl, rfl⟩
    | fields initFromQuery =>
      simp only [QueryReader.nodeClass, QueryReader.record]
      rcases initFromQuery node (urlencodedToStrings env text) with ⟨_ | _, after⟩ <;>
        exact ⟨rfl, rfl⟩
  · exact ⟨rfl, rfl⟩

theorem containsText_takenText : ContainsText env message (takenText env message constraint) := by
  unfold takenText
  split_ifs
  · exact .decoded
  · exact .plain

/-- A call on the element of a document is guarded just when there is an element. -/
theorem guarded_messageRoot {texts : Bytes → Prop} {text : Bytes} {doc : XmlNode} {rc : Rc}
    {succeeds : Prop} (htext : texts text) (hdoc : env.parseMemory text = some doc)
    (hrc : succeeds → rc = .ok) :
    Guarded env texts succeeds [{ element := (messageRoot doc).map (·.node), rc }] ↔
      (messageRoot doc).isSome := by
  constructor
  · intro h
    simpa using h.element _ List.mem_cons_self
  · intro hroot
    refine ⟨?_, fun hsucceeds => ⟨text, doc, htext, hdoc, _, List.mem_cons_self, hrc hsucceeds,
      .inr rfl⟩⟩
    intro c hc
    obtain rfl := List.mem_singleton.mp hc
    simpa using hroot

/-- A message that is parsed is guarded just when its document has an element for the node. -/
theorem guarded_markup (hmarkup : takesMarkup constraint (takenText env message constraint) = true) :
    RejectsMalformed env reader initFromXml node message constraint ↔
      (constraint = .unknown ∨ constraint = .soap →
        ∀ doc, env.parseMemory (takenText env message constraint) = some doc →
          (messageRoot doc).isSome) := by
  unfold RejectsMalformed recordedMessage
  rw [initFromMessageWithFormat_eq]
  dsimp only
  rw [if_pos hmarkup]
  cases hparse : env.parseMemory (takenText env message constraint) with
  | none => simp [guarded_nil, MessageFormat.isSuccess]
  | some doc =>
    dsimp only
    by_cases hinit : constraint = .unknown ∨ constraint = .soap
    · rw [if_pos hinit]
      rcases hresult : initFromXml node ((messageRoot doc).map (·.node)) with ⟨rc, after⟩
      have hcall : (reader.record.nodeClass env (recordCall initFromXml)).initFromXml (node, [])
          ((messageRoot doc).map (·.node)) =
            (rc, after, [{ element := (messageRoot doc).map (·.node), rc }]) := by
        cases reader <;>
          simp [QueryReader.nodeClass, QueryReader.record, saml2NodeClass, recordCall, hresult]
      have hguarded (format : MessageFormat) (hrc : format.isSuccess = true → rc = .ok) :=
        @guarded_messageRoot env (ContainsText env message) _ doc rc _ containsText_takenText hparse
          hrc
      rw [hcall]
      simp only [hinit, true_imp_iff, Option.some.injEq, forall_eq']
      cases rc with
      | ok => exact hguarded _ fun _ => rfl
      | _ => exact hguarded .xschemaError fun hsuccess => by cases hsuccess
    · rw [if_neg hinit]
      simp [hinit, guarded_nil, MessageFormat.isSuccess]

/-- A message that is read as a query is guarded just when the query is readable. -/
theorem guarded_query (hmarkup : takesMarkup constraint (takenText env message constraint) = false)
    (hquery : takesQuery constraint (takenText env message constraint) = true) :
    RejectsMalformed env reader initFromXml node message constraint ↔
      reader.Readable env initFromXml node
        (urlencodedToStrings env (takenText env message constraint)) := by
  unfold RejectsMalformed recordedMessage
  rw [initFromMessageWithFormat_eq]
  dsimp only
  rw [if_neg (by simp [hmarkup]), if_pos hquery]
  cases reader with
  | deflated =>
    unfold QueryReader.Readable
    simp only [QueryReader.nodeClass, QueryReader.record, saml2NodeClass, initFromSaml2QueryFields]
    cases hreq : saml2QueryMessage (urlencodedToStrings env (takenText env message constraint)) with
    | none => simp [guarded_nil, MessageFormat.isSuccess]
    | some req =>
      have hpart := @guarded_recordedPart α env initFromXml node (ContainsText env message) req
        fun text htext => .deflated containsText_takenText hreq htext
      simp only [Option.some.injEq, forall_eq', ← hpart]
      unfold recordedPart
      rcases initFromDeflatedQueryPart env (recordCall initFromXml) (node, []) req with
        ⟨_ | _, after⟩ <;> simp [MessageFormat.isSuccess]
  | fields initFromQuery =>
    unfold QueryReader.Readable
    simp only [QueryReader.nodeClass, QueryReader.record]
    rcases initFromQuery node (urlencodedToStrings env (takenText env message constraint)) with
      ⟨_ | _, after⟩ <;> simp [guarded_nil, MessageFormat.isSuccess]

/-- A message and a deflated part are rejected unless they are well formed just when they are so
wherever they are given to a class. -/
theorem rejectsMalformed_iff (env : Env) (reader : QueryReader α)
    (initFromXml : α → Option XmlNode → Rc × α) (node : α) :
    (∀ message constraint, RejectsMalformed env reader initFromXml node message constraint ↔
      WellFormedMessage env reader initFromXml node message constraint) ∧
    ∀ deflateString, RejectsMalformedPart env initFromXml node deflateString ↔
      PartReadable env initFromXml node deflateString := by
  refine ⟨?_, rejectsMalformedPart_iff env initFromXml node⟩
  intro message constraint
  unfold WellFormedMessage
  dsimp only
  cases hmarkup : takesMarkup constraint (takenText env message constraint) with
  | true =>
    rw [if_pos rfl]
    exact guarded_markup hmarkup
  | false =>
    rw [if_neg Bool.false_ne_true]
    cases hquery : takesQuery constraint (takenText env message constraint) with
    | true =>
      simpa using guarded_query hmarkup hquery
    | false =>
      unfold RejectsMalformed recordedMessage
      rw [initFromMessageWithFormat_eq]
      simp [hmarkup, hquery, guarded_nil, MessageFormat.isSuccess]

end

/-! ## A request that is no document -/

/-- An environment where the three bytes that zlib deflates `x` to are inflated. -/
def junkEnv : Env :=
  { messageEnv with
    inflate := fun z size =>
      if z = [171, 0, 0].map Char.ofNat ∧ 1 ≤ size then some ['x'] else none }

/-- The request is taken for a query, though `init_from_xml` was called without element. -/
theorem junk_accepted :
    ¬ ∀ (env : Env) (reader : QueryReader Unit) (initFromXml : Unit → Option XmlNode → Rc × Unit)
      (message : Bytes), RejectsMalformed env reader initFromXml () message .unknown := by
  intro h
  have hguarded := h junkEnv .deflated acceptsXml "SAMLRequest=qwAA".toList
  have hcalls : ((recordedMessage junkEnv .deflated acceptsXml () "SAMLRequest=qwAA".toList
      .unknown).node.2.any (·.element.isNone)) = true := by
    decide +kernel
  obtain ⟨c, hc, hnone⟩ := List.any_eq_true.mp hcalls
  have hsome := hguarded.element c hc
  rw [Option.isNone_iff_eq_none.mp hnone] at hsome
  cases hsome

end Lasso
