import Lasso.Xml.InitCalls

/-!
# Reading a message in one format only

`initFromMessageWithFormat` takes a format that the message must have. A message in another format
should be left alone, and one in this format be read as without the constraint.

## Main definitions

* `OnlyFilters` — the constraint leaves out the other formats, and changes nothing else.
* `FilteredMessage` — the messages for which that is so.

## Main results

* `onlyFilters_iff` — it is so for these messages only.
-/

namespace Lasso

variable {α : Type*}

/-- A constraint leaves out the messages of other formats, and changes nothing else. -/
def OnlyFilters (env : Env) (cls : NodeClass α) (node : α) (message : Bytes)
    (constraint : MessageFormat) : Prop :=
  let detected := initFromMessageWithFormat env cls node message .unknown
  let constrained := initFromMessageWithFormat env cls node message constraint
  if detected.format = constraint then
    constrained.format = constraint ∧ constrained.node = detected.node
  else constrained.format.isSuccess = false ∧ constrained.node = node

/-- What a text is to a class: the document in it, with the code and the node that come of it. -/
def documentResult (env : Env) (cls : NodeClass α) (node : α) (text : Bytes) :
    Option (XmlNode × Rc × α) :=
  if text.contains '<' then
    (env.parseMemory text).map fun doc =>
      (doc, cls.initFromXml node ((messageRoot doc).map (·.node)))
  else none

/-- The same for the query in a text. -/
def queryResult (env : Env) (cls : NodeClass α) (node : α) (text : Bytes) : Bool × α :=
  if text.contains '&' || text.contains '=' then
    cls.initFromQuery node (urlencodedToStrings env text)
  else (false, node)

/-- The text is a document that the class accepts, in a SOAP message or not. -/
def AcceptsDocument (env : Env) (cls : NodeClass α) (node : α) (text : Bytes) (soap : Bool) :
    Prop :=
  ∃ doc after, documentResult env cls node text = some (doc, .ok, after) ∧ doc.isSoap = soap

/-- The messages that a constraint does right by. -/
def FilteredMessage (env : Env) (cls : NodeClass α) (node : α) (message : Bytes) :
    MessageFormat → Prop
  -- the class is never given a document under these two
  | .xml => isDecoded env message = false → ¬ AcceptsDocument env cls node message false
  | .base64 => isDecoded env message = true →
      ¬ AcceptsDocument env cls node (messageText env message) false
  | .soap =>
    if isDecoded env message then ¬ AcceptsDocument env cls node (messageText env message) true
    else ∀ doc rc after, documentResult env cls node message = some (doc, rc, after) →
      if rc = .ok then doc.isSoap = true else after = node
  | .query =>
    if (messageText env message).contains '<' = false ∧
        (queryResult env cls node (messageText env message)).1 = true then
      queryResult env cls node message = queryResult env cls node (messageText env message)
    else queryResult env cls node message = (false, node)
  | .unknown | .error | .xschemaError => True

/-! ## The formats -/

section

variable {env : Env} {cls : NodeClass α} {node : α} {message : Bytes}

/-- What is returned without constraint. -/
theorem unconstrained_eq (env : Env) (cls : NodeClass α) (node : α) (message : Bytes) :
    let m := initFromMessageWithFormat env cls node message .unknown
    (m.format, m.node) =
      if (messageText env message).contains '<' then
        match documentResult env cls node (messageText env message) with
        | none => (.unknown, node)
        | some (doc, .ok, after) => (documentFormat env message .unknown doc, after)
        | some (_, _, after) => (.xschemaError, after)
      else
        match queryResult env cls node (messageText env message) with
        | (false, after) => (.error, after)
        | (true, after) => (.query, after) := by
  have htext : takenText env message .unknown = messageText env message := if_pos (.inl rfl)
  rw [initFromMessageWithFormat_eq]
  dsimp only
  rw [htext]
  unfold documentResult queryResult takesMarkup takesQuery
  generalize messageText env message = text
  cases hmarkup : text.contains '<' with
  | true =>
    simp only [beq_self_eq_true, Bool.true_or, Bool.and_true, if_true, true_or]
    cases env.parseMemory text with
    | none => rfl
    | some doc =>
      dsimp only [Option.map_some]
      generalize cls.initFromXml node ((messageRoot doc).map (·.node)) = result
      obtain ⟨rc, after⟩ := result
      cases rc <;> rfl
  | false =>
    simp only [Bool.and_false, Bool.false_eq_true, if_false, beq_self_eq_true, Bool.true_or,
      Bool.true_and]
    split_ifs
    · generalize cls.initFromQuery node (urlencodedToStrings env text) = result
      obtain ⟨_ | _, after⟩ := result <;> rfl
    · rfl

/-- Under the constraint to SOAP the text is not decoded, and other documents count as well. -/
theorem soapConstraint_eq (env : Env) (cls : NodeClass α) (node : α) (message : Bytes) :
    let m := initFromMessageWithFormat env cls node message .soap
    (m.format, m.node) =
      if message.contains '<' then
        match documentResult env cls node message with
        | none => (.unknown, node)
        | some (doc, .ok, after) => (if doc.isSoap then .soap else .xml, after)
        | some (_, _, after) => (.xschemaError, after)
      else (.error, node) := by
  have htext : takenText env message .soap = message := if_neg (by simp)
  rw [initFromMessageWithFormat_eq]
  dsimp only
  rw [htext]
  unfold documentResult takesMarkup takesQuery documentFormat
  cases hmarkup : message.contains '<' with
  | true =>
    simp only [beq_self_eq_true, Bool.or_true, Bool.and_true, if_true, or_true]
    cases env.parseMemory message with
    | none => rfl
    | some doc =>
      dsimp only [Option.map_some]
      generalize cls.initFromXml node ((messageRoot doc).map (·.node)) = result
      obtain ⟨rc, after⟩ := result
      cases rc <;> simp
  | false => simp

theorem queryConstraint_eq (env : Env) (cls : NodeClass α) (node : α) (message : Bytes) :
    let m := initFromMessageWithFormat env cls node message .query
    (m.format, m.node) =
      match queryResult env cls node message with
      | (false, after) => (.error, after)
      | (true, after) => (.query, after) := by
  have htext : takenText env message .query = message := if_neg (by simp)
  rw [initFromMessageWithFormat_eq]
  dsimp only
  rw [htext]
  unfold queryResult takesMarkup takesQuery
  simp only [reduceCtorEq, beq_self_eq_true, Bool.or_true, Bool.true_and]
  rw [if_neg (by simp)]
  split_ifs
  · generalize cls.initFromQuery node (urlencodedToStrings env message) = result
    obtain ⟨_ | _, after⟩ := result <;> rfl
  · rfl

/-- Under the constraint to plain XML or to base64 nothing is ever read. -/
theorem documentConstraint_eq {constraint : MessageFormat}
    (h : constraint = .xml ∨ constraint = .base64) :
    let m := initFromMessageWithFormat env cls node message constraint
    m.format.isSuccess = false ∧ m.node = node := by
  rw [initFromMessageWithFormat_eq]
  dsimp only
  have hquery (text : Bytes) : takesQuery constraint text = false := by
    rcases h with rfl | rfl <;> rfl
  have hinit : ¬ (constraint = .unknown ∨ constraint = .soap) := by
    rcases h with rfl | rfl <;> simp
  simp only [hquery, hinit, Bool.false_eq_true, if_false]
  split_ifs
  · cases env.parseMemory (takenText env message constraint) with
    | none => exact ⟨rfl, rfl⟩
    | some doc => exact ⟨rfl, rfl⟩
  · exact ⟨rfl, rfl⟩

/-! ## What is detected -/

theorem documentResult_of_not_markup {text : Bytes} (h : text.contains '<' = false) :
    documentResult env cls node text = none := by
  unfold documentResult
  rw [h, if_neg Bool.false_ne_true]

/-- The detected format of a message with an accepted document. -/
theorem detected_eq_document {format : MessageFormat} (hsuccess : format.isSuccess = true)
    (hquery : format ≠ .query) :
    (initFromMessageWithFormat env cls node message .unknown).format = format ↔
      ∃ doc after, documentResult env cls node (messageText env message) =
        some (doc, .ok, after) ∧ documentFormat env message .unknown doc = format := by
  have hformat := congrArg Prod.fst (unconstrained_eq env cls node message)
  dsimp only at hformat
  rw [hformat]
  cases hmarkup : (messageText env message).contains '<' with
  | true =>
    rw [if_pos rfl]
    rcases documentResult env cls node (messageText env message) with _ | ⟨doc, rc, after⟩
    · cases format <;> simp_all [MessageFormat.isSuccess]
    · cases rc with
      | ok => simp
      | _ => cases format <;> simp_all [MessageFormat.isSuccess]
  | false =>
    rw [if_neg Bool.false_ne_true, documentResult_of_not_markup hmarkup]
    rcases queryResult env cls node (messageText env message) with ⟨_ | _, after⟩ <;>
      cases format <;> simp_all [MessageFormat.isSuccess]

theorem detected_eq_xml :
    (initFromMessageWithFormat env cls node message .unknown).format = .xml ↔
      isDecoded env message = false ∧ AcceptsDocument env cls node message false := by
  rw [detected_eq_document rfl (by simp)]
  unfold AcceptsDocument documentFormat
  cases hdecoded : isDecoded env message with
  | true =>
    simp only [reduceCtorEq, false_and, iff_false]
    rintro ⟨doc, after, -, hdoc⟩
    split_ifs at hdoc
    simp_all
  | false =>
    rw [messageText_of_not_decoded hdecoded]
    simp

theorem detected_eq_base64 :
    (initFromMessageWithFormat env cls node message .unknown).format = .base64 ↔
      isDecoded env message = true ∧
        AcceptsDocument env cls node (messageText env message) false := by
  rw [detected_eq_document rfl (by simp)]
  unfold AcceptsDocument documentFormat
  cases isDecoded env message with
  | true => simp
  | false =>
    simp only [Bool.false_eq_true, and_false, if_false, false_and, iff_false]
    rintro ⟨doc, after, -, hdoc⟩
    split_ifs at hdoc

theorem detected_eq_soap :
    (initFromMessageWithFormat env cls node message .unknown).format = .soap ↔
      AcceptsDocument env cls node (messageText env message) true := by
  rw [detected_eq_document rfl (by simp)]
  unfold AcceptsDocument documentFormat
  cases isDecoded env message <;> simp

theorem detected_eq_query :
    (initFromMessageWithFormat env cls node message .unknown).format = .query ↔
      (messageText env message).contains '<' = false ∧
        (queryResult env cls node (messageText env message)).1 = true := by
  have hformat := congrArg Prod.fst (unconstrained_eq env cls node message)
  dsimp only at hformat
  rw [hformat]
  cases hmarkup : (messageText env message).contains '<' with
  | true =>
    rw [if_pos rfl]
    rcases documentResult env cls node (messageText env message) with _ | ⟨doc, rc, after⟩
    · simp
    · cases rc <;> simp [documentFormat]
      split_ifs <;> simp
  | false =>
    rw [if_neg Bool.false_ne_true]
    rcases queryResult env cls node (messageText env message) with ⟨_ | _, after⟩ <;> simp

/-! ## The constraints -/

theorem onlyFilters_document {constraint : MessageFormat}
    (h : constraint = .xml ∨ constraint = .base64) :
    OnlyFilters env cls node message constraint ↔
      (initFromMessageWithFormat env cls node message .unknown).format ≠ constraint := by
  obtain ⟨hfails, hnode⟩ := @documentConstraint_eq α env cls node message constraint h
  unfold OnlyFilters
  dsimp only
  split_ifs with hdetected
  · simp only [hdetected, ne_eq, not_true_eq_false, iff_false, not_and]
    intro hconstrained
    rw [hconstrained] at hfails
    rcases h with rfl | rfl <;> cases hfails
  · simp [hdetected, hfails, hnode]

theorem onlyFilters_query :
    OnlyFilters env cls node message .query ↔ FilteredMessage env cls node message .query := by
  have hquery := Prod.ext_iff.mp (queryConstraint_eq env cls node message)
  have hdetected := @detected_eq_query α env cls node message
  have hnode := Prod.ext_iff.mp (unconstrained_eq env cls node message)
  unfold OnlyFilters FilteredMessage
  dsimp only at hquery hnode ⊢
  simp only [hdetected]
  split_ifs with h
  · obtain ⟨hmarkup, hok⟩ := h
    rw [hmarkup, if_neg Bool.false_ne_true] at hnode
    rw [hquery.1, hquery.2, hnode.2]
    rcases hread : queryResult env cls node (messageText env message) with ⟨_ | _, after⟩
    · rw [hread] at hok
      cases hok
    · rcases queryResult env cls node message with ⟨_ | _, constrained⟩ <;> simp
  · rw [hquery.1, hquery.2]
    rcases queryResult env cls node message with ⟨_ | _, constrained⟩ <;>
      simp [MessageFormat.isSuccess]

/-- A base64 text has no character that a document begins with. -/
theorem not_markup_of_decoded (h : isDecoded env message = true) :
    message.contains '<' = false := by
  have hbase64 : isBase64 message = true := by
    unfold isDecoded at h
    simp only [Bool.and_eq_true] at h
    exact h.1.2
  rw [List.contains_eq_mem, decide_eq_false_iff_not]
  intro hmem
  have hletter := mem_of_isBase64 hbase64 hmem
  revert hletter
  decide

theorem onlyFilters_soap_of_decoded (hdecoded : isDecoded env message = true) :
    OnlyFilters env cls node message .soap ↔
      ¬ AcceptsDocument env cls node (messageText env message) true := by
  have hsoap := Prod.ext_iff.mp (soapConstraint_eq env cls node message)
  have hdetected := @detected_eq_soap α env cls node message
  unfold OnlyFilters
  dsimp only at hsoap ⊢
  rw [not_markup_of_decoded hdecoded, if_neg Bool.false_ne_true] at hsoap
  rw [hsoap.1, hsoap.2, ← hdetected]
  split_ifs with h <;> simp [h, MessageFormat.isSuccess]

theorem onlyFilters_soap_of_not_decoded (hdecoded : isDecoded env message = false) :
    OnlyFilters env cls node message .soap ↔
      ∀ doc rc after, documentResult env cls node message = some (doc, rc, after) →
        if rc = .ok then doc.isSoap = true else after = node := by
  have hsoap := Prod.ext_iff.mp (soapConstraint_eq env cls node message)
  have hnode := Prod.ext_iff.mp (unconstrained_eq env cls node message)
  rw [messageText_of_not_decoded hdecoded] at hnode
  unfold OnlyFilters
  dsimp only at hsoap hnode ⊢
  rw [hsoap.1, hsoap.2, hnode.1, hnode.2]
  cases hmarkup : message.contains '<' with
  | true =>
    rw [if_pos rfl, if_pos rfl]
    rcases documentResult env cls node message with _ | ⟨doc, rc, after⟩
    · simp [MessageFormat.isSuccess]
    · cases rc with
      | ok => cases hdoc : doc.isSoap <;> simp [hdoc, hdecoded, documentFormat,
          MessageFormat.isSuccess]
      | _ => simp [MessageFormat.isSuccess]
  | false =>
    rw [documentResult_of_not_markup hmarkup]
    rcases queryResult env cls node message with ⟨_ | _, constrained⟩ <;>
      simp [MessageFormat.isSuccess]

theorem onlyFilters_soap :
    OnlyFilters env cls node message .soap ↔ FilteredMessage env cls node message .soap := by
  unfold FilteredMessage
  cases hdecoded : isDecoded env message with
  | true =>
    rw [if_pos rfl]
    exact onlyFilters_soap_of_decoded hdecoded
  | false =>
    rw [if_neg Bool.false_ne_true]
    exact onlyFilters_soap_of_not_decoded hdecoded

/-- A constraint does right by these messages only. -/
theorem onlyFilters_iff (env : Env) (cls : NodeClass α) (node : α) (message : Bytes)
    {constraint : MessageFormat} (h : constraint ∈ [.xml, .base64, .soap, .query]) :
    OnlyFilters env cls node message constraint ↔
      FilteredMessage env cls node message constraint := by
  simp only [List.mem_cons, List.not_mem_nil, or_false] at h
  rcases h with rfl | rfl | rfl | rfl
  · rw [onlyFilters_document (.inl rfl), ne_eq, detected_eq_xml, not_and]
    rfl
  · rw [onlyFilters_document (.inr rfl), ne_eq, detected_eq_base64, not_and]
    rfl
  · exact onlyFilters_soap
  · exact onlyFilters_query

end

/-! ## A document read as XML -/

/-- The class that takes its fields from documents only. -/
def documentClass : NodeClass Unit := saml2NodeClass messageEnv acceptsXml

theorem onlyFilters_iff_query :
    OnlyFilters messageEnv documentClass () "<a></a>".toList .query := by
  apply (onlyFilters_iff messageEnv documentClass () _ (by simp)).mpr
  unfold FilteredMessage
  rw [if_neg (by decide +kernel)]
  decide +kernel

/-- A document is detected as XML, and is not read where XML is asked for. -/
theorem document_not_read :
    ¬ ∀ (env : Env) (cls : NodeClass Unit) (node : Unit) (message : Bytes),
      ∀ constraint ∈ [MessageFormat.xml, .base64, .soap, .query],
        OnlyFilters env cls node message constraint := by
  intro h
  have hfilters := h messageEnv documentClass () "<a></a>".toList .xml (by simp)
  have hdetected : (initFromMessageWithFormat messageEnv documentClass () "<a></a>".toList
      .unknown).format = .xml := by
    decide +kernel
  exact onlyFilters_document (.inl rfl) |>.mp hfilters hdetected

end Lasso
