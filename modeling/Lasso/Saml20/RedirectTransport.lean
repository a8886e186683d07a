import Lasso.Saml20.ResponseMessage
import Lasso.Xml.DeflatedQuery
import Lasso.Xml.RelayState

/-!
# A redirect message on its way

The query of a redirect message is appended to the URL of an endpoint, which may have a query of its
own. The receiver is handed what stands behind the `?`. It finds the message, the relay state and
the signature among the components of both.

## Main definitions

* `queryStringOf` — what the receiver is handed.
* `Uninvolved` — a component of the endpoint's own query that no reader looks at.

## Main results

* `read_delivered` — the receiver reads the message that was sent.
* `relaystate_delivered` — the receiver gets the relay state that was sent.
* `buildSignedQuery_unsigned` — nothing is verified of a message that was not signed.
-/

namespace Lasso.Saml20

open Search Pieces

theorem text_of_mem_filter {text : Bytes} :
    ∀ c ∈ text.filter fun c => c ≠ '\x00' ∧ c.toNat < 256, c ≠ '\x00' ∧ c.toNat < 256 := by
  intro c hc
  exact of_decide_eq_true (List.mem_filter.mp hc).2

/-- A text as a C string. Its characters are bytes, so that nothing is left out. -/
def toCString (text : Bytes) : CString :=
  ⟨text.filter fun c => c ≠ '\x00' ∧ c.toNat < 256, text_of_mem_filter⟩

theorem toCString_val {text : Bytes} (h : ∀ c ∈ text, c ≠ '\x00' ∧ c.toNat < 256) :
    (toCString text).val = text := by
  apply List.filter_eq_self.mpr
  intro c hc
  exact decide_eq_true (h c hc)

theorem text_of_isEscaped {c : Char} (h : IsEscaped c) : c ≠ '\x00' ∧ c.toNat < 256 := by
  have hlt : c.toNat < 256 := by
    rcases h with halnum | hmem
    · change ((decide ('A'.val ≤ c.val ∧ c.val ≤ 'Z'.val) ||
        (decide ('a'.val ≤ c.val) && decide (c.val ≤ 'z'.val))) ||
        (decide ('0'.val ≤ c.val) && decide (c.val ≤ '9'.val))) = true at halnum
      simp only [Bool.or_eq_true, decide_eq_true_eq, Bool.and_eq_true] at halnum
      simp only [UInt32.le_iff_toNat_le] at halnum
      have hval : c.toNat = c.val.toNat := rfl
      simp at halnum
      omega
    · have hall : "._~-%".toList.all (fun d => decide (d.toNat < 256)) = true := by decide
      exact of_decide_eq_true (List.all_eq_true.mp hall c hmem)
  refine ⟨?_, hlt⟩
  rintro rfl
  revert h
  unfold IsEscaped
  decide

/-- What follows the first question mark of a URL. -/
def queryStringOf (url : String) : Bytes := (url.toList.dropWhile (· ≠ '?')).drop 1

/-- The names that the readers of a redirect message look for. -/
def redirectFields : List String :=
  [fieldEncoding, fieldRequest, fieldResponse, fieldRelaystate, fieldSigalg, fieldSignature]

/-- A component that is none of the fields, also when it is unescaped. -/
def Uninvolved (env : Env) (component : Bytes) : Prop :=
  '<' ∉ component ∧ fieldValue redirectFields (env.uriUnescape component) = none

/-! ## The URL -/

theorem queryStringOf_concatUrlQuery (url query : String) :
    queryStringOf (concatUrlQuery url query) =
      if '?' ∈ url.toList then queryStringOf url ++ '&' :: query.toList else query.toList := by
  unfold concatUrlQuery queryStringOf
  split_ifs with hmark
  · have hne : url.toList.dropWhile (· ≠ '?') ≠ [] := by
      intro hnil
      have hall := List.dropWhile_eq_nil_iff.mp hnil _ hmark
      simp at hall
    rw [String.toList_append, String.toList_append, List.append_assoc, List.dropWhile_append,
      if_neg (by simpa using hne), List.drop_append_of_le_length (List.length_pos_of_ne_nil hne)]
    rfl
  · have hall : ∀ c ∈ url.toList, (decide (c ≠ '?')) = true := by
      intro c hc
      apply decide_eq_true
      rintro rfl
      exact hmark hc
    rw [String.toList_append, String.toList_append, List.append_assoc,
      List.dropWhile_append_of_pos hall]
    rfl

theorem queryComponents_append (own query : Bytes) :
    queryComponents (own ++ '&' :: query) = queryComponents own ++ queryComponents query := by
  unfold queryComponents
  exact List.splitOnP_append_cons own query rfl

/-- The components of the endpoint's own query, if it has one. -/
def ownComponents (url : String) : List Bytes :=
  if '?' ∈ url.toList then queryComponents (queryStringOf url) else []

theorem queryComponents_concatUrlQuery (url query : String) :
    queryComponents (queryStringOf (concatUrlQuery url query)) =
      ownComponents url ++ queryComponents query.toList := by
  rw [queryStringOf_concatUrlQuery, ownComponents]
  split_ifs
  · exact queryComponents_append _ _
  · rfl

/-! ## The components that arrive -/

section

variable {env : SigningEnv} {msg : QueryMessage} {msgRelayState : Option CString}
  {context : SignatureContext} {query : Bytes}

/-- A component that carries the signature or its algorithm. -/
def IsSignatureField (component : Bytes) : Prop :=
  ∃ name value, component = escapedField name value ∧ name ∈ [fieldSigalg, fieldSignature] ∧
    ∀ c ∈ value, c.toNat < 256

/-- The relay state as a component. -/
def relaystateComponents (msgRelayState : Option CString) : List Bytes :=
  msgRelayState.toList.map fun relayState => escapedField fieldRelaystate relayState.val

/-- A query has the message first, then the relay state, then the signature, if there is one. -/
theorem queryComponents_exported
    (h : exportToQuery env msg msgRelayState context = .returns (.ok, some query)) :
    ∃ text signature, msg.deflated = some text ∧
      queryComponents query = escapedField msg.field text.val ::
        relaystateComponents msgRelayState ++ signature ∧
      (∀ component ∈ signature, IsSignatureField component) ∧
      (env.okSignatureMethod context.signatureMethod = false → signature = []) := by
  cases hmethod : env.okSignatureMethod context.signatureMethod with
  | true =>
    obtain ⟨text, unsigned, htext, hunsigned, hquery⟩ := exportToQuery_eq_ok hmethod h
    obtain ⟨key, sigret, -, -, -, rfl⟩ := querySign_eq_some hquery
    have hcomponents := queryComponents_produced env msg text msgRelayState
      context.signatureMethod sigret hunsigned
    refine ⟨text, _, htext, hcomponents, ?_, by simp⟩
    intro component hcomponent
    rcases List.mem_pair.mp hcomponent with rfl | rfl
    · exact ⟨_, _, rfl, by simp, context.signatureMethod.href_bytes⟩
    · exact ⟨_, _, rfl, by simp, fun c hc => ((env.base64Encode sigret).2 c hc).2⟩
  | false =>
    cases htext : msg.deflated with
    | none => simp [exportToQuery, QueryMessage.buildQuery, htext] at h
    | some text =>
      have hbuild : msg.buildQuery = some (escapedField msg.field text.val) := by
        simp [QueryMessage.buildQuery, htext, escapedField]
      simp only [exportToQuery, hbuild, hmethod, unsignedQuery_eq, Bool.false_eq_true, if_false,
        Asserted.returns.injEq, Prod.mk.injEq, true_and, Option.some.injEq] at h
      have hmessage := escapedField_not_separator msg.field_not_separator
        fun c hc => (text.2 c hc).2
      refine ⟨text, [], rfl, ?_, by simp, fun _ => rfl⟩
      subst h
      cases msgRelayState with
      | none => simpa [relaystateComponents] using queryComponents_singleton hmessage
      | some relayState =>
        have hrelayState : ∀ c ∈ escapedField fieldRelaystate relayState.val,
            isSeparator c = false :=
          escapedField_not_separator (not_separator_of_any (by decide)) fun c hc =>
            (relayState.2 c hc).2
        simp only [relaystateComponents, Option.elim_some, Option.toList_some, List.map_cons,
          List.map_nil, List.append_nil]
        rw [queryComponents_append_cons hmessage, queryComponents_singleton hrelayState]

end

/-! ## The readers -/

/-- A query that arrives: components that nobody looks at, and the query that was sent. -/
structure Delivered (env : Env) (query received : Bytes) : Prop where
  components : ∃ own, (∀ component ∈ own, Uninvolved env component) ∧
    queryComponents received = own ++ queryComponents query

theorem delivered_of_endpoint {env : Env} {url query : String}
    (h : ∀ component ∈ ownComponents url, Uninvolved env component) :
    Delivered env query.toList (queryStringOf (concatUrlQuery url query)) :=
  ⟨_, h, queryComponents_concatUrlQuery url query⟩

section

variable {env : Env} {component : Bytes}

/-- What a field is found to be. -/
theorem fieldValue_field {name : String} (hname : '=' ∉ name.toList) (names : List String)
    (value : Bytes) :
    fieldValue names (name.toList ++ '=' :: value) =
      if name ∈ names then some value else none := by
  rw [fieldValue, cutAtEq_append hname]
  have hany : (names.any fun n => n.toList == name.toList) = decide (name ∈ names) := by
    rw [Bool.eq_iff_iff, List.any_eq_true, decide_eq_true_iff]
    constructor
    · rintro ⟨n, hn, hmatch⟩
      exact String.toList_inj.mp (eq_of_beq hmatch) ▸ hn
    · intro hmem
      exact ⟨name, hmem, beq_self_eq_true _⟩
  simp only [hany, decide_eq_true_iff]

theorem uriUnescape_field (henv : env.CopiesPlain) {name : String} (hname : '%' ∉ name.toList)
    (value : Bytes) :
    env.uriUnescape (name.toList ++ '=' :: value) =
      name.toList ++ '=' :: env.uriUnescape value := by
  have hplain : '%' ∉ name.toList ++ ['='] := by simp [hname]
  have happend := henv.append (s := value) hplain
  simpa using happend

theorem Uninvolved.matchField_eq_false (henv : env.CopiesPlain) (h : Uninvolved env component)
    {name : String} (hname : name ∈ redirectFields)
    (hplain : '%' ∉ name.toList ∧ '=' ∉ name.toList) : matchField name component = false := by
  by_contra hmatch
  obtain ⟨value, rfl⟩ := List.isPrefixOf_iff_prefix.mp (Bool.not_eq_false _ ▸ hmatch)
  have hnone := h.2
  rw [List.append_assoc, List.singleton_append, uriUnescape_field henv hplain.1,
    fieldValue_field hplain.2, if_pos hname] at hnone
  cases hnone

theorem Uninvolved.not_signedField (henv : env.CopiesPlain) (h : Uninvolved env component) :
    isSignedField component = false := by
  have hmatch (name : String) (hname : name ∈ redirectFields)
      (hplain : '%' ∉ name.toList ∧ '=' ∉ name.toList) : matchField name component = false :=
    h.matchField_eq_false henv hname hplain
  unfold isSignedField isSamlMessage isRelaystate
  rw [hmatch fieldResponse (by simp [redirectFields]) (by decide),
    hmatch fieldRequest (by simp [redirectFields]) (by decide),
    hmatch fieldRelaystate (by simp [redirectFields]) (by decide),
    hmatch fieldSigalg (by simp [redirectFields]) (by decide),
    hmatch fieldSignature (by simp [redirectFields]) (by decide)]
  rfl

/-- Fewer names are found in no more components. -/
theorem fieldValue_of_subset {names names' : List String} {field : Bytes} (hsub : names ⊆ names')
    (h : fieldValue names' field = none) : fieldValue names field = none := by
  unfold fieldValue at h ⊢
  split at h
  · rename_i name value hcut
    split_ifs at h with hany
    have hnone : (names.any fun n => n.toList == name) = false := by
      rw [Bool.eq_false_iff]
      intro htrue
      obtain ⟨n, hn, hmatch⟩ := List.any_eq_true.mp htrue
      exact hany (List.any_eq_true.mpr ⟨n, hsub hn, hmatch⟩)
    simp only [hnone, Bool.false_eq_true, if_false]
  · rfl

end

section

variable {env : SigningEnv} {msg : QueryMessage} {msgRelayState : Option CString}
  {context : SignatureContext} {query received : Bytes}

theorem exported_signedField
    (h : exportToQuery env msg msgRelayState context = .returns (.ok, some query)) :
    ∀ component ∈ queryComponents query, isSignedField component = true := by
  obtain ⟨text, signature, -, hcomponents, hsignature, -⟩ := queryComponents_exported h
  intro component hcomponent
  rw [hcomponents, List.cons_append, List.mem_cons, List.mem_append] at hcomponent
  rcases hcomponent with rfl | hrelaystate | hmem
  · unfold isSignedField QueryMessage.field
    cases msg.isResponse <;> rfl
  · obtain ⟨relayState, -, rfl⟩ := List.mem_map.mp hrelaystate
    rfl
  · obtain ⟨name, value, rfl, hname, -⟩ := hsignature component hmem
    rcases List.mem_pair.mp hname with rfl | rfl <;> rfl

/-- The verification sees the components that were sent, and no others. -/
theorem Delivered.filter_signedField (henv : env.CopiesPlain)
    (h : exportToQuery env msg msgRelayState context = .returns (.ok, some query))
    (hdelivered : Delivered env.toEnv query received) :
    (queryComponents received).filter isSignedField = queryComponents query := by
  obtain ⟨own, hown, hreceived⟩ := hdelivered
  have hnone : own.filter isSignedField = [] := by
    apply List.filter_eq_nil_iff.mpr
    intro component hcomponent
    simp [(hown component hcomponent).not_signedField henv]
  rw [hreceived, List.filter_append, hnone, List.nil_append]
  exact List.filter_eq_self.mpr (exported_signedField h)

/-- Nothing is verified of a message that was sent without a signature. -/
theorem buildSignedQuery_unsigned (henv : env.CopiesPlain)
    (h : exportToQuery env msg msgRelayState context = .returns (.ok, some query))
    (hunsigned : env.okSignatureMethod context.signatureMethod = false)
    (hdelivered : Delivered env.toEnv query received) :
    buildSignedQuery env.toEnv received = .error (.ds .invalidSigalg) := by
  obtain ⟨text, signature, -, hcomponents, -, hnil⟩ := queryComponents_exported h
  have hfilter := hdelivered.filter_signedField henv h
  rw [hcomponents, hnil hunsigned, List.append_nil] at hfilter
  have hfields : signedFields env.toEnv received = {
      samlRequestResponse := some (escapedField msg.field text.val)
      relaystate := msgRelayState.map fun relayState =>
        escapedField fieldRelaystate relayState.val } := by
    rw [signedFields_eq_of_filter hfilter, List.foldl_cons, scan_message]
    cases msgRelayState with
    | none => rfl
    | some relayState =>
      simp only [relaystateComponents, Option.toList_some, List.map_cons, List.map_nil,
        List.foldl_cons, List.foldl_nil, scan_relaystateField, Option.map_some]
  unfold buildSignedQuery
  rw [hfields]

/-- The fields of a query that is sent, unescaped. -/
theorem fieldValue_exported (henv : env.Unescapes) {name : String} {names : List String}
    (hplain : '%' ∉ name.toList ∧ '=' ∉ name.toList) {value : Bytes}
    (hvalue : ∀ c ∈ value, c.toNat < 256) :
    fieldValue names (env.uriUnescape (escapedField name value)) =
      if name ∈ names then some value else none := by
  rw [escapedField, uriUnescape_field henv.copies hplain.1, fieldValue_field hplain.2,
    uriUnescape_xmlUriEscapeStr henv hvalue]

theorem fieldValue_nil (names : List String) : fieldValue names [] = none := rfl

/-- What is found for fewer names in the components that nobody looks at. -/
theorem Uninvolved.fieldValue {component : Bytes} (h : Uninvolved env.toEnv component)
    {names : List String} (hnames : names ⊆ redirectFields) :
    fieldValue names (if component = [] then [] else env.uriUnescape component) = none := by
  split_ifs
  · exact fieldValue_nil names
  · exact fieldValue_of_subset hnames h.2

/-- The relay state and the signature are no message. -/
theorem fieldValue_other (henv : env.Unescapes) {signature : List Bytes}
    (hsignature : ∀ component ∈ signature, IsSignatureField component) {names : List String}
    (hnames : ∀ name ∈ [fieldRelaystate, fieldSigalg, fieldSignature], name ∉ names)
    {component : Bytes} (hmem : component ∈ relaystateComponents msgRelayState ++ signature) :
    fieldValue names (if component = [] then [] else env.uriUnescape component) = none := by
  obtain ⟨name, value, rfl, hname, hvalue⟩ : ∃ name value, component = escapedField name value ∧
      name ∈ [fieldRelaystate, fieldSigalg, fieldSignature] ∧ ∀ c ∈ value, c.toNat < 256 := by
    rcases List.mem_append.mp hmem with hrelaystate | hmem
    · obtain ⟨relayState, -, rfl⟩ := List.mem_map.mp hrelaystate
      exact ⟨_, _, rfl, by simp, fun c hc => (relayState.2 c hc).2⟩
    · obtain ⟨name, value, rfl, hname, hvalue⟩ := hsignature component hmem
      exact ⟨name, value, rfl, List.mem_cons_of_mem _ hname, hvalue⟩
  have hplain : '%' ∉ name.toList ∧ '=' ∉ name.toList := by
    have hall : ∀ n ∈ [fieldRelaystate, fieldSigalg, fieldSignature],
        '%' ∉ n.toList ∧ '=' ∉ n.toList := by decide
    exact hall name hname
  rw [if_neg (by simp [escapedField]), fieldValue_exported henv hplain hvalue,
    if_neg (hnames name hname)]

/-- The receiver reads the message that was sent. -/
theorem saml2QueryMessage_delivered (henv : env.Unescapes)
    (h : exportToQuery env msg msgRelayState context = .returns (.ok, some query))
    (hdelivered : Delivered env.toEnv query received) {text : CString}
    (htext : msg.deflated = some text) :
    saml2QueryMessage (urlencodedToStrings env.toEnv received) = some text.val := by
  obtain ⟨text', signature, htext', hcomponents, hsignature, -⟩ := queryComponents_exported h
  obtain rfl : text' = text := Option.some.inj (htext'.symm.trans htext)
  obtain ⟨own, hown, hreceived⟩ := hdelivered
  have hfield : msg.field ∈ [fieldRequest, fieldResponse] := by
    unfold QueryMessage.field
    cases msg.isResponse <;> simp
  have hfieldPlain : '%' ∉ msg.field.toList ∧ '=' ∉ msg.field.toList := by
    unfold QueryMessage.field
    cases msg.isResponse <;> decide
  have hmessage (names : List String) :
      fieldValue names (if escapedField msg.field text'.val = [] then []
        else env.uriUnescape (escapedField msg.field text'.val)) =
        if msg.field ∈ names then some text'.val else none := by
    rw [if_neg (by simp [escapedField])]
    exact fieldValue_exported henv hfieldPlain fun c hc => (text'.2 c hc).2
  have hencoding : lastSome (fieldValue [fieldEncoding]) none
      (urlencodedToStrings env.toEnv received) = none := by
    apply lastSome_eq_none.mpr
    intro field hmem
    obtain ⟨component, hcomponent, rfl⟩ := List.mem_map.mp hmem
    rw [hreceived, hcomponents, List.cons_append] at hcomponent
    rcases List.mem_append.mp hcomponent with hcomponent | hcomponent
    · exact (hown component hcomponent).fieldValue (by simp [redirectFields])
    · rcases List.mem_cons.mp hcomponent with rfl | hcomponent
      · have hne : msg.field ∉ [fieldEncoding] := by
          unfold QueryMessage.field
          cases msg.isResponse <;> decide
        rw [hmessage, if_neg hne]
      · exact fieldValue_other henv hsignature (by decide) hcomponent
  have hrequest : lastSome (fieldValue [fieldRequest, fieldResponse]) none
      (urlencodedToStrings env.toEnv received) = some text'.val := by
    apply lastSome_eq_of_unique
    · refine ⟨_, List.mem_map_of_mem ?_, (hmessage _).trans (if_pos hfield)⟩
      rw [hreceived, hcomponents]
      simp
    · intro field hmem w hw
      obtain ⟨component, hcomponent, rfl⟩ := List.mem_map.mp hmem
      rw [hreceived, hcomponents, List.cons_append] at hcomponent
      rcases List.mem_append.mp hcomponent with hcomponent | hcomponent
      · rw [(hown component hcomponent).fieldValue (by simp [redirectFields])] at hw
        cases hw
      · rcases List.mem_cons.mp hcomponent with rfl | hcomponent
        · rw [hmessage, if_pos hfield] at hw
          exact (Option.some.inj hw).symm
        · rw [fieldValue_other henv hsignature (by decide) hcomponent] at hw
          cases hw
  unfold saml2QueryMessage saml2QueryFields
  rw [hencoding, hrequest]
  rfl

/-- Of at most one relay state, that one is found. -/
theorem foundRelaystate_of_filter {query : Bytes} {relaystate : Option Bytes}
    (h : (queryComponents query).filter isRelaystate = relaystate.toList) :
    foundRelaystate query = relaystate := by
  have hmem {component : Bytes} :
      component ∈ queryComponents query ∧ isRelaystate component = true ↔
        relaystate = some component := by
    rw [← List.mem_filter, h, Option.mem_toList]
  have hpieces := queryComponents_eq_pieces query
  cases hfound : foundRelaystate query with
  | some component =>
    symm
    apply hmem.mp
    unfold foundRelaystate at hfound
    dsimp only at hfound
    split_ifs at hfound with hfirst
    · obtain rfl := Option.some.inj hfound
      exact ⟨by simp [hpieces], hfirst⟩
    · obtain ⟨piece, hpiece, rfl⟩ := Option.map_eq_some_iff.mp hfound
      have hboth : piece ∈ (pieces isSeparator query).2 ∧ isRelaystate piece.2 = true := by
        rcases Option.or_eq_some_iff.mp hpiece with hamp | ⟨-, hsemi⟩
        · have hand := List.find?_some hamp
          exact ⟨List.mem_of_find?_eq_some hamp, (Bool.and_eq_true_iff.mp hand).2⟩
        · have hand := List.find?_some hsemi
          exact ⟨List.mem_of_find?_eq_some hsemi, (Bool.and_eq_true_iff.mp hand).2⟩
      refine ⟨?_, hboth.2⟩
      rw [hpieces]
      exact List.mem_cons_of_mem _ (List.mem_map_of_mem hboth.1)
  | none =>
    symm
    apply Option.eq_none_iff_forall_ne_some.mpr
    intro component hcomponent
    obtain ⟨hin, hrelaystate⟩ := hmem.mpr hcomponent
    unfold foundRelaystate at hfound
    dsimp only at hfound
    split_ifs at hfound with hfirst
    rw [Option.map_eq_none_iff, Option.or_eq_none_iff, List.find?_eq_none, List.find?_eq_none]
      at hfound
    rw [hpieces, List.mem_cons] at hin
    rcases hin with rfl | hrest
    · exact hfirst hrelaystate
    · obtain ⟨piece, hpiece, rfl⟩ := List.mem_map.mp hrest
      have hsep := separator_of_mem hpiece
      rcases Bool.or_eq_true_iff.mp hsep with hamp | hsemi
      · exact hfound.1 piece hpiece (by simp [hamp, hrelaystate])
      · exact hfound.2 piece hpiece (by simp [hsemi, hrelaystate])

theorem xmlUriEscapeStr_ne_nil (henv : env.Unescapes) {text : CString} (hne : text.val ≠ []) :
    xmlUriEscapeStr text.val [] ≠ [] := by
  intro hnil
  apply hne
  rw [← henv.empty, ← hnil, uriUnescape_xmlUriEscapeStr henv fun c hc => (text.2 c hc).2]

/-- The receiver gets the relay state that was sent, and none if none was. -/
theorem relaystate_delivered (henv : env.Unescapes)
    (h : exportToQuery env msg msgRelayState context = .returns (.ok, some query))
    (hdelivered : Delivered env.toEnv query received) :
    getRelaystateFromQuery env.toEnv received = msgRelayState.map (·.val) := by
  obtain ⟨text, signature, -, hcomponents, hsignature, -⟩ := queryComponents_exported h
  have hsigned : (queryComponents received).filter isRelaystate =
      (queryComponents query).filter isRelaystate := by
    rw [← hdelivered.filter_signedField henv.copies h, List.filter_filter]
    congr 1
    funext component
    unfold isSignedField
    cases isRelaystate component <;> simp
  have hmessage : isRelaystate (escapedField msg.field text.val) = false := by
    unfold QueryMessage.field
    cases msg.isResponse <;> rfl
  have hrelaystate : ∀ component ∈ relaystateComponents msgRelayState,
      isRelaystate component = true := by
    intro component hmem
    obtain ⟨relayState, -, rfl⟩ := List.mem_map.mp hmem
    rfl
  have hnone : ∀ component ∈ signature, ¬ isRelaystate component = true := by
    intro component hmem
    obtain ⟨name, value, rfl, hname, -⟩ := hsignature component hmem
    rcases List.mem_pair.mp hname with rfl | rfl
    · exact Bool.false_ne_true
    · exact Bool.false_ne_true
  have hfilter : (queryComponents received).filter isRelaystate =
      (msgRelayState.map fun relayState =>
        escapedField fieldRelaystate relayState.val).toList := by
    rw [hsigned, hcomponents, List.cons_append, List.filter_cons_of_neg (by simp [hmessage]),
      List.filter_append, List.filter_eq_self.mpr hrelaystate, List.filter_eq_nil_iff.mpr hnone,
      List.append_nil, relaystateComponents]
    cases msgRelayState <;> rfl
  rw [getRelaystateFromQuery_eq, foundRelaystate_of_filter hfilter, Option.map_map]
  congr 1
  funext relayState
  have hdrop : (escapedField fieldRelaystate relayState.val).drop relaystateHead.length =
      xmlUriEscapeStr relayState.val [] := rfl
  rw [Function.comp_apply, relaystateValue, hdrop, unescapeValue,
    uriUnescape_xmlUriEscapeStr henv fun c hc => (relayState.2 c hc).2]
  split_ifs with hempty
  · by_contra hne
    exact xmlUriEscapeStr_ne_nil henv (Ne.symm hne) hempty
  · rfl

/-! ## The format that is recognised -/

/-- Base64 has nothing but padding behind an equals sign. -/
theorem isBase64_eq_false {message : Bytes} {c : Char} (hc : IsEscaped c)
    (h : ['=', c] <:+: message) : isBase64 message = false := by
  obtain ⟨before, after, rfl⟩ := h
  have hpadding : (c == '=' || c == '\n' || c == '\r') = false := by
    rcases hc with halnum | hmem
    · cases hpad : c == '=' || c == '\n' || c == '\r' with
      | false => rfl
      | true =>
        simp only [Bool.or_eq_true, beq_iff_eq] at hpad
        rcases hpad with (rfl | rfl) | rfl <;> revert halnum <;> decide
    · have hall : "._~-%".toList.all (fun d => !(d == '=' || d == '\n' || d == '\r')) = true := by
        decide
      exact Bool.not_eq_true' _ ▸ List.all_eq_true.mp hall c hmem
  unfold isBase64
  dsimp only
  rw [List.isEmpty_eq_false_iff]
  intro hnil
  have hmem : c ∈ (before ++ ['=', c] ++ after).dropWhile fun c =>
      c.isAlphanum || c == '+' || c == '/' || c == '\n' || c == '\r' := by
    rw [List.append_assoc, List.dropWhile_append]
    split_ifs
    · rw [List.cons_append, List.dropWhile_cons_of_neg (by decide)]
      simp
    · simp
  have hdropped := List.dropWhile_eq_nil_iff.mp hnil c hmem
  rw [hpadding] at hdropped
  cases hdropped

theorem not_less_of_escaped {c : Char} (h : IsEscaped c) : c ≠ '<' := by
  rintro rfl
  rcases h with halnum | hmem
  · revert halnum
    decide
  · revert hmem
    decide

theorem Delivered.not_less
    (h : exportToQuery env msg msgRelayState context = .returns (.ok, some query))
    (hdelivered : Delivered env.toEnv query received) : '<' ∉ received := by
  obtain ⟨text, signature, -, hcomponents, hsignature, -⟩ := queryComponents_exported h
  obtain ⟨own, hown, hreceived⟩ := hdelivered
  have hfield {name : String} {value : Bytes} (hname : '<' ∉ name.toList)
      (hvalue : ∀ c ∈ value, c.toNat < 256) : '<' ∉ escapedField name value := by
    unfold escapedField
    intro hmem
    rcases List.mem_append.mp hmem with hmem | hmem
    · exact hname hmem
    · rcases List.mem_cons.mp hmem with heq | hmem
      · cases heq
      · exact not_less_of_escaped (isEscaped_of_mem hvalue hmem) rfl
  intro hless
  obtain ⟨component, hcomponent, hmem⟩ := exists_mem_splitOnP (p := isSeparator) rfl hless
  have hin : component ∈ queryComponents received := hcomponent
  rw [hreceived, hcomponents, List.cons_append] at hin
  rcases List.mem_append.mp hin with hin | hin
  · exact (hown component hin).1 hmem
  · rcases List.mem_cons.mp hin with rfl | hin
    · have hname : '<' ∉ msg.field.toList := by
        unfold QueryMessage.field
        cases msg.isResponse <;> decide
      exact hfield hname (fun c hc => (text.2 c hc).2) hmem
    · rcases List.mem_append.mp hin with hin | hin
      · obtain ⟨relayState, -, rfl⟩ := List.mem_map.mp hin
        exact hfield (by decide) (fun c hc => (relayState.2 c hc).2) hmem
      · obtain ⟨name, value, rfl, hname, hvalue⟩ := hsignature component hin
        have hall : ∀ n ∈ [fieldSigalg, fieldSignature], '<' ∉ n.toList := by decide
        exact hfield (hall name hname) hvalue hmem

/-- The message stands in what is received. -/
theorem Delivered.infix_message
    (h : exportToQuery env msg msgRelayState context = .returns (.ok, some query))
    (hdelivered : Delivered env.toEnv query received) {text : CString}
    (htext : msg.deflated = some text) : escapedField msg.field text.val <:+: received := by
  obtain ⟨text', signature, htext', hcomponents, -⟩ := queryComponents_exported h
  obtain rfl : text' = text := Option.some.inj (htext'.symm.trans htext)
  obtain ⟨own, -, hreceived⟩ := hdelivered
  have hmem : escapedField msg.field text'.val ∈ queryComponents received := by
    rw [hreceived, hcomponents]
    simp
  exact infix_of_mem_splitOnP hmem

theorem Delivered.not_base64 (henv : env.Unescapes)
    (h : exportToQuery env msg msgRelayState context = .returns (.ok, some query))
    (hdelivered : Delivered env.toEnv query received) {text : CString}
    (htext : msg.deflated = some text) (hne : text.val ≠ []) : isBase64 received = false := by
  obtain ⟨c, rest, hescaped⟩ :=
    List.exists_cons_of_ne_nil (xmlUriEscapeStr_ne_nil henv hne)
  have hc : IsEscaped c := by
    apply isEscaped_of_mem fun c hc => (text.2 c hc).2
    rw [hescaped]
    exact List.mem_cons_self
  apply isBase64_eq_false hc
  refine List.IsInfix.trans ?_ (hdelivered.infix_message h htext)
  rw [escapedField, hescaped]
  exact ⟨msg.field.toList, rest, by simp⟩

/-- The receiver initialises its object from the text that was sent. -/
theorem read_delivered {α : Type*} (henv : env.Unescapes)
    {initFromXml : α → Option XmlNode → Rc × α} {node : α}
    (h : exportToQuery env msg msgRelayState context = .returns (.ok, some query))
    (hdelivered : Delivered env.toEnv query received) {text : CString} {xml : Bytes}
    (htext : msg.deflated = some text) (hne : text.val ≠ [])
    (hxml : deflatedPartText env.toEnv text.val = .text xml) :
    initFromMessageWithFormat env.toEnv (saml2NodeClass env.toEnv initFromXml) node received
        .unknown =
      { format := .query, node := (initFromXml node (env.parseMemory xml)).2 } := by
  have hequals : received.contains '=' = true := by
    rw [List.contains_iff_mem]
    apply (hdelivered.infix_message h htext).subset
    simp [escapedField]
  have hless : received.contains '<' = false := by
    rw [← Bool.not_eq_true, List.contains_iff_mem]
    exact hdelivered.not_less h
  have hinit : (saml2NodeClass env.toEnv initFromXml).initFromQuery node
      (urlencodedToStrings env.toEnv received) =
        (true, (initFromXml node (env.parseMemory xml)).2) := by
    unfold saml2NodeClass initFromSaml2QueryFields
    dsimp only
    rw [saml2QueryMessage_delivered henv h hdelivered htext]
    exact initFromDeflatedQueryPart_of_text hxml
  unfold initFromMessageWithFormat
  simp only [hdelivered.not_base64 henv h htext hne, Bool.and_false, Bool.false_and,
    Bool.false_eq_true, if_false, hless, hequals, Bool.or_true, beq_self_eq_true, Bool.true_or,
    Bool.and_true, if_true, hinit]

/-! ## The signature -/

/-- The receiver has a SAML 2.0 provider with keys, among them the one for a signing key. -/
structure Knows (env : SigningEnv) (p : Provider) (signatureKey : Option SecKey) : Prop where
  conformance : p.conformance = .saml20
  hasKeys : p.keyless = false
  keyPair : ∀ key ∈ signatureKey, ∃ verificationKey ∈ p.signingPublicKeys,
    KeyPair env key verificationKey

/-- One key that accepts the query is enough. -/
theorem verifyQuerySignature_of_key {p : Provider} {key : SecKey}
    (hconformance : p.conformance = .saml20) (hkeys : p.keyless = false)
    (hkey : key ∈ p.signingPublicKeys)
    (h : saml2QueryVerifySignature env.toEnv received key = .ok) :
    p.verifyQuerySignature env.toEnv received = .ok := by
  have hne : p.signingPublicKeys ≠ [] := List.ne_nil_of_mem hkey
  have hload : p.tryLoadingPublicKeys true = .ok p.signingPublicKeys := by
    unfold Provider.tryLoadingPublicKeys
    simp [hkeys, hne]
  unfold Provider.verifyQuerySignature
  simp only [hload, hconformance]
  exact (firstSuccess_of_ne_nil hne).mpr ⟨key, hkey, h⟩

/-- The signature verifies just if the message was signed. -/
theorem verifyQuerySignature_delivered (henv : env.Documented)
    (hflag : env.verifySignatureFlag = true)
    (h : exportToQuery env msg msgRelayState context = .returns (.ok, some query))
    (hdelivered : Delivered env.toEnv query received) {p : Provider}
    (hknows : Knows env p context.signatureKey) :
    p.verifyQuerySignature env.toEnv received = .ok ↔
      env.okSignatureMethod context.signatureMethod = true := by
  constructor
  · intro hok
    by_contra hunsigned
    have hnone := buildSignedQuery_unsigned henv.unescapes.copies h
      (Bool.not_eq_true _ ▸ hunsigned) hdelivered
    obtain ⟨key, -, content, hcontent, -⟩ := Provider.verifyQuerySignature_eq_ok hflag hok
    unfold Provider.signedContent at hcontent
    rw [hknows.conformance, hnone] at hcontent
    cases hcontent
  · intro hmethod
    have hfilter := hdelivered.filter_signedField henv.unescapes.copies h
    obtain ⟨text, unsigned, -, hunsigned, hquery⟩ := exportToQuery_eq_ok hmethod h
    obtain ⟨key, sigret, hkey, hsize, hsign, rfl⟩ := querySign_eq_some hquery
    obtain ⟨verificationKey, hmem, hpair⟩ := hknows.keyPair key hkey
    rw [queryComponents_produced env msg text msgRelayState _ _ hunsigned] at hfilter
    have hbuild := buildSignedQuery_produced henv hunsigned hfilter
    have hverify := (queryVerifyHelper_sign henv hpair hmethod hsize hsign).2
    apply verifyQuerySignature_of_key hknows.conformance hknows.hasKeys hmem
    unfold saml2QueryVerifySignature
    rw [hflag, hbuild]
    exact hverify

end

/-! ## A message between two providers -/

section

variable {env : DeflateEnv} {xml : CString}

/-- The deflated message of a text. -/
def deflatedMessage (env : DeflateEnv) (isResponse : Bool) (xml : CString) : QueryMessage where
  isResponse := isResponse
  deflated := (xmlnodeBuildDeflatedQuery env xml).map toCString

theorem deflatedMessage_eq_some (henv : env.Documented) {isResponse : Bool} {text : CString}
    (h : (deflatedMessage env isResponse xml).deflated = some text) :
    xmlnodeBuildDeflatedQuery env xml = some text.val ∧ text.val ≠ [] := by
  obtain ⟨escaped, hescaped, rfl⟩ := Option.map_eq_some_iff.mp h
  obtain ⟨z, hz, rfl⟩ := Option.map_eq_some_iff.mp hescaped
  have hval : (toCString (xmlUriEscapeStr (env.base64Encode z).val [])).val =
      xmlUriEscapeStr (env.base64Encode z).val [] := by
    apply toCString_val
    intro c hc
    exact text_of_isEscaped (isEscaped_of_mem (fun c hc => ((env.base64Encode z).2 c hc).2) hc)
  rw [hval]
  refine ⟨hescaped, xmlUriEscapeStr_ne_nil henv.unescapes ?_⟩
  have hpos := List.length_pos_iff.mpr (henv.deflated _ _ _ hz).1
  have hlength := henv.encodes z
  exact List.ne_nil_of_length_pos (by omega)

/-- Whatever the endpoint's own query, the receiver of a redirect message reads the text that was
sent and the relay state, and verifies a signature just if the message was signed. -/
theorem redirect_delivered (henv : env.Documented) (hsigning : env.toSigningEnv.Documented)
    (hflag : env.verifySignatureFlag = true) (hreads : RoundTrips env xml) {α : Type*}
    (initFromXml : α → Option XmlNode → Rc × α) (node : α) {isResponse : Bool}
    {msgRelayState : Option CString} {context : SignatureContext} {query : Bytes}
    (h : exportToQuery env.toSigningEnv (deflatedMessage env isResponse xml) msgRelayState context =
      .returns (.ok, some query))
    {url : String} (hurl : ∀ component ∈ ownComponents url, Uninvolved env.toEnv component)
    {p : Provider} (hknows : Knows env.toSigningEnv p context.signatureKey) :
    let received := queryStringOf (concatUrlQuery url (String.ofList query))
    let m := initFromMessageWithFormat env.toEnv (saml2NodeClass env.toEnv initFromXml) node
      received .unknown
    m.format = .query ∧ m.node = (initFromXml node (env.parseMemory xml.val)).2 ∧
      getRelaystateFromQuery env.toEnv received = msgRelayState.map (·.val) ∧
      (p.verifyReceived env.toEnv (m.received received) = .ok ↔
        env.okSignatureMethod context.signatureMethod = true) := by
  intro received m
  have hdelivered : Delivered env.toEnv query received := by
    have hendpoint := @delivered_of_endpoint env.toEnv url (String.ofList query) hurl
    rwa [String.toList_ofList] at hendpoint
  obtain ⟨text, signature, htext, -⟩ := queryComponents_exported h
  obtain ⟨hbuilt, hne⟩ := deflatedMessage_eq_some henv htext
  have hm : m = { format := .query, node := (initFromXml node (env.parseMemory xml.val)).2 } :=
    read_delivered henv.unescapes h hdelivered htext hne (hreads _ hbuilt)
  refine ⟨by rw [hm], by rw [hm], relaystate_delivered henv.unescapes h hdelivered, ?_⟩
  rw [hm]
  exact verifyQuerySignature_delivered hsigning hflag h hdelivered hknows

end

/-! ## A message to an endpoint with a query of its own -/

/-- The primitives of the signed example with the compressor of the two messages. -/
def redirectDeflateEnv : DeflateEnv :=
  { signingEnv with
    deflate := deflateEnv.deflate
    inflate := deflateEnv.inflate }

theorem redirectDeflateEnv_signing : redirectDeflateEnv.toSigningEnv.Documented where
  unescapes := unescapes_percentDecode rfl
  digestSize_pos := signingEnv_documented.digestSize_pos
  decodes := signingEnv_documented.decodes

theorem redirectDeflateEnv_documented : redirectDeflateEnv.Documented where
  unescapes := unescapes_percentDecode rfl
  decodes s _ hne _ _ := signingEnv_documented.decodes s hne
  encodes s := by
    by_cases hs : s = "sig".toList
    · subst hs
      decide
    · have hencode : (redirectDeflateEnv.base64Encode s).val = s.flatMap unary := by
        simp only [redirectDeflateEnv, signingEnv, if_neg hs]
      rw [hencode]
      clear hs hencode
      induction s with
      | nil => exact Nat.le_refl 0
      | cons c s ih =>
        rw [List.flatMap_cons, List.length_append, List.length_cons]
        have hone : 1 ≤ (unary c).length := by simp [unary]
        omega
  deflated := deflateEnv_documented.deflated
  inflates := deflateEnv_documented.inflates
  inflated := deflateEnv_documented.inflated

/-- The short message as a text. -/
def shortText : CString := ⟨shortMessage.1, cString_of_message (.inl rfl)⟩

theorem redirectDeflateEnv_roundTrips : RoundTrips redirectDeflateEnv shortText := by
  intro query hquery
  unfold xmlnodeBuildDeflatedQuery at hquery
  obtain ⟨z, hz, rfl⟩ := Option.map_eq_some_iff.mp hquery
  apply (deflatedPartText_eq_text_iff redirectDeflateEnv_documented hz).mpr
  obtain rfl : shortMessage.2 = z := Option.some.inj hz
  decide

/-- A provider with the key of the example. -/
def redirectProvider : Provider where
  providerId := some "sp"
  conformance := .saml20
  publicKey := some "pk"
  signingPublicKeys := [redirectKey]

theorem redirectProvider_knows :
    Knows redirectDeflateEnv.toSigningEnv redirectProvider (some redirectKey) where
  conformance := rfl
  hasKeys := rfl
  keyPair key hkey := by
    obtain rfl := Option.some.inj hkey
    exact ⟨redirectKey, List.mem_singleton_self _, signingEnv_keyPair.sameId,
      signingEnv_keyPair.sameSize, signingEnv_keyPair.size_pos, signingEnv_keyPair.shared,
      signingEnv_keyPair.rsa, signingEnv_keyPair.dsa⟩

theorem uninvolved_tenant :
    ∀ component ∈ ownComponents "https://idp/sso?tenant=1",
      Uninvolved signingEnv.toEnv component := by
  have hown : ownComponents "https://idp/sso?tenant=1" = ["tenant=1".toList] := by
    decide +kernel
  rw [hown]
  intro component hcomponent
  rw [List.mem_singleton.mp hcomponent]
  exact ⟨by decide, by decide +kernel⟩

/-- The short message with a relay state, signed, to an endpoint that has the query `tenant=1`. -/
theorem shortMessage_delivered :
    ∃ query, exportToQuery redirectDeflateEnv.toSigningEnv
        (deflatedMessage redirectDeflateEnv false shortText) (some (toCString "a&b".toList))
        { signatureMethod := .rsaSha256, signatureKey := some redirectKey } =
          .returns (.ok, some query) ∧
      let received := queryStringOf (concatUrlQuery "https://idp/sso?tenant=1"
        (String.ofList query))
      let m := initFromMessageWithFormat redirectDeflateEnv.toEnv
        (saml2NodeClass redirectDeflateEnv.toEnv fun n _ => (.ok, n + 1)) 0 received .unknown
      m.node = 1 ∧ getRelaystateFromQuery redirectDeflateEnv.toEnv received = some "a&b".toList ∧
        redirectProvider.verifyReceived redirectDeflateEnv.toEnv (m.received received) = .ok := by
  have hdeflate : redirectDeflateEnv.deflate shortText.val (shortText.val.length * 2) =
      some shortMessage.2 := by decide
  obtain ⟨query, hquery⟩ : ∃ query, exportToQuery redirectDeflateEnv.toSigningEnv
      (deflatedMessage redirectDeflateEnv false shortText) (some (toCString "a&b".toList))
      { signatureMethod := .rsaSha256, signatureKey := some redirectKey } =
        .returns (.ok, some query) := by
    have hsign (content : Bytes) : SignatureMethod.rsaSha256.sign redirectDeflateEnv.toSigningEnv
        redirectKey content = some "sig".toList := rfl
    refine exportToQuery_returns
      (congrArg (Option.map toCString) (xmlnodeBuildDeflatedQuery_of_deflate hdeflate))
      (unsignedQuery_eq _ _) (by decide) rfl ?_ ?_ (hsign _)
    · intro hhmac
      cases hhmac
    · decide
  obtain ⟨-, hnode, hrelaystate, hverify⟩ := redirect_delivered redirectDeflateEnv_documented
    redirectDeflateEnv_signing rfl redirectDeflateEnv_roundTrips (fun n _ => (.ok, n + 1)) 0 hquery
    uninvolved_tenant redirectProvider_knows
  exact ⟨query, hquery, hnode, hrelaystate, hverify.mpr (by decide)⟩

end Lasso.Saml20
