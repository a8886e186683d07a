import Lasso.Xml.UriEscape

/-!
# The signature of a redirect message

`querySign` appends the algorithm to a query, signs the whole and appends the signature.
`saml2QueryVerifySignature` puts the signed string together again from the components it finds in
the query received. The first half of the module is the signer, the second the proof that the two
strings are the same and that what was signed is accepted.

## Main definitions

* `querySign` — `lasso_query_sign`.
* `exportToQuery` — `lasso_saml20_profile_export_to_query`.

## Main results

* `exportToQuery_verifies` — a query that is produced verifies, among any other parameters.
-/

namespace Lasso

/-! ## The signer -/

/-- The end of a function that has a `g_assert`: a value, or the program is stopped. -/
inductive Asserted (α : Type) where
  | returns (a : α)
  | aborted
deriving DecidableEq

/-- `LassoSignatureContext` -/
structure SignatureContext where
  signatureMethod : SignatureMethod
  signatureKey : Option SecKey
deriving DecidableEq

/-- The environment with the signing primitives, which fail with `none`. -/
structure SigningEnv extends Env where
  /-- `RSA_sign`, given the digest -/
  rsaSign : DigestAlg → Bytes → SecKey → Option Bytes
  /-- `DSA_sign` -/
  dsaSign : DigestAlg → Bytes → SecKey → Option Bytes
  /-- `xmlSecBase64Encode` without line breaks -/
  base64Encode : Bytes → CString

/-- `lasso_ok_signature_method` -/
def Env.okSignatureMethod (env : Env) (method : SignatureMethod) : Bool :=
  method != .none && env.allowedSignatureMethod method

/-- The primitive's signature of `content`. -/
def SignatureMethod.sign (env : SigningEnv) (method : SignatureMethod) (key : SecKey)
    (content : Bytes) : Option Bytes :=
  match method.keyDataId with
  | .rsa => env.rsaSign method.digestAlg (env.digest method.digestAlg content) key
  | .dsa => env.dsaSign method.digestAlg (env.digest method.digestAlg content) key
  | .hmac => some (env.hmac method.digestAlg key.value content)
  | .other => Option.none

/-- `new_query`: the string that is signed. -/
def newQuery (query : Bytes) (method : SignatureMethod) : Bytes :=
  query ++ "&SigAlg=".toList ++ xmlUriEscapeStr method.href.toList []

/-- `lasso_query_sign` -/
def querySign (env : SigningEnv) (query : Option Bytes) (context : SignatureContext) :
    Asserted (Option Bytes) :=
  let method := context.signatureMethod
  match query with
  | none => .returns none
  | some query =>
    if !env.okSignatureMethod method then .returns none
    else
      let wrongKey := if method.keyDataId = .hmac then .returns none else .aborted
      match context.signatureKey with
      | none => wrongKey
      | some key =>
        match method.signatureSize env.toEnv key with
        | .error _ => wrongKey
        | .ok sigretSize =>
          -- HMAC key should be at least 128 bits long
          if method.keyDataId = .hmac ∧ key.value.length < 16 then .returns none
          else
            match method.sign env key (newQuery query method) with
            | none => if sigretSize ≠ 0 then .aborted else .returns none
            | some sigret =>
              if sigret.length ≠ sigretSize then .aborted
              else
                .returns (some (newQuery query method ++ "&Signature=".toList ++
                  xmlUriEscapeStr (env.base64Encode sigret).val []))

/-- `lasso_url_add_parameters`: nothing is returned if there are no pairs. -/
def urlAddParameters (url : Option Bytes) (pairs : List (Bytes × Bytes)) : Option Bytes :=
  (pairs.foldl (fun (oldUrl, _) (key, value) =>
    let pair := xmlUriEscapeStr key [] ++ ['='] ++ xmlUriEscapeStr value []
    let newUrl := oldUrl.elim pair (· ++ ['&'] ++ pair)
    (some newUrl, some newUrl)) (url, none)).2

/-- A SAML 2.0 message as it goes into a query: a request or a response, and what
`lasso_node_build_deflated_query` encodes, if it can deflate the message. -/
structure QueryMessage where
  isResponse : Bool
  deflated : Option CString
deriving DecidableEq

def QueryMessage.field (message : QueryMessage) : String :=
  if message.isResponse then fieldResponse else fieldRequest

/-- `lasso_node_build_query` -/
def QueryMessage.buildQuery (message : QueryMessage) : Option Bytes :=
  message.deflated.map fun text => message.field.toList ++ ['='] ++ xmlUriEscapeStr text.val []

/-- `unsigned_query`, given the query of the message. -/
def unsignedQuery (messageQuery : Bytes) (msgRelayState : Option CString) : Option Bytes :=
  match msgRelayState with
  | none => some messageQuery
  | some relayState =>
    urlAddParameters (some messageQuery) [(fieldRelaystate.toList, relayState.val)]

/-- `lasso_saml20_profile_export_to_query`, given the `msg_relayState` of the profile. -/
def exportToQuery (env : SigningEnv) (msg : QueryMessage) (msgRelayState : Option CString)
    (context : SignatureContext) : Asserted (Rc × Option Bytes) :=
  match msg.buildQuery with
  | none => .returns (.profile .buildingQueryFailed, none)
  | some messageQuery =>
    let unsigned := unsignedQuery messageQuery msgRelayState
    if env.okSignatureMethod context.signatureMethod then
      match querySign env unsigned context with
      | .aborted => .aborted
      | .returns none => .returns (.profile .buildingQueryFailed, none)
      | .returns (some result) => .returns (.ok, some result)
    else .returns (.ok, unsigned)

/-! ## The string that is verified -/

/-- The primitives and codecs do what their documentation says. -/
structure SigningEnv.Documented (env : SigningEnv) : Prop where
  unescapes : env.Unescapes
  digestSize_pos : ∀ alg, 0 < env.digestSize alg
  decodes : ∀ s, s ≠ [] →
    env.base64Decode (env.base64Encode s).val (s.length + 1) = ((s.length : Int), s)

/-- A key for signing, and the one that the receiver verifies with. -/
structure KeyPair (env : SigningEnv) (signing verification : SecKey) : Prop where
  sameId : verification.id = signing.id
  sameSize : env.keySize verification = env.keySize signing
  size_pos : 0 < env.keySize signing
  shared : signing.id = .hmac → verification.value = signing.value
  rsa : ∀ alg digest sigret, env.rsaSign alg digest signing = some sigret →
    env.rsaVerify alg digest sigret verification = true
  dsa : ∀ alg digest sigret, env.dsaSign alg digest signing = some sigret →
    env.dsaVerify alg digest sigret verification = true

/-- The component has one of the names that the verification looks for. -/
def isSignedField (component : Bytes) : Bool :=
  isSamlMessage component || isRelaystate component || matchField fieldSigalg component ||
    matchField fieldSignature component

/-- Other parameters do not change what is verified. -/
theorem signedFields_eq_of_filter {env : Env} {received : Bytes} {components : List Bytes}
    (h : (queryComponents received).filter isSignedField = components) :
    signedFields env received = components.foldl (SignedFields.scan env) {} := by
  rw [← h, List.foldl_filter, signedFields]
  congr 1
  funext fields component
  unfold SignedFields.scan isSignedField isRelaystate
  grind

theorem queryComponents_append_cons {component : Bytes}
    (h : ∀ c ∈ component, isSeparator c = false) (rest : Bytes) :
    queryComponents (component ++ '&' :: rest) = component :: queryComponents rest :=
  List.splitOnP_append_cons_of_forall_mem h '&' rfl rest

theorem queryComponents_singleton {component : Bytes}
    (h : ∀ c ∈ component, isSeparator c = false) : queryComponents component = [component] :=
  List.splitOnP_eq_singleton h

/-- A component that the signer writes. -/
def escapedField (name : String) (value : Bytes) : Bytes :=
  name.toList ++ '=' :: xmlUriEscapeStr value []

theorem QueryMessage.field_not_separator (message : QueryMessage) :
    ∀ c ∈ message.field.toList, isSeparator c = false := by
  refine not_separator_of_any ?_
  unfold QueryMessage.field
  split <;> decide

theorem SignatureMethod.href_bytes (method : SignatureMethod) :
    ∀ c ∈ method.href.toList, c.toNat < 256 := by
  have htext : ∀ c ∈ method.href.toList, c ≠ '\x00' ∧ c.toNat < 256 := by
    refine cString_of_all ?_
    cases method <;> decide
  exact fun c hc => (htext c hc).2

theorem newQuery_eq (query : Bytes) (method : SignatureMethod) :
    newQuery query method = query ++ '&' :: escapedField fieldSigalg method.href.toList := by
  simp [newQuery, escapedField, fieldSigalg]

theorem escapedField_not_separator {name : String} {value : Bytes}
    (hname : ∀ c ∈ name.toList, isSeparator c = false) (hvalue : ∀ c ∈ value, c.toNat < 256) :
    ∀ c ∈ escapedField name value, isSeparator c = false := by
  intro c hc
  rcases List.mem_append.mp hc with hc | hc
  · exact hname c hc
  · rcases List.mem_cons.mp hc with rfl | hc
    · rfl
    · exact (isEscaped_of_mem hvalue hc).not_separator

/-- The components of a query that is produced. -/
def producedComponents (env : SigningEnv) (msg : QueryMessage) (text : CString)
    (msgRelayState : Option CString) (method : SignatureMethod) (sigret : Bytes) : List Bytes :=
  escapedField msg.field text.val ::
    (msgRelayState.toList.map fun relayState => escapedField fieldRelaystate relayState.val) ++
    [escapedField fieldSigalg method.href.toList,
      escapedField fieldSignature (env.base64Encode sigret).val]

theorem unsignedQuery_eq (messageQuery : Bytes) (msgRelayState : Option CString) :
    unsignedQuery messageQuery msgRelayState = some (messageQuery ++ msgRelayState.elim []
      fun relayState => '&' :: escapedField fieldRelaystate relayState.val) := by
  cases msgRelayState with
  | none => simp [unsignedQuery]
  | some relayState =>
    have hname : xmlUriEscapeStr fieldRelaystate.toList [] = fieldRelaystate.toList := by decide
    simp [unsignedQuery, urlAddParameters, hname, escapedField]

/-- A signed query is produced from a signature of the expected size. -/
theorem querySign_eq_some {env : SigningEnv} {query result : Bytes} {context : SignatureContext}
    (h : querySign env (some query) context = .returns (some result)) :
    ∃ key sigret, context.signatureKey = some key ∧
      context.signatureMethod.signatureSize env.toEnv key = .ok sigret.length ∧
      context.signatureMethod.sign env key (newQuery query context.signatureMethod) =
        some sigret ∧
      result = newQuery query context.signatureMethod ++ '&' ::
        escapedField fieldSignature (env.base64Encode sigret).val := by
  have hwrongKey : ∀ p [Decidable p], (if p then Asserted.returns none else .aborted) ≠
      Asserted.returns (some result) := by
    intro p _
    split_ifs <;> simp
  unfold querySign at h
  dsimp only at h
  split at h
  · simp at h
  · cases hkey : context.signatureKey with
    | none => exact absurd (by simpa [hkey] using h) (hwrongKey _)
    | some key =>
      cases hsize : context.signatureMethod.signatureSize env.toEnv key with
      | error rc => exact absurd (by simpa [hkey, hsize] using h) (hwrongKey _)
      | ok sigretSize =>
        simp only [hkey, hsize] at h
        split at h
        · simp at h
        · cases hsign : context.signatureMethod.sign env key
            (newQuery query context.signatureMethod) with
          | none =>
            simp only [hsign] at h
            split_ifs at h
            simp at h
          | some sigret =>
            simp only [hsign] at h
            split_ifs at h with hlength
            have hresult := Option.some.inj (Asserted.returns.inj h)
            refine ⟨key, sigret, rfl, ?_, hsign, ?_⟩
            · rw [hsize, not_not.mp hlength]
            · simp [← hresult, escapedField, fieldSignature]

theorem exportToQuery_eq_ok {env : SigningEnv} {msg : QueryMessage}
    {msgRelayState : Option CString} {context : SignatureContext} {query : Bytes}
    (hmethod : env.okSignatureMethod context.signatureMethod = true)
    (h : exportToQuery env msg msgRelayState context = .returns (.ok, some query)) :
    ∃ text unsigned, msg.deflated = some text ∧
      unsignedQuery (escapedField msg.field text.val) msgRelayState = some unsigned ∧
      querySign env (some unsigned) context = .returns (some query) := by
  cases htext : msg.deflated with
  | none => simp [exportToQuery, QueryMessage.buildQuery, htext] at h
  | some text =>
    have hbuild : msg.buildQuery = some (escapedField msg.field text.val) := by
      simp [QueryMessage.buildQuery, htext, escapedField]
    refine ⟨text, _, rfl, unsignedQuery_eq _ _, ?_⟩
    simp only [exportToQuery, hbuild, hmethod, if_true, unsignedQuery_eq] at h
    split at h
    · cases h
    · cases h
    · rename_i result hresult
      rw [hresult]
      simpa using h

/-- A query is produced wherever the primitive gives a signature of the expected size, for HMAC
with a key of at least 128 bits. -/
theorem exportToQuery_returns {env : SigningEnv} {msg : QueryMessage} {text : CString}
    {msgRelayState : Option CString} {context : SignatureContext} {key : SecKey}
    {unsigned sigret : Bytes} (htext : msg.deflated = some text)
    (hunsigned : unsignedQuery (escapedField msg.field text.val) msgRelayState = some unsigned)
    (hmethod : env.okSignatureMethod context.signatureMethod = true)
    (hkey : context.signatureKey = some key)
    (hlong : context.signatureMethod.keyDataId = .hmac → 16 ≤ key.value.length)
    (hsize : context.signatureMethod.signatureSize env.toEnv key = .ok sigret.length)
    (hsign : context.signatureMethod.sign env key (newQuery unsigned context.signatureMethod) =
      some sigret) :
    ∃ query, exportToQuery env msg msgRelayState context = .returns (.ok, some query) := by
  have hbuild : msg.buildQuery = some (escapedField msg.field text.val) := by
    simp [QueryMessage.buildQuery, htext, escapedField]
  have hshort : ¬ (context.signatureMethod.keyDataId = .hmac ∧ key.value.length < 16) := by
    rintro ⟨hhmac, hlt⟩
    exact absurd (hlong hhmac) (by omega)
  have hsigned : querySign env (some unsigned) context =
      .returns (some (newQuery unsigned context.signatureMethod ++ "&Signature=".toList ++
        xmlUriEscapeStr (env.base64Encode sigret).val [])) := by
    simp [querySign, hmethod, hkey, hsize, hshort, hsign]
  simp only [exportToQuery, hbuild, hunsigned, hmethod, if_true, hsigned]
  exact ⟨_, rfl⟩

/-- The components of a query that is produced are those that the signer wrote. -/
theorem queryComponents_produced (env : SigningEnv) (msg : QueryMessage) (text : CString)
    (msgRelayState : Option CString) (method : SignatureMethod) (sigret : Bytes) {unsigned : Bytes}
    (hunsigned : unsignedQuery (escapedField msg.field text.val) msgRelayState = some unsigned) :
    queryComponents (newQuery unsigned method ++ '&' ::
        escapedField fieldSignature (env.base64Encode sigret).val) =
      producedComponents env msg text msgRelayState method sigret := by
  have hmessage := escapedField_not_separator msg.field_not_separator fun c hc => (text.2 c hc).2
  have hsigAlg : ∀ c ∈ escapedField fieldSigalg method.href.toList, isSeparator c = false :=
    escapedField_not_separator (not_separator_of_any (by decide)) (method.href_bytes)
  have hsignature : ∀ c ∈ escapedField fieldSignature (env.base64Encode sigret).val,
      isSeparator c = false :=
    escapedField_not_separator (not_separator_of_any (by decide)) fun c hc =>
      ((env.base64Encode sigret).2 c hc).2
  rw [unsignedQuery_eq] at hunsigned
  obtain rfl := Option.some.inj hunsigned
  cases msgRelayState with
  | none =>
    simp only [newQuery_eq, producedComponents, Option.elim_none, List.append_nil,
      List.append_assoc, List.cons_append, List.nil_append, Option.toList_none, List.map_nil]
    rw [queryComponents_append_cons hmessage, queryComponents_append_cons hsigAlg,
      queryComponents_singleton hsignature]
  | some relayState =>
    have hrelayState : ∀ c ∈ escapedField fieldRelaystate relayState.val, isSeparator c = false :=
      escapedField_not_separator (not_separator_of_any (by decide)) fun c hc =>
        (relayState.2 c hc).2
    simp only [newQuery_eq, producedComponents, Option.elim_some, List.append_assoc,
      List.cons_append, List.nil_append, Option.toList_some, List.map_cons, List.map_nil]
    rw [queryComponents_append_cons hmessage, queryComponents_append_cons hrelayState,
      queryComponents_append_cons hsigAlg, queryComponents_singleton hsignature]

section

variable (env : Env) (fields : SignedFields) (value : Bytes)

theorem scan_message (msg : QueryMessage) :
    fields.scan env (escapedField msg.field value) =
      { fields with samlRequestResponse := some (escapedField msg.field value) } := by
  unfold QueryMessage.field
  cases msg.isResponse <;> rfl

theorem scan_relaystateField :
    fields.scan env (escapedField fieldRelaystate value) =
      { fields with relaystate := some (escapedField fieldRelaystate value) } := rfl

theorem scan_sigAlg :
    fields.scan env (escapedField fieldSigalg value) =
      { fields with sigAlg := some (escapedField fieldSigalg value) } := rfl

theorem scan_signature :
    fields.scan env (escapedField fieldSignature value) =
      { fields with
        b64Signature := (cutAtEq (escapedField fieldSignature value)).map
          fun (_, b64) => env.uriUnescape b64 } := rfl

end

/-- The string put together from the components that the signer wrote is the one it signed. -/
theorem buildSignedQuery_produced {env : SigningEnv} (henv : env.Documented) {msg : QueryMessage}
    {text : CString} {msgRelayState : Option CString} {method : SignatureMethod} {sigret : Bytes}
    {unsigned received : Bytes}
    (hunsigned : unsignedQuery (escapedField msg.field text.val) msgRelayState = some unsigned)
    (hreceived : (queryComponents received).filter isSignedField =
      producedComponents env msg text msgRelayState method sigret) :
    buildSignedQuery env.toEnv received = .ok {
      message := escapedField msg.field text.val
      signedQuery := newQuery unsigned method
      b64Signature := (env.base64Encode sigret).val
      algorithm := method.href.toList } := by
  have hsignature : cutAtEq (escapedField fieldSignature (env.base64Encode sigret).val) =
      some (fieldSignature.toList, xmlUriEscapeStr (env.base64Encode sigret).val []) :=
    cutAtEq_append (by decide) _
  have hsigAlg : cutAtEq (escapedField fieldSigalg method.href.toList) =
      some (fieldSigalg.toList, xmlUriEscapeStr method.href.toList []) :=
    cutAtEq_append (by decide) _
  have hbytes : ∀ c ∈ (env.base64Encode sigret).val, c.toNat < 256 :=
    fun c hc => ((env.base64Encode sigret).2 c hc).2
  have hfields : signedFields env.toEnv received = {
      samlRequestResponse := some (escapedField msg.field text.val)
      relaystate := msgRelayState.map fun relayState =>
        escapedField fieldRelaystate relayState.val
      sigAlg := some (escapedField fieldSigalg method.href.toList)
      b64Signature := some (env.base64Encode sigret).val } := by
    rw [signedFields_eq_of_filter hreceived, producedComponents]
    cases msgRelayState with
    | none =>
      simp only [Option.toList_none, List.map_nil, List.cons_append, List.nil_append,
        List.foldl_cons, List.foldl_nil, scan_message, scan_sigAlg, scan_signature, hsignature,
        Option.map_some, uriUnescape_xmlUriEscapeStr henv.unescapes hbytes, Option.map_none]
    | some relayState =>
      simp only [Option.toList_some, List.map_cons, List.map_nil, List.cons_append,
        List.nil_append, List.foldl_cons, List.foldl_nil, scan_message, scan_relaystateField,
        scan_sigAlg, scan_signature, hsignature, Option.map_some,
        uriUnescape_xmlUriEscapeStr henv.unescapes hbytes]
  rw [unsignedQuery_eq] at hunsigned
  obtain rfl := Option.some.inj hunsigned
  unfold buildSignedQuery
  rw [hfields]
  simp only [hsigAlg, Option.elim_some,
    uriUnescape_xmlUriEscapeStr henv.unescapes method.href_bytes]
  cases msgRelayState with
  | none => simp [newQuery_eq]
  | some relayState => simp [newQuery_eq]

/-- The signature that `lasso_query_verify_helper` decodes, for a key of this size. -/
def decodedSignature (env : Env) (b64Signature : Bytes) (keySize : Nat) : Bytes :=
  (decodeBuffer env (env.base64Decode b64Signature (keySize + 1)).2 (keySize + 1)).take keySize

theorem decodedSignature_base64Encode {env : SigningEnv} (henv : env.Documented) {sigret : Bytes}
    (hne : sigret ≠ []) :
    decodedSignature env.toEnv (env.base64Encode sigret).val sigret.length = sigret := by
  rw [decodedSignature, henv.decodes sigret hne, decodeBuffer, List.take_take,
    Nat.min_eq_left (Nat.le_succ _), List.take_left]

theorem KeyPair.signatureSize_eq {env : SigningEnv} {key verificationKey : SecKey}
    (hpair : KeyPair env key verificationKey) (method : SignatureMethod) :
    method.signatureSize env.toEnv verificationKey = method.signatureSize env.toEnv key := by
  unfold SignatureMethod.signatureSize
  rw [hpair.sameId, hpair.sameSize]
  by_cases hid : key.id = .hmac
  · rw [hpair.shared hid]
  · simp [hid]

theorem KeyPair.verify_of_sign {env : SigningEnv} {key verificationKey : SecKey}
    (hpair : KeyPair env key verificationKey) {method : SignatureMethod} {content sigret : Bytes}
    {size : Nat} (hsize : method.signatureSize env.toEnv key = .ok size)
    (hsign : method.sign env key content = some sigret) :
    method.verify env.toEnv verificationKey content sigret = true := by
  unfold SignatureMethod.signatureSize at hsize
  unfold SignatureMethod.sign at hsign
  unfold SignatureMethod.verify
  cases hid : method.keyDataId with
  | rsa =>
    simp only [hid] at hsign ⊢
    exact hpair.rsa _ _ _ hsign
  | dsa =>
    simp only [hid] at hsign ⊢
    exact hpair.dsa _ _ _ hsign
  | hmac =>
    simp only [hid] at hsign hsize ⊢
    split_ifs at hsize with hkey
    have hkeyId : key.id = .hmac := by tauto
    rw [hpair.shared hkeyId, Option.some.inj hsign]
    exact beq_self_eq_true sigret
  | other => simp [hid] at hsign

theorem signatureSize_pos {env : SigningEnv} (henv : env.Documented) {key verificationKey : SecKey}
    (hpair : KeyPair env key verificationKey) {method : SignatureMethod} {size : Nat}
    (h : method.signatureSize env.toEnv key = .ok size) : 0 < size := by
  have hkeySize := hpair.size_pos
  have hdigestSize := henv.digestSize_pos method.digestAlg
  unfold SignatureMethod.signatureSize at h
  split at h <;> split_ifs at h <;> cases h <;> assumption

theorem ofHref_href {method : SignatureMethod} (h : method ≠ .none) :
    SignatureMethod.ofHref method.href.toList = some method := by
  cases method with
  | none => exact absurd rfl h
  | _ => decide

/-- What is signed with a key verifies with the other key of the pair. -/
theorem queryVerifyHelper_sign {env : SigningEnv} (henv : env.Documented)
    {method : SignatureMethod} {key verificationKey : SecKey}
    (hpair : KeyPair env key verificationKey)
    (hmethod : env.okSignatureMethod method = true) {content sigret : Bytes}
    (hsize : method.signatureSize env.toEnv key = .ok sigret.length)
    (hsign : method.sign env key content = some sigret) :
    sigret ≠ [] ∧ queryVerifyHelper env.toEnv content (env.base64Encode sigret).val
      method.href.toList verificationKey = .ok := by
  have hpos : 0 < sigret.length := signatureSize_pos henv hpair hsize
  have hne : sigret ≠ [] := List.ne_nil_of_length_pos hpos
  obtain ⟨hnone, hallowed⟩ := Bool.and_eq_true_iff.mp hmethod
  have hdecoded := decodedSignature_base64Encode henv hne
  have hverify := hpair.verify_of_sign hsize hsign
  refine ⟨hne, ?_⟩
  unfold queryVerifyHelper
  rw [ofHref_href (by simpa using hnone)]
  dsimp only
  rw [hpair.signatureSize_eq, hsize]
  rw [decodedSignature, henv.decodes sigret hne] at hdecoded
  simp [hallowed, hdecoded, hverify, henv.decodes sigret hne, hne]

/-- A query that is produced verifies when it is received among any other parameters: the string
that is verified is the one that was signed, with its algorithm and its signature. -/
theorem exportToQuery_verifies {env : SigningEnv} (henv : env.Documented) {msg : QueryMessage}
    {msgRelayState : Option CString} {context : SignatureContext} {key verificationKey : SecKey}
    (hmethod : env.okSignatureMethod context.signatureMethod = true)
    (hkey : context.signatureKey = some key) (hpair : KeyPair env key verificationKey)
    {query : Bytes}
    (h : exportToQuery env msg msgRelayState context = .returns (.ok, some query))
    {received : Bytes}
    (hreceived : (queryComponents received).filter isSignedField = queryComponents query) :
    ∃ messageQuery unsigned sigret q, msg.buildQuery = some messageQuery ∧
      unsignedQuery messageQuery msgRelayState = some unsigned ∧
      context.signatureMethod.sign env key (newQuery unsigned context.signatureMethod) =
        some sigret ∧
      buildSignedQuery env.toEnv received = .ok q ∧
      q.signedQuery = newQuery unsigned context.signatureMethod ∧
      q.algorithm = context.signatureMethod.href.toList ∧
      decodedSignature env.toEnv q.b64Signature sigret.length = sigret ∧
      saml2QueryVerifySignature env.toEnv received verificationKey = .ok := by
  obtain ⟨text, unsigned, htext, hunsigned, hquery⟩ := exportToQuery_eq_ok hmethod h
  obtain ⟨key', sigret, hkey', hsize, hsign, rfl⟩ := querySign_eq_some hquery
  obtain rfl : key = key' := Option.some.inj (hkey.symm.trans hkey')
  rw [queryComponents_produced env msg text msgRelayState _ _ hunsigned] at hreceived
  have hbuild := buildSignedQuery_produced henv hunsigned hreceived
  obtain ⟨hne, hverify⟩ := queryVerifyHelper_sign henv hpair hmethod hsize hsign
  refine ⟨_, unsigned, sigret, _, ?_, hunsigned, hsign, hbuild, rfl, rfl,
    decodedSignature_base64Encode henv hne, ?_⟩
  · simp [QueryMessage.buildQuery, htext, escapedField]
  · unfold saml2QueryVerifySignature
    rw [hbuild]
    cases env.verifySignatureFlag with
    | false => rfl
    | true => exact hverify

/-! ## A signed message among other parameters -/

/-- One number in a notation of ones, with a zero behind it. -/
def unary (c : Char) : Bytes := List.replicate c.toNat '1' ++ ['0']

/-- The characters of a text in that notation, where `n` ones were already read. -/
def readUnary : Nat → Bytes → Bytes
  | n, '1' :: rest => readUnary (n + 1) rest
  | n, _ :: rest => Char.ofNat n :: readUnary 0 rest
  | _, [] => []

theorem readUnary_replicate (k n : Nat) (rest : Bytes) :
    readUnary n (List.replicate k '1' ++ '0' :: rest) = Char.ofNat (n + k) :: readUnary 0 rest := by
  induction k generalizing n with
  | zero => rfl
  | succ k ih =>
    rw [List.replicate_succ, List.cons_append, readUnary, ih]
    congr 2
    omega

theorem readUnary_flatMap_unary (s : Bytes) : readUnary 0 (s.flatMap unary) = s := by
  induction s with
  | nil => rfl
  | cons c s ih =>
    rw [List.flatMap_cons, unary, List.append_assoc, List.singleton_append, readUnary_replicate, ih,
      Nat.zero_add, Char.ofNat_toNat]

/-- A primitive whose signatures are all `sig`, and codecs under which that is `c2ln`. -/
def signingEnv : SigningEnv :=
  { redirectEnv with
    rsaVerify := fun _ _ signature key => signature == "sig".toList && key == redirectKey
    rsaSign := fun _ _ key => if key = redirectKey then some "sig".toList else none
    dsaSign := fun _ _ _ => none
    digestSize := fun _ => 20
    base64Decode := fun b _ =>
      let s := if b = "c2ln".toList then "sig".toList else readUnary 0 b
      (s.length, s)
    base64Encode := fun s =>
      if s = "sig".toList then ⟨"c2ln".toList, cString_of_all (by decide)⟩
      else ⟨s.flatMap unary, by
        intro c hc
        obtain ⟨b, -, hb⟩ := List.mem_flatMap.mp hc
        rcases List.mem_append.mp hb with hb | hb
        · rw [List.eq_of_mem_replicate hb]
          decide
        · rw [List.mem_singleton.mp hb]
          decide⟩ }

theorem signingEnv_documented : signingEnv.Documented where
  unescapes := unescapes_percentDecode rfl
  digestSize_pos _ := Nat.zero_lt_succ 19
  decodes s hne := by
    by_cases hs : s = "sig".toList
    · subst hs
      rfl
    · have hencode : (signingEnv.base64Encode s).val = s.flatMap unary := by
        simp only [signingEnv, if_neg hs]
      have hother : s.flatMap unary ≠ "c2ln".toList := by
        obtain ⟨c, s, rfl⟩ := List.exists_cons_of_ne_nil hne
        rw [List.flatMap_cons, unary]
        cases c.toNat <;> simp [List.replicate_succ]
      rw [hencode]
      simp only [signingEnv, if_neg hother, readUnary_flatMap_unary]

theorem signingEnv_keyPair : KeyPair signingEnv redirectKey redirectKey where
  sameId := rfl
  sameSize := rfl
  size_pos := by decide
  shared _ := rfl
  rsa _ _ sigret h := by
    obtain rfl : "sig".toList = sigret := Option.some.inj h
    rfl
  dsa _ _ _ h := by cases h

/-- A request with a relay state that contains both separators. -/
def signedRequest : Asserted (Rc × Option Bytes) :=
  exportToQuery signingEnv
    { isResponse := false, deflated := some ⟨"one".toList, cString_of_all (by decide)⟩ }
    (some ⟨"a&b;c".toList, cString_of_all (by decide)⟩)
    { signatureMethod := .rsaSha256, signatureKey := some redirectKey }

theorem exportToQuery_verifies_signedRequest :
    ∃ query, signedRequest = .returns (.ok, some query) ∧
      saml2QueryVerifySignature signingEnv.toEnv ("lang=en;".toList ++ query ++ "&x".toList)
        redirectKey = .ok := by
  obtain ⟨query, hquery⟩ : ∃ query, signedRequest = .returns (.ok, some query) := ⟨_, rfl⟩
  refine ⟨query, hquery, ?_⟩
  have hreceived : (queryComponents ("lang=en;".toList ++ query ++ "&x".toList)).filter
      isSignedField = queryComponents query := by
    cases hquery
    decide +kernel
  obtain ⟨-, -, -, -, -, -, -, -, -, -, -, hverifies⟩ :=
    exportToQuery_verifies signingEnv_documented (by decide) rfl signingEnv_keyPair hquery hreceived
  exact hverifies

end Lasso
