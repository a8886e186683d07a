import Mathlib.Data.List.DropRight
import Lasso.Xml.Query

/-!
# The verified message and the parsed message of a query

The verification of a SAML 2.0 query takes the last component that literally starts with
`SAMLRequest=` or `SAMLResponse=`. The parser unescapes each component first and takes the last
one whose name then is `SAMLRequest` or `SAMLResponse`. Both find the same message unless a
component after the signed one has its name percent-encoded (`unsignedMessage`).
-/

namespace Lasso

open Search

/-- `xmlURIUnescapeString` copies every character other than `%`. -/
def Env.CopiesPlain (env : Env) : Prop :=
  ∀ c s, c ≠ '%' → env.uriUnescape (c :: s) = c :: env.uriUnescape s

/-- The unescaped value of the component that was placed in the signed string. -/
def SignedQuery.value (env : Env) (q : SignedQuery) : Option Bytes :=
  (cutAtEq q.message).map fun (_, value) => env.uriUnescape value

/-- The components after the one that the verification takes for the message. -/
def componentsAfterMessage (query : Bytes) : List Bytes :=
  (queryComponents query).rtakeWhile fun component => !isSamlMessage component

/-- The message which the parser reads from the components after the signed one. -/
def unsignedMessage (env : Env) (query : Bytes) : Option Bytes :=
  lastSome (fieldValue [fieldRequest, fieldResponse]) none
    ((componentsAfterMessage query).map fun component =>
      if component = [] then [] else env.uriUnescape component)

/-- The query names no encoding other than DEFLATE. -/
def encodingAccepted (env : Env) (query : Bytes) : Bool :=
  (saml2QueryFields (urlencodedToStrings env query)).1.all (· == deflateEncoding.toList)

theorem cutAtEq_append {name : Bytes} (h : '=' ∉ name) (value : Bytes) :
    cutAtEq (name ++ '=' :: value) = some (name, value) := by
  have hne : ∀ c ∈ name, (decide (c ≠ '=')) = true := by
    intro c hc
    simp only [decide_eq_true_eq]
    rintro rfl
    exact h hc
  unfold cutAtEq
  rw [List.dropWhile_append_of_pos hne, List.takeWhile_append_of_pos hne]
  simp

theorem Env.CopiesPlain.append {env : Env} (henv : env.CopiesPlain) {l s : Bytes} (h : '%' ∉ l) :
    env.uriUnescape (l ++ s) = l ++ env.uriUnescape s := by
  induction l with
  | nil => rfl
  | cons c l ih =>
    obtain ⟨hc, hl⟩ := not_or.mp (List.mem_cons.not.mp h)
    rw [List.cons_append, henv _ _ (Ne.symm hc), ih hl, List.cons_append]

theorem samlRequestResponse_foldl (env : Env) (fields : SignedFields) (components : List Bytes) :
    (components.foldl (SignedFields.scan env) fields).samlRequestResponse =
      lastSome (fun c => if isSamlMessage c then some c else none) fields.samlRequestResponse
        components := by
  induction components generalizing fields with
  | nil => rfl
  | cons component components ih =>
    rw [List.foldl_cons, ih, lastSome_cons]
    congr 1
    unfold SignedFields.scan
    split_ifs <;> rfl

/-- The signed message is the last component with a literal name, and it splits the query. -/
theorem signedQuery_split {env : Env} {query : Bytes} {q : SignedQuery}
    (h : buildSignedQuery env query = .ok q) :
    ∃ before, queryComponents query = before ++ q.message :: componentsAfterMessage query ∧
      isSamlMessage q.message := by
  have hmessage : (signedFields env query).samlRequestResponse = some q.message := by
    unfold buildSignedQuery at h
    dsimp only at h
    split at h
    · cases h
    · split at h
      · cases h
      · split at h
        · cases h
        · cases h
          assumption
  rw [signedFields, samlRequestResponse_foldl] at hmessage
  obtain ⟨before, component, after, hsplit, hcomponent, hafter⟩ := lastSome_eq_some hmessage
  split_ifs at hcomponent with hsaml
  obtain rfl : component = q.message := Option.some.inj hcomponent
  have hnot : ∀ c ∈ after.reverse, (!isSamlMessage c) = true := by
    intro c hc
    have := hafter c (List.mem_reverse.mp hc)
    simpa using this
  have hcomponents : componentsAfterMessage query = after := by
    rw [componentsAfterMessage, hsplit, List.rtakeWhile, List.reverse_append, List.reverse_cons,
      List.append_assoc, List.takeWhile_append_of_pos hnot]
    simp [hsaml]
  exact ⟨before, by rw [hcomponents]; exact hsplit, hsaml⟩

/-- The parser reads from the signed component the unescaped value. -/
theorem fieldValue_signed {env : Env} (henv : env.CopiesPlain) {component : Bytes}
    (h : isSamlMessage component) :
    ∃ value, cutAtEq component = some value ∧ component ≠ [] ∧
      fieldValue [fieldRequest, fieldResponse] (env.uriUnescape component) =
        some (env.uriUnescape value.2) := by
  have key : ∀ name : String, name ∈ [fieldRequest, fieldResponse] → '%' ∉ name.toList →
      '=' ∉ name.toList → matchField name component → ∃ value, cutAtEq component = some value ∧
        component ≠ [] ∧ fieldValue [fieldRequest, fieldResponse] (env.uriUnescape component) =
        some (env.uriUnescape value.2) := by
    intro name hname hpercent heq hmatch
    obtain ⟨value, rfl⟩ := List.isPrefixOf_iff_prefix.mp hmatch
    have hplain : '%' ∉ name.toList ++ ['='] := by simp [hpercent]
    refine ⟨(name.toList, value), ?_, by simp, ?_⟩
    · simpa using cutAtEq_append heq value
    · rw [henv.append hplain, List.append_assoc, List.singleton_append]
      unfold fieldValue
      rw [cutAtEq_append heq _]
      have hany : ([fieldRequest, fieldResponse].any fun n => n.toList == name.toList) = true :=
        List.any_eq_true.mpr ⟨name, hname, by simp⟩
      simp only [hany, if_true]
  rcases Bool.or_eq_true_iff.mp h with h | h
  · exact key _ (by simp) (by decide) (by decide) h
  · exact key _ (by simp) (by decide) (by decide) h

/-- The message the parser decodes: one from a component after the signed one, else the value of
the signed component. -/
theorem saml2QueryMessage_eq {env : Env} (henv : env.CopiesPlain) {query : Bytes} {q : SignedQuery}
    (h : buildSignedQuery env query = .ok q) :
    saml2QueryMessage (urlencodedToStrings env query) =
      if encodingAccepted env query then (unsignedMessage env query).or (q.value env)
      else none := by
  obtain ⟨before, hsplit, hsaml⟩ := signedQuery_split h
  obtain ⟨value, hcut, hne, hvalue⟩ := fieldValue_signed henv hsaml
  have hreq : (saml2QueryFields (urlencodedToStrings env query)).2 =
      (unsignedMessage env query).or (q.value env) := by
    simp only [saml2QueryFields, urlencodedToStrings, unsignedMessage]
    rw [hsplit, List.map_append, lastSome_append, List.map_cons, lastSome_cons, if_neg hne, hvalue,
      Option.some_or, lastSome_eq_or]
    simp [SignedQuery.value, hcut]
  unfold saml2QueryMessage encodingAccepted
  rw [← hreq]
  rcases saml2QueryFields (urlencodedToStrings env query) with ⟨enc, req⟩
  cases enc <;> simp

/-- A query whose signature is accepted is processed with the value of the signed component exactly
when no later component brings a different message under a percent-encoded name. -/
theorem saml2Query_agreement {env : Env} (henv : env.CopiesPlain)
    (hflag : env.verifySignatureFlag = true) {query : Bytes} {key : SecKey}
    (h : saml2QueryVerifySignature env query key = .ok) :
    ∃ q, buildSignedQuery env query = .ok q ∧ ContentAccepted env q.signedQuery key ∧
      ((∀ v, saml2QueryMessage (urlencodedToStrings env query) = some v → q.value env = some v) ↔
        (encodingAccepted env query →
          ∀ v, unsignedMessage env query = some v → q.value env = some v)) := by
  obtain ⟨q, hq, haccepted⟩ := saml2QueryVerifySignature_eq_ok hflag h
  refine ⟨q, hq, haccepted, ?_⟩
  rw [saml2QueryMessage_eq henv hq]
  by_cases henc : encodingAccepted env query = true
  · cases hunsigned : unsignedMessage env query <;> simp [henc]
  · simp [henc]

/-- `xmlURIUnescapeString` on strings whose escapes have two hexadecimal digits. -/
def percentDecode : Bytes → Bytes
  | '%' :: hi :: lo :: rest =>
    Char.ofNat (16 * hexDigit hi + hexDigit lo) :: percentDecode rest
  | c :: rest => c :: percentDecode rest
  | [] => []
where
  hexDigit (c : Char) : Nat :=
    if c.isDigit then c.toNat - '0'.toNat else c.toLower.toNat - 'a'.toNat + 10

theorem percentDecode_cons {c : Char} (hc : c ≠ '%') (s : Bytes) :
    percentDecode (c :: s) = c :: percentDecode s := by
  rw [percentDecode]
  rintro _ _ _ rfl
  exact absurd rfl hc

/-- The key of the examples below. -/
def redirectKey : SecKey := ⟨.rsa, "k".toList⟩

/-- One message was signed with `redirectKey`, under the signature `sig`. -/
def redirectEnv : Env :=
  { Env.refusing with
    uriUnescape := percentDecode
    base64Decode := fun b _ => if b = "c2ln".toList then (3, "sig".toList) else (-1, [])
    keySize := fun _ => 3
    digest := fun _ content => content
    rsaVerify := fun _ digest signature key =>
      key == redirectKey && signature == "sig".toList &&
        digest == "SAMLRequest=one&SigAlg=http://www.w3.org/2000/09/xmldsig%23rsa-sha1".toList }

theorem redirectEnv_copiesPlain : redirectEnv.CopiesPlain :=
  fun _ s hc => percentDecode_cons hc s

/-- The signed query, followed by a second message under an escaped name. -/
def disguisedQuery : Bytes :=
  ("SAMLRequest=one&SigAlg=http://www.w3.org/2000/09/xmldsig%23rsa-sha1&Signature=c2ln" ++
    "&%53AMLRequest=two").toList

/-- The disguised query is accepted, and another message than the signed one is processed. -/
theorem disguisedQuery_disagrees :
    redirectEnv.CopiesPlain ∧
      saml2QueryVerifySignature redirectEnv disguisedQuery redirectKey = .ok ∧
      ¬ ∀ v, saml2QueryMessage (urlencodedToStrings redirectEnv disguisedQuery) = some v →
        ∃ q, buildSignedQuery redirectEnv disguisedQuery = .ok q ∧
          q.value redirectEnv = some v := by
  refine ⟨redirectEnv_copiesPlain, by decide +kernel, fun h => ?_⟩
  obtain ⟨q, hq, hvalue⟩ := h "two".toList (by decide +kernel)
  have hmessage : (buildSignedQuery redirectEnv disguisedQuery).map (·.value redirectEnv) =
      .ok (some "one".toList) := by decide +kernel
  rw [hq] at hmessage
  simp [Except.map, hvalue] at hmessage

/-- The query without the disguised component. -/
def plainQuery : Bytes :=
  "SAMLRequest=one&SigAlg=http://www.w3.org/2000/09/xmldsig%23rsa-sha1&Signature=c2ln".toList

theorem saml2Query_agreement_plainQuery :
    ∃ q, buildSignedQuery redirectEnv plainQuery = .ok q ∧
      ContentAccepted redirectEnv q.signedQuery redirectKey ∧
      ((∀ v, saml2QueryMessage (urlencodedToStrings redirectEnv plainQuery) = some v →
          q.value redirectEnv = some v) ↔
        (encodingAccepted redirectEnv plainQuery →
          ∀ v, unsignedMessage redirectEnv plainQuery = some v →
            q.value redirectEnv = some v)) :=
  saml2Query_agreement redirectEnv_copiesPlain rfl (by decide +kernel)

end Lasso
