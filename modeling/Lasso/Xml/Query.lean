import Lasso.Env
import Lasso.ErrorCode
import Lasso.Library.Search

/-!
# Signed query strings

The signature of a redirect message covers parts of the query string as they were received.
`queryVerifySignature` is the ID-FF 1.2 rule, where everything before `&Signature=` is signed;
`saml2QueryVerifySignature` is the SAML 2.0 rule, where the signed string is put together again
from the components that carry the message, the relay state and the algorithm. The second half
are the functions that read a message out of a query string.
-/

namespace Lasso

open Search

/-- `LASSO_SAML2_FIELD_*` -/
def fieldEncoding : String := "SAMLEncoding"
def fieldResponse : String := "SAMLResponse"
def fieldRequest : String := "SAMLRequest"
def fieldRelaystate : String := "RelayState"
def fieldSigalg : String := "SigAlg"
def fieldSignature : String := "Signature"

/-- `LASSO_SAML2_DEFLATE_ENCODING` -/
def deflateEncoding : String := "urn:oasis:names:tc:SAML:2.0:bindings:URL-Encoding:DEFLATE"

/-- The text before and after the first `=`. -/
def cutAtEq (field : Bytes) : Option (Bytes × Bytes) :=
  match field.dropWhile (· ≠ '=') with
  | [] => none
  | _ :: value => some (field.takeWhile (· ≠ '='), value)

/-- The text before and after the first occurrence of `sep`. -/
def breakOn (sep : Bytes) : Bytes → Option (Bytes × Bytes)
  | [] => if sep = [] then some ([], []) else none
  | c :: rest =>
    if sep.isPrefixOf (c :: rest) then some ([], (c :: rest).drop sep.length)
    else (breakOn sep rest).map fun (before, after) => (c :: before, after)

/-- The components of a query string, between the `&` and `;`. -/
def queryComponents (query : Bytes) : List Bytes := query.splitOnP (fun c => c == '&' || c == ';')

/-! ## The signature of a string -/

namespace SignatureMethod

/-- The `xmlSecHref*` constant of a method. -/
def href : SignatureMethod → String
  | none => ""
  | rsaSha1 => "http://www.w3.org/2000/09/xmldsig#rsa-sha1"
  | dsaSha1 => "http://www.w3.org/2000/09/xmldsig#dsa-sha1"
  | hmacSha1 => "http://www.w3.org/2000/09/xmldsig#hmac-sha1"
  | rsaSha256 => "http://www.w3.org/2001/04/xmldsig-more#rsa-sha256"
  | hmacSha256 => "http://www.w3.org/2001/04/xmldsig-more#hmac-sha256"
  | rsaSha384 => "http://www.w3.org/2001/04/xmldsig-more#rsa-sha384"
  | hmacSha384 => "http://www.w3.org/2001/04/xmldsig-more#hmac-sha384"
  | rsaSha512 => "http://www.w3.org/2001/04/xmldsig-more#rsa-sha512"
  | hmacSha512 => "http://www.w3.org/2001/04/xmldsig-more#hmac-sha512"

/-- The chain of comparisons with the algorithm URIs. -/
def ofHref (algorithm : Bytes) : Option SignatureMethod :=
  [rsaSha1, dsaSha1, rsaSha256, rsaSha384, rsaSha512, hmacSha1, hmacSha256, hmacSha384,
    hmacSha512].find? fun method => algorithm == method.href.toList

def digestAlg : SignatureMethod → DigestAlg
  | none | rsaSha1 | dsaSha1 | hmacSha1 => .sha1
  | rsaSha256 | hmacSha256 => .sha256
  | rsaSha384 | hmacSha384 => .sha384
  | rsaSha512 | hmacSha512 => .sha512

/-- The key type a method works with. -/
def keyDataId : SignatureMethod → KeyDataId
  | none => .other
  | rsaSha1 | rsaSha256 | rsaSha384 | rsaSha512 => .rsa
  | dsaSha1 => .dsa
  | hmacSha1 | hmacSha256 | hmacSha384 | hmacSha512 => .hmac

/-- The size of a signature by `key`, once the key is found to be of the method's type. -/
def signatureSize (env : Env) (method : SignatureMethod) (key : SecKey) : Except Rc Nat :=
  match method.keyDataId with
  | .hmac =>
    -- `lasso_get_hmac_key`
    if key.id ≠ .hmac ∨ key.value = [] then .error (.param .invalidValue)
    else .ok (env.digestSize method.digestAlg)
  | keyDataId => if key.id ≠ keyDataId then .error (.ds .invalidSigalg) else .ok (env.keySize key)

/-- The cryptographic verification of `content`. -/
def verify (env : Env) (method : SignatureMethod) (key : SecKey) (content signature : Bytes) :
    Bool :=
  match method.keyDataId with
  | .rsa => env.rsaVerify method.digestAlg (env.digest method.digestAlg content) signature key
  | .dsa => env.dsaVerify method.digestAlg (env.digest method.digestAlg content) signature key
  | .hmac => env.hmac method.digestAlg key.value content == signature
  | .other => false

end SignatureMethod

/-- The buffer of `size` bytes after `xmlSecBase64Decode` has written to it. -/
def decodeBuffer (env : Env) (written : Bytes) (size : Nat) : Bytes :=
  (written ++ (env.freshMemory size).drop written.length).take size

/-- `lasso_query_verify_helper` -/
def queryVerifyHelper (env : Env) (signedContent b64Signature algorithm : Bytes) (key : SecKey) :
    Rc :=
  match SignatureMethod.ofHref algorithm with
  | none => .ds .invalidSigalg
  | some method =>
    match method.signatureSize env key with
    | .error rc => rc
    | .ok keySize =>
      if !env.allowedSignatureMethod method then .ds .invalidSigalg
      else
        let decoded := env.base64Decode b64Signature (keySize + 1)
        let signature := (decodeBuffer env decoded.2 (keySize + 1)).take keySize
        if decoded.1 = 0 then .ds .invalidSignature
        else if method.verify env key signedContent signature then .ok
        else .ds .invalidSignature

/-- The primitive accepts some signature of `content` for this key. -/
def ContentAccepted (env : Env) (content : Bytes) (key : SecKey) : Prop :=
  ∃ method signature, SignatureMethod.verify env method key content signature = true

theorem queryVerifyHelper_eq_ok {env : Env} {content b64Signature algorithm : Bytes} {key : SecKey}
    (h : queryVerifyHelper env content b64Signature algorithm key = .ok) :
    (SignatureMethod.ofHref algorithm).isSome ∧ ContentAccepted env content key := by
  unfold queryVerifyHelper at h
  split at h
  · cases h
  · rename_i method hmethod
    refine ⟨by simp [hmethod], method, ?_⟩
    split at h
    · rename_i rc hrc
      subst h
      unfold SignatureMethod.signatureSize at hrc
      split at hrc <;> split_ifs at hrc <;> simp at hrc
    · dsimp only at h
      split_ifs at h
      exact ⟨_, by assumption⟩

/-! ## The signature of a query -/

/-- `lasso_query_verify_signature` -/
def queryVerifySignature (env : Env) (query : Bytes) (senderPublicKey : SecKey) : Rc :=
  if !env.verifySignatureFlag then .ok
  else
    match breakOn "&Signature=".toList query with
    | none => .ds .signatureNotFound
    | some (signedContent, rest) =>
      match breakOn "&SigAlg=".toList signedContent with
      | none => .ds .invalidSigalg
      | some (_, sigAlg) =>
        -- insure there is only the signature in the last part
        let signature := ((breakOn "&Signature=".toList rest).elim rest (·.1)).takeWhile (· ≠ '&')
        queryVerifyHelper env signedContent (env.uriUnescape signature) (env.uriUnescape sigAlg)
          senderPublicKey

/-- The components picked out by `lasso_saml2_query_verify_signature`. -/
structure SignedFields where
  samlRequestResponse : Option Bytes := none
  relaystate : Option Bytes := none
  sigAlg : Option Bytes := none
  b64Signature : Option Bytes := none
deriving DecidableEq

/-- `match_field`: the raw component starts with `name=`. -/
def matchField (name : String) (component : Bytes) : Bool :=
  (name.toList ++ ['=']).isPrefixOf component

def isSamlMessage (component : Bytes) : Bool :=
  matchField fieldResponse component || matchField fieldRequest component

/-- One turn of the loop over the components. -/
def SignedFields.scan (env : Env) (fields : SignedFields) (component : Bytes) : SignedFields :=
  if isSamlMessage component then { fields with samlRequestResponse := some component }
  else if matchField fieldRelaystate component then { fields with relaystate := some component }
  else if matchField fieldSigalg component then { fields with sigAlg := some component }
  else if matchField fieldSignature component then
    { fields with b64Signature := (cutAtEq component).map fun (_, value) => env.uriUnescape value }
  else fields

def signedFields (env : Env) (query : Bytes) : SignedFields :=
  (queryComponents query).foldl (SignedFields.scan env) {}

/-- What is handed to the verification of a SAML 2.0 query. -/
structure SignedQuery where
  message : Bytes
  signedQuery : Bytes
  b64Signature : Bytes
  algorithm : Bytes
deriving DecidableEq

/-- The checks for missing parts, and the signed query. -/
def buildSignedQuery (env : Env) (query : Bytes) : Except Rc SignedQuery :=
  let fields := signedFields env query
  match fields.samlRequestResponse with
  | none => .error (.profile .invalidQuery)
  | some samlRequestResponse =>
    match fields.sigAlg with
    | none => .error (.ds .invalidSigalg)
    | some sigAlg =>
      match fields.b64Signature with
      | none => .error (.ds .signatureNotFound)
      | some b64Signature =>
        let relaystate := fields.relaystate.elim [] (· ++ ['&'])
        .ok {
          message := samlRequestResponse
          signedQuery := samlRequestResponse ++ ['&'] ++ relaystate ++ sigAlg
          b64Signature
          algorithm := env.uriUnescape ((cutAtEq sigAlg).elim [] (·.2)) }

/-- `lasso_saml2_query_verify_signature` -/
def saml2QueryVerifySignature (env : Env) (query : Bytes) (senderPublicKey : SecKey) : Rc :=
  if !env.verifySignatureFlag then .ok
  else
    match buildSignedQuery env query with
    | .error rc => rc
    | .ok q => queryVerifyHelper env q.signedQuery q.b64Signature q.algorithm senderPublicKey

theorem buildSignedQuery_ne_ok {env : Env} {query : Bytes} {rc : Rc}
    (h : buildSignedQuery env query = .error rc) : rc ≠ .ok := by
  unfold buildSignedQuery at h
  dsimp only at h
  split at h
  · cases h
    simp
  · split at h
    · cases h
      simp
    · split at h
      · cases h
        simp
      · cases h

/-- With verification enabled, a zero return code of either function comes from the primitive. -/
theorem queryVerifySignature_eq_ok {env : Env} {query : Bytes} {key : SecKey}
    (hflag : env.verifySignatureFlag = true) (h : queryVerifySignature env query key = .ok) :
    ∃ content rest, breakOn "&Signature=".toList query = some (content, rest) ∧
      ContentAccepted env content key := by
  unfold queryVerifySignature at h
  rw [if_neg (by simp [hflag])] at h
  split at h
  · cases h
  · rename_i content rest hbreak
    split at h
    · cases h
    · exact ⟨content, rest, hbreak, (queryVerifyHelper_eq_ok h).2⟩

theorem saml2QueryVerifySignature_eq_ok {env : Env} {query : Bytes} {key : SecKey}
    (hflag : env.verifySignatureFlag = true) (h : saml2QueryVerifySignature env query key = .ok) :
    ∃ q, buildSignedQuery env query = .ok q ∧ ContentAccepted env q.signedQuery key := by
  unfold saml2QueryVerifySignature at h
  rw [if_neg (by simp [hflag])] at h
  split at h
  · rename_i rc hrc
    exact absurd h (buildSignedQuery_ne_ok hrc)
  · rename_i q hq
    exact ⟨q, hq, (queryVerifyHelper_eq_ok h).2⟩

/-! ## Reading a query -/

/-- `lasso_urlencoded_to_strings` -/
def urlencodedToStrings (env : Env) (str : Bytes) : List Bytes :=
  (queryComponents str).map fun component =>
    if component = [] then [] else env.uriUnescape component

/-- The value of a field of the query whose name is one of `names`. -/
def fieldValue (names : List String) (field : Bytes) : Option Bytes :=
  match cutAtEq field with
  | some (name, value) => if names.any (·.toList == name) then some value else none
  | none => none

/-- The fields that `lasso_node_init_from_saml2_query_fields` looks for: the encoding and the
message, the last ones given. -/
def saml2QueryFields (queryFields : List Bytes) : Option Bytes × Option Bytes :=
  (lastSome (fieldValue [fieldEncoding]) none queryFields,
    lastSome (fieldValue [fieldRequest, fieldResponse]) none queryFields)

/-- The message that `lasso_node_init_from_saml2_query_fields` decodes. -/
def saml2QueryMessage (queryFields : List Bytes) : Option Bytes :=
  match saml2QueryFields queryFields with
  | (enc, req) => if enc.any (· ≠ deflateEncoding.toList) then none else req

end Lasso
