import Lasso.Xml.Node

/-!
# The environment

Global flags of the library and the functions of libxml2, xmlsec and OpenSSL which the code calls.
The model takes the latter as parameters: a theorem about every `Env` holds for every outcome of
the parsers and of the cryptographic primitives. Characters of C strings and buffers are bytes.
-/

namespace Lasso

/-- A C string or a buffer. -/
abbrev Bytes := List Char

/-- The part of a buffer that the C string functions see. -/
def cString (b : Bytes) : Bytes := b.takeWhile (· ≠ '\x00')

/-- `key->value->id` -/
inductive KeyDataId where
  | rsa
  | dsa
  | hmac
  | other
deriving DecidableEq

/-- `xmlSecKey` -/
structure SecKey where
  id : KeyDataId
  value : Bytes
deriving DecidableEq

/-- `xmlSecKeysMngr`: the trusted certificates. -/
abbrev KeysMngr := List String

/-- What `xmlSecDSigCtxVerify` works with: `dsigCtx` and the registered ID attribute. -/
structure DsigCtx where
  keysManager : Option KeysMngr
  signKey : Option SecKey
  emptyUri : Bool
  idAttrName : Option String
deriving DecidableEq

/-- The end of `xmlSecDSigCtxVerify`: an error, a status other than `xmlSecDSigStatusSucceeded`,
or success with the URIs of `signedInfoReferences`. -/
inductive DsigOutcome where
  | error
  | invalid
  | succeeded (references : List (Option String))
deriving DecidableEq

inductive DigestAlg where
  | sha1
  | sha256
  | sha384
  | sha512
deriving DecidableEq

/-- `LassoSignatureMethod`, in the order of its values. -/
inductive SignatureMethod where
  | none
  | rsaSha1
  | dsaSha1
  | hmacSha1
  | rsaSha256
  | hmacSha256
  | rsaSha384
  | hmacSha384
  | rsaSha512
  | hmacSha512
deriving DecidableEq

def SignatureMethod.toNat : SignatureMethod → Nat
  | none => 0
  | rsaSha1 => 1
  | dsaSha1 => 2
  | hmacSha1 => 3
  | rsaSha256 => 4
  | hmacSha256 => 5
  | rsaSha384 => 6
  | hmacSha384 => 7
  | rsaSha512 => 8
  | hmacSha512 => 9

structure Env where
  /-- `lasso_flag_verify_signature` -/
  verifySignatureFlag : Bool
  /-- `lasso_flag_strict_checking` -/
  strictChecking : Bool
  /-- `lasso_flag_thin_sessions` -/
  thinSessions : Bool
  /-- `lasso_get_min_signature_method` -/
  minSignatureMethod : SignatureMethod
  /-- `lasso_xml_parse_memory`: the root element of the document -/
  parseMemory : Bytes → Option XmlNode
  /-- `xmlSecBase64Decode` into a buffer of the given size: the result, negative for an error, and
  the bytes written -/
  base64Decode : Bytes → Nat → Int × Bytes
  /-- what `g_malloc` leaves in a new buffer of the given size -/
  freshMemory : Nat → Bytes
  /-- `xmlURIUnescapeString` -/
  uriUnescape : Bytes → Bytes
  /-- `inflate` of a raw deflate stream: the output if it ends within the given space -/
  inflate : Bytes → Nat → Option Bytes
  /-- `lasso_load_certs_from_pem_certs_chain_file` -/
  loadCerts : String → Option KeysMngr
  /-- `xmlSecDSigCtxVerify` on the Signature child of a node -/
  dsigVerify : DsigCtx → NodeRef → DsigOutcome
  /-- `RSA_size`, `DSA_size` -/
  keySize : SecKey → Nat
  /-- `lasso_sha1` and its siblings -/
  digest : DigestAlg → Bytes → Bytes
  /-- `EVP_MD_size` -/
  digestSize : DigestAlg → Nat
  /-- `RSA_verify`, given the digest and the signature -/
  rsaVerify : DigestAlg → Bytes → Bytes → SecKey → Bool
  /-- `DSA_verify` -/
  dsaVerify : DigestAlg → Bytes → Bytes → SecKey → Bool
  /-- `HMAC`, given the key and the content -/
  hmac : DigestAlg → Bytes → Bytes → Bytes

/-- `lasso_allowed_signature_method` -/
def Env.allowedSignatureMethod (env : Env) (method : SignatureMethod) : Bool :=
  env.minSignatureMethod.toNat ≤ method.toNat

/-- Verification is on, and every parser and primitive fails. -/
def Env.refusing : Env where
  verifySignatureFlag := true
  strictChecking := false
  thinSessions := false
  minSignatureMethod := .rsaSha1
  parseMemory _ := none
  base64Decode _ _ := (-1, [])
  freshMemory size := List.replicate size '\x00'
  uriUnescape s := s
  inflate _ _ := none
  loadCerts _ := none
  dsigVerify _ _ := .error
  keySize _ := 0
  digest _ _ := []
  digestSize _ := 0
  rsaVerify _ _ _ _ := false
  dsaVerify _ _ _ _ := false
  hmac _ _ _ := []

end Lasso
