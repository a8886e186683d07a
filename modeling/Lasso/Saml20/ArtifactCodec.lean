import Lasso.Saml20.Artifact
import Lasso.Xml.MessageReader
import Lasso.Xml.QuerySign

/-!
# The artifact as a string

An artifact is 44 bytes in base64: a type code, the index of the endpoint where it can be
resolved, the SHA-1 of its issuer's entity ID, and a random message handle. `buildArtifact` writes
it, `initArtifactResolve` reads it from a message and prepares the request that resolves it.

## Main definitions

* `buildArtifact` — `lasso_saml20_profile_build_artifact`.
* `initArtifactResolve` — `lasso_saml20_profile_init_artifact_resolve`.

## Main results

* `artifact_roundTrip_iff` — which indexes are read back, and which strings that are too short are
  taken for artifacts.
-/

namespace Lasso

/-- What the encoder and the decoder of artifacts rest on besides. -/
structure ArtifactContext extends Context, SigningEnv where
  /-- the order in which `g_hash_table_find` visits the keys of a table -/
  foreachOrder : List String → List String
  /-- what the buffer `artifact` holds on the stack before it is written to -/
  staleArtifact : { b : Bytes // b.length = 45 }

/-- The bytes of `lasso_build_random_sequence`. -/
abbrev MessageHandle := { b : Bytes // b.length = 20 ∧ ∀ c ∈ b, c.toNat < 256 }

/-- The hash, the base64 codec and the table do what their documentation says. -/
structure ArtifactContext.Documented (cx : ArtifactContext) : Prop where
  unescapes : cx.toEnv.Unescapes
  sha1_length : ∀ s, (cx.digest .sha1 s).length = 20
  sha1_bytes : ∀ s, ∀ c ∈ cx.digest .sha1 s, c.toNat < 256
  decodes : ∀ s, s ≠ [] → (∀ c ∈ s, c.toNat < 256) →
    cx.base64Decode (cx.base64Encode s).val (s.length + 1) = ((s.length : Int), s)
  written : ∀ b64 size, 0 ≤ (cx.base64Decode b64 size).1 →
    ((cx.base64Decode b64 size).2.length : Int) = (cx.base64Decode b64 size).1
  visitsAll : ∀ keys, (cx.foreachOrder keys).Perm keys

/-- The hash of an entity ID, in base64. -/
def ArtifactContext.succinctId (cx : ArtifactContext) (providerId : String) : CString :=
  cx.base64Encode (cx.digest .sha1 providerId.toList)

/-- `lasso_server_get_providerID_from_hash` -/
def Server.getProviderIdFromHash (cx : ArtifactContext) (s : Server) (b64Hash : CString) :
    Option String :=
  (cx.foreachOrder s.providers.keys).find? fun key => cx.succinctId key == b64Hash

namespace Saml20

/-- `LASSO_SAML2_FIELD_ARTIFACT` -/
def fieldArtifact : String := "SAMLart"

/-- `LASSO_SAML2_METADATA_ELEMENT_ARTIFACT_RESOLUTION_SERVICE` -/
def artifactResolutionService : String := "ArtifactResolutionService"

/-! ## Endpoints -/

/-- `lasso_saml20_provider_get_endpoint_url` -/
def getEndpointUrl (p : Provider) (role : ProviderRole) (kind : String) (bindings : List String)
    (isResponse isDefault : Bool) (idx : Int) : Option String :=
  (p.endpoints.find? fun e =>
      (e.role == role || role == .none) && e.kind == kind &&
        (isDefault || if 0 ≤ idx then e.index == idx
          else bindings.isEmpty || bindings.contains e.binding)).map fun e =>
    if isResponse then e.returnUrl.getD e.url else e.url

/-- `lasso_saml20_provider_get_artifact_resolution_service_index`, an `unsigned short` -/
def getArtifactResolutionServiceIndex (p : Provider) : Option Nat :=
  (p.endpoints.find? fun e =>
      (e.role == p.role || p.role == .none) && e.kind == artifactResolutionService).map fun e =>
    (e.index % 65536).toNat

/-! ## Writing an artifact -/

/-- The bytes of an artifact. -/
def artifactBytes (index : Nat) (sourceId : Bytes) (handle : MessageHandle) : Bytes :=
  ['\x00', '\x04', Char.ofNat (index / 256 % 256), Char.ofNat (index % 256)] ++ sourceId ++
    handle.val

/-- `lasso_saml20_profile_build_artifact`, with the random sequence given. Without an entity ID
the source does not return. -/
def buildArtifact (cx : ArtifactContext) (p : Provider) (handle : MessageHandle) :
    Option CString :=
  p.providerId.bind fun providerId =>
    (getArtifactResolutionServiceIndex p).map fun index =>
      cx.base64Encode (artifactBytes index (cx.digest .sha1 providerId.toList) handle)

/-- The query or the body in which `lasso_profile_saml20_build_artifact_msg` sends an artifact. -/
def artifactMsg (artifact : CString) (msgRelayState : Option CString) : HttpMethod → Option Bytes
  | .artifactGet =>
    urlAddParameters none ((fieldArtifact.toList, artifact.val) ::
      msgRelayState.toList.map fun relayState => (fieldRelaystate.toList, relayState.val))
  | .artifactPost => some artifact.val
  | _ => none

/-! ## Reading an artifact -/

/-- `artifact_b64` -/
def artifactB64 (cx : ArtifactContext) (msg : Bytes) : HttpMethod → Except Rc Bytes
  | .artifactGet =>
    match Search.lastSome (fun field =>
        if matchField fieldArtifact field then
          some (cString (field.drop (fieldArtifact.length + 1)))
        else none) none (urlencodedToStrings cx.toEnv msg) with
    | some artifact => .ok artifact
    | none => .error (.profile .missingArtifact)
  | .artifactPost => .ok msg
  | _ => .error (.profile .invalidHttpMethod)

/-- The buffer `artifact`, with the rest that the decoder has not written to. -/
def artifactBuffer (cx : ArtifactContext) (written : Bytes) : Bytes :=
  (written ++ cx.staleArtifact.val.drop written.length).take 45

/-- The type code is right. -/
def hasTypeCode (artifact : Bytes) : Bool := artifact.take 2 == ['\x00', '\x04']

/-- The artifact in a message and its buffer, after the checks of length and type code. -/
def readArtifact (cx : ArtifactContext) (msg : Bytes) (method : HttpMethod) :
    Except Rc (Bytes × Bytes) :=
  match artifactB64 cx msg method with
  | .error rc => .error rc
  | .ok b64 =>
    let decoded := cx.base64Decode b64 45
    if decoded.1 < 0 ∨ 44 < decoded.1 then .error (.profile .invalidArtifact)
    else if !hasTypeCode (artifactBuffer cx decoded.2) then .error (.profile .invalidArtifact)
    else .ok (b64, artifactBuffer cx decoded.2)

/-- The value of a `char`, which is signed. -/
def charValue (c : Char) : Int := if c.toNat < 128 then c.toNat else c.toNat - 256

/-- `index_endpoint`, an `unsigned short` -/
def indexEndpoint (artifact : Bytes) : Nat :=
  ((charValue (artifact.getD 2 '\x00') * 65536 + charValue (artifact.getD 3 '\x00')) %
    65536).toNat

/-- What is read out of an artifact. -/
structure ArtifactTarget where
  providerId : String
  remoteProvider : Option Provider
  indexEndpoint : Nat

/-- The provider that issued an artifact, and the index of the endpoint that resolves it. -/
def artifactTarget (cx : ArtifactContext) (server : Server) (artifact : Bytes) :
    Option ArtifactTarget :=
  (server.getProviderIdFromHash cx (cx.base64Encode ((artifact.drop 4).take 20))).map
    fun providerId =>
      { providerId
        remoteProvider := server.getProvider (some providerId)
        indexEndpoint := indexEndpoint artifact }

/-- The URL of the endpoint, the new `msg_url`. -/
def ArtifactTarget.url (target : ArtifactTarget) (role : ProviderRole) : Option String :=
  target.remoteProvider.bind fun p =>
    getEndpointUrl p role artifactResolutionService [] false false target.indexEndpoint

/-- `lasso_saml20_profile_init_artifact_resolve`: the code and the profile, with the identifier of
the request given. Without a server the source does not return. -/
def initArtifactResolve (cx : ArtifactContext) (profile : Profile) (uniqueId : String)
    (remoteProviderRole : ProviderRole) (msg : Bytes) (method : HttpMethod) : Rc × Profile :=
  match readArtifact cx msg method with
  | .error rc => (rc, profile)
  | .ok (b64, artifact) =>
    match profile.server with
    | none => (.undefined, profile)
    | some server =>
      match artifactTarget cx server artifact with
      | none => (.server .providerNotFound, { profile with remoteProviderId := none })
      | some target =>
        let profile := { profile with remoteProviderId := some target.providerId }
        if (target.url remoteProviderRole).isNone then
          (.profile .endpointIndexNotFound, profile)
        else
          let profile := { profile with
            request := some (.samlp2ArtifactResolve {
              id := some uniqueId
              issuer := some { content := server.provider.providerId }
              artifact := some (String.ofList b64) }) }
          (setupMessageSignature cx.toContext profile, profile)

/-! ## What is read back -/

section

variable {cx : ArtifactContext} {server : Server} {p : Provider} {providerId : String}

theorem toNat_byte {n : Nat} (h : n < 256) : (Char.ofNat n).toNat = n := by
  have hvalid : n.isValidChar := .inl (by omega)
  rw [Char.ofNat, dif_pos hvalid]
  rfl

theorem artifactBytes_length (hcx : cx.Documented) (index : Nat) (id : Bytes)
    (handle : MessageHandle) :
    (artifactBytes index (cx.digest .sha1 id) handle).length = 44 := by
  simp [artifactBytes, hcx.sha1_length, handle.property.1]

theorem artifactBytes_lt (hcx : cx.Documented) (index : Nat) (id : Bytes)
    (handle : MessageHandle) :
    ∀ c ∈ artifactBytes index (cx.digest .sha1 id) handle, c.toNat < 256 := by
  intro c hc
  have hbyte (n : Nat) (hn : n < 256) : (Char.ofNat n).toNat < 256 := by
    rw [toNat_byte hn]
    exact hn
  rcases List.mem_append.mp hc with hc | hc
  · rcases List.mem_append.mp hc with hc | hc
    · simp only [List.mem_cons, List.not_mem_nil, or_false] at hc
      rcases hc with rfl | rfl | rfl | rfl
      · decide
      · decide
      · exact hbyte _ (by omega)
      · exact hbyte _ (by omega)
    · exact hcx.sha1_bytes id c hc
  · exact handle.property.2 c hc

/-- Two hashes with the same base64 text are the same. -/
theorem succinctId_inj (hcx : cx.Documented) {a b : String}
    (h : cx.succinctId a = cx.succinctId b) :
    cx.digest .sha1 a.toList = cx.digest .sha1 b.toList := by
  have hdecode (id : String) : cx.base64Decode (cx.succinctId id).val 21 =
      (20, cx.digest .sha1 id.toList) := by
    have hlength := hcx.sha1_length id.toList
    have hne : cx.digest .sha1 id.toList ≠ [] := by
      apply List.ne_nil_of_length_pos
      omega
    have hdecodes := hcx.decodes _ hne (hcx.sha1_bytes id.toList)
    rw [hlength] at hdecodes
    exact hdecodes
  have hpair := (hdecode a).symm.trans (h ▸ hdecode b)
  exact congrArg Prod.snd hpair

/-- The scan of the table finds the provider, if no other one has the same hash. -/
theorem getProviderIdFromHash_succinctId (hcx : cx.Documented)
    (hmem : providerId ∈ server.providers)
    (hdistinct : ∀ key ∈ server.providers,
      cx.digest .sha1 key.toList = cx.digest .sha1 providerId.toList → key = providerId) :
    server.getProviderIdFromHash cx (cx.succinctId providerId) = some providerId := by
  have hvisits := hcx.visitsAll server.providers.keys
  unfold Server.getProviderIdFromHash
  cases hfind : (cx.foreachOrder server.providers.keys).find?
      fun key => cx.succinctId key == cx.succinctId providerId with
  | none =>
    have hnot := List.find?_eq_none.mp hfind providerId (hvisits.mem_iff.mpr hmem)
    simp at hnot
  | some key =>
    have heq : cx.succinctId key = cx.succinctId providerId := by
      exact Subtype.ext (by simpa using List.find?_some hfind)
    have hkey := hvisits.mem_iff.mp (List.mem_of_find?_eq_some hfind)
    rw [hdistinct key hkey (succinctId_inj hcx heq)]

/-- The two bytes of the index are read back for the values that the sign of the second does not
change. -/
theorem indexEndpoint_eq_iff {index : Nat} (hindex : index < 65536) (rest : Bytes) :
    indexEndpoint (['\x00', '\x04', Char.ofNat (index / 256 % 256), Char.ofNat (index % 256)] ++
      rest) = index ↔ index < 128 ∨ 65408 ≤ index := by
  have hvalue (n : Nat) (hn : n < 256) :
      charValue (Char.ofNat n) = if n < 128 then (n : Int) else n - 256 := by
    rw [charValue, toNat_byte hn]
  have hhigh := hvalue (index / 256 % 256) (by omega)
  have hlow := hvalue (index % 256) (by omega)
  simp only [indexEndpoint, List.cons_append, List.getD_cons_succ, List.getD_cons_zero, hhigh,
    hlow]
  split_ifs <;> omega

/-- The buffer after a whole artifact is decoded into it. -/
theorem artifactBuffer_artifactBytes (hcx : cx.Documented) (index : Nat) (id : Bytes)
    (handle : MessageHandle) :
    ∃ stale, artifactBuffer cx (artifactBytes index (cx.digest .sha1 id) handle) =
      artifactBytes index (cx.digest .sha1 id) handle ++ stale := by
  have hlength := artifactBytes_length hcx index id handle
  refine ⟨cx.staleArtifact.val.drop 44, ?_⟩
  rw [artifactBuffer, hlength]
  apply List.take_of_length_le
  rw [List.length_append, hlength, List.length_drop, cx.staleArtifact.property]

theorem artifactTarget_artifactBytes (hcx : cx.Documented) (index : Nat)
    (handle : MessageHandle) (hmem : providerId ∈ server.providers)
    (hdistinct : ∀ key ∈ server.providers,
      cx.digest .sha1 key.toList = cx.digest .sha1 providerId.toList → key = providerId)
    (stale : Bytes) :
    let artifact := artifactBytes index (cx.digest .sha1 providerId.toList) handle ++ stale
    artifactTarget cx server artifact = some
      { providerId
        remoteProvider := server.getProvider (some providerId)
        indexEndpoint := indexEndpoint artifact } := by
  intro artifact
  have hsource : (artifact.drop 4).take 20 = cx.digest .sha1 providerId.toList := by
    simp only [artifact, artifactBytes, List.append_assoc, List.cons_append, List.nil_append,
      List.drop_succ_cons, List.drop_zero]
    rw [List.take_append_of_le_length (by rw [hcx.sha1_length]), List.take_of_length_le
      (by rw [hcx.sha1_length])]
  have hfound := getProviderIdFromHash_succinctId hcx hmem hdistinct
  rw [ArtifactContext.succinctId, ← hsource] at hfound
  rw [artifactTarget, hfound, Option.map_some]

theorem uriUnescape_escapedField (hcx : cx.Documented) {name : String} {value : Bytes}
    (hname : '%' ∉ name.toList) (hvalue : ∀ c ∈ value, c.toNat < 256) :
    cx.uriUnescape (escapedField name value) = name.toList ++ '=' :: value := by
  have hprefix : '%' ∉ name.toList ++ ['='] := by simp [hname]
  have hcopied := hcx.unescapes.copies.append hprefix (s := xmlUriEscapeStr value [])
  rw [uriUnescape_xmlUriEscapeStr hcx.unescapes hvalue] at hcopied
  simpa [escapedField] using hcopied

theorem urlencodedToStrings_artifactMsg (hcx : cx.Documented) {artifact : CString}
    {msgRelayState : Option CString} {msg : Bytes}
    (hmsg : artifactMsg artifact msgRelayState .artifactGet = some msg) :
    urlencodedToStrings cx.toEnv msg = (fieldArtifact.toList ++ '=' :: artifact.val) ::
      msgRelayState.toList.map fun relayState =>
        fieldRelaystate.toList ++ '=' :: relayState.val := by
  have hartifactName : xmlUriEscapeStr fieldArtifact.toList [] = fieldArtifact.toList := by decide
  have hrelayName : xmlUriEscapeStr fieldRelaystate.toList [] = fieldRelaystate.toList := by decide
  have hbytes (text : CString) : ∀ c ∈ text.val, c.toNat < 256 := fun c hc =>
    (text.property c hc).2
  have hartifact : ∀ c ∈ escapedField fieldArtifact artifact.val, isSeparator c = false :=
    escapedField_not_separator (not_separator_of_any (by decide)) (hbytes artifact)
  have hread : cx.uriUnescape (escapedField fieldArtifact artifact.val) =
      fieldArtifact.toList ++ '=' :: artifact.val :=
    uriUnescape_escapedField hcx (by decide) (hbytes artifact)
  have hne (name : String) (value : Bytes) : escapedField name value ≠ [] := by
    simp [escapedField]
  cases msgRelayState with
  | none =>
    have hquery : msg = escapedField fieldArtifact artifact.val := by
      simpa [artifactMsg, urlAddParameters, hartifactName, escapedField] using hmsg.symm
    rw [hquery, urlencodedToStrings, queryComponents_singleton hartifact]
    simp only [List.map_cons, List.map_nil, if_neg (hne _ _), hread, Option.toList_none]
  | some relayState =>
    have hquery : msg = escapedField fieldArtifact artifact.val ++
        '&' :: escapedField fieldRelaystate relayState.val := by
      simpa [artifactMsg, urlAddParameters, hartifactName, hrelayName, escapedField] using
        hmsg.symm
    have hrelay : ∀ c ∈ escapedField fieldRelaystate relayState.val, isSeparator c = false :=
      escapedField_not_separator (not_separator_of_any (by decide)) (hbytes relayState)
    have hreadRelay : cx.uriUnescape (escapedField fieldRelaystate relayState.val) =
        fieldRelaystate.toList ++ '=' :: relayState.val :=
      uriUnescape_escapedField hcx (by decide) (hbytes relayState)
    rw [hquery, urlencodedToStrings, queryComponents_append_cons hartifact,
      queryComponents_singleton hrelay]
    simp only [List.map_cons, List.map_nil, if_neg (hne _ _), hread, hreadRelay,
      Option.toList_some]

/-- The artifact is found again in the query or the body in which it is sent. -/
theorem artifactB64_artifactMsg (hcx : cx.Documented) {artifact : CString}
    {msgRelayState : Option CString} {method : HttpMethod} {msg : Bytes}
    (hmsg : artifactMsg artifact msgRelayState method = some msg) :
    artifactB64 cx msg method = .ok artifact.val := by
  cases method with
  | artifactGet =>
    have hmatch (value : Bytes) :
        matchField fieldArtifact (fieldArtifact.toList ++ '=' :: value) = true := rfl
    have hother (value : Bytes) :
        matchField fieldArtifact (fieldRelaystate.toList ++ '=' :: value) = false := rfl
    have hvalue : cString artifact.val = artifact.val :=
      List.takeWhile_eq_self_iff.mpr fun c hc => by simpa using (artifact.property c hc).1
    have hdrop : (fieldArtifact.toList ++ '=' :: artifact.val).drop (fieldArtifact.length + 1) =
        artifact.val := rfl
    rw [artifactB64, urlencodedToStrings_artifactMsg hcx hmsg]
    cases msgRelayState <;>
      simp [hmatch, hother, hdrop, hvalue]
  | artifactPost =>
    obtain rfl : artifact.val = msg := Option.some.inj hmsg
    rfl
  | _ => cases hmsg

/-! ## Round trip and acceptance -/

/-- The message that carries the artifact of `p`. -/
def sentArtifact (cx : ArtifactContext) (p : Provider) (handle : MessageHandle)
    (msgRelayState : Option CString) (method : HttpMethod) : Option Bytes :=
  (buildArtifact cx p handle).bind fun artifact => artifactMsg artifact msgRelayState method

/-- The decoder finds the provider `p` of the server under its ID, and this index. -/
def ReadsBack (cx : ArtifactContext) (server : Server) (p : Provider) (providerId : String)
    (index : Nat) (msg : Bytes) (method : HttpMethod) : Prop :=
  ∃ b64 artifact, readArtifact cx msg method = .ok (b64, artifact) ∧
    artifactTarget cx server artifact =
      some { providerId, remoteProvider := some p, indexEndpoint := index }

/-- A bytes sequence that names an endpoint of a known provider. -/
def Resolvable (cx : ArtifactContext) (profile : Profile) (role : ProviderRole)
    (artifact : Bytes) : Prop :=
  hasTypeCode artifact = true ∧ ∃ server target, profile.server = some server ∧
    artifactTarget cx server artifact = some target ∧ (target.url role).isSome ∧
    setupMessageSignature cx.toContext
      { profile with remoteProviderId := some target.providerId } = .ok

/-- The artifact in the message is too short, and what the buffer held before completes it. -/
def CompletedByStack (cx : ArtifactContext) (profile : Profile) (role : ProviderRole)
    (msg : Bytes) (method : HttpMethod) : Prop :=
  ∃ b64, artifactB64 cx msg method = .ok b64 ∧ 0 ≤ (cx.base64Decode b64 45).1 ∧
    (cx.base64Decode b64 45).1 < 44 ∧
    Resolvable cx profile role (artifactBuffer cx (cx.base64Decode b64 45).2)

/-- An accepted artifact has 44 bytes and the type code. -/
def AcceptsOnlyArtifacts (cx : ArtifactContext) (profile : Profile) (uniqueId : String)
    (role : ProviderRole) (msg : Bytes) (method : HttpMethod) : Prop :=
  (initArtifactResolve cx profile uniqueId role msg method).1 = .ok →
    ∃ b64 artifact, artifactB64 cx msg method = .ok b64 ∧
      cx.base64Decode b64 45 = (44, artifact) ∧ hasTypeCode artifact = true

theorem readArtifact_eq_ok {msg : Bytes} {method : HttpMethod} {b64 artifact : Bytes} :
    readArtifact cx msg method = .ok (b64, artifact) ↔
      artifactB64 cx msg method = .ok b64 ∧ 0 ≤ (cx.base64Decode b64 45).1 ∧
        (cx.base64Decode b64 45).1 ≤ 44 ∧
        artifactBuffer cx (cx.base64Decode b64 45).2 = artifact ∧ hasTypeCode artifact = true := by
  unfold readArtifact
  cases hb64 : artifactB64 cx msg method with
  | error rc => simp
  | ok text =>
    dsimp only
    split_ifs with hlength hcode
    · simp only [Except.ok.injEq, false_iff]
      rintro ⟨rfl, hnonneg, hle, -⟩
      omega
    · simp only [Except.ok.injEq, false_iff]
      rintro ⟨rfl, -, -, rfl, hok⟩
      simp [hok] at hcode
    · simp only [Except.ok.injEq, Prod.mk.injEq]
      constructor
      · rintro ⟨rfl, rfl⟩
        exact ⟨rfl, by omega, by omega, rfl, by simpa using hcode⟩
      · rintro ⟨rfl, -, -, rfl, -⟩
        exact ⟨rfl, rfl⟩

theorem readArtifact_ne_ok {msg : Bytes} {method : HttpMethod} {rc : Rc}
    (h : readArtifact cx msg method = .error rc) : rc ≠ .ok := by
  unfold readArtifact at h
  split at h
  · rename_i rc' hb64
    cases h
    unfold artifactB64 at hb64
    split at hb64
    · split at hb64 <;> cases hb64
      simp
    · cases hb64
    · cases hb64
      simp
  · dsimp only at h
    split_ifs at h <;> cases h <;> simp

/-- The decoder accepts what names an endpoint of a known provider, whole or not. -/
theorem initArtifactResolve_eq_ok {profile : Profile} {uniqueId : String} {role : ProviderRole}
    {msg : Bytes} {method : HttpMethod} :
    (initArtifactResolve cx profile uniqueId role msg method).1 = .ok ↔
      ∃ b64, artifactB64 cx msg method = .ok b64 ∧ 0 ≤ (cx.base64Decode b64 45).1 ∧
        (cx.base64Decode b64 45).1 ≤ 44 ∧
        Resolvable cx profile role (artifactBuffer cx (cx.base64Decode b64 45).2) := by
  constructor
  · intro hok
    unfold initArtifactResolve at hok
    split at hok
    · rename_i rc hread
      exact absurd hok (readArtifact_ne_ok hread)
    · rename_i b64 artifact hread
      obtain ⟨hb64, hnonneg, hle, rfl, hcode⟩ := readArtifact_eq_ok.mp hread
      refine ⟨b64, hb64, hnonneg, hle, hcode, ?_⟩
      split at hok
      · cases hok
      · rename_i server hserver
        split at hok
        · cases hok
        · rename_i target htarget
          dsimp only at hok
          split_ifs at hok with hurl
          refine ⟨server, target, hserver, htarget, ?_, hok⟩
          simpa [Option.isSome_iff_ne_none] using hurl
  · rintro ⟨b64, hb64, hnonneg, hle, hcode, server, target, hserver, htarget, hurl, hsign⟩
    have hread := readArtifact_eq_ok.mpr ⟨hb64, hnonneg, hle, rfl, hcode⟩
    have hnot : ¬ (target.url role).isNone := by simpa [Option.isSome_iff_ne_none] using hurl
    unfold initArtifactResolve
    simp only [hread, hserver, htarget, if_neg hnot]
    simpa only [setupMessageSignature, hserver] using hsign

theorem hasTypeCode_artifactBuffer {written : Bytes} (h : written.length = 44) :
    hasTypeCode (artifactBuffer cx written) = hasTypeCode written := by
  rw [hasTypeCode, hasTypeCode, artifactBuffer, List.take_take,
    List.take_append_of_le_length (by omega)]
  rfl

theorem acceptsOnlyArtifacts_iff (hcx : cx.Documented) (profile : Profile) (uniqueId : String)
    (role : ProviderRole) (msg : Bytes) (method : HttpMethod) :
    AcceptsOnlyArtifacts cx profile uniqueId role msg method ↔
      ¬ CompletedByStack cx profile role msg method := by
  constructor
  · rintro honly ⟨b64, hb64, hnonneg, hlt, hresolvable⟩
    have hok : (initArtifactResolve cx profile uniqueId role msg method).1 = .ok :=
      initArtifactResolve_eq_ok.mpr ⟨b64, hb64, hnonneg, by omega, hresolvable⟩
    obtain ⟨whole, artifact, hwhole, hdecode, -⟩ := honly hok
    obtain rfl : b64 = whole := Except.ok.inj (hb64.symm.trans hwhole)
    rw [hdecode] at hlt
    omega
  · intro hcomplete hok
    obtain ⟨b64, hb64, hnonneg, hle, hresolvable⟩ := initArtifactResolve_eq_ok.mp hok
    have hlength : (cx.base64Decode b64 45).1 = 44 := by
      by_contra hne
      exact hcomplete ⟨b64, hb64, hnonneg, by omega, hresolvable⟩
    have hwritten := hcx.written b64 45 hnonneg
    refine ⟨b64, (cx.base64Decode b64 45).2, hb64, Prod.ext hlength rfl, ?_⟩
    have hcode : hasTypeCode (artifactBuffer cx (cx.base64Decode b64 45).2) =
        hasTypeCode (cx.base64Decode b64 45).2 := hasTypeCode_artifactBuffer (by omega)
    rw [← hcode]
    exact hresolvable.1

theorem readsBack_iff (hcx : cx.Documented) {index : Nat} {handle : MessageHandle}
    {msgRelayState : Option CString} {method : HttpMethod} {msg : Bytes}
    (hlookup : server.providers.lookup providerId = some p) (hid : p.providerId = some providerId)
    (hdistinct : ∀ key ∈ server.providers,
      cx.digest .sha1 key.toList = cx.digest .sha1 providerId.toList → key = providerId)
    (hindex : getArtifactResolutionServiceIndex p = some index)
    (hsent : sentArtifact cx p handle msgRelayState method = some msg) :
    ReadsBack cx server p providerId index msg method ↔
      providerId ≠ "" ∧ (index < 128 ∨ 65408 ≤ index) := by
  have hlt : index < 65536 := by
    obtain ⟨e, -, rfl⟩ := Option.map_eq_some_iff.mp hindex
    omega
  have hbytes := artifactBytes_lt hcx index providerId.toList handle
  have hlength := artifactBytes_length hcx index providerId.toList handle
  have hb64 : artifactB64 cx msg method = .ok
      (cx.base64Encode (artifactBytes index (cx.digest .sha1 providerId.toList) handle)).val := by
    have hmsg : artifactMsg (cx.base64Encode
        (artifactBytes index (cx.digest .sha1 providerId.toList) handle)) msgRelayState method =
        some msg := by
      simpa [sentArtifact, buildArtifact, hid, hindex] using hsent
    exact artifactB64_artifactMsg hcx hmsg
  have hdecode := hcx.decodes _ (List.ne_nil_of_length_pos (by omega)) hbytes
  rw [hlength] at hdecode
  obtain ⟨stale, hbuffer⟩ := artifactBuffer_artifactBytes hcx index providerId.toList handle
  have hread := readArtifact_eq_ok.mpr ⟨hb64, by simp [hdecode], by simp [hdecode], by
    rw [hdecode, hbuffer], rfl⟩
  have hmem : providerId ∈ server.providers := AList.lookup_isSome.mp (by simp [hlookup])
  have htarget := artifactTarget_artifactBytes hcx index handle hmem hdistinct stale
  have hget : server.getProvider (some providerId) = some p ↔ providerId ≠ "" := by
    by_cases hempty : providerId = "" <;> simp [Server.getProvider, hempty, hlookup]
  have hendpoint := indexEndpoint_eq_iff hlt
    (cx.digest .sha1 providerId.toList ++ handle.val ++ stale)
  constructor
  · rintro ⟨b64, artifact, hread', htarget'⟩
    obtain ⟨-, rfl⟩ := Prod.mk.inj (Except.ok.inj (hread.symm.trans hread'))
    obtain ⟨-, hprovider, hread⟩ :=
      ArtifactTarget.mk.inj (Option.some.inj (htarget.symm.trans htarget'))
    exact ⟨hget.mp hprovider, hendpoint.mp hread⟩
  · rintro ⟨hne, hrange⟩
    refine ⟨_, _, hread, htarget.trans ?_⟩
    rw [hget.mpr hne]
    exact congrArg (fun n => some (ArtifactTarget.mk providerId (some p) n))
      (hendpoint.mpr hrange)

end

/-- `xmlSecBase64Decode` of a string without line breaks. -/
def base64DecodeInto (b64 : Bytes) (size : Nat) : Int × Bytes :=
  match Base64.decode b64 with
  | some bytes => if bytes.length ≤ size then (bytes.length, bytes.map Char.ofNat) else (-1, [])
  | none => (-1, [])

/-- The SHA-1 of `idp`; other strings are not hashed. -/
def sha1OfIdp (s : Bytes) : Bytes :=
  if s = "idp".toList then
    [251, 64, 18, 228, 78, 239, 171, 177, 244, 126, 151, 234, 240, 128, 79, 151, 172, 188, 130,
      157].map Char.ofNat
  else List.replicate 20 '\x00'

/-- A context with the base64 codec, where the stack holds `stale`. -/
def artifactCx (stale : { b : Bytes // b.length = 45 }) : ArtifactContext :=
  { Context.refusing, signingEnv with
    uriUnescape := percentDecode
    base64Encode := fun s => ⟨Base64.encode (s.map Char.toNat), cString_encode_text s⟩
    base64Decode := base64DecodeInto
    digest := fun _ s => sha1OfIdp s
    foreachOrder := id
    staleArtifact := stale }

theorem artifactCx_documented (stale : { b : Bytes // b.length = 45 }) :
    (artifactCx stale).Documented where
  unescapes := unescapes_percentDecode rfl
  sha1_length s := by
    show (sha1OfIdp s).length = 20
    unfold sha1OfIdp
    split_ifs <;> rfl
  sha1_bytes s := by
    show ∀ c ∈ sha1OfIdp s, c.toNat < 256
    unfold sha1OfIdp
    split_ifs
    · exact fun c hc => (cString_of_all (by decide) c hc).2
    · exact fun c hc => by simp [List.eq_of_mem_replicate hc]
  decodes s hne hbytes := by
    have hlt : ∀ b ∈ s.map Char.toNat, b < 256 := by
      intro b hb
      obtain ⟨c, hc, rfl⟩ := List.mem_map.mp hb
      exact hbytes c hc
    show base64DecodeInto (Base64.encode (s.map Char.toNat)) (s.length + 1) = _
    simp [base64DecodeInto, Base64.decode_encode hlt, Function.comp_def]
  written b64 size hnonneg := by
    show ((base64DecodeInto b64 size).2.length : Int) = (base64DecodeInto b64 size).1
    replace hnonneg : 0 ≤ (base64DecodeInto b64 size).1 := hnonneg
    unfold base64DecodeInto at hnonneg ⊢
    split
    · split_ifs with hsize <;> simp_all
    · simp_all
  visitsAll keys := .refl keys

/-- An identity provider whose artifacts are resolved at the endpoint of this index. -/
def artifactIdp (index : Int) : Provider where
  providerId := some "idp"
  role := .idp
  endpoints := [{
    role := .idp
    kind := artifactResolutionService
    binding := saml2MetadataBindingSoap
    url := "https://idp/resolve"
    index }]

def artifactServer (index : Int) : Server where
  provider := { providerId := some "sp" }
  providers := AList.singleton "idp" (artifactIdp index)

def messageHandle : MessageHandle :=
  ⟨List.replicate 20 'r', List.length_replicate, fun _ hc => by
    rw [List.eq_of_mem_replicate hc]
    decide⟩

/-- What the buffer holds after an artifact of the endpoint with index 0 was read. -/
def usedStack : { b : Bytes // b.length = 45 } :=
  ⟨artifactBytes 0 (sha1OfIdp "idp".toList) messageHandle ++ ['\x00'], rfl⟩

theorem artifactServer_distinct (index : Int) (cx : ArtifactContext) :
    ∀ a ∈ (artifactServer index).providers, ∀ b ∈ (artifactServer index).providers,
      cx.digest .sha1 a.toList = cx.digest .sha1 b.toList → a = b := by
  have hkey : ∀ a ∈ (artifactServer index).providers, a = "idp" := by
    intro a ha
    simpa [artifactServer, AList.mem_keys, AList.keys_singleton] using ha
  intro a ha b hb _
  rw [hkey a ha, hkey b hb]

end Saml20

end Lasso
