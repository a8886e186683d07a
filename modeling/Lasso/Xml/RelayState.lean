import Lasso.Library.Pieces
import Lasso.Xml.Message
import Lasso.Xml.QueryAgreement

/-!
# The RelayState of a redirect message

The verification of a SAML 2.0 query signs the last component that starts with `RelayState=`, while
`getRelaystateFromQuery` looks for the first one, and for those after a `&` before those after a
`;`. The two differ on queries with several of these components.

## Main results

* `getRelaystateFromQuery_eq` — the component that the search ends at.
* `relaystateVerified_iff` — when the value used is the one verified.
-/

namespace Lasso

open Search Pieces

def isSeparator (c : Char) : Bool := c == '&' || c == ';'

theorem not_separator_of_any {component : Bytes} (h : component.any isSeparator = false) :
    ∀ c ∈ component, isSeparator c = false := by
  simpa only [List.any_eq_false, Bool.not_eq_true] using h

/-- The name and the `=` of a RelayState component. -/
def relaystateHead : Bytes := fieldRelaystate.toList ++ ['=']

/-- Where `getRelaystateFromQuery` finds the value. -/
def relaystateStart (query : Bytes) : Option Bytes :=
  if relaystateHead.isPrefixOf query then some (query.drop relaystateHead.length)
  else
    match breakOn ('&' :: relaystateHead) query with
    | some (_, start) => some start
    | none => (breakOn (';' :: relaystateHead) query).map (·.2)

/-- `xmlURIUnescapeString` of a value, and an empty string for an empty one. -/
def unescapeValue (env : Env) (value : Bytes) : Bytes :=
  if value = [] then [] else env.uriUnescape value

def isRelaystate (component : Bytes) : Bool := matchField fieldRelaystate component

/-- The first component of the query, else the first one after a `&`, else the first one after a
`;` that is a RelayState. -/
def foundRelaystate (query : Bytes) : Option Bytes :=
  let (first, rest) := pieces isSeparator query
  if isRelaystate first then some first
  else
    ((rest.find? fun (sep, component) => sep == '&' && isRelaystate component).or
      (rest.find? fun (sep, component) => sep == ';' && isRelaystate component)).map (·.2)

/-- The last component that is a RelayState. -/
def lastRelaystate (query : Bytes) : Option Bytes :=
  (queryComponents query).reverse.find? isRelaystate

/-- The unescaped value of a RelayState component. -/
def relaystateValue (env : Env) (component : Bytes) : Bytes :=
  unescapeValue env (component.drop relaystateHead.length)

/-- The query is verified, with this signed string that contains this RelayState component. -/
def Signs (env : Env) (query : Bytes) (q : SignedQuery) (relaystate : Option Bytes) : Prop :=
  env.verifySignatureFlag = true ∧ buildSignedQuery env query = .ok q ∧
    (signedFields env query).relaystate = relaystate

/-- The value used is that of the component in the verified string, none if it contains none. -/
def RelaystateVerified (env : Env) (query : Bytes) : Prop :=
  ∃ q relaystate, Signs env query q relaystate ∧
    getRelaystateFromQuery env query = relaystate.map (relaystateValue env)

/-! ## The component that is found -/

theorem relaystate_no_separator : ∀ c ∈ relaystateHead, isSeparator c = false :=
  not_separator_of_any (by decide)

theorem queryComponents_eq_pieces (query : Bytes) :
    queryComponents query =
      (pieces isSeparator query).1 :: (pieces isSeparator query).2.map (·.2) :=
  splitOnP_eq_pieces isSeparator query

/-- The first occurrence of a separator and a name begins the first such piece. -/
theorem breakOn_eq_find? (sep : Char) {name : Bytes} (hsep : isSeparator sep = true)
    (hname : ∀ c ∈ name, isSeparator c = false) (query : Bytes) :
    (breakOn (sep :: name) query).map (fun (_, start) => start.takeWhile (!isSeparator ·)) =
      ((pieces isSeparator query).2.find? fun (s, component) =>
        s == sep && name.isPrefixOf component).map fun (_, component) =>
          component.drop name.length := by
  induction query with
  | nil => simp [breakOn]
  | cons c rest ih =>
    have hstarts : (sep :: name).isPrefixOf (c :: rest) =
        (c == sep && name.isPrefixOf (pieces isSeparator rest).1) := by
      rw [List.isPrefixOf_cons_cons, isPrefixOf_first hname, Bool.beq_comm]
    have hskip (hmiss : (sep :: name).isPrefixOf (c :: rest) = false) :
        breakOn (sep :: name) (c :: rest) =
          (breakOn (sep :: name) rest).map fun (before, after) => (c :: before, after) := by
      simp [breakOn, hmiss]
    cases hc : isSeparator c with
    | false =>
      have hne : c ≠ sep := by
        rintro rfl
        simp [hc] at hsep
      rw [hskip (by simp [hstarts, hne]), pieces_cons_of_neg hc, ← ih, Option.map_map]
      rfl
    | true =>
      rw [pieces_cons_of_pos hc, List.find?_cons]
      dsimp only
      cases hhit : c == sep && name.isPrefixOf (pieces isSeparator rest).1 with
      | false =>
        rw [hskip (hstarts.trans hhit), ← ih, Option.map_map]
        rfl
      | true =>
        have hrest : name <+: rest := by
          rw [← List.isPrefixOf_iff_prefix, ← isPrefixOf_first hname]
          exact (Bool.and_eq_true_iff.mp hhit).2
        simp [breakOn, hstarts.trans hhit, takeWhile_drop hname hrest]

theorem relaystateStart_eq_or (query : Bytes) :
    relaystateStart query =
      if relaystateHead.isPrefixOf query then some (query.drop relaystateHead.length)
      else
        ((breakOn ('&' :: relaystateHead) query).or
          (breakOn (';' :: relaystateHead) query)).map (·.2) := by
  unfold relaystateStart
  cases breakOn ('&' :: relaystateHead) query <;> rfl

theorem getRelaystateFromQuery_eq (env : Env) (query : Bytes) :
    getRelaystateFromQuery env query = (foundRelaystate query).map (relaystateValue env) := by
  have hstart : (relaystateStart query).map (List.takeWhile (!isSeparator ·)) =
      (foundRelaystate query).map (List.drop relaystateHead.length) := by
    rw [relaystateStart_eq_or]
    unfold foundRelaystate
    have hfirst := isPrefixOf_first relaystate_no_separator query
    cases hhead : relaystateHead.isPrefixOf query with
    | true =>
      have hdrop := takeWhile_drop relaystate_no_separator (List.isPrefixOf_iff_prefix.mp hhead)
      have hhit : isRelaystate (pieces isSeparator query).1 = true := hfirst.trans hhead
      simp only [hhit, if_true, Option.map_some]
      exact congrArg some hdrop
    | false =>
      have hmiss : isRelaystate (pieces isSeparator query).1 = false := hfirst.trans hhead
      have hamp := breakOn_eq_find? '&' rfl relaystate_no_separator query
      have hsemi := breakOn_eq_find? ';' rfl relaystate_no_separator query
      simp only [hmiss, Bool.false_eq_true, if_false, Option.map_or, Option.map_map]
      exact congrArg₂ Option.or hamp hsemi
  have hnot : (fun c => c != '&' && c != ';') = (!isSeparator ·) := by
    funext c
    rw [isSeparator, Bool.not_or]
    rfl
  have hsearch : getRelaystateFromQuery env query =
      ((relaystateStart query).map (List.takeWhile (!isSeparator ·))).map (unescapeValue env) := by
    rw [← hnot, Option.map_map]
    rfl
  rw [hsearch, hstart, Option.map_map]
  rfl

/-! ## The component that is verified -/

theorem isSamlMessage_eq_false_of_isRelaystate {component : Bytes}
    (h : isRelaystate component = true) : isSamlMessage component = false := by
  obtain ⟨value, rfl⟩ := List.isPrefixOf_iff_prefix.mp h
  rfl

theorem relaystate_scan (env : Env) (fields : SignedFields) (component : Bytes) :
    (fields.scan env component).relaystate =
      (if isRelaystate component then some component else none).or fields.relaystate := by
  unfold SignedFields.scan
  cases hrelaystate : isRelaystate component with
  | true =>
    have hmatch : matchField fieldRelaystate component = true := hrelaystate
    simp [isSamlMessage_eq_false_of_isRelaystate hrelaystate, hmatch]
  | false =>
    have hmatch : matchField fieldRelaystate component = false := hrelaystate
    simp only [hmatch, Bool.false_eq_true, if_false, Option.none_or]
    split_ifs <;> rfl

theorem relaystate_foldl (env : Env) (fields : SignedFields) (components : List Bytes) :
    (components.foldl (SignedFields.scan env) fields).relaystate =
      lastSome (fun c => if isRelaystate c then some c else none) fields.relaystate components := by
  induction components generalizing fields with
  | nil => rfl
  | cons component components ih => rw [List.foldl_cons, ih, lastSome_cons, relaystate_scan]

theorem relaystate_signedFields (env : Env) (query : Bytes) :
    (signedFields env query).relaystate = lastRelaystate query := by
  rw [signedFields, relaystate_foldl, lastSome_eq_find?]
  rfl

/-- The signed string consists of the message, the RelayState component and the algorithm. -/
theorem Signs.signedQuery_eq {env : Env} {query : Bytes} {q : SignedQuery}
    {relaystate : Option Bytes} (h : Signs env query q relaystate) :
    ∃ sigAlg, (signedFields env query).sigAlg = some sigAlg ∧
      q.signedQuery = q.message ++ ['&'] ++ relaystate.elim [] (· ++ ['&']) ++ sigAlg := by
  obtain ⟨-, hq, rfl⟩ := h
  unfold buildSignedQuery at hq
  dsimp only at hq
  split at hq
  · cases hq
  · split at hq
    · cases hq
    · rename_i sigAlg hsigAlg
      split at hq
      · cases hq
      · cases hq
        exact ⟨sigAlg, hsigAlg, rfl⟩

theorem foundRelaystate_isSome (query : Bytes) :
    (foundRelaystate query).isSome = (lastRelaystate query).isSome := by
  have hlast : (lastRelaystate query).isSome = true ↔
      isRelaystate (pieces isSeparator query).1 = true ∨
        ∃ piece ∈ (pieces isSeparator query).2, isRelaystate piece.2 = true := by
    rw [lastRelaystate, List.find?_isSome, queryComponents_eq_pieces]
    simp only [List.mem_reverse, List.mem_cons, List.mem_map]
    grind
  have hfound : (foundRelaystate query).isSome = true ↔
      isRelaystate (pieces isSeparator query).1 = true ∨
        ∃ piece ∈ (pieces isSeparator query).2,
          (piece.1 == '&' || piece.1 == ';') = true ∧ isRelaystate piece.2 = true := by
    unfold foundRelaystate
    cases hfirst : isRelaystate (pieces isSeparator query).1 with
    | true => simp [hfirst]
    | false =>
      simp only [hfirst, Bool.false_eq_true, if_false, false_or, Option.isSome_map,
        Option.isSome_or, Bool.or_eq_true, List.find?_isSome, Bool.and_eq_true]
      grind
  rw [Bool.eq_iff_iff, hfound, hlast]
  have hsep : ∀ piece ∈ (pieces isSeparator query).2,
      (piece.1 == '&' || piece.1 == ';') = true := fun piece hpiece => separator_of_mem hpiece
  grind

/-- The RelayState used is the one verified just if verification is on and the component found has
the same value as the last one. -/
theorem relaystateVerified_iff {env : Env} {query : Bytes} {key : SecKey}
    (h : saml2QueryVerifySignature env query key = .ok) :
    RelaystateVerified env query ↔
      env.verifySignatureFlag = true ∧
        ∀ found last, foundRelaystate query = some found → lastRelaystate query = some last →
          relaystateValue env found = relaystateValue env last := by
  have hsome := foundRelaystate_isSome query
  constructor
  · rintro ⟨q, relaystate, ⟨hflag, -, rfl⟩, hvalue⟩
    refine ⟨hflag, ?_⟩
    intro found last hfound hlast
    rw [getRelaystateFromQuery_eq, relaystate_signedFields, hfound, hlast] at hvalue
    exact Option.some.inj hvalue
  · rintro ⟨hflag, hsame⟩
    obtain ⟨q, hq, -⟩ := saml2QueryVerifySignature_eq_ok hflag h
    refine ⟨q, _, ⟨hflag, hq, rfl⟩, ?_⟩
    rw [getRelaystateFromQuery_eq, relaystate_signedFields]
    cases hfound : foundRelaystate query with
    | none =>
      rw [hfound, Option.isSome_none, eq_comm, Option.isSome_eq_false_iff,
        Option.isNone_iff_eq_none] at hsome
      rw [hsome]
    | some found =>
      rw [hfound, Option.isSome_some, eq_comm, Option.isSome_iff_exists] at hsome
      obtain ⟨last, hlast⟩ := hsome
      rw [hlast, Option.map_some, Option.map_some, hsame found last hfound hlast]

/-! ## A second RelayState in front of the signed one -/

/-- A message with a relay state was signed with `redirectKey`, under the signature `sig`. -/
def relaystateEnv : Env :=
  { redirectEnv with
    rsaVerify := fun _ digest signature key =>
      key == redirectKey && signature == "sig".toList &&
        digest == ("SAMLRequest=one&RelayState=good" ++
          "&SigAlg=http://www.w3.org/2000/09/xmldsig%23rsa-sha1").toList }

def signedRelaystateQuery : Bytes :=
  ("SAMLRequest=one&RelayState=good&SigAlg=http://www.w3.org/2000/09/xmldsig%23rsa-sha1" ++
    "&Signature=c2ln").toList

/-- A RelayState in front of the signed query is used in place of the verified one. -/
theorem relaystate_replaced :
    ¬ ∀ (env : Env) (query : Bytes) (key : SecKey),
      saml2QueryVerifySignature env query key = .ok → RelaystateVerified env query := by
  intro hall
  have hok : saml2QueryVerifySignature relaystateEnv
      ("RelayState=evil&".toList ++ signedRelaystateQuery) redirectKey = .ok := by decide +kernel
  obtain ⟨q, relaystate, ⟨-, -, rfl⟩, hvalue⟩ := hall _ _ _ hok
  revert hvalue
  decide +kernel

theorem relaystateVerified_iff_signedRelaystateQuery :
    saml2QueryVerifySignature relaystateEnv signedRelaystateQuery redirectKey = .ok ∧
      RelaystateVerified relaystateEnv signedRelaystateQuery := by
  have hok : saml2QueryVerifySignature relaystateEnv signedRelaystateQuery redirectKey = .ok := by
    decide +kernel
  refine ⟨hok, (relaystateVerified_iff hok).mpr ⟨rfl, ?_⟩⟩
  have hsame : foundRelaystate signedRelaystateQuery = lastRelaystate signedRelaystateQuery := by
    decide +kernel
  intro found last hfound hlast
  obtain rfl : found = last := Option.some.inj (hfound.symm.trans (hsame.trans hlast))
  rfl

end Lasso
