import Lasso.Saml20.Profile

/-!
# Where the stored request comes from

A profile keeps the last readable request and a signature status, and a later call may use both.
`Origin` records beside a run of calls which message the stored request came from and whether the
status still is the verdict on that message.
-/

namespace Lasso.Saml20

structure Origin where
  msg : Received
  /-- the provider that the issuer was when the message was received -/
  issuer : Option Provider
  /-- the signature status has not been reset since -/
  current : Bool := true

section

variable {α : Type*} (abstract : α → Samlp2RequestAbstract)

/-- The origin of the stored request after the message `text`, parsed to `m`. A message that is
not stored resets the status of the stored one to zero. -/
def trackOrigin (profile : Profile) (m : ParsedMessage α) (text : Bytes)
    (origin : Option Origin) : Option Origin :=
  if (requestMethod m.format).isSome then
    some { msg := m.received text, issuer := issuerProvider profile (abstract m.node) }
  else
    origin.map fun o => { o with current := o.current && profile.signatureStatus == .ok }

end

/-- A zero status is the verdict on the message of the stored request. -/
def StatusTracked (env : Env) (status : Rc) (origin : Option Origin) : Prop :=
  ∀ o ∈ origin, ∀ p ∈ o.issuer, o.current = true → status = .ok → p.verifyReceived env o.msg = .ok

/-- The SAML 2.0 request of the profile has an origin; its issuer is the provider that the server
knows now. -/
def RequestTracked (profile : Profile) (origin : Option Origin) : Prop :=
  ∀ r ∈ requestAbstract profile, ∃ o ∈ origin, o.issuer = issuerProvider profile r

section

variable {α : Type*} {toNode : α → LassoNode} {abstract : α → Samlp2RequestAbstract}
  {cx : Context} {profile : Profile} {origin : Option Origin}

theorem trackOrigin_stored {m : ParsedMessage α} {text : Bytes} {method : HttpMethod}
    (hmethod : requestMethod m.format = some method) :
    trackOrigin abstract profile m text origin =
      some { msg := m.received text, issuer := issuerProvider profile (abstract m.node) } := by
  simp [trackOrigin, hmethod]

/-- Reading a request keeps the status and the origin together. -/
theorem processAnyRequest_tracked (cls : NodeClass α) (requestNode : α) (text : Bytes)
    (h : StatusTracked cx.toEnv profile.signatureStatus origin) :
    StatusTracked cx.toEnv
      (processAnyRequest toNode abstract cx cls requestNode profile text).2.signatureStatus
      (trackOrigin abstract profile
        (initFromMessageWithFormat cx.toEnv cls requestNode text .unknown) text origin) := by
  have houtcome := processAnyRequest_outcome toNode abstract cx cls requestNode profile text
  generalize initFromMessageWithFormat cx.toEnv cls requestNode text .unknown = m at *
  generalize processAnyRequest toNode abstract cx cls requestNode profile text = result at *
  cases houtcome with
  | unreadable hmethod hrc hprofile =>
    rintro o ho p hp hcurrent -
    simp only [trackOrigin, hmethod, Option.isSome_none, Bool.false_eq_true, if_false,
      Option.mem_def, Option.map_eq_some_iff] at ho
    obtain ⟨o, ho, rfl⟩ := ho
    simp only [Bool.and_eq_true, beq_iff_eq] at hcurrent
    exact h o ho p hp hcurrent.1 hcurrent.2
  | noIssuer method hmethod hissuer hrc hprofile =>
    rw [trackOrigin_stored hmethod]
    rintro o ho p hp - -
    cases ho
    simp [issuerProvider, hissuer] at hp
  | unknownIssuer method hmethod issuer hissuer hrc hprofile hprovider =>
    rw [trackOrigin_stored hmethod]
    rintro o ho p hp - -
    cases ho
    simp [hprovider] at hp
  | verified method hmethod issuer hissuer p hrc hprofile hprovider =>
    rw [trackOrigin_stored hmethod, hprofile]
    rintro o ho p' hp' - hstatus
    cases ho
    obtain rfl : p = p' := by simpa [hprovider] using hp'
    exact hstatus

/-- Reading a request keeps the request and the origin together. -/
theorem processAnyRequest_requestTracked (cls : NodeClass α) (requestNode : α) (text : Bytes)
    (hnode : ∀ (profile : Profile) a, profile.request = some (toNode a) →
      requestAbstract profile = some (abstract a))
    (h : RequestTracked profile origin) :
    RequestTracked (processAnyRequest toNode abstract cx cls requestNode profile text).2
      (trackOrigin abstract profile
        (initFromMessageWithFormat cx.toEnv cls requestNode text .unknown) text origin) := by
  have houtcome := processAnyRequest_outcome toNode abstract cx cls requestNode profile text
  generalize initFromMessageWithFormat cx.toEnv cls requestNode text .unknown = m at *
  generalize processAnyRequest toNode abstract cx cls requestNode profile text = result at *
  have hstored (method : HttpMethod) (hmethod : requestMethod m.format = some method)
      (hserver : result.2.server = profile.server)
      (hrequest : result.2.request = some (toNode m.node)) :
      RequestTracked result.2 (trackOrigin abstract profile m text origin) := by
    rintro r hr
    rw [hnode _ _ hrequest] at hr
    cases hr
    exact ⟨_, trackOrigin_stored hmethod, (issuerProvider_congr hserver _).symm⟩
  cases houtcome with
  | unreadable hmethod hrc hprofile =>
    rw [hprofile]
    rintro r hr
    obtain ⟨o, ho, hissuer⟩ := h r hr
    exact ⟨{ o with current := o.current && profile.signatureStatus == .ok },
      by simp [trackOrigin, hmethod, Option.mem_def.mp ho], hissuer⟩
  | noIssuer method hmethod _ _ hprofile =>
    exact hstored method hmethod (by rw [hprofile]; rfl) (by rw [hprofile]; rfl)
  | unknownIssuer method hmethod _ _ _ hprofile =>
    exact hstored method hmethod (by rw [hprofile]; rfl) (by rw [hprofile]; rfl)
  | verified method hmethod _ _ _ _ hprofile =>
    exact hstored method hmethod (by rw [hprofile]; rfl) (by rw [hprofile]; rfl)

end

end Lasso.Saml20
