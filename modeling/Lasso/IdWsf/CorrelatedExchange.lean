import Lasso.IdWsf.SoapExchange
import Lasso.Library.Correlated
import Lasso.Library.Run

/-!
# Correlation of ID-WSF 1.0 responses

Any number of profiles send requests and answer them, in any order and in either role, over a
network that may lose, delay, repeat and misdirect what was sent. The texts of one exchange are a
consistent list of correlated messages, so that the identifier in the header of a response is enough
for a client to accept just the answer to its own request.

## Main definitions

* `WsfRun` — the profiles, and what was sent.
* `WsfRun.Inv` — the messages are consistent, and every profile at work has one of them in hand.

## Main results

* `WsfRun.accepted_iff_answered` — a response is accepted if it was made for the profile's request.
-/

namespace Lasso.IdWsf.Soap

open Run Correlated

variable {ν : Type}

/-! ## Envelopes and messages -/

/-- The envelope of a message. -/
structure SoapEnvelope.Carries (envelope : SoapEnvelope ν) (m : Message String (BodyNode ν)) :
    Prop where
  messageId : envelope.messageId = some m.id
  refMessageId : envelope.refMessageId = m.refTo
  body : ∃ body, envelope.body = some body ∧ body.any = [m.body]

/-- What a profile has been asked: the identifier of the request and its content. -/
def WsfProfile.asked (profile : WsfProfile ν) : Option (String × BodyNode ν) :=
  (profile.soapEnvelopeRequest.bind (·.messageId)).bind fun id => profile.request.map (id, ·)

/-- What a profile sends in place of a response. -/
def WsfProfile.answer (profile : WsfProfile ν) (response : BodyNode ν) : BodyNode ν :=
  profile.soapFault.elim response .soapFault

theorem WsfProfile.asked_eq_some {profile : WsfProfile ν} {id : String} {request : BodyNode ν}
    (h : profile.asked = some (id, request)) :
    ∃ envelope, profile.soapEnvelopeRequest = some envelope ∧ envelope.messageId = some id ∧
      profile.request = some request := by
  obtain ⟨id', hid, hrequest⟩ := Option.bind_eq_some_iff.mp h
  obtain ⟨envelope, henvelope, hid⟩ := Option.bind_eq_some_iff.mp hid
  obtain ⟨request', hrequest, heq⟩ := Option.map_eq_some_iff.mp hrequest
  cases heq
  exact ⟨envelope, henvelope, hid, hrequest⟩

/-- What a profile has been asked is in two of its fields. -/
theorem WsfProfile.asked_congr {profile after : WsfProfile ν}
    (henvelope : after.soapEnvelopeRequest = profile.soapEnvelopeRequest)
    (hrequest : after.request = profile.request) : after.asked = profile.asked := by
  rw [asked, asked, henvelope, hrequest]

/-- The response was accepted, be it with a SOAP fault in it. -/
def Accepted (rc : FamilyRc WsfProfileError) : Prop :=
  rc = .ok ∨ rc = .own .soapFault ∨ rc = .own .redirectRequestFault

/-! ## What the functions leave -/

section

variable {cx : WsfContext ν} {profile after : WsfProfile ν} {stamps : Stamps}

theorem carries_build (stamps : Stamps) (refToMessageId providerId : Option String)
    (node : BodyNode ν) (answers : Option (String × BodyNode ν))
    (href : refToMessageId = answers.map Prod.fst) :
    ((buildSoapEnvelopeInternal stamps refToMessageId providerId).addToBody node).Carries
      { id := stamps.messageId, body := node, answers } where
  messageId := rfl
  refMessageId := href
  body := ⟨_, rfl, rfl⟩

theorem saml_of_null {securityMechId : Option String}
    (h : securityMechIdIsNullAuthentication securityMechId = true) :
    securityMechIdIsSamlAuthentication securityMechId = false ∧
      securityMechIdIsBearerAuthentication securityMechId = false := by
  cases securityMechId with
  | none => exact ⟨rfl, rfl⟩
  | some id =>
    have hmem := List.contains_iff_mem.mp h
    simp only [List.mem_cons, List.not_mem_nil, or_false] at hmem
    rcases hmem with rfl | rfl | rfl <;> decide

/-- The text of a request without authentication is that of its envelope. -/
theorem buildSoapRequestMsg_eq_ok
    (hmech : securityMechIdIsNullAuthentication profile.securityMechId = true)
    (h : profile.buildSoapRequestMsg cx = some (.ok, after)) :
    ∃ envelope, profile.soapEnvelopeRequest = some envelope ∧
      after.msgBody = some (cx.writeEnvelope envelope) ∧ after.asked = profile.asked := by
  obtain ⟨hsaml, hbearer⟩ := saml_of_null hmech
  cases henvelope : profile.soapEnvelopeRequest with
  | none => simp [WsfProfile.buildSoapRequestMsg, henvelope] at h
  | some envelope =>
    simp only [WsfProfile.buildSoapRequestMsg, henvelope, WsfProfile.complyWithSecurityMechanism,
      hsaml, hbearer, hmech, Option.isNone_some, Bool.false_eq_true, if_false, if_true,
      Option.bind_some, not_true_eq_false, ne_eq, WsfProfile.soapRequestText] at h
    obtain ⟨description, -, hafter⟩ := Option.map_eq_some_iff.mp h
    cases hendpoint : description.endpoint with
    | none => simp [hendpoint] at hafter
    | some endpoint =>
      simp only [hendpoint, Prod.mk.injEq, true_and] at hafter
      subst hafter
      exact ⟨envelope, rfl, rfl, by simp [WsfProfile.asked, henvelope]⟩

theorem readRequestHeader_eq_ok {envelope : SoapEnvelope ν} {securityMechId : Option String}
    {rc : FamilyRc WsfProfileError}
    (h : profile.readRequestHeader envelope securityMechId rc = (.ok, after)) :
    rc = .ok ∧ envelope.messageId.isSome ∧
      after.soapEnvelopeRequest = profile.soapEnvelopeRequest ∧
        after.request = profile.request := by
  unfold WsfProfile.readRequestHeader at h
  split_ifs at h with hheader hid hmech
  · cases h
  · cases h
  · cases h
  · refine ⟨?_, Option.isSome_iff_ne_none.mpr (by simpa using hid), ?_⟩
    · split at h <;> exact congrArg Prod.fst h
    · split at h <;> cases h <;> exact ⟨rfl, rfl⟩

/-- A request that is accepted has an identifier and content, and the profile keeps them. -/
theorem processSoapRequestMsg_eq_ok {message : Bytes} {securityMechId : Option String}
    (h : profile.processSoapRequestMsg cx message securityMechId = (.ok, after)) :
    ∃ envelope, cx.readEnvelope message = some envelope ∧ envelope.messageId.isSome ∧
      after.soapEnvelopeRequest = some envelope ∧
      after.request = envelope.body.bind (·.any.head?) := by
  unfold WsfProfile.processSoapRequestMsg at h
  cases henvelope : cx.readEnvelope message with
  | none => simp [henvelope] at h
  | some envelope =>
    cases hbody : envelope.body with
    | none => simp [henvelope, hbody] at h
    | some body =>
      simp only [henvelope, hbody] at h
      obtain ⟨-, hid, hkept, hrequest⟩ := readRequestHeader_eq_ok h
      exact ⟨envelope, rfl, hid, hkept, by rw [hrequest, hbody, Option.bind_some]⟩

/-- What a profile that accepts a message of the exchange has been asked. -/
theorem asked_of_processSoapRequestMsg {message : Bytes} {securityMechId : Option String}
    {envelope : SoapEnvelope ν} {m : Message String (BodyNode ν)}
    (h : profile.processSoapRequestMsg cx message securityMechId = (.ok, after))
    (hread : cx.readEnvelope message = some envelope) (hcarries : envelope.Carries m) :
    after.asked = some (m.id, m.body) := by
  obtain ⟨envelope', hread', -, hkept, hrequest⟩ := processSoapRequestMsg_eq_ok h
  cases hread.symm.trans hread'
  obtain ⟨body, hbody, hany⟩ := hcarries.body
  rw [WsfProfile.asked, hkept, hrequest, Option.bind_some, hcarries.messageId, hbody]
  simp only [Option.bind_some, hany, List.head?_cons, Option.map_some]

/-- The text of a response refers to the request that the profile has in hand. -/
theorem buildSoapResponseMsg_of_init (cx : WsfContext ν) {response : BodyNode ν}
    {started : WsfProfile ν} {id : String} {request : BodyNode ν}
    (hasked : profile.asked = some (id, request))
    (hinit : profile.initSoapResponse response stamps = some started) :
    ∃ envelope, (started.buildSoapResponseMsg cx).1 = .ok ∧
      (started.buildSoapResponseMsg cx).2.msgBody = some (cx.writeEnvelope envelope) ∧
      (started.buildSoapResponseMsg cx).2.soapEnvelopeResponse = some envelope ∧
      (started.buildSoapResponseMsg cx).2.asked = profile.asked ∧
      envelope.Carries {
        id := stamps.messageId
        body := profile.answer response
        answers := some (id, request) } := by
  obtain ⟨requestEnvelope, hrequest, hid, -⟩ := WsfProfile.asked_eq_some hasked
  obtain ⟨_, henvelope, rfl⟩ := Option.map_eq_some_iff.mp hinit
  cases hrequest.symm.trans henvelope
  cases hfault : profile.soapFault with
  | none =>
    have hanswer : profile.answer response = response := by rw [WsfProfile.answer, hfault]; rfl
    simp only [WsfProfile.buildSoapResponseMsg, hanswer]
    exact ⟨_, trivial, rfl, rfl, WsfProfile.asked_congr rfl rfl,
      carries_build _ _ _ _ _ (by rw [hid]; rfl)⟩
  | some fault =>
    have hanswer : profile.answer response = .soapFault fault := by
      rw [WsfProfile.answer, hfault]; rfl
    simp only [WsfProfile.buildSoapResponseMsg, SoapEnvelope.addToBody, buildSoapEnvelopeInternal,
      Option.map_some, hanswer]
    exact ⟨_, trivial, rfl, rfl, WsfProfile.asked_congr rfl rfl,
      ⟨rfl, by rw [hid]; rfl, ⟨_, rfl, rfl⟩⟩⟩

/-- Whatever a fault asks for, the response counts as accepted. -/
theorem signalSoapFault_keeps (profile : WsfProfile ν) :
    Accepted profile.signalSoapFault.1 ∧ profile.signalSoapFault.2.response = profile.response ∧
      profile.signalSoapFault.2.asked = profile.asked := by
  unfold WsfProfile.signalSoapFault
  split
  · dsimp only
    split
    · exact ⟨.inr (.inr rfl), rfl, rfl⟩
    · exact ⟨.inr (.inl rfl), rfl, rfl⟩
  · exact ⟨.inl rfl, rfl, rfl⟩

/-- A profile takes what it received for its response, and accepts it for its reference. -/
theorem processSoapResponseMsg_eq {message : Bytes} {id : String} {request : BodyNode ν}
    {envelope : SoapEnvelope ν} {m : Message String (BodyNode ν)}
    (hasked : profile.asked = some (id, request))
    (hread : cx.readEnvelope message = some envelope) (hcarries : envelope.Carries m) :
    ∃ rc after, profile.processSoapResponseMsg cx message = some (rc, after) ∧
      after.response = some m.body ∧ after.asked = profile.asked ∧
      (Accepted rc ↔ m.refTo = some id) := by
  obtain ⟨requestEnvelope, hrequest, hid, -⟩ := WsfProfile.asked_eq_some hasked
  obtain ⟨body, hbody, hany⟩ := hcarries.body
  have hcorrelation : envelope.headerCorrelation.isNone = false := by
    obtain ⟨c, hc, -⟩ := Option.bind_eq_some_iff.mp hcarries.messageId
    rw [hc, Option.isNone_some]
  simp only [WsfProfile.processSoapResponseMsg, hread, hbody, hany, List.head?_cons,
    List.isEmpty_cons, hcorrelation, hrequest, hid, hcarries.refMessageId, Bool.false_eq_true,
    if_false, Option.map_some]
  by_cases href : m.refTo = some id
  · rw [if_neg (not_not.mpr href.symm)]
    obtain ⟨haccepted, hresponse, hasked⟩ := signalSoapFault_keeps { profile with
      soapFault := none
      soapEnvelopeRequest := some requestEnvelope
      soapEnvelopeResponse := some envelope
      response := some m.body }
    exact ⟨_, _, rfl, hresponse, hasked.trans (WsfProfile.asked_congr hrequest.symm rfl),
      iff_of_true haccepted href⟩
  · rw [if_pos (Ne.symm href)]
    refine ⟨_, _, rfl, rfl, WsfProfile.asked_congr hrequest.symm rfl, iff_of_false ?_ href⟩
    simp [Accepted]

end

/-! ## Runs -/

/-- A text on the network, with the message that it was written for. -/
structure Sent (ν : Type) where
  text : Bytes
  message : Message String (BodyNode ν)

/-- The profiles of all parties. A profile is ready while the last request that it started or
received went without error. What was sent may arrive at any time, at any profile, and again. -/
structure WsfRun (ν : Type) where
  profiles : Nat → WsfProfile ν
  ready : Nat → Bool := fun _ => false
  wire : List (Sent ν) := []

/-- What may happen. -/
inductive WsfEvent (ν : Type) where
  | sendRequest (i : Nat) (request : BodyNode ν) (stamps : Stamps)
  | receiveRequest (i : Nat) (text : Bytes) (securityMechId : Option String)
  | setSoapFault (i : Nat) (fault : Option (SoapFault ν))
  | sendResponse (i : Nat) (response : BodyNode ν) (stamps : Stamps)
  | receiveResponse (i : Nat) (text : Bytes)

namespace WsfRun

/-- The messages that were sent, the newest first. -/
def sent (s : WsfRun ν) : List (Message String (BodyNode ν)) := s.wire.map (·.message)

/-- The profile `i` after a call. -/
def setProfile (s : WsfRun ν) (i : Nat) (profile : WsfProfile ν) : WsfRun ν :=
  { s with profiles := Function.update s.profiles i profile }

/-- Whether the request of the profile `i` went without error. -/
def setReady (s : WsfRun ν) (i : Nat) (ready : Bool) : WsfRun ν :=
  { s with ready := Function.update s.ready i ready }

/-- Send the text of a profile. -/
def send (s : WsfRun ν) (profile : WsfProfile ν) (message : Message String (BodyNode ν)) :
    WsfRun ν :=
  { s with wire := { text := profile.msgBody.getD [], message } :: s.wire }

/-- One event. A call that does not return changes nothing. -/
def step (cx : WsfContext ν) (s : WsfRun ν) : WsfEvent ν → WsfRun ν
  | .sendRequest i request stamps =>
    (((s.profiles i).initSoapRequest request stamps).buildSoapRequestMsg cx).elim s
      fun (rc, profile) =>
        let s := (s.setProfile i profile).setReady i (rc = .ok)
        if rc = .ok then
          s.send profile { id := stamps.messageId, body := request, answers := none }
        else s
  | .receiveRequest i text securityMechId =>
    let (rc, profile) := (s.profiles i).processSoapRequestMsg cx text securityMechId
    (s.setProfile i profile).setReady i (rc = .ok)
  | .setSoapFault i fault => s.setProfile i { s.profiles i with soapFault := fault }
  | .sendResponse i response stamps =>
    ((s.profiles i).initSoapResponse response stamps).elim s fun started =>
      let (rc, profile) := started.buildSoapResponseMsg cx
      let message := {
        id := stamps.messageId
        body := (s.profiles i).answer response
        answers := (s.profiles i).asked }
      let s := s.setProfile i profile
      if rc = .ok then s.send profile message else s
  | .receiveResponse i text =>
    ((s.profiles i).processSoapResponseMsg cx text).elim s fun (_, profile) =>
      s.setProfile i profile

/-- No message has the identifier yet. -/
def Fresh (s : WsfRun ν) (messageId : String) : Prop := ∀ k ∈ s.sent, k.id ≠ messageId

/-- The envelope is read as it was written. -/
def Readable (cx : WsfContext ν) (envelope : Option (SoapEnvelope ν)) : Prop :=
  ∀ e ∈ envelope, cx.readEnvelope (cx.writeEnvelope e) = some e

/-- The text is on the network. -/
def OnWire (s : WsfRun ν) (text : Bytes) : Prop := ∃ sent ∈ s.wire, sent.text = text

/-- Message identifiers are not used twice, what arrives was sent, requests are made without
authentication, which is all that a service accepts, and only an accepted request is answered. -/
def Allowed (cx : WsfContext ν) (s : WsfRun ν) : WsfEvent ν → Prop
  | .sendRequest i request stamps =>
    s.Fresh stamps.messageId ∧
      securityMechIdIsNullAuthentication (s.profiles i).securityMechId = true ∧
      Readable cx ((s.profiles i).initSoapRequest request stamps).soapEnvelopeRequest
  | .receiveRequest _ text _ => s.OnWire text
  | .setSoapFault _ _ => True
  | .sendResponse i response stamps =>
    s.Fresh stamps.messageId ∧ s.ready i = true ∧
      ∀ started ∈ (s.profiles i).initSoapResponse response stamps,
        Readable cx (started.buildSoapResponseMsg cx).2.soapEnvelopeResponse
  | .receiveResponse _ text => s.OnWire text

/-- At the start nothing was sent. -/
def Starts (s : WsfRun ν) : Prop := s.wire = [] ∧ ∀ i, s.ready i = false

/-- The messages are consistent, every text carries its message, and a profile that is ready has one
of them in hand. -/
structure Inv (cx : WsfContext ν) (s : WsfRun ν) : Prop where
  consistent : Consistent s.sent
  carried : ∀ sent ∈ s.wire, ∃ envelope, cx.readEnvelope sent.text = some envelope ∧
    envelope.Carries sent.message
  holds : ∀ i, s.ready i = true → ∃ k ∈ s.sent, (s.profiles i).asked = some (k.id, k.body)

section

variable {cx : WsfContext ν} {s : WsfRun ν}

theorem inv_of_starts (h : s.Starts) : s.Inv cx where
  consistent := by rw [sent, h.1]; exact .nil
  carried := fun m hm => by rw [h.1] at hm; exact absurd hm List.not_mem_nil
  holds := fun i hi => absurd hi (by rw [h.2 i]; exact Bool.false_ne_true)

/-- A profile may be replaced by one that has been asked the same. -/
theorem Inv.setProfile (h : s.Inv cx) {i : Nat} {profile : WsfProfile ν}
    (hasked : s.ready i = true → profile.asked = (s.profiles i).asked) :
    (s.setProfile i profile).Inv cx where
  consistent := h.consistent
  carried := h.carried
  holds := fun j hj => by
    obtain ⟨k, hk, hkept⟩ := h.holds j hj
    refine ⟨k, hk, ?_⟩
    by_cases hij : j = i
    · subst hij
      simp only [WsfRun.setProfile, Function.update_self, hasked hj, hkept]
    · simp only [WsfRun.setProfile, Function.update_of_ne hij, hkept]

/-- A profile is ready with a message of the exchange in hand. -/
theorem Inv.setReady (h : s.Inv cx) {i : Nat} {profile : WsfProfile ν} {ready : Bool}
    (hheld : ready = true → ∃ k ∈ s.sent, profile.asked = some (k.id, k.body)) :
    ((s.setProfile i profile).setReady i ready).Inv cx where
  consistent := h.consistent
  carried := h.carried
  holds := fun j hj => by
    by_cases hij : j = i
    · subst hij
      simp only [WsfRun.setReady, WsfRun.setProfile, Function.update_self] at hj ⊢
      exact hheld hj
    · simp only [WsfRun.setReady, WsfRun.setProfile, Function.update_of_ne hij] at hj ⊢
      exact h.holds j hj

/-- A message may be sent if its identifier is new, it answers a message that was sent, and its text
carries it. -/
theorem Inv.send (h : s.Inv cx) {profile : WsfProfile ν} {message : Message String (BodyNode ν)}
    {envelope : SoapEnvelope ν} (hfresh : s.Fresh message.id)
    (hknown : ∀ asked ∈ message.answers, ∃ k ∈ s.sent, asked = (k.id, k.body))
    (htext : profile.msgBody = some (cx.writeEnvelope envelope))
    (hread : cx.readEnvelope (cx.writeEnvelope envelope) = some envelope)
    (hcarries : envelope.Carries message) : (s.send profile message).Inv cx where
  consistent := .cons h.consistent hfresh hknown
  carried := fun sent hsent => by
    rcases List.mem_cons.mp hsent with rfl | hsent
    · exact ⟨envelope, by rw [htext, Option.getD_some, hread], hcarries⟩
    · exact h.carried sent hsent
  holds := fun i hi => by
    obtain ⟨k, hk, hasked⟩ := h.holds i hi
    exact ⟨k, List.mem_cons_of_mem _ hk, hasked⟩

/-- One event keeps the invariant. -/
theorem inv_step (h : s.Inv cx) (e : WsfEvent ν) (hallowed : s.Allowed cx e) :
    (s.step cx e).Inv cx := by
  cases e with
  | sendRequest i request stamps =>
    obtain ⟨hfresh, hmech, hreadable⟩ := hallowed
    simp only [step]
    cases hbuild : ((s.profiles i).initSoapRequest request stamps).buildSoapRequestMsg cx with
    | none => exact h
    | some result =>
      obtain ⟨rc, profile⟩ := result
      simp only [Option.elim_some]
      by_cases hrc : rc = .ok
      · subst hrc
        have hmech' : securityMechIdIsNullAuthentication
            ((s.profiles i).initSoapRequest request stamps).securityMechId = true := hmech
        obtain ⟨envelope, henvelope, htext, hasked⟩ := buildSoapRequestMsg_eq_ok hmech' hbuild
        have hcarries : envelope.Carries
            { id := stamps.messageId, body := request, answers := none } := by
          cases henvelope
          exact carries_build _ _ _ _ _ rfl
        have hsent := h.send hfresh (by simp) htext (hreadable envelope henvelope) hcarries
        exact hsent.setReady fun _ => ⟨_, List.mem_cons_self, hasked⟩
      · rw [if_neg hrc]
        exact h.setReady fun htrue => absurd (of_decide_eq_true htrue) hrc
  | receiveRequest i text securityMechId =>
    obtain ⟨sent, hsent, rfl⟩ := hallowed
    obtain ⟨envelope, hread, hcarries⟩ := h.carried sent hsent
    refine h.setReady fun htrue => ⟨sent.message, List.mem_map_of_mem hsent, ?_⟩
    exact asked_of_processSoapRequestMsg (Prod.ext (of_decide_eq_true htrue) rfl) hread hcarries
  | setSoapFault i fault => exact h.setProfile fun _ => rfl
  | sendResponse i response stamps =>
    obtain ⟨hfresh, hready, hreadable⟩ := hallowed
    obtain ⟨k, hk, hasked⟩ := h.holds i hready
    simp only [step]
    cases hinit : (s.profiles i).initSoapResponse response stamps with
    | none => exact h
    | some started =>
      obtain ⟨envelope, hok, htext, henvelope, hkept, hcarries⟩ :=
        buildSoapResponseMsg_of_init cx hasked hinit
      simp only [Option.elim_some, hok, if_true]
      rw [hasked]
      have hsent := h.send hfresh (fun _ hmem => ⟨k, hk, (Option.some.inj hmem).symm⟩) htext
        (hreadable started hinit envelope henvelope) hcarries
      exact hsent.setProfile fun _ => hkept
  | receiveResponse i text =>
    obtain ⟨sent, hsent, rfl⟩ := hallowed
    obtain ⟨envelope, hread, hcarries⟩ := h.carried sent hsent
    simp only [step]
    cases hprocess : (s.profiles i).processSoapResponseMsg cx sent.text with
    | none => exact h
    | some result =>
      refine h.setProfile fun hready => ?_
      obtain ⟨k, -, hasked⟩ := h.holds i hready
      obtain ⟨rc, after, heq, -, hkept, -⟩ := processSoapResponseMsg_eq hasked hread hcarries
      cases hprocess.symm.trans heq
      exact hkept

/-- However the messages of all parties are mixed up, a profile accepts what arrives just if it was
made for the request that the profile has sent, and takes its content for the response. -/
theorem accepted_iff_answered (h : Reaches (step cx) (Allowed cx) Starts s) {i : Nat}
    (hready : s.ready i = true) {arrived : Sent ν} (harrived : arrived ∈ s.wire) :
    ∃ rc after, (s.profiles i).processSoapResponseMsg cx arrived.text = some (rc, after) ∧
      after.response = some arrived.message.body ∧
      (Accepted rc ↔
        ∃ k ∈ s.sent, arrived.message.Answers k ∧ (s.profiles i).asked = some (k.id, k.body)) := by
  have hinv : s.Inv cx := h.invariant (fun _ => inv_of_starts) fun _ e hi ha => inv_step hi e ha
  obtain ⟨k, hk, hasked⟩ := hinv.holds i hready
  obtain ⟨envelope, hread, hcarries⟩ := hinv.carried arrived harrived
  obtain ⟨rc, after, hprocess, hresponse, -, haccepted⟩ :=
    processSoapResponseMsg_eq hasked hread hcarries
  have hanswers := hinv.consistent.answers_iff (List.mem_map_of_mem harrived) hk
  refine ⟨rc, after, hprocess, hresponse, haccepted.trans (hanswers.symm.trans ?_)⟩
  constructor
  · exact fun hmade => ⟨k, hk, hmade, hasked⟩
  · rintro ⟨k', hk', hmade, hasked'⟩
    exact hmade.trans (hasked'.symm.trans hasked)

end

/-! ## A question and its answer -/

/-- The stamps of the message `id`. -/
def stampsOf (id : String) : Stamps where
  bodyId := "_b"
  messageId := id
  timestamp := "2010-01-01T00:00:00Z"
  providerHeaderId := "_p"

/-- The envelope of the request `_q` or, if it refers to it, of the response `_r`. -/
def exampleEnvelope (refToMessageId : Option String) : SoapEnvelope String :=
  (buildSoapEnvelopeInternal (stampsOf (if refToMessageId.isNone then "_q" else "_r"))
    refToMessageId none).addToBody
      (.other (if refToMessageId.isNone then "question" else "answer"))

/-- The texts of the two envelopes. -/
def exampleCx : WsfContext String where
  readEnvelope text :=
    if text = "<Q>".toList then some (exampleEnvelope none)
    else if text = "<R>".toList then some (exampleEnvelope (some "_q"))
    else none
  writeEnvelope envelope :=
    if envelope.refMessageId.isNone then "<Q>".toList else "<R>".toList
  complyWithSamlAuthentication _ := none
  addSamlSignature _ _ := .error .ok

/-- All profiles know the endpoint of the service. -/
def exampleStart : WsfRun String where
  profiles := fun _ => { description := some { endpoint := some "https://wsp.example/soap" } }

/-- The profile 0 has asked, and the profile 1 has answered. -/
def answeredRun : WsfRun String :=
  ((exampleStart.step exampleCx (.sendRequest 0 (.other "question") (stampsOf "_q"))).step exampleCx
    (.receiveRequest 1 "<Q>".toList none)).step exampleCx
      (.sendResponse 1 (.other "answer") (stampsOf "_r"))

/-- The answer as it was sent. -/
def answerSent : Sent String where
  text := "<R>".toList
  message := { id := "_r", body := .other "answer", answers := some ("_q", .other "question") }

/-- The answer is accepted where the question was asked. -/
theorem question_answered :
    ∃ rc after, (answeredRun.profiles 0).processSoapResponseMsg exampleCx answerSent.text =
        some (rc, after) ∧ after.response = some (.other "answer") ∧
      (Accepted rc ↔ ∃ k ∈ answeredRun.sent, answerSent.message.Answers k ∧
        (answeredRun.profiles 0).asked = some (k.id, k.body)) := by
  have hmem : answerSent ∈ answeredRun.wire := List.mem_cons_self
  refine accepted_iff_answered (.next _ (.next _ (.next _ (.start ⟨rfl, fun _ => rfl⟩) ?_) ?_) ?_)
    (by decide) hmem
  · refine ⟨fun k hk => absurd hk List.not_mem_nil, rfl, ?_⟩
    rintro e ⟨⟩
    rfl
  · exact ⟨_, List.mem_cons_self, rfl⟩
  · refine ⟨fun k hk => ?_, by decide, ?_⟩
    · rcases List.mem_singleton.mp hk with rfl
      decide
    · rintro started ⟨⟩ e ⟨⟩
      rfl

end WsfRun

end Lasso.IdWsf.Soap
