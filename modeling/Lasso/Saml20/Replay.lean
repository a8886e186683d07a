import Lasso.Library.Run
import Lasso.Saml20.Response

/-!
# Replayed assertions

`acceptSso` refuses an assertion whose ID is in the session's index of NameIDs and SessionIndexes.
An assertion leaves its ID there only with an entry that is new: one without an authentication
statement, without a SessionIndex, or with the NameID and SessionIndexes of an earlier assertion
can be accepted again and again.
-/

namespace Lasso.Saml20

open Run

/-- A session during the logins at one provider, with the IDs of the assertions accepted so far. -/
structure SsoRun where
  session : Session
  accepted : List String := []

namespace SsoRun

/-- The login in the session of the run, with an assertion of the provider. -/
def inSession (s : SsoRun) (providerId : String) (login : Login) : Login :=
  { login with profile := { login.profile with
      session := some s.session
      remoteProviderId := some providerId } }

/-- One call of `acceptSso`. -/
def step (cx : Context) (providerId : String) (s : SsoRun) (login : Login) : SsoRun :=
  let result := acceptSso cx (s.inSession providerId login)
  { session := result.2.profile.session.getD s.session
    accepted :=
      if result.1 = .ok then ((firstAssertion login.profile).bind (·.id)).toList ++ s.accepted
      else s.accepted }

/-- An assertion with an ID that is not known yet has an authentication statement whose SessionIndex
is new for its NameID. -/
def LeavesId (providerId : String) (s : SsoRun) (login : Login) : Prop :=
  ∀ a nameId x, firstAssertion login.profile = some a → a.nameId = some nameId → a.id = some x →
    x ∉ s.session.getAssertionIds (some providerId) →
      ∃ e ∈ a.sessionEntries nameId, ∀ other ∈ s.session.entries providerId, other.sameAs e = false

/-- At the start no assertion is accepted yet. -/
def Starts (s : SsoRun) : Prop := s.accepted = []

/-- Every accepted ID is known. -/
def Remembered (providerId : String) (s : SsoRun) : Prop :=
  ∀ x ∈ s.accepted, x ∈ s.session.getAssertionIds (some providerId)

/-- An assertion with an accepted ID is refused. -/
def RefusesReplay (cx : Context) (providerId : String) (s : SsoRun) (login : Login) : Prop :=
  ∀ a, firstAssertion login.profile = some a → ∀ x ∈ s.accepted, a.id = some x →
    (acceptSso cx (s.inSession providerId login)).1 = .login .assertionReplay

section

variable {cx : Context} {providerId : String} {s : SsoRun}

theorem isReplayed_inSession (login : Login) (a : Saml2Assertion) :
    isReplayed (s.inSession providerId login).profile a = true ↔
      ∃ x ∈ s.session.getAssertionIds (some providerId), a.id = some x := by
  rw [isReplayed, List.any_eq_true]
  refine exists_congr fun x => and_congr_right fun _ => ?_
  rw [beq_iff_eq, eq_comm]

/-- One call keeps the accepted IDs known. -/
theorem remembered_step (h : s.Remembered providerId) (login : Login)
    (hleaves : s.LeavesId providerId login) :
    (s.step cx providerId login).Remembered providerId := by
  intro x hx
  unfold step at hx ⊢
  dsimp only at hx ⊢
  cases acceptSso_outcome cx (s.inSession providerId login) with
  | rejected hrc hlogin =>
    rw [if_neg hrc] at hx
    rw [hlogin]
    exact h x hx
  | noNameId a hfirst hnameId hrc hlogin =>
    rw [if_neg hrc] at hx
    rw [hlogin]
    exact (Session.mem_getAssertionIds_addAssertion a).mpr (.inl (h x hx))
  | recorded a hfirst nameId hnameId hnew hrc identity hlogin =>
    rw [if_pos hrc] at hx
    rw [hlogin]
    replace hfirst : firstAssertion login.profile = some a := hfirst
    refine (Session.mem_getAssertionIds_addAssertion a).mpr ?_
    rcases List.mem_append.mp hx with hx | hx
    · have hid : a.id = some x := by simpa [hfirst] using hx
      by_cases hknown : x ∈ s.session.getAssertionIds (some providerId)
      · exact .inl hknown
      · obtain ⟨e, he, hfresh⟩ := hleaves a nameId x hfirst hnameId hid hknown
        refine .inr ⟨hid, nameId, hnameId, e, he, ?_⟩
        simpa using hfresh
    · exact .inl (h x hx)

/-- In every run of calls whose assertions leave their IDs, an assertion with an accepted ID is
refused as a replay. -/
theorem replay_refused (h : Reaches (step cx providerId) (LeavesId providerId) Starts s)
    (login : Login) : s.RefusesReplay cx providerId login := by
  have hremembered : s.Remembered providerId := by
    refine h.invariant ?_ fun s login hs hleaves => remembered_step hs login hleaves
    intro s hstart x hx
    rw [hstart] at hx
    cases hx
  intro a hfirst x hx hid
  refine acceptSso_of_isReplayed (a := a) hfirst ?_
  exact (isReplayed_inSession login a).mpr ⟨x, hremembered x hx, hid⟩

end

/-! ## An assertion without authentication statement -/

/-- A login with the assertion `_x` about Alice, with the given authentication statements. -/
def aliceLogin (authnStatement : List Saml2AuthnStatement) : Login where
  profile := {
    response := some (.samlp2Response {
      assertion := [{
        id := some "_x"
        subject := some { nameId := some { content := some "alice" } }
        authnStatement := authnStatement }] })
    identity := some {} }

/-- The assertion is accepted twice. -/
theorem replay_accepted :
    ¬ ∀ (cx : Context) (providerId : String) (s : SsoRun),
      Reaches (step cx providerId) (fun _ _ => True) Starts s →
        ∀ login, s.RefusesReplay cx providerId login := by
  intro h
  have hfirst : Reaches (step .refusing "https://idp.example") (fun _ _ => True) Starts
      (step .refusing "https://idp.example" { session := {} } (aliceLogin [])) :=
    .next _ (.start rfl) trivial
  have hrefused := h _ _ _ hfirst (aliceLogin []) _ rfl "_x" (by decide) rfl
  exact absurd hrefused (by decide)

theorem replay_refused_aliceLogin :
    (step .refusing "https://idp.example" { session := {} }
        (aliceLogin [{ sessionIndex := some "1" }])).RefusesReplay .refusing "https://idp.example"
      (aliceLogin [{ sessionIndex := some "1" }]) := by
  have hfirst : Reaches (step .refusing "https://idp.example") (LeavesId "https://idp.example")
      Starts (step .refusing "https://idp.example" { session := {} }
        (aliceLogin [{ sessionIndex := some "1" }])) := by
    refine .next _ (.start rfl) ?_
    intro a nameId x hfirst hnameId hid hnew
    cases hfirst
    cases hnameId
    exact ⟨_, List.mem_cons_self, by simp [Session.entries]⟩
  exact replay_refused hfirst _

end SsoRun

end Lasso.Saml20
