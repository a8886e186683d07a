import Lasso.Saml20.Conditions
import Lasso.Xml.IntegerFields
import Lasso.Xml.TimeCodec

/-!
# Conditions, issued and judged

An issuer sets the conditions of an assertion with any number of calls in any order. The relying
party judges what came out of them.

## Main definitions

* `ConditionsCall` — a call of the issuer, with the time of it.
* `issued` — the conditions after a run of calls.
* `lastWindow`, `addedAudiences`, `oneTime` — what the calls say together.

## Main results

* `issued_verdicts` — the verdicts on the conditions are those of the calls.
-/

namespace Lasso

open Search

/-! ## The setters -/

/-- `LassoSaml2ProxyRestriction` -/
structure Saml2ProxyRestriction where
  count : Option String := none
  audience : Option String := none

/-- `LassoSaml2Conditions`: an audience restriction is its audience. -/
structure Saml2Conditions where
  notBefore : Option String := none
  notOnOrAfter : Option String := none
  audienceRestriction : List (Option String) := []
  oneTimeUse : Nat := 0
  proxyRestriction : List Saml2ProxyRestriction := []

/-- `lasso_time_to_iso_8601_gmt` of a `time_t`, from 1970 on -/
def writeTime (t : Int) : Option String := timeToIso8601Gmt t.toNat

namespace Saml2Conditions

/-- `set_notbefore_and_notonorafter` -/
def setNotBeforeAndNotOnOrAfter (now tolerance length : Int) (conditions : Saml2Conditions) :
    Saml2Conditions :=
  if tolerance ≠ -1 ∧ length ≠ -1 then
    { conditions with
      notBefore := writeTime (now - tolerance)
      notOnOrAfter := writeTime (now + length + tolerance) }
  else conditions

/-- `lasso_saml2_assertion_set_one_time_use`, which adds one element before it looks at the flag -/
def setOneTimeUse (oneTimeUse : Bool) (conditions : Saml2Conditions) : Saml2Conditions :=
  let added := conditions.oneTimeUse + 1
  { conditions with oneTimeUse := if oneTimeUse then added + 1 else 0 }

/-- `lasso_saml2_assertion_set_basic_conditions` -/
def setBasicConditions (now tolerance length : Int) (oneTimeUse : Bool)
    (conditions : Saml2Conditions) : Saml2Conditions :=
  (conditions.setNotBeforeAndNotOnOrAfter now tolerance length).setOneTimeUse oneTimeUse

/-- `lasso_saml2_assertion_add_audience_restriction` -/
def addAudienceRestriction (providerId : Option String) (conditions : Saml2Conditions) :
    Saml2Conditions :=
  { conditions with audienceRestriction := conditions.audienceRestriction ++ [providerId] }

/-- The restriction that `lasso_saml2_assertion_add_proxy_limit` makes. -/
def newProxyRestriction (proxyCount : Int) (proxyAudiences : List String) :
    Saml2ProxyRestriction where
  count := if 0 ≤ proxyCount then some (toString proxyCount) else none
  audience := proxyAudiences.head?

/-- `lasso_saml2_assertion_add_proxy_limit`: the conditions, and the restriction that was made but
not put into them -/
def addProxyLimit (proxyCount : Int) (proxyAudiences : List String)
    (conditions : Saml2Conditions) : Saml2Conditions × Saml2ProxyRestriction :=
  (conditions, newProxyRestriction proxyCount proxyAudiences)

end Saml2Conditions

/-- A call of the issuer; the first one reads the clock. -/
inductive ConditionsCall where
  | setBasicConditions (now tolerance length : Int) (oneTimeUse : Bool)
  | setOneTimeUse (oneTimeUse : Bool)
  | addAudienceRestriction (providerId : Option String)
  | addProxyLimit (proxyCount : Int) (proxyAudiences : List String)

/-- The conditions of an assertion after a call, which creates them if there are none. -/
@[simp] def ConditionsCall.apply (conditions : Option Saml2Conditions) (call : ConditionsCall) :
    Option Saml2Conditions :=
  let conditions := conditions.getD {}
  match call with
  | .setBasicConditions now tolerance length oneTimeUse =>
    some (conditions.setBasicConditions now tolerance length oneTimeUse)
  | .setOneTimeUse oneTimeUse => some (conditions.setOneTimeUse oneTimeUse)
  | .addAudienceRestriction providerId => some (conditions.addAudienceRestriction providerId)
  | .addProxyLimit proxyCount proxyAudiences =>
    some (conditions.addProxyLimit proxyCount proxyAudiences).1

/-- The conditions of a new assertion after a run of calls. -/
def issued (calls : List ConditionsCall) : Option Saml2Conditions :=
  calls.foldl ConditionsCall.apply none

/-! ## The getters -/

/-- `lasso_saml2_assertion_has_one_time_use` -/
def hasOneTimeUse (conditions : Option Saml2Conditions) : Bool :=
  conditions.any fun conditions => conditions.oneTimeUse != 0

/-- `lasso_string_to_xsd_integer` -/
def stringToXsdInteger (errno : Int) (str : Option String) : Option Int :=
  str.bind fun str =>
    let digits := match str.toList.dropWhile Decimal.isSpace with
      | '+' :: rest | '-' :: rest => rest
      | rest => rest
    if (digits.dropWhile Char.isDigit).dropWhile Decimal.isSpace ≠ [] then none
    else
      let (integer, errno) := strtolErrno errno str.toList
      if (integer = 2 ^ 63 - 1 ∨ integer = -2 ^ 63) ∧ errno = erange then none else some integer

/-- The only proxy restriction, or the verdict without one. -/
def onlyProxyRestriction (conditions : Option Saml2Conditions) :
    Except ValidationState Saml2ProxyRestriction :=
  match conditions.map (·.proxyRestriction) with
  | none | some [] => .error .valid
  | some [restriction] => .ok restriction
  | some (_ :: _ :: _) => .error .indeterminate

/-- `lasso_saml2_assertion_allows_proxying` -/
def allowsProxying (errno : Int) (conditions : Option Saml2Conditions) : ValidationState :=
  match onlyProxyRestriction conditions with
  | .error state => state
  | .ok restriction =>
    if restriction.count.isNone then .valid
    else
      match stringToXsdInteger errno restriction.count with
      | none => .indeterminate
      | some count => if count < 0 then .indeterminate else if count = 0 then .invalid else .valid

/-- `lasso_saml2_assertion_allows_proxying_to` -/
def allowsProxyingTo (conditions : Option Saml2Conditions) (audience : Option String) :
    ValidationState :=
  match onlyProxyRestriction conditions with
  | .error state => state
  | .ok restriction => if restriction.audience ≠ audience then .invalid else .valid

/-! ## The object -/

namespace Saml2Conditions

/-- A text member, if it is set. -/
def member (field : String) (value : Option String) : List Store :=
  value.toList.map (.content field)

/-- An object in a list member. -/
def listed (field : String) (node : ParsedNode) : Store := .node field (some node)

/-- The object with these members. -/
def toNode (conditions : Saml2Conditions) : ParsedNode :=
  .mk "LassoSaml2Conditions"
    (member "NotBefore" conditions.notBefore ++ member "NotOnOrAfter" conditions.notOnOrAfter ++
      conditions.audienceRestriction.map (fun audience =>
        listed "AudienceRestriction" (.mk "LassoSaml2AudienceRestriction"
          (member "Audience" audience))) ++
      List.replicate conditions.oneTimeUse
        (listed "OneTimeUse" (.mk "LassoSaml2OneTimeUse" [])) ++
      conditions.proxyRestriction.map fun restriction =>
        listed "ProxyRestriction" (.mk "LassoSaml2ProxyRestriction"
          (member "Count" restriction.count ++ member "Audience" restriction.audience)))

end Saml2Conditions

/-- The assertion with these conditions. -/
def assertionWith (conditions : Option Saml2Conditions) : ParsedNode :=
  .mk "LassoSaml2Assertion" (conditions.toList.map fun conditions =>
    .node "Conditions" (some conditions.toNode))

/-! ## What the calls say -/

/-- The window that a call sets, unless one of its durations is the default. -/
@[simp] def ConditionsCall.window : ConditionsCall → Option (Int × Int)
  | .setBasicConditions now tolerance length _ =>
    if tolerance ≠ -1 ∧ length ≠ -1 then some (now - tolerance, now + length + tolerance)
    else none
  | _ => none

/-- The one-time flag that a call sets. -/
@[simp] def ConditionsCall.oneTime : ConditionsCall → Option Bool
  | .setBasicConditions _ _ _ oneTimeUse | .setOneTimeUse oneTimeUse => some oneTimeUse
  | _ => none

/-- The audience that a call adds. -/
@[simp] def ConditionsCall.audience : ConditionsCall → Option (Option String)
  | .addAudienceRestriction providerId => some providerId
  | _ => none

def lastWindow (calls : List ConditionsCall) : Option (Int × Int) :=
  lastSome ConditionsCall.window none calls

def oneTime (calls : List ConditionsCall) : Bool :=
  (lastSome ConditionsCall.oneTime none calls).getD false

def addedAudiences (calls : List ConditionsCall) : List (Option String) :=
  calls.filterMap ConditionsCall.audience

/-- The conditions say what the calls say. -/
structure Reflects (calls : List ConditionsCall) (conditions : Option Saml2Conditions) :
    Prop where
  notBefore : conditions.bind (·.notBefore) = (lastWindow calls).bind (writeTime ·.1)
  notOnOrAfter : conditions.bind (·.notOnOrAfter) = (lastWindow calls).bind (writeTime ·.2)
  audience : conditions.elim [] (·.audienceRestriction) = addedAudiences calls
  oneTimeUse : hasOneTimeUse conditions = oneTime calls
  proxyRestriction : conditions.elim [] (·.proxyRestriction) = []

section

variable {calls : List ConditionsCall} {conditions : Option Saml2Conditions}

@[simp] theorem lastWindow_append (call : ConditionsCall) :
    lastWindow (calls ++ [call]) = call.window.or (lastWindow calls) := by
  rw [lastWindow, lastSome_append, lastSome_cons, lastSome_nil]
  rfl

@[simp] theorem oneTime_append (call : ConditionsCall) :
    oneTime (calls ++ [call]) = call.oneTime.getD (oneTime calls) := by
  rw [oneTime, lastSome_append, lastSome_cons, lastSome_nil, oneTime]
  cases call.oneTime <;> rfl

@[simp] theorem addedAudiences_append (call : ConditionsCall) :
    addedAudiences (calls ++ [call]) = addedAudiences calls ++ call.audience.toList := by
  cases call <;> simp [addedAudiences]

/-- One call keeps the conditions what the calls say. -/
theorem Reflects.apply (h : Reflects calls conditions) (call : ConditionsCall) :
    Reflects (calls ++ [call]) (call.apply conditions) := by
  have hbefore : (conditions.getD {}).notBefore = (lastWindow calls).bind (writeTime ·.1) := by
    rw [← h.notBefore]
    cases conditions <;> rfl
  have hafter : (conditions.getD {}).notOnOrAfter = (lastWindow calls).bind (writeTime ·.2) := by
    rw [← h.notOnOrAfter]
    cases conditions <;> rfl
  have haudience : (conditions.getD {}).audienceRestriction = addedAudiences calls := by
    rw [← h.audience]
    cases conditions <;> rfl
  have honce : ((conditions.getD {}).oneTimeUse != 0) = oneTime calls := by
    rw [← h.oneTimeUse]
    cases conditions <;> rfl
  have hproxy : (conditions.getD {}).proxyRestriction = [] := by
    rw [← h.proxyRestriction]
    cases conditions <;> rfl
  have hflag (oneTimeUse : Bool) (n : Nat) :
      ((if oneTimeUse then n + 1 + 1 else 0) != 0) = oneTimeUse := by
    cases oneTimeUse <;> rfl
  cases call with
  | setBasicConditions now tolerance length oneTimeUse =>
    by_cases hset : tolerance ≠ -1 ∧ length ≠ -1
    · constructor <;> simp [Saml2Conditions.setBasicConditions, Saml2Conditions.setOneTimeUse,
        Saml2Conditions.setNotBeforeAndNotOnOrAfter, hset, hasOneTimeUse, haudience, hproxy, hflag]
    · constructor <;> simp [Saml2Conditions.setBasicConditions, Saml2Conditions.setOneTimeUse,
        Saml2Conditions.setNotBeforeAndNotOnOrAfter, hset, hasOneTimeUse, haudience, hproxy, hflag,
        hbefore, hafter]
  | setOneTimeUse oneTimeUse =>
    constructor <;> simp [Saml2Conditions.setOneTimeUse, hasOneTimeUse, haudience, hproxy, hflag,
      hbefore, hafter]
  | addAudienceRestriction providerId =>
    constructor <;> simp [Saml2Conditions.addAudienceRestriction, hasOneTimeUse, haudience, hproxy,
      honce, hbefore, hafter]
  | addProxyLimit proxyCount proxyAudiences =>
    constructor <;> simp [Saml2Conditions.addProxyLimit, hasOneTimeUse, haudience, hproxy, honce,
      hbefore, hafter]

theorem reflects_issued (calls : List ConditionsCall) : Reflects calls (issued calls) := by
  induction calls using List.reverseRecOn with
  | nil => exact ⟨rfl, rfl, rfl, rfl, rfl⟩
  | append_singleton calls call ih =>
    rw [issued, List.foldl_append]
    exact ih.apply call

end

/-! ## The object of the conditions -/

section

variable {name field : String} {stores stores' : List Store}

theorem content_append : (ParsedNode.mk name (stores ++ stores')).content field =
    ((ParsedNode.mk name stores').content field).or
      ((ParsedNode.mk name stores).content field) := by
  rw [ParsedNode.content, ParsedNode.stores, lastSome_append, lastSome_eq_or]
  rfl

theorem content_member (value : Option String) :
    (ParsedNode.mk name (Saml2Conditions.member field value)).content field = value := by
  cases value <;> simp [Saml2Conditions.member, ParsedNode.content, ParsedNode.stores]

theorem content_member_of_ne {field' : String} (h : field' ≠ field) (value : Option String) :
    (ParsedNode.mk name (Saml2Conditions.member field' value)).content field = none := by
  cases value <;> simp [Saml2Conditions.member, ParsedNode.content, ParsedNode.stores, h]

theorem content_listed (h : ∀ store ∈ stores, ∃ field' node, store = .node field' node) :
    (ParsedNode.mk name stores).content field = none := by
  refine lastSome_eq_none.mpr fun store hstore => ?_
  obtain ⟨field', node, rfl⟩ := h store hstore
  rfl

theorem subnodes_append : (ParsedNode.mk name (stores ++ stores')).subnodes field =
    (ParsedNode.mk name stores).subnodes field ++ (ParsedNode.mk name stores').subnodes field :=
  List.filterMap_append

theorem subnodes_member {field' : String} (value : Option String) :
    (ParsedNode.mk name (Saml2Conditions.member field' value)).subnodes field = [] := by
  cases value <;> rfl

theorem subnodes_listed {α : Type} (xs : List α) (node : α → ParsedNode) :
    (ParsedNode.mk name (xs.map fun x => Saml2Conditions.listed field (node x))).subnodes field =
      xs.map node := by
  simp [ParsedNode.subnodes, ParsedNode.stores, Saml2Conditions.listed]

theorem subnodes_listed_of_ne {field' : String} (hne : field' ≠ field)
    (h : ∀ store ∈ stores, ∃ node, store = .node field' node) :
    (ParsedNode.mk name stores).subnodes field = [] := by
  refine List.filterMap_eq_nil_iff.mpr fun store hstore => ?_
  obtain ⟨node, rfl⟩ := h store hstore
  exact if_neg hne

end

namespace Saml2Conditions

variable (conditions : Saml2Conditions)

theorem content_toNode (field : String) : conditions.toNode.content field =
    ((ParsedNode.mk "LassoSaml2Conditions" (member "NotOnOrAfter" conditions.notOnOrAfter)).content
      field).or ((ParsedNode.mk "LassoSaml2Conditions"
        (member "NotBefore" conditions.notBefore)).content field) := by
  rw [toNode, content_append, content_append, content_append, content_append, content_listed,
    content_listed, content_listed, Option.none_or, Option.none_or, Option.none_or]
  all_goals simp [listed]

theorem content_notBefore : conditions.toNode.content "NotBefore" = conditions.notBefore := by
  rw [content_toNode, content_member_of_ne (by decide), content_member, Option.none_or]

theorem content_notOnOrAfter :
    conditions.toNode.content "NotOnOrAfter" = conditions.notOnOrAfter := by
  rw [content_toNode, content_member, content_member_of_ne (by decide), Option.or_none]

theorem subnodes_audienceRestriction :
    (conditions.toNode.subnodes "AudienceRestriction").map (·.content "Audience") =
      conditions.audienceRestriction := by
  have hcontent (audience : Option String) : (ParsedNode.mk "LassoSaml2AudienceRestriction"
      (member "Audience" audience)).content "Audience" = audience := content_member audience
  rw [toNode, subnodes_append, subnodes_append, subnodes_append, subnodes_append, subnodes_member,
    subnodes_member, subnodes_listed, subnodes_listed_of_ne (by decide : "OneTimeUse" ≠ _),
    subnodes_listed_of_ne (by decide : "ProxyRestriction" ≠ _)]
  · simp [Function.comp_def, hcontent]
  all_goals simp [listed]

end Saml2Conditions

/-! ## The verdicts -/

/-- A time that can be written and read back -/
def InCalendar (t : Int) : Prop := 0 ≤ t ∧ t < endOfYear9999

instance (t : Int) : Decidable (InCalendar t) := inferInstanceAs (Decidable (_ ∧ _))

theorem read_writeTime {t : Int} (h : InCalendar t) :
    ∃ text, writeTime t = some text ∧ iso8601GmtToTimeT text = t := by
  obtain ⟨now, rfl⟩ := Int.eq_ofNat_of_zero_le h.1
  have hnow : now < endOfYear9999 := Int.ofNat_lt.mp h.2
  have hyear : 1970 ≤ (gmtime now).year := Nat.le_add_right 1970 _
  have hread (rest : List Char) : strptime (strftime (gmtime now) ++ rest) =
      some (gmtime now, rest) := strptime_strftime (gmtime_inRange hnow) (by omega) rest
  have hlength : (strftime (gmtime now) ++ ['Z']).length < 21 := by
    obtain ⟨seconds, htext, hseconds⟩ := strptime_seconds (hread [])
    rw [List.append_nil, List.append_nil] at htext
    rw [htext, List.length_append, ← hseconds.length_eq]
    decide
  refine ⟨String.ofList (strftime (gmtime now) ++ ['Z']), if_pos hlength, ?_⟩
  rw [iso8601GmtToTimeT_of_strptime (hread ['Z']) (.inl rfl), timegm_gmtime]

/-- A bound of the last window, as it is read. -/
theorem written_bound {bound : Option String} {window : Option (Int × Int)} {t : Int × Int → Int}
    (hbound : bound = window.bind (writeTime <| t ·))
    (hrange : ∀ w, window = some w → InCalendar (t w)) {P : Int → Prop} :
    (∀ xsdtime, bound = some xsdtime →
      iso8601GmtToTimeT xsdtime ≠ -1 ∧ P (iso8601GmtToTimeT xsdtime)) ↔
      ∀ w, window = some w → P (t w) := by
  cases window with
  | none => simp [hbound]
  | some w =>
    obtain ⟨text, htext, hread⟩ := read_writeTime (hrange w rfl)
    have hsentinel : t w ≠ -1 := by
      have hlow := (hrange w rfl).1
      omega
    simp [hbound, htext, hread, hsentinel]

/-- The verdict on the conditions, without what they say about their use and about proxies. -/
theorem validateConditions_issued {calls : List ConditionsCall}
    (hwindow : ∀ w, lastWindow calls = some w → InCalendar w.1 ∧ InCalendar w.2) (time : Int)
    (rp : Option String) : validateConditions time (assertionWith (issued calls)) rp = .valid ↔
      (∀ w, lastWindow calls = some w → w.1 ≤ time ∧ time < w.2) ∧
        (addedAudiences calls = [] ∨ rp ∈ addedAudiences calls) := by
  have h := reflects_issued calls
  have hbefore := written_bound (P := (· ≤ time)) h.notBefore fun w hw => (hwindow w hw).1
  have hafter := written_bound (P := (time < ·)) h.notOnOrAfter fun w hw => (hwindow w hw).2
  have haudience := h.audience
  have hbounds : (∀ w, lastWindow calls = some w → w.1 ≤ time ∧ time < w.2) ↔
      (∀ w, lastWindow calls = some w → w.1 ≤ time) ∧
        ∀ w, lastWindow calls = some w → time < w.2 := by
    simp only [forall_and]
  rw [hbounds, ← hbefore, ← hafter, and_assoc, ← haudience]
  cases hissued : issued calls with
  | none => simp [validateConditions, validateTimeChecks, validateAudience, assertionWith,
      ParsedNode.subnode, ParsedNode.stores]
  | some conditions =>
    have hconditions : (assertionWith (some conditions)).subnode "Conditions" =
        some conditions.toNode := by
      simp [assertionWith, ParsedNode.subnode, ParsedNode.stores]
    rw [validateConditions_eq_valid hconditions, conditions.content_notBefore,
      conditions.content_notOnOrAfter]
    simp only [Option.bind_some, Option.elim_some, ← conditions.subnodes_audienceRestriction,
      List.map_eq_nil_iff, List.mem_map]

/-- The conditions let the relying party in exactly in the last window that was set, and exactly as
one of the audiences if any was added; they ask for one use as the last call on it says, and no
call ever limits the proxying. -/
theorem issued_verdicts (calls : List ConditionsCall)
    (hwindow : ∀ w, lastWindow calls = some w → InCalendar w.1 ∧ InCalendar w.2) :
    (∀ time rp, validateConditions time (assertionWith (issued calls)) rp = .valid ↔
      (∀ w, lastWindow calls = some w → w.1 ≤ time ∧ time < w.2) ∧
        (addedAudiences calls = [] ∨ rp ∈ addedAudiences calls)) ∧
    hasOneTimeUse (issued calls) = oneTime calls ∧
    (∀ errno, allowsProxying errno (issued calls) = .valid) ∧
    ∀ audience, allowsProxyingTo (issued calls) audience = .valid := by
  have h := reflects_issued calls
  have hproxy : onlyProxyRestriction (issued calls) = .error .valid := by
    have hnone := h.proxyRestriction
    cases hissued : issued calls with
    | none => rfl
    | some conditions =>
      rw [hissued] at hnone
      simp only [Option.elim_some] at hnone
      simp [onlyProxyRestriction, hnone]
  refine ⟨validateConditions_issued hwindow, h.oneTimeUse, fun errno => ?_, fun audience => ?_⟩
  · rw [allowsProxying, hproxy]
  · rw [allowsProxyingTo, hproxy]

/-- The calls of an issuer that says twice how long its assertion holds. -/
def renewedCalls : List ConditionsCall :=
  [.setBasicConditions 1000 10 300 true, .addAudienceRestriction (some "https://sp/metadata"),
    .addProxyLimit 0 [], .setBasicConditions 2000 10 300 false]

theorem renewedCalls_verdict : validateConditions 1100 (assertionWith (issued renewedCalls))
    (some "https://sp/metadata") ≠ .valid ∧ allowsProxying 0 (issued renewedCalls) = .valid := by
  have hlast : lastWindow renewedCalls = some (1990, 2310) := by decide
  have hwindow : ∀ w, lastWindow renewedCalls = some w → InCalendar w.1 ∧ InCalendar w.2 := by
    intro w hw
    obtain rfl : (1990, 2310) = w := Option.some.inj (hlast.symm.trans hw)
    decide
  have h := issued_verdicts renewedCalls hwindow
  refine ⟨fun hvalid => ?_, h.2.2.1 0⟩
  have htime := (((h.1 _ _).mp hvalid).1 _ hlast).1
  exact absurd htime (by decide)

end Lasso
