import Lasso.IdWsf.Modification

/-!
# A modify request to a data service

The modifications of a request are applied one after the other to the resource data of the service,
up to the first one that is refused. What the ones before it have changed is not taken back, and a
selection that cannot be evaluated is passed over.

## Main definitions

* `IdWsf.DataService.validateRequest` — the request is carried out.
* `IdWsf.Leads` — the data from which a modification starts.

## Main results

* `IdWsf.modifiesWhole_iff` — when the request is carried out as a whole or not at all.
-/

namespace Lasso

namespace IdWsf

open TreeEdit

/-- What `lasso_data_service_validate_request` uses of `LassoDataService`, for a `LassoDstModify`
with these modifications. -/
structure DataService where
  resourceData : Option RootElement
  modification : List DstModification
  response : Option DstModifyResponse

section

variable (cx : ModifyContext)

/-- The second loop of `lasso_data_service_apply_modifications` -/
def applyEachModification : List DstModification → DstModifyResponse → Option RootElement →
    Except Fault (Rc × DstModifyResponse × Option RootElement)
  | [], response, data => .ok (.ok, response, data)
  | modification :: modifications, response, data => do
    let (rc, response, data) ← applyModification cx modification response data
    if rc ≠ .ok then return (rc, response, data)
    applyEachModification modifications response data

/-- `lasso_data_service_apply_modifications` -/
def applyModifications (modifications : List DstModification) (response : DstModifyResponse)
    (data : Option RootElement) : Except Fault (Rc × DstModifyResponse × Option RootElement) :=
  if 1 < modifications.length ∧ ∃ modification ∈ modifications, modification.id = none then
    .ok (.dst .queryFailed, { status := ["Failed", "id expected"] }, data)
  else applyEachModification cx modifications response data

namespace DataService

/-- `lasso_data_service_validate_modify_request` -/
def validateModifyRequest (service : DataService) : Except Fault (Rc × DataService) :=
  match service.response with
  | none => .ok (.profile .missingResponse, service)
  | some response => do
    let (rc, response, resourceData) ←
      applyModifications cx service.modification response service.resourceData
    return (rc, { service with resourceData, response := some response })

/-- `lasso_data_service_validate_request` -/
def validateRequest (service : DataService) : Except Fault (Rc × DataService) :=
  if service.resourceData.isNone then .ok (.dst .missingServiceData, service)
  else service.validateModifyRequest cx

end DataService

/-! ## What is asked for -/

/-- The modifications all return zero, with these data in the end. -/
inductive Leads : List DstModification → Option RootElement → Option RootElement → Prop where
  | nil (data : Option RootElement) : Leads [] data data
  | cons {modification : DstModification} {modifications : List DstModification}
      {data last : Option RootElement} {doc : DocNode}
      (h : modifyDocument cx modification data = .ok (.ok doc))
      (hrest : Leads modifications (xmlDocGetRootElement doc) last) :
      Leads (modification :: modifications) data last

/-- The selection can be evaluated. -/
def Evaluates (modification : DstModification) (data : Option RootElement) : Prop :=
  ∃ select, modification.select = some select ∧
    ∀ code, cx.evalXPath (document data) select ≠ .error code

/-- The modification is the next one when the data are these. -/
def Reached (modifications : List DstModification) (root : RootElement)
    (modification : DstModification) (data : Option RootElement) : Prop :=
  ∃ before after, modifications = before ++ modification :: after ∧
    Leads cx before (some root) data

/-- All modifications are applied. -/
def AllApplied (modifications : List DstModification) (root : RootElement)
    (last : Option RootElement) : Prop :=
  Leads cx modifications (some root) last ∧
    ∀ modification data, Reached cx modifications root modification data →
      Evaluates cx modification data

/-- With zero and the status OK all modifications are applied, and with an error and the status
Failed none. -/
def ModifiesWhole (modifications : List DstModification) (root : RootElement) : Prop :=
  match DataService.validateRequest cx ⟨some root, modifications, some { status := ["OK"] }⟩ with
  | .ok (rc, service) =>
    (rc = .ok → service.response.map (·.status) = some ["OK"] →
      AllApplied cx modifications root service.resourceData) ∧
    (rc ≠ .ok → service.resourceData = some root ∧
      service.response.bind (·.status.head?) = some "Failed")
  | .error fault => fault ≠ .misread

/-- There are no new data where they are needed, or the wrong number of nodes. -/
def Refused (modification : DstModification) (data : Option RootElement) : Prop :=
  let new := modification.newData.getD []
  let overrideAllowed := modification.overrideAllowed
  match modification.select with
  | none => True
  | some select =>
    (new = [] ∧ overrideAllowed = false) ∨
      match cx.evalXPath (document data) select with
      | .error _ => False
      | .value _ => True
      | .nodes targets =>
        targets = [] ∨ (modification.newData.isSome ∧ 1 < targets.length) ∨
          (targets.map (·.path?) = [some rootPath] ∧ data.isSome ∧ overrideAllowed = true ∧
            1 < new.length)

/-- An attribute is replaced by nodes. -/
def ReplacesAttribute (modification : DstModification) (data : Option RootElement) : Prop :=
  modification.overrideAllowed = true ∧ modification.newData.getD [] ≠ [] ∧
    ∃ select path, modification.select = some select ∧
      cx.evalXPath (document data) select = .nodes [.node path] ∧
        path.getLast?.map (·.branch) = some .attr

end

/-! ## One modification -/

section

variable {cx : ModifyContext} {modification : DstModification} {data : Option RootElement}

theorem xmlAddNextSibling_other {target : XPathNode}
    (h : ∀ path, target = .node path → path.getLast?.map (·.branch) ≠ some .attr)
    (new doc : DocNode) : ∃ next, xmlAddNextSibling target new doc = .ok next := by
  unfold xmlAddNextSibling
  cases target with
  | namespaceNode => exact ⟨doc, rfl⟩
  | node path =>
    have hpath := h path rfl
    dsimp only
    split
    · exact ⟨doc, rfl⟩
    · rename_i hlast
      exact absurd (congrArg (Option.map (·.branch)) hlast) hpath
    · exact ⟨_, rfl⟩

theorem foldlM_xmlAddNextSibling_other {target : XPathNode}
    (h : ∀ path, target = .node path → path.getLast?.map (·.branch) ≠ some .attr)
    (new : List DocNode) (doc : DocNode) :
    ∃ next, new.foldlM (fun doc new => xmlAddNextSibling target new doc) doc = .ok next := by
  induction new generalizing doc with
  | nil => exact ⟨doc, rfl⟩
  | cons node new ih =>
    obtain ⟨next, hnext⟩ := xmlAddNextSibling_other h node doc
    rw [List.foldlM_cons, hnext]
    exact ih next

section

variable {overrideAllowed : Bool} {target : XPathNode} {new : List DocNode}

theorem applyNewData_refused :
    (∃ failureCode, applyNewData overrideAllowed data target new = .ok (.error failureCode)) ↔
      target.path? = some rootPath ∧ data.isSome = true ∧ overrideAllowed = true ∧
        1 < new.length := by
  unfold applyNewData
  by_cases hroot : target.path? = some rootPath ∧ data.isSome = true ∧ overrideAllowed = true
  · rw [if_pos hroot]
    match new with
    | [] => simp
    | [node] => simp
    | _ :: _ :: _ => simp [hroot]
  · rw [if_neg hroot]
    refine iff_of_false ?_ fun h => hroot ⟨h.1, h.2.1, h.2.2.1⟩
    rintro ⟨failureCode, h⟩
    split_ifs at h
    · cases hadd : new.foldlM (fun doc new => xmlAddNextSibling target new doc) (document data) <;>
        rw [hadd] at h <;> cases h
    · cases h

theorem applyNewData_misread :
    applyNewData overrideAllowed data target new = .error .misread ↔
      overrideAllowed = true ∧ new ≠ [] ∧
        ∃ path, target = .node path ∧ path.getLast?.map (·.branch) = some .attr := by
  unfold applyNewData
  constructor
  · intro h
    split_ifs at h with hroot hoverride
    · split at h <;> cases h
    · refine ⟨hoverride, ?_, ?_⟩
      · rintro rfl
        cases h
      · by_contra hnone
        have hother : ∀ path, target = .node path → path.getLast?.map (·.branch) ≠ some .attr :=
          fun path htarget hattr => hnone ⟨path, htarget, hattr⟩
        dsimp only at h
        obtain ⟨next, hnext⟩ := foldlM_xmlAddNextSibling_other hother new (document data)
        rw [hnext] at h
        cases h
  · rintro ⟨rfl, hnew, path, rfl, hattr⟩
    have hroot : ¬ ((XPathNode.node path).path? = some rootPath ∧ data.isSome = true ∧
        true = true) := by
      rintro ⟨hpath, -⟩
      obtain rfl : path = rootPath := Option.some.inj hpath
      cases hattr
    obtain ⟨node, new, rfl⟩ := List.exists_cons_of_ne_nil hnew
    rw [if_neg hroot, if_pos rfl, List.foldlM_cons, xmlAddNextSibling_attr hattr]
    rfl

end

theorem modifyDocument_refused :
    (∃ failureCode, modifyDocument cx modification data = .ok (.error failureCode)) ↔
      Refused cx modification data := by
  unfold modifyDocument Refused
  cases hselect : modification.select with
  | none => simp
  | some select =>
    dsimp only
    by_cases hmissing :
      ((modification.newData.getD []).isEmpty && !modification.overrideAllowed) = true
    · rw [if_pos hmissing]
      exact iff_of_true ⟨_, rfl⟩ (.inl (by simpa using hmissing))
    · have hgiven : ¬ (modification.newData.getD [] = [] ∧
          modification.overrideAllowed = false) := by
        simpa using hmissing
      rw [if_neg hmissing, or_iff_right hgiven]
      cases cx.evalXPath (document data) select with
      | error code => simp
      | value text => simp
      | nodes targets =>
        cases targets with
        | nil => simp
        | cons target targets =>
          cases modification.newData with
          | none => simp
          | some new =>
            cases targets with
            | nil => simpa using applyNewData_refused
            | cons second targets => simp

theorem modifyDocument_misread :
    modifyDocument cx modification data = .error .misread ↔
      ReplacesAttribute cx modification data := by
  unfold modifyDocument ReplacesAttribute
  cases hselect : modification.select with
  | none => simp
  | some select =>
    dsimp only
    by_cases hmissing :
      ((modification.newData.getD []).isEmpty && !modification.overrideAllowed) = true
    · rw [if_pos hmissing]
      refine iff_of_false nofun fun h => h.2.1 ?_
      simp at hmissing
      exact hmissing.1
    · rw [if_neg hmissing]
      cases heval : cx.evalXPath (document data) select with
      | error code => simp [heval]
      | value text => simp [heval]
      | nodes targets =>
        cases targets with
        | nil => simp [heval]
        | cons target targets =>
          cases hnew : modification.newData with
          | none => simp
          | some new =>
            cases targets with
            | nil => simpa [heval] using applyNewData_misread
            | cons second targets => simp [heval]

end

/-! ## The loop -/

section

variable {cx : ModifyContext} {modification : DstModification}
  {modifications before after : List DstModification} {response : DstModifyResponse}
  {data now : Option RootElement} {root : RootElement}

theorem applyEachModification_append (h : Leads cx before data now) :
    applyEachModification cx (before ++ after) response data =
      applyEachModification cx after response now := by
  induction h with
  | nil data => rfl
  | cons hdoc hrest ih =>
    rw [List.cons_append, applyEachModification, applyModification_of_document hdoc]
    exact ih

/-- Either all modifications return zero, or there is one that does not. -/
theorem leads_or_stops (cx : ModifyContext) (modifications : List DstModification)
    (data : Option RootElement) :
    (∃ last, Leads cx modifications data last) ∨
      ∃ before modification after now, modifications = before ++ modification :: after ∧
        Leads cx before data now ∧ ∀ doc, modifyDocument cx modification now ≠ .ok (.ok doc) := by
  induction modifications generalizing data with
  | nil => exact .inl ⟨data, .nil data⟩
  | cons first modifications ih =>
    by_cases hfirst : ∃ doc, modifyDocument cx first data = .ok (.ok doc)
    · obtain ⟨doc, hdoc⟩ := hfirst
      rcases ih (xmlDocGetRootElement doc) with ⟨last, hlast⟩ | hstops
      · exact .inl ⟨last, .cons hdoc hlast⟩
      · obtain ⟨before, modification, after, now, rfl, hbefore, hstop⟩ := hstops
        exact .inr ⟨first :: before, modification, after, now, rfl, .cons hdoc hbefore, hstop⟩
    · exact .inr ⟨[], first, modifications, data, rfl, .nil data, not_exists.mp hfirst⟩

/-- The response and the data at a modification that is refused. -/
theorem applyEachModification_of_failure {failureCode : String} (h : Leads cx before data now)
    (hstop : modifyDocument cx modification now = .ok (.error failureCode)) :
    applyEachModification cx (before ++ modification :: after) response data =
      .ok (.dst .modifyFailed, { status := ["Failed", failureCode] }, now) := by
  rw [applyEachModification_append h, applyEachModification, applyModification_of_failure hstop]
  rfl

theorem applyEachModification_of_fault {fault : Fault} (h : Leads cx before data now)
    (hstop : modifyDocument cx modification now = .error fault) :
    applyEachModification cx (before ++ modification :: after) response data = .error fault := by
  rw [applyEachModification_append h, applyEachModification, applyModification_of_fault hstop]
  rfl

/-! ## The request -/

/-- The second loop decides, unless an ID is missing. -/
theorem modifiesWhole_iff_loop (hids : ¬ (1 < modifications.length ∧
    ∃ modification ∈ modifications, modification.id = none)) :
    ModifiesWhole cx modifications root ↔
      match applyEachModification cx modifications { status := ["OK"] } (some root) with
      | .ok (rc, response, data) =>
        (rc = .ok → response.status = ["OK"] → AllApplied cx modifications root data) ∧
        (rc ≠ .ok → data = some root ∧ response.status.head? = some "Failed")
      | .error fault => fault ≠ .misread := by
  unfold ModifiesWhole DataService.validateRequest DataService.validateModifyRequest
    applyModifications
  dsimp only [Option.isNone_some]
  rw [if_neg hids, if_neg Bool.false_ne_true]
  cases applyEachModification cx modifications { status := ["OK"] } (some root) with
  | error fault => rfl
  | ok result => simp [bind, Except.bind, pure, Except.pure]

section

variable (hids : ¬ (1 < modifications.length ∧
  ∃ modification ∈ modifications, modification.id = none))

include hids

theorem modifiesWhole_of_leads {last : Option RootElement}
    (h : Leads cx modifications (some root) last) :
    ModifiesWhole cx modifications root ↔ AllApplied cx modifications root last := by
  have hrun : applyEachModification cx modifications { status := ["OK"] } (some root) =
      .ok (.ok, { status := ["OK"] }, last) := by
    have happend : applyEachModification cx (modifications ++ []) { status := ["OK"] } (some root) =
        applyEachModification cx [] { status := ["OK"] } last := applyEachModification_append h
    rwa [List.append_nil] at happend
  rw [modifiesWhole_iff_loop hids, hrun]
  simp

theorem modifiesWhole_of_refused (h : Reached cx modifications root modification now)
    (hstop : Refused cx modification now) :
    ModifiesWhole cx modifications root ↔ now = some root := by
  obtain ⟨before, after, rfl, hleads⟩ := h
  obtain ⟨failureCode, hstop⟩ := modifyDocument_refused.mpr hstop
  rw [modifiesWhole_iff_loop hids, applyEachModification_of_failure hleads hstop]
  simp

theorem modifiesWhole_of_fault {fault : Fault} (h : Reached cx modifications root modification now)
    (hstop : modifyDocument cx modification now = .error fault) :
    ModifiesWhole cx modifications root ↔ fault ≠ .misread := by
  obtain ⟨before, after, rfl, hleads⟩ := h
  rw [modifiesWhole_iff_loop hids, applyEachModification_of_fault hleads hstop]

end

/-- The request is carried out as a whole or not at all if an ID is missing, and otherwise just if
no attribute is replaced by nodes, a modification is refused only while the data are the old ones,
and, if none is, all selections can be evaluated. -/
theorem modifiesWhole_iff :
    ModifiesWhole cx modifications root ↔
      (1 < modifications.length ∧ ∃ modification ∈ modifications, modification.id = none) ∨
        ((∀ modification data, Reached cx modifications root modification data →
          ¬ ReplacesAttribute cx modification data ∧
            (Refused cx modification data → data = some root)) ∧
          ∀ last, Leads cx modifications (some root) last → ∀ modification data,
            Reached cx modifications root modification data → Evaluates cx modification data) := by
  by_cases hids : 1 < modifications.length ∧
      ∃ modification ∈ modifications, modification.id = none
  · refine iff_of_true ?_ (.inl hids)
    unfold ModifiesWhole DataService.validateRequest DataService.validateModifyRequest
      applyModifications
    dsimp only [Option.isNone_some]
    rw [if_pos hids]
    exact ⟨nofun, fun _ => ⟨rfl, rfl⟩⟩
  · rw [or_iff_right hids]
    constructor
    · intro hwhole
      refine ⟨fun modification data hreached => ⟨fun hattribute => ?_, fun hrefused => ?_⟩,
        fun last hleads => ?_⟩
      · have hstop := modifyDocument_misread.mpr hattribute
        exact (modifiesWhole_of_fault hids hreached hstop).mp hwhole rfl
      · exact (modifiesWhole_of_refused hids hreached hrefused).mp hwhole
      · exact ((modifiesWhole_of_leads hids hleads).mp hwhole).2
    · rintro ⟨hstops, hevaluates⟩
      rcases leads_or_stops cx modifications (some root) with ⟨last, hleads⟩ | hstop
      · exact (modifiesWhole_of_leads hids hleads).mpr ⟨hleads, hevaluates last hleads⟩
      · obtain ⟨before, modification, after, now, heq, hbefore, hstop⟩ := hstop
        have hreached : Reached cx modifications root modification now :=
          ⟨before, after, heq, hbefore⟩
        obtain ⟨hattribute, hrefused⟩ := hstops modification now hreached
        cases hdoc : modifyDocument cx modification now with
        | error fault =>
          refine (modifiesWhole_of_fault hids hreached hdoc).mpr ?_
          rintro rfl
          exact hattribute (modifyDocument_misread.mp hdoc)
        | ok result =>
          cases result with
          | ok doc => exact absurd hdoc (hstop doc)
          | error failureCode =>
            have hcode := modifyDocument_refused.mp ⟨failureCode, hdoc⟩
            exact (modifiesWhole_of_refused hids hreached hcode).mpr (hrefused hcode)

end

/-! ### A selection that cannot be evaluated -/

/-- No expression can be evaluated. -/
def failingContext : ModifyContext where
  evalXPath _ _ := .error 7

/-- A request with one modification. -/
def wrongSelect : List DstModification :=
  [{ select := some "//", newData := some [emptyElement "a"] }]

/-- Zero and OK are returned although nothing is done. -/
theorem not_modifiesWhole :
    ¬ ∀ (cx : ModifyContext) (modifications : List DstModification) (root : RootElement),
      ModifiesWhole cx modifications root := by
  intro hall
  obtain ⟨happlied, -⟩ := hall failingContext wrongSelect oneEntry
  obtain ⟨-, hevaluates⟩ := happlied rfl rfl
  obtain ⟨select, -, hvalue⟩ := hevaluates _ _ ⟨[], [], rfl, .nil _⟩
  exact hvalue 7 rfl

end IdWsf

end Lasso
