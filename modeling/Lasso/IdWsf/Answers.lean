import Lasso.ErrorCode
import Lasso.Library.Run
import Lasso.Xml.NodeClass

/-!
# The answers of a data service

The items of a query are answered one by one, and an item that designates nothing gives no data. The
consumer looks for the item with a selection and then for the data with the ID of the item. It
reads that ID also if no item has the selection, unless there are no data to look through.

## Main definitions

* `IdWsf.initQuery`, `IdWsf.addQueryItem` — the query is built.
* `IdWsf.applyQueries` — the query is answered.
* `IdWsf.getAnswersBySelect` — the answer is looked up.

## Main results

* `IdWsf.answersSelect_iff` — when the lookup answers the question.
-/

namespace Lasso

namespace IdWsf

/-! ## Queries -/

/-- `LassoDstQueryItem` -/
structure DstQueryItem where
  select : Option String
  itemId : Option String

/-- `lasso_dst_query_item_new`: there is no item without a selection. -/
def dstQueryItemNew (select itemId : Option String) : Option DstQueryItem :=
  select.map fun select => { select := some select, itemId }

/-- The items of the query of `lasso_data_service_init_query` -/
def initQuery (select itemId : Option String) : List DstQueryItem :=
  (dstQueryItemNew select itemId).toList

/-- `lasso_data_service_add_query_item`. Without a selection zero is returned, but nothing added. -/
def addQueryItem (items : List DstQueryItem) (select itemId : Option String) :
    Rc × List DstQueryItem :=
  match items with
  | [] => (.ok, (dstQueryItemNew select itemId).toList)
  | first :: others =>
    if first.itemId = none ∨ itemId = none then (.dataService .cannotAddItem, items)
    else (.ok, first :: others ++ (dstQueryItemNew select itemId).toList)

/-- The arguments of a call of `lasso_data_service_add_query_item` -/
structure AddQueryItem where
  select : Option String
  itemId : Option String

/-- The queries that are built by calls which succeed. -/
def Built : List DstQueryItem → Prop :=
  Run.Reaches (fun items (call : AddQueryItem) => (addQueryItem items call.select call.itemId).2)
    (fun items call => (addQueryItem items call.select call.itemId).1 = .ok)
    fun items => ∃ select itemId, items = initQuery select itemId

/-! ## Answers -/

/-- What the evaluation of an XPath expression comes to: an error, an object of another type as
`xmlXPathCastToString` writes it, or a list of nodes. -/
inductive XPathResult (ν : Type) where
  | error (code : Int)
  | value (text : String)
  | nodes (nodes : List ν)

/-- The environment of a data service, for nodes of some type. -/
structure DstContext (ν : Type) where
  /-- `lasso_eval_xpath_expression` in the resource data -/
  evalXPath : String → XPathResult ν
  /-- `xmlNewText` -/
  newText : String → ν

/-- `LassoDstData` -/
structure DstData (ν : Type) where
  itemIdRef : Option String
  any : List ν

/-- `LassoDstQueryResponse`, with the codes of its status, from the outermost one on. -/
structure DstQueryResponse (ν : Type) where
  status : List String
  data : List (DstData ν) := []

section

variable {ν : Type} (cx : DstContext ν)

/-- `lasso_data_service_apply_query`, and whether its code is zero. -/
def applyQuery (response : DstQueryResponse ν) (item : DstQueryItem) :
    Bool × DstQueryResponse ν :=
  match item.select with
  | none => (false, { response with status := ["Failed", "MissingSelect"] })
  | some select =>
    match cx.evalXPath select with
    | .nodes [] => (true, response)
    | .nodes (node :: nodes) =>
      (true, { response with
        data := response.data ++ [{ itemIdRef := item.itemId, any := node :: nodes }] })
    | .value text =>
      (true, { response with
        data := response.data ++ [{ itemIdRef := item.itemId, any := [cx.newText text] }] })
    | .error code =>
      (false, { response with
        status := ["Failed", "InvalidSelect", "LIBXML_XPATH_ERROR_" ++ toString code] })

/-- The loop of `lasso_data_service_apply_queries` -/
def applyEachQuery : List DstQueryItem → DstQueryResponse ν → Rc × DstQueryResponse ν
  | [], response => (.ok, response)
  | item :: items, response =>
    match applyQuery cx response item with
    | (true, response) => applyEachQuery items response
    | (false, response) =>
      (.dst (if response.data.isEmpty then .queryFailed else .queryPartiallyFailed), response)

/-- `lasso_data_service_apply_queries` -/
def applyQueries (response : DstQueryResponse ν) (queries : List DstQueryItem) :
    Rc × DstQueryResponse ν :=
  if 1 < queries.length ∧ ∃ item ∈ queries, item.itemId = none then
    (.dst .queryFailed, { response with status := ["Failed", "itemID expected"] })
  else applyEachQuery cx queries response

end

section

variable {ν : Type}

/-- What is found, and what is put into the output, which is left alone if there are no data. -/
def answerOf (data : Option (DstData ν)) : Rc × Option (List ν) :=
  match data with
  | some data => (.ok, some data.any)
  | none => (.dst .noData, none)

/-- `lasso_data_service_get_answers_by_select`: the code, and the output if it is written. The code
for the wrong selection of a single item is overwritten in the end. -/
def getAnswersBySelect (queryItems : List DstQueryItem) (datas : List (DstData ν))
    (select : String) : Except Fault (Rc × Option (List ν)) :=
  match queryItems with
  | [queryItem] =>
    .ok (answerOf (if queryItem.select = some select then datas.head? else none))
  | queryItems =>
    match queryItems.find? (·.select = some select) with
    | some queryItem =>
      if queryItem.itemId = none then .ok (.dst .malformedQuery, none)
      else .ok (answerOf (datas.find? (·.itemIdRef = queryItem.itemId)))
    | none =>
      -- the ID of the missing item is compared with the one of the first data
      if datas.isEmpty then .ok (answerOf none) else .error .nullPointer

end

/-! ## What is asked for -/

section

variable {ν : Type} (cx : DstContext ν)

/-- The nodes that a selection designates; a value is one of text. -/
def designated (select : String) : List ν :=
  match cx.evalXPath select with
  | .nodes nodes => nodes
  | .value text => [cx.newText text]
  | .error _ => []

/-- The answer for a selection: the nodes that it designates, if an item has it and there are any,
and an error otherwise. -/
def AnswersSelect (queryItems : List DstQueryItem) (select : String)
    (answer : Except Fault (Rc × Option (List ν))) : Prop :=
  if ∃ item ∈ queryItems, item.select = some select then
    answer = .ok (match designated cx select with
      | [] => (.dst .noData, none)
      | node :: nodes => (.ok, some (node :: nodes)))
  else ∃ rc, rc ≠ .ok ∧ answer = .ok (rc, none)

/-- The data of an item, if it designates anything. -/
def dataOf (item : DstQueryItem) : Option (DstData ν) :=
  match item.select.elim [] (designated cx) with
  | [] => none
  | node :: nodes => some { itemIdRef := item.itemId, any := node :: nodes }

variable {cx}

theorem itemIdRef_of_dataOf {item : DstQueryItem} {data : DstData ν}
    (h : dataOf cx item = some data) : data.itemIdRef = item.itemId := by
  unfold dataOf at h
  split at h
  · cases h
  · cases h
    rfl

/-- The data of an item with the selection give the answer for it. -/
theorem answerOf_dataOf {item : DstQueryItem} {select : String} (h : item.select = some select) :
    answerOf (dataOf cx item) =
      match designated cx select with
      | [] => (.dst .noData, none)
      | node :: nodes => (.ok, some (node :: nodes)) := by
  unfold dataOf
  rw [h, Option.elim_some]
  cases designated cx select <;> rfl

/-! ## The data of a query -/

theorem applyQuery_data {item : DstQueryItem} {response response' : DstQueryResponse ν}
    (h : applyQuery cx response item = (true, response')) :
    response'.data = response.data ++ (dataOf cx item).toList := by
  unfold applyQuery at h
  unfold dataOf designated
  cases hselect : item.select with
  | none => simp [hselect] at h
  | some select =>
    rw [hselect] at h
    dsimp only [Option.elim_some] at h ⊢
    cases heval : cx.evalXPath select with
    | error code => simp [heval] at h
    | value text =>
      simp only [heval, Prod.mk.injEq, true_and] at h
      rw [← h]
      rfl
    | nodes nodes =>
      cases nodes with
      | nil =>
        simp only [heval, Prod.mk.injEq, true_and] at h
        simp [h]
      | cons node nodes =>
        simp only [heval, Prod.mk.injEq, true_and] at h
        rw [← h]
        rfl

theorem applyEachQuery_data {items : List DstQueryItem} {response response' : DstQueryResponse ν}
    (h : applyEachQuery cx items response = (.ok, response')) :
    response'.data = response.data ++ items.filterMap (dataOf cx) := by
  induction items generalizing response with
  | nil =>
    obtain ⟨-, rfl⟩ := Prod.mk.inj h
    simp
  | cons item items ih =>
    rw [applyEachQuery] at h
    split at h
    · rename_i next hnext
      rw [ih h, applyQuery_data hnext, List.append_assoc, List.filterMap_cons]
      cases dataOf cx item <;> rfl
    · cases h

/-- The data of an item are found by its ID. -/
theorem find?_filterMap_dataOf {items : List DstQueryItem} {item : DstQueryItem}
    (hdistinct : (items.map (·.itemId)).Nodup) (hmem : item ∈ items) :
    (items.filterMap (dataOf cx)).find? (·.itemIdRef = item.itemId) = dataOf cx item := by
  induction items with
  | nil => cases hmem
  | cons first items ih =>
    rw [List.map_cons, List.nodup_cons] at hdistinct
    obtain ⟨hnew, hdistinct⟩ := hdistinct
    rw [List.filterMap_cons]
    by_cases hsame : first.itemId = item.itemId
    · obtain rfl : item = first := by
        rcases List.mem_cons.mp hmem with heq | hlater
        · exact heq
        · exact absurd (List.mem_map.mpr ⟨item, hlater, hsame.symm⟩) hnew
      cases hdata : dataOf cx item with
      | some data =>
        have hid := itemIdRef_of_dataOf hdata
        simp [hid]
      | none =>
        refine List.find?_eq_none.mpr fun data hlater => ?_
        obtain ⟨other, hother, hdata⟩ := List.mem_filterMap.mp hlater
        rw [itemIdRef_of_dataOf hdata, decide_eq_true_eq]
        exact fun heq => hnew (List.mem_map.mpr ⟨other, hother, heq⟩)
    · have hlater : item ∈ items :=
        (List.mem_cons.mp hmem).resolve_left fun heq => hsame (congrArg _ heq.symm)
      cases hdata : dataOf cx first with
      | none => exact ih hdistinct hlater
      | some data =>
        have hid : data.itemIdRef ≠ item.itemId := by
          rw [itemIdRef_of_dataOf hdata]
          exact hsame
        dsimp only
        rw [List.find?_cons_of_neg (by simpa using hid)]
        exact ih hdistinct hlater

/-! ## Building -/

/-- With more than one item, all of them have an ID. -/
def ManyHaveIds (items : List DstQueryItem) : Prop :=
  1 < items.length → ∀ item ∈ items, item.itemId ≠ none

theorem manyHaveIds_addQueryItem {items : List DstQueryItem} {select itemId : Option String}
    (h : ManyHaveIds items) (hok : (addQueryItem items select itemId).1 = .ok) :
    ManyHaveIds (addQueryItem items select itemId).2 := by
  unfold addQueryItem at hok ⊢
  cases items with
  | nil =>
    intro hmany
    cases select <;> simp [dstQueryItemNew] at hmany
  | cons first others =>
    dsimp only at hok ⊢
    split_ifs at hok ⊢ with hids
    obtain ⟨hfirst, hnew⟩ := not_or.mp hids
    intro _ item hmem
    rcases List.mem_append.mp hmem with hbefore | hlast
    · cases others with
      | nil =>
        obtain rfl := List.mem_singleton.mp hbefore
        exact hfirst
      | cons second others => exact h (by simp) item hbefore
    · cases select with
      | none => cases hlast
      | some select =>
        obtain rfl : item = { select := some select, itemId } := by
          simpa [dstQueryItemNew] using hlast
        exact hnew

theorem manyHaveIds_of_built {items : List DstQueryItem} (h : Built items) : ManyHaveIds items := by
  refine h.invariant ?_ fun items call => manyHaveIds_addQueryItem
  rintro items ⟨select, itemId, rfl⟩ hmany
  cases select <;> simp [initQuery, dstQueryItemNew] at hmany

/-! ## The lookup -/

theorem getAnswersBySelect_of_many {items : List DstQueryItem} {datas : List (DstData ν)}
    (hmany : 1 < items.length) (select : String) :
    getAnswersBySelect items datas select =
      match items.find? (·.select = some select) with
      | some queryItem =>
        if queryItem.itemId = none then .ok (.dst .malformedQuery, none)
        else .ok (answerOf (datas.find? (·.itemIdRef = queryItem.itemId)))
      | none => if datas.isEmpty then .ok (answerOf none) else .error .nullPointer := by
  match items, hmany with
  | _ :: _ :: _, _ => rfl

/-- An item with the selection is answered by its own data. -/
theorem getAnswersBySelect_asked {items : List DstQueryItem} (hids : ManyHaveIds items)
    (hdistinct : (items.map (·.itemId)).Nodup) {select : String}
    (h : ∃ item ∈ items, item.select = some select) :
    getAnswersBySelect items (items.filterMap (dataOf cx)) select =
      .ok (match designated cx select with
        | [] => (.dst .noData, none)
        | node :: nodes => (.ok, some (node :: nodes))) := by
  by_cases hmany : 1 < items.length
  · obtain ⟨item, hfind⟩ : ∃ item, items.find? (·.select = some select) = some item := by
      rw [← Option.isSome_iff_exists, List.find?_isSome]
      simpa using h
    have hmem := List.mem_of_find?_eq_some hfind
    have hselect : item.select = some select := by simpa using List.find?_some hfind
    rw [getAnswersBySelect_of_many hmany, hfind]
    dsimp only
    rw [if_neg (hids hmany item hmem), find?_filterMap_dataOf hdistinct hmem,
      answerOf_dataOf hselect]
  · obtain ⟨item, hmem, hselect⟩ := h
    obtain rfl : items = [item] := by
      match items, hmem, hmany with
      | [_], hmem, _ => rw [List.mem_singleton.mp hmem]
      | _ :: _ :: _, _, hmany => exact absurd (by simp) hmany
    have hdata : ([item].filterMap (dataOf cx)).head? = dataOf cx item := by
      cases hdata : dataOf cx item <;> simp [hdata]
    rw [getAnswersBySelect, if_pos hselect, hdata, answerOf_dataOf hselect]

/-- The lookup of a selection that no item has ends with an error if there is one item or no data,
and not at all otherwise. -/
theorem getAnswersBySelect_not_asked {items : List DstQueryItem} {datas : List (DstData ν)}
    {select : String} (h : ¬ ∃ item ∈ items, item.select = some select) :
    getAnswersBySelect items datas select =
      if items.length = 1 ∨ datas = [] then .ok (.dst .noData, none) else .error .nullPointer := by
  by_cases hone : items.length = 1
  · obtain ⟨item, rfl⟩ := List.length_eq_one_iff.mp hone
    have hselect : item.select ≠ some select := by simpa using h
    rw [getAnswersBySelect, if_neg hselect, if_pos (.inl hone)]
    rfl
  · have hfind : items.find? (·.select = some select) = none := by
      simpa using h
    have hlookup : getAnswersBySelect items datas select =
        if datas.isEmpty then .ok (answerOf none) else .error .nullPointer := by
      cases items with
      | nil => rfl
      | cons first items =>
        cases items with
        | nil => exact absurd rfl hone
        | cons second items =>
          rw [getAnswersBySelect_of_many (by simp), hfind]
    rw [hlookup]
    simp only [hone, false_or, List.isEmpty_iff]
    rfl

theorem filterMap_dataOf_eq_nil {items : List DstQueryItem} :
    items.filterMap (dataOf cx) = [] ↔
      ∀ item ∈ items, item.select.elim [] (designated cx) = [] := by
  rw [List.filterMap_eq_nil_iff]
  refine forall₂_congr fun item _ => ?_
  unfold dataOf
  cases item.select.elim [] (designated cx) <;> simp

/-- The lookup answers the question just if an item has the selection, or there is at most one item,
or nothing was designated at all. -/
theorem answersSelect_iff {items : List DstQueryItem} {response : DstQueryResponse ν}
    (hbuilt : Built items) (hdistinct : (items.map (·.itemId)).Nodup)
    (happly : applyQueries cx { status := ["OK"] } items = (.ok, response)) (select : String) :
    AnswersSelect cx items select (getAnswersBySelect items response.data select) ↔
      (∃ item ∈ items, item.select = some select) ∨ items.length ≤ 1 ∨
        ∀ item ∈ items, item.select.elim [] (designated cx) = [] := by
  have hdata : response.data = items.filterMap (dataOf cx) := by
    unfold applyQueries at happly
    split_ifs at happly
    · cases happly
    · exact applyEachQuery_data happly
  rw [hdata, ← filterMap_dataOf_eq_nil]
  unfold AnswersSelect
  by_cases hasked : ∃ item ∈ items, item.select = some select
  · rw [if_pos hasked, getAnswersBySelect_asked (manyHaveIds_of_built hbuilt) hdistinct hasked]
    exact iff_of_true rfl (.inl hasked)
  · rw [if_neg hasked, getAnswersBySelect_not_asked hasked]
    by_cases hfew : items.length = 1 ∨ items.filterMap (dataOf cx) = []
    · rw [if_pos hfew]
      exact iff_of_true ⟨.dst .noData, by decide, rfl⟩ (.inr (hfew.imp_left Nat.le_of_eq))
    · rw [if_neg hfew]
      obtain ⟨hone, hdata⟩ := not_or.mp hfew
      refine iff_of_false (fun ⟨_, _, h⟩ => nomatch h) ?_
      rintro (h | h | h)
      · exact hasked h
      · cases items with
        | nil => exact hdata rfl
        | cons item items => exact hone (by simp at h ⊢; exact h)
      · exact hdata h

/-! ### A query with two items -/

/-- Every selection designates a node. -/
def oneNodeContext : DstContext Unit where
  evalXPath _ := .nodes [()]
  newText _ := ()

/-- A query with two items. -/
def twoItems : List DstQueryItem := [⟨some "/a", some "1"⟩, ⟨some "/b", some "2"⟩]

theorem built_twoItems : Built twoItems := by
  have hstart : Built (initQuery (some "/a") (some "1")) := .start ⟨_, _, rfl⟩
  exact Run.Reaches.next (⟨some "/b", some "2"⟩ : AddQueryItem) hstart rfl

theorem answersSelect_second :
    AnswersSelect oneNodeContext twoItems "/b" (getAnswersBySelect twoItems
      (applyQueries oneNodeContext { status := ["OK"] } twoItems).2.data "/b") :=
  (answersSelect_iff built_twoItems (by decide) rfl "/b").mpr
    (.inl ⟨⟨some "/b", some "2"⟩, by simp [twoItems], rfl⟩)

/-- The lookup of a third selection stops the process. -/
theorem not_answersSelect :
    ¬ ∀ (ν : Type) (cx : DstContext ν) (items : List DstQueryItem) (response : DstQueryResponse ν),
      Built items → (items.map (·.itemId)).Nodup →
        applyQueries cx { status := ["OK"] } items = (.ok, response) → ∀ select,
          AnswersSelect cx items select (getAnswersBySelect items response.data select) := by
  intro hall
  have hanswer := hall Unit oneNodeContext twoItems _ built_twoItems (by decide) rfl "/c"
  unfold AnswersSelect at hanswer
  rw [if_neg (by simp [twoItems])] at hanswer
  obtain ⟨rc, -, hanswer⟩ := hanswer
  cases hanswer

end

end IdWsf

end Lasso
