import Lasso.Library.Loop
import Lasso.Xml.RelayState

/-!
# The value of a query parameter

`lasso_get_query_string_param_value` goes through a query string with a pointer, and is to find the
first component that has a given name. It goes on to the next `&` and not to what is behind it, so
that the following turn finds the same `&` again.

## Main definitions

* `queryParamTurn`, `LeavesWith` — one turn of the loop, and how the function ends.
* `componentValue` — the value that is to be found.
* `ParamLeads` — the query strings that are searched rightly for a name.

## Main results

* `findsParam_iff` — these are the ones.
-/

namespace Lasso

open Pieces

/-! ## The function -/

/-- `strchr`: the text from the first such character on -/
def strchr (text : Bytes) (c : Char) : Option Bytes :=
  match text.dropWhile (· ≠ c) with
  | [] => none
  | found => some found

/-- What is stored in `value` and `length` when a parameter is found. -/
structure ParamValue where
  value : Bytes
  length : Nat
deriving DecidableEq

/-- The characters of a value. -/
def ParamValue.raw (param : ParamValue) : Bytes := param.value.take param.length

/-- `strncmp(qs, param_key, key_size) == 0 && qs[key_size] == '='` -/
def startsWithParam (paramKey qs : Bytes) : Bool :=
  paramKey.isPrefixOf qs && qs[paramKey.length]? == some '='

/-- The value that begins here ends at the next `&`, and only where there is none at a `;`. -/
def paramValueAt (value : Bytes) : ParamValue :=
  match (strchr value '&').or (strchr value ';') with
  | some e => ⟨value, value.length - e.length⟩
  | none => ⟨value, value.length⟩

/-- One turn of `while (qs)`; NULL is left in `value` at the end. -/
def queryParamTurn (paramKey : Bytes) : Option Bytes → Option Bytes ⊕ Option ParamValue
  | none => .inr none
  | some qs =>
    if startsWithParam paramKey qs then .inr (some (paramValueAt (qs.drop (paramKey.length + 1))))
    else .inl (strchr qs '&')

/-- `lasso_get_query_string_param_value` returns and leaves this. -/
def LeavesWith (qs paramKey : Bytes) (result : Option ParamValue) : Prop :=
  Loop.Ends (queryParamTurn paramKey) (some qs) result

/-! ## What is to be found -/

/-- The raw value of the first component with this name. -/
def componentValue (qs paramKey : Bytes) : Option Bytes :=
  (queryComponents qs).findSome? fun component =>
    (cutAtEq component).bind fun (name, value) => if name = paramKey then some value else none

/-- The function returns, and what it leaves is the value of that component, or NULL. -/
def FindsParam (qs paramKey : Bytes) : Prop :=
  ∃ result, LeavesWith qs paramKey result ∧
    result.map ParamValue.raw = componentValue qs paramKey

/-- A name that a component can have. -/
def IsParamName (name : Bytes) : Prop := ∀ c ∈ name, c ≠ '=' ∧ isSeparator c = false

/-- Either the query string begins with the parameter, whose value has no `;` before a `&`, or there
is no `&` and no such parameter. -/
def ParamLeads (qs paramKey : Bytes) : Prop :=
  if startsWithParam paramKey qs then
    let value := qs.drop (paramKey.length + 1)
    IsParamName paramKey ∧ ('&' ∈ value → ';' ∉ value.takeWhile (· ≠ '&'))
  else '&' ∉ qs ∧ componentValue qs paramKey = none

/-! ## The end of a value -/

section

variable {text value : Bytes} {c : Char}

theorem takeWhile_ne_eq_self_iff : text.takeWhile (· ≠ c) = text ↔ c ∉ text := by
  rw [List.takeWhile_eq_self_iff]
  constructor
  · intro h hmem
    simpa using h c hmem
  · rintro h x hx
    exact decide_eq_true fun heq => h (heq ▸ hx)

theorem strchr_of_notMem (h : c ∉ text) : strchr text c = none := by
  have hnil : text.dropWhile (· ≠ c) = [] := by
    rw [List.dropWhile_eq_nil_iff]
    intro x hx
    exact decide_eq_true fun heq => h (heq ▸ hx)
  rw [strchr, hnil]

theorem strchr_of_mem (h : c ∈ text) : ∃ rest, text = text.takeWhile (· ≠ c) ++ c :: rest ∧
    strchr text c = some (c :: rest) := by
  obtain ⟨before, rest, rfl, hbefore⟩ := List.eq_append_cons_of_mem h
  have hne : ∀ x ∈ before, decide (x ≠ c) = true := by
    intro x hx
    exact decide_eq_true fun heq => hbefore (heq ▸ hx)
  refine ⟨rest, ?_, ?_⟩
  · rw [List.takeWhile_append_of_pos hne]
    simp
  · rw [strchr, List.dropWhile_append_of_pos hne]
    simp

theorem take_of_mem (h : c ∈ text) {rest : Bytes} (hrest : strchr text c = some rest) :
    text.take (text.length - rest.length) = text.takeWhile (· ≠ c) := by
  obtain ⟨tail, htext, hfound⟩ := strchr_of_mem h
  obtain rfl := Option.some.inj (hrest.symm.trans hfound)
  generalize text.takeWhile (· ≠ c) = before at htext ⊢
  subst htext
  simp

theorem raw_paramValueAt (value : Bytes) :
    (paramValueAt value).raw =
      if '&' ∈ value then value.takeWhile (· ≠ '&') else value.takeWhile (· ≠ ';') := by
  unfold paramValueAt
  split_ifs with hamp
  · obtain ⟨rest, -, hfound⟩ := strchr_of_mem hamp
    rw [hfound]
    exact take_of_mem hamp hfound
  · rw [strchr_of_notMem hamp, Option.none_or]
    by_cases hsemicolon : ';' ∈ value
    · obtain ⟨rest, -, hfound⟩ := strchr_of_mem hsemicolon
      rw [hfound]
      exact take_of_mem hsemicolon hfound
    · rw [strchr_of_notMem hsemicolon, takeWhile_ne_eq_self_iff.mpr hsemicolon]
      exact List.take_length

/-- The value up to the next separator is what is before a `;` in the text before a `&`. -/
theorem takeWhile_not_separator (value : Bytes) :
    value.takeWhile (!isSeparator ·) = (value.takeWhile (· ≠ '&')).takeWhile (· ≠ ';') := by
  rw [List.takeWhile_takeWhile]
  congr 1
  funext x
  simp [isSeparator, Bool.and_comm, beq_eq_decide]

/-- The value ends at the next separator unless that is a `;` before a `&`. -/
theorem raw_paramValueAt_iff (value : Bytes) :
    (paramValueAt value).raw = value.takeWhile (!isSeparator ·) ↔
      ('&' ∈ value → ';' ∉ value.takeWhile (· ≠ '&')) := by
  rw [raw_paramValueAt, takeWhile_not_separator]
  split_ifs with hamp
  · rw [eq_comm, takeWhile_ne_eq_self_iff]
    exact (imp_iff_right hamp).symm
  · rw [takeWhile_ne_eq_self_iff.mpr hamp]
    exact iff_of_true rfl fun hmem => absurd hmem hamp

end

/-! ## What the loop does -/

section

variable {qs paramKey : Bytes}

theorem startsWithParam_iff :
    startsWithParam paramKey qs = true ↔ ∃ value, qs = paramKey ++ '=' :: value := by
  unfold startsWithParam
  rw [Bool.and_eq_true, List.isPrefixOf_iff_prefix, beq_iff_eq]
  constructor
  · rintro ⟨⟨rest, rfl⟩, heq⟩
    rw [List.getElem?_append_right (Nat.le_refl _), Nat.sub_self] at heq
    cases rest with
    | nil => simp at heq
    | cons c value =>
      obtain rfl : c = '=' := by simpa using heq
      exact ⟨value, rfl⟩
  · rintro ⟨value, rfl⟩
    exact ⟨List.prefix_append _ _, by simp⟩

theorem leavesWith_of_starts {value : Bytes} {result : Option ParamValue}
    (h : startsWithParam paramKey (paramKey ++ '=' :: value) = true) :
    LeavesWith (paramKey ++ '=' :: value) paramKey result ↔ result = some (paramValueAt value) := by
  apply Loop.ends_of_leaves
  have hdrop : (paramKey ++ '=' :: value).drop (paramKey.length + 1) = value := by simp
  rw [queryParamTurn, if_pos h, hdrop]

/-- Without a `&` to go on to, there is nothing to find. -/
theorem leavesWith_of_notMem (h : startsWithParam paramKey qs = false) (hamp : '&' ∉ qs)
    {result : Option ParamValue} : LeavesWith qs paramKey result ↔ result = none := by
  have hturn : queryParamTurn paramKey (some qs) = .inl none := by
    simp [queryParamTurn, h, strchr_of_notMem hamp]
  exact (Loop.ends_of_next hturn).trans (Loop.ends_of_leaves rfl)

/-- The loop stays at the first `&`, unless the name begins there. -/
theorem not_leavesWith_of_mem (h : startsWithParam paramKey qs = false) (hamp : '&' ∈ qs)
    {result : Option ParamValue} (hends : LeavesWith qs paramKey result) :
    paramKey.head? = some '&' ∧ result ≠ none := by
  obtain ⟨rest, -, hfound⟩ := strchr_of_mem hamp
  have hturn : queryParamTurn paramKey (some qs) = .inl (some ('&' :: rest)) := by
    simp [queryParamTurn, h, hfound]
  have hrest := (Loop.ends_of_next hturn).mp hends
  cases hstarts : startsWithParam paramKey ('&' :: rest) with
  | true =>
    obtain ⟨value, hvalue⟩ := startsWithParam_iff.mp hstarts
    rw [hvalue] at hrest hstarts
    refine ⟨?_, ?_⟩
    · cases paramKey with
      | nil => simp at hvalue
      | cons c name =>
        obtain ⟨rfl, -⟩ := List.cons.inj hvalue
        rfl
    · rw [(leavesWith_of_starts hstarts).mp hrest]
      exact Option.some_ne_none _
  | false =>
    have hstays : queryParamTurn paramKey (some ('&' :: rest)) = .inl (some ('&' :: rest)) := by
      simp [queryParamTurn, hstarts, strchr]
    exact absurd hrest (Loop.not_ends_of_fixed hstays)

/-! ## The component with the name -/

theorem cutAtEq_fst_of_some {component name value : Bytes}
    (h : cutAtEq component = some (name, value)) : '=' ∉ name ∧ ∀ c ∈ name, c ∈ component := by
  unfold cutAtEq at h
  split at h
  · cases h
  · obtain ⟨rfl, -⟩ := Prod.mk.inj (Option.some.inj h)
    refine ⟨fun hmem => ?_, fun c hc => (List.takeWhile_prefix _).subset hc⟩
    simpa using List.mem_takeWhile_imp hmem

/-- No component has a name that contains a `=` or a separator. -/
theorem componentValue_of_not_isParamName (h : ¬ IsParamName paramKey) :
    componentValue qs paramKey = none := by
  rw [componentValue, List.findSome?_eq_none_iff]
  intro component hcomponent
  cases hcut : cutAtEq component with
  | none => rfl
  | some parts =>
    obtain ⟨name, value⟩ := parts
    obtain ⟨heq, hsubset⟩ := cutAtEq_fst_of_some hcut
    refine if_neg ?_
    rintro rfl
    refine h fun c hc => ⟨?_, not_of_mem_splitOnP hcomponent c (hsubset c hc)⟩
    rintro rfl
    exact heq hc

/-- The component at the start of the query string is the first one. -/
theorem componentValue_of_starts (hname : IsParamName paramKey) (value : Bytes) :
    componentValue (paramKey ++ '=' :: value) paramKey =
      some (value.takeWhile (!isSeparator ·)) := by
  have hall : ∀ c ∈ paramKey ++ ['='], (!isSeparator c) = true := by
    intro c hc
    rcases List.mem_append.mp hc with hkey | heq
    · simp [(hname c hkey).2]
    · rw [List.mem_singleton.mp heq]
      rfl
  have hfirst : (pieces isSeparator (paramKey ++ '=' :: value)).1 =
      paramKey ++ '=' :: value.takeWhile (!isSeparator ·) := by
    rw [pieces_fst, ← List.singleton_append, ← List.append_assoc,
      List.takeWhile_append_of_pos hall, List.append_assoc, List.singleton_append]
  have hnotMem : '=' ∉ paramKey := fun hmem => (hname _ hmem).1 rfl
  rw [componentValue, queryComponents_eq_pieces, List.findSome?_cons, hfirst,
    cutAtEq_append hnotMem]
  simp

/-- A name that begins with a `&` is not found in any component. -/
theorem not_isParamName_of_head (h : paramKey.head? = some '&') : ¬ IsParamName paramKey := by
  intro hname
  have hsep := (hname '&' (List.mem_of_mem_head? h)).2
  cases hsep

end

/-! ## The query strings that are searched rightly -/

/-- The value of the first component with a name is returned, or NULL, just for these query
strings. For the others the function does not return or takes another text for the value. -/
theorem findsParam_iff (qs paramKey : Bytes) : FindsParam qs paramKey ↔ ParamLeads qs paramKey := by
  unfold FindsParam ParamLeads
  cases hstarts : startsWithParam paramKey qs with
  | true =>
    obtain ⟨value, rfl⟩ := startsWithParam_iff.mp hstarts
    have hdrop : (paramKey ++ '=' :: value).drop (paramKey.length + 1) = value := by simp
    simp only [leavesWith_of_starts hstarts, exists_eq_left, Option.map_some, if_true, hdrop]
    by_cases hname : IsParamName paramKey
    · rw [componentValue_of_starts hname, Option.some_inj, raw_paramValueAt_iff]
      exact (and_iff_right hname).symm
    · rw [componentValue_of_not_isParamName hname]
      simp [hname]
  | false =>
    rw [if_neg Bool.false_ne_true]
    by_cases hamp : '&' ∈ qs
    · refine iff_of_false ?_ fun h => h.1 hamp
      rintro ⟨result, hends, hvalue⟩
      obtain ⟨hhead, hne⟩ := not_leavesWith_of_mem hstarts hamp hends
      rw [componentValue_of_not_isParamName (not_isParamName_of_head hhead),
        Option.map_eq_none_iff] at hvalue
      exact hne hvalue
    · simp only [leavesWith_of_notMem hstarts hamp, exists_eq_left, Option.map_none]
      rw [eq_comm]
      exact (and_iff_right hamp).symm

/-- The second parameter of a query string is never found, and a value may run over a `;`. -/
theorem not_findsParam :
    ¬ (∀ qs paramKey, FindsParam qs paramKey) ∧
    (∀ result, ¬ LeavesWith "a=1&b=2".toList "b".toList result) ∧
    LeavesWith "a=1;b=2&c=3".toList "a".toList (some ⟨"1;b=2&c=3".toList, 5⟩) := by
  have hnever : ∀ result, ¬ LeavesWith "a=1&b=2".toList "b".toList result := by
    intro result hends
    have hhead := (not_leavesWith_of_mem (by decide) (by simp) hends).1
    cases hhead
  refine ⟨fun h => ?_, hnever, 1, rfl⟩
  obtain ⟨result, hends, -⟩ := h "a=1&b=2".toList "b".toList
  exact hnever result hends

end Lasso
