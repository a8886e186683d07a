import Mathlib.Algebra.GroupWithZero.Nat
import Lasso.Xml.QuerySign

/-!
# Parameters of a URL

`lasso_url_add_parameters` escapes names and values and puts them behind a URL. The escaper counts
the bytes that it will write, in a `size_t`, and writes them at an index that is an `int`. A query
that was built from parameters gives them back, as long as the length of no text passes an `int`;
without parameters there is no query.

## Main definitions

* `lassoXmlUriEscapeStr` — the two passes of `lasso_xmlURIEscapeStr` over its buffer.
* `lassoUrlAddParameters` — `lasso_url_add_parameters`.
* `QueryRoundTrips` — the parameters come back from the query.

## Main results

* `queryRoundTrips` — they do, unless there are none, or too many of them.
-/

namespace Lasso

/-! ## The buffer of the escaper -/

/-- `INT_MAX`, for lengths. -/
def maxInt : Nat := 2 ^ 31 - 1

/-- The first pass: the number of bytes that will be written. -/
def escapedLength (str list : Bytes) : Nat :=
  str.foldl (fun len c => if isCopied list c then len + 1 else len + 3) 0

/-- `result` and `ri` -/
structure EscapeBuffer where
  bytes : Bytes
  ri : Nat

namespace EscapeBuffer

/-- `result[ri++] = c`: behind the end of the buffer, and with an index that passes an `int`, the
behaviour is undefined. -/
def put (buffer : EscapeBuffer) (c : Char) : Option EscapeBuffer :=
  if buffer.ri < buffer.bytes.length ∧ buffer.ri < maxInt then
    some ⟨buffer.bytes.set buffer.ri c, buffer.ri + 1⟩
  else none

/-- The second pass, and the zero byte at its end. -/
def fill (list : Bytes) : Bytes → EscapeBuffer → Option EscapeBuffer
  | [], buffer => buffer.put '\x00'
  | c :: str, buffer =>
    if isCopied list c then buffer.put c >>= fill list str
    else do
      let buffer ← buffer.put '%'
      let buffer ← buffer.put (upperHexDigit (c.toNat / 16))
      let buffer ← buffer.put (upperHexDigit (c.toNat % 16))
      fill list str buffer

end EscapeBuffer

/-- `lasso_xmlURIEscapeStr`: the buffer with the result. -/
def lassoXmlUriEscapeStr (str list : Bytes) : Option Bytes :=
  (EscapeBuffer.fill list str ⟨List.replicate (escapedLength str list + 1) '\x00', 0⟩).map (·.bytes)

/-- The buffer holds the escaped text, and its zero byte is the last one. -/
def FillsExactly (str : Bytes) : Prop :=
  ∃ buffer, lassoXmlUriEscapeStr str [] = some buffer ∧
    buffer.length = escapedLength str [] + 1 ∧
    (cString buffer).length = escapedLength str []

/-! ## The parameters -/

/-- `g_strdup_printf`, which gives `NULL` for a text whose length is no `int`. -/
def strdupPrintf (text : Bytes) : Option Bytes := if text.length ≤ maxInt then some text else none

/-- The loop of `lasso_url_add_parameters` over keys and values, with `old_url` and `new_url`: a
value may be missing behind the last key. -/
def addParameters (oldUrl newUrl : Option Bytes) :
    List (Bytes × Option Bytes) → Option (Option Bytes)
  | [] => some newUrl
  | (key, value) :: params => do
    let encodedKey ← (lassoXmlUriEscapeStr key []).map cString
    match value with
    | none => some newUrl
    | some value =>
      let encodedValue ← (lassoXmlUriEscapeStr value []).map cString
      let field := encodedKey ++ '=' :: encodedValue
      let newUrl := strdupPrintf (oldUrl.elim field fun oldUrl => oldUrl ++ '&' :: field)
      addParameters newUrl newUrl params

/-- `lasso_url_add_parameters`: `none` is undefined behaviour, `some none` is `NULL`. -/
def lassoUrlAddParameters (url : Option Bytes) (params : List (Bytes × Option Bytes)) :
    Option (Option Bytes) := addParameters url none params

/-- A byte string without `=`, with any byte string as its value. -/
structure UrlParameter where
  key : CString
  value : CString
  plain_key : '=' ∉ key.1

namespace UrlParameter

/-- The key and the value as they are handed over. -/
def argument (param : UrlParameter) : Bytes × Option Bytes := (param.key.1, some param.value.1)

/-- A parameter as it is written. -/
def field (param : UrlParameter) : Bytes :=
  xmlUriEscapeStr param.key.1 [] ++ '=' :: xmlUriEscapeStr param.value.1 []

end UrlParameter

/-- An unreserved character, an upper-case hexadecimal digit, or one of `%`, `=` and `&` -/
def IsQueryChar (c : Char) : Prop := c.isAlphanum = true ∨ c ∈ "._~-%=&".toList

/-- The parameters come back from the query that is built from them. -/
def QueryRoundTrips (env : Env) (params : List UrlParameter) : Prop :=
  ∃ query, lassoUrlAddParameters none (params.map (·.argument)) = some (some query) ∧
    (urlencodedToStrings env query).map cutAtEq =
      params.map (fun param => some (param.key.1, param.value.1)) ∧
    ∀ c ∈ query, IsQueryChar c

/-- The length of the query of some parameters, with a separator behind each of them. -/
def queryLength (params : List UrlParameter) : Nat :=
  (params.map fun param =>
    escapedLength param.key.1 [] + 1 + escapedLength param.value.1 [] + 1).sum

/-! ## Filling the buffer -/

theorem length_percentEscape (c : Char) : (percentEscape c).length = 3 := rfl

theorem escapedLength_eq (str list : Bytes) :
    escapedLength str list = (xmlUriEscapeStr str list).length := by
  have hfrom (len : Nat) :
      str.foldl (fun len c => if isCopied list c then len + 1 else len + 3) len =
        len + (xmlUriEscapeStr str list).length := by
    induction str generalizing len with
    | nil => rfl
    | cons c str ih =>
      rw [List.foldl_cons, ih, xmlUriEscapeStr_cons, List.length_append]
      split_ifs
      · rw [List.length_singleton, Nat.add_assoc]
      · rw [length_percentEscape, Nat.add_assoc]
  rw [escapedLength, hfrom, Nat.zero_add]

namespace EscapeBuffer

/-- The second pass writes the bytes of the escaped text one after the other. -/
theorem fill_eq (list str : Bytes) (buffer : EscapeBuffer) :
    fill list str buffer = (xmlUriEscapeStr str list ++ ['\x00']).foldlM put buffer := by
  induction str generalizing buffer with
  | nil => simp [fill]
  | cons c str ih =>
    have hrest : fill list str =
        fun buffer => (xmlUriEscapeStr str list ++ ['\x00']).foldlM put buffer := funext ih
    rw [fill, xmlUriEscapeStr_cons, List.append_assoc, List.foldlM_append, hrest]
    split_ifs <;> simp [percentEscape, Option.bind_assoc]

/-- What is written fits, and stands behind what was written before. -/
theorem foldlM_put {written : Bytes} (text rest : Bytes)
    (hfits : written.length + text.length ≤ maxInt) (hrest : rest.length = text.length) :
    text.foldlM put ⟨written ++ rest, written.length⟩ =
      some ⟨written ++ text, (written ++ text).length⟩ := by
  induction text generalizing written rest with
  | nil =>
    obtain rfl := List.length_eq_zero_iff.mp hrest
    simp
  | cons c text ih =>
    cases rest with
    | nil => cases hrest
    | cons old rest =>
      rw [List.length_cons] at hfits
      have hput : put ⟨written ++ old :: rest, written.length⟩ c =
          some ⟨(written ++ [c]) ++ rest, (written ++ [c]).length⟩ := by
        rw [put, if_pos ⟨by simp, by dsimp only; omega⟩]
        simp
      rw [List.foldlM_cons, hput, Option.bind_eq_bind, Option.bind_some,
        ih rest (by rw [List.length_append, List.length_singleton]; omega)
          (Nat.succ.inj hrest)]
      simp

/-- The index counts what was written, and stays an `int`. -/
theorem ri_foldlM_put {text : Bytes} {buffer result : EscapeBuffer} (hne : text ≠ [])
    (h : text.foldlM put buffer = some result) : buffer.ri + text.length ≤ maxInt := by
  induction text generalizing buffer with
  | nil => contradiction
  | cons c text ih =>
    rw [List.foldlM_cons, Option.bind_eq_bind, Option.bind_eq_some_iff] at h
    obtain ⟨next, hnext, hrest⟩ := h
    unfold put at hnext
    split_ifs at hnext with hput
    obtain rfl := Option.some.inj hnext
    rw [List.length_cons]
    by_cases hempty : text = []
    · rw [hempty, List.length_nil]
      omega
    · have hle := ih hempty hrest
      dsimp only at hle
      omega

end EscapeBuffer

/-- The buffer is filled to its last byte. -/
theorem lassoXmlUriEscapeStr_eq {str : Bytes} (h : escapedLength str [] < maxInt) :
    lassoXmlUriEscapeStr str [] = some (xmlUriEscapeStr str [] ++ ['\x00']) := by
  have hlength := escapedLength_eq str []
  have hfill := @EscapeBuffer.foldlM_put [] (xmlUriEscapeStr str [] ++ ['\x00'])
    (List.replicate (escapedLength str [] + 1) '\x00') (by simp; omega) (by simp; omega)
  rw [lassoXmlUriEscapeStr, EscapeBuffer.fill_eq]
  exact congrArg (Option.map (·.bytes)) hfill

theorem cString_xmlUriEscapeStr (str : CString) :
    cString (xmlUriEscapeStr str.1 [] ++ ['\x00']) = xmlUriEscapeStr str.1 [] := by
  have hnonzero : ∀ c ∈ xmlUriEscapeStr str.1 [], (decide (c ≠ '\x00')) = true := by
    intro c hc
    have hescaped := isEscaped_of_mem (fun c hc => (str.2 c hc).2) hc
    simp only [decide_eq_true_eq]
    rintro rfl
    revert hescaped
    unfold IsEscaped
    decide
  rw [cString, List.takeWhile_append_of_pos hnonzero]
  simp

/-- The second pass fills what the first one counted, if the index does not pass an `int`. -/
theorem fillsExactly_iff (str : CString) :
    FillsExactly str.1 ↔ escapedLength str.1 [] < maxInt := by
  constructor
  · rintro ⟨buffer, hbuffer, -⟩
    rw [lassoXmlUriEscapeStr, EscapeBuffer.fill_eq, Option.map_eq_some_iff] at hbuffer
    obtain ⟨result, hresult, -⟩ := hbuffer
    have hri := EscapeBuffer.ri_foldlM_put (by simp) hresult
    rw [List.length_append, List.length_singleton, ← escapedLength_eq] at hri
    dsimp only at hri
    omega
  · intro h
    refine ⟨_, lassoXmlUriEscapeStr_eq h, ?_, ?_⟩
    · rw [List.length_append, List.length_singleton, escapedLength_eq]
    · rw [cString_xmlUriEscapeStr, escapedLength_eq]

/-! ## The query -/

theorem encoded_eq {str : CString} (h : escapedLength str.1 [] < maxInt) :
    (lassoXmlUriEscapeStr str.1 []).map cString = some (xmlUriEscapeStr str.1 []) := by
  rw [lassoXmlUriEscapeStr_eq h, Option.map_some, cString_xmlUriEscapeStr]

namespace UrlParameter

variable (param : UrlParameter)

theorem length_field : param.field.length =
    escapedLength param.key.1 [] + 1 + escapedLength param.value.1 [] := by
  rw [field, List.length_append, List.length_cons, escapedLength_eq, escapedLength_eq]
  omega

theorem isQueryChar_of_mem_field {c : Char} (h : c ∈ param.field) : IsQueryChar c := by
  have hescaped {str : CString} (hc : c ∈ xmlUriEscapeStr str.1 []) : IsQueryChar c :=
    (isEscaped_of_mem (fun c hc => (str.2 c hc).2) hc).imp id fun hmem =>
      List.mem_append_left ['=', '&'] hmem
  rcases List.mem_append.mp h with hc | hc
  · exact hescaped hc
  · rcases List.mem_cons.mp hc with rfl | hc
    · exact .inr (by decide)
    · exact hescaped hc

theorem no_separator_field {c : Char} (h : c ∈ param.field) : isSeparator c = false := by
  have hescaped {str : CString} (hc : c ∈ xmlUriEscapeStr str.1 []) : isSeparator c = false :=
    (isEscaped_of_mem (fun c hc => (str.2 c hc).2) hc).not_separator
  rcases List.mem_append.mp h with hc | hc
  · exact hescaped hc
  · rcases List.mem_cons.mp hc with rfl | hc
    · rfl
    · exact hescaped hc

theorem uriUnescape_field {env : Env} (henv : env.Unescapes) :
    env.uriUnescape param.field = param.key.1 ++ '=' :: param.value.1 := by
  rw [field, uriUnescape_append henv fun c hc => (param.key.2 c hc).2,
    henv.copies _ _ (by decide),
    uriUnescape_xmlUriEscapeStr henv fun c hc => (param.value.2 c hc).2]

end UrlParameter

/-- A query with parameters behind it. -/
def withFields (query : Bytes) (params : List UrlParameter) : Bytes :=
  query ++ params.flatMap fun param => '&' :: param.field

theorem withFields_eq_intercalate (param : UrlParameter) (params : List UrlParameter) :
    withFields param.field params =
      ['&'].intercalate ((param :: params).map (·.field)) := by
  induction params generalizing param with
  | nil => simp [withFields]
  | cons next params ih =>
    rw [List.map_cons, List.map_cons, List.intercalate_cons_cons, ← List.map_cons, ← ih,
      withFields, List.flatMap_cons, withFields, List.cons_append]
    simp

theorem length_withFields (query : Bytes) (params : List UrlParameter) :
    (withFields query params).length = query.length + queryLength params := by
  induction params generalizing query with
  | nil => simp [withFields, queryLength]
  | cons param params ih =>
    have hcons : withFields query (param :: params) =
        withFields (query ++ '&' :: param.field) params := by simp [withFields]
    rw [hcons, ih, List.length_append, List.length_cons, param.length_field, queryLength,
      queryLength, List.map_cons, List.sum_cons]
    omega

/-- The parameters are put behind a URL one after the other. -/
theorem addParameters_some (query : Bytes) (params : List UrlParameter)
    (h : (withFields query params).length ≤ maxInt) :
    addParameters (some query) (some query) (params.map (·.argument)) =
      some (some (withFields query params)) := by
  induction params generalizing query with
  | nil => simp [addParameters, withFields]
  | cons param params ih =>
    have hcons : withFields query (param :: params) =
        withFields (query ++ '&' :: param.field) params := by simp [withFields]
    have hlength := length_withFields (query ++ '&' :: param.field) params
    have hfield := param.length_field
    rw [hcons] at h ⊢
    rw [hlength, List.length_append, List.length_cons] at h
    rw [List.map_cons, UrlParameter.argument, addParameters, encoded_eq (by omega),
      Option.bind_eq_bind, Option.bind_some]
    dsimp only
    have hprint : strdupPrintf (query ++ '&' :: param.field) =
        some (query ++ '&' :: param.field) :=
      if_pos (by rw [List.length_append, List.length_cons]; omega)
    rw [encoded_eq (by omega), Option.bind_some, Option.elim_some, ← UrlParameter.field, hprint]
    exact ih _ (by rw [hlength, List.length_append, List.length_cons]; omega)

theorem lassoUrlAddParameters_eq {params : List UrlParameter} (hne : params ≠ [])
    (h : queryLength params ≤ maxInt + 1) :
    lassoUrlAddParameters none (params.map (·.argument)) =
      some (some (['&'].intercalate (params.map (·.field)))) := by
  cases params with
  | nil => contradiction
  | cons param params =>
    have hlength := length_withFields param.field params
    have hfield := param.length_field
    rw [queryLength, List.map_cons, List.sum_cons, ← queryLength] at h
    rw [← withFields_eq_intercalate, lassoUrlAddParameters, List.map_cons, UrlParameter.argument,
      addParameters, encoded_eq (by omega), Option.bind_eq_bind, Option.bind_some]
    dsimp only
    have hprint : strdupPrintf param.field = some param.field := if_pos (by omega)
    rw [encoded_eq (by omega), Option.bind_some, Option.elim_none, ← UrlParameter.field, hprint]
    exact addParameters_some _ _ (by omega)

theorem foldl_withFields (query : Bytes) (newUrl : Option Bytes) (params : List UrlParameter) :
    ((params.map fun param => (param.key.1, param.value.1)).foldl (fun (oldUrl, _) (key, value) =>
      let pair := xmlUriEscapeStr key [] ++ ['='] ++ xmlUriEscapeStr value []
      let newUrl := oldUrl.elim pair (· ++ ['&'] ++ pair)
      (some newUrl, some newUrl)) (some query, newUrl)).2 =
        if params = [] then newUrl else some (withFields query params) := by
  induction params generalizing query newUrl with
  | nil => rfl
  | cons param params ih =>
    rw [List.map_cons, List.foldl_cons]
    refine (ih _ _).trans ?_
    by_cases hempty : params = [] <;> simp [hempty, withFields, UrlParameter.field]

/-- Below the bounds of an `int`, the lengths make no difference to the query. -/
theorem lassoUrlAddParameters_eq_urlAddParameters {params : List UrlParameter}
    (h : queryLength params ≤ maxInt + 1) :
    lassoUrlAddParameters none (params.map (·.argument)) =
      some (urlAddParameters none (params.map fun param => (param.key.1, param.value.1))) := by
  cases params with
  | nil => rfl
  | cons param params =>
    rw [lassoUrlAddParameters_eq (by simp) h, ← withFields_eq_intercalate, urlAddParameters,
      List.map_cons, List.foldl_cons]
    have hfold := foldl_withFields param.field (some param.field) params
    have hfield : param.field =
        xmlUriEscapeStr param.key.1 [] ++ ['='] ++ xmlUriEscapeStr param.value.1 [] := by
      simp [UrlParameter.field]
    dsimp only [Option.elim_none]
    rw [← hfield, hfold]
    split_ifs with hempty
    · simp [hempty, withFields]
    · rfl

theorem urlencodedToStrings_fields {env : Env} (henv : env.Unescapes) {params : List UrlParameter}
    (hne : params ≠ []) :
    urlencodedToStrings env (['&'].intercalate (params.map (·.field))) =
      params.map fun param => param.key.1 ++ '=' :: param.value.1 := by
  have hsplit : queryComponents (['&'].intercalate (params.map (·.field))) =
      params.map (·.field) := by
    refine Pieces.splitOnP_intercalate rfl (List.forall_mem_map.mpr fun param _ => ?_) (by simpa)
    exact fun c => param.no_separator_field
  rw [urlencodedToStrings, hsplit, List.map_map]
  refine List.map_congr_left fun param _ => ?_
  have hfield : param.field ≠ [] := by simp [UrlParameter.field]
  rw [Function.comp_apply, if_neg hfield, param.uriUnescape_field henv]

theorem isQueryChar_of_mem_intercalate {params : List UrlParameter} {c : Char}
    (h : c ∈ ['&'].intercalate (params.map (·.field))) : IsQueryChar c := by
  cases params with
  | nil => cases h
  | cons param params =>
    rw [← withFields_eq_intercalate] at h
    rcases List.mem_append.mp h with hc | hc
    · exact param.isQueryChar_of_mem_field hc
    · obtain ⟨next, -, hc⟩ := List.mem_flatMap.mp hc
      rcases List.mem_cons.mp hc with rfl | hc
      · exact .inr (by decide)
      · exact next.isQueryChar_of_mem_field hc

/-- Parameters come back from their query, whose characters are those of an escaped text and the
separators, unless there are none or the query is too long; the escaper fills exactly what it has
counted. -/
theorem queryRoundTrips {env : Env} (henv : env.Unescapes) :
    (∀ params : List UrlParameter, params ≠ [] → queryLength params ≤ maxInt + 1 →
      QueryRoundTrips env params) ∧
    ∀ str : CString, escapedLength str.1 [] < maxInt → FillsExactly str.1 := by
  refine ⟨fun params hne hlength => ?_, fun str => (fillsExactly_iff str).mpr⟩
  refine ⟨_, lassoUrlAddParameters_eq hne hlength, ?_, fun c => isQueryChar_of_mem_intercalate⟩
  rw [urlencodedToStrings_fields henv hne, List.map_map]
  exact List.map_congr_left fun param _ => cutAtEq_append param.plain_key _

/-- A key with a space, and a value with separators. -/
def separatorParameter : UrlParameter where
  key := ⟨"a b".toList, cString_of_all (by decide)⟩
  value := ⟨"c=d&e".toList, cString_of_all (by decide)⟩
  plain_key := by decide

theorem queryRoundTrips_separator : QueryRoundTrips redirectEnv [separatorParameter] :=
  (queryRoundTrips (unescapes_percentDecode rfl)).1 [separatorParameter] (by simp) (by decide)

/-- A text whose last index is no `int`. -/
def longText : CString where
  val := List.replicate maxInt 'a'
  property c hc := by
    rw [List.eq_of_mem_replicate hc]
    decide

/-- Without parameters there is no query, and a text of `INT_MAX` letters is not filled in. -/
theorem not_queryRoundTrips :
    (¬ ∀ env : Env, env.Unescapes → ∀ params, QueryRoundTrips env params) ∧
      ¬ ∀ str : CString, FillsExactly str.1 := by
  constructor
  · intro h
    obtain ⟨query, hquery, -⟩ := h redirectEnv (unescapes_percentDecode rfl) []
    cases hquery
  · intro h
    have hlong := (fillsExactly_iff longText).mp (h longText)
    have hcopied : ∀ n, xmlUriEscapeStr (List.replicate n 'a') [] = List.replicate n 'a' := by
      intro n
      induction n with
      | zero => rfl
      | succ n ih =>
        rw [List.replicate_succ, xmlUriEscapeStr_cons, if_pos (by decide), ih,
          List.singleton_append]
    rw [escapedLength_eq, longText, hcopied, List.length_replicate] at hlong
    exact Nat.lt_irrefl _ hlong

end Lasso
