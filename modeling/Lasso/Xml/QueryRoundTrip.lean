import Mathlib.Data.List.Forall2
import Mathlib.Data.List.ReduceOption
import Lasso.Library.NamedFields
import Lasso.Library.Pieces
import Lasso.Xml.QueryFields

/-!
# The round trip of an object through its query

The table of a class is compared with a list of named fields of a record, one row with one field:
what the path leads to in the object of the record is the value of the field. Building a query then
writes the values of the record, and reading it assigns them again.

## Main definitions

* `LeadsTo` — a path leads to the value of a field.
* `QueryCodec` — a table with the fields that its rows are for.
* `textField`, `integerField`, `booleanField` — the fields for members of some type.

## Main results

* `QueryCodec.buildQuery_eq` — the query of a record.
* `QueryCodec.initFromQueryFields_eq` — what reading it makes of an object.
-/

namespace Lasso

open NamedFields

variable {σ : Type*} {methods : QueryMethods} {object : σ → NodeObject} {row : QuerySnippet}
  {field : Field σ Bytes Bytes} {steps : List String} {s t : σ} {snippet : Snippet}
  {write : MemberValue NodeObject → NodeObject}

/-- The bytes of a C string. -/
def IsCString (text : Bytes) : Prop := ∀ c ∈ text, c ≠ '\x00' ∧ c.toNat < 256

instance (text : Bytes) : Decidable (IsCString text) :=
  List.decidableBAll (fun c => c ≠ '\x00' ∧ c.toNat < 256) text

/-- A name that is found again in a query. -/
def IsPlainName (name : Bytes) : Prop := ∀ c ∈ name, c ≠ '=' ∧ c ≠ '%' ∧ isSeparator c = false

instance (name : Bytes) : Decidable (IsPlainName name) :=
  List.decidableBAll (fun c => c ≠ '=' ∧ c ≠ '%' ∧ isSeparator c = false) name

/-! ## Lists in a query -/

theorem joinedValues_eq_none {values : List Bytes} (h : ∀ value ∈ values, value ≠ []) :
    joinedValues values = none ↔ values = [] := by
  have hnil : [' '].intercalate values = [] ↔ values = [] := by
    match values, h with
    | [], _ => simp
    | [value], h => simpa using h
    | value :: next :: values, _ => simp
  simp [joinedValues, hnil]

/-- Strings that are not empty and contain no space come apart again. -/
theorem strsplit_joinedValues {values : List Bytes} {text : Bytes}
    (h : ∀ value ∈ values, ' ' ∉ value) (hjoined : joinedValues values = some text) :
    strsplit text = values := by
  obtain ⟨hne, rfl⟩ : [' '].intercalate values ≠ [] ∧ [' '].intercalate values = text := by
    simpa [joinedValues] using hjoined
  have hvalues : values ≠ [] := by
    rintro rfl
    exact hne rfl
  rw [strsplit, if_neg hne, List.splitOn_intercalate ' ' h hvalues]

theorem mem_joinedValues {values : List Bytes} {text : Bytes} {c : Char}
    (hjoined : joinedValues values = some text) (hmem : c ∈ text) :
    c = ' ' ∨ ∃ value ∈ values, c ∈ value := by
  obtain ⟨-, rfl⟩ : [' '].intercalate values ≠ [] ∧ [' '].intercalate values = text := by
    simpa [joinedValues] using hjoined
  clear hjoined
  induction values with
  | nil => cases hmem
  | cons value values ih =>
    cases values with
    | nil => exact .inr ⟨value, List.mem_cons_self, by simpa using hmem⟩
    | cons next values =>
      simp only [List.intercalate_cons_cons, List.mem_append, List.mem_singleton] at hmem
      rcases hmem with (hmem | rfl) | hmem
      · exact .inr ⟨value, List.mem_cons_self, hmem⟩
      · exact .inl rfl
      · exact (ih hmem).imp_right fun ⟨value', hvalue', hc⟩ =>
          ⟨value', List.mem_cons_of_mem _ hvalue', hc⟩

/-- A number is written with a sign and digits. -/
theorem toNat_lt_of_mem_toString {n : Int} {c : Char} (h : c ∈ (toString n).toList) :
    c.toNat < 256 := by
  have hdigits : ∀ {m : Nat}, c ∈ Nat.toDigits 10 m → c.toNat < 256 := by
    intro m hmem
    have hdigit := Nat.isDigit_of_mem_toDigits (by omega) (by omega) hmem
    simp only [Char.isDigit, Bool.and_eq_true, decide_eq_true_eq] at hdigit
    exact Nat.lt_of_le_of_lt hdigit.2 (by decide)
  cases n with
  | ofNat m =>
    have htext : (toString (Int.ofNat m)).toList = Nat.toDigits 10 m := Nat.toList_repr
    exact hdigits (htext ▸ h)
  | negSucc m =>
    have htext : (toString (Int.negSucc m)).toList = '-' :: Nat.toDigits 10 (m + 1) :=
      Decimal.toList_negSucc m
    rcases List.mem_cons.mp (htext ▸ h) with rfl | hmem
    · decide
    · exact hdigits hmem

theorem toNat_lt_of_integer (n : Int) :
    ∀ text ∈ some (toString n).toList, ∀ c ∈ text, c.toNat < 256 := by
  rintro _ ⟨⟩ c hc
  exact toNat_lt_of_mem_toString hc

/-! ## A path and a field -/

theorem Snippet.kind_of_isBare {kind : SnippetKind} (h : snippet.isBare kind = true) :
    snippet.kind = kind := by
  rw [isBare, beq_iff_eq] at h
  rw [h]

theorem Snippet.isBare_of_kind {kind : SnippetKind} (h : snippet.kind ≠ kind) :
    snippet.isBare kind = false := by
  cases hbare : snippet.isBare kind with
  | false => rfl
  | true => exact absurd (kind_of_isBare hbare) h

/-- What a path leads to in the object of a record: nothing, or a member with the value of the
field. -/
inductive LeadsTo (methods : QueryMethods) (object : σ → NodeObject) (steps : List String)
    (field : Field σ Bytes Bytes) (s : σ) : Prop
  | missing (find : findPath steps (object s) = .ok none) (get : field.get s = none)
      (set : ∀ text, field.set text s = s)
  | found {found : FoundMember} (find : findPath steps (object s) = .ok (some found))
      (kind : found.snippet.kind ≠ .extension)
      (get : found.queryValue methods = .ok (field.get s))
      (set : ∀ text, ∃ value, found.assigned methods text = .ok value ∧
        object (field.set text s) = found.write value)

namespace LeadsTo

theorem string {value : Option Bytes}
    (find : findPath steps (object s) =
      .ok (some ⟨snippet, .string (value.map String.ofList), write⟩))
    (kind : snippet.kind ≠ .extension) (get : field.get s = value)
    (set : ∀ text, object (field.set text s) = write (.string (some (String.ofList text)))) :
    LeadsTo methods object steps field s := by
  refine .found find kind ?_ fun text => ⟨_, rfl, set text⟩
  simp [FoundMember.queryValue, Function.comp_def, get]

theorem integer {value : Int}
    (find : findPath steps (object s) = .ok (some ⟨snippet, .integer value, write⟩))
    (kind : snippet.kind ≠ .extension) (get : field.get s = some (toString value).toList)
    (set : ∀ text, object (field.set text s) = write (.integer (Decimal.atoi text))) :
    LeadsTo methods object steps field s :=
  .found find kind (congrArg Except.ok get.symm) fun text => ⟨_, rfl, set text⟩

theorem boolean {value : Bool}
    (find : findPath steps (object s) = .ok (some ⟨snippet, .boolean value, write⟩))
    (kind : snippet.kind ≠ .extension)
    (get : field.get s = some (if value then "true" else "false").toList)
    (set : ∀ text, object (field.set text s) = write (.boolean (text == "true".toList))) :
    LeadsTo methods object steps field s :=
  .found find kind (congrArg Except.ok get.symm) fun text => ⟨_, rfl, set text⟩

theorem strings {values : List Bytes}
    (find : findPath steps (object s) =
      .ok (some ⟨snippet, .strings (values.map String.ofList), write⟩))
    (bare : snippet.isBare .listContent = true) (get : field.get s = joinedValues values)
    (set : ∀ text, object (field.set text s) =
      write (.strings ((strsplit text).map String.ofList))) :
    LeadsTo methods object steps field s := by
  refine .found find ?_ ?_ fun text => ⟨_, ?_, set text⟩
  · simp [Snippet.kind_of_isBare bare]
  · simp [FoundMember.queryValue, bare, Function.comp_def, get]
  · simp [FoundMember.assigned, bare]

/-- The string in the object is the value of the field, and it is not the one of an extension. -/
theorem getValueByPath_eq (h : LeadsTo methods object steps field s) :
    ∃ snippet : Snippet, snippet.kind ≠ .extension ∧
      getValueByPath methods (object s) steps = .ok ((field.get s).map (snippet, ·)) := by
  cases h with
  | missing find get =>
    refine ⟨{ name := "", kind := .content, field := none }, nofun, ?_⟩
    simp only [getValueByPath, find, get]
    rfl
  | found find kind get =>
    refine ⟨_, kind, ?_⟩
    simp only [getValueByPath, find, bind, Except.bind, get]
    rfl

/-- Setting the string makes the object of the record with the new value. -/
theorem setValueAtPath_eq (h : LeadsTo methods object steps field s) (text : Bytes) :
    setValueAtPath methods (object s) steps text = .ok (object (field.set text s)) := by
  cases h with
  | missing find get set =>
    simp only [setValueAtPath, find, set]
    rfl
  | found find kind get set =>
    obtain ⟨value, hassigned, hset⟩ := set text
    simp only [setValueAtPath, find, bind, Except.bind, hassigned, hset]
    rfl

end LeadsTo

/-! ## A table and its fields -/

/-- The row is for the field: one for extensions is so when there are none, and another one when its
path leads to the field. -/
structure Describes (methods : QueryMethods) (object : σ → NodeObject) (row : QuerySnippet)
    (field : Field σ Bytes Bytes) : Prop where
  name : field.name = row.name.toList
  extension : row.name = "Extension" → ∀ s, field.get s = none ∧
    ∃ found, findPath row.steps (object s) = .ok (some found) ∧
      found.snippet.isBare .extension = true ∧ found.value = .xmlNodes []
  leads : row.name ≠ "Extension" → ∀ s, LeadsTo methods object row.steps field s

/-- A row with a path of its own, which is not the one for extensions. -/
theorem describes_of_leads (hname : field.name = row.name.toList) (hnot : row.name ≠ "Extension")
    (h : ∀ s, LeadsTo methods object row.steps field s) : Describes methods object row field :=
  ⟨hname, fun hext => absurd hext hnot, fun _ => h⟩

/-- A table with the fields of a record that its rows are for. -/
structure QueryCodec (σ : Type*) (methods : QueryMethods) where
  object : σ → NodeObject
  table : List QuerySnippet
  fields : List (Field σ Bytes Bytes)
  describes : List.Forall₂ (Describes methods object) table fields
  names : (fields.map (·.name)).Nodup
  plain : ∀ field ∈ fields, IsPlainName field.name

/-- A field of a query, with the value escaped or not. -/
def escapedPart (part : Bytes × Bytes) : Bytes := part.1 ++ '=' :: xmlUriEscapeStr part.2 []
def plainPart (part : Bytes × Bytes) : Bytes := part.1 ++ '=' :: part.2

/-- The string in an object of a record, for any row. -/
theorem Describes.getValueByPath_eq (h : Describes methods object row field) (s : σ) :
    ∃ snippet : Snippet, snippet.kind ≠ .extension ∧
      getValueByPath methods (object s) row.steps = .ok ((field.get s).map (snippet, ·)) := by
  by_cases hname : row.name = "Extension"
  · obtain ⟨hget, found, hfind, hbare, hvalue⟩ := h.extension hname s
    refine ⟨{ name := "", kind := .content, field := none }, nofun, ?_⟩
    simp [getValueByPath, hfind, FoundMember.queryValue, hvalue, hbare, hget, extensionQuery,
      List.reduceOption_nil, bind, Except.bind, pure, Except.pure]
  · exact (h.leads hname s).getValueByPath_eq

/-! ## The fields of a record -/

/-- A `char *` member -/
def textMember (value : Option Bytes) : MemberValue NodeObject :=
  .string (value.map String.ofList)

/-- A `GList *` member with strings -/
def textsMember (values : List Bytes) : MemberValue NodeObject :=
  .strings (values.map String.ofList)

@[simp] theorem textMember_inj {value value' : Option Bytes} :
    textMember value = textMember value' ↔ value = value' := by
  rw [textMember, textMember, MemberValue.string.injEq]
  exact (Option.map_injective fun _ _ => String.ofList_inj.mp).eq_iff

@[simp] theorem textsMember_inj {values values' : List Bytes} :
    textsMember values = textsMember values' ↔ values = values' := by
  rw [textsMember, textsMember, MemberValue.strings.injEq]
  exact (List.map_injective_iff.mpr fun _ _ => String.ofList_inj.mp).eq_iff

/-- A string of a record. -/
def textField (name : String) (get : σ → Option Bytes) (put : Option Bytes → σ → σ) :
    Field σ Bytes Bytes :=
  .coded name.toList id some get put

def integerField (name : String) (get : σ → Int) (put : Int → σ → σ) : Field σ Bytes Bytes :=
  .coded name.toList (fun value => some (toString value).toList) Decimal.atoi get put

def booleanField (name : String) (get : σ → Bool) (put : Bool → σ → σ) : Field σ Bytes Bytes :=
  .coded name.toList (fun value => some (if value then "true" else "false").toList)
    (· == "true".toList) get put

/-- A field of an object that the record does not have. -/
def absentField (name : String) : Field σ Bytes Bytes where
  name := name.toList
  get _ := none
  set _ := id

section Carry

variable {name : String} {source target : σ}

theorem carry_text {get : σ → Option Bytes} {put : Option Bytes → σ → σ}
    (hmissing : put none target = target) :
    (textField name get put).carry source target = put (get source) target :=
  Field.carry_coded (fun _ h => h.symm) fun h => (congrArg (put · target) h).trans hmissing

theorem carry_integer {get : σ → Int} {put : Int → σ → σ}
    (hint : -2 ^ 31 ≤ get source ∧ get source < 2 ^ 31) :
    (integerField name get put).carry source target = put (get source) target :=
  Field.carry_coded (fun _ h => Option.some.inj h ▸ Decimal.atoi_toString hint.1 hint.2) nofun

theorem carry_boolean {get : σ → Bool} {put : Bool → σ → σ} :
    (booleanField name get put).carry source target = put (get source) target := by
  refine Field.carry_coded (fun value h => ?_) nofun
  rw [← Option.some.inj h]
  cases get source <;> decide

theorem carry_absent : (absentField name).carry source target = target := rfl

end Carry

/-! ## Building the query -/

/-- Add a field to a query. -/
def appendPart (query part : Bytes) : Bytes :=
  (if query = [] then query else query ++ ['&']) ++ part

theorem foldl_appendPart {query : Bytes} (h : query ≠ []) (parts : List Bytes) :
    parts.foldl appendPart query = query ++ parts.flatMap ('&' :: ·) := by
  induction parts generalizing query with
  | nil => simp
  | cons part parts ih => simp [appendPart, h, ih]

theorem foldl_appendPart_nil {parts : List Bytes} (h : ∀ part ∈ parts, part ≠ []) :
    parts.foldl appendPart [] = ['&'].intercalate parts := by
  cases parts with
  | nil => rfl
  | cons part parts =>
    have hfirst : appendPart [] part = part := rfl
    rw [List.foldl_cons, hfirst, foldl_appendPart (h part List.mem_cons_self)]
    induction parts generalizing part with
    | nil => simp
    | cons next parts ih =>
      rw [List.intercalate_cons_cons, ← ih next (by simp_all) rfl]
      simp

theorem foldlM_appendField {table : List QuerySnippet} {fields : List (Field σ Bytes Bytes)}
    (h : List.Forall₂ (Describes methods object) table fields) (s : σ) (query : Bytes) :
    table.foldlM (appendField methods (object s)) query =
      .ok (((values fields s).map escapedPart).foldl appendPart query) := by
  induction h generalizing query with
  | nil => rfl
  | @cons row field rows fields hrow _ ih =>
    obtain ⟨snippet, hkind, hvalue⟩ := hrow.getValueByPath_eq s
    have hturn : appendField methods (object s) query row =
        .ok ((((field.get s).map (field.name, ·)).map escapedPart).elim query
          (appendPart query)) := by
      have hbare := Snippet.isBare_of_kind hkind
      cases hget : field.get s <;>
        simp [appendField, hvalue, hget, bind, Except.bind, pure, Except.pure, hbare, hrow.name,
          escapedPart, appendPart]
    rw [List.foldlM_cons, hturn, values, List.filterMap_cons]
    cases hget : field.get s with
    | none => exact ih query
    | some value => exact ih _

namespace QueryCodec

variable (c : QueryCodec σ methods)

/-- The query of a record: the fields that are set, escaped and with `&` between them. -/
theorem buildQuery_eq (s : σ) :
    buildQueryFromSnippets methods c.table (c.object s) =
      .ok (['&'].intercalate ((values c.fields s).map escapedPart)) := by
  have hne : ∀ part ∈ (values c.fields s).map escapedPart, part ≠ [] := by
    rw [List.forall_mem_map]
    simp [escapedPart]
  rw [buildQueryFromSnippets, foldlM_appendField c.describes, foldl_appendPart_nil hne]

end QueryCodec

/-! ## Reading the query -/

section

variable {env : Env} (henv : env.Unescapes)

theorem separator_not_mem_escapedPart {name value : Bytes}
    (hname : ∀ c ∈ name, isSeparator c = false) (hvalue : ∀ c ∈ value, c.toNat < 256) :
    ∀ c ∈ escapedPart (name, value), isSeparator c = false := by
  intro c hc
  rcases List.mem_append.mp hc with hc | hc
  · exact hname c hc
  · rcases List.mem_cons.mp hc with rfl | hc
    · rfl
    · exact (isEscaped_of_mem hvalue hc).not_separator

include henv

theorem uriUnescape_escapedPart {name value : Bytes} (hname : '%' ∉ name)
    (hvalue : ∀ c ∈ value, c.toNat < 256) :
    env.uriUnescape (escapedPart (name, value)) = plainPart (name, value) := by
  have hhead : '%' ∉ name ++ ['='] := by simp [hname]
  have happend := henv.copies.append hhead (s := xmlUriEscapeStr value [])
  rw [List.append_assoc, List.append_assoc, uriUnescape_xmlUriEscapeStr henv hvalue] at happend
  exact happend

/-- The fields of a query come back, but none come as one that is empty. -/
theorem urlencodedToStrings_intercalate {parts : List (Bytes × Bytes)}
    (hnames : ∀ part ∈ parts, ∀ c ∈ part.1, c ≠ '%' ∧ isSeparator c = false)
    (hvalues : ∀ part ∈ parts, ∀ c ∈ part.2, c.toNat < 256) :
    urlencodedToStrings env (['&'].intercalate (parts.map escapedPart)) =
      if parts = [] then [[]] else parts.map plainPart := by
  split_ifs with hparts
  · subst hparts
    rfl
  · have hsplit : queryComponents (['&'].intercalate (parts.map escapedPart)) =
        parts.map escapedPart := by
      refine Pieces.splitOnP_intercalate rfl (List.forall_mem_map.mpr fun part hpart => ?_)
        (by simpa)
      exact separator_not_mem_escapedPart (fun c hc => (hnames part hpart c hc).2)
        (hvalues part hpart)
    rw [urlencodedToStrings, hsplit, List.map_map]
    refine List.map_congr_left fun part hpart => ?_
    have hne : escapedPart part ≠ [] := by simp [escapedPart]
    rw [Function.comp_apply, if_neg hne]
    exact uriUnescape_escapedPart henv (fun hmem => (hnames part hpart _ hmem).1 rfl)
      (hvalues part hpart)

end

/-- No field is written for the extensions. -/
theorem no_extension {table : List QuerySnippet} {fields : List (Field σ Bytes Bytes)}
    (h : List.Forall₂ (Describes methods object) table fields) (hmem : field ∈ fields)
    (hname : field.name = "Extension".toList) : field.get s = none := by
  induction h with
  | nil => cases hmem
  | cons hrow _ ih =>
    rcases List.mem_cons.mp hmem with rfl | hmem
    · exact (hrow.extension (String.toList_inj.mp (hrow.name.symm.trans hname)) s).1
    · exact ih hmem

/-- The row for a name is the one of the field with this name. -/
theorem findQuerySnippet_eq {table : List QuerySnippet} {fields : List (Field σ Bytes Bytes)}
    (h : List.Forall₂ (Describes methods object) table fields) {name : Bytes}
    (hname : name ≠ "Extension".toList) (hmem : name ∈ fields.map (·.name)) (hasExtension : Bool) :
    ∃ row field hasExtension', findQuerySnippet name table hasExtension =
        (some row, hasExtension') ∧
      fields.find? (·.name = name) = some field ∧ row.name ≠ "Extension" ∧
      Describes methods object row field := by
  induction h generalizing hasExtension with
  | nil => cases hmem
  | @cons row field rows fields hrow _ ih =>
    by_cases hfirst : name = row.name.toList
    · have hnot : row.name ≠ "Extension" := by
        rintro heq
        exact hname (by rw [hfirst, heq])
      refine ⟨row, field, hasExtension, ?_, ?_, hnot, hrow⟩
      · rw [findQuerySnippet, if_neg hnot, if_pos hfirst]
      · rw [List.find?_cons_of_pos (by simp [hrow.name, hfirst])]
    · have hrest : name ∈ fields.map (·.name) := by
        simpa [hrow.name, hfirst] using hmem
      have hskip : ∃ hasExtension', findQuerySnippet name (row :: rows) hasExtension =
          findQuerySnippet name rows hasExtension' := by
        rw [findQuerySnippet]
        split_ifs
        · exact ⟨_, rfl⟩
        · exact ⟨_, rfl⟩
      obtain ⟨hasExtension', hskip⟩ := hskip
      rw [hskip, List.find?_cons_of_neg (by simpa [hrow.name] using Ne.symm hfirst)]
      exact ih hrest hasExtension'

namespace QueryCodec

variable (c : QueryCodec σ methods)

/-- A field for a row is assigned. -/
theorem initField_eq {name value : Bytes} (hname : name ≠ "Extension".toList)
    (hmem : name ∈ c.fields.map (·.name)) (target : σ) (hasExtension : Bool) :
    ∃ hasExtension', initField methods c.table (c.object target, hasExtension)
        (plainPart (name, value)) =
      .ok (c.object (assign c.fields target (name, value)), hasExtension') := by
  obtain ⟨row, field, hasExtension', hrow, hfield, hnot, hdescribes⟩ :=
    findQuerySnippet_eq c.describes hname hmem hasExtension
  have hplain : '=' ∉ name := by
    obtain ⟨named, hnamed, rfl⟩ := List.mem_map.mp hmem
    exact fun hmem => (c.plain named hnamed _ hmem).1 rfl
  refine ⟨hasExtension', ?_⟩
  have hset := (hdescribes.leads hnot target).setValueAtPath_eq value
  simp [initField, plainPart, cutAtEq_append hplain, hrow, hset, assign, hfield, bind,
    Except.bind, pure, Except.pure]

theorem foldlM_initField {parts : List (Bytes × Bytes)}
    (hnames : ∀ part ∈ parts, part.1 ≠ "Extension".toList ∧ part.1 ∈ c.fields.map (·.name))
    (target : σ) (hasExtension : Bool) :
    ∃ hasExtension', (parts.map plainPart).foldlM (initField methods c.table)
        (c.object target, hasExtension) =
      .ok (c.object (parts.foldl (assign c.fields) target), hasExtension') := by
  induction parts generalizing target hasExtension with
  | nil => exact ⟨hasExtension, rfl⟩
  | cons part parts ih =>
    obtain ⟨⟨hname, hmem⟩, hrest⟩ := List.forall_mem_cons.mp hnames
    obtain ⟨hasExtension', hpart⟩ := c.initField_eq hname hmem target hasExtension
    obtain ⟨hasExtension'', hparts⟩ := ih hrest (assign c.fields target part) hasExtension'
    refine ⟨hasExtension'', ?_⟩
    rw [List.map_cons, List.foldlM_cons, hpart]
    exact hparts

/-- A record that reads the query of another one gets its fields one after the other. -/
theorem initFromQueryFields_eq {env : Env} (henv : env.Unescapes) {source : σ}
    (hbytes : ∀ part ∈ values c.fields source, ∀ c ∈ part.2, c.toNat < 256) (target : σ) :
    initFromQueryFields methods c.table (c.object target) (urlencodedToStrings env
        (['&'].intercalate ((values c.fields source).map escapedPart))) =
      .ok (c.object (c.fields.foldl (fun target field => field.carry source target) target)) := by
  have hfields : ∀ part ∈ values c.fields source, ∃ field ∈ c.fields, field.name = part.1 ∧
      (field.get source).isSome := by
    intro part hpart
    obtain ⟨field, hfield, hget⟩ := List.mem_filterMap.mp hpart
    obtain ⟨value, hvalue, rfl⟩ := Option.map_eq_some_iff.mp hget
    exact ⟨field, hfield, rfl, by simp [hvalue]⟩
  have hplain : ∀ part ∈ values c.fields source, ∀ c ∈ part.1,
      c ≠ '%' ∧ isSeparator c = false := by
    intro part hpart
    obtain ⟨field, hfield, hname, -⟩ := hfields part hpart
    exact hname ▸ fun c' hc' => (c.plain field hfield c' hc').2
  have hnames : ∀ part ∈ values c.fields source,
      part.1 ≠ "Extension".toList ∧ part.1 ∈ c.fields.map (·.name) := by
    intro part hpart
    obtain ⟨field, hfield, hname, hsome⟩ := hfields part hpart
    refine ⟨?_, hname ▸ List.mem_map_of_mem hfield⟩
    intro hext
    simp [no_extension c.describes hfield (hname.trans hext)] at hsome
  rw [urlencodedToStrings_intercalate henv hplain hbytes, ← foldl_assign_values c.names]
  split_ifs with hempty
  · rw [hempty]
    rfl
  · obtain ⟨hasExtension', hrun⟩ := c.foldlM_initField hnames target false
    simp only [initFromQueryFields, hrun, bind, Except.bind]
    rfl

end QueryCodec

end Lasso
