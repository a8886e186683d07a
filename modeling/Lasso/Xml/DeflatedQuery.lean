import Lasso.Xml.MessageReader
import Lasso.Xml.QuerySign

/-!
# Deflated messages

A redirect message is deflated, encoded in base64 and escaped. The writer has a buffer of twice the
size of the text, the reader one of twenty times the size of the deflated data, and ends what it has
inflated with a zero byte.

## Main definitions

* `xmlnodeBuildDeflatedQuery` — `lasso_xmlnode_build_deflated_query`.
* `inflateTerminated`, `deflatedPartText` — what the reader does with its buffer.

## Main results

* `deflatedRoundTrip_iff` — which messages are read back.
-/

namespace Lasso

/-- The environment with the compressor. -/
structure DeflateEnv extends SigningEnv where
  /-- `deflate` with `Z_FINISH`, given the size of the buffer -/
  deflate : Bytes → Nat → Option Bytes

/-- `lasso_xmlnode_build_deflated_query`, given the text that the element is dumped to. -/
def xmlnodeBuildDeflatedQuery (env : DeflateEnv) (text : CString) : Option Bytes :=
  let inLen := text.val.length
  (env.deflate text.val (inLen * 2)).map fun deflated =>
    xmlUriEscapeStr (env.base64Encode deflated).val []

/-! ## The reader and its buffer -/

/-- What a function leaves in its buffer: nothing, a text, or a text whose zero byte is written
behind the end of the buffer. -/
inductive Inflated where
  | failed
  | overrun
  | text (text : Bytes)
deriving DecidableEq

/-- `lasso_inflate`, which writes a zero byte behind the output. -/
def inflateTerminated (env : Env) (input : Bytes) : Inflated :=
  match env.inflate input (input.length * 20) with
  | none => .failed
  | some output => if output.length < input.length * 20 then .text output else .overrun

/-- The text that `lasso_node_init_from_deflated_query_part` parses. -/
def deflatedPartText (env : Env) (deflateString : Bytes) : Inflated :=
  let b64 := env.uriUnescape deflateString
  let decoded := env.base64Decode b64 (b64.length * 4)
  if decoded.1 = -1 then .failed
  else
    match inflateTerminated env decoded.2 with
    | .text output => .text (cString output)
    | outcome => outcome

/-- The message is read back wherever it can be written. -/
def RoundTrips (env : DeflateEnv) (text : CString) : Prop :=
  ∀ query, xmlnodeBuildDeflatedQuery env text = some query →
    deflatedPartText env.toEnv query = .text text.val

/-- The codecs read what they have written, if their buffers are large enough. -/
structure DeflateEnv.Documented (env : DeflateEnv) : Prop where
  unescapes : env.Unescapes
  decodes : ∀ s size, s ≠ [] → (∀ c ∈ s, c.toNat < 256) → s.length < size →
    env.base64Decode (env.base64Encode s).val size = ((s.length : Int), s)
  encodes : ∀ s, s.length ≤ (env.base64Encode s).val.length
  deflated : ∀ text size z, env.deflate text size = some z → z ≠ [] ∧ ∀ c ∈ z, c.toNat < 256
  inflates : ∀ text size z room, env.deflate text size = some z → text.length < room →
    env.inflate z room = some text
  /-- Without enough room, nothing is inflated. -/
  inflated : ∀ text size z room output, env.deflate text size = some z →
    env.inflate z room = some output → output = text

section

variable {env : Env} {α : Type*} {initFromXml : α → Option XmlNode → Rc × α} {node : α}
  {deflateString text : Bytes}

/-- A node is initialised from the text that is left in the buffer. -/
theorem initFromDeflatedQueryPart_of_text (h : deflatedPartText env deflateString = .text text) :
    initFromDeflatedQueryPart env initFromXml node deflateString =
      (true, (initFromXml node (env.parseMemory text)).2) := by
  unfold deflatedPartText inflateTerminated at h
  unfold initFromDeflatedQueryPart lassoInflate
  dsimp only at h ⊢
  split_ifs at h ⊢
  generalize env.inflate _ _ = output at h ⊢
  cases output with
  | none => cases h
  | some output =>
    dsimp only at h ⊢
    split_ifs at h
    cases h
    rfl

theorem initFromDeflatedQueryPart_of_failed (h : deflatedPartText env deflateString = .failed) :
    initFromDeflatedQueryPart env initFromXml node deflateString = (false, node) := by
  unfold deflatedPartText inflateTerminated at h
  unfold initFromDeflatedQueryPart lassoInflate
  dsimp only at h ⊢
  split_ifs at h ⊢
  · rfl
  · generalize env.inflate _ _ = output at h ⊢
    cases output with
    | none => rfl
    | some output =>
      dsimp only at h
      split_ifs at h

end

/-! ## The messages that are read back -/

section

variable {env : DeflateEnv} {text : CString} {z : Bytes}

theorem CString.cString_val (text : CString) : cString text.val = text.val := by
  apply cString_eq_self_iff.mpr
  intro hzero
  exact (text.property _ hzero).1 rfl

/-- The reader inflates what the writer has deflated. -/
theorem deflatedPartText_written (henv : env.Documented) {size : Nat}
    (hz : env.deflate text.val size = some z) :
    deflatedPartText env.toEnv (xmlUriEscapeStr (env.base64Encode z).val []) =
      match inflateTerminated env.toEnv z with
      | .text output => .text (cString output)
      | outcome => outcome := by
  obtain ⟨hne, hbytes⟩ := henv.deflated _ _ _ hz
  have hunescape := uriUnescape_xmlUriEscapeStr henv.unescapes
    (fun c hc => ((env.base64Encode z).property c hc).2)
  have hpos : 0 < z.length := List.length_pos_iff.mpr hne
  have hlength := henv.encodes z
  have hdecode := henv.decodes z ((env.base64Encode z).val.length * 4) hne hbytes (by omega)
  unfold deflatedPartText
  rw [hunescape]
  dsimp only
  rw [hdecode, if_neg (by simp)]

/-- The buffer of the reader must have room for the text and the zero byte behind it. -/
theorem inflateTerminated_deflated (henv : env.Documented) {size : Nat}
    (hz : env.deflate text.val size = some z) :
    inflateTerminated env.toEnv z = .text text.val ↔ text.val.length < 20 * z.length := by
  unfold inflateTerminated
  constructor
  · intro h
    cases hinflate : env.inflate z (z.length * 20) with
    | none =>
      rw [hinflate] at h
      cases h
    | some output =>
      obtain rfl := henv.inflated _ _ _ _ _ hz hinflate
      rw [hinflate] at h
      dsimp only at h
      split_ifs at h
      omega
  · intro hlt
    rw [henv.inflates _ _ _ _ hz (by omega)]
    dsimp only
    rw [if_pos (by omega)]

/-- What comes out of the buffer is the text, if anything does. -/
theorem inflateTerminated_eq_text (henv : env.Documented) {size : Nat}
    (hz : env.deflate text.val size = some z) {output : Bytes}
    (h : inflateTerminated env.toEnv z = .text output) : output = text.val := by
  unfold inflateTerminated at h
  cases hinflate : env.inflate z (z.length * 20) with
  | none =>
    rw [hinflate] at h
    cases h
  | some inflated =>
    rw [hinflate] at h
    dsimp only at h
    split_ifs at h
    cases h
    exact henv.inflated _ _ _ _ _ hz hinflate

theorem deflatedPartText_eq_text_iff (henv : env.Documented) {size : Nat}
    (hz : env.deflate text.val size = some z) :
    deflatedPartText env.toEnv (xmlUriEscapeStr (env.base64Encode z).val []) = .text text.val ↔
      text.val.length < 20 * z.length := by
  rw [deflatedPartText_written henv hz, ← inflateTerminated_deflated henv hz]
  cases hinflated : inflateTerminated env.toEnv z with
  | text output =>
    rw [inflateTerminated_eq_text henv hz hinflated]
    simp [CString.cString_val]
  | _ => simp

theorem xmlnodeBuildDeflatedQuery_of_deflate
    (hz : env.deflate text.val (text.val.length * 2) = some z) :
    xmlnodeBuildDeflatedQuery env text =
      some (xmlUriEscapeStr (env.base64Encode z).val []) := by
  unfold xmlnodeBuildDeflatedQuery
  dsimp only
  rw [hz, Option.map_some]

/-- A message is read back just when it is shorter than twenty times its deflated data. -/
theorem deflatedRoundTrip_iff (henv : env.Documented) (text : CString) :
    RoundTrips env text ↔
      ∀ z, env.deflate text.val (text.val.length * 2) = some z →
        text.val.length < 20 * z.length := by
  constructor
  · intro h z hz
    exact (deflatedPartText_eq_text_iff henv hz).mp (h _ (xmlnodeBuildDeflatedQuery_of_deflate hz))
  · intro h query hquery
    obtain ⟨z, hz, rfl⟩ := Option.map_eq_some_iff.mp hquery
    exact (deflatedPartText_eq_text_iff henv hz).mpr (h z hz)

end

/-! ## A message that compresses well -/

/-- An empty element, and the bytes that zlib deflates it to. -/
def shortMessage : Bytes × Bytes :=
  ("<a></a>".toList, [179, 73, 180, 179, 209, 79, 180, 3, 0].map Char.ofNat)

/-- An element with 300 letters, and the 13 bytes that zlib deflates it to. -/
def longMessage : Bytes × Bytes :=
  ("<a>".toList ++ List.replicate 300 'a' ++ "</a>".toList,
    [179, 73, 180, 75, 28, 5, 68, 3, 27, 253, 68, 59, 0].map Char.ofNat)

/-- The compressor for these two messages. -/
def deflateEnv : DeflateEnv :=
  { signingEnv with
    uriUnescape := percentDecode
    base64Encode := fun s => ⟨Base64.encode (s.map Char.toNat), cString_encode_text s⟩
    base64Decode := base64DecodeLines
    deflate := fun text size =>
      ([shortMessage, longMessage].find? fun m => m.1 = text ∧ m.2.length ≤ size).map (·.2)
    inflate := fun z size =>
      ([shortMessage, longMessage].find? fun m => m.2 = z ∧ m.1.length ≤ size).map (·.1) }

theorem eq_message_of_find? {p : Bytes × Bytes → Bool} {m : Bytes × Bytes}
    (h : [shortMessage, longMessage].find? p = some m) :
    p m = true ∧ (m = shortMessage ∨ m = longMessage) :=
  ⟨List.find?_some h, by simpa using List.mem_of_find?_eq_some h⟩

theorem deflateEnv_deflate {text : Bytes} {size : Nat} {z : Bytes}
    (h : deflateEnv.deflate text size = some z) :
    (text, z) = shortMessage ∨ (text, z) = longMessage := by
  obtain ⟨m, hm, rfl⟩ := Option.map_eq_some_iff.mp h
  obtain ⟨hfound, hmem⟩ := eq_message_of_find? hm
  obtain ⟨rfl, -⟩ := of_decide_eq_true hfound
  exact hmem

theorem deflateEnv_inflate {z : Bytes} {size : Nat} {text : Bytes}
    (h : deflateEnv.inflate z size = some text) :
    (text, z) = shortMessage ∨ (text, z) = longMessage := by
  obtain ⟨m, hm, rfl⟩ := Option.map_eq_some_iff.mp h
  obtain ⟨hfound, hmem⟩ := eq_message_of_find? hm
  obtain ⟨rfl, -⟩ := of_decide_eq_true hfound
  exact hmem

theorem shortMessage_ne_longMessage : shortMessage.2 ≠ longMessage.2 := by decide

theorem bytes_of_all {z : Bytes} (h : (z.all fun c => c.toNat < 256) = true) :
    ∀ c ∈ z, c.toNat < 256 := by
  simpa only [List.all_eq_true, decide_eq_true_eq] using h

theorem deflateEnv_documented : deflateEnv.Documented where
  unescapes := unescapes_percentDecode rfl
  decodes s size hne hbytes hsize := base64DecodeLines_encode hbytes hsize.le
  encodes s := by
    have hle := Base64.length_le_encode (s.map Char.toNat)
    rw [List.length_map] at hle
    exact hle
  deflated text size z h := by
    rcases deflateEnv_deflate h with hm | hm
    · cases hm
      exact ⟨by decide, bytes_of_all (by decide)⟩
    · cases hm
      exact ⟨by decide, bytes_of_all (by decide)⟩
  inflates text size z room h hroom := by
    have hne := shortMessage_ne_longMessage
    rcases deflateEnv_deflate h with hm | hm
    · obtain ⟨rfl, rfl⟩ := Prod.ext_iff.mp hm
      have hfits : shortMessage.1.length ≤ room := hroom.le
      simp only [deflateEnv]
      rw [List.find?_cons_of_pos (by simp [hfits]), Option.map_some]
    · obtain ⟨rfl, rfl⟩ := Prod.ext_iff.mp hm
      have hfits : longMessage.1.length ≤ room := hroom.le
      simp only [deflateEnv]
      rw [List.find?_cons_of_neg (by simp [hne]), List.find?_cons_of_pos (by simp [hfits]),
        Option.map_some]
  inflated text size z room output h houtput := by
    have hne := shortMessage_ne_longMessage
    rcases deflateEnv_deflate h with hm | hm <;> rcases deflateEnv_inflate houtput with hi | hi
    · exact congrArg Prod.fst (hi.trans hm.symm)
    · exact absurd ((Prod.ext_iff.mp hm).2.symm.trans (Prod.ext_iff.mp hi).2) hne
    · exact absurd ((Prod.ext_iff.mp hi).2.symm.trans (Prod.ext_iff.mp hm).2) hne
    · exact congrArg Prod.fst (hi.trans hm.symm)

theorem cString_of_message {b : Bytes} (h : b = shortMessage.1 ∨ b = longMessage.1) :
    ∀ c ∈ b, c ≠ '\x00' ∧ c.toNat < 256 := by
  rcases h with rfl | rfl
  · exact cString_of_all (by decide)
  · exact cString_of_all (by decide +kernel)

theorem deflatedRoundTrip_iff_shortMessage :
    RoundTrips deflateEnv ⟨shortMessage.1, cString_of_message (.inl rfl)⟩ := by
  apply (deflatedRoundTrip_iff deflateEnv_documented _).mpr
  intro z hz
  obtain rfl : shortMessage.2 = z := Option.some.inj hz
  decide

/-- The reader gives up on a message that the writer has made, of 307 bytes in 13. -/
theorem longMessage_lost :
    ¬ ∀ (env : DeflateEnv), env.Documented → ∀ text : CString, RoundTrips env text := by
  intro h
  let text : CString := ⟨longMessage.1, cString_of_message (.inr rfl)⟩
  have hz : deflateEnv.deflate text.val (text.val.length * 2) = some longMessage.2 := by
    decide +kernel
  have hread := h deflateEnv deflateEnv_documented text _
    (xmlnodeBuildDeflatedQuery_of_deflate hz)
  have hlt := (deflatedPartText_eq_text_iff deflateEnv_documented hz).mp hread
  revert hlt
  decide +kernel

end Lasso
