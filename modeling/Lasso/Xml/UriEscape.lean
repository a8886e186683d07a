import Lasso.Xml.RelayState

/-!
# Escaped strings

`xmlUriEscapeStr` leaves the unreserved characters as they are and writes every other byte as `%`
and two hexadecimal digits. What it writes contains no separator of a query string, and
`xmlURIUnescapeString` reads it back.
-/

namespace Lasso

/-- A byte string as C has it: without the zero byte. -/
abbrev CString := { b : Bytes // ∀ c ∈ b, c ≠ '\x00' ∧ c.toNat < 256 }

theorem cString_of_all {b : Bytes} (h : b.all fun c => c ≠ '\x00' ∧ c.toNat < 256) :
    ∀ c ∈ b, c ≠ '\x00' ∧ c.toNat < 256 := by
  simpa only [List.all_eq_true, decide_eq_true_eq] using h

def upperHexDigit (n : Nat) : Char :=
  Char.ofNat (if n > 9 then 'A'.toNat + n - 10 else '0'.toNat + n)

def percentEscape (c : Char) : Bytes :=
  ['%', upperHexDigit (c.toNat / 16), upperHexDigit (c.toNat % 16)]

/-- The characters that `lasso_xmlURIEscapeStr` copies: the unreserved ones and those in `list`. -/
def isCopied (list : Bytes) (c : Char) : Bool :=
  c.isAlphanum || "._~-".toList.contains c || list.contains c

/-- `lasso_xmlURIEscapeStr` -/
def xmlUriEscapeStr (str list : Bytes) : Bytes :=
  str.flatMap fun c => if isCopied list c then [c] else percentEscape c

/-- `xmlURIUnescapeString` reads a percent sign and two hexadecimal digits as a byte, copies every
other character, and gives an empty string for an empty one. -/
structure Env.Unescapes (env : Env) : Prop where
  copies : env.CopiesPlain
  percent : ∀ c s, c.toNat < 256 → env.uriUnescape (percentEscape c ++ s) = c :: env.uriUnescape s
  empty : env.uriUnescape [] = []

@[simp] theorem xmlUriEscapeStr_nil (list : Bytes) : xmlUriEscapeStr [] list = [] := rfl

theorem xmlUriEscapeStr_cons (c : Char) (str list : Bytes) :
    xmlUriEscapeStr (c :: str) list =
      (if isCopied list c then [c] else percentEscape c) ++ xmlUriEscapeStr str list := rfl

theorem upperHexDigit_isAlphanum {n : Nat} (h : n < 16) : (upperHexDigit n).isAlphanum = true := by
  revert n
  decide

/-- A character that the function writes. -/
def IsEscaped (c : Char) : Prop := c.isAlphanum = true ∨ c ∈ "._~-%".toList

theorem IsEscaped.not_separator {c : Char} (h : IsEscaped c) : isSeparator c = false := by
  rcases h with halnum | hmem
  · cases hsep : isSeparator c with
    | false => rfl
    | true =>
      rcases Bool.or_eq_true_iff.mp hsep with hamp | hsemi
      · obtain rfl := eq_of_beq hamp
        revert halnum
        decide
      · obtain rfl := eq_of_beq hsemi
        revert halnum
        decide
  · exact not_separator_of_any (by decide) c hmem

theorem isEscaped_of_mem {str : Bytes} (hbytes : ∀ c ∈ str, c.toNat < 256) {c : Char}
    (h : c ∈ xmlUriEscapeStr str []) : IsEscaped c := by
  obtain ⟨b, hb, hc⟩ := List.mem_flatMap.mp h
  split at hc
  · rename_i hcopied
    obtain rfl := List.mem_singleton.mp hc
    simp only [isCopied, List.contains_nil, Bool.or_false, Bool.or_eq_true,
      List.contains_iff_mem] at hcopied
    exact hcopied.imp id fun hmem => List.mem_append_left ['%'] hmem
  · have hlt := hbytes b hb
    rcases List.mem_cons.mp hc with rfl | hdigit
    · exact .inr (by decide)
    · left
      rcases List.mem_cons.mp hdigit with rfl | hlow
      · exact upperHexDigit_isAlphanum (by omega)
      · obtain rfl := List.mem_singleton.mp hlow
        exact upperHexDigit_isAlphanum (by omega)

/-- What was escaped is read back, whatever stands behind it. -/
theorem uriUnescape_append {env : Env} (henv : env.Unescapes) {str : Bytes}
    (hbytes : ∀ c ∈ str, c.toNat < 256) (rest : Bytes) :
    env.uriUnescape (xmlUriEscapeStr str [] ++ rest) = str ++ env.uriUnescape rest := by
  induction str with
  | nil => rfl
  | cons c str ih =>
    have hrest := ih fun b hb => hbytes b (List.mem_cons_of_mem c hb)
    rw [xmlUriEscapeStr_cons]
    split
    · rename_i hcopied
      have hne : c ≠ '%' := by
        rintro rfl
        revert hcopied
        decide
      rw [List.append_assoc, List.singleton_append, henv.copies _ _ hne, hrest, List.cons_append]
    · rw [List.append_assoc, henv.percent _ _ (hbytes c List.mem_cons_self), hrest,
        List.cons_append]

theorem uriUnescape_xmlUriEscapeStr {env : Env} (henv : env.Unescapes) {str : Bytes}
    (hbytes : ∀ c ∈ str, c.toNat < 256) : env.uriUnescape (xmlUriEscapeStr str []) = str := by
  have happend := uriUnescape_append henv hbytes []
  rwa [List.append_nil, henv.empty, List.append_nil] at happend

theorem hexDigit_upperHexDigit {n : Nat} (h : n < 16) :
    percentDecode.hexDigit (upperHexDigit n) = n := by
  revert n
  decide

/-- The documented behaviour is that of the function that decodes two-digit escapes. -/
theorem unescapes_percentDecode {env : Env} (h : env.uriUnescape = percentDecode) :
    env.Unescapes where
  copies c s hc := by rw [h, percentDecode_cons hc]
  percent c s hc := by
    rw [h, percentEscape, List.cons_append, List.cons_append, List.singleton_append, percentDecode,
      hexDigit_upperHexDigit (by omega), hexDigit_upperHexDigit (by omega), Nat.div_add_mod,
      Char.ofNat_toNat]
  empty := by rw [h, percentDecode]

end Lasso
