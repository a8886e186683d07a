import Mathlib.Data.List.Basic

/-!
# Base64

Three bytes are written as four letters of six bits each, and a last group that is not full is
padded with `=`. Bytes are numbers below 256.
-/

namespace Base64

/-- The letters, in the order of their values. -/
def alphabet : List Char :=
  "ABCDEFGHIJKLMNOPQRSTUVWXYZabcdefghijklmnopqrstuvwxyz0123456789+/".toList

/-- The letter for six bits. -/
def letter (n : Nat) : Char := alphabet.getD n '='

/-- The six bits of a letter. -/
def sextet (c : Char) : Option Nat := alphabet.idxOf? c

/-- The code of a sequence of bytes. -/
def encode : List Nat → List Char
  | [] => []
  | [a] => [letter (a / 4), letter (a % 4 * 16), '=', '=']
  | [a, b] => [letter (a / 4), letter (a % 4 * 16 + b / 16), letter (b % 16 * 4), '=']
  | a :: b :: c :: rest =>
    letter (a / 4) :: letter (a % 4 * 16 + b / 16) :: letter (b % 16 * 4 + c / 64) ::
      letter (c % 64) :: encode rest

/-- The bytes of four letters, the last two of which may be padding. -/
def group (c₁ c₂ c₃ c₄ : Char) : Option (List Nat) :=
  match sextet c₁, sextet c₂, sextet c₃, sextet c₄ with
  | some a, some b, some c, some d => some [a * 4 + b / 16, b % 16 * 16 + c / 4, c % 4 * 64 + d]
  | some a, some b, some c, none =>
    if c₄ = '=' then some [a * 4 + b / 16, b % 16 * 16 + c / 4] else none
  | some a, some b, none, none => if c₃ = '=' ∧ c₄ = '=' then some [a * 4 + b / 16] else none
  | _, _, _, _ => none

/-- The bytes that a string is the code of. -/
def decode : List Char → Option (List Nat)
  | [] => some []
  | c₁ :: c₂ :: c₃ :: c₄ :: rest =>
    (group c₁ c₂ c₃ c₄).bind fun bytes => (decode rest).map (bytes ++ ·)
  | _ => none

theorem sextet_letter {n : Nat} (h : n < 64) : sextet (letter n) = some n := by
  revert n
  decide

theorem sextet_padding : sextet '=' = none := by decide

theorem letter_mem {n : Nat} (h : n < 64) : letter n ∈ alphabet := by
  revert n
  decide

/-- A letter of the code, or the padding. -/
def IsCode (c : Char) : Prop := c ∈ alphabet ∨ c = '='

theorem isCode_letter (n : Nat) : IsCode (letter n) := by
  rcases Nat.lt_or_ge n 64 with hlt | hge
  · exact .inl (letter_mem hlt)
  · right
    rw [letter, List.getD_eq_getElem?_getD, List.getElem?_eq_none hge, Option.getD_none]

theorem isCode_of_mem_encode {bytes : List Nat} {c : Char} (h : c ∈ encode bytes) : IsCode c := by
  induction bytes using encode.induct with
  | case1 => cases h
  | case2 a =>
    simp only [encode, List.mem_cons, List.not_mem_nil, or_false] at h
    rcases h with rfl | rfl | rfl | rfl
    · exact isCode_letter _
    · exact isCode_letter _
    · exact .inr rfl
    · exact .inr rfl
  | case3 a b =>
    simp only [encode, List.mem_cons, List.not_mem_nil, or_false] at h
    rcases h with rfl | rfl | rfl | rfl
    · exact isCode_letter _
    · exact isCode_letter _
    · exact isCode_letter _
    · exact .inr rfl
  | case4 a b d rest ih =>
    simp only [encode, List.mem_cons] at h
    rcases h with rfl | rfl | rfl | rfl | h
    · exact isCode_letter _
    · exact isCode_letter _
    · exact isCode_letter _
    · exact isCode_letter _
    · exact ih h

theorem length_le_encode (bytes : List Nat) : bytes.length ≤ (encode bytes).length := by
  induction bytes using encode.induct with
  | case1 => simp [encode]
  | case2 a => simp [encode]
  | case3 a b => simp [encode]
  | case4 a b c rest ih =>
    simp only [encode, List.length_cons]
    omega

/-- What was encoded is decoded again. -/
theorem decode_encode {bytes : List Nat} (h : ∀ b ∈ bytes, b < 256) :
    decode (encode bytes) = some bytes := by
  induction bytes using encode.induct with
  | case1 => rfl
  | case2 a =>
    have ha : a < 256 := h a (by simp)
    simp only [encode, decode, group, sextet_letter (show a / 4 < 64 by omega),
      sextet_letter (show a % 4 * 16 < 64 by omega), sextet_padding]
    simp
    omega
  | case3 a b =>
    have ha : a < 256 := h a (by simp)
    have hb : b < 256 := h b (by simp)
    simp only [encode, decode, group, sextet_letter (show a / 4 < 64 by omega),
      sextet_letter (show a % 4 * 16 + b / 16 < 64 by omega),
      sextet_letter (show b % 16 * 4 < 64 by omega), sextet_padding]
    simp
    omega
  | case4 a b c rest ih =>
    have ha : a < 256 := h a (by simp)
    have hb : b < 256 := h b (by simp)
    have hc : c < 256 := h c (by simp)
    have hrest := ih fun d hd => h d (by simp [hd])
    simp only [encode, decode, group, sextet_letter (show a / 4 < 64 by omega),
      sextet_letter (show a % 4 * 16 + b / 16 < 64 by omega),
      sextet_letter (show b % 16 * 4 + c / 64 < 64 by omega),
      sextet_letter (show c % 64 < 64 by omega), hrest]
    simp
    omega

end Base64
