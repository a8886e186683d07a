import Mathlib.Algebra.Group.Nat.Defs
import Lasso.Library.Buffer
import Lasso.Xml.DeflatedQuery
import Lasso.Xml.NodeClass

/-!
# The buffer of the inflated data

`lasso_inflate` allocates twenty times the length of its input and offers all of it to `inflate`, in
an integer of 32 bits. The zero byte is written behind what was inflated, without room kept for it.

## Main definitions

* `outputSize`, `inflateStream` — the size of the buffer, and what zlib makes of the input.
* `inflateBuffer` — `lasso_inflate` with the cells of its buffer.
* `FillsBuffer` — the inflated data take all of the buffer.

## Main results

* `inflateBuffer_returns_iff` — the zero byte is inside unless they do.
* `inflateBuffer_eq_inflateTerminated` — short inputs are inflated as in the model of the messages.
-/

namespace Lasso

open Outcome

/-- `len*20` in a `size_t` -/
def outputSize (len : Nat) : Nat := len * 20 % 2 ^ 64

/-- A `size_t` that is assigned to an `uInt`. -/
def cutToUInt (size : Nat) : Nat := size % 2 ^ 32

/-- The stream, with `avail_in` bytes of the input and `avail_out` bytes of room. For no bytes
`g_malloc` gives NULL, and zlib refuses a stream without an output buffer. -/
def inflateStream (env : Env) (input : Bytes) : Option Bytes :=
  if outputSize input.length = 0 then none
  else env.inflate (input.take (cutToUInt input.length)) (cutToUInt (outputSize input.length))

/-- `lasso_inflate`: the cells of the buffer it returns, or NULL -/
def inflateBuffer (env : Env) (input : Bytes) : Except Fault (Option (List (Option Char))) :=
  match inflateStream env input with
  | none => .ok none
  | some output => do
    let cells ← Buffer.writeAll .overrun 0 output (Buffer.alloc (outputSize input.length))
    -- `output[zstr.total_out] = 0`
    let cells ← Buffer.write .overrun output.length '\x00' cells
    return some cells

/-- zlib stays inside the room it is given. -/
def Env.InflatesWithin (env : Env) : Prop :=
  ∀ z room output, env.inflate z room = some output → output.length ≤ room

/-- The inflated data take all of the buffer. -/
def FillsBuffer (env : Env) (input : Bytes) : Prop :=
  ∃ output, inflateStream env input = some output ∧ output.length = outputSize input.length

section

variable {env : Env} {input output : Bytes}

theorem cutToUInt_le (size : Nat) : cutToUInt size ≤ size := Nat.mod_le _ _

theorem length_le_cutToUInt (henv : env.InflatesWithin)
    (h : inflateStream env input = some output) :
    output.length ≤ cutToUInt (outputSize input.length) := by
  unfold inflateStream at h
  split_ifs at h
  exact henv _ _ _ h

theorem length_le_outputSize (henv : env.InflatesWithin)
    (h : inflateStream env input = some output) : output.length ≤ outputSize input.length :=
  (length_le_cutToUInt henv h).trans (cutToUInt_le _)

/-- The room that is offered is less than a buffer that passes 32 bits. -/
theorem not_fillsBuffer_of_le (henv : env.InflatesWithin) (h : 2 ^ 32 ≤ outputSize input.length) :
    ¬ FillsBuffer env input := by
  rintro ⟨output, hstream, hlength⟩
  have hle := length_le_cutToUInt henv hstream
  have hlt : cutToUInt (outputSize input.length) < 2 ^ 32 := Nat.mod_lt _ (by decide)
  omega

theorem inflateBuffer_of_none (h : inflateStream env input = none) :
    inflateBuffer env input = .ok none := by rw [inflateBuffer, h]

/-- What is inflated stands at the start of the buffer, the zero byte behind it. -/
theorem inflateBuffer_of_lt (h : inflateStream env input = some output)
    (hlt : output.length < outputSize input.length) :
    inflateBuffer env input = .ok (some (output.map some ++ some '\x00' ::
      Buffer.alloc (outputSize input.length - output.length - 1))) := by
  have hset : (output.map some ++ (Buffer.alloc (outputSize input.length)).drop output.length).set
      output.length (some '\x00') = output.map some ++ some '\x00' ::
        Buffer.alloc (outputSize input.length - output.length - 1) := by
    have hsize : outputSize input.length - output.length =
        outputSize input.length - output.length - 1 + 1 := by omega
    rw [List.set_append_right _ _ (by simp), List.length_map, Nat.sub_self, Buffer.alloc,
      List.drop_replicate, hsize, List.replicate_succ]
    rfl
  rw [inflateBuffer, h]
  dsimp only
  rw [Buffer.writeAll_of_le (by rw [Buffer.length_alloc]; omega), ok_bind, List.take_zero,
    List.nil_append, Nat.zero_add, Buffer.write_of_lt, ok_bind, hset]
  · rfl
  · rw [List.length_append, List.length_map, List.length_drop, Buffer.length_alloc]
    omega

theorem inflateBuffer_of_fills (h : inflateStream env input = some output)
    (hfull : output.length = outputSize input.length) :
    inflateBuffer env input = .error .overrun := by
  rw [inflateBuffer, h]
  dsimp only
  rw [Buffer.writeAll_of_le (by rw [Buffer.length_alloc]; omega), ok_bind, List.take_zero,
    List.nil_append, Nat.zero_add, Buffer.write_of_le, error_bind]
  rw [List.length_append, List.length_map, List.length_drop, Buffer.length_alloc]
  omega

/-- Nothing is written outside of the buffer unless the inflated data take all of it. -/
theorem inflateBuffer_returns_iff (henv : env.InflatesWithin) (input : Bytes) :
    Returns (inflateBuffer env input) ↔ ¬ FillsBuffer env input := by
  cases hstream : inflateStream env input with
  | none =>
    rw [inflateBuffer_of_none hstream]
    simp [FillsBuffer, hstream]
  | some output =>
    have hfills : FillsBuffer env input ↔ output.length = outputSize input.length := by
      simp [FillsBuffer, hstream]
    rw [hfills]
    rcases (length_le_outputSize henv hstream).lt_or_eq with hlt | hfull
    · rw [inflateBuffer_of_lt hstream hlt]
      exact iff_of_true (returns_ok _) hlt.ne
    · rw [inflateBuffer_of_fills hstream hfull]
      exact iff_of_false (not_returns_error _) (not_not_intro hfull)

/-- A short input is inflated as in the model of the messages. -/
theorem inflateBuffer_eq_inflateTerminated (henv : env.InflatesWithin) (hne : input ≠ [])
    (hshort : input.length * 20 < 2 ^ 32) :
    inflateBuffer env input =
      match inflateTerminated env input with
      | .failed => .ok none
      | .overrun => .error .overrun
      | .text output => .ok (some (output.map some ++ some '\x00' ::
          Buffer.alloc (input.length * 20 - output.length - 1))) := by
  have hpos : 0 < input.length := List.length_pos_iff.mpr hne
  have hsize : outputSize input.length = input.length * 20 := Nat.mod_eq_of_lt (by omega)
  have hstream : inflateStream env input = env.inflate input (input.length * 20) := by
    unfold inflateStream cutToUInt
    rw [hsize, if_neg (by omega), Nat.mod_eq_of_lt hshort, Nat.mod_eq_of_lt (by omega),
      List.take_length]
  unfold inflateTerminated
  rw [← hstream, ← hsize]
  cases hinflated : inflateStream env input with
  | none => exact inflateBuffer_of_none hinflated
  | some output =>
    dsimp only
    have hle := length_le_outputSize henv hinflated
    split_ifs with hlt
    · exact inflateBuffer_of_lt hinflated hlt
    · exact inflateBuffer_of_fills hinflated (Nat.le_antisymm hle (Nat.not_lt.mp hlt))

end

/-! ## A stream that fills its buffer -/

/-- A hundred letters, and the five bytes that zlib deflates them to. -/
def hundredLetters : Bytes × Bytes :=
  (List.replicate 100 'a', [75, 164, 3, 0, 0].map Char.ofNat)

/-- One letter, and the three bytes that zlib deflates it to. -/
def oneLetter : Bytes × Bytes := (['x'], [171, 0, 0].map Char.ofNat)

/-- The environment that inflates these two. -/
def lettersEnv : Env :=
  { messageEnv with
    inflate := fun z size =>
      ([oneLetter, hundredLetters].find? fun m => m.2 = z ∧ m.1.length ≤ size).map (·.1) }

theorem lettersEnv_inflatesWithin : lettersEnv.InflatesWithin := by
  intro z room output h
  obtain ⟨m, hm, rfl⟩ := Option.map_eq_some_iff.mp h
  have hfound := List.find?_some hm
  exact (of_decide_eq_true hfound).2

theorem inflateBuffer_returns_iff_oneLetter :
    Returns (inflateBuffer lettersEnv oneLetter.2) := by
  apply (inflateBuffer_returns_iff lettersEnv_inflatesWithin oneLetter.2).mpr
  rintro ⟨output, hstream, hlength⟩
  obtain rfl : oneLetter.1 = output := Option.some.inj hstream
  revert hlength
  decide

/-- The zero byte behind a hundred letters is written outside of the hundred cells. -/
theorem inflateBuffer_overrun :
    ¬ (∀ env : Env, env.InflatesWithin → ∀ input, Returns (inflateBuffer env input)) ∧
    inflateBuffer lettersEnv hundredLetters.2 = .error .overrun := by
  have hoverrun : inflateBuffer lettersEnv hundredLetters.2 = .error .overrun := by
    have hstream : inflateStream lettersEnv hundredLetters.2 = some hundredLetters.1 := rfl
    exact inflateBuffer_of_fills hstream rfl
  refine ⟨fun h => ?_, hoverrun⟩
  have hreturns := h lettersEnv lettersEnv_inflatesWithin hundredLetters.2
  rw [hoverrun] at hreturns
  exact not_returns_error _ hreturns

end Lasso
