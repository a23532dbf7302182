import PhpCompletion.Text.Utf8
import Mathlib.Algebra.BigOperators.Group.List.Basic

/-! # UTF-8 of Unicode scalar values

A code point that is no surrogate and lies below `0x110000` is written as one UTF-8 sequence
that the reader takes back as that code point (`utf8Step_utf8Bytes`): the lead byte says the
width, and the second byte of a three- or four-byte sequence lies in the narrowed range that
keeps out overlong forms and surrogates. Reading the bytes of a text of such code points, even
leniently, gives the text back (`decodeLossy_encodeUtf8`).
-/

namespace PhpCompletion.Text

/-- A Unicode scalar value: a code point that is no surrogate. -/
def IsScalar (c : Nat) : Prop := c < 0xD800 ∨ 0xE000 ≤ c ∧ c < 0x110000

instance : DecidablePred IsScalar := fun c =>
  inferInstanceAs (Decidable (c < 0xD800 ∨ 0xE000 ≤ c ∧ c < 0x110000))

theorem utf8Step_utf8Bytes {c : Nat} (hc : IsScalar c) (rest : List Nat) :
    ∃ b bs, utf8Bytes c = b :: bs ∧ utf8Step b (bs ++ rest) = .point c (bs.length + 1) := by
  unfold IsScalar at hc
  by_cases one : c < 0x80
  · exact ⟨c, [], by simp [utf8Bytes, one], by simp [utf8Step, one]⟩
  by_cases two : c < 0x800
  · refine ⟨0xC0 + c / 64, [0x80 + c % 64], by simp [utf8Bytes, one, two], ?_⟩
    have lead : ¬(0xC0 + c / 64 < 0x80) ∧ ¬(0xC0 + c / 64 < 0xC2) ∧ ¬(0xF4 < 0xC0 + c / 64) ∧
        0xC0 + c / 64 < 0xE0 := by omega
    simp [utf8Step, isContinuation, lead]
    split_ifs <;> first | omega | (congr 1; omega)
  by_cases three : c < 0x10000
  · refine ⟨0xE0 + c / 4096, [0x80 + c / 64 % 64, 0x80 + c % 64],
      by simp [utf8Bytes, one, two, three], ?_⟩
    have lead : ¬(0xE0 + c / 4096 < 0x80) ∧ ¬(0xE0 + c / 4096 < 0xC2) ∧
        ¬(0xF4 < 0xE0 + c / 4096) ∧ ¬(0xE0 + c / 4096 < 0xE0) ∧ 0xE0 + c / 4096 < 0xF0 := by
      omega
    simp [utf8Step, isContinuation, within, lead]
    split_ifs <;> first | omega | (congr 1; omega)
  · refine ⟨0xF0 + c / 262144, [0x80 + c / 4096 % 64, 0x80 + c / 64 % 64, 0x80 + c % 64],
      by simp [utf8Bytes, one, two, three], ?_⟩
    have lead : ¬(0xF0 + c / 262144 < 0x80) ∧ ¬(0xF0 + c / 262144 < 0xC2) ∧
        ¬(0xF4 < 0xF0 + c / 262144) ∧ ¬(0xF0 + c / 262144 < 0xE0) ∧
        ¬(0xF0 + c / 262144 < 0xF0) := by
      omega
    simp [utf8Step, isContinuation, within, lead]
    split_ifs <;> first | omega | (congr 1; omega)

theorem utf8Bytes_ne_nil (c : Nat) : utf8Bytes c ≠ [] := by
  unfold utf8Bytes
  split_ifs <;> simp

theorem decodeLossyFrom_flatMap {cs : List Nat} (hcs : ∀ c ∈ cs, IsScalar c) :
    ∀ fuel, cs.length ≤ fuel → decodeLossyFrom fuel (cs.flatMap utf8Bytes) = cs := by
  induction cs with
  | nil =>
      intro fuel _
      cases fuel <;> rfl
  | cons c cs ih =>
      intro fuel hfuel
      obtain ⟨f, rfl⟩ : ∃ f, fuel = f + 1 := ⟨fuel - 1, by simp at hfuel; omega⟩
      obtain ⟨b, bs, hb, step⟩ := utf8Step_utf8Bytes (hcs c List.mem_cons_self)
        (cs.flatMap utf8Bytes)
      rw [List.flatMap_cons, hb, List.cons_append, decodeLossyFrom, step]
      simp only [List.drop_succ_cons, List.drop_left,
        ih (fun x hx => hcs x (List.mem_cons_of_mem c hx)) f (by simp at hfuel; omega)]

/-- The UTF-8 bytes of a text of scalar values read back as the text. -/
theorem decodeLossy_encodeUtf8 {t : Text} (h : ∀ c ∈ t.points, IsScalar c) :
    decodeLossy (encodeUtf8 t) = t := by
  have enough : t.points.length ≤ (t.points.flatMap utf8Bytes).length := by
    rw [List.length_flatMap, ← List.length_map (f := fun c => (utf8Bytes c).length)]
    apply List.length_le_sum_of_one_le
    intro n hn
    obtain ⟨c, -, rfl⟩ := List.mem_map.1 hn
    exact List.length_pos_of_ne_nil (utf8Bytes_ne_nil c)
  rw [decodeLossy, encodeUtf8, decodeLossyFrom_flatMap h _ enough]

end PhpCompletion.Text
