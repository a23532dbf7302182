import PhpCompletion.Proofs.Client.Query

/-! # Cursor offsets in bytes

The service reads its request as bytes and counts the cursor in bytes, while the editor counts
code points. A request gives the cursor as the UTF-8 length of the text before it, the sum of
one to four bytes for each code point by its size, a surrogate three bytes as if it had a UTF-8
form of its own (`Text.utf8Length`). That count is monotone in the offset and strictly
increasing over the text (`Offset.utf8Before_mono`, `Offset.utf8Before_lt`).

The process's input is written through a UTF-8 stream that replaces what it cannot encode, so a
surrogate reaches the service as the one byte of `?` (`Text.encodeReplacing`). The offset the
request gives thus counts two bytes more than the service receives for every surrogate before
the cursor, and the two agree exactly when there is none (`request_offset_counts_surrogates`,
`lone_surrogate_offset_overcounts`).
-/

namespace PhpCompletion

namespace Text

def IsSurrogate (c : Nat) : Prop := 0xD800 ≤ c ∧ c < 0xE000

instance : DecidablePred IsSurrogate := fun c =>
  inferInstanceAs (Decidable (0xD800 ≤ c ∧ c < 0xE000))

/-- The bytes a text is written as through a UTF-8 stream that replaces what it cannot encode:
a surrogate becomes `?`, every other code point its UTF-8 sequence. -/
def encodeReplacing (t : Text) : List Nat :=
  t.points.flatMap fun c => if IsSurrogate c then [0x3F] else utf8Bytes c

theorem length_utf8Bytes (c : Nat) : (utf8Bytes c).length = utf8Width c := by
  unfold utf8Bytes utf8Width
  by_cases one : c < 0x80
  · simp [one]
  by_cases two : c < 0x800
  · simp [one, two]
  by_cases three : c < 0x10000 <;> simp [one, two, three]

@[simp] theorem utf8Length_append (a b : Text) :
    (a ++ b).utf8Length = a.utf8Length + b.utf8Length := by
  simp only [utf8Length, points_append, List.foldr_append]
  generalize b.points.foldr (fun c n => utf8Width c + n) 0 = k
  induction a.points with
  | nil => simp
  | cons c cs ih =>
      simp only [List.foldr_cons, ih]
      omega

theorem length_encodeReplacing (t : Text) :
    (encodeReplacing t).length + 2 * t.points.countP (fun c => decide (IsSurrogate c)) =
      t.utf8Length := by
  obtain ⟨cs⟩ := t
  induction cs with
  | nil => rfl
  | cons c cs ih =>
      simp only [encodeReplacing, utf8Length, List.flatMap_cons, List.length_append,
        List.countP_cons, List.foldr_cons] at ih ⊢
      rw [← ih]
      by_cases hc : IsSurrogate c
      · have three : utf8Width c = 3 := by
          unfold IsSurrogate at hc
          rw [utf8Width, if_neg (by omega), if_neg (by omega), if_pos (by omega)]
        simp only [hc, if_true, decide_true, List.length_singleton, three]
        omega
      · simp only [hc, if_false, decide_false, Bool.false_eq_true, length_utf8Bytes]
        omega

theorem length_encodeReplacing_eq_iff (t : Text) :
    (encodeReplacing t).length = t.utf8Length ↔ ∀ c ∈ t.points, ¬IsSurrogate c := by
  rw [← length_encodeReplacing]
  constructor
  · intro same c hc surrogate
    have none : t.points.countP (fun c => decide (IsSurrogate c)) = 0 := by omega
    rw [List.countP_eq_zero] at none
    exact none c hc (decide_eq_true surrogate)
  · intro clear
    have none : t.points.countP (fun c => decide (IsSurrogate c)) = 0 := by
      rw [List.countP_eq_zero]
      intro c hc
      simpa using clear c hc
    omega

theorem utf8Length_take_le (t : Text) {n m : Nat} (h : n ≤ m) :
    (t.take n).utf8Length ≤ (t.take m).utf8Length := by
  obtain ⟨k, rfl⟩ : ∃ k, m = n + k := ⟨m - n, by omega⟩
  have split : t.take (n + k) = t.take n ++ ⟨(t.points.drop n).take k⟩ := by
    simp [take, List.take_add]
    rfl
  rw [split, utf8Length_append]
  omega

theorem utf8Length_take_lt (t : Text) {n m : Nat} (h : n < m) (hm : m ≤ t.length) :
    (t.take n).utf8Length < (t.take m).utf8Length := by
  obtain ⟨k, rfl⟩ : ∃ k, m = n + 1 + k := ⟨m - n - 1, by omega⟩
  have next : n < t.points.length := by simp only [length] at hm; omega
  have grow : (t.take (n + 1)).utf8Length = (t.take n).utf8Length + utf8Width (t.points[n]) := by
    have split : t.take (n + 1) = t.take n ++ single (t.points[n]) := by
      show (⟨t.points.take (n + 1)⟩ : Text) = ⟨t.points.take n ++ [t.points[n]]⟩
      rw [List.take_add_one, List.getElem?_eq_getElem next]
      rfl
    rw [split, utf8Length_append]
    rfl
  have wider := utf8Width_pos (t.points[n])
  have rest := utf8Length_take_le t (Nat.le_add_right (n + 1) k)
  omega

end Text

namespace Offset

theorem utf8Units_int (t : Text) (i : Int) : utf8Units t (.int i) = .ok (utf8Before t i) := by
  unfold utf8Units
  split
  · rename_i empty
    have noPoints : t.points = [] := by simpa [Text.isEmpty] using empty
    simp [utf8Before, Text.utf8Length, Text.take, noPoints]
  · rfl

theorem utf8Before_mono (t : Text) {i j : Int} (h : i ≤ j) : utf8Before t i ≤ utf8Before t j := by
  apply Text.utf8Length_take_le
  simp only [Symbol.clampOffset]
  omega

theorem utf8Before_lt (t : Text) {i j : Int} (hi : 0 ≤ i) (h : i < j) (hj : j ≤ t.length) :
    utf8Before t i < utf8Before t j := by
  apply Text.utf8Length_take_lt
  · simp only [Symbol.clampOffset]
    omega
  · simp only [Symbol.clampOffset]
    omega

theorem check_int {t : Text} {o : Nat} (h : o ≤ t.length) : check t (.int o) = .ok o := by
  simp [check, Json.toInteger_int, h]

end Offset

namespace Client

/-- The request of a query within the text gives the cursor as the sum of the byte widths of the
code points before it, a surrogate counted three bytes. Through a stream that writes each
surrogate as one byte, that is two bytes more than the service receives before the cursor for
each surrogate there, so the two agree exactly when no surrogate comes before the cursor. The
count in bytes is monotone in the offset and strictly increasing over the text. -/
theorem request_offset_counts_surrogates (c : Client) (room : Nat) (h : Host) (source : Text)
    (o : Nat) (ho : o ≤ source.length) :
    (c.query room h source (.int o)).2.runner.calls =
        h.runner.calls ++ [c.callFor h (Envelope.encode (.str (Text.ofString "complete"))
          (.obj [(Text.ofString "source", .str source),
            (Text.ofString "offset", .int (source.take o).utf8Length)]))] ∧
      (source.take o).utf8Length =
        (Text.encodeReplacing (source.take o)).length +
          2 * (source.take o).points.countP (fun p => decide (Text.IsSurrogate p)) ∧
      ((source.take o).utf8Length = (Text.encodeReplacing (source.take o)).length ↔
        ∀ p ∈ (source.take o).points, ¬Text.IsSurrogate p) ∧
      (∀ (t : Text) (i : Int), Offset.utf8Units t (.int i) =
        .ok (t.take (Symbol.clampOffset i t.length)).utf8Length) ∧
      (∀ (t : Text) (i j : Int), i ≤ j → Offset.utf8Before t i ≤ Offset.utf8Before t j) ∧
      (∀ (t : Text) (i j : Int), 0 ≤ i → i < j → j ≤ t.length →
        Offset.utf8Before t i < Offset.utf8Before t j) := by
  have within : Symbol.clampOffset (o : Int) source.length = o := by
    simp only [Symbol.clampOffset]
    omega
  refine ⟨?_, ?_, ?_, fun t i => Offset.utf8Units_int t i, fun t i j => Offset.utf8Before_mono t,
    fun t i j => Offset.utf8Before_lt t⟩
  · rw [query_of_check_ok c room h (Offset.check_int ho)]
    have offset : Offset.utf8Before source o = (source.take o).utf8Length := by
      rw [Offset.utf8Before, within]
    rw [request, offset]
    exact Runner.calls_run _ _
  · rw [Text.length_encodeReplacing]
  · rw [eq_comm]
    exact Text.length_encodeReplacing_eq_iff _

def idle : Client := ⟨Text.ofString "phpactor", Text.empty, minSeconds, 2, true⟩

def quietHost : Host := ⟨Disk.empty, ⟨[], .notStarted, [], false⟩⟩

theorem request_offset_counts_surrogates_sample :
    8 ≤ (Text.ofString "<?php $é").length ∧
      (idle.query 100 quietHost (Text.ofString "<?php $é") (.int (8 : Nat))).2.runner.calls =
        [idle.callFor quietHost (Envelope.encode (.str (Text.ofString "complete"))
          (.obj [(Text.ofString "source", .str (Text.ofString "<?php $é")),
            (Text.ofString "offset", .int 9)]))] := by
  have within : 8 ≤ (Text.ofString "<?php $é").length := by decide
  refine ⟨within, ?_⟩
  rw [(request_offset_counts_surrogates idle 100 quietHost _ 8 within).1]
  rfl

/-- A source of one lone surrogate with the cursor after it: the request gives the cursor as
three bytes, while the service receives the one byte of `?` before it. -/
theorem lone_surrogate_offset_overcounts :
    (idle.query 100 quietHost ⟨[0xD800]⟩ (.int 1)).2.runner.calls =
        [idle.callFor quietHost (Envelope.encode (.str (Text.ofString "complete"))
          (.obj [(Text.ofString "source", .str ⟨[0xD800]⟩), (Text.ofString "offset", .int 3)]))] ∧
      Text.encodeReplacing ((⟨[0xD800]⟩ : Text).take 1) = [0x3F] :=
  ⟨rfl, rfl⟩

end Client

end PhpCompletion
