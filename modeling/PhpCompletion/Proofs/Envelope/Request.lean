import PhpCompletion.Envelope
import PhpCompletion.Proofs.Json.RoundTrip
import PhpCompletion.Proofs.Text.Utf8

/-! # A request reads back as what it was built from

The text of a request is the compact JSON of its payload, so reading it gives the payload back,
and decoding it as a reply gives the `value` object of its parameters, from the text as from its
UTF-8 bytes (`request_round_trip`). Writing needs a free place of the call stack for every
container on the payload's deepest path: parameters that nest too deep are no request at all
(`encodeWithin_fails_on_deep_parameters`).
-/

namespace PhpCompletion

namespace Json

attribute [simp] depth_arr depth_obj

@[simp] theorem lookup_nil (key : Text) : lookup [] key = none := rfl

@[simp] theorem lookup_cons (k key : Text) (v : Json) (fields : List (Text × Json)) :
    lookup ((k, v) :: fields) key = if k = key then some v else lookup fields key := by
  by_cases h : k = key <;> simp [lookup, h]

theorem lookup_withCanonicalNaN (fields : List (Text × Json)) (key : Text) :
    lookup (fields.map fun f => (f.1, f.2.withCanonicalNaN)) key =
      (lookup fields key).map withCanonicalNaN := by
  simp [lookup, List.find?_map, Function.comp_def, Option.map_map]

end Json

namespace Envelope

/-- The parameters a request carries: an object as it is, anything else as an empty object. -/
def carried (parameters : Json) : Json := if parameters.isObject then parameters else .obj []

theorem payload_eq (action parameters : Json) :
    payload action parameters = .obj [(Text.ofString "action", .str action.displayOrEmpty),
      (Text.ofString "parameters", carried parameters)] := rfl

theorem carried_readable {parameters : Json} (hp : parameters.Readable) :
    (carried parameters).Readable := by
  unfold carried
  split_ifs
  · exact hp
  · exact .obj (by simp) (by simp)

theorem payload_readable (action : Json) {parameters : Json} (hp : parameters.Readable) :
    (payload action parameters).Readable := by
  rw [payload_eq]
  refine .obj ?_ ?_
  · simp only [List.map_cons, List.map_nil]
    decide
  intro f hf
  simp only [List.mem_cons, List.not_mem_nil, or_false] at hf
  rcases hf with rfl | rfl
  · exact .str _
  · exact carried_readable hp

/-- A request is written exactly when its payload nests within the room the writer has. -/
theorem encodeWithin_eq (room : Nat) (action parameters : Json) :
    encodeWithin room action parameters =
      if (payload action parameters).depth ≤ room - 1 - Json.writerPlaces then
        .ok (encode action parameters)
      else .error .tooDeepToWrite := by
  unfold encodeWithin Json.writeWithin encode
  split_ifs <;> rfl

theorem trim_write_obj (fields : List (Text × Json)) :
    (Json.write .compact (.obj fields)).trim = Json.write .compact (.obj fields) := by
  apply Text.trim_of_ends
  · intro c r h
    simp only [Json.write, Json.writePoints_obj, List.cons.injEq] at h
    rw [← h.1]
    rfl
  · intro c r h
    simp only [Json.write, Json.writePoints_obj, List.reverse_cons, List.reverse_append,
      List.reverse_cons, List.reverse_nil, List.nil_append, List.cons_append,
      List.cons.injEq] at h
    rw [← h.1]
    rfl

theorem payload_depth_pos (action parameters : Json) : 0 < (payload action parameters).depth := by
  simp [payload_eq]

theorem read_encode {room : Nat} (action : Json) {parameters : Json} (hp : parameters.Readable)
    (hroom : (payload action parameters).depth ≤ room - 1 - Json.writerPlaces) :
    Json.read (room - 1) (encode action parameters) =
      .ok (payload action parameters).withCanonicalNaN := by
  have := payload_depth_pos action parameters
  exact Json.read_write (payload_readable action hp)
    (by unfold Json.readerPlaces; unfold Json.writerPlaces at hroom; omega)

theorem decode_encode {room : Nat} (action : Json) {parameters : Json} (hp : parameters.Readable)
    (hroom : (payload action parameters).depth ≤ room - 1 - Json.writerPlaces)
    {vs : List (Text × Json)} (hv : parameters.get? (Text.ofString "value") = some (.obj vs))
    (haction : asciiLower action.displayOrEmpty.trim ≠ Text.ofString "error") :
    decode room (encode action parameters) = .ok (vs.map fun f => (f.1, f.2.withCanonicalNaN)) := by
  obtain ⟨fields, rfl⟩ : ∃ fields, parameters = .obj fields := by
    cases parameters <;> first | exact ⟨_, rfl⟩ | cases hv
  have reads := read_encode action hp hroom
  rw [encode, payload_eq] at reads ⊢
  simp only [carried, Json.isObject, if_true] at reads ⊢
  have nonempty : ∀ fs, (Json.write .compact (.obj fs)).isEmpty = false := by
    intro fs
    simp [Json.write, Json.writePoints_obj, Text.isEmpty]
  have distinct : Text.ofString "action" ≠ Text.ofString "parameters" := by decide
  have inner :
      Json.lookup (fields.map fun f => (f.1, f.2.withCanonicalNaN)) (Text.ofString "value") =
      some (.obj (vs.map fun f => (f.1, f.2.withCanonicalNaN))) := by
    rw [Json.lookup_withCanonicalNaN, show Json.lookup fields _ = _ from hv]
    simp
  simp [decode, trim_write_obj, reads, nonempty, distinct, Json.displayOrEmpty_str, haction, inner]
  rfl

/-- A request round trip. A request is written exactly when its payload nests within the room
the writer has; its text then reads back as the object of its action's text and its carried
parameters, every not-a-number in the form `NaN` gives, and decoding it as a reply, from the
text or from its UTF-8 bytes, gives the `value` object of the parameters, unless the action
reads `error`. -/
theorem request_round_trip (room : Nat) (action parameters : Json) (hp : parameters.Readable) :
    (encodeWithin room action parameters = .error .tooDeepToWrite ↔
      room - 1 - Json.writerPlaces < (payload action parameters).depth) ∧
    ((payload action parameters).depth ≤ room - 1 - Json.writerPlaces →
      encodeWithin room action parameters = .ok (encode action parameters) ∧
      Json.read (room - 1) (encode action parameters) =
        .ok (.obj [(Text.ofString "action", .str action.displayOrEmpty),
          (Text.ofString "parameters", (carried parameters).withCanonicalNaN)]) ∧
      ∀ vs, parameters.get? (Text.ofString "value") = some (.obj vs) →
        asciiLower action.displayOrEmpty.trim ≠ Text.ofString "error" →
        decode room (encode action parameters) =
            .ok (vs.map fun f => (f.1, f.2.withCanonicalNaN)) ∧
          ((∀ c ∈ (encode action parameters).points, Text.IsScalar c) →
            decode room (Text.decodeLossy (Text.encodeUtf8 (encode action parameters))) =
              .ok (vs.map fun f => (f.1, f.2.withCanonicalNaN)))) := by
  refine ⟨?_, fun hroom => ⟨?_, ?_, fun vs hv haction => ?_⟩⟩
  · rw [encodeWithin_eq]
    split_ifs with h
    · simp only [false_iff, not_lt]
      exact h
    · simp only [true_iff]
      omega
  · rw [encodeWithin_eq, if_pos hroom]
  · rw [read_encode action hp hroom, payload_eq]
    simp
  · have decoded := decode_encode action hp hroom hv haction
    refine ⟨decoded, fun scalar => ?_⟩
    rw [Text.decodeLossy_encodeUtf8 scalar, decoded]

theorem request_round_trip_of_value :
    (Json.obj [(Text.ofString "value",
      .obj [(Text.ofString "suggestions", .arr [])])]).Readable ∧
    decode 995 (encode (.str (Text.ofString "complete"))
        (.obj [(Text.ofString "value", .obj [(Text.ofString "suggestions", .arr [])])])) =
      .ok [(Text.ofString "suggestions", .arr [])] := by
  have inner : (Json.obj [(Text.ofString "suggestions", .arr [])]).Readable :=
    .obj (by simp) (by simp [Json.Readable.arr])
  have readable : (Json.obj [(Text.ofString "value",
      .obj [(Text.ofString "suggestions", .arr [])])]).Readable :=
    .obj (by simp) (by simpa using inner)
  refine ⟨readable, ?_⟩
  have fits : (payload (.str (Text.ofString "complete")) (.obj [(Text.ofString "value",
      .obj [(Text.ofString "suggestions", .arr [])])])).depth ≤ 995 - 1 - Json.writerPlaces := by
    simp [payload_eq, carried, Json.isObject, Json.writerPlaces]
  have decoded := ((request_round_trip 995 (.str (Text.ofString "complete")) _ readable).2
    fits).2.2 _ rfl (by decide)
  simpa using decoded.1

def nestedArrays : Nat → Json
  | 0 => .arr []
  | n + 1 => .arr [nestedArrays n]

theorem depth_nestedArrays (n : Nat) : (nestedArrays n).depth = n + 1 := by
  induction n with
  | zero => simp [nestedArrays]
  | succ n ih => simp [nestedArrays, ih]; omega

/-- Parameters holding 990 nested arrays are too deep to write with 995 places of the call
stack free: the request is no text at all. -/
theorem encodeWithin_fails_on_deep_parameters :
    encodeWithin 995 (.str (Text.ofString "complete"))
      (.obj [(Text.ofString "p", nestedArrays 989)]) = .error .tooDeepToWrite := by
  rw [encodeWithin_eq, if_neg]
  simp [payload_eq, carried, Json.isObject, depth_nestedArrays, Json.writerPlaces]

end Envelope

end PhpCompletion
