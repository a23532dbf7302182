import PhpCompletion.Proofs.Client.Offset
import PhpCompletion.Proofs.Envelope.Request
import PhpCompletion.Candidate
import Mathlib.Data.List.Forall2

/-! # From reply items to candidates

A reply's `suggestions` list may hold any values. A query keeps its objects, in order, skips
every other item, and never refuses the list for what its items are; each object becomes one
candidate, read field by field (`Candidate.Describes`): its text, detail and kind are the plain
text of the fields `name`, `short_description` and `type` (a string as it is; null, a list or an
object as the empty text; any other value in literal notation, `True` or `3`), its import is the
field `class_import` for a class when that is not empty, and it is callable exactly when it is a
method or a function (`query_candidates_follow_object_items`).
-/

namespace PhpCompletion

namespace Candidate

/-- The candidate that a reply object with these fields describes, field by field. -/
structure Describes (fields : List (Text × Json)) (c : Candidate) : Prop where
  text : c.text = fieldText (Json.lookup fields (Text.ofString "name"))
  detail : c.detail = fieldText (Json.lookup fields (Text.ofString "short_description"))
  kind : c.kind = fieldText (Json.lookup fields (Text.ofString "type"))
  classImport : c.classImport =
    if c.kind = Text.ofString "class" ∧
        (fieldText (Json.lookup fields (Text.ofString "class_import"))).isEmpty = false then
      some (fieldText (Json.lookup fields (Text.ofString "class_import")))
    else none
  callable : c.isCallable = true ↔
    c.kind = Text.ofString "method" ∨ c.kind = Text.ofString "function"

/-- A field that is no string, list or object reads in literal notation. -/
example : fieldText (some (.bool true)) = Text.ofString "True" := by
  simp [fieldText, Json.display, Json.literal]

example : fieldText (some (.int 3)) = Text.ofString "3" := by
  simp [fieldText, Json.display, Json.literal]
  decide

theorem describes_ofFields (fields : List (Text × Json)) :
    Describes fields (ofSuggestion (Suggestion.ofFields fields)) := by
  refine ⟨rfl, rfl, rfl, ?_, ?_⟩
  · simp only [ofSuggestion, Suggestion.ofFields]
    by_cases hk : fieldText (Json.lookup fields (Text.ofString "type")) = Text.ofString "class"
    · by_cases he : (fieldText (Json.lookup fields (Text.ofString "class_import"))).isEmpty = true <;>
        simp [hk, he]
    · simp [hk]
  · simp [isCallable]

end Candidate

namespace Suggestion

theorem ofItems_cons_obj (fields : List (Text × Json)) (rest : List Json) :
    ofItems (.obj fields :: rest) = ofFields fields :: ofItems rest := rfl

theorem ofItems_cons_of_not_object {v : Json} (hv : v.isObject = false) (rest : List Json) :
    ofItems (v :: rest) = ofItems rest := by
  cases v <;> simp_all [ofItems, Json.isObject]

/-- The candidates of a reply list are the ones its objects describe, one for each, in order. -/
theorem describes_ofItems (items : List Json) :
    List.Forall₂ (fun item cand => ∃ fields, item = .obj fields ∧ cand.Describes fields)
      (items.filter Json.isObject) (Candidate.ofSuggestions (ofItems items)) := by
  induction items with
  | nil => exact .nil
  | cons v rest ih =>
      by_cases hv : v.isObject = true
      · obtain ⟨fields, rfl⟩ : ∃ fields, v = .obj fields := by
          cases v <;> simp_all [Json.isObject]
        rw [List.filter_cons_of_pos hv, ofItems_cons_obj]
        exact .cons ⟨fields, rfl, Candidate.describes_ofFields fields⟩ ih
      · have hv' : v.isObject = false := by simpa using hv
        rw [List.filter_cons_of_neg hv, ofItems_cons_of_not_object hv']
        exact ih

end Suggestion

namespace Client

/-- A query whose reply decodes to a value with a `suggestions` list succeeds, whatever the
list's items are, and its candidates are the ones the list's objects describe: one for each
object, in the list's order, every other item skipped. -/
theorem query_candidates_follow_object_items (c : Client) (room : Nat) (h : Host)
    (source : Text) (offset : Json) {n : Nat} (hn : Offset.check source offset = .ok n)
    {out : Text} (hout : c.replyOf (h.runner.run (c.callFor h (request source n))).1 = .ok out)
    {vs : List (Text × Json)} (hd : Envelope.decode (room - 1) out = .ok vs) {items : List Json}
    (hl : Json.lookup vs (Text.ofString "suggestions") = some (.arr items)) :
    ∃ ss, (c.query room h source offset).1 = .ok ss ∧
      List.Forall₂ (fun item cand => ∃ fields, item = .obj fields ∧ cand.Describes fields)
        (items.filter Json.isObject) (Candidate.ofSuggestions ss) := by
  refine ⟨Suggestion.ofItems items, ?_, Suggestion.describes_ofItems items⟩
  rw [query_of_check_ok c room h hn, hout]
  exact (suggestionsOf_of_decode hd).1 items hl

def mixedItems : List Json :=
  [.obj [(Text.ofString "name", .str (Text.ofString "foo")), (Text.ofString "type", .bool true)],
    .str (Text.ofString "junk")]

def mixedReply : Text :=
  Envelope.encode (.str (Text.ofString "return"))
    (.obj [(Text.ofString "value", .obj [(Text.ofString "suggestions", .arr mixedItems)])])

def mixedHost : Host :=
  ⟨Disk.empty, ⟨[.exited 0 mixedReply Text.empty], .notStarted, [], false⟩⟩

theorem query_candidates_follow_object_items_sample :
    Offset.check Text.empty (.int 0) = .ok 0 ∧
      idle.replyOf (mixedHost.runner.run (idle.callFor mixedHost (request Text.empty 0))).1 =
        .ok mixedReply ∧
      Envelope.decode 99 mixedReply = .ok [(Text.ofString "suggestions", .arr mixedItems)] ∧
      ∃ ss, (idle.query 100 mixedHost Text.empty (.int 0)).1 = .ok ss ∧
        List.Forall₂ (fun item cand => ∃ fields, item = .obj fields ∧ cand.Describes fields)
          (mixedItems.filter Json.isObject) (Candidate.ofSuggestions ss) := by
  have hn : Offset.check Text.empty (.int 0) = .ok 0 := rfl
  have hout : idle.replyOf (mixedHost.runner.run (idle.callFor mixedHost
      (request Text.empty 0))).1 = .ok mixedReply := rfl
  have readable : (Json.obj [(Text.ofString "value",
      .obj [(Text.ofString "suggestions", .arr mixedItems)])]).Readable := by
    refine .obj (by decide) ?_
    simp only [List.mem_singleton, forall_eq]
    refine .obj (by decide) ?_
    simp only [List.mem_singleton, forall_eq]
    refine .arr ?_
    simp only [mixedItems, List.mem_cons, List.not_mem_nil, or_false, forall_eq_or_imp, forall_eq]
    refine ⟨.obj (by decide) ?_, .str _⟩
    simp only [List.mem_cons, List.not_mem_nil, or_false, forall_eq_or_imp, forall_eq]
    exact ⟨.str _, .bool true⟩
  have hd : Envelope.decode 99 mixedReply = .ok [(Text.ofString "suggestions", .arr mixedItems)] := by
    have decoded := @Envelope.decode_encode 99 (.str (Text.ofString "return")) _ readable
      (by simp [Envelope.payload_eq, Envelope.carried, Json.isObject, Json.writerPlaces, mixedItems,
        Json.depth])
      _ rfl (by decide)
    rw [mixedReply, decoded]
    simp [mixedItems, Json.withCanonicalNaN]
  exact ⟨hn, hout, hd, query_candidates_follow_object_items idle 100 mixedHost
    Text.empty (.int 0) hn hout hd rfl⟩

end Client

end PhpCompletion
