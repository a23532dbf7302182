import PhpCompletion.Client

/-! # How a query ends

A query checks its offset first: an offset outside the source fails at once and no process is
started. Otherwise exactly one process is started, with the command line
`EXECUTABLE rpc --working-dir=DIR`, and the first matching case of its outcome decides the
answer (`query_outcome_by_first_matching_case`): an executable the runner refuses fails with
that value failure; a timeout, an executable that does not start and a failed exit with a blank
reply are failures of the service, each of its own kind; any other reply is decoded, and a
decoding failure is the query's failure; a decoded value without a `suggestions` list is
malformed; otherwise the suggestions are those of the list's objects. A runner that checks its
arguments, as the system does, refuses an executable with a NUL or a surrogate without a byte
form, and the query then fails with the same failure a path of that text gives
(`query_of_refused_executable`).

Decoding fails only as a malformed reply, as a failure the service reports, or as a reply
nested deeper than the reader goes (`decode_error_cases`). The last is no failure of the
service: a reply nested deep enough is refused as too deep, not as malformed
(`query_of_nested_reply`).
-/

namespace PhpCompletion

namespace Json

theorem skipSpace_open (r : List Nat) (p : Nat) : skipSpace (91 :: r) p = (91 :: r, p) := by
  simp [skipSpace, isSpace]

theorem readValue_opens_too_deep (room : Nat) : ∀ (fuel pos : Nat) (rest : List Nat),
    2 * room < fuel →
    readValue fuel room (List.replicate (room + 1) 91 ++ rest) pos = .error (.tooDeep .array) := by
  induction room with
  | zero =>
      intro fuel pos rest hfuel
      obtain ⟨f, rfl⟩ : ∃ f, fuel = f + 1 := ⟨fuel - 1, by omega⟩
      simp [readValue]
  | succ room ih =>
      intro fuel pos rest hfuel
      obtain ⟨f, rfl⟩ : ∃ f, fuel = f + 2 := ⟨fuel - 2, by omega⟩
      rw [List.replicate_succ, List.cons_append, List.replicate_succ, List.cons_append]
      simp only [readValue, skipSpace_open]
      have inner := ih f (pos + 1) rest (by omega)
      rw [List.replicate_succ, List.cons_append] at inner
      simp [readItems, inner, bind, Except.bind]

theorem read_opens_too_deep {room k : Nat} (hk : room - readerPlaces < k) (rest : List Nat) :
    read room ⟨List.replicate k 91 ++ rest⟩ = .error (.tooDeep .array) := by
  obtain ⟨j, rfl⟩ : ∃ j, k = (room - readerPlaces + 1) + j :=
    ⟨k - (room - readerPlaces + 1), by omega⟩
  have hsplit : List.replicate (room - readerPlaces + 1 + j) 91 ++ rest =
      List.replicate (room - readerPlaces + 1) 91 ++ (List.replicate j 91 ++ rest) := by
    rw [← List.replicate_append_replicate, List.append_assoc]
  unfold read
  simp only [hsplit, List.replicate_succ, List.cons_append, skipSpace_open]
  rw [← List.cons_append, ← List.replicate_succ,
    readValue_opens_too_deep _ _ _ _ (by simp; omega)]

end Json

def nestedArrays (k : Nat) : Text := ⟨List.replicate k 91 ++ List.replicate k 93⟩

theorem trim_nestedArrays {k : Nat} (hk : 0 < k) : (nestedArrays k).trim = nestedArrays k := by
  obtain ⟨j, rfl⟩ : ∃ j, k = j + 1 := ⟨k - 1, by omega⟩
  apply Text.trim_of_ends
  · intro c r h
    simp only [nestedArrays, List.replicate_succ, List.cons_append, List.cons.injEq] at h
    rw [← h.1]
    rfl
  · intro c r h
    simp only [nestedArrays, List.reverse_append, List.reverse_replicate] at h
    simp only [List.replicate_succ, List.cons_append, List.cons.injEq] at h
    rw [← h.1]
    rfl

namespace Envelope

theorem decode_too_deep {room : Nat} {raw : Text} {c : Json.Container}
    (hne : raw.trim.isEmpty = false) (hread : Json.read (room - 1) raw.trim = .error (.tooDeep c)) :
    decode room raw = .error (.tooDeep c) := by
  simp [decode, hne, hread, bind, Except.bind, throw, throwThe, MonadExceptOf.throw]

/-- Decoding fails as a malformed reply, as a failure the service reports, or as a reply nested
too deep. -/
theorem decode_error_cases {room : Nat} {raw : Text} {f : Fault}
    (h : decode room raw = .error f) :
    (∃ m, f = .service (.malformed m)) ∨
      (∃ m, f = .service (.unavailable (.str (Text.ofString "service_error")) m)) ∨
      (∃ c, f = .tooDeep c) := by
  unfold decode at h
  simp only [bind, Except.bind, pure, Except.pure, throw, throwThe, MonadExceptOf.throw] at h
  repeat' split at h
  all_goals cases h <;> simp [ServiceFault.emptyReply, ServiceFault.notJson,
    ServiceFault.rootNotObject, ServiceFault.noParameters, ServiceFault.reported,
    ServiceFault.noValue]

end Envelope

namespace Client

theorem query_of_check_error (c : Client) (room : Nat) (h : Host) {source : Text}
    {offset : Json} {f : Fault} (hf : Offset.check source offset = .error f) :
    c.query room h source offset = (.error f, h) := by
  simp [query, hf]

theorem check_outside {source : Text} {offset : Json} {i : Int} (hi : offset.toInteger = .ok i)
    (out : i < 0 ∨ (source.length : Int) < i) :
    Offset.check source offset = .error (.offsetOutside i source.length) := by
  simp [Offset.check, hi, out]

/-- A query whose offset passes its check makes one run, and its answer is read off the run's
outcome. -/
theorem query_of_check_ok (c : Client) (room : Nat) (h : Host) {source : Text} {offset : Json}
    {n : Nat} (hn : Offset.check source offset = .ok n) :
    c.query room h source offset =
      ((match c.replyOf (h.runner.run (c.callFor h (request source n))).1 with
        | .error f => .error f
        | .ok out => suggestionsOf (room - 1) out),
       { h with runner := (h.runner.run (c.callFor h (request source n))).2 }) := by
  simp only [query, hn, run]
  cases c.replyOf (h.runner.run (c.callFor h (request source n))).1 <;> rfl

theorem suggestionsOf_of_decode {room : Nat} {reply : Text} {vs : List (Text × Json)}
    (hd : Envelope.decode room reply = .ok vs) :
    (∀ items, Json.lookup vs (Text.ofString "suggestions") = some (.arr items) →
      suggestionsOf room reply = .ok (Suggestion.ofItems items)) ∧
    ((∀ items, Json.lookup vs (Text.ofString "suggestions") ≠ some (.arr items)) →
      suggestionsOf room reply = .error (.service .noSuggestions)) := by
  constructor
  · intro items hl
    simp [suggestionsOf, hd, bind, Except.bind, hl, pure, Except.pure]
  · intro hl
    simp only [suggestionsOf, hd, bind, Except.bind]
    rfl

theorem suggestionsOf_of_decode_error {room : Nat} {reply : Text} {f : Fault}
    (hd : Envelope.decode room reply = .error f) : suggestionsOf room reply = .error f := by
  simp [suggestionsOf, hd, bind, Except.bind]

theorem replyOf_error_cases (c : Client) {o : RunOutcome} {f : Fault}
    (hf : c.replyOf o = .error f) : (∃ e, f = .service e) ∨ ∃ p : PathFault, f = p.toFault := by
  cases o with
  | refused p =>
      cases hf
      exact .inr ⟨p, rfl⟩
  | timedOut | notStarted =>
      cases hf
      exact .inl ⟨_, rfl⟩
  | exited code out err =>
      simp only [replyOf] at hf
      split at hf
      · cases hf
        exact .inl ⟨_, rfl⟩
      · cases hf

theorem query_error_cases (c : Client) (room : Nat) (h : Host) {source : Text} {offset : Json}
    {n : Nat} (hn : Offset.check source offset = .ok n) {f : Fault}
    (hf : (c.query room h source offset).1 = .error f) :
    (∃ e, f = .service e) ∨ (∃ p : PathFault, f = p.toFault) ∨ ∃ k, f = .tooDeep k := by
  rw [query_of_check_ok c room h hn] at hf
  split at hf
  · cases hf
    rename_i he
    rcases replyOf_error_cases c he with service | refused
    · exact .inl service
    · exact .inr (.inl refused)
  · rename_i out _
    cases hd : Envelope.decode (room - 1) out with
    | error e =>
        rw [suggestionsOf_of_decode_error hd] at hf
        cases hf
        rcases Envelope.decode_error_cases hd with ⟨m, rfl⟩ | ⟨m, rfl⟩ | ⟨k, rfl⟩
        · exact .inl ⟨_, rfl⟩
        · exact .inl ⟨_, rfl⟩
        · exact .inr (.inr ⟨k, rfl⟩)
    | ok vs =>
        by_cases listed : ∃ items, Json.lookup vs (Text.ofString "suggestions") = some (.arr items)
        · obtain ⟨items, hl⟩ := listed
          rw [(suggestionsOf_of_decode hd).1 items hl] at hf
          cases hf
        · rw [(suggestionsOf_of_decode hd).2 (fun items hl => listed ⟨items, hl⟩)] at hf
          cases hf
          exact .inl ⟨_, rfl⟩

/-- A runner that checks its arguments refuses an executable without a byte form: the query
fails with the failure a path of that text gives, a `ValueError` for a NUL and a
`UnicodeEncodeError` for a surrogate, and takes no outcome of the script. -/
theorem query_of_refused_executable (c : Client) (room : Nat) (h : Host) {source : Text}
    {offset : Json} {n : Nat} (hn : Offset.check source offset = .ok n)
    (checks : h.runner.checksArguments = true) {p : PathFault}
    (bad : Disk.check c.executable = .error p) :
    c.query room h source offset = (.error p.toFault, { h with
      runner := { h.runner with calls := h.runner.calls ++ [c.callFor h (request source n)] } }) ∧
      p.toFault.typeName ∈ ["ValueError", "UnicodeEncodeError"] := by
  have refused : h.runner.takes (c.callFor h (request source n)).executable = .error p :=
    Runner.takes_eq_error_iff.mpr ⟨checks, bad⟩
  refine ⟨?_, by cases p <;> simp [PathFault.toFault, Fault.typeName]⟩
  rw [query_of_check_ok c room h hn, Runner.run_of_refused refused]
  rfl

/-- How a query ends. An offset outside the source fails as out of range, before any run is
asked for. Otherwise exactly one run is asked for, with the command line
`EXECUTABLE rpc --working-dir=DIR`, and the first matching case of its outcome decides: a
refused executable fails with its value failure; a timeout, an executable that does not start,
and a failed exit with a blank reply are failures of the service of the kinds `timeout`,
`not_installed` and `process_failed` (the last naming the last line of the error stream); any
other reply is decoded, and decoding fails as a malformed reply, as a failure the service
reports, or as a reply nested too deep; a decoded value without a `suggestions` list is
malformed; otherwise the answer is the suggestions of the list's objects, in order. -/
theorem query_outcome_by_first_matching_case (c : Client) (room : Nat) (h : Host)
    (source : Text) (offset : Json) :
    (∀ i, offset.toInteger = .ok i → (i < 0 ∨ (source.length : Int) < i) →
      c.query room h source offset = (.error (.offsetOutside i source.length), h) ∧
        (Fault.offsetOutside i source.length).typeName = "ValueError") ∧
    ∀ n, Offset.check source offset = .ok n → ∀ o r,
      h.runner.run (c.callFor h (request source n)) = (o, r) →
      r.calls = h.runner.calls ++ [c.callFor h (request source n)] ∧
      (c.query room h source offset).2 = { h with runner := r } ∧
      (∀ here, (c.callFor h (request source n)).command here =
        [c.executable, Text.ofString "rpc", Text.ofString "--working-dir=" ++
          if !c.workingDir.isEmpty && h.disk.isDir c.workingDir then c.workingDir else here]) ∧
      (o = .timedOut → ∃ m, (c.query room h source offset).1 =
        .error (.service (.unavailable (.str (Text.ofString "timeout")) m))) ∧
      (o = .notStarted → ∃ m, (c.query room h source offset).1 =
        .error (.service (.unavailable (.str (Text.ofString "not_installed")) m))) ∧
      (∀ p, o = .refused p → (c.query room h source offset).1 = .error p.toFault) ∧
      (∀ code out err, o = .exited code out err → code ≠ 0 → out.trim.isEmpty = true →
        (c.query room h source offset).1 =
          .error (.service (.unavailable (.str (Text.ofString "process_failed"))
            (Text.ofString ("phpactor exited with status " ++ toString code ++ ": ") ++
              (err.trim.lines.getLast?).getD (Text.ofString "no output"))))) ∧
      (∀ code out err, o = .exited code out err → ¬ (code ≠ 0 ∧ out.trim.isEmpty = true) →
        (∀ f, Envelope.decode (room - 1) out = .error f →
          (c.query room h source offset).1 = .error f ∧
            ((∃ m, f = .service (.malformed m)) ∨
              (∃ m, f = .service (.unavailable (.str (Text.ofString "service_error")) m)) ∨
              (∃ c, f = .tooDeep c))) ∧
        (∀ vs, Envelope.decode (room - 1) out = .ok vs →
          (∀ items, Json.lookup vs (Text.ofString "suggestions") = some (.arr items) →
            (c.query room h source offset).1 = .ok (Suggestion.ofItems items)) ∧
          ((∀ items, Json.lookup vs (Text.ofString "suggestions") ≠ some (.arr items)) →
            ∃ m, (c.query room h source offset).1 = .error (.service (.malformed m))))) := by
  refine ⟨fun i hi out => ⟨query_of_check_error c room h (check_outside hi out), rfl⟩, ?_⟩
  intro n hn o r hrun
  have hq := query_of_check_ok c room h hn
  rw [hrun] at hq
  have hcalls : r.calls = h.runner.calls ++ [c.callFor h (request source n)] := by
    have := Runner.calls_run h.runner (c.callFor h (request source n))
    rwa [hrun] at this
  have hcommand : ∀ here, (c.callFor h (request source n)).command here =
      [c.executable, Text.ofString "rpc", Text.ofString "--working-dir=" ++
        if !c.workingDir.isEmpty && h.disk.isDir c.workingDir then c.workingDir else here] := by
    intro here
    unfold Call.command callFor
    split <;> rfl
  refine ⟨hcalls, by rw [hq], hcommand, ?_, ?_, ?_, ?_, ?_⟩
  · rintro rfl
    exact ⟨_, by rw [hq]; rfl⟩
  · rintro rfl
    exact ⟨_, by rw [hq]; rfl⟩
  · rintro p rfl
    rw [hq]
    rfl
  · rintro code out err rfl hcode hblank
    rw [hq]
    simp [replyOf, hcode, hblank, ServiceFault.exited]
  · rintro code out err rfl hreply
    have hok : c.replyOf (.exited code out err) = .ok out := by simp [replyOf, hreply]
    rw [hq, hok]
    refine ⟨fun f hd => ⟨suggestionsOf_of_decode_error hd, Envelope.decode_error_cases hd⟩,
      fun vs hd => ?_⟩
    obtain ⟨listed, unlisted⟩ := suggestionsOf_of_decode hd
    exact ⟨listed, fun hl => ⟨_, unlisted hl⟩⟩

theorem query_of_nested_reply (c : Client) {room : Nat} {h : Host} {source : Text}
    {offset : Json} {n k : Nat} {err : Text} (hn : Offset.check source offset = .ok n)
    (hrun : (h.runner.run (c.callFor h (request source n))).1 = .exited 0 (nestedArrays k) err)
    (hk : room - 2 - Json.readerPlaces < k) :
    (c.query room h source offset).1 = .error (.tooDeep .array) := by
  have hk0 : 0 < k := by omega
  have hreply : c.replyOf (.exited 0 (nestedArrays k) err) = .ok (nestedArrays k) := by
    simp [replyOf]
  rw [query_of_check_ok c room h hn, hrun]
  simp only [hreply]
  apply suggestionsOf_of_decode_error
  apply Envelope.decode_too_deep
  · rw [trim_nestedArrays hk0]
    cases k with
    | zero => omega
    | succ k => rfl
  · rw [trim_nestedArrays hk0]
    exact Json.read_opens_too_deep (by omega) _

/-- Even with the whole call stack free, a reply of 2500 nested arrays from a process that
exits normally fails the query as too deep: the failure is neither a malformed reply nor one
the service reports. -/
theorem query_refuses_nested_reply_as_too_deep :
    let c : Client := ⟨Text.ofString "phpactor", Text.empty, minSeconds, 2, true⟩
    let h : Host :=
      ⟨Disk.empty, ⟨[.exited 0 (nestedArrays 2500) Text.empty], .notStarted, [], false⟩⟩
    (c.query Json.stackLimit h (Text.ofString "ab") (.int 1)).1 = .error (.tooDeep .array) ∧
      (Fault.tooDeep .array).serviceKind? = none := by
  intro c h
  refine ⟨query_of_nested_reply c (n := 1) rfl rfl (by decide), rfl⟩

end Client

end PhpCompletion
