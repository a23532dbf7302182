import PhpCompletion.Proofs.Manager.Entries

/-! # Which writes replace a cache entry

Only a drain replaces an entry of a session's cache, and only with the answer of the session's
current request (`Entries`). Over a run where no buffer is opened twice, every prefix is a text
and the service answers each request at most once, more holds
(`cache_entries_replaced_only_by_current_answers`): the entry that answer replaces was stored
after the request was made, by a drain of a superseded answer that found the prefix free. When
the request was made its lookup missed, so the prefix had no entry; no call until the drain
that answers it supersedes it; and no drain in between applies an answer that counts, since
with buffers opened once a buffer and a token tell captured requests apart (`TokensFresh`), so
that would be a second answer to the same request.

A prefix that is no text breaks this: a superseded answer for the number `5` finds no key `5`
among the texts and stores its list under the text `5`, replacing what is there
(`superseded_number_prefix_replaces_entry`).
-/

namespace PhpCompletion

namespace Manager

variable {σ : Type} {m : Manager σ} {svc : Service σ} {b k : Text}

/-! ## Captured requests along a run -/

def TextQueries (m : Manager σ) : Prop := ∀ x ∈ m.captures, ∃ t, x.2.query = .str t

theorem textQueries_step {c : Call} (texts : ∀ q, c.query? = some q → ∃ t, q = .str t)
    (h : TextQueries m) : TextQueries (step svc m c) := by
  intro x hx
  rcases step_issued svc m c with same | ⟨y, grown, asked, -, -⟩
  · exact h x (same ▸ hx)
  · rw [grown, List.mem_append, List.mem_singleton] at hx
    rcases hx with old | rfl
    · exact h x old
    · exact texts _ asked

theorem textQueries_run {cs : List Call}
    (texts : ∀ c ∈ cs, ∀ q, c.query? = some q → ∃ t, q = .str t) (h : TextQueries m) :
    TextQueries (runCalls svc m cs) :=
  runCalls_invariant (fun _ c hc held => textQueries_step (texts c hc) held) h

/-- Captured requests are told apart by their buffer and token, and none is ahead of its
buffer's session. -/
structure TokensFresh (m : Manager σ) : Prop where
  distinct : (m.captures.map fun x => (x.2.buffer, x.2.token)).Nodup
  behind : ∀ x ∈ m.captures, ∀ s, m.session? x.2.buffer = some s → x.2.token ≤ s.token

theorem TokensFresh.capture_eq (h : TokensFresh m) {y z : Nat × Capture} (hy : y ∈ m.captures)
    (hz : z ∈ m.captures) (hb : y.2.buffer = z.2.buffer) (ht : y.2.token = z.2.token) : y = z :=
  List.inj_on_of_nodup_map h.distinct hy hz (by rw [hb, ht])

theorem Counts.token_eq {i j : Nat} (hi : Counts b i m) (hj : Counts b j m) : i = j := by
  unfold Counts at hi hj
  rw [hi] at hj
  simp only [Option.some.injEq, Prod.mk.injEq] at hj
  exact hj.1

theorem tokensFresh_step {c : Call} (ho : Open m)
    (fresh : ∀ b, c.opens? = some b → ∀ x ∈ m.captures, x.2.buffer ≠ b) (h : TokensFresh m) :
    TokensFresh (step svc m c) := by
  -- tokens never go back, as the call opens no buffer with a captured request
  have ahead : ∀ x ∈ m.captures, ∀ s', (step svc m c).session? x.2.buffer = some s' →
      x.2.token ≤ s'.token := by
    intro x hx s' hs'
    have kept : c.opens? ≠ some x.2.buffer := fun opens => fresh _ opens x hx rfl
    rcases step_moves svc m c x.2.buffer kept with ⟨-, ended⟩ | ⟨j, moved, -⟩
    · rw [ended] at hs'
      cases hs'
    · obtain ⟨s, hs, token, -⟩ := moved.session? hs'
      have := h.behind x hx s hs
      omega
  rcases step_issued svc m c with same | ⟨x, grown, -, ⟨s, hs, token⟩, -⟩
  · exact ⟨same ▸ h.distinct, fun x hx => ahead x (same ▸ hx)⟩
  · have apart : ∀ y ∈ m.captures, (y.2.buffer, y.2.token) ≠ (x.2.buffer, x.2.token) := by
      intro y hy same
      simp only [Prod.mk.injEq] at same
      have := h.behind y hy s (same.1 ▸ hs)
      omega
    have hn : x ∉ m.captures := fun hx => apart x hx rfl
    have hx : x ∈ (step svc m c).captures := by
      rw [grown]
      exact List.mem_append_right _ (List.mem_singleton_self x)
    have counts := (step_issues ho hx hn).2.2.2.1
    refine ⟨?_, fun y hy s' hs' => ?_⟩
    · rw [grown, List.map_append, List.map_singleton, List.nodup_append]
      refine ⟨h.distinct, List.nodup_singleton _, fun p hp p' hp' => ?_⟩
      rw [List.mem_singleton] at hp'
      obtain ⟨y, hy, rfl⟩ := List.mem_map.mp hp
      rw [hp']
      exact apart y hy
    · rw [grown, List.mem_append, List.mem_singleton] at hy
      rcases hy with old | rfl
      · exact ahead y old s' hs'
      · simp only [Counts, hs', Option.map_some, Session.stamp, Option.some.injEq,
          Prod.mk.injEq] at counts
        omega

theorem tokensFresh_run {cs : List Call} (ho : Open m) (h : TokensFresh m)
    (fresh : Admits svc (fun m c => ∀ b, c.opens? = some b → ∀ x ∈ m.captures, x.2.buffer ≠ b)
      m cs) : TokensFresh (runCalls svc m cs) :=
  (Admits.invariant (I := fun m => Open m ∧ TokensFresh m)
    (fun _ c hI hc => ⟨open_step svc c hI.1, tokensFresh_step hI.1 hc hI.2⟩) ⟨ho, h⟩ fresh).2

section Created

variable {cfg : Json} {σ₀ : σ} {m₀ : Manager σ}

theorem opened_of_captured (h₀ : create cfg σ₀ = .ok m₀) {u : List Call} {x : Nat × Capture}
    (hx : x ∈ (runCalls svc m₀ u).captures) : ∃ c ∈ u, c.opens? = some x.2.buffer := by
  have none₀ : x ∉ m₀.captures := by simp [(create_eq h₀).2.2.1]
  obtain ⟨u₁, c₁, v₁, split, before, after⟩ :=
    runCalls_first (Q := fun m => x ∈ m.captures) none₀ hx
  have issued : runCalls svc m₀ (u₁ ++ [c₁]) = step svc (runCalls svc m₀ u₁) c₁ := by
    rw [runCalls_append, runCalls_cons, runCalls_nil]
  rw [issued] at after
  have live := (step_issues (open_runCalls h₀ u₁) after before).2.2.2.1
  have opened : (runCalls svc m₀ (u₁ ++ [c₁])).session? x.2.buffer ≠ none := by
    rw [issued]
    intro none_open
    simp [Counts, none_open] at live
  rcases opened_of_session? opened with created | ⟨c, hc, opens⟩
  · exact absurd (by simp [session?, (create_eq h₀).1]) created
  · refine ⟨c, ?_, opens⟩
    rw [split]
    rcases List.mem_append.mp hc with early | last
    · exact List.mem_append_left _ early
    · rw [List.mem_singleton.mp last]
      exact List.mem_append_right _ List.mem_cons_self

theorem tokensFresh_runCalls (h₀ : create cfg σ₀ = .ok m₀) {u v : List Call}
    (opensOnce : ((u ++ v).filterMap Call.opens?).Nodup) : TokensFresh (runCalls svc m₀ u) := by
  have none₀ : m₀.captures = [] := (create_eq h₀).2.2.1
  have fresh₀ : TokensFresh m₀ :=
    ⟨by rw [none₀]; exact List.nodup_nil, fun x hx => by rw [none₀] at hx; cases hx⟩
  have open₀ : Open (runCalls svc m₀ []) := open_runCalls h₀ []
  refine tokensFresh_run open₀ fresh₀ (Admits.of_calls ?_)
  intro u₁ c v₁ split b' opens x hx same
  obtain ⟨c', hc', opened⟩ := opened_of_captured h₀ hx
  rw [split, List.append_assoc, List.cons_append] at opensOnce
  exact (nodup_filterMap_append opensOnce).2 c' hc' _ opened c List.mem_cons_self
    (by rw [opens, same])

end Created

theorem queued_by_answer (deferred : Deferred svc) {cs : List Call} {a : Answer}
    (ha : a ∈ (runCalls svc m cs).queue) :
    (a ∈ m.queue ∧ .drain ∉ cs) ∨
      ∃ u t v, cs = u ++ .answer t a.result :: v ∧ .drain ∉ v ∧
        (t, a.capture) ∈ (runCalls svc m u).captures := by
  induction cs generalizing m with
  | nil => exact .inl ⟨ha, List.not_mem_nil⟩
  | cons c cs ih =>
      rcases ih ha with ⟨queued, quiet⟩ | ⟨u, t, v, split, quiet, captured⟩
      · by_cases hd : c = .drain
        · subst hd
          simp only [step, drain_run, stateOf_ok, (applied_keeps _ _).1] at queued
          cases queued
        have later : .drain ∉ c :: cs := by simp [quiet, Ne.symm hd]
        cases ht : c.ticket? with
        | none => exact .inl ⟨step_queue_eq deferred m c ht hd ▸ queued, later⟩
        | some t =>
            cases c with
            | answer t r =>
                rw [(answer_fields svc m t r).1, List.mem_append] at queued
                rcases queued with old | now
                · exact .inl ⟨old, later⟩
                · cases found : m.captures.find? fun x => x.1 == t with
                  | none => simp [found] at now
                  | some y =>
                      simp only [found, Option.map_some, Option.toList_some,
                        List.mem_singleton] at now
                      subst now
                      have ticket : y.1 = t := by simpa using List.find?_some found
                      refine .inr ⟨[], t, cs, rfl, quiet, ?_⟩
                      rw [runCalls_nil, ← ticket]
                      exact List.mem_of_find?_eq_some found
            | _ => cases ht
      · exact .inr ⟨c :: u, t, v, by rw [split, List.cons_append], quiet, captured⟩

theorem tickets_differ {u v w : List Call} {t t' : Nat} {r r' : Except Fault (List Suggestion)}
    (h : ((u ++ .answer t r :: v ++ .answer t' r' :: w).filterMap Call.ticket?).Nodup) :
    t ≠ t' := by
  rintro rfl
  exact (nodup_filterMap_append h).2 (.answer t r) (List.mem_append_right _ List.mem_cons_self) t
    rfl (.answer t r') List.mem_cons_self rfl

theorem queued_once (deferred : Deferred svc) {cfg : Json} {σ₀ : σ} {m₀ : Manager σ}
    (h₀ : create cfg σ₀ = .ok m₀) {u v w : List Call}
    (answersOnce : ((u ++ .drain :: v ++ w).filterMap Call.ticket?).Nodup)
    (fresh : TokensFresh (runCalls svc m₀ (u ++ .drain :: v))) {a a' : Answer}
    (ha' : a' ∈ (runCalls svc m₀ u).queue) (ha : a ∈ (runCalls svc m₀ (u ++ .drain :: v)).queue)
    (same : a'.capture = a.capture) : False := by
  rcases queued_by_answer deferred ha' with ⟨queued, -⟩ | ⟨u₁, t₁, v₁, split₁, -, captured₁⟩
  · rw [(create_eq h₀).2.1] at queued
    cases queued
  rw [runCalls_append, runCalls_cons] at ha
  rcases queued_by_answer deferred ha with ⟨queued, -⟩ | ⟨u₂, t₂, v₂, split₂, -, captured₂⟩
  · simp only [step, drain_run, stateOf_ok, (applied_keeps _ _).1] at queued
    cases queued
  have in₁ : (t₁, a'.capture) ∈ (runCalls svc m₀ (u ++ .drain :: v)).captures := by
    rw [split₁, List.append_assoc, runCalls_append]
    exact (captures_prefix_runCalls svc _ _).subset captured₁
  have in₂ : (t₂, a.capture) ∈ (runCalls svc m₀ (u ++ .drain :: v)).captures := by
    rw [runCalls_append, runCalls_cons, split₂, runCalls_append]
    exact (captures_prefix_runCalls svc _ _).subset captured₂
  have ticket : t₁ = t₂ :=
    congrArg Prod.fst (fresh.capture_eq in₁ in₂ (by simp [same]) (by simp [same]))
  have shape : u ++ .drain :: v ++ w =
      u₁ ++ .answer t₁ a'.result :: (v₁ ++ .drain :: u₂) ++ .answer t₂ a.result :: (v₂ ++ w) := by
    rw [split₁, split₂]
    simp
  exact tickets_differ (shape ▸ answersOnce) ticket

/-! ## The window of a current request -/

/-- A call that neither ends `b`'s requests nor, if it drains, applies an answer of `b` that
counts; the answers it drains ask for texts. -/
def Calm (b : Text) (m : Manager σ) (c : Call) : Prop :=
  ¬Ends b m c ∧ (c = .drain → ∀ a ∈ m.queue, (∃ t, a.capture.query = .str t) ∧
    (a.capture.buffer = b → ¬Counts b a.capture.token m))

theorem calm_entry (svc : Service σ) {c : Call} (h : Calm b m c) (k : Text) :
    (step svc m c).entryAt b k = m.entryAt b k ∨
      c = .drain ∧ m.entryAt b k = none ∧
        ∃ a ∈ m.queue, ∃ ss, a.capture.buffer = b ∧ a.capture.query = .str k ∧
          ¬Counts b a.capture.token m ∧ a.result = .ok ss ∧
          (step svc m c).entryAt b k = some ⟨Candidate.ofSuggestions ss, true⟩ := by
  by_cases hd : c = .drain
  · subst hd
    have texts : ∀ a ∈ m.queue, ∃ t, a.capture.query = .str t := fun a ha => (h.2 rfl a ha).1
    rcases drain_entry svc m b k texts with same | ⟨a, ha, ss, hb, hq, hr, stored, why⟩
    · exact .inl same
    · have superseded := (h.2 rfl a ha).2 hb
      exact .inr ⟨rfl, why.resolve_left superseded, a, ha, ss, hb, hq, superseded, hr, stored⟩
  · exact .inl (entryAt_eq_of_session? (step_calm hd h.1) k)

theorem calm_keeps_entry {cs : List Call} {e : CacheEntry} (h : Admits svc (Calm b) m cs)
    (he : m.entryAt b k = some e) : (runCalls svc m cs).entryAt b k = some e := by
  refine Admits.invariant (I := fun m => m.entryAt b k = some e) (fun m c held calm => ?_) he h
  rcases calm_entry svc calm k with same | ⟨-, none, -⟩
  · rw [same]
    exact held
  · rw [held] at none
    cases none

theorem calm_entry_history {cs : List Call} {e : CacheEntry} (h : Admits svc (Calm b) m cs)
    (none₀ : m.entryAt b k = none) (he : (runCalls svc m cs).entryAt b k = some e) :
    ∃ u v, cs = u ++ .drain :: v ∧ (runCalls svc m u).entryAt b k = none ∧
      (runCalls svc m (u ++ [.drain])).entryAt b k = some e ∧
      ∃ a ∈ (runCalls svc m u).queue, ∃ ss, a.capture.buffer = b ∧ a.capture.query = .str k ∧
        ¬Counts b a.capture.token (runCalls svc m u) ∧ a.result = .ok ss ∧
        e = ⟨Candidate.ofSuggestions ss, true⟩ := by
  obtain ⟨u, d, v, split, before, after⟩ :=
    runCalls_first (Q := fun m => m.entryAt b k ≠ none) (by simpa using none₀)
      (by rw [he]; simp)
  subst split
  have stepped : runCalls svc m (u ++ [d]) = step svc (runCalls svc m u) d := by
    rw [runCalls_append, runCalls_cons, runCalls_nil]
  simp only [ne_eq, Decidable.not_not] at before
  rcases calm_entry svc h.call k with same | ⟨rfl, -, a, ha, ss, hb, hq, stale, hr, stored⟩
  · exact absurd (by rw [stepped, same, before]) after
  · have rest : Admits svc (Calm b) (runCalls svc m (u ++ [.drain])) v :=
      Admits.drop (by rwa [List.append_assoc, List.singleton_append])
    have kept := calm_keeps_entry rest (by rw [stepped]; exact stored)
    rw [← runCalls_append, List.append_assoc, List.singleton_append, he] at kept
    exact ⟨u, v, rfl, before, by rw [stepped, stored, kept], a, ha, ss, hb, hq, stale, hr,
      Option.some.inj kept⟩

section Created

variable {cfg : Json} {σ₀ : σ} {m₀ : Manager σ}

/-- From a request's capture to a drain with its answer queued, while the request stays its
buffer's latest, every call is calm for that buffer: a drain in between that applied an answer
of the buffer that counts would apply an answer of this same request, which the service
answers once. -/
theorem calm_until_answered (deferred : Deferred svc) (h₀ : create cfg σ₀ = .ok m₀)
    {u rest w : List Call} {x : Nat × Capture} {r : Except Fault (List Suggestion)}
    (opensOnce : ((u ++ rest ++ w).filterMap Call.opens?).Nodup)
    (answersOnce : ((u ++ rest ++ w).filterMap Call.ticket?).Nodup)
    (texts : TextQueries (runCalls svc m₀ (u ++ rest)))
    (captured : x ∈ (runCalls svc m₀ u).captures)
    (latest : Counts x.2.buffer x.2.token (runCalls svc m₀ u))
    (current : Counts x.2.buffer x.2.token (runCalls svc m₀ (u ++ rest)))
    (answered : ⟨x.2, r⟩ ∈ (runCalls svc m₀ (u ++ rest)).queue) :
    Admits svc (Calm x.2.buffer) (runCalls svc m₀ u) rest := by
  have opened : (runCalls svc m₀ u).session? x.2.buffer ≠ none := by
    intro none_open
    simp [Counts, none_open] at latest
  have hno : ∀ c ∈ rest ++ w, c.opens? ≠ some x.2.buffer :=
    not_reopened svc h₀ (by rwa [List.append_assoc] at opensOnce) opened
  have restNo : ∀ c ∈ rest, c.opens? ≠ some x.2.buffer :=
    fun c hc => hno c (List.mem_append_left _ hc)
  have kept : Admits svc (fun m c => ¬Supersedes x.2.buffer m c) (runCalls svc m₀ u) rest := by
    rw [runCalls_append] at current
    exact (counts_runCalls_iff restNo latest).mp current
  have fresh : TokensFresh (runCalls svc m₀ (u ++ rest)) := tokensFresh_runCalls h₀ opensOnce
  have inEnd : x ∈ (runCalls svc m₀ (u ++ rest)).captures := by
    rw [runCalls_append]
    exact (captures_prefix_runCalls svc _ _).subset captured
  refine Admits.of_calls fun v c v' split => ?_
  subst split
  refine ⟨?_, ?_⟩
  · rintro (sup | opens)
    · exact kept.call sup
    · exact restNo c (by simp) opens
  · rintro rfl a ha
    have ha₁ : a ∈ (runCalls svc m₀ (u ++ v)).queue := by rwa [runCalls_append]
    obtain ⟨t', routed⟩ :=
      routed_run deferred (u ++ v) (fun a ha => by simp [(create_eq h₀).2.1] at ha) a ha₁
    rw [← List.append_assoc] at fresh answered inEnd texts answersOnce
    have later : (t', a.capture) ∈ (runCalls svc m₀ (u ++ v ++ .drain :: v')).captures := by
      rw [runCalls_append]
      exact (captures_prefix_runCalls svc _ _).subset routed
    refine ⟨texts _ later, fun hb counts => ?_⟩
    have still : Counts x.2.buffer x.2.token (runCalls svc (runCalls svc m₀ u) v) :=
      (counts_runCalls_iff (fun c hc => restNo c (by simp [hc])) latest).mpr kept.take
    have own := fresh.capture_eq later inEnd hb (counts.token_eq still)
    exact queued_once deferred h₀ answersOnce fresh ha₁ answered (congrArg Prod.snd own)

/-- No silent replacement of cache entries. In a run from a new manager where no buffer is
opened twice, every prefix is a text and the service answers each request at most once, a call
that replaces the entry of `b`'s cache under `k` is a drain, and the new entry is the list of a
queued answer of `b`'s current request for `k`. The entry it replaces was stored after that
request was captured, by an earlier drain of a superseded answer for `k`, when `k` had no
entry; and when the request was captured, its lookup had left `k` without one. -/
theorem cache_entries_replaced_only_by_current_answers (svc : Service σ) (deferred : Deferred svc)
    (h₀ : create cfg σ₀ = .ok m₀) (cs : List Call)
    (opensOnce : (cs.filterMap Call.opens?).Nodup)
    (answersOnce : (cs.filterMap Call.ticket?).Nodup)
    (textPrefixes : ∀ c ∈ cs, ∀ q, c.query? = some q → ∃ t, q = .str t) :
    ∀ pre c post, cs = pre ++ c :: post → ∀ b k e e',
      (runCalls svc m₀ pre).entryAt b k = some e →
      (runCalls svc m₀ (pre ++ [c])).entryAt b k = some e' → e' ≠ e →
      c = .drain ∧
      ∃ x ss, ⟨x.2, .ok ss⟩ ∈ (runCalls svc m₀ pre).queue ∧ x.2.buffer = b ∧
        x.2.query = .str k ∧ Counts b x.2.token (runCalls svc m₀ pre) ∧
        e' = ⟨Candidate.ofSuggestions ss, true⟩ ∧
        ∃ pre₁ c₁ mid₁ mid₂, pre = pre₁ ++ c₁ :: (mid₁ ++ .drain :: mid₂) ∧
          x ∉ (runCalls svc m₀ pre₁).captures ∧ x ∈ (runCalls svc m₀ (pre₁ ++ [c₁])).captures ∧
          (runCalls svc m₀ (pre₁ ++ c₁ :: mid₁)).entryAt b k = none ∧
          (runCalls svc m₀ (pre₁ ++ c₁ :: mid₁ ++ [.drain])).entryAt b k = some e ∧
          ∃ a ss', a ∈ (runCalls svc m₀ (pre₁ ++ c₁ :: mid₁)).queue ∧ a.capture.buffer = b ∧
            a.capture.query = .str k ∧
            ¬Counts b a.capture.token (runCalls svc m₀ (pre₁ ++ c₁ :: mid₁)) ∧
            a.result = .ok ss' ∧ e = ⟨Candidate.ofSuggestions ss', true⟩ := by
  intro pre c post split b k e e' before after replaced
  subst split
  have created := create_eq h₀
  have routed : ∀ l, Routed (runCalls svc m₀ l) := fun l =>
    routed_run deferred l fun a ha => by simp [created.2.1] at ha
  have live : (runCalls svc m₀ pre).session? b ≠ none := by
    intro none_open
    simp [entryAt, none_open] at before
  rw [runCalls_append, runCalls_cons, runCalls_nil] at after
  have drained : c = .drain := by
    by_contra hd
    exact replaced (step_entry_eq hd (not_reopened svc h₀ opensOnce live c List.mem_cons_self)
      before after)
  subst drained
  refine ⟨rfl, ?_⟩
  have texts : TextQueries (runCalls svc m₀ pre) :=
    textQueries_run (fun c hc => textPrefixes c (List.mem_append_left _ hc))
      fun x hx => by simp [created.2.2.1] at hx
  have queueTexts : ∀ a ∈ (runCalls svc m₀ pre).queue, ∃ t, a.capture.query = .str t :=
    fun a ha => (routed pre a ha).elim fun _ hc => texts _ hc
  have changed : (step svc (runCalls svc m₀ pre) .drain).entryAt b k ≠
      (runCalls svc m₀ pre).entryAt b k := by
    rw [before, after]
    exact fun same => replaced (Option.some.inj same)
  obtain ⟨a, ha, ss, hb, hq, hr, stored, why⟩ :=
    (drain_entry svc _ b k queueTexts).resolve_left changed
  have counts : Counts b a.capture.token (runCalls svc m₀ pre) :=
    why.resolve_right (by rw [before]; exact Option.some_ne_none e)
  obtain ⟨t, captured⟩ := routed pre a ha
  obtain ⟨pre₁, c₁, rest, split, notYet, issued⟩ :=
    runCalls_first (Q := fun m => (t, a.capture) ∈ m.captures) (by simp [created.2.2.1]) captured
  subst split
  have stepped : runCalls svc m₀ (pre₁ ++ [c₁]) = step svc (runCalls svc m₀ pre₁) c₁ := by
    rw [runCalls_append, runCalls_cons, runCalls_nil]
  have latest := (step_issues (open_runCalls h₀ pre₁) (stepped ▸ issued) notYet).2.2.2.1
  have missed : (runCalls svc m₀ (pre₁ ++ [c₁])).entryAt b k = none := by
    rw [stepped]
    rcases step_issued svc (runCalls svc m₀ pre₁) c₁ with same | ⟨y, grown, -, -, free⟩
    · rw [stepped, same] at issued
      exact absurd issued notYet
    · rw [stepped, grown, List.mem_append, List.mem_singleton] at issued
      obtain rfl := issued.resolve_left notYet
      simpa [hb, hq, Json.display_str] using free
  have shape : pre₁ ++ c₁ :: rest = pre₁ ++ [c₁] ++ rest := by simp
  rw [shape] at opensOnce answersOnce texts counts before
  rw [shape] at ha
  have current :
      Counts a.capture.buffer a.capture.token (runCalls svc m₀ (pre₁ ++ [c₁] ++ rest)) := by
    rw [hb]
    exact counts
  have window := calm_until_answered (x := (t, a.capture)) (r := .ok ss) deferred h₀ opensOnce
    answersOnce texts issued (by rw [stepped]; exact latest) current (hr ▸ ha)
  rw [show (t, a.capture).2.buffer = b from hb] at window
  rw [runCalls_append] at before
  obtain ⟨mid₁, mid₂, rfl, none_at, some_at, a', ha', ss', hb', hq', stale, hr', written⟩ :=
    calm_entry_history window missed before
  have after₁ : ∀ l, runCalls svc m₀ (pre₁ ++ c₁ :: l) =
      runCalls svc (runCalls svc m₀ (pre₁ ++ [c₁])) l := by
    intro l
    rw [← runCalls_append]
    simp
  refine ⟨(t, a.capture), ss, ?_, hb, hq, ?_, ?_, pre₁, c₁, mid₁, mid₂, rfl, notYet, issued,
    by rw [after₁]; exact none_at, ?_, a', ss', by rw [after₁]; exact ha', hb', hq',
    by rw [after₁]; exact stale, hr', written⟩
  · rw [← shape] at ha
    exact hr ▸ ha
  · rw [← shape] at counts
    exact counts
  · exact Option.some.inj (after.symm.trans stored)
  · rw [List.append_assoc, List.cons_append, after₁]
    exact some_at

end Created

/-! ## Runs on a scripted service -/

def fooOnly : List Suggestion := [⟨Text.ofString "foo", Text.empty, Text.ofString "method", none⟩]

def barOnly : List Suggestion := [⟨Text.ofString "bar", Text.empty, Text.ofString "method", none⟩]

def replaceCalls : List Call :=
  [.openBuffer (Text.ofString "a.php"),
    .candidatesLater (Text.ofString "a.php") (Text.ofString "a.php") (.str (Text.ofString "f"))
      ⟨.str (Text.ofString "one"), none⟩ (Text.ofString "<?php\n$this->f", .int 14),
    .candidatesLater (Text.ofString "a.php") (Text.ofString "a.php") (.str (Text.ofString "f"))
      ⟨.str (Text.ofString "two"), none⟩ (Text.ofString "<?php\n$this->f", .int 14),
    .answer 0 (.ok fooOnly), .drain, .answer 1 (.ok barOnly), .drain]

theorem cache_entries_replaced_only_by_current_answers_sample :
    Deferred Scripted.service ∧ create (.obj []) Scripted.initial = .ok scriptedStart ∧
      (replaceCalls.filterMap Call.opens?).Nodup ∧ (replaceCalls.filterMap Call.ticket?).Nodup ∧
      (∀ c ∈ replaceCalls, ∀ q, c.query? = some q → ∃ t, q = .str t) ∧
      (runCalls Scripted.service scriptedStart (replaceCalls.take 6)).entryAt
          (Text.ofString "a.php") (Text.ofString "f") =
        some ⟨Candidate.ofSuggestions fooOnly, true⟩ ∧
      (runCalls Scripted.service scriptedStart replaceCalls).entryAt
          (Text.ofString "a.php") (Text.ofString "f") =
        some ⟨Candidate.ofSuggestions barOnly, true⟩ ∧
      ∀ pre c post, replaceCalls = pre ++ c :: post → ∀ b k e e',
        (runCalls Scripted.service scriptedStart pre).entryAt b k = some e →
        (runCalls Scripted.service scriptedStart (pre ++ [c])).entryAt b k = some e' → e' ≠ e →
        c = .drain :=
  have created : create (.obj []) Scripted.initial = .ok scriptedStart := rfl
  have opens : (replaceCalls.filterMap Call.opens?).Nodup := by decide
  have tickets : (replaceCalls.filterMap Call.ticket?).Nodup := by decide
  have texts : ∀ c ∈ replaceCalls, ∀ q, c.query? = some q → ∃ t, q = .str t := by
    intro c hc q hq
    simp only [replaceCalls, List.mem_cons, List.not_mem_nil, or_false] at hc
    rcases hc with rfl | rfl | rfl | rfl | rfl | rfl | rfl <;> simp [Call.query?] at hq
    all_goals exact ⟨_, hq.symm⟩
  ⟨scripted_deferred, created, opens, tickets, texts, rfl, rfl,
    fun pre c post split b k e e' before after replaced =>
      (cache_entries_replaced_only_by_current_answers Scripted.service scripted_deferred created
        replaceCalls opens tickets texts pre c post split b k e e' before after replaced).1⟩

def fooStart : Manager Scripted :=
  ⟨Settings.defaults, { Scripted.initial with answer := .ok fooOnly }, [], [], [], 0, []⟩

def numberCalls : List Call :=
  [.openBuffer (Text.ofString "a.php"),
    .candidatesLater (Text.ofString "a.php") (Text.ofString "a.php") (.int 5)
      ⟨.str (Text.ofString "old"), none⟩ (Text.ofString "<?php\n$this->f", .int 14),
    .candidates 100 (Text.ofString "a.php") (Text.ofString "a.php") (.str (Text.ofString "5"))
      (Text.ofString "<?php\n$this->f", .int 14),
    .answer 0 (.ok barOnly), .drain]

/-- A superseded answer for a prefix that is no text replaces an entry: the background request
for the number `5` is superseded by asking now for the text `5`, whose answer `foo` is stored
under `5`; the drain then finds no key `5` among the texts and stores `bar` in its place. -/
theorem superseded_number_prefix_replaces_entry :
    (runCalls Scripted.service fooStart (numberCalls.take 4)).entryAt (Text.ofString "a.php")
        (Text.ofString "5") = some ⟨Candidate.ofSuggestions fooOnly, true⟩ ∧
      (runCalls Scripted.service fooStart (numberCalls.take 4)).queue =
        [⟨⟨Text.ofString "a.php", .int 5, 1, ⟨.str (Text.ofString "old"), none⟩⟩, .ok barOnly⟩] ∧
      ((runCalls Scripted.service fooStart (numberCalls.take 4)).session?
        (Text.ofString "a.php")).map Session.token = some 2 ∧
      (runCalls Scripted.service fooStart numberCalls).entryAt (Text.ofString "a.php")
        (Text.ofString "5") = some ⟨Candidate.ofSuggestions barOnly, true⟩ := by
  have opened : (runCalls Scripted.service fooStart (numberCalls.take 1)).session?
      (Text.ofString "a.php") = some (Session.fresh (Text.ofString "a.php") 0) := rfl
  have asked : runCalls Scripted.service fooStart (numberCalls.take 2) =
      stateOf ((candidatesLater Scripted.service (Text.ofString "a.php") (Text.ofString "a.php")
        (.int 5) ⟨.str (Text.ofString "old"), none⟩ (Text.ofString "<?php\n$this->f", .int 14)).run
        (runCalls Scripted.service fooStart (numberCalls.take 1))) := rfl
  rw [candidatesLater_run opened] at asked
  simp only [Session.fresh, PrefixCache.get_empty] at asked
  have answered : runCalls Scripted.service fooStart (numberCalls.take 4) =
      runCalls Scripted.service (runCalls Scripted.service fooStart (numberCalls.take 2))
        ((numberCalls.drop 2).take 2) := by
    rw [← runCalls_append]
    rfl
  rw [asked] at answered
  have queued : (runCalls Scripted.service fooStart (numberCalls.take 4)).queue =
      [⟨⟨Text.ofString "a.php", .int 5, 1, ⟨.str (Text.ofString "old"), none⟩⟩, .ok barOnly⟩] := by
    rw [answered]
    rfl
  obtain ⟨s, hs, live, latest⟩ : ∃ s, (runCalls Scripted.service fooStart
      (numberCalls.take 4)).session? (Text.ofString "a.php") = some s ∧ s.closed = false ∧
      s.token = 2 := by
    rw [answered]
    exact ⟨_, rfl, rfl, rfl⟩
  refine ⟨by rw [answered]; rfl, queued, by rw [hs, Option.map_some, latest], ?_⟩
  have number : Json.display (.int 5) = Text.ofString "5" := by
    simp [Json.display, Json.literal]
    rfl
  have emptied : ({ runCalls Scripted.service fooStart (numberCalls.take 4) with queue := [] }
      ).session? (Text.ofString "a.php") = some s := hs
  have free : s.cache.holds (.int 5) = .ok false := rfl
  have last : runCalls Scripted.service fooStart numberCalls =
      step Scripted.service (runCalls Scripted.service fooStart (numberCalls.take 4)) .drain := by
    rw [show numberCalls = numberCalls.take 4 ++ [.drain] from rfl, runCalls_append]
    rfl
  rw [last]
  simp only [step, drain_run, stateOf_ok, queued, applied_cons, applied_nil]
  rw [applyAnswer_run]
  simp only [emptied, live, Session.isCurrent, latest, free]
  simp only [Bool.false_eq_true, if_false, Bool.not_false, Bool.true_and]
  rw [if_neg (by decide), stateOf_ok]
  exact (entryAt_stored emptied _ _ _).trans (by rw [number, if_pos rfl])

end Manager

end PhpCompletion
