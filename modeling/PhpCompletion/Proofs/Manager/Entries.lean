import PhpCompletion.Proofs.Cache.Lookup
import PhpCompletion.Proofs.Manager.Cancellation
import PhpCompletion.Proofs.Manager.Delivery

/-! # What a call writes into a cache

A session's cache changes in four places: a lookup narrows a complete entry into the prefix
looked up, a synchronous query that missed stores its answer, and a drain stores the answers
of background requests, the current ones always and the superseded ones only under a prefix
with no entry. The first two only ever add an entry, because a lookup that gives nothing found
no entry under its prefix (`step_keeps`). So only a drain replaces an entry, and only with the
answer of a request that counts, or under a prefix with none (`drain_entry`); and a call
captures a request only after its lookup left the prefix without an entry (`step_issued`).
-/

namespace PhpCompletion

namespace Manager

variable {σ : Type} {m m' : Manager σ} {svc : Service σ} {b b' k : Text}

/-- The entry the cache of `b`'s session holds under `k`. -/
def entryAt (m : Manager σ) (b k : Text) : Option CacheEntry :=
  (m.session? b).bind fun s => s.cache.find? k

theorem entryAt_of_session? {s : Session} (h : m.session? b = some s) (k : Text) :
    m.entryAt b k = s.cache.find? k := by
  simp [entryAt, h]

theorem entryAt_eq_of_session? (h : m'.session? b = m.session? b) (k : Text) :
    m'.entryAt b k = m.entryAt b k := by
  simp only [entryAt, h]

def Call.query? : Call → Option Json
  | .cached _ _ q | .candidates _ _ _ q _ | .candidatesLater _ _ q _ _
  | .request _ _ _ q _ _ => some q
  | _ => none

/-! ## Calls other than drains only add entries -/

/-- The session of `b`, if there is one, holds every entry of `c₀` unchanged. -/
def Keeps (b : Text) (c₀ : PrefixCache) (m : Manager σ) : Prop :=
  ∀ s, m.session? b = some s → c₀.Grows s.cache

variable {c₀ : PrefixCache}

theorem Keeps.of_session? (h : Keeps b c₀ m) (same : m'.session? b = m.session? b) :
    Keeps b c₀ m' :=
  fun s hs => h s (same ▸ hs)

theorem Keeps.of_none (h : m'.session? b = none) : Keeps b c₀ m' := by
  intro s hs
  rw [h] at hs
  cases hs

theorem Keeps.withSession (h : Keeps b c₀ m) (b' : Text) (f : Session → Session)
    (hf : ∀ s, (f s).buffer = s.buffer)
    (grows : b = b' → ∀ s, m.session? b = some s → c₀.Grows (f s).cache) :
    Keeps b c₀ (m.withSession b' f) := by
  intro s' hs'
  rw [session?_withSession m b' b f hf] at hs'
  obtain ⟨s, hs, rfl⟩ := Option.map_eq_some_iff.mp hs'
  split
  · rename_i same
    exact grows same s hs
  · exact h s hs

theorem Keeps.of_sameCaches (h : Keeps b c₀ m) (same : SameCaches m m') : Keeps b c₀ m' := by
  intro s' hs'
  obtain ⟨s, hs, hc⟩ := same.session? hs'
  rw [hc]
  exact h s hs

theorem Keeps.cancelPending (h : Keeps b c₀ m) (b' : Text) :
    Keeps b c₀ (m.cancelPending svc b') :=
  h.of_sameCaches (sameCaches_cancelPending m svc b')

theorem Keeps.noteFailure (h : Keeps b c₀ m) (b' : Text) (f : Fault) :
    Keeps b c₀ (m.noteFailure b' f) :=
  h.of_sameCaches (sameCaches_noteFailure m b' f)

theorem Keeps.afterLookup (h : Keeps b c₀ m) (b' : Text) (c : PrefixCache)
    (grows : b = b' → ∀ s, m.session? b = some s → c₀.Grows c) :
    Keeps b c₀ (m.afterLookup svc b' c) := by
  intro s' hs'
  rw [session?_afterLookup] at hs'
  obtain ⟨s, hs, rfl⟩ := Option.map_eq_some_iff.mp hs'
  split
  · rename_i same
    exact grows same s hs
  · exact h s hs

theorem Keeps.stored (h : Keeps b c₀ m) (b' : Text) (q : Json) (items : List Candidate)
    (free : b = b' → ∀ s, m.session? b = some s → s.cache.find? q.display = none) :
    Keeps b c₀ (m.stored b' q items) :=
  h.withSession b' _ (fun _ => rfl) fun same s hs =>
    (h s hs).trans (PrefixCache.grows_put (free same s hs) items true)

theorem Keeps.captured (h : Keeps b c₀ m) (t : Nat) (cap : Capture)
    (now : Option (Except Fault (List Suggestion))) : Keeps b c₀ (m.captured t cap now) :=
  h.of_sameCaches (sameCaches_captured m t cap now)

theorem Keeps.supersedeAll (h : Keeps b c₀ m) (xs : List Session) :
    Keeps b c₀ (m.supersedeAll svc xs) := by
  induction xs generalizing m with
  | nil => exact h
  | cons x xs ih =>
      have bumped := h.withSession x.buffer Session.bump (fun _ => rfl) fun _ s hs => h s hs
      exact ih (bumped.cancelPending x.buffer)

theorem Keeps.looked {s : Session} (h : Keeps b c₀ m) (hs : m.session? b' = some s)
    (p : Text) : Keeps b c₀ (m.afterLookup svc b' (s.cache.get p).1) := by
  refine h.afterLookup b' _ fun same s' hs' => ?_
  subst same
  rw [hs] at hs'
  cases hs'
  exact (h s hs).trans (PrefixCache.grows_get s.cache p)

theorem cached_keeps (h : Keeps b c₀ m) (b' lit : Text) (q : Json) :
    Keeps b c₀ (stateOf ((cached svc b' lit q).run m)) := by
  cases hs : m.session? b' with
  | none =>
      rw [cached_run_none hs]
      exact h
  | some s =>
      rw [cached_run hs]
      exact h.looked hs q.display

theorem candidates_keeps (h : Keeps b c₀ m) (room : Nat) (b' lit : Text) (q : Json)
    (view : Text × Json) : Keeps b c₀ (stateOf ((candidates svc room b' lit q view).run m)) := by
  cases hs : m.session? b' with
  | none =>
      rw [candidates_run_none hs]
      exact h
  | some s =>
    have looked : Keeps b c₀ (m.afterLookup svc b' (s.cache.get q.display).1) := h.looked hs _
    rw [candidates_run hs]
    split
    · exact h
    · split
      · exact looked
      · rename_i missed
        have free := PrefixCache.get_miss missed
        split
        · exact looked
        · dsimp only
          split
          · split
            · refine Keeps.noteFailure ?_ b' _
              exact looked.of_session? rfl
            · exact looked.of_session? rfl
          · refine Keeps.of_session? (Keeps.stored ?_ b' q _ fun same s₁ hs₁ => ?_) rfl
            · exact looked.of_session? rfl
            subst same
            change (m.afterLookup svc b (s.cache.get q.display).1).session? b = some s₁ at hs₁
            rw [session?_looked hs] at hs₁
            cases hs₁
            rw [free.1]
            exact free.2

theorem candidatesLater_keeps (h : Keeps b c₀ m) (b' lit : Text) (q : Json) (l : Listener)
    (view : Text × Json) :
    Keeps b c₀ (stateOf ((candidatesLater svc b' lit q l view).run m)) := by
  cases hs : m.session? b' with
  | none =>
      rw [candidatesLater_run_none hs]
      exact h
  | some s =>
    have looked : Keeps b c₀ (m.afterLookup svc b' (s.cache.get q.display).1) := h.looked hs _
    rw [candidatesLater_run hs]
    split
    · rw [stateOf_deliver]
      exact h.of_session? rfl
    · split
      · rw [stateOf_deliver]
        exact looked.of_session? rfl
      · split
        · exact looked
        · dsimp only
          split
          · split
            · rw [stateOf_deliver]
              refine Keeps.of_session? (Keeps.noteFailure ?_ b' _) rfl
              exact looked.of_session? rfl
            · exact looked.of_session? rfl
          · refine Keeps.captured ?_ _ _ _
            exact looked.of_session? rfl

theorem request_keeps (h : Keeps b c₀ m) (room : Nat) (b' lit : Text) (q : Json) (l : Listener)
    (view : Text × Json) : Keeps b c₀ (stateOf ((request svc room b' lit q l view).run m)) := by
  rw [request_run]
  split
  · exact candidatesLater_keeps h b' lit q l view
  · have asked : Keeps b c₀ (stateOf ((candidates svc (room - 1) b' lit q view).run m)) :=
      candidates_keeps h (room - 1) b' lit q view
    cases hr : (candidates svc (room - 1) b' lit q view).run m with
    | ok items m₁ =>
        rw [hr] at asked
        dsimp only
        rw [stateOf_deliver]
        exact asked.of_session? rfl
    | error f m₁ =>
        rw [hr] at asked
        exact asked

theorem step_keeps {c : Call} (hd : c ≠ .drain) (ho : c.opens? ≠ some b) (h : Keeps b c₀ m) :
    Keeps b c₀ (step svc m c) := by
  cases c with
  | openBuffer b' =>
      have hb : b ≠ b' := fun same => ho (by rw [same]; rfl)
      refine h.of_session? ?_
      simp only [step, openBuffer_run, stateOf_ok, session?_withFresh, if_neg hb]
  | closeBuffer b' =>
      simp only [step, closeBuffer_run, stateOf_ok]
      by_cases hb : b = b'
      · exact Keeps.of_none (by rw [session?_withoutBuffer, if_pos hb])
      · exact h.of_session? (by rw [session?_withoutBuffer, if_neg hb])
  | cached b' lit q => exact cached_keeps h b' lit q
  | candidates room b' lit q view => exact candidates_keeps h room b' lit q view
  | candidatesLater b' lit q l view => exact candidatesLater_keeps h b' lit q l view
  | request room b' lit q l view => exact request_keeps h room b' lit q l view
  | updateSettings cfg =>
      simp only [step, updateSettings_run]
      split
      · exact h
      · simp only [stateOf_ok]
        split
        · exact h.of_session? rfl
        · refine Keeps.supersedeAll ?_ _
          exact h.of_session? rfl
  | answer t r => exact h.of_session? (session?_eq_of_sessions (answer_fields svc m t r).2.2.2 b)
  | drain => exact absurd rfl hd
  | shutdown =>
      simp only [step, shutdown_run, stateOf_ok]
      exact Keeps.of_none rfl

theorem step_entry_eq {c : Call} {e e' : CacheEntry} (hd : c ≠ .drain) (ho : c.opens? ≠ some b)
    (he : m.entryAt b k = some e) (he' : (step svc m c).entryAt b k = some e') : e' = e := by
  obtain ⟨s, hs, found⟩ := Option.bind_eq_some_iff.mp he
  obtain ⟨s', hs', found'⟩ := Option.bind_eq_some_iff.mp he'
  have kept : Keeps b s.cache m := by
    intro s₁ hs₁
    rw [hs] at hs₁
    cases hs₁
    exact PrefixCache.Grows.refl _
  have grown := step_keeps hd ho kept s' hs' k e found
  rw [found'] at grown
  exact Option.some.inj grown

theorem step_calm {c : Call} (hd : c ≠ .drain) (calm : ¬Ends b m c) :
    (step svc m c).session? b = m.session? b := by
  by_cases named : c.buffer? = some b
  · exact session?_eq_of_sessions (step_still named calm).sessions b
  · apply step_spares svc
    cases c with
    | updateSettings cfg =>
        intro st hst
        cases on : st.enabled with
        | false => exact absurd (.inl ⟨st, hst, on⟩) calm
        | true => rfl
    | drain => exact absurd rfl hd
    | shutdown => exact absurd (.inl trivial) calm
    | _ => exact named

/-! ## Drains -/

theorem entryAt_of_sameCaches (same : SameCaches m m') (b k : Text) :
    m'.entryAt b k = m.entryAt b k := by
  have through : ∀ m₀ : Manager σ,
      m₀.entryAt b k = ((m₀.session? b).map Session.cache).bind fun c => c.find? k := by
    intro m₀
    unfold entryAt
    cases m₀.session? b <;> rfl
  rw [through, through, same b]

@[simp] theorem entryAt_noteFailure (m : Manager σ) (b' : Text) (f : Fault) :
    (m.noteFailure b' f).entryAt b k = m.entryAt b k :=
  entryAt_of_sameCaches (sameCaches_noteFailure m b' f) b k

theorem entryAt_handOver (m : Manager σ) (a : Answer) (items : List Candidate) :
    (stateOf (m.handOver a items)).entryAt b k = m.entryAt b k :=
  entryAt_eq_of_session? (session?_eq_of_sessions (handOver_fields m a items).1 b) k

theorem entryAt_stored {s : Session} (hs : m.session? b = some s) (q : Json)
    (items : List Candidate) (k : Text) :
    (m.stored b q items).entryAt b k =
      if k = q.display then some ⟨items, true⟩ else s.cache.find? k := by
  have stored : (m.stored b q items).session? b =
      some { s with cache := (s.cache.put q.display items true).1 } := by
    rw [session?_stored, hs]
    simp
  rw [entryAt_of_session? stored]
  split
  · rename_i same
    rw [same]
    exact PrefixCache.find?_put_self _ _ _ _
  · rename_i other
    exact PrefixCache.find?_put_of_ne _ _ _ other

theorem applyAnswer_entry (m : Manager σ) (a : Answer) (b k : Text)
    (text : ∃ t, a.capture.query = .str t) :
    (stateOf ((applyAnswer a).run m)).entryAt b k = m.entryAt b k ∨
      ∃ ss, a.capture.buffer = b ∧ a.capture.query = .str k ∧ a.result = .ok ss ∧
        (stateOf ((applyAnswer a).run m)).entryAt b k =
          some ⟨Candidate.ofSuggestions ss, true⟩ ∧
        (Counts b a.capture.token m ∨ m.entryAt b k = none) := by
  obtain ⟨t, hq⟩ := text
  by_cases hb : a.capture.buffer = b
  swap
  · exact .inl (entryAt_eq_of_session? ((applyAnswer_keeps m a).1 b (Ne.symm hb)) k)
  subst hb
  rw [applyAnswer_run]
  split
  · exact .inl rfl
  · rename_i s hs
    have stores : ∀ ss, (Counts a.capture.buffer a.capture.token m ∨
        m.entryAt a.capture.buffer t = none) → a.result = .ok ss →
        (m.stored a.capture.buffer a.capture.query (Candidate.ofSuggestions ss)).entryAt
            a.capture.buffer k = m.entryAt a.capture.buffer k ∨
          ∃ ss', a.capture.buffer = a.capture.buffer ∧ a.capture.query = .str k ∧
            a.result = .ok ss' ∧
            (m.stored a.capture.buffer a.capture.query (Candidate.ofSuggestions ss)).entryAt
              a.capture.buffer k = some ⟨Candidate.ofSuggestions ss', true⟩ ∧
            (Counts a.capture.buffer a.capture.token m ∨ m.entryAt a.capture.buffer k = none) := by
      intro ss why answered
      rw [entryAt_stored hs, entryAt_of_session? hs, hq, Json.display_str]
      by_cases hk : k = t
      · subst hk
        rw [if_pos rfl, ← entryAt_of_session? hs]
        exact .inr ⟨ss, rfl, rfl, answered, rfl, why⟩
      · rw [if_neg hk]
        exact .inl rfl
    split
    · exact .inl rfl
    · split
      · rename_i f failed
        split
        · exact .inl rfl
        · split
          · exact .inl ((entryAt_handOver _ a []).trans (entryAt_noteFailure m _ f))
          · exact .inl (entryAt_noteFailure m _ f)
      · rename_i ss answered
        split
        · rename_i current
          rw [entryAt_handOver]
          exact stores ss (.inl ((counts_iff_isCurrent hs _).mpr current)) answered
        · split
          · exact .inl rfl
          · exact .inl rfl
          · rename_i absent
            rw [hq, PrefixCache.holds_str, Except.ok.injEq] at absent
            have free : m.entryAt a.capture.buffer t = none := by
              rw [entryAt_of_session? hs]
              exact PrefixCache.find?_eq_none_of_not_contains absent
            exact stores ss (.inr free) answered

theorem applied_entry (m : Manager σ) (as : List Answer) (b k : Text)
    (texts : ∀ a ∈ as, ∃ t, a.capture.query = .str t) :
    (m.applied as).entryAt b k = m.entryAt b k ∨
      ∃ a ∈ as, ∃ ss, a.capture.buffer = b ∧ a.capture.query = .str k ∧
        a.result = .ok ss ∧
        (m.applied as).entryAt b k = some ⟨Candidate.ofSuggestions ss, true⟩ ∧
        (Counts b a.capture.token m ∨ m.entryAt b k = none) := by
  induction as generalizing m with
  | nil => exact .inl rfl
  | cons a as ih =>
      rw [applied_cons]
      have first := applyAnswer_entry m a b k (texts a List.mem_cons_self)
      have kept :
          (stateOf ((applyAnswer a).run m)).entryAt b k = none → m.entryAt b k = none := by
        intro none₁
        rcases first with same | ⟨ss, -, -, -, stored, -⟩
        · rw [← same]
          exact none₁
        · rw [stored] at none₁
          cases none₁
      rcases ih (stateOf ((applyAnswer a).run m)) fun a' h => texts a' (List.mem_cons_of_mem a h)
        with same | ⟨a', ha', ss, hb, hq, hr, last, why⟩
      · rcases first with same₁ | ⟨ss, hb, hq, hr, stored, why⟩
        · exact .inl (same.trans same₁)
        · exact .inr ⟨a, List.mem_cons_self, ss, hb, hq, hr, same.trans stored, why⟩
      · have counted : Counts b a'.capture.token (stateOf ((applyAnswer a).run m)) →
            Counts b a'.capture.token m := (applyAnswer_moves m a b).counts_iff.mp
        exact .inr ⟨a', List.mem_cons_of_mem a ha', ss, hb, hq, hr, last, why.imp counted kept⟩

/-- A drain of answers whose prefixes are texts changes the entry of `b` under `k` only to the
list of a queued answer for `b` and `k` that counts, or that finds no entry under `k`. -/
theorem drain_entry (svc : Service σ) (m : Manager σ) (b k : Text)
    (texts : ∀ a ∈ m.queue, ∃ t, a.capture.query = .str t) :
    (step svc m .drain).entryAt b k = m.entryAt b k ∨
      ∃ a ∈ m.queue, ∃ ss, a.capture.buffer = b ∧ a.capture.query = .str k ∧
        a.result = .ok ss ∧
        (step svc m .drain).entryAt b k = some ⟨Candidate.ofSuggestions ss, true⟩ ∧
        (Counts b a.capture.token m ∨ m.entryAt b k = none) := by
  simp only [step, drain_run, stateOf_ok]
  exact applied_entry { m with queue := [] } m.queue b k texts

/-! ## Requests are made after a lookup that missed -/

theorem Handing.issued {q : Json} {l : Listener} {j : Nat} (h : Handing svc b q l j m m') :
    m'.captures = m.captures ∨
      ∃ s t, m.session? b = some s ∧
        m'.captures = m.captures ++ [(t, ⟨b, q, s.token + 1, l⟩)] ∧
        ∀ k, m'.entryAt b k = (s.cache.get q.display).1.find? k := by
  cases h with
  | now items hl => exact .inl (by rw [record_captures, hl.captures])
  | failed hl => exact .inl hl.captures
  | @later s y hd _ hs _ =>
      refine .inr ⟨s, hd.ticket, hs, by simp, fun k => ?_⟩
      have waited : ({ m.afterLookup svc b (s.cache.get q.display).1 with service := y }.captured
          hd.ticket ⟨b, q, s.token + 1, l⟩ hd.answer).session? b =
          some { s.bump.unpend with
            cache := (s.cache.get q.display).1, pending := some hd.ticket } := by
        rw [session?_captured]
        change ((m.afterLookup svc b (s.cache.get q.display).1).session? b).map _ = _
        rw [session?_looked hs]
        simp
      rw [entryAt_of_session? waited]

theorem candidatesLater_missed {s : Session} (hs : m.session? b = some s) (lit : Text) (q : Json)
    (l : Listener) (view : Text × Json)
    (grown : (stateOf ((candidatesLater svc b lit q l view).run m)).captures ≠ m.captures) :
    (s.cache.get q.display).2 = none := by
  cases hg : (s.cache.get q.display).2 with
  | none => rfl
  | some e =>
      rw [candidatesLater_run hs] at grown
      split at grown
      · rw [stateOf_deliver, record_captures] at grown
        exact absurd rfl grown
      · simp only [hg, stateOf_deliver, record_captures, afterLookup_captures] at grown
        exact absurd rfl grown

theorem candidatesLater_issued (svc : Service σ) (m : Manager σ) (lit : Text) (q : Json)
    (l : Listener) (view : Text × Json) :
    (stateOf ((candidatesLater svc b lit q l view).run m)).captures = m.captures ∨
      ∃ s t, m.session? b = some s ∧
        (stateOf ((candidatesLater svc b lit q l view).run m)).captures =
          m.captures ++ [(t, ⟨b, q, s.token + 1, l⟩)] ∧
        (stateOf ((candidatesLater svc b lit q l view).run m)).entryAt b q.display = none := by
  rcases (candidatesLater_handing svc b lit q l view (m := m)).issued with
    same | ⟨s, t, hs, grown, after⟩
  · exact .inl same
  · have differs :
        (stateOf ((candidatesLater svc b lit q l view).run m)).captures ≠ m.captures := by
      rw [grown]
      simp
    have missed := PrefixCache.get_miss (candidatesLater_missed hs lit q l view differs)
    refine .inr ⟨s, t, hs, grown, ?_⟩
    rw [after, missed.1]
    exact missed.2

theorem step_issued (svc : Service σ) (m : Manager σ) (c : Call) :
    (step svc m c).captures = m.captures ∨
      ∃ x, (step svc m c).captures = m.captures ++ [x] ∧ c.query? = some x.2.query ∧
        (∃ s, m.session? x.2.buffer = some s ∧ x.2.token = s.token + 1) ∧
        (step svc m c).entryAt x.2.buffer x.2.query.display = none := by
  cases c
  case candidatesLater b lit q l view =>
    rcases candidatesLater_issued svc m lit q l view with same | ⟨s, t, hs, grown, missed⟩
    · exact .inl same
    · exact .inr ⟨(t, ⟨b, q, s.token + 1, l⟩), grown, rfl, ⟨s, hs, rfl⟩, missed⟩
  case request room b lit q l view =>
    simp only [step]
    rw [request_run]
    split
    · rcases candidatesLater_issued svc m lit q l view with same | ⟨s, t, hs, grown, missed⟩
      · exact .inl same
      · exact .inr ⟨(t, ⟨b, q, s.token + 1, l⟩), grown, rfl, ⟨s, hs, rfl⟩, missed⟩
    · refine .inl ?_
      have asked := (candidates_local svc b lit (room - 1) q view (m := m)).captures
      cases hr : (candidates svc (room - 1) b lit q view).run m with
      | ok items m₁ =>
          rw [hr] at asked
          simp only [stateOf_deliver, record_captures]
          exact asked
      | error f m₁ =>
          rw [hr] at asked
          exact asked
  all_goals
    rcases step_captures_eq svc m _ with same | ⟨t, cap, -, -, listened⟩
    · exact .inl same
    · cases listened

end Manager

end PhpCompletion
