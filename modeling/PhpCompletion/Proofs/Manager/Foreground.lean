import PhpCompletion.Proofs.Cache.Lookup
import PhpCompletion.Proofs.Manager.Steps

/-! # Looking a prefix up now

`candidates` with completion on and the buffer open. A lookup that hits the cache asks the
service nothing, returns the entry's candidates and records no event (`candidates_hit`). A
lookup that misses reads the buffer's cursor as an integer, and a cursor that reads as none
fails the call before the service is asked (`candidates_unreadable_cursor`). Otherwise the
service is asked exactly once, with the buffer's text and cursor (`candidates_miss`): its
answer is returned, stored as a complete entry under the prefix, which had none, and announced
once under the session's latest token; a failed query returns no candidates, leaves the cache
exactly as it was, announces nothing and reports the failure.

A lookup that finds nothing writes nothing (`PrefixCache.get_miss`), so "the cache as it was"
is the cache before the call, not only the one the lookup left.
-/

namespace PhpCompletion

namespace Manager

variable {σ : Type} {m : Manager σ} {svc : Service σ} {b lit : Text} {s : Session}

theorem noteFailure_events (h : m.session? b = some s) (f : Fault) :
    (m.noteFailure b f).events =
      m.events ++ if f.reportKind ∈ s.reported then [] else [.status (statusOf f)] := by
  unfold noteFailure
  rw [h]
  by_cases hk : f.reportKind ∈ s.reported <;> simp [hk]

theorem reportKind_mem_noteFailure (h : m.session? b = some s) (f : Fault) :
    ∃ s', (m.noteFailure b f).session? b = some s' ∧ s'.cache = s.cache ∧
      f.reportKind ∈ s'.reported := by
  rw [session?_noteFailure, h]
  by_cases hk : f.reportKind ∈ s.reported
  · exact ⟨s, by simp [hk], rfl, hk⟩
  · exact ⟨{ s with reported := s.reported ++ [f.reportKind] }, by simp [hk], rfl, by simp⟩

theorem session?_afterLookup_own (h : m.session? b = some s) :
    (m.afterLookup svc b s.cache).session? b = some s.bump.unpend :=
  session?_looked h s.cache

section Lookup

variable (svc) (room : Nat) (q : Json) (view : Text × Json)

theorem candidates_hit (hon : m.settings.enabled = true) (h : m.session? b = some s)
    {e : CacheEntry} (hit : (s.cache.get q.display).2 = some e) :
    ∃ m', (candidates svc room b lit q view).run m = .ok e.candidates m' ∧
      m'.service = (m.cancelPending svc b).service ∧ m'.events = m.events := by
  rw [candidates_run h]
  simp only [hon, Bool.true_eq_false, if_false, hit]
  exact ⟨_, rfl, afterLookup_service _, afterLookup_events _⟩

theorem candidates_unreadable_cursor (hon : m.settings.enabled = true)
    (h : m.session? b = some s) (miss : (s.cache.get q.display).2 = none) {f : Fault}
    (hv : Session.readView view = .error f) :
    ∃ m', (candidates svc room b lit q view).run m = .error f m' ∧
      m'.service = (m.cancelPending svc b).service ∧ m'.events = m.events ∧
      ∃ s', m'.session? b = some s' ∧ s'.cache = s.cache := by
  rw [candidates_run h]
  simp only [hon, Bool.true_eq_false, if_false, miss, hv, (PrefixCache.get_miss miss).1]
  exact ⟨_, rfl, afterLookup_service _, afterLookup_events _, _,
    session?_afterLookup_own h, rfl⟩

/-- A miss with a readable cursor asks the service exactly once, with the buffer's text and
cursor. An answer is returned, stored as a complete entry under the prefix, which had none, on
the cache as it was, and announced once under the session's latest token; a failed query gives
no candidates, leaves the cache as it was, announces nothing and reports the failure. -/
theorem candidates_miss (hon : m.settings.enabled = true) (h : m.session? b = some s)
    (miss : (s.cache.get q.display).2 = none) {src : Text} {off : Int}
    (hv : Session.readView view = .ok (src, off)) :
    let asked := svc.query (room - 1) src off (m.cancelPending svc b).service
    (stateOf ((candidates svc room b lit q view).run m)).service = asked.2 ∧
    (∀ ss, asked.1 = .ok ss → ∃ m' s',
      (candidates svc room b lit q view).run m = .ok (Candidate.ofSuggestions ss) m' ∧
      m'.session? b = some s' ∧ s.cache.find? q.display = none ∧
      s'.cache = (s.cache.put q.display (Candidate.ofSuggestions ss) true).1 ∧
      m'.events = m.events ++ [.ready b q s'.token (Candidate.ofSuggestions ss)]) ∧
    (∀ f, asked.1 = .error f → f.isQueryFailure = true → ∃ m' s',
      (candidates svc room b lit q view).run m = .ok [] m' ∧
      m'.session? b = some s' ∧ s'.cache = s.cache ∧ f.reportKind ∈ s'.reported ∧
      m'.events = m.events ++
        if f.reportKind ∈ s.reported then [] else [.status (statusOf f)]) := by
  intro asked
  have looked : ∀ x : σ, ({ m.afterLookup svc b s.cache with service := x }).session? b =
      some s.bump.unpend := fun _ =>
    (session?_eq_of_sessions rfl b).trans (session?_afterLookup_own h)
  rw [candidates_run h]
  simp only [hon, Bool.true_eq_false, if_false, miss, hv, (PrefixCache.get_miss miss).1,
    afterLookup_service]
  refine ⟨?_, fun ss hok => ?_, fun f hf hq => ?_⟩
  · cases asked.1 with
    | ok ss => rfl
    | error f =>
        by_cases hq : f.isQueryFailure = true
        · simp only [hq, if_true]
          exact (noteFailure_fields _ _ _).2.2.2
        · simp only [hq, Bool.false_eq_true, if_false]
          rfl
  · simp only [asked] at hok
    simp only [hok]
    refine ⟨_, { s.bump.unpend with cache := (s.cache.put q.display _ true).1 }, rfl, ?_,
      (PrefixCache.get_miss miss).2, rfl, by simp [stored]⟩
    rw [session?_record, session?_stored, looked]
    simp
  · simp only [asked] at hf
    simp only [hf, hq, if_true]
    obtain ⟨s', hs', cache, kind⟩ := reportKind_mem_noteFailure (looked asked.2) f
    refine ⟨_, s', rfl, hs', by simpa using cache, kind, ?_⟩
    rw [noteFailure_events (looked asked.2)]
    simp only [afterLookup_events, Session.unpend_reported, Session.bump_reported]
    rfl

/-- The lookup now, on every state with completion on and the buffer open. The service is asked
only on a miss whose cursor reads as an integer, and then exactly once, with the buffer's text
and cursor. A hit returns the entry's candidates and records nothing; a miss whose cursor reads
as none fails before the service is asked, with the cache and the events as they were; an
answer is returned, cached as a complete entry under the prefix, which had none, and announced
once under the session's latest token; a failed query gives no candidates, leaves the cache as
it was, announces nothing and reports the failure. -/
theorem candidates_asks_only_on_readable_miss (hon : m.settings.enabled = true)
    (h : m.session? b = some s) :
    (∀ e, (s.cache.get q.display).2 = some e → ∃ m',
      (candidates svc room b lit q view).run m = .ok e.candidates m' ∧
      m'.service = (m.cancelPending svc b).service ∧ m'.events = m.events) ∧
    ((s.cache.get q.display).2 = none → ∀ f, Session.readView view = .error f → ∃ m',
      (candidates svc room b lit q view).run m = .error f m' ∧
      m'.service = (m.cancelPending svc b).service ∧ m'.events = m.events ∧
      ∃ s', m'.session? b = some s' ∧ s'.cache = s.cache) ∧
    ((s.cache.get q.display).2 = none → ∀ src off, Session.readView view = .ok (src, off) →
      let asked := svc.query (room - 1) src off (m.cancelPending svc b).service
      (stateOf ((candidates svc room b lit q view).run m)).service = asked.2 ∧
      (∀ ss, asked.1 = .ok ss → ∃ m' s',
        (candidates svc room b lit q view).run m = .ok (Candidate.ofSuggestions ss) m' ∧
        m'.session? b = some s' ∧ s.cache.find? q.display = none ∧
        s'.cache = (s.cache.put q.display (Candidate.ofSuggestions ss) true).1 ∧
        m'.events = m.events ++ [.ready b q s'.token (Candidate.ofSuggestions ss)]) ∧
      (∀ f, asked.1 = .error f → f.isQueryFailure = true → ∃ m' s',
        (candidates svc room b lit q view).run m = .ok [] m' ∧
        m'.session? b = some s' ∧ s'.cache = s.cache ∧ f.reportKind ∈ s'.reported ∧
        m'.events = m.events ++
          if f.reportKind ∈ s.reported then [] else [.status (statusOf f)])) :=
  ⟨fun _ hit => candidates_hit svc room q view hon h hit,
    fun miss _ hv => candidates_unreadable_cursor svc room q view hon h miss hv,
    fun miss _ _ hv => candidates_miss svc room q view hon h miss hv⟩

end Lookup

def lookupStart : Manager Scripted :=
  ⟨Settings.defaults, Scripted.initial, [Session.fresh (Text.ofString "a.php") 0], [], [], 1, []⟩

theorem candidates_asks_only_on_readable_miss_sample :
    lookupStart.settings.enabled = true ∧
      lookupStart.session? (Text.ofString "a.php") = some (Session.fresh (Text.ofString "a.php") 0) ∧
      (stateOf ((candidates Scripted.service 100 (Text.ofString "a.php") (Text.ofString "a.php")
        (.str (Text.ofString "f")) (Text.ofString "<?php\n$this->f", .int 14)).run
          lookupStart)).service.calls = [(Text.ofString "<?php\n$this->f", 14)] := by
  have hon : lookupStart.settings.enabled = true := rfl
  have h : lookupStart.session? (Text.ofString "a.php") =
      some (Session.fresh (Text.ofString "a.php") 0) := rfl
  obtain ⟨-, -, miss⟩ := candidates_asks_only_on_readable_miss Scripted.service 100
    (.str (Text.ofString "f")) (Text.ofString "<?php\n$this->f", .int 14) hon h
  refine ⟨hon, h, ?_⟩
  rw [(miss rfl _ _ rfl).1]
  rfl

/-- A cursor that reads as no integer fails a lookup that misses before the service is asked:
the scripted service records no call. -/
theorem unreadable_cursor_fails_before_query :
    ∃ m', (candidates Scripted.service 100 (Text.ofString "a.php") (Text.ofString "a.php")
        (.str (Text.ofString "f")) (Text.ofString "<?php\n$this->f", .str (Text.ofString "x"))).run
          lookupStart = .error (.integer (.invalidLiteral (Text.ofString "x"))) m' ∧
      m'.service.calls = [] :=
  ⟨_, rfl, rfl⟩

end Manager

end PhpCompletion
