import PhpCompletion.Proofs.Manager.Frame
import PhpCompletion.Proofs.Cache.Narrowing

/-! # The cache is transparent

Suppose the service is consistent with a fixed list `U` of suggestions: whatever it answers,
now or later, to a request for prefix `p` is a failure or the suggestions of `U` whose name
starts with `p`, in `U`'s order. Then caching changes nothing the editor sees: every list the
manager returns or hands to a receiver for `p` is `queried U p`, the list a query for `p`
would give. The only other list it gives is the empty one, when completion is off or the
service failed.

The invariant behind it (`Transparent`): every entry of every session's cache is complete and
holds the candidates of `U` for its key, and every queued answer fits the prefix it was asked
with. Four writers fill caches: the answer of a query now, a current background answer, a
stale background answer under its own prefix, and the narrowing of a lookup. Each keeps the
invariant, and so does every call of a run whose service keeps its promise (`Honest`).
-/

namespace PhpCompletion

namespace Suggestion

def startingWith (U : List Suggestion) (p : Text) : List Suggestion :=
  U.filter fun s => p.isPrefixOf s.name

/-- A result for prefix `p` that keeps the promise of a service consistent with `U`: a failure,
or the suggestions of `U` for `p`. -/
def Fits (U : List Suggestion) (p : Text) (r : Except Fault (List Suggestion)) : Prop :=
  ∀ ss, r = .ok ss → ss = startingWith U p

end Suggestion

namespace Candidate

def queried (U : List Suggestion) (p : Text) : List Candidate :=
  ofSuggestions (Suggestion.startingWith U p)

theorem queried_eq_startingWith (U : List Suggestion) (p : Text) :
    queried U p = startingWith (ofSuggestions U) p := by
  simp [queried, ofSuggestions, Suggestion.startingWith, startingWith, List.filter_map,
    Function.comp_def, startsWith, ofSuggestion]

end Candidate

namespace PrefixCache

variable {V : List Candidate} {c : PrefixCache}

/-- Every entry is complete and holds the candidates of `V` for its key. -/
def Exact (V : List Candidate) (c : PrefixCache) : Prop :=
  ∀ k e, c.find? k = some e → e.complete = true ∧ e.candidates = Candidate.startingWith V k

theorem exact_empty (V : List Candidate) : empty.Exact V := by
  intro k e he
  simp [find?_empty] at he

theorem Exact.put (h : c.Exact V) (k : Text) :
    (c.put k (Candidate.startingWith V k) true).1.Exact V := by
  intro k' e he
  by_cases hk : k' = k
  · subst hk
    rw [find?_put_self] at he
    cases he
    exact ⟨rfl, rfl⟩
  · rw [find?_put_of_ne c _ _ hk] at he
    exact h k' e he

theorem Exact.get (h : c.Exact V) (p : Text) :
    (c.get p).1.Exact V ∧ ∀ e, (c.get p).2 = some e → e.candidates = Candidate.startingWith V p := by
  have hs : Sound V [] c := fun k e he => Or.inl (h k e he)
  constructor
  · intro k e he
    rcases hs.get p k e he with good | ⟨-, last⟩
    · exact good
    · simp [lastPut, Op.lastUnder] at last
  · intro e he
    rcases hs.get_answer p with none_found | ⟨cs, last, -⟩ | ⟨e', found, -, hc⟩
    · rw [none_found] at he
      cases he
    · simp [lastPut] at last
    · rw [found] at he
      cases he
      exact hc

end PrefixCache

namespace Manager

variable {σ : Type}

/-! ## Exact caches

Every state change keeps the caches of all sessions exact, given that what it stores is exact. -/

/-- Every session's cache is exact for `V`. -/
def CachesExact (V : List Candidate) (m : Manager σ) : Prop :=
  ∀ b s, m.session? b = some s → s.cache.Exact V

variable {V : List Candidate} {m : Manager σ}

theorem CachesExact.withSession (h : CachesExact V m) (b : Text) (f : Session → Session)
    (hf : ∀ s, (f s).buffer = s.buffer) (hc : ∀ s, s.cache.Exact V → (f s).cache.Exact V) :
    CachesExact V (m.withSession b f) := by
  intro b' s' hs'
  rw [session?_withSession m b b' f hf] at hs'
  obtain ⟨s, hs, rfl⟩ := Option.map_eq_some_iff.mp hs'
  split
  · exact hc s (h b' s hs)
  · exact h b' s hs

theorem CachesExact.of_sameCaches {m' : Manager σ} (h : CachesExact V m) (same : SameCaches m m') :
    CachesExact V m' := by
  intro b s' hs'
  obtain ⟨s, hs, hc⟩ := same.session? hs'
  rw [hc]
  exact h b s hs

theorem CachesExact.cancelPending (h : CachesExact V m) (svc : Service σ) (b : Text) :
    CachesExact V (m.cancelPending svc b) :=
  h.of_sameCaches (sameCaches_cancelPending m svc b)

theorem CachesExact.noteFailure (h : CachesExact V m) (b : Text) (f : Fault) :
    CachesExact V (m.noteFailure b f) :=
  h.of_sameCaches (sameCaches_noteFailure m b f)

theorem CachesExact.afterLookup (h : CachesExact V m) (svc : Service σ) (b : Text)
    {c : PrefixCache} (hc : c.Exact V) : CachesExact V (m.afterLookup svc b c) := by
  intro b' s' hs'
  rw [session?_afterLookup] at hs'
  obtain ⟨s, hs, rfl⟩ := Option.map_eq_some_iff.mp hs'
  split
  · exact hc
  · exact h b' s hs

theorem CachesExact.stored (h : CachesExact V m) (b : Text) (q : Json) :
    CachesExact V (m.stored b q (Candidate.startingWith V q.display)) :=
  h.withSession b _ (fun _ => rfl) fun _ hs => hs.put q.display

theorem CachesExact.withoutBuffer (h : CachesExact V m) (svc : Service σ) (b : Text) :
    CachesExact V (m.withoutBuffer svc b) := by
  intro b' s' hs'
  rw [session?_withoutBuffer] at hs'
  split at hs'
  · cases hs'
  · exact h b' s' hs'

theorem CachesExact.withFresh (h : CachesExact V m) (svc : Service σ) (b : Text) :
    CachesExact V (m.withFresh svc b) := by
  intro b' s' hs'
  rw [session?_withFresh] at hs'
  split at hs'
  · cases hs'
    exact PrefixCache.exact_empty V
  · exact h b' s' hs'

theorem CachesExact.captured (h : CachesExact V m) (t : Nat) (cap : Capture)
    (now : Option (Except Fault (List Suggestion))) : CachesExact V (m.captured t cap now) :=
  h.of_sameCaches (sameCaches_captured m t cap now)

theorem CachesExact.supersedeAll (h : CachesExact V m) (svc : Service σ) (xs : List Session) :
    CachesExact V (m.supersedeAll svc xs) := by
  induction xs generalizing m with
  | nil => exact h
  | cons x xs ih =>
      exact ih ((h.withSession x.buffer Session.bump (fun _ => rfl) fun _ hs => hs).cancelPending svc
        x.buffer)

/-! ## The invariant and the service's promise -/

/-- The caches are exact for the candidates of `U`, and every queued answer fits the prefix it
was asked with. -/
structure Transparent (U : List Suggestion) (m : Manager σ) : Prop where
  caches : CachesExact (Candidate.ofSuggestions U) m
  queue : ∀ a ∈ m.queue, Suggestion.Fits U a.capture.query.display a.result

def QueryFits (U : List Suggestion) (svc : Service σ) (m : Manager σ) (r : Nat) (b : Text)
    (q : Json) (view : Text × Json) : Prop :=
  ∀ s, m.session? b = some s → m.settings.enabled = true → (s.cache.get q.display).2 = none →
    ∀ st, Session.readView view = .ok st →
      Suggestion.Fits U q.display (svc.query r st.1 st.2 (m.cancelPending svc b).service).1

def SubmitFits (U : List Suggestion) (svc : Service σ) (m : Manager σ) (b : Text) (q : Json)
    (view : Text × Json) : Prop :=
  ∀ s, m.session? b = some s → m.settings.enabled = true → (s.cache.get q.display).2 = none →
    ∀ st, Session.readView view = .ok st →
      ∀ hd, (svc.submit st.1 st.2 (m.cancelPending svc b).service).1 = .ok hd →
        ∀ r, hd.answer = some r → Suggestion.Fits U q.display r

/-- The service keeps its promise on a call: every answer it gives, now, at once or later, fits
the prefix of the request it answers. -/
def Honest (U : List Suggestion) (svc : Service σ) (m : Manager σ) : Call → Prop
  | .candidates room b _ q view => QueryFits U svc m (room - 1) b q view
  | .candidatesLater b _ q _ view => SubmitFits U svc m b q view
  | .request room b _ q _ view =>
      if m.settings.background = true then SubmitFits U svc m b q view
      else QueryFits U svc m (room - 1 - 1) b q view
  | .answer t r => ∀ t' cap, m.captures.find? (fun c => c.1 == t) = some (t', cap) →
      Suggestion.Fits U cap.query.display r
  | _ => True

def QueryFailed (svc : Service σ) (m : Manager σ) (r : Nat) (b : Text) (view : Text × Json) :
    Prop :=
  ∃ st f, Session.readView view = .ok st ∧
    (svc.query r st.1 st.2 (m.cancelPending svc b).service).1 = .error f

def SubmitFailed (svc : Service σ) (m : Manager σ) (b : Text) (view : Text × Json) : Prop :=
  ∃ st f, Session.readView view = .ok st ∧
    (svc.submit st.1 st.2 (m.cancelPending svc b).service).1 = .error f

/-- A list handed out for prefix `p`: the list a query gives, or an empty one for reason `why`. -/
def Queried (U : List Suggestion) (p : Text) (why : Prop) (items : List Candidate) : Prop :=
  items = Candidate.queried U p ∨ (items = [] ∧ why)

/-! ## One call

Each operation keeps the invariant, and what it returns or hands to a receiver is the list a
query gives or an empty one for a reason. -/

variable {U : List Suggestion} {svc : Service σ} {b lit : Text}

theorem Transparent.afterLookup (ht : Transparent U m) (svc : Service σ) (b : Text)
    {c : PrefixCache} (hc : c.Exact (Candidate.ofSuggestions U)) :
    Transparent U (m.afterLookup svc b c) :=
  ⟨ht.caches.afterLookup svc b hc, by simpa using ht.queue⟩

theorem Transparent.withService (ht : Transparent U m) (x : σ) :
    Transparent U { m with service := x } :=
  ⟨ht.caches, ht.queue⟩

theorem Transparent.noteFailure (ht : Transparent U m) (b : Text) (f : Fault) :
    Transparent U (m.noteFailure b f) :=
  ⟨ht.caches.noteFailure b f, by simpa using ht.queue⟩

theorem cached_transparent (ht : Transparent U m) (q : Json) :
    Transparent U (stateOf ((cached svc b lit q).run m)) ∧
      ∀ cands m', (cached svc b lit q).run m = .ok (some cands) m' →
        cands = Candidate.queried U q.display := by
  cases hs : m.session? b with
  | none =>
      rw [cached_run_none hs]
      exact ⟨ht, fun _ _ h => by cases h⟩
  | some s =>
      have looked := (ht.caches b s hs).get q.display
      rw [cached_run hs]
      refine ⟨ht.afterLookup svc b looked.1, fun cands m' h => ?_⟩
      cases hg : (s.cache.get q.display).2 with
      | none => simp [hg] at h
      | some e =>
          simp only [hg, Option.map_some, EStateM.Result.ok.injEq, Option.some.injEq] at h
          rw [Candidate.queried_eq_startingWith, ← h.1]
          exact looked.2 e hg

theorem candidates_transparent (ht : Transparent U m) (lit : Text) (room : Nat) (q : Json)
    (view : Text × Json) (hh : QueryFits U svc m (room - 1) b q view) :
    Transparent U (stateOf ((candidates svc room b lit q view).run m)) ∧
      ∀ items m', (candidates svc room b lit q view).run m = .ok items m' →
        Queried U q.display (m.settings.enabled = false ∨ QueryFailed svc m (room - 1) b view)
          items := by
  cases hs : m.session? b with
  | none =>
      rw [candidates_run_none hs]
      exact ⟨ht, fun _ _ h => by cases h⟩
  | some s =>
    rw [candidates_run hs]
    by_cases he : m.settings.enabled = false
    · rw [if_pos he]
      refine ⟨ht, fun items m' h => ?_⟩
      cases h
      exact Or.inr ⟨rfl, Or.inl he⟩
    · have enabled : m.settings.enabled = true := by simpa using he
      have looked := (ht.caches b s hs).get q.display
      have ht₁ := ht.afterLookup svc b looked.1
      rw [if_neg he]
      cases hg : (s.cache.get q.display).2 with
      | some e =>
          refine ⟨ht₁, fun items m' h => ?_⟩
          cases h
          left
          rw [Candidate.queried_eq_startingWith]
          exact looked.2 e hg
      | none =>
          cases hv : Session.readView view with
          | error f => exact ⟨ht₁, fun _ _ h => by cases h⟩
          | ok st =>
              have promise := hh s hs enabled hg st hv
              have service : (m.afterLookup svc b (s.cache.get q.display).1).service =
                  (m.cancelPending svc b).service := afterLookup_service _
              rw [← service] at promise
              dsimp only
              generalize m.afterLookup svc b (s.cache.get q.display).1 = m₁ at ht₁ promise service
              cases hq : (svc.query (room - 1) st.1 st.2 m₁.service).1 with
              | error f =>
                  have failed : QueryFailed svc m (room - 1) b view := ⟨st, f, hv, service ▸ hq⟩
                  dsimp only
                  by_cases hf : f.isQueryFailure = true
                  · rw [if_pos hf]
                    refine ⟨(ht₁.withService _).noteFailure b f, fun items m' h => ?_⟩
                    cases h
                    exact Or.inr ⟨rfl, Or.inr failed⟩
                  · rw [if_neg hf]
                    exact ⟨ht₁.withService _, fun _ _ h => by cases h⟩
              | ok ss =>
                  have answered : Candidate.ofSuggestions ss =
                      Candidate.startingWith (Candidate.ofSuggestions U) q.display := by
                    rw [promise ss hq, ← Candidate.queried_eq_startingWith]
                    rfl
                  dsimp only
                  rw [answered]
                  refine ⟨⟨CachesExact.stored (m := { m₁ with service := _ }) ht₁.caches b q,
                    by simpa using ht₁.queue⟩, fun items m' h => ?_⟩
                  cases h
                  exact Or.inl (Candidate.queried_eq_startingWith U q.display).symm

theorem Transparent.record (ht : Transparent U m) (e : Event) : Transparent U (m.record e) :=
  ⟨ht.caches, ht.queue⟩

theorem candidatesLater_transparent (ht : Transparent U m) (q : Json) (l : Listener)
    (view : Text × Json) (hh : SubmitFits U svc m b q view) :
    Transparent U (stateOf ((candidatesLater svc b lit q l view).run m)) ∧
      Adds m (stateOf ((candidatesLater svc b lit q l view).run m))
        (HandsTo l.name
          (Queried U q.display (m.settings.enabled = false ∨ SubmitFailed svc m b view))) := by
  cases hs : m.session? b with
  | none =>
      rw [candidatesLater_run_none hs]
      exact ⟨ht, Adds.of_events_eq rfl⟩
  | some s =>
    rw [candidatesLater_run hs]
    by_cases he : m.settings.enabled = false
    · rw [if_pos he, stateOf_deliver]
      exact ⟨ht.record _, adds_record _ (handsTo_delivered (Or.inr ⟨rfl, Or.inl he⟩))⟩
    · have enabled : m.settings.enabled = true := by simpa using he
      have looked := (ht.caches b s hs).get q.display
      have ht₁ := ht.afterLookup svc b looked.1
      have same : Adds m (m.afterLookup svc b (s.cache.get q.display).1)
          (HandsTo l.name
            (Queried U q.display (m.settings.enabled = false ∨ SubmitFailed svc m b view))) :=
        Adds.of_events_eq (by simp)
      rw [if_neg he]
      cases hg : (s.cache.get q.display).2 with
      | some e =>
          dsimp only
          rw [stateOf_deliver]
          have hit : Queried U q.display (m.settings.enabled = false ∨ SubmitFailed svc m b view)
              e.candidates := by
            left
            rw [Candidate.queried_eq_startingWith]
            exact looked.2 e hg
          exact ⟨ht₁.record _, same.trans (adds_record _ (handsTo_delivered hit))⟩
      | none =>
          cases hv : Session.readView view with
          | error f => exact ⟨ht₁, same⟩
          | ok st =>
              have service : (m.afterLookup svc b (s.cache.get q.display).1).service =
                  (m.cancelPending svc b).service := afterLookup_service _
              have promise := hh s hs enabled hg st hv
              rw [← service] at promise
              dsimp only
              generalize m.afterLookup svc b (s.cache.get q.display).1 = m₁ at ht₁ promise service same
              cases hq : (svc.submit st.1 st.2 m₁.service).1 with
              | error f =>
                  have failed : SubmitFailed svc m b view := ⟨st, f, hv, service ▸ hq⟩
                  dsimp only
                  by_cases hf : f.isValueFault = true
                  · rw [if_pos hf, stateOf_deliver]
                    exact ⟨((ht₁.withService _).noteFailure b f).record _,
                      (same.trans (adds_noteFailure_handsTo
                        (m := { m₁ with service := (svc.submit st.1 st.2 m₁.service).2 }) b f _ _)).trans
                        (adds_record _ (handsTo_delivered (Or.inr ⟨rfl, Or.inr failed⟩)))⟩
                  · rw [if_neg hf]
                    exact ⟨ht₁.withService _, same⟩
              | ok hd =>
                  dsimp only
                  refine ⟨⟨?_, ?_⟩, same.trans (Adds.of_events_eq rfl)⟩
                  · exact CachesExact.captured
                      (m := { m₁ with service := (svc.submit st.1 st.2 m₁.service).2 }) ht₁.caches _ _ _
                  · intro a ha
                    simp only [stateOf_ok, captured_queue, List.mem_append] at ha
                    rcases ha with old | now
                    · exact ht₁.queue a old
                    · cases hr : hd.answer with
                      | none => simp [hr] at now
                      | some r =>
                          simp only [hr, Option.map_some, Option.toList_some, List.mem_singleton] at now
                          subst now
                          exact promise hd hq r hr


theorem request_transparent (ht : Transparent U m) (room : Nat) (q : Json) (l : Listener)
    (view : Text × Json) (hh : Honest U svc m (.request room b lit q l view)) :
    Transparent U (stateOf ((request svc room b lit q l view).run m)) ∧
      Adds m (stateOf ((request svc room b lit q l view).run m))
        (HandsTo l.name (Queried U q.display (m.settings.enabled = false ∨
          if m.settings.background = true then SubmitFailed svc m b view
          else QueryFailed svc m (room - 1 - 1) b view))) := by
  rw [request_run]
  by_cases hbg : m.settings.background = true
  · simp only [Honest, hbg, if_true] at hh ⊢
    exact candidatesLater_transparent ht q l view hh
  · have foreground : m.settings.background = false := by simpa using hbg
    simp only [Honest, foreground, Bool.false_eq_true, if_false] at hh ⊢
    obtain ⟨ht', returned⟩ := candidates_transparent ht lit (room - 1) q view hh
    have quiet := (candidates_local (m := m) svc b lit (room - 1) q view).quiet
    cases hr : (candidates svc (room - 1) b lit q view).run m with
    | ok items m' =>
        rw [hr] at ht' quiet
        dsimp only
        rw [stateOf_deliver]
        exact ⟨ht'.record _, (quiet.mono fun _ h => h.handsTo _ _).trans
          (adds_record _ (handsTo_delivered (returned items m' hr)))⟩
    | error f m' =>
        rw [hr] at ht' quiet
        exact ⟨ht', quiet.mono fun _ h => h.handsTo _ _⟩

theorem CachesExact.of_sessions {V : List Candidate} {m' : Manager σ} (h : CachesExact V m)
    (hs : m'.sessions = m.sessions) : CachesExact V m' := by
  intro b s hb
  unfold session? at hb
  rw [hs] at hb
  exact h b s hb

theorem applyAnswer_transparent (hc : CachesExact (Candidate.ofSuggestions U) m) (a : Answer)
    (ha : Suggestion.Fits U a.capture.query.display a.result) :
    CachesExact (Candidate.ofSuggestions U) (stateOf ((applyAnswer a).run m)) ∧
      (stateOf ((applyAnswer a).run m)).queue = m.queue ∧
      Adds m (stateOf ((applyAnswer a).run m))
        (HandsTo a.capture.listener.name
          (Queried U a.capture.query.display (∃ f, a.result = .error f))) := by
  rw [applyAnswer_run]
  split
  · exact ⟨hc, rfl, Adds.of_events_eq rfl⟩
  · split
    · exact ⟨hc, rfl, Adds.of_events_eq rfl⟩
    · split
      · rename_i f hr
        split
        · exact ⟨hc, rfl, Adds.of_events_eq rfl⟩
        · split
          · obtain ⟨hs, hq, -⟩ := handOver_fields (m.noteFailure a.capture.buffer f) a []
            refine ⟨(hc.noteFailure _ f).of_sessions hs, hq.trans (by simp),
              (adds_noteFailure_handsTo _ f _ _).trans ((adds_handOver a []).mono ?_)⟩
            intro e he n items hd
            obtain ⟨hn, rfl⟩ := he n items hd
            exact ⟨hn, Or.inr ⟨rfl, f, hr⟩⟩
          · exact ⟨hc.noteFailure _ f, by simp, adds_noteFailure_handsTo _ f _ _⟩
      · rename_i ss hr
        have answered : Candidate.ofSuggestions ss =
            Candidate.startingWith (Candidate.ofSuggestions U) a.capture.query.display := by
          rw [ha ss hr, ← Candidate.queried_eq_startingWith]
          rfl
        split
        · rw [answered]
          obtain ⟨hs, hq, -⟩ := handOver_fields (m.stored a.capture.buffer a.capture.query
            (Candidate.startingWith (Candidate.ofSuggestions U) a.capture.query.display)) a
            (Candidate.startingWith (Candidate.ofSuggestions U) a.capture.query.display)
          refine ⟨(hc.stored _ _).of_sessions hs, hq.trans (by simp),
            (Adds.of_events_eq rfl).trans ((adds_handOver a _).mono ?_)⟩
          intro e he n items hd
          obtain ⟨hn, rfl⟩ := he n items hd
          exact ⟨hn, Or.inl (Candidate.queried_eq_startingWith U _).symm⟩
        · split
          · exact ⟨hc, rfl, Adds.of_events_eq rfl⟩
          · exact ⟨hc, rfl, Adds.of_events_eq rfl⟩
          · rw [answered]
            exact ⟨hc.stored _ _, rfl, Adds.of_events_eq rfl⟩

theorem applied_transparent (hc : CachesExact (Candidate.ofSuggestions U) m) (as : List Answer)
    (ha : ∀ a ∈ as, Suggestion.Fits U a.capture.query.display a.result) :
    CachesExact (Candidate.ofSuggestions U) (m.applied as) ∧ (m.applied as).queue = m.queue ∧
      Adds m (m.applied as) fun e => ∀ n items, e = .delivered n items →
        ∃ a ∈ as, n = a.capture.listener.name ∧
          Queried U a.capture.query.display (∃ f, a.result = .error f) items := by
  induction as generalizing m with
  | nil => exact ⟨hc, rfl, Adds.of_events_eq rfl⟩
  | cons a as ih =>
      obtain ⟨hc₁, hq₁, adds₁⟩ := applyAnswer_transparent hc a (ha a List.mem_cons_self)
      obtain ⟨hc₂, hq₂, adds₂⟩ := ih hc₁ fun a' h => ha a' (List.mem_cons_of_mem a h)
      rw [applied_cons]
      refine ⟨hc₂, hq₂.trans hq₁, (adds₁.mono ?_).trans (adds₂.mono ?_)⟩
      · intro e he n items hd
        obtain ⟨hn, hok⟩ := he n items hd
        exact ⟨a, List.mem_cons_self, hn, hok⟩
      · intro e he n items hd
        obtain ⟨a', ha', hn, hok⟩ := he n items hd
        exact ⟨a', List.mem_cons_of_mem a ha', hn, hok⟩

theorem drain_transparent (ht : Transparent U m) :
    Transparent U (stateOf ((drain : Step σ Unit).run m)) ∧
      Adds m (stateOf ((drain : Step σ Unit).run m)) fun e => ∀ n items, e = .delivered n items →
        ∃ a ∈ m.queue, n = a.capture.listener.name ∧
          Queried U a.capture.query.display (∃ f, a.result = .error f) items := by
  rw [drain_run, stateOf_ok]
  obtain ⟨hc, hq, adds⟩ := applied_transparent (m := { m with queue := [] }) ht.caches m.queue
    ht.queue
  refine ⟨⟨hc, fun a h => ?_⟩, adds⟩
  rw [hq] at h
  cases h

theorem Transparent.answer (ht : Transparent U m) (t : Nat) (r : Except Fault (List Suggestion))
    (hh : Honest U svc m (.answer t r)) : Transparent U (stateOf ((answer t r).run m)) := by
  rw [answer_run, stateOf_ok]
  split
  · rename_i t' cap found
    refine ⟨ht.caches, fun a ha => ?_⟩
    rcases List.mem_append.mp ha with old | now
    · exact ht.queue a old
    · rw [List.mem_singleton] at now
      subst now
      exact hh t' cap found
  · exact ht

/-- Every call the service is honest on keeps the invariant. -/
theorem Transparent.after (ht : Transparent U m) (c : Call) (hh : Honest U svc m c) :
    Transparent U (step svc m c) := by
  cases c with
  | openBuffer b =>
      simp only [step, openBuffer_run, stateOf_ok]
      exact ⟨ht.caches.withFresh svc b, by simpa using ht.queue⟩
  | closeBuffer b =>
      simp only [step, closeBuffer_run, stateOf_ok]
      exact ⟨ht.caches.withoutBuffer svc b, by simpa using ht.queue⟩
  | cached b lit q => exact (cached_transparent ht q).1
  | candidates room b lit q view => exact (candidates_transparent ht lit room q view hh).1
  | candidatesLater b lit q l view => exact (candidatesLater_transparent ht q l view hh).1
  | request room b lit q l view => exact (request_transparent ht room q l view hh).1
  | updateSettings cfg =>
      simp only [step, updateSettings_run]
      cases Settings.normalize cfg with
      | error f => exact ht
      | ok st =>
          simp only [stateOf_ok]
          split
          · exact ⟨ht.caches, ht.queue⟩
          · exact ⟨CachesExact.supersedeAll
              (m := { m with settings := st, service := svc.configure st m.service })
              ht.caches svc m.sessions, by simpa using ht.queue⟩
  | answer t r => exact ht.answer t r hh
  | drain => exact (drain_transparent ht).1
  | shutdown =>
      simp only [step, shutdown_run, stateOf_ok]
      exact ⟨fun b s h => (by cases h), by simpa using ht.queue⟩

theorem transparent_run {cfg : Json} {σ₀ : σ} {m₀ : Manager σ} (h₀ : create cfg σ₀ = .ok m₀)
    {cs : List Call} (hcs : Admits svc (Honest U svc) m₀ cs) :
    Transparent U (runCalls svc m₀ cs) := by
  obtain ⟨hs, hq, -, -⟩ := create_eq h₀
  have start : Transparent U m₀ :=
    ⟨fun b s h => by simp [session?, hs] at h, fun a ha => by simp [hq] at ha⟩
  exact Admits.invariant (fun m c ht hh => ht.after c hh) start hcs


/-- With a service consistent with `U`, the cache is invisible: after any run from a new
manager, what a lookup returns, what asking now returns, and what asking later, a request or
draining the queue hands to a receiver is the list a query for the prefix would give, or an
empty list because completion is off or the service failed. -/
theorem lists_match_fresh_queries (U : List Suggestion) (svc : Service σ) {cfg : Json} {σ₀ : σ}
    {m₀ : Manager σ} (h₀ : create cfg σ₀ = .ok m₀) (cs : List Call)
    (hcs : Admits svc (Honest U svc) m₀ cs) :
    let m := runCalls svc m₀ cs
    (∀ b lit q cands m', (cached svc b lit q).run m = .ok (some cands) m' →
      cands = Candidate.queried U q.display) ∧
    (∀ room b lit q view items m', Honest U svc m (.candidates room b lit q view) →
      (candidates svc room b lit q view).run m = .ok items m' →
      Queried U q.display (m.settings.enabled = false ∨ QueryFailed svc m (room - 1) b view)
        items) ∧
    (∀ b lit q l view, Honest U svc m (.candidatesLater b lit q l view) →
      Adds m (step svc m (.candidatesLater b lit q l view))
        (HandsTo l.name
          (Queried U q.display (m.settings.enabled = false ∨ SubmitFailed svc m b view)))) ∧
    (∀ room b lit q l view, Honest U svc m (.request room b lit q l view) →
      Adds m (step svc m (.request room b lit q l view))
        (HandsTo l.name (Queried U q.display (m.settings.enabled = false ∨
          if m.settings.background = true then SubmitFailed svc m b view
          else QueryFailed svc m (room - 1 - 1) b view)))) ∧
    Adds m (step svc m .drain) fun e => ∀ n items, e = .delivered n items →
      ∃ a ∈ m.queue, n = a.capture.listener.name ∧
        Queried U a.capture.query.display (∃ f, a.result = .error f) items := by
  intro m
  have ht : Transparent U m := transparent_run h₀ hcs
  refine ⟨?cached, ?now, ?later, ?request, ?drain⟩
  case cached => exact fun b lit q cands m' h => (cached_transparent ht q).2 cands m' h
  case now => exact fun room b lit q view items m' hh h =>
    (candidates_transparent ht lit room q view hh).2 items m' h
  case later => exact fun b lit q l view hh => (candidatesLater_transparent ht q l view hh).2
  case request => exact fun room b lit q l view hh => (request_transparent ht room q l view hh).2
  case drain => exact (drain_transparent ht).2

def sampleSuggestions : List Suggestion :=
  [⟨Text.ofString "foo", Text.empty, Text.ofString "method", none⟩,
    ⟨Text.ofString "fizz", Text.empty, Text.ofString "method", none⟩,
    ⟨Text.ofString "bar", Text.empty, Text.ofString "method", none⟩]

def sampleStart : Manager Scripted :=
  ⟨Settings.defaults,
    ⟨.ok (Suggestion.startingWith sampleSuggestions (Text.ofString "f")), [], false, []⟩,
    [], [], [], 0, []⟩

def sampleCalls : List Call :=
  [.openBuffer (Text.ofString "a.php"),
    .candidates 100 (Text.ofString "a.php") (Text.ofString "a.php") (.str (Text.ofString "f"))
      (Text.empty, .int 0)]

theorem lists_match_fresh_queries_sample :
    create (.obj []) sampleStart.service = .ok sampleStart ∧
      Admits Scripted.service (Honest sampleSuggestions Scripted.service) sampleStart sampleCalls ∧
      ∀ cands m', (cached Scripted.service (Text.ofString "a.php") (Text.ofString "a.php")
          (.str (Text.ofString "fo"))).run (runCalls Scripted.service sampleStart sampleCalls) =
        .ok (some cands) m' → cands = Candidate.queried sampleSuggestions (Text.ofString "fo") :=
  have created : create (.obj []) sampleStart.service = .ok sampleStart := rfl
  have honest : Admits Scripted.service (Honest sampleSuggestions Scripted.service) sampleStart
      sampleCalls := by
    refine ⟨trivial, ?_, trivial⟩
    intro s _ _ _ st _ ss answered
    injection answered with answered
    exact answered.symm
  ⟨created, honest, (lists_match_fresh_queries sampleSuggestions Scripted.service created
    sampleCalls honest).1 _ _ _⟩

example : ∃ m', (cached Scripted.service (Text.ofString "a.php") (Text.ofString "a.php")
    (.str (Text.ofString "fo"))).run (runCalls Scripted.service sampleStart sampleCalls) =
      .ok (some (Candidate.queried sampleSuggestions (Text.ofString "fo"))) m' := ⟨_, rfl⟩

end Manager

end PhpCompletion
