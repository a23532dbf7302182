import PhpCompletion.Proofs.Manager.Run

/-! # What a call leaves alone

Most facts about runs rest on what a call does not change. `Adds m m' P` says that `m'` keeps
the events of `m` and adds only events that satisfy `P`; a `Quiet` event hands no list to a
receiver. `Local b m m'` says that `m'` differs from `m` only in the session of `b`, the
service's state and quiet events: a lookup and asking now are local to their buffer.
-/

namespace PhpCompletion

/-- What decides whether an answer still counts for a session: its token and whether it is
closed. -/
def Session.stamp (s : Session) : Nat × Bool := (s.token, s.closed)

namespace Manager

variable {σ : Type}

/-! ## Events a step adds -/


/-- `m'` keeps the events of `m` and adds only events that satisfy `P`. -/
def Adds (m m' : Manager σ) (P : Event → Prop) : Prop :=
  ∃ new, m'.events = m.events ++ new ∧ ∀ e ∈ new, P e

/-- An event that hands a list to a receiver hands it to `n`, and a list that `ok` allows. -/
def HandsTo (n : Json) (ok : List Candidate → Prop) (e : Event) : Prop :=
  ∀ n' items, e = .delivered n' items → n' = n ∧ ok items

variable {P Q : Event → Prop} {m m' m'' : Manager σ}

theorem Adds.of_events_eq (h : m'.events = m.events) : Adds m m' P :=
  ⟨[], by simp [h], by simp⟩

theorem Adds.trans (h : Adds m m' P) (h' : Adds m' m'' P) : Adds m m'' P := by
  obtain ⟨new, hnew, hP⟩ := h
  obtain ⟨new', hnew', hP'⟩ := h'
  refine ⟨new ++ new', by simp [hnew', hnew], ?_⟩
  intro e he
  rcases List.mem_append.mp he with he | he
  · exact hP e he
  · exact hP' e he

theorem Adds.mono (h : Adds m m' P) (hPQ : ∀ e, P e → Q e) : Adds m m' Q := by
  obtain ⟨new, hnew, hP⟩ := h
  exact ⟨new, hnew, fun e he => hPQ e (hP e he)⟩

theorem adds_record (e : Event) (he : P e) : Adds m (m.record e) P :=
  ⟨[e], rfl, by simpa using he⟩

theorem adds_noteFailure (b : Text) (f : Fault) :
    Adds m (m.noteFailure b f) fun e => ∃ t, e = .status t := by
  unfold noteFailure
  split
  · exact Adds.of_events_eq rfl
  · split
    · exact Adds.of_events_eq rfl
    · exact adds_record _ ⟨_, rfl⟩

theorem handsTo_status (n : Json) (ok : List Candidate → Prop) (t : Text) :
    HandsTo n ok (.status t) := by
  intro n' items h
  cases h

theorem handsTo_ready (n : Json) (ok : List Candidate → Prop) (b : Text) (q : Json) (k : Nat)
    (items : List Candidate) : HandsTo n ok (.ready b q k items) := by
  intro n' items' h
  cases h

theorem handsTo_delivered {n : Json} {ok : List Candidate → Prop} {items : List Candidate}
    (h : ok items) : HandsTo n ok (.delivered n items) := by
  intro n' items' he
  cases he
  exact ⟨rfl, h⟩

theorem adds_noteFailure_handsTo (b : Text) (f : Fault) (n : Json) (ok : List Candidate → Prop) :
    Adds m (m.noteFailure b f) (HandsTo n ok) :=
  (adds_noteFailure b f).mono fun _ ⟨t, he⟩ => he ▸ handsTo_status n ok t

theorem stateOf_deliver (l : Listener) (items : List Candidate) :
    stateOf ((deliver l items).run m) = m.record (.delivered l.name items) := by
  rw [deliver_run]
  cases l.breaksWith <;> rfl

theorem adds_handOver (a : Answer) (items : List Candidate) :
    Adds m (stateOf (m.handOver a items)) (HandsTo a.capture.listener.name (· = items)) := by
  have handed : HandsTo a.capture.listener.name (· = items)
      (.delivered a.capture.listener.name items) := handsTo_delivered rfl
  unfold handOver
  split
  · exact adds_record _ handed
  · exact (adds_record _ handed).trans (adds_record _ (handsTo_ready _ _ _ _ _ _))


/-- An event that hands no list to any receiver. -/
def Quiet (e : Event) : Prop := ∀ n items, e ≠ .delivered n items

theorem Quiet.handsTo {e : Event} (h : Quiet e) (n : Json) (ok : List Candidate → Prop) :
    HandsTo n ok e :=
  fun n' items he => absurd he (h n' items)

theorem adds_noteFailure_quiet (b : Text) (f : Fault) : Adds m (m.noteFailure b f) Quiet :=
  (adds_noteFailure b f).mono fun _ ⟨t, he⟩ n items => by rw [he]; exact Event.noConfusion


/-! ## How far a session moves on

Whether an answer still counts for a session is decided by its token and its closed mark, its
`stamp`. `Moves b k m m'` says that `m'` has a session of `b` exactly when `m` has, with the
same closed mark and the token `k` further on. -/

/-- `m'` has a session of `b` exactly when `m` has, with the same closed mark and the token `k`
further on. -/
def Moves (b : Text) (k : Nat) (m m' : Manager σ) : Prop :=
  (m'.session? b).map Session.stamp =
    ((m.session? b).map Session.stamp).map fun p => (p.1 + k, p.2)

variable {b : Text} {k k' : Nat}

theorem Moves.trans (h : Moves b k m m') (h' : Moves b k' m' m'') : Moves b (k + k') m m'' := by
  unfold Moves at *
  rw [h', h, Option.map_map]
  congr 1
  funext p
  simp [Nat.add_assoc]

theorem moves_of_session? (h : m'.session? b = m.session? b) : Moves b 0 m m' := by
  unfold Moves
  rw [h, Option.map_map]
  rfl

theorem moves_withSession (m : Manager σ) (b' : Text) (f : Session → Session)
    (hf : ∀ s, (f s).buffer = s.buffer) (ht : ∀ s, (f s).token = s.token)
    (hc : ∀ s, (f s).closed = s.closed) : Moves b 0 m (m.withSession b' f) := by
  unfold Moves
  rw [session?_withSession m b' b f hf, Option.map_map, Option.map_map]
  congr 1
  funext s
  split <;> simp [Session.stamp, ht, hc]

theorem moves_bump (m : Manager σ) : Moves b 1 m (m.withSession b Session.bump) := by
  unfold Moves
  rw [session?_withSession_self m b Session.bump (fun _ => rfl), Option.map_map, Option.map_map]
  rfl

theorem moves_cancelPending (m : Manager σ) (svc : Service σ) (b' : Text) :
    Moves b 0 m (m.cancelPending svc b') := by
  unfold Moves
  rw [session?_cancelPending, Option.map_map, Option.map_map]
  congr 1
  funext s
  split <;> rfl

theorem moves_noteFailure (m : Manager σ) (b' : Text) (f : Fault) :
    Moves b 0 m (m.noteFailure b' f) := by
  unfold Moves
  rw [session?_noteFailure, Option.map_map, Option.map_map]
  congr 1
  funext s
  simp only [Function.comp_apply]
  split <;> rfl

theorem moves_captured (m : Manager σ) (t : Nat) (cap : Capture)
    (early : Option (Except Fault (List Suggestion))) : Moves b 0 m (m.captured t cap early) := by
  unfold Moves
  rw [session?_captured, Option.map_map, Option.map_map]
  congr 1
  funext s
  split <;> rfl

/-! ## Changes that leave every cache alone

Cancelling a request, noting a failure and capturing a request change a session's pending
request or reported kinds, never its cache: whatever holds of the caches holds after them. -/

/-- `m'` has a session of each buffer exactly when `m` has, holding the same cache. -/
def SameCaches (m m' : Manager σ) : Prop :=
  ∀ b, (m'.session? b).map Session.cache = (m.session? b).map Session.cache

theorem SameCaches.session? (h : SameCaches m m') {s' : Session} (hs' : m'.session? b = some s') :
    ∃ s, m.session? b = some s ∧ s'.cache = s.cache := by
  have same := h b
  rw [hs'] at same
  cases hs : m.session? b with
  | none => simp [hs] at same
  | some s => exact ⟨s, rfl, by simpa [hs] using same⟩

theorem sameCaches_cancelPending (m : Manager σ) (svc : Service σ) (b' : Text) :
    SameCaches m (m.cancelPending svc b') := by
  intro b
  rw [session?_cancelPending, Option.map_map]
  congr 1
  funext s
  split <;> rfl

theorem sameCaches_noteFailure (m : Manager σ) (b' : Text) (f : Fault) :
    SameCaches m (m.noteFailure b' f) := by
  intro b
  rw [session?_noteFailure, Option.map_map]
  congr 1
  funext s
  simp only [Function.comp_apply]
  split <;> rfl

theorem sameCaches_captured (m : Manager σ) (t : Nat) (cap : Capture)
    (now : Option (Except Fault (List Suggestion))) : SameCaches m (m.captured t cap now) := by
  intro b
  rw [session?_captured, Option.map_map]
  congr 1
  funext s
  split <;> rfl

/-! ## Calls local to a buffer -/

/-- `m'` differs from `m` only in the session of `b`, moved `k` tokens on, the service's state
and quiet events. -/
structure Local (b : Text) (k : Nat) (m m' : Manager σ) : Prop where
  moves : Moves b k m m'
  others : ∀ b', b' ≠ b → m'.session? b' = m.session? b'
  queue : m'.queue = m.queue
  captures : m'.captures = m.captures
  settings : m'.settings = m.settings
  quiet : Adds m m' Quiet

theorem Local.refl (b : Text) (m : Manager σ) : Local b 0 m m :=
  ⟨moves_of_session? rfl, fun _ _ => rfl, rfl, rfl, rfl, Adds.of_events_eq rfl⟩

theorem Local.of_none (h : m.session? b = none) (k : Nat) : Local b k m m :=
  ⟨by simp [Moves, h], fun _ _ => rfl, rfl, rfl, rfl, Adds.of_events_eq rfl⟩

theorem Local.trans (h : Local b k m m') (h' : Local b k' m' m'') : Local b (k + k') m m'' :=
  ⟨h.moves.trans h'.moves, fun b' hb => (h'.others b' hb).trans (h.others b' hb),
    h'.queue.trans h.queue, h'.captures.trans h.captures, h'.settings.trans h.settings,
    h.quiet.trans h'.quiet⟩

theorem local_withService (m : Manager σ) (x : σ) : Local b 0 m { m with service := x } :=
  ⟨moves_of_session? rfl, fun _ _ => rfl, rfl, rfl, rfl, Adds.of_events_eq rfl⟩

theorem local_withSession (m : Manager σ) (f : Session → Session)
    (hf : ∀ s, (f s).buffer = s.buffer) (ht : ∀ s, (f s).token = s.token)
    (hc : ∀ s, (f s).closed = s.closed) : Local b 0 m (m.withSession b f) :=
  ⟨moves_withSession m b f hf ht hc, fun _ hb => session?_withSession_of_ne m f hf hb, rfl, rfl,
    rfl, Adds.of_events_eq rfl⟩

theorem local_bump (m : Manager σ) : Local b 1 m (m.withSession b Session.bump) :=
  ⟨moves_bump m, fun _ hb => session?_withSession_of_ne m Session.bump (fun _ => rfl) hb, rfl,
    rfl, rfl, Adds.of_events_eq rfl⟩

theorem local_cancelPending (m : Manager σ) (svc : Service σ) :
    Local b 0 m (m.cancelPending svc b) := by
  refine ⟨moves_cancelPending m svc b, fun b' hb => ?_, by simp, by simp, by simp,
    Adds.of_events_eq (by simp)⟩
  rw [session?_cancelPending]
  simp [hb]

theorem local_afterLookup (m : Manager σ) (svc : Service σ) (c : PrefixCache) :
    Local b 1 m (m.afterLookup svc b c) :=
  ((local_bump m).trans (local_cancelPending _ svc)).trans
    (local_withSession _ (fun s => { s with cache := c }) (fun _ => rfl) (fun _ => rfl)
      fun _ => rfl)

theorem local_noteFailure (m : Manager σ) (f : Fault) : Local b 0 m (m.noteFailure b f) := by
  refine ⟨moves_noteFailure m b f, fun b' hb => ?_, by simp, by simp, by simp,
    adds_noteFailure_quiet b f⟩
  rw [session?_noteFailure]
  simp [hb]

theorem local_record (m : Manager σ) {e : Event} (he : Quiet e) : Local b 0 m (m.record e) :=
  ⟨moves_of_session? rfl, fun _ _ => rfl, rfl, rfl, rfl, adds_record e he⟩

theorem local_stored (m : Manager σ) (q : Json) (items : List Candidate) :
    Local b 0 m (m.stored b q items) :=
  local_withSession m _ (fun _ => rfl) (fun _ => rfl) fun _ => rfl

theorem cached_local (svc : Service σ) (b lit : Text) (q : Json) :
    Local b 1 m (stateOf ((cached svc b lit q).run m)) := by
  cases hs : m.session? b with
  | none =>
      rw [cached_run_none hs]
      exact Local.of_none hs 1
  | some s =>
      rw [cached_run hs]
      exact local_afterLookup m svc _

theorem candidates_local (svc : Service σ) (b lit : Text) (room : Nat) (q : Json)
    (view : Text × Json) :
    Local b m.settings.enabled.toNat m (stateOf ((candidates svc room b lit q view).run m)) := by
  cases hs : m.session? b with
  | none =>
      rw [candidates_run_none hs]
      exact Local.of_none hs _
  | some s =>
    have looked := local_afterLookup m svc (s.cache.get q.display).1 (b := b)
    rw [candidates_run hs]
    split
    · rename_i off
      rw [off]
      exact Local.refl b m
    · rename_i on
      rw [Bool.not_eq_false] at on
      rw [on]
      split
      · exact looked
      · split
        · exact looked
        · dsimp only
          split
          · split
            · exact (looked.trans (local_withService _ _)).trans (local_noteFailure _ _)
            · exact looked.trans (local_withService _ _)
          · exact ((looked.trans (local_withService _ _)).trans (local_stored _ q _)).trans
              (local_record _ fun _ _ h => Event.noConfusion h)

/-! ## New settings and answers of the service -/

theorem updateSettings_fields (svc : Service σ) (m : Manager σ) (cfg : Json) :
    (step svc m (.updateSettings cfg)).queue = m.queue ∧
      (step svc m (.updateSettings cfg)).captures = m.captures ∧
      (step svc m (.updateSettings cfg)).events = m.events := by
  simp only [step, updateSettings_run]
  split
  · exact ⟨rfl, rfl, rfl⟩
  · simp only [stateOf_ok]
    split
    · exact ⟨rfl, rfl, rfl⟩
    · simp

theorem answer_fields (svc : Service σ) (m : Manager σ) (t : Nat)
    (r : Except Fault (List Suggestion)) :
    (step svc m (.answer t r)).queue =
        m.queue ++ ((m.captures.find? fun x => x.1 == t).map fun x => (⟨x.2, r⟩ : Answer)).toList ∧
      (step svc m (.answer t r)).captures = m.captures ∧
      (step svc m (.answer t r)).events = m.events ∧
      (step svc m (.answer t r)).sessions = m.sessions := by
  simp only [step, answer_run, stateOf_ok]
  cases m.captures.find? fun x => x.1 == t <;> simp

theorem answer_queued (svc : Service σ) (m : Manager σ) (t : Nat)
    (r : Except Fault (List Suggestion)) {a : Answer} (ha : a ∈ (step svc m (.answer t r)).queue) :
    a ∈ m.queue ∨ ∃ t', (t', a.capture) ∈ m.captures := by
  rw [(answer_fields svc m t r).1, List.mem_append] at ha
  rcases ha with old | now
  · exact .inl old
  · cases found : m.captures.find? fun x => x.1 == t with
    | none => simp [found] at now
    | some x =>
        simp only [found, Option.map_some, Option.toList_some, List.mem_singleton] at now
        subst now
        exact .inr ⟨x.1, List.mem_of_find?_eq_some found⟩

/-! ## Calls that hand a list to a receiver -/

/-- The states a call that hands `b`'s candidates for `q` to `l` can leave, with `b`'s session
moved `k` tokens on: a local change and the list handed over at once; a local change alone,
when the call failed; or, after a lookup that missed, a background request captured with the
session's new token. -/
inductive Handing (svc : Service σ) (b : Text) (q : Json) (l : Listener) (k : Nat)
    (m : Manager σ) : Manager σ → Prop
  | now {m₁ : Manager σ} (items : List Candidate) :
      Local b k m m₁ → Handing svc b q l k m (m₁.record (.delivered l.name items))
  | failed {m' : Manager σ} : Local b k m m' → Handing svc b q l k m m'
  | later {s : Session} (x : σ) (hd : Handover) : k = 1 →
      m.session? b = some s → (∃ src off st, svc.submit src off st = (.ok hd, x)) →
      Handing svc b q l k m
        ({ m.afterLookup svc b (s.cache.get q.display).1 with service := x }.captured hd.ticket
          ⟨b, q, s.token + 1, l⟩ hd.answer)

theorem candidatesLater_handing (svc : Service σ) (b lit : Text) (q : Json) (l : Listener)
    (view : Text × Json) :
    Handing svc b q l m.settings.enabled.toNat m
      (stateOf ((candidatesLater svc b lit q l view).run m)) := by
  cases hs : m.session? b with
  | none =>
      rw [candidatesLater_run_none hs]
      exact .failed (Local.of_none hs _)
  | some s =>
    have looked := local_afterLookup m svc (s.cache.get q.display).1 (b := b)
    rw [candidatesLater_run hs]
    split
    · rename_i off
      rw [stateOf_deliver, off]
      exact .now [] (Local.refl b m)
    · rename_i on
      rw [Bool.not_eq_false] at on
      rw [on]
      split
      · rw [stateOf_deliver]
        exact .now _ looked
      · split
        · exact .failed looked
        · dsimp only
          split
          · split
            · rw [stateOf_deliver]
              exact .now [] ((looked.trans (local_withService _ _)).trans (local_noteFailure _ _))
            · exact .failed (looked.trans (local_withService _ _))
          · rename_i hd submitted
            exact .later _ hd rfl hs ⟨_, _, _, Prod.ext submitted rfl⟩

theorem request_handing (svc : Service σ) (room : Nat) (b lit : Text) (q : Json) (l : Listener)
    (view : Text × Json) :
    Handing svc b q l m.settings.enabled.toNat m
      (stateOf ((request svc room b lit q l view).run m)) := by
  rw [request_run]
  split
  · exact candidatesLater_handing svc b lit q l view
  · have asked := candidates_local (m := m) svc b lit (room - 1) q view
    cases hr : (candidates svc (room - 1) b lit q view).run m with
    | ok items m₁ =>
        rw [hr] at asked
        dsimp only
        rw [stateOf_deliver]
        exact .now items asked
    | error f m₁ =>
        rw [hr] at asked
        exact .failed asked

variable {svc : Service σ} {q : Json} {l : Listener}

theorem Handing.others (h : Handing svc b q l k m m') :
    ∀ b', b' ≠ b → m'.session? b' = m.session? b' := by
  intro b' hb
  cases h with
  | now items hl => exact hl.others b' hb
  | failed hl => exact hl.others b' hb
  | later x hd _ hs _ =>
      rw [session?_captured]
      simp only [hb, if_false, Option.map_id']
      exact (local_afterLookup m svc _).others b' hb

theorem Handing.captures_eq (h : Handing svc b q l k m m') :
    m'.captures = m.captures ∨ ∃ t k, m'.captures = m.captures ++ [(t, ⟨b, q, k, l⟩)] := by
  cases h with
  | now items hl => exact .inl (by simpa using hl.captures)
  | failed hl => exact .inl hl.captures
  | @later s x hd _ hs _ => exact .inr ⟨hd.ticket, s.token + 1, by simp⟩

theorem Handing.captures (h : Handing svc b q l k m m') :
    ∀ x ∈ m'.captures, x ∈ m.captures ∨ x.2.buffer = b := by
  intro x hx
  rcases h.captures_eq with same | ⟨t, k, grown⟩
  · exact .inl (same ▸ hx)
  · rw [grown, List.mem_append, List.mem_singleton] at hx
    rcases hx with old | rfl
    · exact .inl old
    · exact .inr rfl

theorem Handing.queue (h : Handing svc b q l k m m') :
    ∀ a ∈ m'.queue, a ∈ m.queue ∨ a.capture.buffer = b := by
  intro a ha
  cases h with
  | now items hl => exact .inl (by simpa [hl.queue] using ha)
  | failed hl => exact .inl (hl.queue ▸ ha)
  | later x hd _ hs _ =>
      simp only [captured_queue, List.mem_append] at ha
      rcases ha with old | now
      · exact .inl (by simpa using old)
      · cases early : hd.answer with
        | none =>
            rw [early] at now
            cases now
        | some r =>
            rw [early] at now
            simp only [Option.map_some, Option.toList_some, List.mem_singleton] at now
            exact .inr (by rw [now])

theorem Handing.moves (h : Handing svc b q l k m m') : Moves b k m m' := by
  cases h with
  | now items hl => exact hl.moves.trans (moves_of_session? rfl)
  | failed hl => exact hl.moves
  | later x hd one hs _ =>
      subst one
      exact ((local_afterLookup m svc _).trans (local_withService _ x)).moves.trans
        (moves_captured _ _ _ _)

/-! ## Applying an answer -/

/-- What a result hands over: the candidates of its suggestions, none for a failure. -/
def itemsOf : Except Fault (List Suggestion) → List Candidate
  | .ok ss => Candidate.ofSuggestions ss
  | .error _ => []

/-- A result that reports the cancellation of its request. -/
def Cancelled (r : Except Fault (List Suggestion)) : Prop :=
  ∃ f, r = .error f ∧ f.isCancellation = true

/-- The session of `b` is open and its latest token is `k`: an answer under `k` counts. -/
def Counts (b : Text) (k : Nat) (m : Manager σ) : Prop :=
  (m.session? b).map Session.stamp = some (k, false)

theorem counts_iff_isCurrent {s : Session} (hs : m.session? b = some s) (k : Nat) :
    Counts b k m ↔ s.isCurrent k = true := by
  cases hc : s.closed <;> simp [Counts, hs, Session.stamp, Session.isCurrent, hc]
  exact ⟨Eq.symm, Eq.symm⟩

/-- Applying an answer either changes its buffer's session without moving it and hands nothing
over, or, exactly when the answer counts and is no cancellation, does so and then hands the
answer's list to its receiver. -/
theorem applyAnswer_cases (m : Manager σ) (a : Answer) :
    (¬(Counts a.capture.buffer a.capture.token m ∧ ¬Cancelled a.result) ∧
        Local a.capture.buffer 0 m (stateOf ((applyAnswer a).run m))) ∨
      (Counts a.capture.buffer a.capture.token m ∧ ¬Cancelled a.result ∧
        ∃ m₁, Local a.capture.buffer 0 m m₁ ∧
          stateOf ((applyAnswer a).run m) = stateOf (m₁.handOver a (itemsOf a.result))) := by
  rw [applyAnswer_run]
  split
  · rename_i none_open
    refine .inl ⟨fun ⟨counts, _⟩ => ?_, Local.refl _ m⟩
    simp [Counts, none_open] at counts
  · rename_i s hs
    have counts := counts_iff_isCurrent hs a.capture.token
    split
    · rename_i closed
      refine .inl ⟨fun ⟨hc, _⟩ => ?_, Local.refl _ m⟩
      simp [counts, Session.isCurrent, closed] at hc
    · split
      · rename_i f failed
        split
        · rename_i cancelled
          exact .inl ⟨fun ⟨_, live⟩ => live ⟨f, failed, cancelled⟩, Local.refl _ m⟩
        · rename_i live
          have live' : ¬Cancelled a.result := by
            rintro ⟨f', hf', cancelled⟩
            rw [failed] at hf'
            cases hf'
            exact live cancelled
          split
          · rename_i current
            exact .inr ⟨counts.mpr current, live', _, local_noteFailure m f, by rw [failed]; rfl⟩
          · rename_i stale
            exact .inl ⟨fun ⟨hc, _⟩ => stale (counts.mp hc), local_noteFailure m f⟩
      · rename_i ss answered
        have live : ¬Cancelled a.result := by
          rintro ⟨f, hf, -⟩
          rw [answered] at hf
          cases hf
        split
        · rename_i current
          exact .inr ⟨counts.mpr current, live, _, local_stored m _ _, by rw [answered]; rfl⟩
        · rename_i stale
          have quiet : ¬(Counts a.capture.buffer a.capture.token m ∧ ¬Cancelled a.result) :=
            fun ⟨hc, _⟩ => stale (counts.mp hc)
          split
          · exact .inl ⟨quiet, Local.refl _ m⟩
          · exact .inl ⟨quiet, Local.refl _ m⟩
          · exact .inl ⟨quiet, local_stored m _ _⟩

end Manager

end PhpCompletion
