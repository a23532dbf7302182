import PhpCompletion.Proofs.Manager.Supersession

/-! # The request a session waits on

A session keeps the ticket of the background request of its latest lookup while that request
runs (`waitsOn`). A call that supersedes a buffer's requests, or opens the buffer again, forgets
that ticket; asking in the background sets it only after the call's own lookup has forgotten
the one before, to the request the call captured (`step_restarts`). Every other call leaves
what the buffer waits on, and the request captured last for it, as they were
(`step_keeps_waiting`). So a session waits on nothing or on the request captured last for its
buffer, under the session's latest token, all along a run (`pendingCurrent_runCalls`).

On the service's side, a call that ends the requests of one buffer cancels the request that
buffer waited on and otherwise only asks: queries and background requests (`Renews.asks`).
-/

namespace PhpCompletion

namespace Service

variable {σ : Type}

/-- `y` is the state of `svc` after `x` and some queries and background requests, and no other
call: no cancellation in particular. -/
inductive Asks (svc : Service σ) (x : σ) : σ → Prop
  | refl : Asks svc x x
  | query {y : σ} (room : Nat) (src : Text) (off : Int) :
      Asks svc x y → Asks svc x (svc.query room src off y).2
  | submit {y : σ} (src : Text) (off : Int) : Asks svc x y → Asks svc x (svc.submit src off y).2

end Service

namespace Manager

variable {σ : Type}

/-! ## What a session waits on -/

/-- The ticket of the background request the session of `b` waits on, if any. -/
def waitsOn (m : Manager σ) (b : Text) : Option Nat := (m.session? b).bind Session.pending

def newestOf (m : Manager σ) (b : Text) : Option (Nat × Capture) :=
  m.captures.reverse.find? fun x => x.2.buffer == b

/-- A call that ends the requests of `b`'s session: it supersedes them, or it opens `b` again,
which closes the session. -/
def Ends (b : Text) (m : Manager σ) (c : Call) : Prop := Supersedes b m c ∨ c.opens? = some b

variable {m m' m₁ : Manager σ} {b b' : Text} {t : Nat}

theorem waitsOn_eq_of_sessions (h : m'.sessions = m.sessions) (b : Text) :
    m'.waitsOn b = m.waitsOn b := by
  simp only [waitsOn, session?_eq_of_sessions h]

theorem waitsOn_eq_none_of_session? (h : m.session? b = none) : m.waitsOn b = none := by
  simp [waitsOn, h]

theorem mem_buffers_of_waitsOn (h : m.waitsOn b = some t) : b ∈ m.sessions.map Session.buffer := by
  unfold waitsOn at h
  cases hs : m.session? b with
  | none => simp [hs] at h
  | some s => exact List.mem_map.mpr ⟨s, List.mem_of_find?_eq_some hs, session?_buffer hs⟩

theorem waitsOn_withSession (m : Manager σ) (b' : Text) (f : Session → Session)
    (hf : ∀ s, (f s).buffer = s.buffer) (hp : ∀ s, (f s).pending = s.pending) (b : Text) :
    (m.withSession b' f).waitsOn b = m.waitsOn b := by
  unfold waitsOn
  rw [session?_withSession m b' b f hf]
  cases m.session? b with
  | none => rfl
  | some s => by_cases hb : b = b' <;> simp [hb, hp]

theorem waitsOn_cancelPending (m : Manager σ) (svc : Service σ) (b' b : Text) :
    (m.cancelPending svc b').waitsOn b = if b = b' then none else m.waitsOn b := by
  unfold waitsOn
  rw [session?_cancelPending]
  cases m.session? b with
  | none => split <;> rfl
  | some s => by_cases hb : b = b' <;> simp [hb, Session.unpend]

theorem waitsOn_noteFailure (m : Manager σ) (b' : Text) (f : Fault) (b : Text) :
    (m.noteFailure b' f).waitsOn b = m.waitsOn b := by
  unfold waitsOn
  rw [session?_noteFailure]
  cases m.session? b with
  | none => rfl
  | some s =>
      simp only [Option.map_some, Option.bind_some]
      split <;> rfl

@[simp] theorem waitsOn_record (m : Manager σ) (e : Event) (b : Text) :
    (m.record e).waitsOn b = m.waitsOn b := rfl

@[simp] theorem waitsOn_withService (m : Manager σ) (x : σ) (b : Text) :
    ({ m with service := x } : Manager σ).waitsOn b = m.waitsOn b := rfl

theorem waitsOn_stored (m : Manager σ) (b' : Text) (q : Json) (items : List Candidate) (b : Text) :
    (m.stored b' q items).waitsOn b = m.waitsOn b :=
  waitsOn_withSession m b' (fun s => { s with cache := (s.cache.put q.display items true).1 })
    (fun _ => rfl) (fun _ => rfl) b

theorem waitsOn_afterLookup (m : Manager σ) (svc : Service σ) (b' : Text) (c : PrefixCache)
    (b : Text) : (m.afterLookup svc b' c).waitsOn b = if b = b' then none else m.waitsOn b := by
  unfold afterLookup
  rw [waitsOn_withSession _ b' (fun s => { s with cache := c }) (fun _ => rfl) (fun _ => rfl),
    waitsOn_cancelPending,
    waitsOn_withSession _ b' Session.bump (fun _ => rfl) (fun _ => rfl)]

theorem waitsOn_closedSession (m : Manager σ) (svc : Service σ) (b' b : Text) :
    (m.closedSession svc b').waitsOn b = if b = b' then none else m.waitsOn b := by
  unfold closedSession
  rw [waitsOn_withSession _ b' (fun s => { s with cache := PrefixCache.empty }) (fun _ => rfl)
      (fun _ => rfl),
    waitsOn_cancelPending,
    waitsOn_withSession _ b' (fun s => { s with closed := true }) (fun _ => rfl) (fun _ => rfl)]

theorem waitsOn_withoutBuffer (m : Manager σ) (svc : Service σ) (b' b : Text) :
    (m.withoutBuffer svc b').waitsOn b = if b = b' then none else m.waitsOn b := by
  unfold waitsOn
  rw [session?_withoutBuffer]
  split <;> rfl

theorem waitsOn_withFresh (m : Manager σ) (svc : Service σ) (b' b : Text) :
    (m.withFresh svc b').waitsOn b = if b = b' then none else m.waitsOn b := by
  unfold waitsOn
  rw [session?_withFresh]
  split <;> rfl

theorem waitsOn_foldl (g : Manager σ → Text → Manager σ)
    (hg : ∀ m b' b, (g m b').waitsOn b = if b = b' then none else m.waitsOn b)
    (xs : List Session) (m : Manager σ) (b : Text) :
    (xs.foldl (fun m x => g m x.buffer) m).waitsOn b =
      if b ∈ xs.map Session.buffer then none else m.waitsOn b := by
  induction xs generalizing m with
  | nil => simp
  | cons x xs ih =>
      rw [List.foldl_cons, ih, hg]
      by_cases hx : b = x.buffer <;> by_cases hxs : b ∈ xs.map Session.buffer <;> simp [hx, hxs]

theorem waitsOn_supersedeAll (m : Manager σ) (svc : Service σ) (xs : List Session) (b : Text) :
    (m.supersedeAll svc xs).waitsOn b = if b ∈ xs.map Session.buffer then none else m.waitsOn b :=
  waitsOn_foldl (fun m b' => (m.withSession b' Session.bump).cancelPending svc b')
    (fun m b' b => by
      rw [waitsOn_cancelPending, waitsOn_withSession _ b' Session.bump (fun _ => rfl) (fun _ => rfl)])
    xs m b

/-! ## The request captured last for a buffer -/

theorem newestOf_eq_of_captures (h : m'.captures = m.captures) (b : Text) :
    m'.newestOf b = m.newestOf b := by
  simp only [newestOf, h]

theorem newestOf_append (x : Nat × Capture) (h : m'.captures = m.captures ++ [x]) (b : Text) :
    m'.newestOf b = if x.2.buffer = b then some x else m.newestOf b := by
  simp only [newestOf, h, List.reverse_append, List.reverse_singleton, List.singleton_append,
    List.find?_cons]
  by_cases hx : x.2.buffer = b
  · simp [hx]
  · have differs : (x.2.buffer == b) = false := by simpa using hx
    simp [differs, hx]

theorem newestOf_mem {x : Nat × Capture} (h : m.newestOf b = some x) :
    x ∈ m.captures ∧ x.2.buffer = b := by
  unfold newestOf at h
  exact ⟨List.mem_reverse.mp (List.mem_of_find?_eq_some h), by simpa using List.find?_some h⟩

variable {svc : Service σ} {c : Call}

theorem newestOf_step (hc : c.buffer? ≠ some b) : (step svc m c).newestOf b = m.newestOf b := by
  rcases step_captures_eq svc m c with same | ⟨t, cap, grown, named, -⟩
  · exact newestOf_eq_of_captures same b
  · rw [newestOf_append (t, cap) grown, if_neg]
    intro hb
    exact hc (hb ▸ named)

theorem Ends.buffer (h : Ends b m c) (hc : c.buffer? = some b') : b = b' := by
  cases c <;> rcases h with sup | opens <;> simp_all [Supersedes, Call.buffer?, Call.opens?]

/-! ## The service's side of a lookup -/

theorem cancelPending_service (m : Manager σ) (svc : Service σ) (b : Text) :
    (m.cancelPending svc b).service = match m.waitsOn b with
      | some t => svc.cancel t m.service
      | none => m.service := by
  unfold cancelPending waitsOn
  cases (m.session? b).bind Session.pending <;> rfl

theorem closedSession_service (m : Manager σ) (svc : Service σ) (b : Text) :
    (m.closedSession svc b).service = (m.cancelPending svc b).service := by
  have kept : (m.withSession b fun s => { s with closed := true }).waitsOn b = m.waitsOn b :=
    waitsOn_withSession _ b (fun s => { s with closed := true }) (fun _ => rfl) (fun _ => rfl) b
  unfold closedSession
  rw [withSession_service, cancelPending_service, cancelPending_service, kept]
  rfl

theorem withoutBuffer_service (m : Manager σ) (svc : Service σ) (b : Text) :
    (m.withoutBuffer svc b).service = (m.cancelPending svc b).service := by
  unfold withoutBuffer
  split
  · exact closedSession_service m svc b
  · rename_i none_open
    have idle : m.waitsOn b = none := waitsOn_eq_none_of_session? (by simpa using none_open)
    rw [cancelPending_of_none idle]

@[simp] theorem noteFailure_service (m : Manager σ) (b : Text) (f : Fault) :
    (m.noteFailure b f).service = m.service := (noteFailure_fields m b f).2.2.2

@[simp] theorem stored_service (m : Manager σ) (b : Text) (q : Json) (items : List Candidate) :
    (m.stored b q items).service = m.service := rfl

/-! ## What a call that ends one buffer's requests leaves -/

/-- What a lookup of `b` leaves before anything is captured: `b`'s session waits on nothing, no
request is captured, and the service has cancelled what `b` waited on and has since only been
asked. -/
structure Forgets (svc : Service σ) (b : Text) (m m' : Manager σ) : Prop where
  idle : m'.waitsOn b = none
  captures : m'.captures = m.captures
  asks : Service.Asks svc (m.cancelPending svc b).service m'.service

def Restarts (b : Text) (m m' : Manager σ) : Prop :=
  (m'.waitsOn b = none ∧ m'.captures = m.captures) ∨
    ∃ t cap s', m'.captures = m.captures ++ [(t, cap)] ∧ cap.buffer = b ∧
      m'.session? b = some s' ∧ s'.pending = some t ∧ cap.token = s'.token

/-- What a call that ends the requests of `b` alone leaves: `b` restarted, and the service
asked, besides the cancellation of what `b` waited on, only queries and requests. -/
structure Renews (svc : Service σ) (b : Text) (m m' : Manager σ) : Prop where
  restarts : Restarts b m m'
  asks : Service.Asks svc (m.cancelPending svc b).service m'.service

theorem Forgets.renews (h : Forgets svc b m m') : Renews svc b m m' :=
  ⟨.inl ⟨h.idle, h.captures⟩, h.asks⟩

theorem forgets_of_none (h : m.session? b = none) : Forgets svc b m m := by
  have idle := waitsOn_eq_none_of_session? h
  exact ⟨idle, rfl, by rw [cancelPending_of_none idle]; exact .refl⟩

theorem forgets_afterLookup (svc : Service σ) (m : Manager σ) (b : Text) (c : PrefixCache) :
    Forgets svc b m (m.afterLookup svc b c) :=
  ⟨by simp [waitsOn_afterLookup], by simp, by rw [afterLookup_service]; exact .refl⟩

theorem forgets_withoutBuffer (svc : Service σ) (m : Manager σ) (b : Text) :
    Forgets svc b m (m.withoutBuffer svc b) :=
  ⟨by simp [waitsOn_withoutBuffer], by simp, by rw [withoutBuffer_service]; exact .refl⟩

theorem forgets_withFresh (svc : Service σ) (m : Manager σ) (b : Text) :
    Forgets svc b m (m.withFresh svc b) :=
  ⟨by simp [waitsOn_withFresh], by simp, by rw [← withoutBuffer_service]; exact .refl⟩

theorem Forgets.query (h : Forgets svc b m m₁) (room : Nat) (src : Text) (off : Int) :
    Forgets svc b m { m₁ with service := (svc.query room src off m₁.service).2 } :=
  ⟨h.idle, h.captures, h.asks.query room src off⟩

theorem Forgets.submit (h : Forgets svc b m m₁) (src : Text) (off : Int) :
    Forgets svc b m { m₁ with service := (svc.submit src off m₁.service).2 } :=
  ⟨h.idle, h.captures, h.asks.submit src off⟩

theorem Forgets.noteFailure (h : Forgets svc b m m₁) (b' : Text) (f : Fault) :
    Forgets svc b m (m₁.noteFailure b' f) :=
  ⟨(waitsOn_noteFailure m₁ b' f b).trans h.idle, by simp [h.captures],
    by rw [noteFailure_service]; exact h.asks⟩

theorem Forgets.record (h : Forgets svc b m m₁) (e : Event) : Forgets svc b m (m₁.record e) :=
  ⟨h.idle, h.captures, h.asks⟩

theorem Forgets.stored (h : Forgets svc b m m₁) (b' : Text) (q : Json) (items : List Candidate) :
    Forgets svc b m (m₁.stored b' q items) :=
  ⟨(waitsOn_stored m₁ b' q items b).trans h.idle, h.captures, h.asks⟩

theorem Forgets.captured (h : Forgets svc b m m₁) {s₁ : Session} (hs : m₁.session? b = some s₁)
    (t : Nat) (cap : Capture) (now : Option (Except Fault (List Suggestion)))
    (hb : cap.buffer = b) (ht : cap.token = s₁.token) : Renews svc b m (m₁.captured t cap now) := by
  have waited : (m₁.captured t cap now).session? b = some { s₁ with pending := some t } := by
    rw [session?_captured, hs]
    simp [hb]
  exact ⟨.inr ⟨t, cap, _, by simp [h.captures], hb, waited, rfl, ht⟩, h.asks⟩

theorem Renews.record (h : Renews svc b m m₁) (e : Event) : Renews svc b m (m₁.record e) :=
  ⟨h.restarts, h.asks⟩

/-! ## Lookups -/

theorem cached_forgets (svc : Service σ) (b lit : Text) (q : Json) (m : Manager σ) :
    Forgets svc b m (stateOf ((cached svc b lit q).run m)) := by
  cases hs : m.session? b with
  | none =>
      rw [cached_run_none hs]
      exact forgets_of_none hs
  | some s =>
      rw [cached_run hs]
      exact forgets_afterLookup svc m b _

theorem candidates_forgets (svc : Service σ) (on : m.settings.enabled = true) (room : Nat)
    (b lit : Text) (q : Json) (view : Text × Json) :
    Forgets svc b m (stateOf ((candidates svc room b lit q view).run m)) := by
  cases hs : m.session? b with
  | none =>
      rw [candidates_run_none hs]
      exact forgets_of_none hs
  | some s =>
    have looked := forgets_afterLookup svc m b (s.cache.get q.display).1
    rw [candidates_run hs]
    simp only [on, Bool.true_eq_false, if_false]
    split
    · exact looked
    · split
      · exact looked
      · split
        · split
          · exact (looked.query _ _ _).noteFailure b _
          · exact looked.query _ _ _
        · exact ((looked.query _ _ _).stored b q _).record _

theorem candidatesLater_renews (svc : Service σ) (on : m.settings.enabled = true) (b lit : Text)
    (q : Json) (l : Listener) (view : Text × Json) :
    Renews svc b m (stateOf ((candidatesLater svc b lit q l view).run m)) := by
  cases hs : m.session? b with
  | none =>
      rw [candidatesLater_run_none hs]
      exact (forgets_of_none hs).renews
  | some s =>
    have looked := forgets_afterLookup svc m b (s.cache.get q.display).1
    have hs₁ : (m.afterLookup svc b (s.cache.get q.display).1).session? b =
        some { s.bump.unpend with cache := (s.cache.get q.display).1 } := session?_looked hs _
    rw [candidatesLater_run hs]
    simp only [on, Bool.true_eq_false, if_false]
    split
    · rw [stateOf_deliver]
      exact (looked.record _).renews
    · split
      · exact looked.renews
      · split
        · split
          · rw [stateOf_deliver]
            exact (((looked.submit _ _).noteFailure b _).record _).renews
          · exact (looked.submit _ _).renews
        · exact (looked.submit _ _).captured hs₁ _ _ _ rfl rfl

theorem request_renews (svc : Service σ) (on : m.settings.enabled = true) (room : Nat)
    (b lit : Text) (q : Json) (l : Listener) (view : Text × Json) :
    Renews svc b m (stateOf ((request svc room b lit q l view).run m)) := by
  rw [request_run]
  split
  · exact candidatesLater_renews svc on b lit q l view
  · have asked := candidates_forgets svc on (room - 1) b lit q view
    cases hr : (candidates svc (room - 1) b lit q view).run m with
    | ok items m₁ =>
        rw [hr] at asked
        dsimp only
        rw [stateOf_deliver]
        exact (asked.record _).renews
    | error f m₁ =>
        rw [hr] at asked
        exact asked.renews

theorem step_renews (hc : c.buffer? = some b) (h : Ends b m c) : Renews svc b m (step svc m c) := by
  cases c with
  | openBuffer b' =>
      cases hc
      simp only [step, openBuffer_run, stateOf_ok]
      exact (forgets_withFresh svc m b).renews
  | closeBuffer b' =>
      cases hc
      simp only [step, closeBuffer_run, stateOf_ok]
      exact (forgets_withoutBuffer svc m b).renews
  | cached b' lit q =>
      cases hc
      exact (cached_forgets svc b lit q m).renews
  | candidates room b' lit q view =>
      cases hc
      exact (candidates_forgets svc (h.resolve_right (by rintro ⟨⟩)).2 room b lit q view).renews
  | candidatesLater b' lit q l view =>
      cases hc
      exact candidatesLater_renews svc (h.resolve_right (by rintro ⟨⟩)).2 b lit q l view
  | request room b' lit q l view =>
      cases hc
      exact request_renews svc (h.resolve_right (by rintro ⟨⟩)).2 room b lit q l view
  | updateSettings cfg => cases hc
  | answer t r => cases hc
  | drain => cases hc
  | shutdown => cases hc

/-! ## Calls that leave what a buffer waits on -/

/-- `m'` has the sessions, the captured requests and the service state of `m`. -/
structure Still (m m' : Manager σ) : Prop where
  sessions : m'.sessions = m.sessions
  captures : m'.captures = m.captures
  service : m'.service = m.service

theorem Still.refl (m : Manager σ) : Still m m := ⟨rfl, rfl, rfl⟩

theorem Still.record (h : Still m m₁) (e : Event) : Still m (m₁.record e) :=
  ⟨h.sessions, h.captures, h.service⟩

theorem candidates_off (svc : Service σ) (off : m.settings.enabled = false) (room : Nat)
    (b lit : Text) (q : Json) (view : Text × Json) :
    stateOf ((candidates svc room b lit q view).run m) = m := by
  cases hs : m.session? b with
  | none =>
      rw [candidates_run_none hs]
      rfl
  | some s =>
      rw [candidates_run hs]
      simp [off]

theorem candidatesLater_off (svc : Service σ) (off : m.settings.enabled = false) (b lit : Text)
    (q : Json) (l : Listener) (view : Text × Json) :
    Still m (stateOf ((candidatesLater svc b lit q l view).run m)) := by
  cases hs : m.session? b with
  | none =>
      rw [candidatesLater_run_none hs]
      exact Still.refl m
  | some s =>
      rw [candidatesLater_run hs]
      simp only [off, if_true]
      rw [stateOf_deliver]
      exact (Still.refl m).record _

theorem request_off (svc : Service σ) (off : m.settings.enabled = false) (room : Nat)
    (b lit : Text) (q : Json) (l : Listener) (view : Text × Json) :
    Still m (stateOf ((request svc room b lit q l view).run m)) := by
  rw [request_run]
  split
  · exact candidatesLater_off svc off b lit q l view
  · have asked := candidates_off svc off (room - 1) b lit q view
    cases hr : (candidates svc (room - 1) b lit q view).run m with
    | ok items m₁ =>
        rw [hr, stateOf_ok] at asked
        subst asked
        dsimp only
        rw [stateOf_deliver]
        exact (Still.refl _).record _
    | error f m₁ =>
        rw [hr, stateOf_error] at asked
        subst asked
        exact Still.refl _

theorem handOver_still (m : Manager σ) (a : Answer) (items : List Candidate) :
    Still m (stateOf (m.handOver a items)) := by
  unfold handOver
  split <;> exact ⟨rfl, rfl, rfl⟩

theorem applyAnswer_waits (m : Manager σ) (a : Answer) :
    (∀ b, (stateOf ((applyAnswer a).run m)).waitsOn b = m.waitsOn b) ∧
      (stateOf ((applyAnswer a).run m)).service = m.service := by
  have handed_waits : ∀ (m₁ : Manager σ) items b,
      (stateOf (m₁.handOver a items)).waitsOn b = m₁.waitsOn b :=
    fun m₁ items => waitsOn_eq_of_sessions (handOver_still m₁ a items).sessions
  have handed_service : ∀ (m₁ : Manager σ) items,
      (stateOf (m₁.handOver a items)).service = m₁.service :=
    fun m₁ items => (handOver_still m₁ a items).service
  rw [applyAnswer_run]
  repeat' split
  all_goals simp only [stateOf_ok, stateOf_error, handed_waits, handed_service, waitsOn_noteFailure,
    waitsOn_stored, noteFailure_service, stored_service, implies_true, and_self]

theorem applied_waits (m : Manager σ) (as : List Answer) :
    (∀ b, (m.applied as).waitsOn b = m.waitsOn b) ∧ (m.applied as).service = m.service := by
  refine applied_invariant
    (I := fun m' => (∀ b, m'.waitsOn b = m.waitsOn b) ∧ m'.service = m.service)
    (fun m' a held => ?_) ⟨fun _ => rfl, rfl⟩ as
  obtain ⟨waits, service⟩ := applyAnswer_waits m' a
  exact ⟨fun b => (waits b).trans (held.1 b), service.trans held.2⟩

/-! ## One call -/

theorem step_restarts (h : Ends b m c) : Restarts b m (step svc m c) := by
  cases c
  case updateSettings cfg =>
    obtain ⟨st, hn, off⟩ := h.resolve_right (by rintro ⟨⟩)
    refine .inl ⟨?_, (updateSettings_fields svc m cfg).2.1⟩
    simp only [step, updateSettings_run, hn, off, stateOf_ok, Bool.false_eq_true, if_false,
      waitsOn_supersedeAll]
    split
    · rfl
    · rename_i unlisted
      cases waiting : m.waitsOn b with
      | none => exact waiting
      | some t => exact absurd (mem_buffers_of_waitsOn waiting) unlisted
  case answer t r => exact absurd h (by simp [Ends, Supersedes, Call.opens?])
  case drain => exact absurd h (by simp [Ends, Supersedes, Call.opens?])
  case shutdown =>
    refine .inl ⟨?_, by simp [step, shutdown_run]⟩
    simp [step, shutdown_run, waitsOn, session?]
  all_goals
    obtain rfl := h.buffer rfl
    exact (step_renews rfl h).restarts

theorem step_still (named : c.buffer? = some b) (calm : ¬Ends b m c) : Still m (step svc m c) := by
  have off : ∀ {c' : Call}, (Supersedes b m c' ↔ m.settings.enabled = true) → ¬Ends b m c' →
      m.settings.enabled = false := by
    intro c' iff calm'
    cases he : m.settings.enabled
    · rfl
    · exact absurd (.inl (iff.mpr he)) calm'
  cases c
  case openBuffer b' => exact absurd (.inr named) calm
  case closeBuffer b' => exact absurd (.inl (Option.some.inj named)) calm
  case cached b' lit q => exact absurd (.inl (Option.some.inj named)) calm
  case candidates room b' lit q view =>
    cases named
    simp only [step]
    rw [candidates_off svc (off (by simp [Supersedes]) calm)]
    exact Still.refl m
  case candidatesLater b' lit q l view =>
    cases named
    exact candidatesLater_off svc (off (by simp [Supersedes]) calm) b lit q l view
  case request room b' lit q l view =>
    cases named
    exact request_off svc (off (by simp [Supersedes]) calm) room b lit q l view
  all_goals cases named

theorem step_keeps_waiting (svc : Service σ) (hc : ¬Ends b m c) :
    (step svc m c).waitsOn b = m.waitsOn b ∧ (step svc m c).newestOf b = m.newestOf b := by
  by_cases named : c.buffer? = some b
  · have still : Still m (step svc m c) := step_still named hc
    exact ⟨waitsOn_eq_of_sessions still.sessions b, newestOf_eq_of_captures still.captures b⟩
  · refine ⟨?_, newestOf_step named⟩
    cases c
    case updateSettings cfg =>
      have spared : Spares b m (.updateSettings cfg) := fun st hn => by
        cases he : st.enabled
        · exact absurd (.inl ⟨st, hn, he⟩) hc
        · rfl
      exact congrArg (Option.bind · Session.pending) (step_spares svc spared)
    case drain =>
      simp only [step, drain_run, stateOf_ok]
      exact (applied_waits _ m.queue).1 b
    case shutdown => exact absurd (.inl trivial) hc
    all_goals exact congrArg (Option.bind · Session.pending) (step_spares svc named)

theorem waitsOn_of_captured {x : Nat × Capture} (hx : x ∈ (step svc m c).captures)
    (hn : x ∉ m.captures) : (step svc m c).waitsOn x.2.buffer = some x.1 := by
  by_cases ends : Ends x.2.buffer m c
  · rcases step_restarts ends with ⟨-, same⟩ | ⟨t, cap, s', grown, -, hs', hp, -⟩
    · rw [same] at hx
      exact absurd hx hn
    · rw [grown, List.mem_append, List.mem_singleton] at hx
      rcases hx with old | rfl
      · exact absurd old hn
      · simp [waitsOn, hs', hp]
  · obtain ⟨-, newest⟩ := step_keeps_waiting svc ends
    rcases step_captures_eq svc m c with same | ⟨t, cap, grown, -, -⟩
    · rw [same] at hx
      exact absurd hx hn
    · have last : x = (t, cap) := by
        rw [grown, List.mem_append, List.mem_singleton] at hx
        exact hx.resolve_left hn
      subst last
      rw [newestOf_append _ grown, if_pos rfl] at newest
      exact absurd (newestOf_mem newest.symm).1 hn

/-! ## Along a run -/

/-- Every session waits on nothing or on the request captured last for its buffer, captured
under the session's latest token: its current request. -/
def PendingCurrent (m : Manager σ) : Prop :=
  ∀ b s t, m.session? b = some s → s.pending = some t →
    ∃ cap, m.newestOf b = some (t, cap) ∧ cap.token = s.token

theorem pendingCurrent_step (svc : Service σ) (c : Call) (h : PendingCurrent m) :
    PendingCurrent (step svc m c) := by
  intro b s' t hs' waiting
  have waits : (step svc m c).waitsOn b = some t := by simp [waitsOn, hs', waiting]
  by_cases ends : Ends b m c
  · rcases step_restarts ends with ⟨idle, -⟩ | ⟨t₀, cap, s₀, grown, hb, hs₀, hp₀, ht₀⟩
    · rw [idle] at waits
      cases waits
    · rw [hs₀] at hs'
      cases hs'
      rw [hp₀] at waiting
      cases waiting
      exact ⟨cap, by rw [newestOf_append _ grown, if_pos hb], ht₀⟩
  · obtain ⟨kept, newest⟩ := step_keeps_waiting svc ends
    rcases step_moves svc m c b (fun o => ends (.inr o)) with ⟨sup, -⟩ | ⟨k, moved, iff⟩
    · exact absurd (.inl sup) ends
    · obtain ⟨s, hs, token, -⟩ := moved.session? hs'
      have unmoved : k = 0 := by
        have := mt iff.mpr fun sup => ends (.inl sup)
        omega
      have before : s.pending = some t := by
        rw [kept] at waits
        simpa [waitsOn, hs] using waits
      obtain ⟨cap, newest₀, hcap⟩ := h b s t hs before
      exact ⟨cap, newest.trans newest₀, by omega⟩

theorem pendingCurrent_run (svc : Service σ) (cs : List Call) (h : PendingCurrent m) :
    PendingCurrent (runCalls svc m cs) :=
  runCalls_invariant (fun _ c _ held => pendingCurrent_step svc c held) h

theorem pendingCurrent_runCalls {cfg : Json} {σ₀ : σ} {m₀ : Manager σ}
    (h₀ : create cfg σ₀ = .ok m₀) (svc : Service σ) (cs : List Call) :
    PendingCurrent (runCalls svc m₀ cs) := by
  refine pendingCurrent_run svc cs fun b s t hs => ?_
  simp [session?, (create_eq h₀).1] at hs

theorem waitsOn_runCalls {cs : List Call} (h : Admits svc (fun m c => ¬Ends b m c) m cs) :
    (runCalls svc m cs).waitsOn b = m.waitsOn b := by
  induction cs generalizing m with
  | nil => rfl
  | cons c cs ih =>
      rw [runCalls_cons, ih h.2]
      exact (step_keeps_waiting svc h.1).1

end Manager

end PhpCompletion
