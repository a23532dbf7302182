import PhpCompletion.Proofs.Manager.State

/-! # What each operation of the manager does

One lemma per operation gives its result and the state it leaves, finished or failed, in
terms of the state changes of `Proofs.Manager.State`. Later proofs rewrite with these and
never unfold an operation.

A lookup (`cached`) always takes a new token and forgets the session's request before it
looks; `afterLookup` is the state it leaves. The background request of `candidatesLater` is
therefore made when the session has no other request, so it is never cancelled by its own
call.
-/

namespace PhpCompletion

namespace Manager

variable {σ : Type}

/-- The state an operation leaves, whether it finished or failed: a failed operation keeps
the changes it made before failing. -/
def stateOf {α : Type} : EStateM.Result Fault (Manager σ) α → Manager σ
  | .ok _ m => m
  | .error _ m => m

@[simp] theorem stateOf_ok {α : Type} (a : α) (m : Manager σ) :
    stateOf (.ok a m : EStateM.Result Fault (Manager σ) α) = m := rfl
@[simp] theorem stateOf_error {α : Type} (f : Fault) (m : Manager σ) :
    stateOf (.error f m : EStateM.Result Fault (Manager σ) α) = m := rfl

/-- The state a lookup leaves: a new token, the request forgotten, and the cache the lookup
left. -/
def afterLookup (m : Manager σ) (svc : Service σ) (b : Text) (c : PrefixCache) : Manager σ :=
  ((m.withSession b Session.bump).cancelPending svc b).withSession b fun s => { s with cache := c }

/-- The state with a list stored in the cache of `b` under the plain text of a prefix. -/
def stored (m : Manager σ) (b : Text) (q : Json) (items : List Candidate) : Manager σ :=
  m.withSession b fun s => { s with cache := (s.cache.put q.display items true).1 }

@[simp] theorem stored_queue (m : Manager σ) (b : Text) (q : Json) (items : List Candidate) :
    (m.stored b q items).queue = m.queue := rfl

theorem session?_stored (m : Manager σ) (b b' : Text) (q : Json) (items : List Candidate) :
    (m.stored b q items).session? b' = (m.session? b').map fun s =>
      if b' = b then { s with cache := (s.cache.put q.display items true).1 } else s :=
  session?_withSession m b b' _ (fun _ => rfl)

/-! ## Primitive operations -/

variable {m : Manager σ} {svc : Service σ} {b lit : Text}

theorem get_bind_run {α : Type} (f : Manager σ → Step σ α) :
    (get >>= f).run m = (f m).run m := rfl

theorem requireSession_run {s : Session} (h : m.session? b = some s) :
    (requireSession b lit).run m = .ok s m := by
  unfold requireSession
  rw [get_bind_run, h]
  rfl

theorem requireSession_run_none (h : m.session? b = none) :
    (requireSession b lit).run m = .error (.noSession lit) m := by
  unfold requireSession
  rw [get_bind_run, h]
  rfl

theorem updateSession_run (f : Session → Session) :
    (updateSession b f).run m = .ok () (m.withSession b f) := rfl

theorem bumpToken_run : (bumpToken b).run m = .ok () (m.withSession b Session.bump) := rfl

theorem dropPending_run : (dropPending svc b).run m = .ok () (m.cancelPending svc b) := by
  unfold dropPending cancelPending
  rw [get_bind_run]
  cases (m.session? b).bind Session.pending <;> rfl

theorem emit_run (e : Event) : (emit e).run m = .ok () (m.record e) := rfl

theorem deliver_run (l : Listener) (items : List Candidate) :
    (deliver l items).run m =
      match l.breaksWith with
      | some msg => .error (.crashed msg) (m.record (.delivered l.name items))
      | none => .ok () (m.record (.delivered l.name items)) := by
  unfold deliver
  cases l.breaksWith <;> rfl

theorem report_run (f : Fault) : (report b f).run m = .ok () (m.noteFailure b f) := by
  unfold report noteFailure
  rw [get_bind_run]
  cases m.session? b with
  | none => rfl
  | some s =>
      by_cases hk : s.reported.contains f.reportKind
      · simp only [hk, if_true]
        rfl
      · simp only [hk, if_false, Bool.false_eq_true]
        rfl

theorem store_run (q : Json) (items : List Candidate) :
    (store b q items).run m = .ok () (m.stored b q items) := rfl

theorem liftExcept_run {α : Type} (x : Except Fault α) :
    (liftExcept x).run m = match x with
      | .ok a => .ok a m
      | .error f => .error f m := by
  cases x <;> rfl

/-! ## Lookups -/

theorem session?_afterLookup (b' : Text) (c : PrefixCache) :
    (m.afterLookup svc b c).session? b' =
      (m.session? b').map fun s => if b' = b then { s.bump.unpend with cache := c } else s := by
  unfold afterLookup
  rw [session?_withSession _ b b' (fun s => { s with cache := c }) (fun _ => rfl),
    session?_cancelPending,
    session?_withSession _ b b' Session.bump (fun _ => rfl), Option.map_map, Option.map_map]
  congr 1
  funext s
  by_cases hb : b' = b <;> simp [hb]

theorem session?_looked {s : Session} (hs : m.session? b = some s) (c : PrefixCache) :
    (m.afterLookup svc b c).session? b = some { s.bump.unpend with cache := c } := by
  rw [session?_afterLookup, hs]
  simp

/-- A lookup cancels the session's request as cancelling it first would: taking a new token
does not change which request that is. -/
theorem afterLookup_service (c : PrefixCache) :
    (m.afterLookup svc b c).service = (m.cancelPending svc b).service := by
  have same : ((m.withSession b Session.bump).session? b).bind Session.pending =
      (m.session? b).bind Session.pending := by
    rw [session?_withSession_self _ b Session.bump (fun _ => rfl)]
    cases m.session? b <;> rfl
  simp only [afterLookup, withSession_service]
  unfold cancelPending
  rw [same]
  split <;> rfl

@[simp] theorem afterLookup_queue (c : PrefixCache) : (m.afterLookup svc b c).queue = m.queue := by
  simp [afterLookup]

@[simp] theorem afterLookup_captures (c : PrefixCache) :
    (m.afterLookup svc b c).captures = m.captures := by
  simp [afterLookup]

@[simp] theorem afterLookup_events (c : PrefixCache) :
    (m.afterLookup svc b c).events = m.events := by
  simp [afterLookup]

@[simp] theorem afterLookup_settings (c : PrefixCache) :
    (m.afterLookup svc b c).settings = m.settings := by
  simp [afterLookup]

theorem cached_run {s : Session} (h : m.session? b = some s) (q : Json) :
    (cached svc b lit q).run m =
      .ok ((s.cache.get q.display).2.map CacheEntry.candidates)
        (m.afterLookup svc b (s.cache.get q.display).1) := by
  have looked : ((m.withSession b Session.bump).cancelPending svc b).session? b =
      some s.bump.unpend := by
    simp [session?_cancelPending, session?_withSession_self _ b Session.bump (fun _ => rfl), h]
  simp only [cached, EStateM.run_bind, requireSession_run h, bumpToken_run, dropPending_run,
    requireSession_run looked, updateSession_run]
  rfl

theorem cached_run_none (h : m.session? b = none) (q : Json) :
    (cached svc b lit q).run m = .error (.noSession lit) m := by
  simp only [cached, EStateM.run_bind, requireSession_run_none h]

/-! ## Answering now -/

theorem throw_run {α : Type} (f : Fault) : (throw f : Step σ α).run m = .error f m := rfl

theorem map_run {α β : Type} (f : α → β) (x : Step σ α) :
    (f <$> x).run m = match x.run m with
      | .ok a m' => .ok (f a) m'
      | .error e m' => .error e m' := by
  simp only [Functor.map, EStateM.map, EStateM.run]
  cases x m <;> rfl

theorem candidates_run {s : Session} (h : m.session? b = some s) (room : Nat) (q : Json)
    (view : Text × Json) :
    (candidates svc room b lit q view).run m =
      if m.settings.enabled = false then .ok [] m
      else
        let m₁ := m.afterLookup svc b (s.cache.get q.display).1
        match (s.cache.get q.display).2 with
        | some e => .ok e.candidates m₁
        | none =>
            match Session.readView view with
            | .error f => .error f m₁
            | .ok st =>
                let asked := svc.query (room - 1) st.1 st.2 m₁.service
                match asked.1 with
                | .error f =>
                    if f.isQueryFailure = true then
                      .ok [] ({ m₁ with service := asked.2 }.noteFailure b f)
                    else .error f { m₁ with service := asked.2 }
                | .ok ss =>
                    .ok (Candidate.ofSuggestions ss)
                      (({ m₁ with service := asked.2 }.stored b q (Candidate.ofSuggestions ss)).record
                        (.ready b q (s.token + 1) (Candidate.ofSuggestions ss))) := by
  have hb := session?_buffer h
  obtain ⟨query, submit, cancel, configure, stop⟩ := svc
  simp only [candidates, EStateM.run_bind, requireSession_run h, EStateM.run_get]
  cases he : m.settings.enabled with
  | false => rfl
  | true =>
    simp only [Bool.not_true, Bool.true_eq_false, Bool.false_eq_true, if_false]
    rw [EStateM.run_bind, cached_run h]
    simp only
    cases hg : (s.cache.get q.display).2 with
    | some e => rfl
    | none =>
        simp only [Option.map_none]
        cases hv : Session.readView view with
        | error f => simp only [EStateM.run_bind, liftExcept_run]
        | ok st =>
            simp only [EStateM.run_bind, liftExcept_run, EStateM.run_get]
            cases hq : (query (room - 1) st.1 st.2
                (m.afterLookup ⟨query, submit, cancel, configure, stop⟩ b
                  (s.cache.get q.display).1).service).1 with
            | error f =>
                by_cases hf : f.isQueryFailure = true
                · simp only [afterLookup_settings, afterLookup_queue, afterLookup_captures,
                    afterLookup_events, EStateM.run_set, hf, ↓reduceIte, bind_pure_comp, map_run,
                    report_run]
                · simp [hf, throw_run]
            | ok ss =>
                have looked : (m.afterLookup ⟨query, submit, cancel, configure, stop⟩ b
                    (s.cache.get q.display).1).session? b =
                    some { s.bump.unpend with cache := (s.cache.get q.display).1 } :=
                  session?_looked h _
                generalize m.afterLookup ⟨query, submit, cancel, configure, stop⟩ b
                  (s.cache.get q.display).1 = m₁ at hq looked ⊢
                have stored_at : ({ m₁ with service := (query (room - 1) st.1 st.2 m₁.service).2 }.stored
                    b q (Candidate.ofSuggestions ss)).session? b =
                    some { s.bump.unpend with
                      cache := ((s.cache.get q.display).1.put q.display
                        (Candidate.ofSuggestions ss) true).1 } := by
                  rw [session?_stored]
                  change (m₁.session? b).map _ = _
                  rw [looked]
                  simp
                simp only [EStateM.run_set, EStateM.run_bind, store_run, requireSession_run stored_at,
                  emit_run]
                simp [hb]

theorem candidates_run_none (h : m.session? b = none) (room : Nat) (q : Json)
    (view : Text × Json) : (candidates svc room b lit q view).run m = .error (.noSession lit) m := by
  simp only [candidates, EStateM.run_bind, requireSession_run_none h]

/-! ## Answering later

A background request that misses the cache is captured under the ticket the service gives it,
with the session's new token; an answer the service already has joins the queue at once. -/

/-- The state with a background request captured under ticket `t`, an answer the service
already has queued, and the request pending in the session of the capture's buffer. -/
def captured (m : Manager σ) (t : Nat) (cap : Capture)
    (now : Option (Except Fault (List Suggestion))) : Manager σ :=
  { m with captures := m.captures ++ [(t, cap)],
           queue := m.queue ++ (now.map fun r => (⟨cap, r⟩ : Answer)).toList }.withSession
    cap.buffer fun s => { s with pending := some t }

@[simp] theorem captured_captures (m : Manager σ) (t : Nat) (cap : Capture)
    (now : Option (Except Fault (List Suggestion))) :
    (m.captured t cap now).captures = m.captures ++ [(t, cap)] := rfl
@[simp] theorem captured_queue (m : Manager σ) (t : Nat) (cap : Capture)
    (now : Option (Except Fault (List Suggestion))) :
    (m.captured t cap now).queue = m.queue ++ (now.map fun r => (⟨cap, r⟩ : Answer)).toList := rfl
@[simp] theorem captured_events (m : Manager σ) (t : Nat) (cap : Capture)
    (now : Option (Except Fault (List Suggestion))) :
    (m.captured t cap now).events = m.events := rfl
@[simp] theorem captured_settings (m : Manager σ) (t : Nat) (cap : Capture)
    (now : Option (Except Fault (List Suggestion))) :
    (m.captured t cap now).settings = m.settings := rfl

theorem session?_captured (m : Manager σ) (t : Nat) (cap : Capture)
    (now : Option (Except Fault (List Suggestion))) (b' : Text) :
    (m.captured t cap now).session? b' = (m.session? b').map fun s =>
      if b' = cap.buffer then { s with pending := some t } else s :=
  session?_withSession _ cap.buffer b' _ (fun _ => rfl)

theorem candidatesLater_run {s : Session} (h : m.session? b = some s) (q : Json) (l : Listener)
    (view : Text × Json) :
    (candidatesLater svc b lit q l view).run m =
      if m.settings.enabled = false then (deliver l []).run m
      else
        let m₁ := m.afterLookup svc b (s.cache.get q.display).1
        match (s.cache.get q.display).2 with
        | some e => (deliver l e.candidates).run m₁
        | none =>
            match Session.readView view with
            | .error f => .error f m₁
            | .ok st =>
                let asked := svc.submit st.1 st.2 m₁.service
                let cap : Capture := ⟨b, q, s.token + 1, l⟩
                match asked.1 with
                | .error f =>
                    if f.isValueFault = true then
                      (deliver l []).run ({ m₁ with service := asked.2 }.noteFailure b f)
                    else .error f { m₁ with service := asked.2 }
                | .ok hd => .ok () ({ m₁ with service := asked.2 }.captured hd.ticket cap hd.answer) := by
  have hb := session?_buffer h
  obtain ⟨query, submit, cancel, configure, stop⟩ := svc
  simp only [candidatesLater, EStateM.run_bind, requireSession_run h, EStateM.run_get]
  cases he : m.settings.enabled with
  | false =>
      simp
  | true =>
    simp only [Bool.not_true, Bool.true_eq_false, Bool.false_eq_true, if_false]
    rw [EStateM.run_bind, cached_run h]
    simp only
    cases hg : (s.cache.get q.display).2 with
    | some e => rfl
    | none =>
        have looked : (m.afterLookup ⟨query, submit, cancel, configure, stop⟩ b
            (s.cache.get q.display).1).session? b =
            some { s.bump.unpend with cache := (s.cache.get q.display).1 } :=
          session?_looked h _
        simp only [Option.map_none, EStateM.run_bind, requireSession_run looked]
        cases hv : Session.readView view with
        | error f => simp only [liftExcept_run]
        | ok st =>
            simp only [liftExcept_run, EStateM.run_get, EStateM.run_set]
            cases hq : (submit st.1 st.2 (m.afterLookup ⟨query, submit, cancel, configure, stop⟩ b
                (s.cache.get q.display).1).service).1 with
            | error f =>
                by_cases hf : f.isValueFault = true
                · simp [hf, report_run]
                · simp [hf]
            | ok hd =>
                generalize m.afterLookup ⟨query, submit, cancel, configure, stop⟩ b
                  (s.cache.get q.display).1 = m₁ at hq looked ⊢
                have idle : ∀ m' : Manager σ, m'.sessions = m₁.sessions →
                    m'.cancelPending ⟨query, submit, cancel, configure, stop⟩ b = m' := by
                  intro m' hs
                  apply cancelPending_of_none
                  change (m'.sessions.find? fun s => s.buffer == b).bind Session.pending = none
                  rw [hs]
                  change (m₁.session? b).bind Session.pending = none
                  rw [looked]
                  rfl
                cases ha : hd.answer <;>
                  simp only [ha, EStateM.run_bind, EStateM.run_modify, dropPending_run, updateSession_run,
                    hb, Session.bump_buffer, Session.unpend_buffer, Session.unpend_token,
                    Session.bump_token, Option.map_none, Option.map_some, Option.toList,
                    List.append_nil, captured] <;> rw [idle] <;> rfl

theorem candidatesLater_run_none (h : m.session? b = none) (q : Json) (l : Listener)
    (view : Text × Json) :
    (candidatesLater svc b lit q l view).run m = .error (.noSession lit) m := by
  simp only [candidatesLater, EStateM.run_bind, requireSession_run_none h]

theorem request_run (room : Nat) (q : Json) (l : Listener) (view : Text × Json) :
    (request svc room b lit q l view).run m =
      if m.settings.background = true then (candidatesLater svc b lit q l view).run m
      else
        match (candidates svc (room - 1) b lit q view).run m with
        | .ok items m' => (deliver l items).run m'
        | .error f m' => .error f m' := by
  simp only [request, EStateM.run_bind, EStateM.run_get]
  cases m.settings.background with
  | false =>
      simp only [Bool.false_eq_true, if_false, EStateM.run_bind]
      cases (candidates svc (room - 1) b lit q view).run m <;> rfl
  | true => simp only [if_true]

/-! ## Opening and closing -/

theorem closeSession_run : (closeSession svc b).run m = .ok () (m.closedSession svc b) := by
  simp only [closeSession, EStateM.run_bind, updateSession_run, dropPending_run]
  rfl

theorem closeBuffer_run : (closeBuffer svc b).run m = .ok () (m.withoutBuffer svc b) := by
  simp only [closeBuffer, EStateM.run_bind, EStateM.run_get, withoutBuffer]
  cases (m.session? b).isSome <;> simp [closeSession_run]

theorem openBuffer_run : (openBuffer svc b).run m = .ok () (m.withFresh svc b) := by
  simp only [openBuffer, EStateM.run_bind, closeBuffer_run]
  rfl

/-! ## Answers of background requests -/

theorem answer_run (t : Nat) (r : Except Fault (List Suggestion)) :
    (answer t r).run m =
      .ok () (match m.captures.find? (fun c => c.1 == t) with
        | some (_, cap) => { m with queue := m.queue ++ [⟨cap, r⟩] }
        | none => m) := by
  simp only [answer, EStateM.run_bind, EStateM.run_get]
  cases m.captures.find? (fun c => c.1 == t) with
  | none => rfl
  | some c => rfl

/-- What applying a current answer does after its failure or its list is noted: hand the
list to the answer's receiver and announce it, unless the receiver breaks. -/
def handOver (m : Manager σ) (a : Answer) (items : List Candidate) :
    EStateM.Result Fault (Manager σ) Unit :=
  match a.capture.listener.breaksWith with
  | some msg => .error (.crashed msg) (m.record (.delivered a.capture.listener.name items))
  | none => .ok () ((m.record (.delivered a.capture.listener.name items)).record
      (.ready a.capture.buffer a.capture.query a.capture.token items))

theorem applyAnswer_run (a : Answer) :
    (applyAnswer a).run m =
      match m.session? a.capture.buffer with
      | none => .ok () m
      | some s =>
          if s.closed = true then .ok () m
          else
            match a.result with
            | .error f =>
                if f.isCancellation = true then .ok () m
                else if s.isCurrent a.capture.token = true then
                  (m.noteFailure a.capture.buffer f).handOver a []
                else .ok () (m.noteFailure a.capture.buffer f)
            | .ok ss =>
                if s.isCurrent a.capture.token = true then
                  (m.stored a.capture.buffer a.capture.query (Candidate.ofSuggestions ss)).handOver a
                    (Candidate.ofSuggestions ss)
                else
                  match s.cache.holds a.capture.query with
                  | .error e => .error e m
                  | .ok true => .ok () m
                  | .ok false =>
                      .ok () (m.stored a.capture.buffer a.capture.query (Candidate.ofSuggestions ss)) := by
  simp only [applyAnswer, EStateM.run_bind, EStateM.run_get]
  cases hs : m.session? a.capture.buffer with
  | none => rfl
  | some s =>
      have hb := session?_buffer hs
      simp only
      cases hc : s.closed with
      | true => rfl
      | false =>
          simp only [Bool.false_eq_true, if_false]
          cases hr : a.result with
          | error f =>
              simp only
              cases hf : f.isCancellation with
              | true => rfl
              | false =>
                  simp only [Bool.false_eq_true, if_false, hb, EStateM.run_bind, report_run]
                  cases hcur : s.isCurrent a.capture.token with
                  | true =>
                      simp only [if_true, EStateM.run_bind, deliver_run, handOver]
                      cases a.capture.listener.breaksWith <;> rfl
                  | false => rfl
          | ok ss =>
              simp only [hb]
              cases hcur : s.isCurrent a.capture.token with
              | true =>
                  simp only [if_true, EStateM.run_bind, store_run, deliver_run, handOver]
                  cases a.capture.listener.breaksWith <;> rfl
              | false =>
                  simp only [Bool.false_eq_true, if_false, EStateM.run_bind, liftExcept_run]
                  cases hh : s.cache.holds a.capture.query with
                  | error e => rfl
                  | ok held => cases held <;> rfl

/-- The state after answers are applied in order, a failing answer stopping only itself. -/
def applied (m : Manager σ) (as : List Answer) : Manager σ :=
  as.foldl (fun m a => stateOf ((applyAnswer a).run m)) m

@[simp] theorem applied_nil (m : Manager σ) : m.applied [] = m := rfl

theorem applied_cons (m : Manager σ) (a : Answer) (as : List Answer) :
    m.applied (a :: as) = (stateOf ((applyAnswer a).run m)).applied as := rfl

/-- What applying each answer keeps holds after applying a list of them. -/
theorem applied_invariant {I : Manager σ → Prop}
    (keeps : ∀ m a, I m → I (stateOf ((applyAnswer a).run m))) {m : Manager σ} (hI : I m)
    (as : List Answer) : I (m.applied as) := by
  induction as generalizing m with
  | nil => exact hI
  | cons a as ih => exact ih (keeps m a hI)

theorem handOver_fields (m : Manager σ) (a : Answer) (items : List Candidate) :
    (stateOf (m.handOver a items)).sessions = m.sessions ∧
      (stateOf (m.handOver a items)).queue = m.queue ∧
      (stateOf (m.handOver a items)).captures = m.captures := by
  unfold handOver
  split <;> exact ⟨rfl, rfl, rfl⟩

theorem applyAll_run (as : List Answer) : (applyAll as).run m = .ok () (m.applied as) := by
  induction as generalizing m with
  | nil => rfl
  | cons a rest ih =>
      simp only [applyAll, EStateM.run_bind]
      have caught : (tryCatch (applyAnswer a) fun _ => pure () : Step σ Unit).run m =
          .ok () (stateOf ((applyAnswer a).run m)) := by
        simp only [tryCatch, MonadExceptOf.tryCatch, tryCatchThe]
        delta EStateM.tryCatch EStateM.run
        cases applyAnswer a m <;> rfl
      rw [caught]
      exact ih

theorem drain_run : (drain : Step σ Unit).run m = .ok () ({ m with queue := [] }.applied m.queue) := by
  simp only [drain, EStateM.run_bind, EStateM.run_get, EStateM.run_modify, applyAll_run]

/-! ## Settings and shutdown -/

/-- The state after sessions, one after another, take a new token and forget their request. -/
def supersedeAll (m : Manager σ) (svc : Service σ) (xs : List Session) : Manager σ :=
  xs.foldl (fun m x => (m.withSession x.buffer Session.bump).cancelPending svc x.buffer) m

theorem supersedeAll_fields (m : Manager σ) (xs : List Session) :
    (m.supersedeAll svc xs).queue = m.queue ∧ (m.supersedeAll svc xs).captures = m.captures ∧
      (m.supersedeAll svc xs).events = m.events := by
  induction xs generalizing m with
  | nil => exact ⟨rfl, rfl, rfl⟩
  | cons x xs ih =>
      obtain ⟨hq, hc, he⟩ := ih ((m.withSession x.buffer Session.bump).cancelPending svc x.buffer)
      exact ⟨hq.trans (by simp), hc.trans (by simp), he.trans (by simp)⟩

@[simp] theorem supersedeAll_queue (m : Manager σ) (xs : List Session) :
    (m.supersedeAll svc xs).queue = m.queue := (supersedeAll_fields m xs).1
@[simp] theorem supersedeAll_captures (m : Manager σ) (xs : List Session) :
    (m.supersedeAll svc xs).captures = m.captures := (supersedeAll_fields m xs).2.1
@[simp] theorem supersedeAll_events (m : Manager σ) (xs : List Session) :
    (m.supersedeAll svc xs).events = m.events := (supersedeAll_fields m xs).2.2

theorem forIn_supersede_run (xs : List Session) (m : Manager σ) :
    (forIn xs PUnit.unit fun x (_ : PUnit) => do
        bumpToken x.buffer
        dropPending svc x.buffer
        pure (ForInStep.yield PUnit.unit) : Step σ PUnit).run m =
      .ok () (m.supersedeAll svc xs) := by
  induction xs generalizing m with
  | nil => rfl
  | cons x xs ih =>
      simp only [List.forIn_cons, EStateM.run_bind, bumpToken_run, dropPending_run,
        EStateM.run_pure]
      exact ih _

theorem updateSettings_run (cfg : Json) :
    (updateSettings svc cfg).run m =
      match Settings.normalize cfg with
      | .error f => .error f m
      | .ok st =>
          .ok st (if st.enabled = true then
              { m with settings := st, service := svc.configure st m.service }
            else
              { m with settings := st, service := svc.configure st m.service }.supersedeAll svc
                m.sessions) := by
  simp only [updateSettings]
  cases Settings.normalize cfg with
  | error f => rfl
  | ok st =>
      cases hst : st.enabled with
      | true =>
          simp only [Bool.not_eq_eq_eq_not, Bool.not_true, bind_pure_comp, pure_bind, hst,
            Bool.true_eq_false, ↓reduceIte, map_run, EStateM.run_modify]
      | false =>
          simp only [hst, Bool.not_false, if_true, Bool.false_eq_true, if_false,
            EStateM.run_bind, EStateM.run_pure, EStateM.run_modify, EStateM.run_get,
            forIn_supersede_run]

/-- The state after sessions, one after another, are closed. -/
def closeAll (m : Manager σ) (svc : Service σ) (xs : List Session) : Manager σ :=
  xs.foldl (fun m x => m.closedSession svc x.buffer) m

theorem closeAll_fields (m : Manager σ) (xs : List Session) :
    (m.closeAll svc xs).queue = m.queue ∧ (m.closeAll svc xs).captures = m.captures ∧
      (m.closeAll svc xs).events = m.events := by
  induction xs generalizing m with
  | nil => exact ⟨rfl, rfl, rfl⟩
  | cons x xs ih =>
      obtain ⟨hq, hc, he⟩ := ih (m.closedSession svc x.buffer)
      exact ⟨hq.trans (by simp), hc.trans (by simp), he.trans (by simp)⟩

@[simp] theorem closeAll_queue (m : Manager σ) (xs : List Session) :
    (m.closeAll svc xs).queue = m.queue := (closeAll_fields m xs).1
@[simp] theorem closeAll_captures (m : Manager σ) (xs : List Session) :
    (m.closeAll svc xs).captures = m.captures := (closeAll_fields m xs).2.1
@[simp] theorem closeAll_events (m : Manager σ) (xs : List Session) :
    (m.closeAll svc xs).events = m.events := (closeAll_fields m xs).2.2

theorem forIn_close_run (xs : List Session) (m : Manager σ) :
    (forIn xs PUnit.unit fun x (_ : PUnit) => do
        closeSession svc x.buffer
        pure (ForInStep.yield PUnit.unit) : Step σ PUnit).run m =
      .ok () (m.closeAll svc xs) := by
  induction xs generalizing m with
  | nil => rfl
  | cons x xs ih =>
      simp only [List.forIn_cons, EStateM.run_bind, closeSession_run, EStateM.run_pure]
      exact ih _

theorem shutdown_run :
    (shutdown svc).run m =
      .ok () { m.closeAll svc m.sessions with
        sessions := [], service := svc.stop (m.closeAll svc m.sessions).service } := by
  simp only [shutdown, EStateM.run_bind, EStateM.run_get, forIn_close_run, EStateM.run_modify]

end Manager

end PhpCompletion
