import PhpCompletion.Manager

/-! # The manager's state changes

Every operation of the manager is a sequence of a few changes of its state: change the session
of a buffer, cancel and forget a session's background request, record an event, note a
reported failure, close and remove a session, open a fresh one. Each change is a function
here, with the lemmas that say how it moves what later proofs read: the session of a buffer
(`session?`), the queue, the captures, the events and the settings.
-/

namespace PhpCompletion

namespace Session

/-- The session with a new token. -/
def bump (s : Session) : Session := { s with token := s.token + 1 }

/-- The session with its background request forgotten. -/
def unpend (s : Session) : Session := { s with pending := none }

@[simp] theorem bump_buffer (s : Session) : s.bump.buffer = s.buffer := rfl
@[simp] theorem bump_token (s : Session) : s.bump.token = s.token + 1 := rfl
@[simp] theorem bump_cache (s : Session) : s.bump.cache = s.cache := rfl
@[simp] theorem bump_closed (s : Session) : s.bump.closed = s.closed := rfl
@[simp] theorem bump_reported (s : Session) : s.bump.reported = s.reported := rfl
@[simp] theorem unpend_buffer (s : Session) : s.unpend.buffer = s.buffer := rfl
@[simp] theorem unpend_token (s : Session) : s.unpend.token = s.token := rfl
@[simp] theorem unpend_cache (s : Session) : s.unpend.cache = s.cache := rfl
@[simp] theorem unpend_closed (s : Session) : s.unpend.closed = s.closed := rfl
@[simp] theorem unpend_reported (s : Session) : s.unpend.reported = s.reported := rfl

end Session

namespace Manager

variable {σ : Type}

/-! ## State changes -/

/-- The state with the session of buffer `b` changed by `f`. -/
def withSession (m : Manager σ) (b : Text) (f : Session → Session) : Manager σ :=
  { m with sessions := m.sessions.map fun s => if s.buffer == b then f s else s }

/-- The state with the background request of `b`'s session cancelled and forgotten. -/
def cancelPending (m : Manager σ) (svc : Service σ) (b : Text) : Manager σ :=
  match (m.session? b).bind Session.pending with
  | some t => { m with service := svc.cancel t m.service }.withSession b Session.unpend
  | none => m

/-- The state with an event recorded. -/
def record (m : Manager σ) (e : Event) : Manager σ := { m with events := m.events ++ [e] }

/-- The state after a failure of `b` is reported: its kind is noted, with a status message,
the first time the session sees it. -/
def noteFailure (m : Manager σ) (b : Text) (f : Fault) : Manager σ :=
  match m.session? b with
  | none => m
  | some s =>
      if s.reported.contains f.reportKind then m
      else (m.withSession b fun s => { s with reported := s.reported ++ [f.reportKind] }).record
        (.status (statusOf f))

/-- The state with `b`'s session closed: marked closed, its request cancelled, its cache
emptied. -/
def closedSession (m : Manager σ) (svc : Service σ) (b : Text) : Manager σ :=
  ((m.withSession b fun s => { s with closed := true }).cancelPending svc b).withSession b
    fun s => { s with cache := PrefixCache.empty }

/-- The state with `b`'s session, if it has one, closed and removed. -/
def withoutBuffer (m : Manager σ) (svc : Service σ) (b : Text) : Manager σ :=
  if (m.session? b).isSome then
    { m.closedSession svc b with
      sessions := (m.closedSession svc b).sessions.filter fun s => s.buffer != b }
  else m

/-- The state with a fresh session of `b` in place of any it had. -/
def withFresh (m : Manager σ) (svc : Service σ) (b : Text) : Manager σ :=
  { m.withoutBuffer svc b with
    sessions := (m.withoutBuffer svc b).sessions ++ [Session.fresh b (m.withoutBuffer svc b).opened]
    opened := (m.withoutBuffer svc b).opened + 1 }

/-! ## The session of a buffer -/

theorem session?_buffer {m : Manager σ} {b : Text} {s : Session} (h : m.session? b = some s) :
    s.buffer = b := by
  simpa using List.find?_some h

theorem session?_eq_of_sessions {m m' : Manager σ} (h : m'.sessions = m.sessions) (b : Text) :
    m'.session? b = m.session? b := by
  simp only [session?, h]

theorem session?_withSession (m : Manager σ) (b b' : Text) (f : Session → Session)
    (hf : ∀ s, (f s).buffer = s.buffer) :
    (m.withSession b f).session? b' = (m.session? b').map fun s => if b' = b then f s else s := by
  have keys : ((fun s : Session => s.buffer == b') ∘ fun s => if s.buffer == b then f s else s) =
      fun s => s.buffer == b' := by
    funext s
    by_cases hs : s.buffer = b <;> simp [hs, hf]
  simp only [session?, withSession]
  rw [List.find?_map, keys]
  cases h : m.sessions.find? (fun s => s.buffer == b') with
  | none => rfl
  | some s =>
      have hs : s.buffer = b' := by simpa using List.find?_some h
      by_cases hb : b' = b <;> simp [hs, hb]

theorem session?_withSession_self (m : Manager σ) (b : Text) (f : Session → Session)
    (hf : ∀ s, (f s).buffer = s.buffer) :
    (m.withSession b f).session? b = (m.session? b).map f := by
  simp [session?_withSession m b b f hf]

theorem session?_withSession_of_ne (m : Manager σ) {b b' : Text} (f : Session → Session)
    (hf : ∀ s, (f s).buffer = s.buffer) (hne : b' ≠ b) :
    (m.withSession b f).session? b' = m.session? b' := by
  simp [session?_withSession m b b' f hf, hne]

theorem session?_cancelPending (m : Manager σ) (svc : Service σ) (b b' : Text) :
    (m.cancelPending svc b).session? b' =
      (m.session? b').map fun s => if b' = b then s.unpend else s := by
  unfold cancelPending
  split
  · exact session?_withSession _ b b' Session.unpend (fun _ => rfl)
  · rename_i none_pending
    cases h : m.session? b' with
    | none => rfl
    | some s =>
        by_cases hb : b' = b
        · subst hb
          have hp : s.pending = none := by simpa [h] using none_pending
          cases s
          simp_all [Session.unpend]
        · simp [hb]

theorem cancelPending_of_none {m : Manager σ} {svc : Service σ} {b : Text}
    (h : (m.session? b).bind Session.pending = none) : m.cancelPending svc b = m := by
  unfold cancelPending
  rw [h]

@[simp] theorem session?_record (m : Manager σ) (e : Event) (b : Text) :
    (m.record e).session? b = m.session? b := rfl

theorem session?_noteFailure (m : Manager σ) (b b' : Text) (f : Fault) :
    (m.noteFailure b f).session? b' = (m.session? b').map fun s =>
      if b' = b ∧ s.reported.contains f.reportKind = false then
        { s with reported := s.reported ++ [f.reportKind] }
      else s := by
  unfold noteFailure
  cases h : m.session? b with
  | none =>
      by_cases hb : b' = b
      · subst hb
        simp [h]
      · simp [hb]
  | some s =>
      simp only
      by_cases hk : s.reported.contains f.reportKind = true
      · simp only [hk, if_true]
        cases h' : m.session? b' with
        | none => rfl
        | some s' =>
            by_cases hb : b' = b
            · subst hb
              rw [h] at h'
              cases h'
              have hk' : f.reportKind ∈ s.reported := by simpa using hk
              simp [hk']
            · simp [hb]
      · simp only [hk, if_false, Bool.false_eq_true, session?_record]
        rw [session?_withSession _ b b' (fun s => { s with reported := s.reported ++ [f.reportKind] })
          (fun _ => rfl)]
        by_cases hb : b' = b
        · subst hb
          rw [h]
          have hk' : f.reportKind ∉ s.reported := by simpa using hk
          simp [hk']
        · simp [hb]

theorem session?_closedSession (m : Manager σ) (svc : Service σ) {b b' : Text} (hne : b' ≠ b) :
    (m.closedSession svc b).session? b' = m.session? b' := by
  unfold closedSession
  rw [session?_withSession_of_ne _ (fun s => { s with cache := PrefixCache.empty }) (fun _ => rfl) hne,
    session?_cancelPending,
    session?_withSession_of_ne _ (fun s => { s with closed := true }) (fun _ => rfl) hne]
  simp [hne]

/-- Keeping only the sessions of other buffers leaves their lookup unchanged and drops `b`. -/
theorem find?_filter_buffer (ss : List Session) (b b' : Text) :
    (ss.filter fun s => s.buffer != b).find? (fun s => s.buffer == b') =
      if b' = b then none else ss.find? fun s => s.buffer == b' := by
  induction ss with
  | nil => split <;> rfl
  | cons s ss ih =>
      by_cases hs : s.buffer = b
      · have dropped : (s :: ss).filter (fun s => s.buffer != b) =
            ss.filter fun s => s.buffer != b := by
          simp [hs]
        rw [dropped, ih]
        split
        · rfl
        · rename_i hb
          have hs' : (s.buffer == b') = false := by simpa [hs] using Ne.symm hb
          simp only [List.find?_cons, hs']
      · have kept : (s :: ss).filter (fun s => s.buffer != b) =
            s :: ss.filter fun s => s.buffer != b := by
          simp [hs]
        rw [kept]
        by_cases hsb : s.buffer = b'
        · have hb : b' ≠ b := by rw [← hsb]; exact hs
          simp [hsb, hb]
        · have hs' : (s.buffer == b') = false := by simpa using hsb
          simp only [List.find?_cons, hs', ih]

theorem session?_withoutBuffer (m : Manager σ) (svc : Service σ) (b b' : Text) :
    (m.withoutBuffer svc b).session? b' = if b' = b then none else m.session? b' := by
  unfold withoutBuffer
  split
  · simp only [session?]
    rw [find?_filter_buffer]
    split
    · rfl
    · rename_i hne
      exact session?_closedSession m svc hne
  · rename_i hnone
    split
    · rename_i hb
      subst hb
      simpa using hnone
    · rfl

theorem session?_withFresh (m : Manager σ) (svc : Service σ) (b b' : Text) :
    (m.withFresh svc b).session? b' =
      if b' = b then some (Session.fresh b (m.withoutBuffer svc b).opened)
      else m.session? b' := by
  have before := session?_withoutBuffer m svc b b'
  simp only [session?] at before
  simp only [withFresh, session?, List.find?_append, before]
  by_cases hb : b' = b
  · subst hb
    simp [Session.fresh]
  · have hb' : ¬b = b' := Ne.symm hb
    simp [hb, hb', Session.fresh]

/-! ## What stays -/

@[simp] theorem withSession_queue (m : Manager σ) (b : Text) (f : Session → Session) :
    (m.withSession b f).queue = m.queue := rfl
@[simp] theorem withSession_captures (m : Manager σ) (b : Text) (f : Session → Session) :
    (m.withSession b f).captures = m.captures := rfl
@[simp] theorem withSession_events (m : Manager σ) (b : Text) (f : Session → Session) :
    (m.withSession b f).events = m.events := rfl
@[simp] theorem withSession_settings (m : Manager σ) (b : Text) (f : Session → Session) :
    (m.withSession b f).settings = m.settings := rfl
@[simp] theorem withSession_service (m : Manager σ) (b : Text) (f : Session → Session) :
    (m.withSession b f).service = m.service := rfl

@[simp] theorem record_queue (m : Manager σ) (e : Event) : (m.record e).queue = m.queue := rfl
@[simp] theorem record_captures (m : Manager σ) (e : Event) :
    (m.record e).captures = m.captures := rfl
@[simp] theorem record_events (m : Manager σ) (e : Event) :
    (m.record e).events = m.events ++ [e] := rfl
@[simp] theorem record_settings (m : Manager σ) (e : Event) :
    (m.record e).settings = m.settings := rfl

theorem cancelPending_fields (m : Manager σ) (svc : Service σ) (b : Text) :
    (m.cancelPending svc b).queue = m.queue ∧ (m.cancelPending svc b).captures = m.captures ∧
      (m.cancelPending svc b).events = m.events ∧
      (m.cancelPending svc b).settings = m.settings := by
  unfold cancelPending
  split <;> exact ⟨rfl, rfl, rfl, rfl⟩

@[simp] theorem cancelPending_queue (m : Manager σ) (svc : Service σ) (b : Text) :
    (m.cancelPending svc b).queue = m.queue := (cancelPending_fields m svc b).1
@[simp] theorem cancelPending_captures (m : Manager σ) (svc : Service σ) (b : Text) :
    (m.cancelPending svc b).captures = m.captures := (cancelPending_fields m svc b).2.1
@[simp] theorem cancelPending_events (m : Manager σ) (svc : Service σ) (b : Text) :
    (m.cancelPending svc b).events = m.events := (cancelPending_fields m svc b).2.2.1
@[simp] theorem cancelPending_settings (m : Manager σ) (svc : Service σ) (b : Text) :
    (m.cancelPending svc b).settings = m.settings := (cancelPending_fields m svc b).2.2.2

theorem noteFailure_fields (m : Manager σ) (b : Text) (f : Fault) :
    (m.noteFailure b f).queue = m.queue ∧ (m.noteFailure b f).captures = m.captures ∧
      (m.noteFailure b f).settings = m.settings ∧ (m.noteFailure b f).service = m.service := by
  unfold noteFailure
  split
  · exact ⟨rfl, rfl, rfl, rfl⟩
  · split <;> exact ⟨rfl, rfl, rfl, rfl⟩

@[simp] theorem noteFailure_queue (m : Manager σ) (b : Text) (f : Fault) :
    (m.noteFailure b f).queue = m.queue := (noteFailure_fields m b f).1
@[simp] theorem noteFailure_captures (m : Manager σ) (b : Text) (f : Fault) :
    (m.noteFailure b f).captures = m.captures := (noteFailure_fields m b f).2.1
@[simp] theorem noteFailure_settings (m : Manager σ) (b : Text) (f : Fault) :
    (m.noteFailure b f).settings = m.settings := (noteFailure_fields m b f).2.2.1

@[simp] theorem closedSession_queue (m : Manager σ) (svc : Service σ) (b : Text) :
    (m.closedSession svc b).queue = m.queue := by simp [closedSession]
@[simp] theorem closedSession_captures (m : Manager σ) (svc : Service σ) (b : Text) :
    (m.closedSession svc b).captures = m.captures := by simp [closedSession]
@[simp] theorem closedSession_events (m : Manager σ) (svc : Service σ) (b : Text) :
    (m.closedSession svc b).events = m.events := by simp [closedSession]

@[simp] theorem withoutBuffer_queue (m : Manager σ) (svc : Service σ) (b : Text) :
    (m.withoutBuffer svc b).queue = m.queue := by
  unfold withoutBuffer
  split <;> simp
@[simp] theorem withoutBuffer_captures (m : Manager σ) (svc : Service σ) (b : Text) :
    (m.withoutBuffer svc b).captures = m.captures := by
  unfold withoutBuffer
  split <;> simp
@[simp] theorem withoutBuffer_events (m : Manager σ) (svc : Service σ) (b : Text) :
    (m.withoutBuffer svc b).events = m.events := by
  unfold withoutBuffer
  split <;> simp

@[simp] theorem withFresh_queue (m : Manager σ) (svc : Service σ) (b : Text) :
    (m.withFresh svc b).queue = m.queue := by simp [withFresh]
@[simp] theorem withFresh_captures (m : Manager σ) (svc : Service σ) (b : Text) :
    (m.withFresh svc b).captures = m.captures := by simp [withFresh]
@[simp] theorem withFresh_events (m : Manager σ) (svc : Service σ) (b : Text) :
    (m.withFresh svc b).events = m.events := by simp [withFresh]

end Manager

end PhpCompletion
