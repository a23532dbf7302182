import PhpCompletion.Proofs.Manager.Isolation

/-! # Superseded requests

A background request is captured with the token its lookup gave the session, and its answer
counts only while that token is still the session's latest and the session is open (`Counts`).
This module says which calls take that away. Unless it opens the buffer again, a call either
ends the buffer's session or moves its token on, and it moves it exactly when it supersedes
the buffer's requests (`Supersedes`): a lookup of the buffer, asking for its candidates while
completion is on, settings that turn completion off, closing the buffer and shutting down
(`step_moves`). Over calls that do not open the buffer, a latest token stays latest exactly
when none of them supersedes it (`counts_runCalls_iff`).

Every listed session is open (`open_runCalls`), so a call that captures a request leaves the
request's token as its buffer's latest (`step_issues`).
-/

namespace PhpCompletion

namespace Manager

variable {σ : Type}

/-! ## Calls that supersede a request -/

/-- A call that supersedes the requests made before it for buffer `b`: a lookup of `b`, asking
for `b`'s candidates now or later while completion is on, settings that turn completion off,
closing `b`, and shutting down. -/
def Supersedes (b : Text) (m : Manager σ) : Call → Prop
  | .openBuffer _ | .answer _ _ | .drain => False
  | .closeBuffer b' | .cached b' _ _ => b' = b
  | .candidates _ b' _ _ _ | .candidatesLater b' _ _ _ _ | .request _ b' _ _ _ _ =>
      b' = b ∧ m.settings.enabled = true
  | .updateSettings cfg => ∃ st, Settings.normalize cfg = .ok st ∧ st.enabled = false
  | .shutdown => True

variable {b : Text} {j k : Nat} {m m' : Manager σ}

theorem Moves.session? (h : Moves b j m m') {s' : Session} (hs' : m'.session? b = some s') :
    ∃ s, m.session? b = some s ∧ s'.token = s.token + j ∧ s'.closed = s.closed := by
  unfold Moves at h
  rw [hs'] at h
  cases hs : m.session? b with
  | none =>
      rw [hs] at h
      cases h
  | some s =>
      rw [hs] at h
      simp only [Option.map_some, Session.stamp, Option.some.injEq, Prod.mk.injEq] at h
      exact ⟨s, rfl, h⟩

theorem Counts.moves (hk : Counts b k m) (h : Moves b j m m') : Counts b (k + j) m' := by
  unfold Counts at *
  rw [h, hk]
  rfl

theorem Moves.counts_iff (h : Moves b 0 m m') : Counts b k m' ↔ Counts b k m := by
  unfold Counts
  rw [h, Option.map_map]
  rfl

theorem moves_supersedeAll (m : Manager σ) (svc : Service σ) (xs : List Session) (b : Text) :
    Moves b (xs.countP fun x => x.buffer == b) m (m.supersedeAll svc xs) := by
  induction xs generalizing m with
  | nil => exact moves_of_session? rfl
  | cons x xs ih =>
      have first : Moves b (if x.buffer == b then 1 else 0) m
          ((m.withSession x.buffer Session.bump).cancelPending svc x.buffer) := by
        by_cases hx : x.buffer = b
        · subst hx
          simpa using (moves_bump m).trans (moves_cancelPending _ svc x.buffer)
        · have kept := moves_of_session? (b := b)
            (session?_withSession_of_ne m Session.bump (fun _ => rfl) (Ne.symm hx))
          simpa [hx] using kept.trans (moves_cancelPending _ svc x.buffer)
      rw [List.countP_cons, Nat.add_comm]
      exact first.trans (ih _)

theorem applyAnswer_moves (m : Manager σ) (a : Answer) (b : Text) :
    Moves b 0 m (stateOf ((applyAnswer a).run m)) := by
  have moved : ∀ {m'}, Local a.capture.buffer 0 m m' → Moves b 0 m m' := by
    intro m' hl
    by_cases hb : b = a.capture.buffer
    · subst hb
      exact hl.moves
    · exact moves_of_session? (hl.others b hb)
  rcases applyAnswer_cases m a with ⟨-, hl⟩ | ⟨-, -, m₁, hl, handed⟩
  · exact moved hl
  · rw [handed]
    exact (moved hl).trans
      (moves_of_session? (session?_eq_of_sessions (handOver_fields m₁ a _).1 b))

theorem applied_moves (m : Manager σ) (as : List Answer) (b : Text) :
    Moves b 0 m (m.applied as) :=
  applied_invariant (I := fun m' => Moves b 0 m m')
    (fun m' a held => held.trans (applyAnswer_moves m' a b)) (moves_of_session? rfl) as

theorem step_moves (svc : Service σ) (m : Manager σ) (c : Call) (b : Text)
    (hc : c.opens? ≠ some b) :
    (Supersedes b m c ∧ (step svc m c).session? b = none) ∨
      ∃ k, Moves b k m (step svc m c) ∧ (Supersedes b m c ↔ 0 < k) := by
  have apart : ∀ {m'}, ¬Supersedes b m c → m'.session? b = m.session? b →
      (Supersedes b m c ∧ m'.session? b = none) ∨ ∃ k, Moves b k m m' ∧ (Supersedes b m c ↔ 0 < k) :=
    fun calm kept => .inr ⟨0, moves_of_session? kept, by simp [calm]⟩
  cases c with
  | openBuffer b' =>
      have hb : b ≠ b' := fun e => hc (by rw [e]; rfl)
      refine apart (fun h => h) ?_
      simp only [step, openBuffer_run, stateOf_ok, session?_withFresh, if_neg hb]
  | closeBuffer b' =>
      by_cases hb : b' = b
      · subst hb
        exact .inl ⟨rfl, by simp [step, closeBuffer_run, session?_withoutBuffer]⟩
      · refine apart (fun h => hb h) ?_
        simp only [step, closeBuffer_run, stateOf_ok, session?_withoutBuffer, if_neg (Ne.symm hb)]
  | cached b' lit q =>
      by_cases hb : b' = b
      · subst hb
        exact .inr ⟨1, (cached_local svc b' lit q).moves, by simp [Supersedes]⟩
      · exact apart (fun h => hb h) ((cached_local svc b' lit q).others b (Ne.symm hb))
  | candidates room b' lit q view =>
      by_cases hb : b' = b
      · subst hb
        refine .inr ⟨_, (candidates_local svc b' lit room q view).moves, ?_⟩
        cases he : m.settings.enabled <;> simp [Supersedes, he]
      · exact apart (fun h => hb h.1)
          ((candidates_local svc b' lit room q view).others b (Ne.symm hb))
  | candidatesLater b' lit q l view =>
      by_cases hb : b' = b
      · subst hb
        refine .inr ⟨_, (candidatesLater_handing svc b' lit q l view).moves, ?_⟩
        cases he : m.settings.enabled <;> simp [Supersedes, he]
      · exact apart (fun h => hb h.1)
          ((candidatesLater_handing svc b' lit q l view).others b (Ne.symm hb))
  | request room b' lit q l view =>
      by_cases hb : b' = b
      · subst hb
        refine .inr ⟨_, (request_handing svc room b' lit q l view).moves, ?_⟩
        cases he : m.settings.enabled <;> simp [Supersedes, he]
      · exact apart (fun h => hb h.1)
          ((request_handing svc room b' lit q l view).others b (Ne.symm hb))
  | updateSettings cfg =>
      cases hn : Settings.normalize cfg with
      | error f =>
          refine .inr ⟨0, moves_of_session? ?_, by simp [Supersedes, hn]⟩
          simp [step, updateSettings_run, hn]
      | ok st =>
          cases he : st.enabled with
          | true =>
              refine .inr ⟨0, moves_of_session? ?_, by simp [Supersedes, hn, he]⟩
              simp [step, updateSettings_run, hn, he]
              rfl
          | false =>
              have off : Supersedes b m (.updateSettings cfg) := ⟨st, hn, he⟩
              have moved : Moves b (m.sessions.countP fun x => x.buffer == b) m
                  (step svc m (.updateSettings cfg)) := by
                simp only [step, updateSettings_run, hn, he, stateOf_ok]
                exact moves_supersedeAll _ svc m.sessions b
              cases hs : m.session? b with
              | none =>
                  refine .inl ⟨off, ?_⟩
                  unfold Moves at moved
                  rw [hs] at moved
                  simpa using moved
              | some s =>
                  have found : m.sessions.find? (fun x => x.buffer == b) = some s := hs
                  have listed : 0 < m.sessions.countP fun x => x.buffer == b :=
                    List.countP_pos_iff.mpr
                      ⟨s, List.mem_of_find?_eq_some found,
                        List.find?_some (p := fun x : Session => x.buffer == b) found⟩
                  exact .inr ⟨_, moved, ⟨fun _ => listed, fun _ => off⟩⟩
  | answer t r =>
      exact .inr ⟨0, moves_of_session? (session?_eq_of_sessions (answer_fields svc m t r).2.2.2 b),
        by simp [Supersedes]⟩
  | drain =>
      refine .inr ⟨0, ?_, by simp [Supersedes]⟩
      simp only [step, drain_run, stateOf_ok]
      exact applied_moves _ m.queue b
  | shutdown => exact .inl ⟨trivial, by simp [step, shutdown_run, session?]⟩

/-! ## Latest tokens along a run -/

/-- Token `k` is behind the latest of `b`'s session, or `b` has none: an answer under `k` no
longer counts, and nothing but opening `b` again changes that. -/
def Past (b : Text) (k : Nat) (m : Manager σ) : Prop :=
  ∀ s, m.session? b = some s → k < s.token

theorem Past.not_counts (hp : Past b k m) : ¬Counts b k m := by
  intro hk
  cases hs : m.session? b with
  | none => simp [Counts, hs] at hk
  | some s =>
      have behind := hp s hs
      simp [Counts, hs, Session.stamp] at hk
      omega

variable {svc : Service σ} {c : Call}

theorem counts_step_iff (hc : c.opens? ≠ some b) (hk : Counts b k m) :
    Counts b k (step svc m c) ↔ ¬Supersedes b m c := by
  rcases step_moves svc m c b hc with ⟨sup, ended⟩ | ⟨j, moved, iff⟩
  · simp [Counts, ended, sup]
  · have kept : Counts b k (step svc m c) ↔ j = 0 := by
      unfold Counts at hk ⊢
      rw [moved, hk]
      simp
    rw [kept, iff]
    omega

theorem past_step (hc : c.opens? ≠ some b) (hp : Past b k m) : Past b k (step svc m c) := by
  intro s' hs'
  rcases step_moves svc m c b hc with ⟨-, ended⟩ | ⟨j, moved, -⟩
  · rw [ended] at hs'
    cases hs'
  · obtain ⟨s, hs, token, -⟩ := moved.session? hs'
    have := hp s hs
    omega

theorem past_step_of_supersedes (hc : c.opens? ≠ some b) (hk : Counts b k m)
    (sup : Supersedes b m c) : Past b k (step svc m c) := by
  intro s' hs'
  rcases step_moves svc m c b hc with ⟨-, ended⟩ | ⟨j, moved, iff⟩
  · rw [ended] at hs'
    cases hs'
  · obtain ⟨s, hs, token, -⟩ := moved.session? hs'
    have latest : s.token = k := by
      simp only [Counts, hs, Option.map_some, Session.stamp, Option.some.injEq,
        Prod.mk.injEq] at hk
      exact hk.1
    have := iff.mp sup
    omega

variable {cs : List Call}

theorem past_runCalls (hno : ∀ c ∈ cs, c.opens? ≠ some b) (hp : Past b k m) :
    Past b k (runCalls svc m cs) :=
  runCalls_invariant (fun _ c hc held => past_step (hno c hc) held) hp

/-- Over calls that do not open `b`, a latest token of `b` stays latest exactly when none of
the calls supersedes it. -/
theorem counts_runCalls_iff (hno : ∀ c ∈ cs, c.opens? ≠ some b) (hk : Counts b k m) :
    Counts b k (runCalls svc m cs) ↔ Admits svc (fun m c => ¬Supersedes b m c) m cs := by
  induction cs generalizing m with
  | nil => exact ⟨fun _ => trivial, fun _ => hk⟩
  | cons c cs ih =>
      have hc := hno c List.mem_cons_self
      have rest : ∀ c' ∈ cs, c'.opens? ≠ some b := fun c' h => hno c' (List.mem_cons_of_mem c h)
      by_cases sup : Supersedes b m c
      · have behind : Past b k (runCalls svc (step svc m c) cs) :=
          past_runCalls rest (past_step_of_supersedes hc hk sup)
        exact ⟨fun h => absurd h behind.not_counts, fun h => absurd sup h.1⟩
      · have kept : Counts b k (step svc m c) := (counts_step_iff hc hk).mpr sup
        rw [runCalls_cons, ih rest kept]
        exact ⟨fun h => ⟨sup, h⟩, fun h => h.2⟩

theorem opened_of_session? (h : (runCalls svc m cs).session? b ≠ none) :
    m.session? b ≠ none ∨ ∃ c ∈ cs, c.opens? = some b := by
  induction cs generalizing m with
  | nil => exact .inl h
  | cons c cs ih =>
      rcases ih h with before | ⟨c', hc', opens⟩
      · by_cases hc : c.opens? = some b
        · exact .inr ⟨c, List.mem_cons_self, hc⟩
        · refine .inl fun none_open => before ?_
          rcases step_moves svc m c b hc with ⟨-, ended⟩ | ⟨j, moved, -⟩
          · exact ended
          · cases hs : (step svc m c).session? b with
            | none => rfl
            | some s =>
                obtain ⟨s₀, hs₀, -⟩ := moved.session? hs
                rw [none_open] at hs₀
                cases hs₀
      · exact .inr ⟨c', List.mem_cons_of_mem c hc', opens⟩

/-! ## Open sessions -/

/-- Every listed session is open: closing a session removes it. -/
def Open (m : Manager σ) : Prop := ∀ b s, m.session? b = some s → s.closed = false

theorem open_step (svc : Service σ) (c : Call) (ho : Open m) : Open (step svc m c) := by
  intro b s hs
  by_cases hc : c.opens? = some b
  · cases c with
    | openBuffer b' =>
        cases hc
        simp only [step, openBuffer_run, stateOf_ok, session?_withFresh, if_true] at hs
        cases hs
        rfl
    | _ => cases hc
  · rcases step_moves svc m c b hc with ⟨-, ended⟩ | ⟨j, moved, -⟩
    · rw [ended] at hs
      cases hs
    · obtain ⟨s₀, hs₀, -, closed⟩ := moved.session? hs
      rw [closed]
      exact ho b s₀ hs₀

theorem open_run (cs : List Call) (ho : Open m) : Open (runCalls svc m cs) :=
  runCalls_invariant (fun _ c _ held => open_step svc c held) ho

theorem open_runCalls {cfg : Json} {σ₀ : σ} {m₀ : Manager σ} (h₀ : create cfg σ₀ = .ok m₀)
    (cs : List Call) : Open (runCalls svc m₀ cs) := by
  refine open_run cs fun b s hs => ?_
  simp [session?, (create_eq h₀).1] at hs

/-! ## Issuing a background request -/

/-- The service answers no background request at once: each answer comes later, by itself. -/
def Deferred (svc : Service σ) : Prop :=
  ∀ src off st hd x, svc.submit src off st = (.ok hd, x) → hd.answer = none

variable {q : Json} {l : Listener} {x : Nat × Capture}

theorem Handing.issues (h : Handing svc b q l k m m') (ho : Open m) (hx : x ∈ m'.captures)
    (hn : x ∉ m.captures) :
    x.2.buffer = b ∧ x.2.listener = l ∧ m'.events = m.events ∧ Counts b x.2.token m' ∧
      m'.captures = m.captures ++ [x] := by
  have moved := h.moves
  cases h with
  | now items hl =>
      rw [record_captures, hl.captures] at hx
      exact absurd hx hn
  | failed hl =>
      rw [hl.captures] at hx
      exact absurd hx hn
  | @later s y hd one hs _ =>
      subst one
      have grown : ({ m.afterLookup svc b (s.cache.get q.display).1 with service := y }.captured
          hd.ticket ⟨b, q, s.token + 1, l⟩ hd.answer).captures =
          m.captures ++ [(hd.ticket, ⟨b, q, s.token + 1, l⟩)] := by simp
      rw [grown, List.mem_append, List.mem_singleton] at hx
      rcases hx with old | rfl
      · exact absurd old hn
      · refine ⟨rfl, rfl, by simp, ?_, grown⟩
        have hk : Counts b s.token m := by simp [Counts, hs, Session.stamp, ho b s hs]
        exact hk.moves moved

theorem Handing.queue_eq (h : Handing svc b q l k m m') (deferred : Deferred svc) :
    m'.queue = m.queue := by
  cases h with
  | now items hl => simpa using hl.queue
  | failed hl => exact hl.queue
  | later y hd _ _ submitted =>
      obtain ⟨src, off, st, sub⟩ := submitted
      simp [deferred src off st hd y sub]

theorem step_issues (ho : Open m) (hx : x ∈ (step svc m c).captures) (hn : x ∉ m.captures) :
    c.buffer? = some x.2.buffer ∧ c.listener? = some x.2.listener ∧
      (step svc m c).events = m.events ∧ Counts x.2.buffer x.2.token (step svc m c) ∧
      (step svc m c).captures = m.captures ++ [x] := by
  have receives : (step svc m c).captures = m.captures ∨ c.listener?.isSome := by
    rcases step_captures_eq svc m c with same | ⟨t, cap, -, -, listened⟩
    · exact .inl same
    · exact .inr (by rw [listened]; rfl)
  cases c
  case candidatesLater b lit q l view =>
    obtain ⟨hb, hl, he, hk, grown⟩ := (candidatesLater_handing svc b lit q l view).issues ho hx hn
    exact ⟨by rw [hb]; rfl, by rw [hl]; rfl, he, hb ▸ hk, grown⟩
  case request room b lit q l view =>
    obtain ⟨hb, hl, he, hk, grown⟩ := (request_handing svc room b lit q l view).issues ho hx hn
    exact ⟨by rw [hb]; rfl, by rw [hl]; rfl, he, hb ▸ hk, grown⟩
  all_goals
    rcases receives with same | named
    · rw [same] at hx
      exact absurd hx hn
    · simp [Call.listener?] at named

end Manager

end PhpCompletion
