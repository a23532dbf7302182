import PhpCompletion.Proofs.Manager.Frame

/-! # Which session an answer reaches

A background answer finds its session by the name of the buffer it was asked for, not by the
session that asked. Between different buffers that keeps sessions apart: every queued answer
was asked for by a call on its own buffer, and calls that spare a buffer leave its session
exactly as it was (`sessions_isolated_between_buffers`). Within one buffer it does not: a
session opened again after `closeBuffer` restarts its token at `0`, so an answer to a request
of the earlier session can match the new session's token, and it is then stored in the new
session's cache, handed to the earlier receiver and announced
(`reopened_session_takes_earlier_answer`).
-/

namespace PhpCompletion

namespace Manager

variable {σ : Type}

/-! ## Answers -/

theorem applyAnswer_keeps (m : Manager σ) (a : Answer) :
    (∀ b', b' ≠ a.capture.buffer →
        (stateOf ((applyAnswer a).run m)).session? b' = m.session? b') ∧
      (stateOf ((applyAnswer a).run m)).queue = m.queue ∧
      (stateOf ((applyAnswer a).run m)).captures = m.captures := by
  rcases applyAnswer_cases m a with ⟨-, hl⟩ | ⟨-, -, m₁, hl, handed⟩
  · exact ⟨hl.others, hl.queue, hl.captures⟩
  · obtain ⟨hs, hq, hc⟩ := handOver_fields m₁ a (itemsOf a.result)
    rw [handed]
    exact ⟨fun b' hb => (session?_eq_of_sessions hs b').trans (hl.others b' hb),
      hq.trans hl.queue, hc.trans hl.captures⟩

theorem applied_keeps (m : Manager σ) (as : List Answer) :
    (m.applied as).queue = m.queue ∧ (m.applied as).captures = m.captures := by
  refine applied_invariant (I := fun m' => m'.queue = m.queue ∧ m'.captures = m.captures)
    (fun m' a held => ?_) ⟨rfl, rfl⟩ as
  obtain ⟨-, hq, hc⟩ := applyAnswer_keeps m' a
  exact ⟨hq.trans held.1, hc.trans held.2⟩

theorem session?_applied_of_ne (m : Manager σ) (as : List Answer) (b : Text)
    (hb : ∀ a ∈ as, a.capture.buffer ≠ b) : (m.applied as).session? b = m.session? b := by
  induction as generalizing m with
  | nil => rfl
  | cons a as ih =>
      rw [applied_cons, ih _ fun a' h => hb a' (List.mem_cons_of_mem a h)]
      exact (applyAnswer_keeps m a).1 b (Ne.symm (hb a List.mem_cons_self))

/-! ## Calls that spare a buffer -/

/-- A call that spares buffer `b`: it names another buffer, or only queues an answer, drains no
answer asked for on `b`, takes settings that leave completion on, or shuts down a manager with
no session of `b`. -/
def Spares (b : Text) (m : Manager σ) : Call → Prop
  | .updateSettings cfg => ∀ st, Settings.normalize cfg = .ok st → st.enabled = true
  | .drain => ∀ a ∈ m.queue, a.capture.buffer ≠ b
  | .shutdown => m.session? b = none
  | c => c.buffer? ≠ some b

theorem step_spares (svc : Service σ) {b : Text} {m : Manager σ} {c : Call}
    (h : Spares b m c) : (step svc m c).session? b = m.session? b := by
  cases c with
  | openBuffer b' =>
      have hb : b ≠ b' := fun e => h (by rw [e]; rfl)
      simp only [step, openBuffer_run, stateOf_ok, session?_withFresh, if_neg hb]
  | closeBuffer b' =>
      have hb : b ≠ b' := fun e => h (by rw [e]; rfl)
      simp only [step, closeBuffer_run, stateOf_ok, session?_withoutBuffer, if_neg hb]
  | cached b' lit q =>
      exact (cached_local svc b' lit q).others b fun e => h (by rw [e]; rfl)
  | candidates room b' lit q view =>
      exact (candidates_local svc b' lit room q view).others b fun e => h (by rw [e]; rfl)
  | candidatesLater b' lit q l view =>
      exact (candidatesLater_handing svc b' lit q l view).others b fun e => h (by rw [e]; rfl)
  | request room b' lit q l view =>
      exact (request_handing svc room b' lit q l view).others b fun e => h (by rw [e]; rfl)
  | updateSettings cfg =>
      simp only [step, updateSettings_run]
      cases hn : Settings.normalize cfg with
      | error f => rfl
      | ok st =>
          simp only [stateOf_ok, h st hn, if_true]
          rfl
  | answer t r => exact session?_eq_of_sessions (answer_fields svc m t r).2.2.2 b
  | drain =>
      simp only [step, drain_run, stateOf_ok]
      exact session?_applied_of_ne _ m.queue b h
  | shutdown =>
      simp only [step, shutdown_run, stateOf_ok]
      exact h.symm

/-! ## Where captured requests and queued answers come from -/

theorem step_captures_eq (svc : Service σ) (m : Manager σ) (c : Call) :
    (step svc m c).captures = m.captures ∨
      ∃ t cap, (step svc m c).captures = m.captures ++ [(t, cap)] ∧
        c.buffer? = some cap.buffer ∧ c.listener? = some cap.listener := by
  cases c with
  | openBuffer b => exact .inl (by simp [step, openBuffer_run])
  | closeBuffer b => exact .inl (by simp [step, closeBuffer_run])
  | cached b lit q => exact .inl (cached_local svc b lit q).captures
  | candidates room b lit q view => exact .inl (candidates_local svc b lit room q view).captures
  | candidatesLater b lit q l view =>
      rcases (candidatesLater_handing svc b lit q l view).captures_eq with same | ⟨t, k, grown⟩
      · exact .inl same
      · exact .inr ⟨t, _, grown, rfl, rfl⟩
  | request room b lit q l view =>
      rcases (request_handing svc room b lit q l view).captures_eq with same | ⟨t, k, grown⟩
      · exact .inl same
      · exact .inr ⟨t, _, grown, rfl, rfl⟩
  | updateSettings cfg => exact .inl (updateSettings_fields svc m cfg).2.1
  | answer t r => exact .inl (answer_fields svc m t r).2.1
  | drain =>
      refine .inl ?_
      simp only [step, drain_run, stateOf_ok]
      exact (applied_keeps _ m.queue).2
  | shutdown => exact .inl (by simp [step, shutdown_run])

theorem step_captures (svc : Service σ) (m : Manager σ) (c : Call) :
    ∀ x ∈ (step svc m c).captures, x ∈ m.captures ∨ c.buffer? = some x.2.buffer := by
  intro x hx
  rcases step_captures_eq svc m c with same | ⟨t, cap, grown, named, -⟩
  · exact .inl (same ▸ hx)
  · rw [grown, List.mem_append, List.mem_singleton] at hx
    rcases hx with old | rfl
    · exact .inl old
    · exact .inr named

theorem step_queue (svc : Service σ) (m : Manager σ) (c : Call) :
    ∀ a ∈ (step svc m c).queue,
      a ∈ m.queue ∨ (∃ t, (t, a.capture) ∈ m.captures) ∨ c.buffer? = some a.capture.buffer := by
  intro a ha
  cases c with
  | openBuffer b => exact .inl (by simpa [step, openBuffer_run] using ha)
  | closeBuffer b => exact .inl (by simpa [step, closeBuffer_run] using ha)
  | cached b lit q => exact .inl ((cached_local svc b lit q).queue ▸ ha)
  | candidates room b lit q view =>
      exact .inl ((candidates_local svc b lit room q view).queue ▸ ha)
  | candidatesLater b lit q l view =>
      rcases (candidatesLater_handing svc b lit q l view).queue a ha with old | named
      · exact .inl old
      · exact .inr (.inr (by rw [named]; rfl))
  | request room b lit q l view =>
      rcases (request_handing svc room b lit q l view).queue a ha with old | named
      · exact .inl old
      · exact .inr (.inr (by rw [named]; rfl))
  | updateSettings cfg => exact .inl ((updateSettings_fields svc m cfg).1 ▸ ha)
  | answer t r => exact (answer_queued svc m t r ha).imp_right .inl
  | drain =>
      simp only [step, drain_run, stateOf_ok] at ha
      rw [(applied_keeps _ m.queue).1] at ha
      cases ha
  | shutdown => exact .inl (by simpa [step, shutdown_run] using ha)

theorem runCalls_provenance (svc : Service σ) (m : Manager σ) (cs : List Call) :
    (∀ x ∈ (runCalls svc m cs).captures, x ∈ m.captures ∨ ∃ c ∈ cs, c.buffer? = some x.2.buffer) ∧
      ∀ a ∈ (runCalls svc m cs).queue, a ∈ m.queue ∨ (∃ t, (t, a.capture) ∈ m.captures) ∨
        ∃ c ∈ cs, c.buffer? = some a.capture.buffer := by
  induction cs generalizing m with
  | nil => exact ⟨fun x hx => .inl hx, fun a ha => .inl ha⟩
  | cons c cs ih =>
      obtain ⟨caps, queued⟩ := ih (step svc m c)
      constructor
      · intro x hx
        rcases caps x hx with old | ⟨c', hc', named⟩
        · rcases step_captures svc m c x old with older | named
          · exact .inl older
          · exact .inr ⟨c, List.mem_cons_self, named⟩
        · exact .inr ⟨c', List.mem_cons_of_mem c hc', named⟩
      · intro a ha
        rcases queued a ha with old | ⟨t, hcap⟩ | ⟨c', hc', named⟩
        · rcases step_queue svc m c a old with older | ⟨t, hcap⟩ | named
          · exact .inl older
          · exact .inr (.inl ⟨t, hcap⟩)
          · exact .inr (.inr ⟨c, List.mem_cons_self, named⟩)
        · rcases step_captures svc m c _ hcap with older | named
          · exact .inr (.inl ⟨t, older⟩)
          · exact .inr (.inr ⟨c, List.mem_cons_self, named⟩)
        · exact .inr (.inr ⟨c', List.mem_cons_of_mem c hc', named⟩)

/-! ## Isolation between buffers -/

/-- Sessions of different buffers are isolated. After any run from a new manager, every queued
answer was asked for by a call on its own buffer; and any further calls that spare buffer `b`
leave the session of `b` as it was: its cache, token, reported failures and request. The
session of `b` thus changes only through calls on `b`, settings that turn completion off,
shutdown, and answers to requests made on `b`, by this session or by an earlier one of `b`. -/
theorem sessions_isolated_between_buffers (svc : Service σ) {cfg : Json} {σ₀ : σ}
    {m₀ : Manager σ} (h₀ : create cfg σ₀ = .ok m₀) (cs : List Call) (b : Text) (cs' : List Call)
    (spared : Admits svc (Spares b) (runCalls svc m₀ cs) cs') :
    (∀ a ∈ (runCalls svc m₀ cs).queue, ∃ c ∈ cs, c.buffer? = some a.capture.buffer) ∧
      (runCalls svc m₀ (cs ++ cs')).session? b = (runCalls svc m₀ cs).session? b := by
  obtain ⟨-, hq, hc, -⟩ := create_eq h₀
  constructor
  · intro a ha
    rcases (runCalls_provenance svc m₀ cs).2 a ha with old | ⟨t, hcap⟩ | named
    · rw [hq] at old
      cases old
    · rw [hc] at hcap
      cases hcap
    · exact named
  · rw [runCalls_append]
    exact Admits.invariant (I := fun m => m.session? b = (runCalls svc m₀ cs).session? b)
      (fun m c hI h => (step_spares svc h).trans hI) rfl spared

def scriptedStart : Manager Scripted :=
  ⟨Settings.defaults, Scripted.initial, [], [], [], 0, []⟩

def twoBuffers : List Call := [.openBuffer (Text.ofString "a.php"), .openBuffer (Text.ofString "b.php")]

def workOnA : List Call :=
  [.cached (Text.ofString "a.php") (Text.ofString "a.php") (.str (Text.ofString "f")),
    .candidatesLater (Text.ofString "a.php") (Text.ofString "a.php") (.str (Text.ofString "f"))
      ⟨.str (Text.ofString "cb"), none⟩ (Text.empty, .int 0)]

theorem sessions_isolated_between_buffers_sample :
    create (.obj []) Scripted.initial = .ok scriptedStart ∧
      Admits Scripted.service (Spares (Text.ofString "b.php"))
        (runCalls Scripted.service scriptedStart twoBuffers) workOnA ∧
      (runCalls Scripted.service scriptedStart (twoBuffers ++ workOnA)).session?
          (Text.ofString "b.php") =
        (runCalls Scripted.service scriptedStart twoBuffers).session? (Text.ofString "b.php") :=
  have created : create (.obj []) Scripted.initial = .ok scriptedStart := rfl
  have spared : Admits Scripted.service (Spares (Text.ofString "b.php"))
      (runCalls Scripted.service scriptedStart twoBuffers) workOnA :=
    ⟨fun h => absurd (Option.some.inj h) (by decide),
      fun h => absurd (Option.some.inj h) (by decide), trivial⟩
  ⟨created, spared,
    (sessions_isolated_between_buffers Scripted.service created twoBuffers _ workOnA spared).2⟩

/-! ## Within one buffer -/

def fooFizz : List Suggestion :=
  [⟨Text.ofString "foo", Text.empty, Text.ofString "method", none⟩,
    ⟨Text.ofString "fizz", Text.empty, Text.ofString "method", none⟩]

/-- Open `a.php` and ask for `f` in the background, for receiver `old`; close `a.php`, open it
again and look `x` up; the service answers the first request with `foo` and `fizz`; drain. -/
def reopenCalls : List Call :=
  [.openBuffer (Text.ofString "a.php"),
    .candidatesLater (Text.ofString "a.php") (Text.ofString "a.php") (.str (Text.ofString "f"))
      ⟨.str (Text.ofString "old"), none⟩ (Text.ofString "<?php\n$this->f", .int 14),
    .closeBuffer (Text.ofString "a.php"),
    .openBuffer (Text.ofString "a.php"),
    .cached (Text.ofString "a.php") (Text.ofString "a.php") (.str (Text.ofString "x")),
    .answer 0 (.ok fooFizz),
    .drain]

/-- The request is made by the first session of `a.php`; after the drain the second session of
`a.php` has its answer in its cache, and the answer was handed to the first session's receiver
and announced under the second session's token. -/
theorem reopened_session_takes_earlier_answer :
    ((runCalls Scripted.service scriptedStart (reopenCalls.take 2)).session?
        (Text.ofString "a.php")).map Session.serial = some 0 ∧
      ((runCalls Scripted.service scriptedStart reopenCalls).session?
        (Text.ofString "a.php")).map Session.serial = some 1 ∧
      ((runCalls Scripted.service scriptedStart reopenCalls).session?
        (Text.ofString "a.php")).map (fun s => s.cache.keys) = some [Text.ofString "f"] ∧
      (runCalls Scripted.service scriptedStart reopenCalls).events =
        [.delivered (.str (Text.ofString "old")) (Candidate.ofSuggestions fooFizz),
          .ready (Text.ofString "a.php") (.str (Text.ofString "f")) 1
            (Candidate.ofSuggestions fooFizz)] :=
  ⟨rfl, rfl, rfl, rfl⟩

end Manager

end PhpCompletion
