import PhpCompletion.Proofs.Manager.Supersession

/-! # The latest request wins

A receiver given to a request gets its list at once, when the cache has it or completion is
off, or later, from the drain that applies the answer of the background request the call
made. In a run from a new manager where no buffer is opened twice, every call brings its own
receiver and a deferring service answers each request at most once:

* every receiver is handed at most one list;
* the receiver of a background request is handed nothing before the drain that applies that
  request's own answer, and that drain hands it the answer's candidates, none for a failure,
  exactly when the answer is no cancellation and no call in between superseded the request
  (`latest_request_wins`).

At most once is an accounting argument: what a receiver can still be handed (`budget`) is
what it was handed, what is queued for it, and one for its call still to come or else the
answers still to come that the captures route to it; no call raises it above one.

A request that misses the cache is not always made in the background: when the service
refuses it, the call hands its receiver an empty list at once
(`refused_request_hands_over_at_once`).
-/

namespace PhpCompletion

namespace Manager

variable {σ : Type}

def Call.receiver? (c : Call) : Option Json := c.listener?.map Listener.name

variable {m m' : Manager σ} {a : Answer} {as : List Answer} {n : Json}

/-! ## Draining -/

theorem handOver_events (m : Manager σ) (a : Answer) (items : List Candidate) :
    ∃ rest, (stateOf (m.handOver a items)).events =
      m.events ++ .delivered a.capture.listener.name items :: rest ∧ ∀ e ∈ rest, Quiet e := by
  unfold handOver
  split
  · exact ⟨[], rfl, by simp⟩
  · refine ⟨[.ready a.capture.buffer a.capture.query a.capture.token items], by simp [record], ?_⟩
    simp only [List.mem_singleton, forall_eq]
    exact fun _ _ h => Event.noConfusion h

theorem applyAnswer_adds (m : Manager σ) (a : Answer) :
    Adds m (stateOf ((applyAnswer a).run m)) fun e => ∀ n items, e = .delivered n items →
      n = a.capture.listener.name ∧ Counts a.capture.buffer a.capture.token m ∧
        ¬Cancelled a.result ∧ items = itemsOf a.result := by
  have silent : ∀ {m₁ m₂ : Manager σ}, Adds m₁ m₂ Quiet → Adds m₁ m₂ fun e => ∀ n items,
      e = .delivered n items → n = a.capture.listener.name ∧
        Counts a.capture.buffer a.capture.token m ∧ ¬Cancelled a.result ∧
        items = itemsOf a.result :=
    fun h => h.mono fun _ quiet n items he => absurd he (quiet n items)
  rcases applyAnswer_cases m a with ⟨-, hl⟩ | ⟨counts, live, m₁, hl, handed⟩
  · exact silent hl.quiet
  · rw [handed]
    refine (silent hl.quiet).trans ((adds_handOver a _).mono ?_)
    intro e hands n items he
    obtain ⟨named, listed⟩ := hands n items he
    exact ⟨named, counts, live, listed⟩

theorem applyAnswer_delivers (counts : Counts a.capture.buffer a.capture.token m)
    (live : ¬Cancelled a.result) :
    ∃ new, (stateOf ((applyAnswer a).run m)).events = m.events ++ new ∧
      .delivered a.capture.listener.name (itemsOf a.result) ∈ new := by
  rcases applyAnswer_cases m a with ⟨quiet, -⟩ | ⟨-, -, m₁, hl, handed⟩
  · exact absurd ⟨counts, live⟩ quiet
  · obtain ⟨noted, hnoted, -⟩ := hl.quiet
    obtain ⟨rest, hrest, -⟩ := handOver_events m₁ a (itemsOf a.result)
    refine ⟨noted ++ .delivered a.capture.listener.name (itemsOf a.result) :: rest, ?_, by simp⟩
    rw [handed, hrest, hnoted, List.append_assoc]

theorem applied_adds (m : Manager σ) (as : List Answer) :
    Adds m (m.applied as) fun e => ∀ n items, e = .delivered n items →
      ∃ a ∈ as, n = a.capture.listener.name ∧ Counts a.capture.buffer a.capture.token m ∧
        ¬Cancelled a.result ∧ items = itemsOf a.result := by
  induction as generalizing m with
  | nil => exact Adds.of_events_eq rfl
  | cons a as ih =>
      rw [applied_cons]
      refine ((applyAnswer_adds m a).mono ?_).trans ((ih _).mono ?_)
      · intro e first n items he
        exact ⟨a, List.mem_cons_self, first n items he⟩
      · intro e later n items he
        obtain ⟨a', ha', named, counts, live, listed⟩ := later n items he
        exact ⟨a', List.mem_cons_of_mem a ha', named,
          (applyAnswer_moves m a _).counts_iff.mp counts, live, listed⟩

theorem applied_delivers (ha : a ∈ as) (counts : Counts a.capture.buffer a.capture.token m)
    (live : ¬Cancelled a.result) :
    ∃ new, (m.applied as).events = m.events ++ new ∧
      .delivered a.capture.listener.name (itemsOf a.result) ∈ new := by
  induction as generalizing m with
  | nil => cases ha
  | cons a' as ih =>
      rw [applied_cons]
      rcases List.mem_cons.mp ha with rfl | later
      · obtain ⟨new, hnew, delivered⟩ := applyAnswer_delivers counts live
        obtain ⟨rest, hrest, -⟩ := applied_adds (stateOf ((applyAnswer a).run m)) as
        exact ⟨new ++ rest, by rw [hrest, hnew, List.append_assoc],
          List.mem_append_left _ delivered⟩
      · obtain ⟨first, hfirst, -⟩ := applyAnswer_adds m a'
        obtain ⟨new, hnew, delivered⟩ :=
          ih later ((applyAnswer_moves m a' _).counts_iff.mpr counts)
        exact ⟨first ++ new, by rw [hnew, hfirst, List.append_assoc],
          List.mem_append_right _ delivered⟩

variable {svc : Service σ}

theorem drain_adds (svc : Service σ) (m : Manager σ) :
    Adds m (step svc m .drain) fun e => ∀ n items, e = .delivered n items →
      ∃ a ∈ m.queue, n = a.capture.listener.name ∧ Counts a.capture.buffer a.capture.token m ∧
        ¬Cancelled a.result ∧ items = itemsOf a.result := by
  simp only [step, drain_run, stateOf_ok]
  exact applied_adds _ m.queue

theorem drain_delivers (svc : Service σ) (ha : a ∈ m.queue)
    (counts : Counts a.capture.buffer a.capture.token m) (live : ¬Cancelled a.result) :
    ∃ new, (step svc m .drain).events = m.events ++ new ∧
      .delivered a.capture.listener.name (itemsOf a.result) ∈ new := by
  simp only [step, drain_run, stateOf_ok]
  exact applied_delivers ha counts live

/-! ## What other calls hand over -/

variable {b : Text} {q : Json} {l : Listener} {k : Nat}

theorem Handing.hands (h : Handing svc b q l k m m') :
    Adds m m' Quiet ∨ ∃ m₁ items, Adds m m₁ Quiet ∧
      m'.events = m₁.events ++ [.delivered l.name items] ∧ m'.captures = m.captures := by
  cases h with
  | now items hl => exact .inr ⟨_, items, hl.quiet, rfl, by simpa using hl.captures⟩
  | failed hl => exact .inl hl.quiet
  | later y hd _ _ _ => exact .inl (Adds.of_events_eq (by simp))

theorem step_hands (svc : Service σ) (m : Manager σ) (c : Call) (hc : c ≠ .drain) :
    Adds m (step svc m c) Quiet ∨
      ∃ l m₁ items, c.listener? = some l ∧ Adds m m₁ Quiet ∧
        (step svc m c).events = m₁.events ++ [.delivered l.name items] ∧
        (step svc m c).captures = m.captures := by
  cases c with
  | openBuffer b => exact .inl (Adds.of_events_eq (by simp [step, openBuffer_run]))
  | closeBuffer b => exact .inl (Adds.of_events_eq (by simp [step, closeBuffer_run]))
  | cached b lit q => exact .inl (cached_local svc b lit q).quiet
  | candidates room b lit q view => exact .inl (candidates_local svc b lit room q view).quiet
  | candidatesLater b lit q l view =>
      rcases (candidatesLater_handing svc b lit q l view).hands with quiet | ⟨m₁, items, h⟩
      · exact .inl quiet
      · exact .inr ⟨l, m₁, items, rfl, h⟩
  | request room b lit q l view =>
      rcases (request_handing svc room b lit q l view).hands with quiet | ⟨m₁, items, h⟩
      · exact .inl quiet
      · exact .inr ⟨l, m₁, items, rfl, h⟩
  | updateSettings cfg => exact .inl (Adds.of_events_eq (updateSettings_fields svc m cfg).2.2)
  | answer t r => exact .inl (Adds.of_events_eq (answer_fields svc m t r).2.2.1)
  | drain => exact absurd rfl hc
  | shutdown => exact .inl (Adds.of_events_eq (by simp [step, shutdown_run]))

theorem step_hands_own (svc : Service σ) (m : Manager σ) (c : Call) (hd : c ≠ .drain) :
    Adds m (step svc m c) fun e => ∀ n items, e = .delivered n items → c.receiver? = some n := by
  rcases step_hands svc m c hd with quiet | ⟨l, m₁, items, listened, hq, he, -⟩
  · exact quiet.mono fun e silent n items delivered => absurd delivered (silent n items)
  · obtain ⟨noted, hnoted, silent⟩ := hq
    refine ⟨noted ++ [.delivered l.name items], by rw [he, hnoted, List.append_assoc], ?_⟩
    intro e he' n items' delivered
    rcases List.mem_append.mp he' with early | last
    · exact absurd delivered (silent e early n items')
    · rw [List.mem_singleton] at last
      subst last
      injection delivered with named
      simp [Call.receiver?, listened, named]

theorem step_queue_eq (deferred : Deferred svc) (m : Manager σ) (c : Call)
    (hc : c.ticket? = none) (hd : c ≠ .drain) : (step svc m c).queue = m.queue := by
  cases c with
  | openBuffer b => simp [step, openBuffer_run]
  | closeBuffer b => simp [step, closeBuffer_run]
  | cached b lit q => exact (cached_local svc b lit q).queue
  | candidates room b lit q view => exact (candidates_local svc b lit room q view).queue
  | candidatesLater b lit q l view =>
      exact (candidatesLater_handing svc b lit q l view).queue_eq deferred
  | request room b lit q l view => exact (request_handing svc room b lit q l view).queue_eq deferred
  | updateSettings cfg => exact (updateSettings_fields svc m cfg).1
  | answer t r => cases hc
  | drain => exact absurd rfl hd
  | shutdown => simp [step, shutdown_run]

/-- Every queued answer belongs to a captured request. -/
def Routed (m : Manager σ) : Prop := ∀ a ∈ m.queue, ∃ t, (t, a.capture) ∈ m.captures

theorem routed_step (deferred : Deferred svc) (c : Call) (h : Routed m) :
    Routed (step svc m c) := by
  have kept : ∀ y ∈ m.captures, y ∈ (step svc m c).captures := by
    intro y hy
    rcases step_captures_eq svc m c with same | ⟨t, cap, grown, -⟩
    · rw [same]; exact hy
    · rw [grown]; exact List.mem_append_left _ hy
  intro a' ha'
  by_cases hd : c = .drain
  · subst hd
    simp [step, drain_run, (applied_keeps _ m.queue).1] at ha'
  · cases ht : c.ticket? with
    | none =>
        rw [step_queue_eq deferred m c ht hd] at ha'
        obtain ⟨t, ht⟩ := h a' ha'
        exact ⟨t, kept _ ht⟩
    | some t =>
        cases c with
        | answer t r =>
            obtain ⟨t', captured⟩ : ∃ t', (t', a'.capture) ∈ m.captures := by
              rcases answer_queued svc m t r ha' with old | captured
              · exact h a' old
              · exact captured
            exact ⟨t', kept _ captured⟩
        | _ => cases ht

theorem routed_run (deferred : Deferred svc) (cs : List Call) (h : Routed m) :
    Routed (runCalls svc m cs) :=
  runCalls_invariant (fun _ c _ held => routed_step deferred c held) h

/-! ## Receivers and tickets that appear once -/

theorem nodup_filterMap_cons {β : Type} {f : Call → Option β} {c : Call} {cs : List Call}
    (h : ((c :: cs).filterMap f).Nodup) :
    (cs.filterMap f).Nodup ∧ ∀ y, f c = some y → ∀ c' ∈ cs, f c' ≠ some y := by
  rw [List.filterMap_cons] at h
  cases hc : f c with
  | none =>
      rw [hc] at h
      exact ⟨h, fun _ h' => by cases h'⟩
  | some y =>
      rw [hc] at h
      obtain ⟨fresh, rest⟩ := List.nodup_cons.mp h
      refine ⟨rest, fun y' hy c' hc' found => fresh ?_⟩
      cases hy
      exact List.mem_filterMap.mpr ⟨c', hc', found⟩

theorem nodup_filterMap_append {β : Type} {f : Call → Option β} {pre cs : List Call}
    (h : ((pre ++ cs).filterMap f).Nodup) :
    (cs.filterMap f).Nodup ∧ ∀ c ∈ pre, ∀ y, f c = some y → ∀ c' ∈ cs, f c' ≠ some y := by
  rw [List.filterMap_append] at h
  obtain ⟨-, rest, apart⟩ := List.nodup_append.mp h
  refine ⟨rest, fun c hc y hy c' hc' found => ?_⟩
  exact apart y (List.mem_filterMap.mpr ⟨c, hc, hy⟩) y (List.mem_filterMap.mpr ⟨c', hc', found⟩) rfl

/-! ## Lists owed to a receiver -/

section Budget

open Classical

noncomputable def handedTo (n : Json) (es : List Event) : Nat :=
  es.countP fun e => ∃ items, e = .delivered n items

noncomputable def queuedFor (n : Json) (as : List Answer) : Nat :=
  as.countP fun a => a.capture.listener.name = n

def RoutesTo (caps : List (Nat × Capture)) (n : Json) (t : Nat) : Prop :=
  ∃ x, caps.find? (fun x => x.1 == t) = some x ∧ x.2.listener.name = n

noncomputable def routedTo (n : Json) (caps : List (Nat × Capture)) (cs : List Call) : Nat :=
  cs.countP fun c => ∃ t r, c = .answer t r ∧ RoutesTo caps n t

/-- What the receiver named `n` can still be handed over the calls `cs` from `m`: the lists
handed to it, the answers queued for it, and one for the call with receiver `n` still to
come, or without one, the answers still to come that the captures route to it. -/
noncomputable def budget (n : Json) (m : Manager σ) (cs : List Call) : Nat :=
  handedTo n m.events + queuedFor n m.queue +
    if ∃ c ∈ cs, c.receiver? = some n then 1 else routedTo n m.captures cs

theorem handedTo_append (n : Json) (es es' : List Event) :
    handedTo n (es ++ es') = handedTo n es + handedTo n es' :=
  List.countP_append

theorem handedTo_eq_zero {es : List Event} (h : ∀ e ∈ es, ∀ items, e ≠ .delivered n items) :
    handedTo n es = 0 := by
  refine List.countP_eq_zero.mpr fun e he handed => ?_
  obtain ⟨items, rfl⟩ := of_decide_eq_true handed
  exact h _ he items rfl

theorem Adds.handedTo_eq {P : Event → Prop} (h : Adds m m' P)
    (hP : ∀ e, P e → ∀ items, e ≠ .delivered n items) :
    handedTo n m'.events = handedTo n m.events := by
  obtain ⟨new, hnew, added⟩ := h
  rw [hnew, handedTo_append, handedTo_eq_zero fun e he => hP e (added e he), Nat.add_zero]

theorem handedTo_delivered (n : Json) (a : Answer) (items : List Candidate) :
    handedTo n [.delivered a.capture.listener.name items] = queuedFor n [a] := by
  simp [handedTo, queuedFor]

theorem queuedFor_nil (n : Json) : queuedFor n [] = 0 := rfl

theorem queuedFor_append (n : Json) (as as' : List Answer) :
    queuedFor n (as ++ as') = queuedFor n as + queuedFor n as' :=
  List.countP_append

theorem queuedFor_cons (n : Json) (a : Answer) (as : List Answer) :
    queuedFor n (a :: as) = queuedFor n [a] + queuedFor n as :=
  queuedFor_append n [a] as

theorem applyAnswer_handedTo (m : Manager σ) (a : Answer) (n : Json) :
    handedTo n (stateOf ((applyAnswer a).run m)).events ≤ handedTo n m.events + queuedFor n [a] := by
  rcases applyAnswer_cases m a with ⟨-, hl⟩ | ⟨-, -, m₁, hl, handed⟩
  · rw [hl.quiet.handedTo_eq fun _ quiet => quiet n]
    exact Nat.le_add_right _ _
  · obtain ⟨rest, hrest, quiet⟩ := handOver_events m₁ a (itemsOf a.result)
    rw [handed, hrest, ← List.singleton_append, handedTo_append, handedTo_append,
      handedTo_eq_zero fun e he => quiet e he n, hl.quiet.handedTo_eq fun _ quiet => quiet n,
      handedTo_delivered]
    exact Nat.le_refl _

theorem applied_handedTo (m : Manager σ) (as : List Answer) (n : Json) :
    handedTo n (m.applied as).events ≤ handedTo n m.events + queuedFor n as := by
  induction as generalizing m with
  | nil => simp [queuedFor]
  | cons a as ih =>
      rw [applied_cons, queuedFor_cons]
      have first := applyAnswer_handedTo m a n
      have rest := ih (stateOf ((applyAnswer a).run m))
      omega

theorem routedTo_cons (n : Json) (caps : List (Nat × Capture)) (c : Call) (cs : List Call) :
    routedTo n caps (c :: cs) = routedTo n caps [c] + routedTo n caps cs := by
  rw [← List.singleton_append]
  exact List.countP_append

theorem routedTo_free {caps : List (Nat × Capture)} (free : ∀ x ∈ caps, x.2.listener.name ≠ n)
    (cs : List Call) : routedTo n caps cs = 0 := by
  refine List.countP_eq_zero.mpr fun c _ routed => ?_
  obtain ⟨t, r, -, x, found, named⟩ := of_decide_eq_true routed
  exact free x (List.mem_of_find?_eq_some found) named

theorem routedTo_append_le {caps : List (Nat × Capture)} {x : Nat × Capture}
    (hx : x.2.listener.name ≠ n) (cs : List Call) :
    routedTo n (caps ++ [x]) cs ≤ routedTo n caps cs := by
  refine List.countP_mono_left fun c _ routed => decide_eq_true ?_
  obtain ⟨t, r, rfl, y, found, named⟩ := of_decide_eq_true routed
  refine ⟨t, r, rfl, y, ?_, named⟩
  rw [List.find?_append] at found
  cases before : caps.find? fun x => x.1 == t with
  | some y' =>
      rw [before] at found
      exact found
  | none =>
      rw [before, Option.none_or] at found
      have : y = x := by
        simpa using (List.mem_singleton.mp (List.mem_of_find?_eq_some found))
      subst this
      exact absurd named hx

theorem routedTo_le_one {caps : List (Nat × Capture)} {cs : List Call}
    (tickets : (cs.filterMap Call.ticket?).Nodup) (t : Nat)
    (one : ∀ x ∈ caps, x.2.listener.name = n → x.1 = t) : routedTo n caps cs ≤ 1 := by
  have keyed : ∀ c : Call, (∃ t' r, c = .answer t' r ∧ RoutesTo caps n t') →
      c.ticket? = some t := by
    rintro c ⟨t', r, rfl, x, found, named⟩
    have keyed : x.1 = t' := by simpa using List.find?_some found
    simp [Call.ticket?, ← keyed, one x (List.mem_of_find?_eq_some found) named]
  induction cs with
  | nil => exact Nat.zero_le _
  | cons c cs ih =>
      obtain ⟨rest, apart⟩ := nodup_filterMap_cons tickets
      rw [routedTo_cons]
      by_cases routed : ∃ t' r, c = .answer t' r ∧ RoutesTo caps n t'
      · have none_later : routedTo n caps cs = 0 := List.countP_eq_zero.mpr fun c' hc' later =>
          apart t (keyed c routed) c' hc' (keyed c' (of_decide_eq_true later))
        have single : routedTo n caps [c] ≤ 1 := List.countP_le_length
        omega
      · have unrouted : routedTo n caps [c] = 0 := by
          refine List.countP_eq_zero.mpr fun c' hc' h => routed ?_
          rw [List.mem_singleton] at hc'
          subst hc'
          exact of_decide_eq_true h
        have := ih rest
        omega

theorem queuedFor_answer (caps : List (Nat × Capture)) (t : Nat)
    (r : Except Fault (List Suggestion)) :
    queuedFor n ((caps.find? fun x => x.1 == t).map fun x => (⟨x.2, r⟩ : Answer)).toList =
      routedTo n caps [.answer t r] := by
  cases found : caps.find? fun x => x.1 == t with
  | none => simp [queuedFor, routedTo, RoutesTo, found]
  | some x =>
      have routes : (∃ t' r', Call.answer t r = .answer t' r' ∧ RoutesTo caps n t') ↔
          x.2.listener.name = n := by
        constructor
        · rintro ⟨t', r', same, y, hy, named⟩
          injection same with ht
          subst ht
          rw [found] at hy
          cases hy
          exact named
        · exact fun named => ⟨t, r, rfl, x, found, named⟩
      simp only [Option.map_some, Option.toList_some, queuedFor, routedTo, List.countP_singleton,
        decide_eq_decide.mpr routes]

theorem tally_drain (svc : Service σ) (n : Json) (m : Manager σ) :
    handedTo n (step svc m .drain).events + queuedFor n (step svc m .drain).queue ≤
        handedTo n m.events + queuedFor n m.queue ∧
      (step svc m .drain).captures = m.captures := by
  have drained : (step svc m .drain).queue = [] := by
    simp [step, drain_run, (applied_keeps _ m.queue).1]
  have handed : handedTo n (step svc m .drain).events ≤
      handedTo n m.events + queuedFor n m.queue := by
    simp only [step, drain_run, stateOf_ok]
    exact applied_handedTo _ m.queue n
  refine ⟨?_, by simp [step, drain_run, (applied_keeps _ m.queue).2]⟩
  rw [drained, queuedFor_nil]
  omega

theorem tally_answer (svc : Service σ) (n : Json) (m : Manager σ) (t : Nat)
    (r : Except Fault (List Suggestion)) :
    handedTo n (step svc m (.answer t r)).events + queuedFor n (step svc m (.answer t r)).queue =
        handedTo n m.events + queuedFor n m.queue + routedTo n m.captures [.answer t r] ∧
      (step svc m (.answer t r)).captures = m.captures := by
  obtain ⟨queued, kept, same, -⟩ := answer_fields svc m t r
  refine ⟨?_, kept⟩
  rw [same, queued, queuedFor_append, queuedFor_answer]
  omega

theorem tally_other (deferred : Deferred svc) (m : Manager σ) (c : Call) (cs : List Call)
    (hc : c.receiver? ≠ some n) (hd : c ≠ .drain) (ht : c.ticket? = none) :
    handedTo n (step svc m c).events = handedTo n m.events ∧ (step svc m c).queue = m.queue ∧
      routedTo n (step svc m c).captures cs ≤ routedTo n m.captures cs := by
  refine ⟨(step_hands_own svc m c hd).handedTo_eq fun e own items delivered =>
      hc (own n items delivered), step_queue_eq deferred m c ht hd, ?_⟩
  rcases step_captures_eq svc m c with same | ⟨t, cap, grown, -, listened⟩
  · exact Nat.le_of_eq (by rw [same])
  · rw [grown]
    exact routedTo_append_le (fun e => hc (by rw [← e]; simp [Call.receiver?, listened])) cs

theorem tally_step (deferred : Deferred svc) (m : Manager σ) (c : Call) (cs : List Call)
    (hc : c.receiver? ≠ some n) :
    handedTo n (step svc m c).events + queuedFor n (step svc m c).queue ≤
        handedTo n m.events + queuedFor n m.queue + routedTo n m.captures [c] ∧
      routedTo n (step svc m c).captures cs ≤ routedTo n m.captures cs := by
  by_cases hd : c = .drain
  · subst hd
    obtain ⟨handed, kept⟩ := tally_drain svc n m
    rw [kept]
    exact ⟨Nat.le_trans handed (Nat.le_add_right _ _), Nat.le_refl _⟩
  · cases ht : c.ticket? with
    | none =>
        obtain ⟨handed, queued, routed⟩ := tally_other deferred m c cs hc hd ht
        rw [handed, queued]
        exact ⟨Nat.le_add_right _ _, routed⟩
    | some t =>
        cases c with
        | answer t r =>
            obtain ⟨handed, kept⟩ := tally_answer svc n m t r
            rw [handed, kept]
            exact ⟨Nat.le_refl _, Nat.le_refl _⟩
        | _ => cases ht

theorem budget_step_other (deferred : Deferred svc) (m : Manager σ) (c : Call) (cs : List Call)
    (hc : c.receiver? ≠ some n)
    (free : (∃ c' ∈ c :: cs, c'.receiver? = some n) → ∀ x ∈ m.captures, x.2.listener.name ≠ n) :
    budget n (step svc m c) cs ≤ budget n m (c :: cs) := by
  have ahead : (∃ c' ∈ c :: cs, c'.receiver? = some n) ↔ ∃ c' ∈ cs, c'.receiver? = some n := by
    simp [hc]
  obtain ⟨handed, routed⟩ := tally_step deferred m c cs hc
  unfold budget
  rw [routedTo_cons]
  by_cases pending : ∃ c' ∈ cs, c'.receiver? = some n
  · rw [if_pos pending, if_pos (ahead.mpr pending)]
    rw [routedTo_free (free (ahead.mpr pending)) [c]] at handed
    omega
  · rw [if_neg pending, if_neg (mt ahead.mp pending)]
    omega

theorem budget_own {c : Call} {cs : List Call} (hb : budget n m (c :: cs) ≤ 1)
    (hc : c.receiver? = some n) : handedTo n m.events = 0 ∧ queuedFor n m.queue = 0 := by
  unfold budget at hb
  rw [if_pos ⟨c, List.mem_cons_self, hc⟩] at hb
  omega

theorem handedTo_le_budget (m : Manager σ) (cs : List Call) :
    handedTo n m.events ≤ budget n m cs := by
  unfold budget
  omega

theorem budget_step_own (deferred : Deferred svc) (m : Manager σ) (c : Call) (cs : List Call)
    (hc : c.receiver? = some n) (free : ∀ x ∈ m.captures, x.2.listener.name ≠ n)
    (once : ¬∃ c' ∈ cs, c'.receiver? = some n) (tickets : (cs.filterMap Call.ticket?).Nodup)
    (hb : budget n m (c :: cs) ≤ 1) : budget n (step svc m c) cs ≤ 1 := by
  have hd : c ≠ .drain := by rintro rfl; cases hc
  have ht : c.ticket? = none := by
    cases c <;> first | rfl | cases hc
  have before := budget_own hb hc
  unfold budget
  rw [if_neg once, step_queue_eq deferred m c ht hd, before.2]
  rcases step_hands svc m c hd with quiet | ⟨l, m₁, items, -, hq, he, same⟩
  · have one : ∃ t, ∀ x ∈ (step svc m c).captures, x.2.listener.name = n → x.1 = t := by
      rcases step_captures_eq svc m c with same | ⟨t, cap, grown, -⟩
      · exact ⟨0, fun x hx named => absurd named (free x (same ▸ hx))⟩
      · refine ⟨t, fun x hx named => ?_⟩
        rw [grown, List.mem_append, List.mem_singleton] at hx
        rcases hx with old | rfl
        · exact absurd named (free x old)
        · rfl
    obtain ⟨t, one⟩ := one
    have := routedTo_le_one tickets t one
    rw [quiet.handedTo_eq fun _ quiet => quiet n, before.1]
    omega
  · have handed : handedTo n [.delivered l.name items] ≤ 1 := List.countP_le_length
    rw [he, handedTo_append, hq.handedTo_eq fun _ quiet => quiet n, before.1, same,
      routedTo_free free]
    omega

theorem handedTo_pos {es : List Event} {items : List Candidate} (h : .delivered n items ∈ es) :
    0 < handedTo n es :=
  List.countP_pos_iff.mpr ⟨_, h, decide_eq_true ⟨items, rfl⟩⟩

theorem handedTo_cons_delivered (es : List Event) (items : List Candidate) :
    handedTo n (.delivered n items :: es) = handedTo n es + 1 := by
  rw [handedTo, List.countP_cons, if_pos (decide_eq_true ⟨items, rfl⟩)]
  rfl

theorem pairwise_of_handedTo {es : List Event} (h : ∀ n, handedTo n es ≤ 1) :
    es.Pairwise fun e e' => ∀ n items items', e = .delivered n items → e' ≠ .delivered n items' := by
  induction es with
  | nil => exact List.Pairwise.nil
  | cons e es ih =>
      have tail : ∀ n, handedTo n es ≤ 1 := fun n =>
        Nat.le_trans (List.Sublist.countP_le (List.sublist_cons_self e es)) (h n)
      refine List.pairwise_cons.mpr ⟨fun e' he' n items items' first second => ?_, ih tail⟩
      subst first second
      have later := handedTo_pos he'
      have twice := h n
      rw [handedTo_cons_delivered] at twice
      omega

end Budget

/-! ## Along a run -/

/-- The run's receivers and tickets each appear once, and the receivers still to come have no
captured request. -/
structure Owed (n : Json) (m : Manager σ) (cs : List Call) : Prop where
  receivers : (cs.filterMap Call.receiver?).Nodup
  tickets : (cs.filterMap Call.ticket?).Nodup
  free : (∃ c ∈ cs, c.receiver? = some n) → ∀ x ∈ m.captures, x.2.listener.name ≠ n
  budget : budget n m cs ≤ 1

theorem Owed.step (deferred : Deferred svc) {c : Call} {cs : List Call} (h : Owed n m (c :: cs)) :
    Owed n (step svc m c) cs := by
  obtain ⟨receivers, apart⟩ := nodup_filterMap_cons h.receivers
  have tickets := (nodup_filterMap_cons h.tickets).1
  refine ⟨receivers, tickets, fun pending => ?_, ?_⟩
  · obtain ⟨c', hc', named⟩ := pending
    have other : c.receiver? ≠ some n := fun hc => apart n hc c' hc' named
    have earlier := h.free ⟨c', List.mem_cons_of_mem c hc', named⟩
    intro x hx
    rcases step_captures_eq svc m c with same | ⟨t, cap, grown, -, listened⟩
    · exact earlier x (same ▸ hx)
    · rw [grown, List.mem_append, List.mem_singleton] at hx
      rcases hx with old | rfl
      · exact earlier _ old
      · exact fun e => other (by rw [← e]; simp [Call.receiver?, listened])
  · by_cases hc : c.receiver? = some n
    · exact budget_step_own deferred m c cs hc (h.free ⟨c, List.mem_cons_self, hc⟩)
        (fun ⟨c', hc', named⟩ => apart n hc c' hc' named) tickets h.budget
    · exact Nat.le_trans (budget_step_other deferred m c cs hc h.free) h.budget

theorem Owed.run (deferred : Deferred svc) {pre cs : List Call} (h : Owed n m (pre ++ cs)) :
    Owed n (runCalls svc m pre) cs := by
  induction pre generalizing m with
  | nil => exact h
  | cons c pre ih => exact ih (h.step deferred)

theorem owed_create {cfg : Json} {σ₀ : σ} {m₀ : Manager σ} (h₀ : create cfg σ₀ = .ok m₀)
    {cs : List Call} (receivers : (cs.filterMap Call.receiver?).Nodup)
    (tickets : (cs.filterMap Call.ticket?).Nodup) (n : Json) : Owed n m₀ cs := by
  obtain ⟨-, hq, hc, he⟩ := create_eq h₀
  refine ⟨receivers, tickets, fun _ x hx => by simp [hc] at hx, ?_⟩
  unfold budget
  rw [he, hq, hc, routedTo_free (fun x hx => by cases hx) cs]
  simp only [handedTo, queuedFor, List.countP_nil]
  split <;> omega

/-! ## The latest request wins -/

theorem captures_only {x : Nat × Capture} {cs : List Call}
    (free : ∀ y ∈ m.captures, y.2.listener.name = x.2.listener.name → y = x)
    (others : ∀ c ∈ cs, c.receiver? ≠ some x.2.listener.name) :
    ∀ y ∈ (runCalls svc m cs).captures, y.2.listener.name = x.2.listener.name → y = x := by
  induction cs generalizing m with
  | nil => exact free
  | cons c cs ih =>
      refine ih ?_ fun c' hc' => others c' (List.mem_cons_of_mem c hc')
      intro y hy named
      rcases step_captures_eq svc m c with same | ⟨t, cap, grown, -, listened⟩
      · exact free y (same ▸ hy) named
      · rw [grown, List.mem_append, List.mem_singleton] at hy
        rcases hy with old | rfl
        · exact free _ old named
        · exact absurd (by rw [← named]; simp [Call.receiver?, listened])
            (others c List.mem_cons_self)

theorem not_reopened (svc : Service σ) {cfg : Json} {σ₀ : σ} {m₀ : Manager σ}
    (h₀ : create cfg σ₀ = .ok m₀)
    {pre cs : List Call} (opensOnce : ((pre ++ cs).filterMap Call.opens?).Nodup)
    (h : (runCalls svc m₀ pre).session? b ≠ none) : ∀ c ∈ cs, c.opens? ≠ some b := by
  rcases opened_of_session? h with created | ⟨c₀, hc₀, opens⟩
  · exact absurd (by simp [session?, (create_eq h₀).1]) created
  · exact (nodup_filterMap_append opensOnce).2 c₀ hc₀ _ opens

theorem step_hands_request (svc : Service σ) (c : Call) {x : Nat × Capture} (routed : Routed m)
    (only : ∀ y ∈ m.captures, y.2.listener.name = x.2.listener.name → y = x) :
    Adds m (step svc m c) fun e => ∀ items, e = .delivered x.2.listener.name items →
      c.receiver? = some x.2.listener.name ∨
        (c = .drain ∧ Counts x.2.buffer x.2.token m ∧
          ∃ r, ⟨x.2, r⟩ ∈ m.queue ∧ ¬Cancelled r ∧ items = itemsOf r) := by
  by_cases hd : c = .drain
  · subst hd
    refine (drain_adds svc m).mono fun e handed items delivered => .inr ?_
    obtain ⟨a, ha, named, counts, live, listed⟩ := handed _ items delivered
    obtain ⟨t, captured⟩ := routed a ha
    have mine : a.capture = x.2 := by
      rw [← only _ captured named.symm]
    have own : a = ⟨x.2, a.result⟩ := by
      rw [← mine]
    have current : Counts x.2.buffer x.2.token m := by
      rw [← mine]
      exact counts
    exact ⟨rfl, current, a.result, own ▸ ha, live, listed⟩
  · exact (step_hands_own svc m c hd).mono fun e own items delivered => .inl (own _ items delivered)

/-- The latest request wins. In a run from a new manager where no buffer is opened twice, every
call brings its own receiver, and a deferring service answers each request at most once:
every receiver is handed at most one list. A call that makes a background request captures it
for its own buffer and receiver, and that receiver has been handed nothing by then. After
it, a call hands that receiver a list only if it is a drain, no call in between superseded the
request, and the request's own answer is queued, no cancellation, and the list is that
answer's candidates (none for a failure); and such a drain does hand it over. -/
theorem latest_request_wins (svc : Service σ) (deferred : Deferred svc) {cfg : Json} {σ₀ : σ}
    {m₀ : Manager σ} (h₀ : create cfg σ₀ = .ok m₀) (cs : List Call)
    (opensOnce : (cs.filterMap Call.opens?).Nodup)
    (ownReceivers : (cs.filterMap Call.receiver?).Nodup)
    (answersOnce : (cs.filterMap Call.ticket?).Nodup) :
    (runCalls svc m₀ cs).events.Pairwise
        (fun e e' => ∀ n items items', e = .delivered n items → e' ≠ .delivered n items') ∧
      ∀ pre c rest x, cs = pre ++ c :: rest →
        x ∈ (runCalls svc m₀ (pre ++ [c])).captures → x ∉ (runCalls svc m₀ pre).captures →
        c.buffer? = some x.2.buffer ∧ c.listener? = some x.2.listener ∧
        (∀ items, .delivered x.2.listener.name items ∉ (runCalls svc m₀ (pre ++ [c])).events) ∧
        ∀ mid c' post, rest = mid ++ c' :: post →
          (Adds (runCalls svc m₀ (pre ++ c :: mid)) (runCalls svc m₀ (pre ++ c :: mid ++ [c']))
              fun e => ∀ items, e = .delivered x.2.listener.name items →
                c' = .drain ∧
                Admits svc (fun m c => ¬Supersedes x.2.buffer m c) (runCalls svc m₀ (pre ++ [c]))
                  mid ∧
                ∃ r, ⟨x.2, r⟩ ∈ (runCalls svc m₀ (pre ++ c :: mid)).queue ∧ ¬Cancelled r ∧
                  items = itemsOf r) ∧
          (c' = .drain →
            Admits svc (fun m c => ¬Supersedes x.2.buffer m c) (runCalls svc m₀ (pre ++ [c])) mid →
            ∀ r, ⟨x.2, r⟩ ∈ (runCalls svc m₀ (pre ++ c :: mid)).queue → ¬Cancelled r →
            ∃ new, (runCalls svc m₀ (pre ++ c :: mid ++ [c'])).events =
                (runCalls svc m₀ (pre ++ c :: mid)).events ++ new ∧
              .delivered x.2.listener.name (itemsOf r) ∈ new) := by
  have owed := owed_create h₀ ownReceivers answersOnce
  refine ⟨pairwise_of_handedTo fun n => ?_, ?_⟩
  · have ended : Owed n (runCalls svc m₀ cs) [] := Owed.run deferred (by simpa using owed n)
    exact Nat.le_trans (handedTo_le_budget _ []) ended.budget
  intro pre c rest x split hx hn
  rw [split] at owed ownReceivers opensOnce
  have issued : runCalls svc m₀ (pre ++ [c]) = step svc (runCalls svc m₀ pre) c := by
    rw [runCalls_append, runCalls_cons, runCalls_nil]
  rw [issued] at hx
  obtain ⟨named, listened, quiet, counts, grown⟩ := step_issues (open_runCalls h₀ pre) hx hn
  have mine : c.receiver? = some x.2.listener.name := by simp [Call.receiver?, listened]
  have before := Owed.run deferred (owed x.2.listener.name)
  refine ⟨named, listened, fun items delivered => ?_, ?_⟩
  · rw [issued, quiet] at delivered
    have handed := handedTo_pos delivered
    rw [(budget_own before.budget mine).1] at handed
    exact absurd handed (Nat.lt_irrefl 0)
  intro mid c' post split'
  have others : ∀ c'' ∈ rest, c''.receiver? ≠ some x.2.listener.name :=
    (nodup_filterMap_cons (nodup_filterMap_append ownReceivers).1).2 _ mine
  have noReopen : ∀ c'' ∈ rest, c''.opens? ≠ some x.2.buffer := by
    have reordered : ((pre ++ [c] ++ rest).filterMap Call.opens?).Nodup := by
      rw [List.append_assoc, List.singleton_append]
      exact opensOnce
    refine not_reopened svc h₀ reordered ?_
    rw [issued]
    intro none_open
    simp [Counts, none_open] at counts
  rw [split'] at others noReopen
  have reached : runCalls svc m₀ (pre ++ c :: mid) =
      runCalls svc (runCalls svc m₀ (pre ++ [c])) mid := by
    rw [← runCalls_append, List.append_assoc, List.singleton_append]
  have next : runCalls svc m₀ (pre ++ c :: mid ++ [c']) =
      step svc (runCalls svc m₀ (pre ++ c :: mid)) c' := by
    rw [runCalls_append, runCalls_cons, runCalls_nil]
  -- the request stays the latest exactly while no call supersedes it
  have latest : Counts x.2.buffer x.2.token (runCalls svc m₀ (pre ++ c :: mid)) ↔
      Admits svc (fun m c => ¬Supersedes x.2.buffer m c) (runCalls svc m₀ (pre ++ [c])) mid := by
    rw [reached]
    refine counts_runCalls_iff (fun c'' h => noReopen c'' (List.mem_append_left _ h)) ?_
    rw [issued]
    exact counts
  have only : ∀ y ∈ (runCalls svc m₀ (pre ++ c :: mid)).captures,
      y.2.listener.name = x.2.listener.name → y = x := by
    rw [reached]
    refine captures_only ?_ fun c'' h => others c'' (List.mem_append_left _ h)
    intro y hy named
    rw [issued, grown, List.mem_append, List.mem_singleton] at hy
    rcases hy with old | same
    · exact absurd named (before.free ⟨c, List.mem_cons_self, mine⟩ y old)
    · exact same
  have routed : Routed (runCalls svc m₀ (pre ++ c :: mid)) :=
    routed_run deferred _ fun a ha => by simp [(create_eq h₀).2.1] at ha
  rw [next]
  refine ⟨(step_hands_request svc c' routed only).mono fun e hands items delivered => ?_,
    fun drained calm r queued live => ?_⟩
  · rcases hands items delivered with own | ⟨drained, current, r, queued, live, listed⟩
    · exact absurd own (others c' (List.mem_append_right _ List.mem_cons_self))
    · exact ⟨drained, latest.mp current, r, queued, live, listed⟩
  · subst drained
    exact drain_delivers (a := ⟨x.2, r⟩) svc queued (latest.mpr calm) live

theorem scripted_deferred : Deferred Scripted.service := by
  intro src off st hd x submitted
  simp only [Scripted.service, Prod.mk.injEq, Except.ok.injEq] at submitted
  rw [← submitted.1]

def askAndAnswer : List Call :=
  [.openBuffer (Text.ofString "a.php"),
    .candidatesLater (Text.ofString "a.php") (Text.ofString "a.php") (.str (Text.ofString "f"))
      ⟨.str (Text.ofString "cb"), none⟩ (Text.ofString "<?php\n$this->f", .int 14),
    .answer 0 (.ok fooFizz), .drain]

theorem latest_request_wins_sample :
    Deferred Scripted.service ∧ create (.obj []) Scripted.initial = .ok scriptedStart ∧
      (askAndAnswer.filterMap Call.opens?).Nodup ∧
      (askAndAnswer.filterMap Call.receiver?).Nodup ∧
      (askAndAnswer.filterMap Call.ticket?).Nodup ∧
      (runCalls Scripted.service scriptedStart askAndAnswer).events.Pairwise
        (fun e e' => ∀ n items items', e = .delivered n items → e' ≠ .delivered n items') :=
  have created : create (.obj []) Scripted.initial = .ok scriptedStart := rfl
  have opens : (askAndAnswer.filterMap Call.opens?).Nodup := by decide
  have receivers : (askAndAnswer.filterMap Call.receiver?).Nodup := by
    have only : askAndAnswer.filterMap Call.receiver? = [.str (Text.ofString "cb")] := rfl
    rw [only]
    exact List.pairwise_singleton _ _
  have tickets : (askAndAnswer.filterMap Call.ticket?).Nodup := by decide
  ⟨scripted_deferred, created, opens, receivers, tickets,
    (latest_request_wins Scripted.service scripted_deferred created askAndAnswer opens receivers
      tickets).1⟩

example : ∃ rest, (runCalls Scripted.service scriptedStart askAndAnswer).events =
    .delivered (.str (Text.ofString "cb")) (Candidate.ofSuggestions fooFizz) :: rest :=
  ⟨_, rfl⟩

def linkedStart : Manager Linked :=
  ⟨Settings.defaults,
    ⟨Client.ofSettings Settings.defaults, ⟨Disk.empty, ⟨[], .notStarted, [], false⟩⟩, 0⟩,
    [], [], [], 0, []⟩

/-- Open `a.php` and ask in the background for `f`, for receiver `x`, with the cursor past the
end of the text. -/
def refusedCalls : List Call :=
  [.openBuffer (Text.ofString "a.php"),
    .candidatesLater (Text.ofString "a.php") (Text.ofString "a.php") (.str (Text.ofString "f"))
      ⟨.str (Text.ofString "x"), none⟩ (Text.ofString "<?php\n$this->f", .int 100)]

/-- A request that misses the cache is not always made in the background: the service refuses
an offset outside the text, and the call itself hands its receiver an empty list, with no
request captured and before any drain. -/
theorem refused_request_hands_over_at_once :
    create (.obj []) linkedStart.service = .ok linkedStart ∧
      (runCalls Linked.service linkedStart refusedCalls).captures = [] ∧
      ∃ t, (runCalls Linked.service linkedStart refusedCalls).events =
        [.status t, .delivered (.str (Text.ofString "x")) []] :=
  ⟨rfl, rfl, _, rfl⟩

end Manager

end PhpCompletion
