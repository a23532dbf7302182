import Mathlib.Data.List.Nodup
import PhpCompletion.Proofs.Manager.Waiting

/-! # Cancelled requests

Cancellation is observed through `Service.watched`, which does what a service does and notes
every ticket it is asked to cancel. Against that record:

* a call cancels exactly the requests waited on by the sessions it ends, and nothing else
  (`step_cancels`);
* a captured request stays the one its buffer waits on until a call ends the buffer's
  requests, and that call cancels it (`ended_request_cancelled`);
* when the service never hands out a ticket twice, no session waits on a cancelled ticket
  (`cancelSafe_run`): a current request is never cancelled, and a cancellation that comes back
  for a request is never the answer of a session's current request.
-/

namespace PhpCompletion

/-- The state of a service, with the tickets it was asked to cancel, in order. -/
structure Watched (σ : Type) where
  inner : σ
  cancelled : List Nat

namespace Service

variable {σ : Type}

/-- The service that does what `svc` does and notes every ticket it is asked to cancel. -/
def watched (svc : Service σ) : Service (Watched σ) where
  query room src off w :=
    ((svc.query room src off w.inner).1, { w with inner := (svc.query room src off w.inner).2 })
  submit src off w :=
    ((svc.submit src off w.inner).1, { w with inner := (svc.submit src off w.inner).2 })
  cancel t w := ⟨svc.cancel t w.inner, w.cancelled ++ [t]⟩
  configure st w := { w with inner := svc.configure st w.inner }
  stop w := { w with inner := svc.stop w.inner }

variable (svc : Service σ) (w : Watched σ)

@[simp] theorem watched_query_cancelled (room : Nat) (src : Text) (off : Int) :
    (svc.watched.query room src off w).2.cancelled = w.cancelled := rfl
@[simp] theorem watched_submit_cancelled (src : Text) (off : Int) :
    (svc.watched.submit src off w).2.cancelled = w.cancelled := rfl
@[simp] theorem watched_cancel_cancelled (t : Nat) :
    (svc.watched.cancel t w).cancelled = w.cancelled ++ [t] := rfl
@[simp] theorem watched_configure_cancelled (st : Settings) :
    (svc.watched.configure st w).cancelled = w.cancelled := rfl
@[simp] theorem watched_stop_cancelled : (svc.watched.stop w).cancelled = w.cancelled := rfl

theorem Asks.cancelled {svc : Service σ} {x y : Watched σ} (h : Asks svc.watched x y) :
    y.cancelled = x.cancelled := by
  induction h with
  | refl => rfl
  | query room src off _ ih => simpa using ih
  | submit src off _ ih => simpa using ih

end Service

namespace Manager

variable {σ : Type} {svc : Service σ} {m m' : Manager (Watched σ)} {b : Text} {c : Call}

/-! ## What one call cancels -/

theorem cancelPending_cancelled (m : Manager (Watched σ)) (svc : Service σ) (b : Text) :
    (m.cancelPending svc.watched b).service.cancelled =
      m.service.cancelled ++ (m.waitsOn b).toList := by
  rw [cancelPending_service]
  cases m.waitsOn b <;> simp

theorem Renews.cancelled (h : Renews svc.watched b m m') :
    m'.service.cancelled = m.service.cancelled ++ (m.waitsOn b).toList := by
  rw [h.asks.cancelled, cancelPending_cancelled]

theorem cancelled_foldl (g : Manager (Watched σ) → Text → Manager (Watched σ))
    (hw : ∀ m b' b, (g m b').waitsOn b = if b = b' then none else m.waitsOn b)
    (hc : ∀ m b', (g m b').service.cancelled = m.service.cancelled ++ (m.waitsOn b').toList)
    (xs : List Session) (m : Manager (Watched σ)) :
    ∃ ts, (xs.foldl (fun m x => g m x.buffer) m).service.cancelled = m.service.cancelled ++ ts ∧
      ∀ t, t ∈ ts ↔ ∃ b ∈ xs.map Session.buffer, m.waitsOn b = some t := by
  induction xs generalizing m with
  | nil => exact ⟨[], by simp, by simp⟩
  | cons x xs ih =>
      obtain ⟨ts, log, listed⟩ := ih (g m x.buffer)
      refine ⟨(m.waitsOn x.buffer).toList ++ ts, ?_, fun t => ?_⟩
      · rw [List.foldl_cons, log, hc, List.append_assoc]
      · rw [List.mem_append, listed]
        simp only [hw, List.map_cons, List.mem_cons, Option.mem_toList]
        constructor
        · rintro (first | ⟨b, later, waits⟩)
          · exact ⟨x.buffer, .inl rfl, first⟩
          · split at waits
            · cases waits
            · exact ⟨b, .inr later, waits⟩
        · rintro ⟨b, rfl | later, waits⟩
          · exact .inl waits
          · by_cases hb : b = x.buffer
            · subst hb
              exact .inl waits
            · exact .inr ⟨b, later, by rw [if_neg hb]; exact waits⟩

theorem supersedeAll_cancelled (m : Manager (Watched σ)) (svc : Service σ) (xs : List Session) :
    ∃ ts, (m.supersedeAll svc.watched xs).service.cancelled = m.service.cancelled ++ ts ∧
      ∀ t, t ∈ ts ↔ ∃ b ∈ xs.map Session.buffer, m.waitsOn b = some t :=
  cancelled_foldl (fun m b' => (m.withSession b' Session.bump).cancelPending svc.watched b')
    (fun m b' b => by
      rw [waitsOn_cancelPending, waitsOn_withSession _ b' Session.bump (fun _ => rfl) (fun _ => rfl)])
    (fun m b' => by
      rw [cancelPending_cancelled, withSession_service,
        waitsOn_withSession _ b' Session.bump (fun _ => rfl) (fun _ => rfl)])
    xs m

theorem closeAll_cancelled (m : Manager (Watched σ)) (svc : Service σ) (xs : List Session) :
    ∃ ts, (m.closeAll svc.watched xs).service.cancelled = m.service.cancelled ++ ts ∧
      ∀ t, t ∈ ts ↔ ∃ b ∈ xs.map Session.buffer, m.waitsOn b = some t :=
  cancelled_foldl (fun m b' => m.closedSession svc.watched b')
    (fun m b' b => waitsOn_closedSession m svc.watched b' b)
    (fun m b' => by rw [closedSession_service, cancelPending_cancelled])
    xs m

theorem cancels_all {ts : List Nat} (hc : ∀ b, Ends b m c)
    (listed : ∀ t, t ∈ ts ↔ ∃ b ∈ m.sessions.map Session.buffer, m.waitsOn b = some t) (t : Nat) :
    t ∈ ts ↔ ∃ b, m.waitsOn b = some t ∧ Ends b m c := by
  rw [listed]
  constructor
  · rintro ⟨b, -, waits⟩
    exact ⟨b, waits, hc b⟩
  · rintro ⟨b, waits, -⟩
    exact ⟨b, mem_buffers_of_waitsOn waits, waits⟩

theorem step_cancels_named (named : c.buffer? = some b) :
    ∃ ts, (step svc.watched m c).service.cancelled = m.service.cancelled ++ ts ∧
      ∀ t, t ∈ ts ↔ ∃ b', m.waitsOn b' = some t ∧ Ends b' m c := by
  by_cases ends : Ends b m c
  · refine ⟨(m.waitsOn b).toList, (step_renews named ends).cancelled, fun t => ?_⟩
    rw [Option.mem_toList]
    constructor
    · intro waits
      exact ⟨b, waits, ends⟩
    · rintro ⟨b', waits, ends'⟩
      obtain rfl := ends'.buffer named
      exact waits
  · refine ⟨[], by rw [(step_still named ends).service, List.append_nil], fun t => ?_⟩
    simp only [List.not_mem_nil, false_iff]
    rintro ⟨b', -, ends'⟩
    obtain rfl := ends'.buffer named
    exact ends ends'

/-- A call cancels exactly the requests waited on by the sessions whose requests it ends. -/
theorem step_cancels (svc : Service σ) (m : Manager (Watched σ)) (c : Call) :
    ∃ ts, (step svc.watched m c).service.cancelled = m.service.cancelled ++ ts ∧
      ∀ t, t ∈ ts ↔ ∃ b, m.waitsOn b = some t ∧ Ends b m c := by
  have calm : ∀ {c'}, (∀ b, ¬Ends b m c') →
      (step svc.watched m c').service.cancelled = m.service.cancelled →
      ∃ ts, (step svc.watched m c').service.cancelled = m.service.cancelled ++ ts ∧
        ∀ t, t ∈ ts ↔ ∃ b, m.waitsOn b = some t ∧ Ends b m c' := fun none_ended same =>
    ⟨[], by rw [same, List.append_nil], fun t => by simpa using fun b _ => none_ended b⟩
  cases c
  case updateSettings cfg =>
    cases hn : Settings.normalize cfg with
    | error f =>
        exact calm (by simp [Ends, Supersedes, hn, Call.opens?])
          (by simp [step, updateSettings_run, hn])
    | ok st =>
        cases he : st.enabled with
        | true =>
            exact calm (by simp [Ends, Supersedes, hn, he, Call.opens?])
              (by simp [step, updateSettings_run, hn, he])
        | false =>
            obtain ⟨ts, log, listed⟩ := supersedeAll_cancelled
              { m with settings := st, service := svc.watched.configure st m.service } svc m.sessions
            refine ⟨ts, ?_, cancels_all (fun _ => .inl ⟨st, hn, he⟩) listed⟩
            simp only [step, updateSettings_run, hn, he, stateOf_ok, Bool.false_eq_true, if_false]
            rw [log]
            rfl
  case answer t r =>
    refine calm (by simp [Ends, Supersedes, Call.opens?]) ?_
    simp only [step, answer_run, stateOf_ok]
    split <;> rfl
  case drain =>
    refine calm (by simp [Ends, Supersedes, Call.opens?]) ?_
    simp only [step, drain_run, stateOf_ok]
    rw [(applied_waits _ m.queue).2]
  case shutdown =>
    obtain ⟨ts, log, listed⟩ := closeAll_cancelled m svc m.sessions
    refine ⟨ts, ?_, cancels_all (fun _ => .inl trivial) listed⟩
    simp only [step, shutdown_run, stateOf_ok, Service.watched_stop_cancelled]
    exact log
  all_goals exact step_cancels_named rfl

/-! ## Along a run -/

theorem captures_prefix_step (svc : Service σ) (m : Manager σ) (c : Call) :
    m.captures <+: (step svc m c).captures := by
  rcases step_captures_eq svc m c with same | ⟨t, cap, grown, -⟩
  · exact same ▸ List.prefix_refl _
  · exact grown ▸ List.prefix_append _ _

theorem captures_prefix_runCalls (svc : Service σ) (m : Manager σ) (cs : List Call) :
    m.captures <+: (runCalls svc m cs).captures :=
  runCalls_invariant (I := fun m' => m.captures <+: m'.captures)
    (fun m' c _ held => held.trans (captures_prefix_step svc m' c)) (List.prefix_refl _)

theorem ended_request_cancelled {x : Nat × Capture} {mid : List Call} {d : Call}
    (hx : x ∈ (step svc.watched m c).captures) (hn : x ∉ m.captures)
    (calm : Admits svc.watched (fun m c => ¬Ends x.2.buffer m c) (step svc.watched m c) mid)
    (ends : Ends x.2.buffer (runCalls svc.watched (step svc.watched m c) mid) d) :
    ∃ ts, (runCalls svc.watched (step svc.watched m c) (mid ++ [d])).service.cancelled =
        (runCalls svc.watched (step svc.watched m c) mid).service.cancelled ++ ts ∧ x.1 ∈ ts := by
  have waits : (runCalls svc.watched (step svc.watched m c) mid).waitsOn x.2.buffer = some x.1 :=
    (waitsOn_runCalls calm).trans (waitsOn_of_captured hx hn)
  obtain ⟨ts, log, cancelled⟩ := step_cancels svc (runCalls svc.watched (step svc.watched m c) mid) d
  rw [runCalls_append, runCalls_cons, runCalls_nil]
  exact ⟨ts, log, (cancelled x.1).mpr ⟨x.2.buffer, waits, ends⟩⟩

/-- Every cancelled ticket was handed out for a captured request, and no session waits on a
cancelled ticket. -/
structure CancelSafe (m : Manager (Watched σ)) : Prop where
  issued : ∀ t ∈ m.service.cancelled, t ∈ m.captures.map Prod.fst
  live : ∀ b t, m.waitsOn b = some t → t ∉ m.service.cancelled

theorem PendingCurrent.captured {m : Manager σ} (cur : PendingCurrent m) {t : Nat}
    (waits : m.waitsOn b = some t) : ∃ cap, (t, cap) ∈ m.captures ∧ cap.buffer = b := by
  unfold waitsOn at waits
  cases hs : m.session? b with
  | none => simp [hs] at waits
  | some s =>
      obtain ⟨cap, newest, -⟩ := cur b s t hs (by simpa [hs] using waits)
      exact ⟨cap, newestOf_mem newest⟩

theorem cancelSafe_step (cur : PendingCurrent m) (safe : CancelSafe m)
    (distinct : ((step svc.watched m c).captures.map Prod.fst).Nodup) :
    CancelSafe (step svc.watched m c) := by
  obtain ⟨ts, log, cancelled⟩ := step_cancels svc m c
  have grown := captures_prefix_step svc.watched m c
  have distinct₀ : (m.captures.map Prod.fst).Nodup :=
    List.Nodup.sublist (grown.sublist.map Prod.fst) distinct
  have issued : ∀ t ∈ m.service.cancelled ++ ts, t ∈ m.captures.map Prod.fst := by
    intro t ht
    rcases List.mem_append.mp ht with old | new
    · exact safe.issued t old
    · obtain ⟨b, waits, -⟩ := (cancelled t).mp new
      obtain ⟨cap, mem, -⟩ := cur.captured waits
      exact List.mem_map.mpr ⟨(t, cap), mem, rfl⟩
  refine ⟨fun t ht => ?_, fun b t waits ht => ?_⟩
  · rw [log] at ht
    obtain ⟨x, mem, rfl⟩ := List.mem_map.mp (issued t ht)
    exact List.mem_map.mpr ⟨x, grown.subset mem, rfl⟩
  · rw [log] at ht
    by_cases ends : Ends b m c
    · rcases step_restarts ends with ⟨idle, -⟩ | ⟨t₀, cap, s', more, -, hs', hp, -⟩
      · rw [idle] at waits
        cases waits
      · have same : t₀ = t := by simpa [waitsOn, hs', hp] using waits
        subst same
        have fresh : t₀ ∉ m.captures.map Prod.fst := by
          rw [more, List.map_append, List.nodup_append] at distinct
          exact fun old => distinct.2.2 t₀ old t₀ (by simp) rfl
        exact fresh (issued t₀ ht)
    · rw [(step_keeps_waiting svc.watched ends).1] at waits
      rcases List.mem_append.mp ht with old | new
      · exact safe.live b t waits old
      · obtain ⟨b', waits', ends'⟩ := (cancelled t).mp new
        obtain ⟨cap, mem, hb⟩ := cur.captured waits
        obtain ⟨cap', mem', hb'⟩ := cur.captured waits'
        have shared := List.inj_on_of_nodup_map distinct₀ mem mem' rfl
        cases shared
        exact ends (hb ▸ hb' ▸ ends')

theorem cancelSafe_run (cs : List Call) (cur : PendingCurrent m) (safe : CancelSafe m)
    (distinct : ((runCalls svc.watched m cs).captures.map Prod.fst).Nodup) :
    CancelSafe (runCalls svc.watched m cs) := by
  induction cs generalizing m with
  | nil => exact safe
  | cons c cs ih =>
      rw [runCalls_cons] at distinct ⊢
      have distinct₁ : ((step svc.watched m c).captures.map Prod.fst).Nodup :=
        List.Nodup.sublist ((captures_prefix_runCalls svc.watched _ cs).sublist.map Prod.fst) distinct
      exact ih (pendingCurrent_step _ c cur) (cancelSafe_step cur safe distinct₁) distinct

theorem create_service {cfg : Json} {svc₀ : σ} {m : Manager σ} (h : create cfg svc₀ = .ok m) :
    m.service = svc₀ := by
  unfold create at h
  cases hn : Settings.normalize cfg with
  | error f =>
      simp only [hn] at h
      cases h
  | ok st =>
      simp only [hn] at h
      cases h
      rfl

/-! ## The cancellation invariant -/

/-- Along every run of a new manager over a watched service: a session waits on nothing or on
its current request, the one captured last for its buffer under its latest token; the next
call cancels exactly the requests waited on by the sessions it ends; a request that call
captures is cancelled by the first later call that ends its buffer's requests; and while no
ticket is handed out twice, no session waits on a cancelled request. -/
theorem cancellation_tracks_current_request (svc : Service σ) {cfg : Json} {σ₀ : σ}
    {m₀ : Manager (Watched σ)} (h₀ : create cfg ⟨σ₀, []⟩ = .ok m₀) (cs : List Call) :
    let m := runCalls svc.watched m₀ cs
    (∀ b s t, m.session? b = some s → s.pending = some t →
      ∃ cap, m.newestOf b = some (t, cap) ∧ cap.token = s.token) ∧
    (∀ c, ∃ ts, (step svc.watched m c).service.cancelled = m.service.cancelled ++ ts ∧
      ∀ t, t ∈ ts ↔ ∃ b, m.waitsOn b = some t ∧ Ends b m c) ∧
    (∀ c mid d (x : Nat × Capture), x ∈ (step svc.watched m c).captures → x ∉ m.captures →
      Admits svc.watched (fun m' c' => ¬Ends x.2.buffer m' c') (step svc.watched m c) mid →
      Ends x.2.buffer (runCalls svc.watched (step svc.watched m c) mid) d →
      ∃ ts, (runCalls svc.watched (step svc.watched m c) (mid ++ [d])).service.cancelled =
        (runCalls svc.watched (step svc.watched m c) mid).service.cancelled ++ ts ∧ x.1 ∈ ts) ∧
    ((m.captures.map Prod.fst).Nodup →
      ∀ b t, m.waitsOn b = some t → t ∉ m.service.cancelled) := by
  intro m
  have fresh : CancelSafe m₀ := by
    have none_cancelled : m₀.service.cancelled = [] := by rw [create_service h₀]
    refine ⟨fun t ht => ?_, fun b t _ ht => ?_⟩ <;> simp [none_cancelled] at ht
  exact ⟨pendingCurrent_runCalls h₀ svc.watched cs, step_cancels svc m,
    fun c mid d x hx hn calm ends => ended_request_cancelled hx hn calm ends,
    fun distinct =>
      (cancelSafe_run cs (pendingCurrent_runCalls h₀ svc.watched []) fresh distinct).live⟩

def watchedStart : Manager (Watched Scripted) :=
  ⟨Settings.defaults, ⟨Scripted.initial, []⟩, [], [], [], 0, []⟩

def supersedingCalls : List Call :=
  [.openBuffer (Text.ofString "a.php"),
    .candidatesLater (Text.ofString "a.php") (Text.ofString "a.php") (.str (Text.ofString "f"))
      ⟨.str (Text.ofString "cb"), none⟩ (Text.ofString "<?php\n$this->f", .int 14),
    .cached (Text.ofString "a.php") (Text.ofString "a.php") (.str (Text.ofString "x"))]

theorem cancellation_tracks_current_request_sample :
    create (.obj []) (⟨Scripted.initial, []⟩ : Watched Scripted) = .ok watchedStart ∧
    let m := runCalls Scripted.service.watched watchedStart supersedingCalls
    (∀ b s t, m.session? b = some s → s.pending = some t →
      ∃ cap, m.newestOf b = some (t, cap) ∧ cap.token = s.token) ∧
    (∀ c, ∃ ts, (step Scripted.service.watched m c).service.cancelled = m.service.cancelled ++ ts ∧
      ∀ t, t ∈ ts ↔ ∃ b, m.waitsOn b = some t ∧ Ends b m c) ∧
    (∀ c mid d (x : Nat × Capture), x ∈ (step Scripted.service.watched m c).captures →
      x ∉ m.captures →
      Admits Scripted.service.watched (fun m' c' => ¬Ends x.2.buffer m' c')
        (step Scripted.service.watched m c) mid →
      Ends x.2.buffer (runCalls Scripted.service.watched (step Scripted.service.watched m c) mid) d →
      ∃ ts, (runCalls Scripted.service.watched (step Scripted.service.watched m c)
          (mid ++ [d])).service.cancelled =
        (runCalls Scripted.service.watched (step Scripted.service.watched m c) mid).service.cancelled ++
          ts ∧ x.1 ∈ ts) ∧
    ((m.captures.map Prod.fst).Nodup →
      ∀ b t, m.waitsOn b = some t → t ∉ m.service.cancelled) :=
  have created : create (.obj []) (⟨Scripted.initial, []⟩ : Watched Scripted) = .ok watchedStart :=
    rfl
  ⟨created, cancellation_tracks_current_request Scripted.service created supersedingCalls⟩

end Manager

end PhpCompletion
