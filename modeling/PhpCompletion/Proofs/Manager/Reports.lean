import PhpCompletion.Proofs.Manager.Isolation
import PhpCompletion.Proofs.Manager.Foreground

/-! # Reported failures

A session reports a failure with a status message the first time it sees the failure's kind,
and notes the kind. Which failures a call reports is said once, per call (`reports`): a lookup
now whose query fails with a query failure, a background request that the service refuses with
a value failure, and every failed answer a drain applies to an open session, other than a
cancellation, whether it still counts or not.

The *ledger* of a state gives the kinds each buffer's session has reported. A call moves the
ledger by noting its reports one after another, then opens, closes or drops sessions, and the
status messages it shows are exactly those of its reports whose kind is new to their session
(`step_reports`, built from one `Throttles` lemma per operation). Over a run that keeps a
session in place, the session therefore shows one status message for each kind among its
failures, at the first failure of that kind, and has reported exactly those kinds
(`runCalls_shows_first_of_kinds`, `session_reports_each_kind_once`).

Answers find their session by the buffer's name, so the failures reported to a session include
those of answers to requests of an earlier session of the same buffer: the failure of a
request made by a closed session is shown by the session opened after it
(`closed_session_failure_reported_to_successor`).
-/

namespace PhpCompletion

def Event.statusText? : Event → Option Text
  | .status t => some t
  | _ => none

namespace Fault

/-- The failures of a list whose kind is neither among `seen` nor the kind of an earlier
failure of the list: the first failure of each new kind, in order. -/
def firstOfKinds (seen : List Text) : List Fault → List Fault
  | [] => []
  | f :: fs =>
      if seen.contains f.reportKind then firstOfKinds seen fs
      else f :: firstOfKinds (seen ++ [f.reportKind]) fs

theorem firstOfKinds_append (seen : List Text) (fs gs : List Fault) :
    firstOfKinds seen (fs ++ gs) =
      firstOfKinds seen fs ++ firstOfKinds (seen ++ (firstOfKinds seen fs).map reportKind) gs := by
  induction fs generalizing seen with
  | nil => simp [firstOfKinds]
  | cons f fs ih =>
      by_cases old : f.reportKind ∈ seen
      · simp [firstOfKinds, old, ih]
      · simp [firstOfKinds, old, ih, List.append_assoc]

theorem firstOfKinds_sublist (seen : List Text) (fs : List Fault) :
    (firstOfKinds seen fs).Sublist fs := by
  induction fs generalizing seen with
  | nil => exact .slnil
  | cons f fs ih =>
      by_cases old : f.reportKind ∈ seen
      · simpa [firstOfKinds, old] using (ih seen).cons f
      · simpa [firstOfKinds, old] using (ih _).cons_cons f

theorem nodup_firstOfKinds (seen : List Text) (fs : List Fault) (h : seen.Nodup) :
    (seen ++ (firstOfKinds seen fs).map reportKind).Nodup := by
  induction fs generalizing seen with
  | nil => simpa [firstOfKinds] using h
  | cons f fs ih =>
      by_cases old : f.reportKind ∈ seen
      · simpa [firstOfKinds, old] using ih seen h
      · have grown : (seen ++ [f.reportKind]).Nodup := by
          rw [List.nodup_append]
          refine ⟨h, by simp, ?_⟩
          intro k hk k' hk'
          rw [List.mem_singleton] at hk'
          rintro rfl
          exact old (hk' ▸ hk)
        simpa [firstOfKinds, old] using ih _ grown

theorem mem_firstOfKinds_kinds (seen : List Text) (fs : List Fault) (k : Text) :
    k ∈ seen ++ (firstOfKinds seen fs).map reportKind ↔ k ∈ seen ∨ k ∈ fs.map reportKind := by
  induction fs generalizing seen with
  | nil => simp [firstOfKinds]
  | cons f fs ih =>
      by_cases old : f.reportKind ∈ seen
      · simp only [firstOfKinds, List.contains_iff_mem, old, if_true, ih, List.map_cons,
          List.mem_cons]
        constructor
        · rintro (hk | hk)
          · exact .inl hk
          · exact .inr (.inr hk)
        · rintro (hk | rfl | hk)
          · exact .inl hk
          · exact .inl old
          · exact .inr hk
      · have grown := ih (seen ++ [f.reportKind])
        simp only [List.append_assoc, List.singleton_append, List.mem_append, List.mem_cons] at grown
        simp only [firstOfKinds, List.contains_iff_mem, old, if_false, List.map_cons,
          List.mem_append, List.mem_cons, grown]
        simp only [List.not_mem_nil, or_false, or_assoc]

end Fault

def failuresOf (b : Text) (log : List (Text × Fault)) : List Fault :=
  (log.filter (·.1 == b)).map Prod.snd

theorem failuresOf_append (b : Text) (log log' : List (Text × Fault)) :
    failuresOf b (log ++ log') = failuresOf b log ++ failuresOf b log' := by
  simp [failuresOf]

/-- The kinds of failure that the session of each buffer has reported; none for a buffer with
no session. -/
def Ledger : Type := Text → Option (List Text)

namespace Ledger

def isNew (L : Ledger) (b : Text) (f : Fault) : Bool :=
  match L b with
  | some ks => !ks.contains f.reportKind
  | none => false

def note (L : Ledger) (b : Text) (f : Fault) : Ledger := fun b' =>
  (L b').map fun ks =>
    if b' = b ∧ ks.contains f.reportKind = false then ks ++ [f.reportKind] else ks

def notes (L : Ledger) : List (Text × Fault) → Ledger
  | [] => L
  | x :: log => (L.note x.1 x.2).notes log

def shows (L : Ledger) : List (Text × Fault) → List (Text × Fault)
  | [] => []
  | x :: log => (if L.isNew x.1 x.2 then [x] else []) ++ (L.note x.1 x.2).shows log

def reset (L : Ledger) : Manager.Call → Ledger
  | .openBuffer b => fun b' => if b' = b then some [] else L b'
  | .closeBuffer b => fun b' => if b' = b then none else L b'
  | .shutdown => fun _ => none
  | _ => L

variable (L : Ledger)

theorem notes_append (log log' : List (Text × Fault)) :
    L.notes (log ++ log') = (L.notes log).notes log' := by
  induction log generalizing L with
  | nil => rfl
  | cons x log ih => exact ih _

theorem shows_append (log log' : List (Text × Fault)) :
    L.shows (log ++ log') = L.shows log ++ (L.notes log).shows log' := by
  induction log generalizing L with
  | nil => rfl
  | cons x log ih =>
      simp only [List.cons_append, shows, ih, notes, List.append_assoc]

theorem shows_notes_of_buffer (b : Text) (log : List (Text × Fault)) {ks : List Text}
    (hb : L b = some ks) :
    failuresOf b (L.shows log) = Fault.firstOfKinds ks (failuresOf b log) ∧
      L.notes log b = some (ks ++ (Fault.firstOfKinds ks (failuresOf b log)).map Fault.reportKind) := by
  induction log generalizing L ks with
  | nil => simpa [shows, notes, failuresOf, Fault.firstOfKinds] using hb
  | cons x log ih =>
      obtain ⟨b', f⟩ := x
      by_cases same : b' = b
      · subst same
        by_cases seen : f.reportKind ∈ ks
        · have kept : L.note b' f b' = some ks := by simp [note, hb, seen]
          have old : L.isNew b' f = false := by simp [isNew, hb, seen]
          obtain ⟨shown, noted⟩ := ih (L.note b' f) kept
          simp only [failuresOf] at shown noted
          simp [shows, notes, failuresOf, old, shown, noted, Fault.firstOfKinds, seen]
        · have grown : L.note b' f b' = some (ks ++ [f.reportKind]) := by simp [note, hb, seen]
          have fresh : L.isNew b' f = true := by simp [isNew, hb, seen]
          obtain ⟨shown, noted⟩ := ih (L.note b' f) grown
          simp only [failuresOf] at shown noted
          simp [shows, notes, failuresOf, fresh, shown, noted, Fault.firstOfKinds, seen]
      · have kept : L.note b' f b = some ks := by simp [note, hb, Ne.symm same]
        obtain ⟨shown, noted⟩ := ih (L.note b' f) kept
        simp only [failuresOf] at shown noted
        have other : (b' == b) = false := by simpa using same
        by_cases fresh : L.isNew b' f = true <;>
          simp [shows, notes, failuresOf, fresh, shown, noted, other]

end Ledger

namespace Manager

variable {σ : Type}

def ledger (m : Manager σ) : Ledger := fun b => (m.session? b).map Session.reported

def statuses (m : Manager σ) : List Text := m.events.filterMap Event.statusText?

/-- `m'` moves the ledger of `m` by noting the failures of `log` in order, and shows after the
status messages of `m` those of the failures of `log` that are new to their session, and no
others. -/
structure Throttles (m m' : Manager σ) (log : List (Text × Fault)) : Prop where
  ledger : m'.ledger = m.ledger.notes log
  statuses : m'.statuses = m.statuses ++ (m.ledger.shows log).map fun x => statusOf x.2

section Throttles

variable {m m' m'' : Manager σ} {log log' : List (Text × Fault)}

theorem Throttles.of_eq (hl : m'.ledger = m.ledger) (hs : m'.statuses = m.statuses) :
    Throttles m m' [] :=
  ⟨hl, by simp [hs, Ledger.shows]⟩

theorem Throttles.trans (h : Throttles m m' log) (h' : Throttles m' m'' log') :
    Throttles m m'' (log ++ log') := by
  refine ⟨by rw [h'.ledger, h.ledger, Ledger.notes_append], ?_⟩
  rw [h'.statuses, h.statuses, h.ledger, Ledger.shows_append, List.map_append, List.append_assoc]

theorem Throttles.refl (m : Manager σ) : Throttles m m [] := .of_eq rfl rfl

theorem Throttles.quiet_trans (h : Throttles m m' []) (h' : Throttles m' m'' log) :
    Throttles m m'' log := by
  simpa using h.trans h'

theorem Throttles.trans_quiet (h : Throttles m m' log) (h' : Throttles m' m'' []) :
    Throttles m m'' log := by
  simpa using h.trans h'

end Throttles

/-! ## State changes that leave the ledger and the status messages -/

section Changes

variable (m : Manager σ) (svc : Service σ) (b : Text)

theorem ledger_of_sessions {m' : Manager σ} (h : m'.sessions = m.sessions) :
    m'.ledger = m.ledger := by
  funext b'
  simp only [ledger, session?_eq_of_sessions h]

theorem ledger_withSession (f : Session → Session) (hf : ∀ s, (f s).buffer = s.buffer)
    (hr : ∀ s, (f s).reported = s.reported) : (m.withSession b f).ledger = m.ledger := by
  funext b'
  simp only [ledger, session?_withSession m b b' f hf, Option.map_map]
  congr 1
  funext s
  by_cases hb : b' = b <;> simp [hb, hr]

@[simp] theorem ledger_cancelPending : (m.cancelPending svc b).ledger = m.ledger := by
  funext b'
  simp only [ledger, session?_cancelPending, Option.map_map]
  congr 1
  funext s
  by_cases hb : b' = b <;> simp [hb, Session.unpend]

@[simp] theorem ledger_afterLookup (c : PrefixCache) : (m.afterLookup svc b c).ledger = m.ledger := by
  rw [afterLookup, ledger_withSession _ b (fun s => { s with cache := c }) (fun _ => rfl)
    (fun _ => rfl), ledger_cancelPending, ledger_withSession _ b Session.bump (fun _ => rfl)
    (fun _ => rfl)]

@[simp] theorem ledger_stored (q : Json) (items : List Candidate) :
    (m.stored b q items).ledger = m.ledger :=
  ledger_withSession _ _ _ (fun _ => rfl) (fun _ => rfl)

@[simp] theorem ledger_captured (t : Nat) (cap : Capture)
    (now : Option (Except Fault (List Suggestion))) : (m.captured t cap now).ledger = m.ledger :=
  ledger_withSession _ _ _ (fun _ => rfl) (fun _ => rfl)

@[simp] theorem ledger_record (e : Event) : (m.record e).ledger = m.ledger := rfl

theorem statuses_of_events {m' : Manager σ} (h : m'.events = m.events) :
    m'.statuses = m.statuses := by
  simp only [statuses, h]

@[simp] theorem statuses_record (e : Event) :
    (m.record e).statuses = m.statuses ++ e.statusText?.toList := by
  cases e <;> simp [statuses, record, Event.statusText?]

@[simp] theorem statuses_afterLookup (c : PrefixCache) :
    (m.afterLookup svc b c).statuses = m.statuses :=
  statuses_of_events m (afterLookup_events c)

theorem throttles_afterLookup (c : PrefixCache) : Throttles m (m.afterLookup svc b c) [] :=
  .of_eq (ledger_afterLookup m svc b c) (statuses_afterLookup m svc b c)

theorem throttles_withService (x : σ) : Throttles m { m with service := x } [] := .of_eq rfl rfl

theorem throttles_stored (q : Json) (items : List Candidate) :
    Throttles m (m.stored b q items) [] :=
  .of_eq (ledger_stored m b q items) rfl

theorem throttles_captured (t : Nat) (cap : Capture)
    (now : Option (Except Fault (List Suggestion))) : Throttles m (m.captured t cap now) [] :=
  .of_eq (ledger_captured m t cap now) rfl

theorem throttles_record {e : Event} (he : e.statusText? = none) : Throttles m (m.record e) [] :=
  .of_eq rfl (by simp [he])

end Changes

theorem throttles_noteFailure (m : Manager σ) (b : Text) (f : Fault) :
    Throttles m (m.noteFailure b f) [(b, f)] := by
  constructor
  · funext b'
    simp only [ledger, session?_noteFailure, Option.map_map, Ledger.notes, Ledger.note]
    congr 1
    funext s
    simp only [Function.comp_apply]
    split <;> rfl
  · cases hs : m.session? b with
    | none =>
        have same : m.noteFailure b f = m := by
          unfold noteFailure
          rw [hs]
        simp [same, Ledger.shows, Ledger.isNew, ledger, hs]
    | some s =>
        rw [statuses, noteFailure_events hs]
        by_cases hk : f.reportKind ∈ s.reported <;>
          simp [hk, statuses, Ledger.shows, Ledger.isNew, ledger, hs, Event.statusText?]

theorem throttles_handOver (m : Manager σ) (a : Answer) (items : List Candidate) :
    Throttles m (stateOf (m.handOver a items)) [] := by
  unfold handOver
  split <;> exact .of_eq (by simp) (by simp [Event.statusText?])

theorem throttles_deliver (m : Manager σ) (l : Listener) (items : List Candidate) :
    Throttles m (stateOf ((deliver l items).run m)) [] := by
  rw [stateOf_deliver]
  exact .of_eq (by simp) (by simp [Event.statusText?])

/-! ## The failures each call reports -/

def missReports {α : Type} (m : Manager σ) (svc : Service σ) (b : Text) (q : Json)
    (view : Text × Json) (ask : Text → Int → σ → Except Fault α) (reported : Fault → Bool) :
    List (Text × Fault) :=
  match m.session? b with
  | none => []
  | some s =>
      if m.settings.enabled = false then []
      else
        match (s.cache.get q.display).2, Session.readView view with
        | none, .ok st =>
            match ask st.1 st.2 (m.cancelPending svc b).service with
            | .error f => if reported f = true then [(b, f)] else []
            | .ok _ => []
        | _, _ => []

def answerReports (m : Manager σ) (a : Answer) : List (Text × Fault) :=
  match a.result with
  | .error f =>
      if (m.session? a.capture.buffer).map Session.closed = some false ∧
          f.isCancellation = false then [(a.capture.buffer, f)]
      else []
  | .ok _ => []

/-- The failures a call reports, in the order it reports them: a lookup now, the failure of its
query when that is a query failure; a background request, the refusal of the service when that
is a value failure; a drain, the failure of every answer applied to an open session, other than
a cancellation. No other call reports a failure. -/
def reports (svc : Service σ) (m : Manager σ) : Call → List (Text × Fault)
  | .candidates room b _ q view =>
      m.missReports svc b q view (fun src off x => (svc.query (room - 1) src off x).1)
        Fault.isQueryFailure
  | .candidatesLater b _ q _ view =>
      m.missReports svc b q view (fun src off x => (svc.submit src off x).1) Fault.isValueFault
  | .request room b _ q _ view =>
      if m.settings.background = true then
        m.missReports svc b q view (fun src off x => (svc.submit src off x).1) Fault.isValueFault
      else
        m.missReports svc b q view (fun src off x => (svc.query (room - 1 - 1) src off x).1)
          Fault.isQueryFailure
  | .drain => m.queue.flatMap m.answerReports
  | _ => []

section Calls

variable {m : Manager σ} (svc : Service σ)

theorem candidates_throttles (room : Nat) (b lit : Text) (q : Json) (view : Text × Json) :
    Throttles m (stateOf ((candidates svc room b lit q view).run m))
      (reports svc m (.candidates room b lit q view)) := by
  simp only [reports, missReports]
  cases hs : m.session? b with
  | none =>
      rw [candidates_run_none hs]
      exact .of_eq rfl rfl
  | some s =>
      rw [candidates_run hs]
      cases hon : m.settings.enabled with
      | false => exact .of_eq rfl rfl
      | true =>
          simp only [Bool.true_eq_false, if_false, afterLookup_service]
          have looked := throttles_afterLookup m svc b (s.cache.get q.display).1
          cases hg : (s.cache.get q.display).2 with
          | some e => exact looked
          | none =>
              cases hv : Session.readView view with
              | error f => exact looked
              | ok st =>
                  dsimp only
                  have asked := looked.quiet_trans (throttles_withService _
                    (svc.query (room - 1) st.1 st.2 (m.cancelPending svc b).service).2)
                  cases hq : (svc.query (room - 1) st.1 st.2 (m.cancelPending svc b).service).1 with
                  | ok ss =>
                      exact (asked.quiet_trans (throttles_stored _ b q _)).quiet_trans
                        (throttles_record _ rfl)
                  | error f =>
                      dsimp only
                      by_cases hf : f.isQueryFailure = true
                      · simp only [hf, if_true, stateOf_ok]
                        exact asked.quiet_trans (throttles_noteFailure _ b f)
                      · simp only [hf, Bool.false_eq_true, if_false, stateOf_error]
                        exact asked

theorem candidatesLater_throttles (b lit : Text) (q : Json) (l : Listener) (view : Text × Json) :
    Throttles m (stateOf ((candidatesLater svc b lit q l view).run m))
      (reports svc m (.candidatesLater b lit q l view)) := by
  simp only [reports, missReports]
  cases hs : m.session? b with
  | none =>
      rw [candidatesLater_run_none hs]
      exact .refl m
  | some s =>
      rw [candidatesLater_run hs]
      cases hon : m.settings.enabled with
      | false => exact throttles_deliver m l []
      | true =>
          simp only [Bool.true_eq_false, if_false, afterLookup_service]
          have looked := throttles_afterLookup m svc b (s.cache.get q.display).1
          cases hg : (s.cache.get q.display).2 with
          | some e => exact looked.quiet_trans (throttles_deliver _ l _)
          | none =>
              cases hv : Session.readView view with
              | error f => exact looked
              | ok st =>
                  dsimp only
                  have asked := looked.quiet_trans (throttles_withService _
                    (svc.submit st.1 st.2 (m.cancelPending svc b).service).2)
                  cases hq : (svc.submit st.1 st.2 (m.cancelPending svc b).service).1 with
                  | ok hd => exact asked.quiet_trans (throttles_captured _ _ _ _)
                  | error f =>
                      dsimp only
                      by_cases hf : f.isValueFault = true
                      · simp only [hf, if_true]
                        exact (asked.quiet_trans (throttles_noteFailure _ b f)).trans_quiet
                          (throttles_deliver _ l [])
                      · simp only [hf, Bool.false_eq_true, if_false, stateOf_error]
                        exact asked

theorem request_throttles (room : Nat) (b lit : Text) (q : Json) (l : Listener)
    (view : Text × Json) :
    Throttles m (stateOf ((request svc room b lit q l view).run m))
      (reports svc m (.request room b lit q l view)) := by
  rw [request_run]
  cases hbg : m.settings.background with
  | true =>
      simp only [reports, hbg, if_true]
      exact candidatesLater_throttles svc b lit q l view
  | false =>
      simp only [reports, hbg, Bool.false_eq_true, if_false]
      have asked : Throttles m _ _ := candidates_throttles svc (room - 1) b lit q view
      cases hr : (candidates svc (room - 1) b lit q view).run m with
      | ok items m₁ =>
          rw [hr] at asked
          exact asked.trans_quiet (throttles_deliver m₁ l items)
      | error f m₁ =>
          rw [hr] at asked
          exact asked

theorem cached_throttles (b lit : Text) (q : Json) :
    Throttles m (stateOf ((cached svc b lit q).run m)) [] := by
  cases hs : m.session? b with
  | none =>
      rw [cached_run_none hs]
      exact .refl m
  | some s =>
      rw [cached_run hs]
      exact throttles_afterLookup m svc b _

theorem ledger_supersedeAll (xs : List Session) : (m.supersedeAll svc xs).ledger = m.ledger := by
  induction xs generalizing m with
  | nil => rfl
  | cons x xs ih =>
      exact (ih (m := (m.withSession x.buffer Session.bump).cancelPending svc x.buffer)).trans
        (by rw [ledger_cancelPending, ledger_withSession _ x.buffer Session.bump (fun _ => rfl)
          (fun _ => rfl)])

theorem updateSettings_throttles (cfg : Json) : Throttles m (step svc m (.updateSettings cfg)) [] := by
  refine .of_eq ?_ (statuses_of_events m (updateSettings_fields svc m cfg).2.2)
  simp only [step, updateSettings_run]
  cases Settings.normalize cfg with
  | error f => rfl
  | ok st =>
      simp only [stateOf_ok]
      split
      · rfl
      · exact ledger_supersedeAll svc m.sessions

theorem answer_throttles (t : Nat) (r : Except Fault (List Suggestion)) :
    Throttles m (step svc m (.answer t r)) [] :=
  .of_eq (ledger_of_sessions m (answer_fields svc m t r).2.2.2)
    (statuses_of_events m (answer_fields svc m t r).2.2.1)

end Calls

/-! ## Draining -/

theorem applyAnswer_throttles (m : Manager σ) (a : Answer) :
    Throttles m (stateOf ((applyAnswer a).run m)) (m.answerReports a) := by
  rw [applyAnswer_run]
  unfold answerReports
  cases hs : m.session? a.capture.buffer with
  | none => cases a.result <;> exact .refl m
  | some s =>
      cases hc : s.closed with
      | true => cases a.result <;> simpa [hc] using Throttles.refl m
      | false =>
          simp only [hc, Bool.false_eq_true, if_false]
          cases hr : a.result with
          | error f =>
              cases hf : f.isCancellation with
              | true => simpa [hc, hf] using Throttles.refl m
              | false =>
                  simp only [Option.map_some, hc, hf, and_self, if_true, Bool.false_eq_true,
                    if_false]
                  split
                  · exact (throttles_noteFailure m _ f).trans_quiet (throttles_handOver _ a [])
                  · exact throttles_noteFailure m _ f
          | ok ss =>
              dsimp only
              by_cases current : s.isCurrent a.capture.token = true
              · rw [if_pos current]
                exact (throttles_stored m _ _ _).quiet_trans (throttles_handOver _ a _)
              · rw [if_neg current]
                cases hh : s.cache.holds a.capture.query with
                | error e => exact .refl m
                | ok held =>
                    cases held
                    · exact throttles_stored m _ _ _
                    · exact .refl m

theorem Moves.closed {b : Text} {k : Nat} {m m' : Manager σ} (h : Moves b k m m') :
    (m'.session? b).map Session.closed = (m.session? b).map Session.closed := by
  have stamps := congrArg (Option.map Prod.snd) h
  simpa [Option.map_map, Session.stamp, Function.comp_def] using stamps

theorem Local.closed {b : Text} {k : Nat} {m m' : Manager σ} (h : Local b k m m') (b' : Text) :
    (m'.session? b').map Session.closed = (m.session? b').map Session.closed := by
  by_cases hb : b' = b
  · subst hb
    exact h.moves.closed
  · rw [h.others b' hb]

theorem closed_applyAnswer (m : Manager σ) (a : Answer) (b : Text) :
    ((stateOf ((applyAnswer a).run m)).session? b).map Session.closed =
      (m.session? b).map Session.closed := by
  rcases applyAnswer_cases m a with ⟨-, hl⟩ | ⟨-, -, m₁, hl, handed⟩
  · exact hl.closed b
  · rw [handed, session?_eq_of_sessions (handOver_fields m₁ a _).1]
    exact hl.closed b

theorem applied_throttles (m : Manager σ) (as : List Answer) :
    Throttles m (m.applied as) (as.flatMap m.answerReports) := by
  induction as generalizing m with
  | nil => exact .refl m
  | cons a as ih =>
      rw [applied_cons, List.flatMap_cons]
      have same : as.flatMap (stateOf ((applyAnswer a).run m)).answerReports =
          as.flatMap m.answerReports := by
        congr 1
        funext a'
        simp only [answerReports, closed_applyAnswer]
      have rest := ih (stateOf ((applyAnswer a).run m))
      rw [same] at rest
      exact (applyAnswer_throttles m a).trans rest

theorem drain_throttles (svc : Service σ) (m : Manager σ) :
    Throttles m (step svc m .drain) (reports svc m .drain) := by
  simp only [step, drain_run, stateOf_ok, reports]
  have applied := applied_throttles { m with queue := [] } m.queue
  have same : ({ m with queue := [] } : Manager σ).answerReports = m.answerReports := rfl
  rw [same] at applied
  have emptied : Throttles m { m with queue := [] } [] := .of_eq rfl rfl
  exact emptied.quiet_trans applied

/-! ## Steps and runs -/

def Call.keeps (b : Text) : Call → Bool
  | .openBuffer b' | .closeBuffer b' => b' != b
  | .shutdown => false
  | _ => true

theorem reset_of_keeps {b : Text} {c : Call} (h : c.keeps b = true) (L : Ledger) :
    L.reset c b = L b := by
  cases c with
  | openBuffer b' =>
      have other : b ≠ b' := fun same => by simp [Call.keeps, same] at h
      exact if_neg other
  | closeBuffer b' =>
      have other : b ≠ b' := fun same => by simp [Call.keeps, same] at h
      exact if_neg other
  | shutdown => cases h
  | cached | candidates | candidatesLater | request | updateSettings | answer | drain => rfl

theorem ledger_withFresh (m : Manager σ) (svc : Service σ) (b : Text) :
    (m.withFresh svc b).ledger = fun b' => if b' = b then some [] else m.ledger b' := by
  funext b'
  simp only [ledger, session?_withFresh]
  split <;> rfl

theorem ledger_withoutBuffer (m : Manager σ) (svc : Service σ) (b : Text) :
    (m.withoutBuffer svc b).ledger = fun b' => if b' = b then none else m.ledger b' := by
  funext b'
  simp only [ledger, session?_withoutBuffer]
  split <;> rfl

/-- What a call does to the ledger and the status messages: it notes the failures it reports,
shows the status messages of those new to their session, and then opens, closes or drops
sessions. -/
theorem step_reports (svc : Service σ) (m : Manager σ) (c : Call) :
    (step svc m c).statuses =
        m.statuses ++ (m.ledger.shows (reports svc m c)).map (fun x => statusOf x.2) ∧
      (step svc m c).ledger = (m.ledger.notes (reports svc m c)).reset c := by
  have ofThrottles : ∀ {m' : Manager σ}, Throttles m m' (reports svc m c) →
      (∀ L : Ledger, L.reset c = L) →
      m'.statuses = m.statuses ++ (m.ledger.shows (reports svc m c)).map (fun x => statusOf x.2) ∧
        m'.ledger = (m.ledger.notes (reports svc m c)).reset c :=
    fun h keep => ⟨h.statuses, h.ledger.trans (keep _).symm⟩
  cases c with
  | openBuffer b =>
      have opened : step svc m (.openBuffer b) = m.withFresh svc b := by
        simp only [step, openBuffer_run, stateOf_ok]
      rw [opened, statuses_of_events m (withFresh_events m svc b), ledger_withFresh]
      exact ⟨(List.append_nil _).symm, rfl⟩
  | closeBuffer b =>
      have closed : step svc m (.closeBuffer b) = m.withoutBuffer svc b := by
        simp only [step, closeBuffer_run, stateOf_ok]
      rw [closed, statuses_of_events m (withoutBuffer_events m svc b), ledger_withoutBuffer]
      exact ⟨(List.append_nil _).symm, rfl⟩
  | cached b lit q => exact ofThrottles (cached_throttles svc b lit q) fun _ => rfl
  | candidates room b lit q view =>
      exact ofThrottles (candidates_throttles svc room b lit q view) fun _ => rfl
  | candidatesLater b lit q l view =>
      exact ofThrottles (candidatesLater_throttles svc b lit q l view) fun _ => rfl
  | request room b lit q l view =>
      exact ofThrottles (request_throttles svc room b lit q l view) fun _ => rfl
  | updateSettings cfg => exact ofThrottles (updateSettings_throttles svc cfg) fun _ => rfl
  | answer t r => exact ofThrottles (answer_throttles svc t r) fun _ => rfl
  | drain => exact ofThrottles (drain_throttles svc m) fun _ => rfl
  | shutdown =>
      have stopped : step svc m .shutdown = { m.closeAll svc m.sessions with
          sessions := [], service := svc.stop (m.closeAll svc m.sessions).service } := by
        simp only [step, shutdown_run, stateOf_ok]
      have quiet : (step svc m .shutdown).events = m.events := by
        rw [stopped]
        exact closeAll_events m m.sessions
      refine ⟨(statuses_of_events m quiet).trans (List.append_nil _).symm, ?_⟩
      rw [stopped]
      exact funext fun _ => rfl

def reportsAlong (svc : Service σ) : Manager σ → List Call → List (Text × Fault)
  | _, [] => []
  | m, c :: cs => reports svc m c ++ reportsAlong svc (step svc m c) cs

def shownAlong (svc : Service σ) : Manager σ → List Call → List (Text × Fault)
  | _, [] => []
  | m, c :: cs => m.ledger.shows (reports svc m c) ++ shownAlong svc (step svc m c) cs

theorem statuses_runCalls (svc : Service σ) (m : Manager σ) (cs : List Call) :
    (runCalls svc m cs).statuses =
      m.statuses ++ (shownAlong svc m cs).map (fun x => statusOf x.2) := by
  induction cs generalizing m with
  | nil => simp [shownAlong]
  | cons c cs ih =>
      rw [runCalls_cons, ih, (step_reports svc m c).1, shownAlong, List.map_append,
        List.append_assoc]

/-- Over a run that keeps the session of `b` in place, the failures of `b` it shows are the
first failure of each kind the session had not reported, and the session notes exactly their
kinds. -/
theorem runCalls_shows_first_of_kinds (svc : Service σ) (m : Manager σ) (b : Text)
    (cs : List Call) (keeps : ∀ c ∈ cs, c.keeps b = true) {ks : List Text}
    (hb : m.ledger b = some ks) :
    failuresOf b (shownAlong svc m cs) = Fault.firstOfKinds ks (failuresOf b (reportsAlong svc m cs)) ∧
      (runCalls svc m cs).ledger b =
        some (ks ++ (Fault.firstOfKinds ks (failuresOf b (reportsAlong svc m cs))).map
          Fault.reportKind) := by
  induction cs generalizing m ks with
  | nil => simpa [shownAlong, reportsAlong, failuresOf, Fault.firstOfKinds] using hb
  | cons c cs ih =>
      obtain ⟨shown, noted⟩ := m.ledger.shows_notes_of_buffer b (reports svc m c) hb
      have kept := congrFun (step_reports svc m c).2 b
      rw [reset_of_keeps (keeps c List.mem_cons_self), noted] at kept
      obtain ⟨shown', noted'⟩ :=
        ih (step svc m c) (fun c' h => keeps c' (List.mem_cons_of_mem c h)) kept
      refine ⟨?_, ?_⟩
      · rw [shownAlong, reportsAlong, failuresOf_append, failuresOf_append, shown, shown',
          Fault.firstOfKinds_append]
      · rw [runCalls_cons, noted', reportsAlong, failuresOf_append, Fault.firstOfKinds_append,
          List.map_append, List.append_assoc]

/-! ## No cancellation is reported -/

theorem Fault.isCancellation_of_isValueFault {f : Fault} (h : f.isValueFault = true) :
    f.isCancellation = false := by
  cases f <;> simp_all [Fault.isValueFault, Fault.isCancellation]

theorem Fault.isCancellation_of_isQueryFailure {f : Fault} (h : f.isQueryFailure = true) :
    f.isCancellation = false := by
  cases f <;> simp_all [Fault.isQueryFailure, Fault.isValueFault, Fault.isCancellation]

theorem reported_of_mem_missReports {α : Type} {m : Manager σ} {svc : Service σ} {b : Text}
    {q : Json} {view : Text × Json} {ask : Text → Int → σ → Except Fault α}
    {reported : Fault → Bool} {x : Text × Fault} (hx : x ∈ m.missReports svc b q view ask reported) :
    reported x.2 = true := by
  unfold missReports at hx
  split at hx
  · cases hx
  · split at hx
    · cases hx
    · split at hx
      · split at hx
        · split at hx
          · rw [List.mem_singleton] at hx
            subst hx
            assumption
          · cases hx
        · cases hx
      · cases hx

theorem isCancellation_of_mem_answerReports {m : Manager σ} {a : Answer} {x : Text × Fault}
    (hx : x ∈ m.answerReports a) : x.2.isCancellation = false := by
  unfold answerReports at hx
  split at hx
  · split at hx
    · rename_i f _ reported
      rw [List.mem_singleton] at hx
      subst hx
      exact reported.2
    · cases hx
  · cases hx

theorem isCancellation_of_mem_reports (svc : Service σ) (m : Manager σ) (c : Call) :
    ∀ x ∈ reports svc m c, x.2.isCancellation = false := by
  intro x hx
  cases c with
  | candidates =>
      simp only [reports] at hx
      exact Fault.isCancellation_of_isQueryFailure (reported_of_mem_missReports hx)
  | candidatesLater =>
      simp only [reports] at hx
      exact Fault.isCancellation_of_isValueFault (reported_of_mem_missReports hx)
  | request =>
      simp only [reports] at hx
      split at hx
      · exact Fault.isCancellation_of_isValueFault (reported_of_mem_missReports hx)
      · exact Fault.isCancellation_of_isQueryFailure (reported_of_mem_missReports hx)
  | drain =>
      simp only [reports, List.mem_flatMap] at hx
      obtain ⟨a, -, ha⟩ := hx
      exact isCancellation_of_mem_answerReports ha
  | openBuffer | closeBuffer | cached | updateSettings | answer | shutdown => cases hx

theorem isCancellation_of_mem_reportsAlong (svc : Service σ) (m : Manager σ) (cs : List Call) :
    ∀ x ∈ reportsAlong svc m cs, x.2.isCancellation = false := by
  induction cs generalizing m with
  | nil => intro x hx; cases hx
  | cons c cs ih =>
      intro x hx
      rcases List.mem_append.mp hx with now | later
      · exact isCancellation_of_mem_reports svc m c x now
      · exact ih (step svc m c) x later

/-! ## One status message for each kind -/

/-- What a run shows for the session of `b` that its first call opens, while its other calls
keep that session in place. The run's status messages are those of the failures it shows,
each new to its session when reported. The failures of `b` it shows are the first failure of
each kind among those it reports for `b`, in order and one for each kind, and the session has
reported exactly their kinds. No cancellation is reported. -/
structure ReportsEachKindOnce (svc : Service σ) (m : Manager σ) (b : Text) (cs : List Call) :
    Prop where
  statuses : (runCalls svc m (.openBuffer b :: cs)).statuses =
    m.statuses ++ (shownAlong svc m (.openBuffer b :: cs)).map fun x => statusOf x.2
  firstOfEachKind : failuresOf b (shownAlong svc m (.openBuffer b :: cs)) =
    Fault.firstOfKinds [] (failuresOf b (reportsAlong svc m (.openBuffer b :: cs)))
  reported : ((runCalls svc m (.openBuffer b :: cs)).session? b).map Session.reported =
    some ((Fault.firstOfKinds [] (failuresOf b (reportsAlong svc m (.openBuffer b :: cs)))).map
      Fault.reportKind)
  distinct : ((Fault.firstOfKinds [] (failuresOf b (reportsAlong svc m (.openBuffer b :: cs)))).map
    Fault.reportKind).Nodup
  everyKind : ∀ k, k ∈ (Fault.firstOfKinds [] (failuresOf b
      (reportsAlong svc m (.openBuffer b :: cs)))).map Fault.reportKind ↔
    k ∈ (failuresOf b (reportsAlong svc m (.openBuffer b :: cs))).map Fault.reportKind
  inOrder : (Fault.firstOfKinds [] (failuresOf b (reportsAlong svc m (.openBuffer b :: cs)))).Sublist
    (failuresOf b (reportsAlong svc m (.openBuffer b :: cs)))
  noCancellation : ∀ x ∈ reportsAlong svc m (.openBuffer b :: cs), x.2.isCancellation = false

/-- Failure reports are throttled per session and kind. A session opened by `openBuffer b`,
kept in place by the calls after it, shows one status message for each kind among the failures
reported for it since it was opened, at the first failure of that kind, and notes exactly
those kinds; no cancellation is ever reported. The failures reported for it are those of its
lookups now, the refusals of its background requests, and the failures of every answer a drain
applies while it is open, current or not. -/
theorem session_reports_each_kind_once (svc : Service σ) (m : Manager σ) (b : Text)
    (cs : List Call) (keeps : ∀ c ∈ cs, c.keeps b = true) : ReportsEachKindOnce svc m b cs := by
  have fresh : (step svc m (.openBuffer b)).ledger b = some [] := by
    rw [(step_reports svc m (.openBuffer b)).2]
    exact if_pos rfl
  obtain ⟨shown, noted⟩ := runCalls_shows_first_of_kinds svc _ b cs keeps fresh
  have none_seen : ([] : List Text).Nodup := List.nodup_nil
  exact {
    statuses := statuses_runCalls svc m _
    firstOfEachKind := shown
    reported := noted
    distinct := by simpa using Fault.nodup_firstOfKinds [] _ none_seen
    everyKind := fun k => by simpa using Fault.mem_firstOfKinds_kinds [] _ k
    inOrder := Fault.firstOfKinds_sublist [] _
    noCancellation := isCancellation_of_mem_reportsAlong svc m _ }

def timeoutFault : Fault :=
  .service (.unavailable (.str (Text.ofString "timeout")) (Text.ofString "timed out"))

def timingOut : Manager Scripted :=
  ⟨Settings.defaults, { Scripted.initial with answer := .error timeoutFault }, [], [], [], 0, []⟩

def lookupsNow : List Call :=
  [.candidates 100 (Text.ofString "a.php") (Text.ofString "a.php") (.str (Text.ofString "f"))
      (Text.ofString "<?php\n$this->f", .int 14),
    .candidates 100 (Text.ofString "a.php") (Text.ofString "a.php") (.str (Text.ofString "fo"))
      (Text.ofString "<?php\n$this->fo", .int 15)]

theorem session_reports_each_kind_once_sample :
    (∀ c ∈ lookupsNow, c.keeps (Text.ofString "a.php") = true) ∧
      ReportsEachKindOnce Scripted.service timingOut (Text.ofString "a.php") lookupsNow :=
  have keeps : ∀ c ∈ lookupsNow, c.keeps (Text.ofString "a.php") = true := by decide
  ⟨keeps, session_reports_each_kind_once Scripted.service timingOut _ lookupsNow keeps⟩

/-- Two lookups that time out show one status message. -/
example : (runCalls Scripted.service timingOut
    (.openBuffer (Text.ofString "a.php") :: lookupsNow)).statuses = [statusOf timeoutFault] := rfl

/-! ## Answers of a closed session -/

def reopenedTimeout : List Call :=
  [.openBuffer (Text.ofString "a.php"),
    .candidatesLater (Text.ofString "a.php") (Text.ofString "a.php") (.str (Text.ofString "f"))
      ⟨.str (Text.ofString "old"), none⟩ (Text.ofString "<?php\n$this->f", .int 14),
    .closeBuffer (Text.ofString "a.php"),
    .openBuffer (Text.ofString "a.php"),
    .answer 0 (.error timeoutFault),
    .drain]

/-- The request is made by the first session of `a.php`, which the run then closes. The drain
still reports its failure, to the second session of `a.php`, and shows its status message. -/
theorem closed_session_failure_reported_to_successor :
    ((runCalls Scripted.service scriptedStart (reopenedTimeout.take 2)).session?
        (Text.ofString "a.php")).map Session.serial = some 0 ∧
      (runCalls Scripted.service scriptedStart (reopenedTimeout.take 5)).statuses = [] ∧
      ((runCalls Scripted.service scriptedStart reopenedTimeout).session?
        (Text.ofString "a.php")).map (fun s => (s.serial, s.reported)) =
        some (1, [Text.ofString "timeout"]) ∧
      (runCalls Scripted.service scriptedStart reopenedTimeout).statuses = [statusOf timeoutFault] :=
  ⟨rfl, rfl, rfl, rfl⟩

end Manager

end PhpCompletion
