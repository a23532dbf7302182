import PhpCompletion.Background
import PhpCompletion.Proofs.Client.Query

/-! # Every receiver is given one outcome

Over every run of a client's background requests, the outcomes given to a request's receiver
are exactly what its future holds, once the call that made the request has returned and the
future is done, and nothing before (`Delivers`, kept by every event: `Delivers.step`). So a
receiver is given at most one outcome at any point of any run, and exactly one once its call
has returned and its future is done: the suggestions or the failure of its query, the
cancellation of a request cancelled while it waited, or the refusal of a pool that was shut
down, given before the call returns.

A future only moves on (`Advances`): a waiting request may be taken, finished or cancelled, a
running one only finished, and a finished or cancelled one never changes again.
-/

namespace PhpCompletion

/-- What the receiver of a request is owed: its future's outcome once the call has returned
and the future is done, nothing otherwise. -/
def Request.owed (r : Request) : List (Except Fault (List Suggestion)) :=
  if r.handed then r.state.outcome.toList else []

/-- A future moves on only forwards: a pending one may become anything, a running one only
finished, and a finished or cancelled one never changes. -/
def FutureState.Advances (s s' : FutureState) : Prop :=
  s' = s ∨ s = .pending ∨ (s = .running ∧ ∃ r, s' = .finished r)

theorem FutureState.Advances.trans {s s' s'' : FutureState} (h : s.Advances s')
    (h' : s'.Advances s'') : s.Advances s'' := by
  rcases h with rfl | hp | ⟨hrun, r, rfl⟩
  · exact h'
  · exact .inr (.inl hp)
  · rcases h' with rfl | hp | ⟨hr, -⟩
    · exact .inr (.inr ⟨hrun, r, rfl⟩)
    · cases hp
    · cases hr

theorem FutureState.Advances.ne_pending {s s' : FutureState} (h : s.Advances s')
    (hs : s ≠ .pending) : s' ≠ .pending := by
  rcases h with rfl | hp | ⟨-, r, rfl⟩
  · exact hs
  · exact absurd hp hs
  · intro h
    cases h

namespace Background

/-! ## Invariants along runs -/

theorem run_keeps (P : Background → Prop) (keeps : ∀ b ev, P b → P (b.step ev)) {b : Background}
    (hb : P b) (evs : List Event) : P (b.run evs) := by
  induction evs generalizing b with
  | nil => exact hb
  | cons ev evs ih => exact ih (keeps b ev hb)

theorem cancelAll_keeps (P : Background → Prop) (keeps : ∀ b i, P b → P (b.cancel i).2)
    {b : Background} (hb : P b) (is : List Nat) : P (is.foldl (fun b i => (b.cancel i).2) b) := by
  induction is generalizing b with
  | nil => exact hb
  | cons i is ih => exact ih (keeps b i hb)

def owed (b : Background) (i : Nat) : List (Except Fault (List Suggestion)) :=
  match b.requests[i]? with
  | some r => if r.handed then r.state.outcome.toList else []
  | none => []

/-- Every receiver has been given exactly what it is owed. -/
def Delivers (b : Background) : Prop := ∀ i, b.givenTo i = b.owed i

theorem owed_eq (b : Background) (i : Nat) : b.owed i = ((b.requests[i]?).map Request.owed).getD [] := by
  unfold owed Request.owed
  cases b.requests[i]? <;> rfl

theorem givenTo_append {b b' : Background} {gs : List (Nat × Except Fault (List Suggestion))}
    (hg : b'.given = b.given ++ gs) (j : Nat) :
    b'.givenTo j = b.givenTo j ++ (gs.filter fun g => g.1 == j).map Prod.snd := by
  simp [givenTo, hg, List.filter_append]

theorem filter_giveNow (i j : Nat) (s : FutureState) :
    ((giveNow i s).filter fun g => g.1 == j).map Prod.snd =
      if i = j then s.outcome.toList else [] := by
  unfold giveNow
  cases s.outcome <;> by_cases h : i = j <;> simp [h]

theorem owed_set {b b' : Background} {i : Nat} {r' : Request} (hlt : i < b.requests.length)
    (hr : b'.requests = b.requests.set i r') (j : Nat) :
    b'.owed j = if i = j then r'.owed else b.owed j := by
  rw [owed_eq, owed_eq, hr, List.getElem?_set]
  by_cases hij : i = j
  · subst hij
    simp [hlt]
  · simp [hij]

theorem owed_append {b b' : Background} {r' : Request} (hr : b'.requests = b.requests ++ [r'])
    (j : Nat) : b'.owed j = if b.requests.length = j then r'.owed else b.owed j := by
  rw [owed_eq, owed_eq, hr]
  by_cases hij : b.requests.length = j
  · subst hij
    simp
  · rcases Nat.lt_or_gt_of_ne hij with hlt | hgt
    · simp [hij, List.getElem?_eq_none (Nat.le_of_lt hlt),
        List.getElem?_append_right (Nat.le_of_lt hlt),
        List.getElem?_eq_none (show [r'].length ≤ j - b.requests.length by simp; omega)]
    · simp [hij, List.getElem?_append_left hgt]

theorem Delivers.of_eq {a b : Background} (ha : a.Delivers) (hr : b.requests = a.requests)
    (hg : b.given = a.given) : b.Delivers := by
  intro i
  rw [owed_eq, hr, ← owed_eq, ← ha i]
  simp [givenTo, hg]

theorem delivers_init (c : Client) (h : Host) : (init c h).Delivers := by
  intro i
  simp [givenTo, owed, init]

theorem Delivers.settle {b : Background} (hb : b.Delivers) {i : Nat} {r : Request}
    (hr : b.requests[i]? = some r) (hopen : r.state.outcome = none) (s : FutureState) :
    (b.settle i s).Delivers := by
  have hlt : i < b.requests.length := (List.getElem?_eq_some_iff.mp hr).1
  have hreq : (b.settle i s).requests = b.requests.set i { r with state := s } := by
    simp [Background.settle, hr]
  have hgiven : (b.settle i s).given = b.given ++ if r.handed then giveNow i s else [] := by
    simp only [Background.settle, hr]
    split <;> simp
  have before : b.owed i = [] := by simp [owed, hr, hopen]
  intro j
  rw [givenTo_append hgiven, owed_set hlt hreq, hb j]
  by_cases hij : i = j
  · subst hij
    cases r.handed <;> simp [before, filter_giveNow, Request.owed]
  · cases r.handed <;> simp [hij, filter_giveNow]

theorem Delivers.ask {b : Background} (hb : b.Delivers) (src : Text) (off : Json) :
    (b.ask src off).2.Delivers := by
  have fresh : b.owed b.requests.length = [] := by simp [owed]
  unfold Background.ask
  split
  · exact hb
  · intro j
    by_cases hacc : b.client.accepting = true
    · simp only [hacc, if_true]
      have queued : ({ b with requests := b.requests ++ [⟨src, off, .pending, false⟩] } :
          Background).givenTo j = b.givenTo j := rfl
      rw [queued, owed_append rfl, hb j]
      by_cases hij : b.requests.length = j
      · subst hij
        simp [fresh, Request.owed]
      · simp [hij]
    · simp only [hacc]
      rw [givenTo_append rfl, owed_append rfl, hb j]
      by_cases hij : b.requests.length = j
      · subst hij
        simp [fresh, Request.owed, FutureState.outcome]
      · simp [hij]

theorem Delivers.attach {b : Background} (hb : b.Delivers) (i : Nat) : (b.attach i).Delivers := by
  cases hr : b.requests[i]? with
  | none => simpa [Background.attach, hr] using hb
  | some r =>
      cases hh : r.handed with
      | true => simpa [Background.attach, hr, hh] using hb
      | false =>
          have hlt : i < b.requests.length := (List.getElem?_eq_some_iff.mp hr).1
          have before : b.owed i = [] := by simp [owed, hr, hh]
          have attached : b.attach i = { b with requests := b.requests.set i { r with handed := true }
                                                given := b.given ++ giveNow i r.state } := by
            simp [Background.attach, hr, hh]
          intro j
          rw [attached, givenTo_append rfl, owed_set hlt rfl, hb j]
          by_cases hij : i = j
          · subst hij
            simp [before, filter_giveNow, Request.owed]
          · simp [hij, filter_giveNow]

theorem Delivers.cancel {b : Background} (hb : b.Delivers) (i : Nat) : (b.cancel i).2.Delivers := by
  unfold Background.cancel
  cases hr : b.requests[i]? with
  | none => exact hb
  | some r =>
      cases hs : r.state with
      | pending => simpa [hs] using hb.settle hr (by simp [hs, FutureState.outcome]) .cancelled
      | _ => simpa [hs] using hb

theorem Delivers.start {b : Background} (hb : b.Delivers) (i : Nat) : (b.start i).Delivers := by
  unfold Background.start
  cases hr : b.requests[i]? with
  | none => exact hb
  | some r =>
      cases hs : r.state with
      | pending =>
          simp only [Option.map_some, hs]
          split
          · exact hb.settle hr (by simp [hs, FutureState.outcome]) .running
          · exact hb
      | _ => simpa [hs] using hb

theorem Delivers.finish {b : Background} (hb : b.Delivers) (i : Nat) : (b.finish i).Delivers := by
  unfold Background.finish
  split
  · rename_i src off handed hr
    have moved : ({ b with host := (b.client.query Client.workerRoom b.host src off).2 } :
        Background).Delivers := hb.of_eq rfl rfl
    exact moved.settle hr rfl _
  · exact hb

theorem Delivers.cancelAll {b : Background} (hb : b.Delivers) (is : List Nat) :
    (is.foldl (fun b i => (b.cancel i).2) b).Delivers :=
  cancelAll_keeps Delivers (fun _ i h => h.cancel i) hb is

theorem Delivers.step {b : Background} (hb : b.Delivers) : ∀ ev, (b.step ev).Delivers
  | .ask src off => hb.ask src off
  | .attach i => hb.attach i
  | .cancel i => hb.cancel i
  | .start i => hb.start i
  | .finish i => hb.finish i
  | .configure _ => hb.of_eq rfl rfl
  | .shutdown => (hb.of_eq (b := { b with client := b.client.stop }) rfl rfl).cancelAll _

theorem Delivers.run {b : Background} (hb : b.Delivers) (evs : List Event) :
    (b.run evs).Delivers :=
  run_keeps Delivers (fun _ ev h => h.step ev) hb evs

/-! ## Futures only move on -/

/-- Every request of `b` is still there in `b'`, asking the same, its future moved on. -/
def Moves (b b' : Background) : Prop :=
  ∀ (i : Nat) (r : Request), b.requests[i]? = some r → ∃ r' : Request, b'.requests[i]? = some r' ∧
    r'.source = r.source ∧ r'.offset = r.offset ∧ r.state.Advances r'.state

theorem Moves.refl (b : Background) : b.Moves b :=
  fun _ r hr => ⟨r, hr, rfl, rfl, .inl rfl⟩

theorem Moves.trans {b b' b'' : Background} (h : b.Moves b') (h' : b'.Moves b'') : b.Moves b'' := by
  intro i r hr
  obtain ⟨r', hr', hs, ho, ha⟩ := h i r hr
  obtain ⟨r'', hr'', hs', ho', ha'⟩ := h' i r' hr'
  exact ⟨r'', hr'', hs'.trans hs, ho'.trans ho, ha.trans ha'⟩

theorem moves_of_requests_eq {a b : Background} (h : b.requests = a.requests) : a.Moves b := by
  intro i r hr
  exact ⟨r, by rw [h, hr], rfl, rfl, .inl rfl⟩

theorem moves_settle {b : Background} {i : Nat} {r : Request} (hr : b.requests[i]? = some r)
    {s : FutureState} (hs : r.state.Advances s) : b.Moves (b.settle i s) := by
  have hlt : i < b.requests.length := (List.getElem?_eq_some_iff.mp hr).1
  intro j q hq
  simp only [Background.settle, hr, List.getElem?_set]
  by_cases hij : i = j
  · subst hij
    rw [hr] at hq
    cases hq
    exact ⟨{ r with state := s }, by simp [hlt], rfl, rfl, hs⟩
  · exact ⟨q, by simp [hij, hq], rfl, rfl, .inl rfl⟩

theorem moves_append {b b' : Background} {r' : Request} (h : b'.requests = b.requests ++ [r']) :
    b.Moves b' := by
  intro i r hr
  have hlt : i < b.requests.length := (List.getElem?_eq_some_iff.mp hr).1
  exact ⟨r, by rw [h, List.getElem?_append_left hlt, hr], rfl, rfl, .inl rfl⟩

theorem moves_cancel (b : Background) (i : Nat) : b.Moves (b.cancel i).2 := by
  cases hr : b.requests[i]? with
  | none => simpa [Background.cancel, hr] using Moves.refl b
  | some r =>
      cases hs : r.state with
      | pending => simpa [Background.cancel, hr, hs] using moves_settle hr (.inr (.inl hs))
      | _ => simpa [Background.cancel, hr, hs] using Moves.refl b

theorem moves_cancelAll (b : Background) (is : List Nat) :
    b.Moves (is.foldl (fun b i => (b.cancel i).2) b) :=
  cancelAll_keeps b.Moves (fun b' i h => h.trans (moves_cancel b' i)) (Moves.refl b) is

theorem moves_step (b : Background) : ∀ ev, b.Moves (b.step ev)
  | .ask src off => by
      show b.Moves (b.ask src off).2
      unfold Background.ask
      split
      · exact Moves.refl b
      · split
        · exact moves_append rfl
        · exact moves_append rfl
  | .attach i => by
      cases hr : b.requests[i]? with
      | none => simpa [Background.step, Background.attach, hr] using Moves.refl b
      | some r =>
          cases hh : r.handed with
          | true => simpa [Background.step, Background.attach, hr, hh] using Moves.refl b
          | false =>
              have hlt : i < b.requests.length := (List.getElem?_eq_some_iff.mp hr).1
              intro j q hq
              simp only [Background.step, Background.attach, hr, hh]
              by_cases hij : i = j
              · subst hij
                rw [hr] at hq
                cases hq
                exact ⟨{ r with handed := true }, by simp [hlt], rfl, rfl, .inl rfl⟩
              · exact ⟨q, by simp [hij, hq], rfl, rfl, .inl rfl⟩
  | .cancel i => moves_cancel b i
  | .start i => by
      cases hr : b.requests[i]? with
      | none => simpa [Background.step, Background.start, hr] using Moves.refl b
      | some r =>
          cases hs : r.state with
          | pending =>
              simp only [Background.step, Background.start, hr, hs, Option.map_some]
              split
              · exact moves_settle hr (.inr (.inl hs))
              · exact Moves.refl b
          | _ => simpa [Background.step, Background.start, hr, hs] using Moves.refl b
  | .finish i => by
      show b.Moves (b.finish i)
      unfold Background.finish
      split
      · rename_i src off handed hr
        cases b.client.query Client.workerRoom b.host src off with
        | mk res h' =>
            exact (moves_of_requests_eq (b := { b with host := h' }) rfl).trans
              (moves_settle (b := { b with host := h' }) hr (.inr (.inr ⟨rfl, res, rfl⟩)))
      · exact Moves.refl b
  | .configure _ => moves_of_requests_eq rfl
  | .shutdown =>
      (moves_of_requests_eq (b := { b with client := b.client.stop }) rfl).trans
        (moves_cancelAll _ _)

theorem moves_run (b : Background) (evs : List Event) : b.Moves (b.run evs) :=
  run_keeps b.Moves (fun b' ev h => h.trans (moves_step b' ev)) (Moves.refl b) evs

/-! ## The shutdown cancels every waiting request -/

theorem length_cancel (b : Background) (i : Nat) :
    (b.cancel i).2.requests.length = b.requests.length := by
  unfold Background.cancel
  split
  · simp only [Background.settle]
    split <;> simp
  · rfl
  · rfl

theorem cancel_not_pending {b : Background} {i : Nat} {r : Request}
    (hr : (b.cancel i).2.requests[i]? = some r) : r.state ≠ .pending := by
  cases hb : b.requests[i]? with
  | none =>
      simp [Background.cancel, hb] at hr
  | some q =>
      have hlt : i < b.requests.length := (List.getElem?_eq_some_iff.mp hb).1
      cases hs : q.state with
      | pending =>
          simp only [Background.cancel, hb, hs, Option.map_some, Background.settle,
            List.getElem?_set_self hlt, Option.some.injEq] at hr
          rw [← hr]
          intro h
          cases h
      | _ =>
          simp only [Background.cancel, hb, hs, Option.map_some, Option.some.injEq] at hr
          rw [← hr, hs]
          intro h
          cases h

theorem length_cancelAll (b : Background) (is : List Nat) :
    (is.foldl (fun b i => (b.cancel i).2) b).requests.length = b.requests.length := by
  induction is generalizing b with
  | nil => rfl
  | cons i is ih => rw [List.foldl_cons, ih, length_cancel]

theorem cancelAll_not_pending (b : Background) {is : List Nat} {i : Nat} (hi : i ∈ is)
    {r : Request} (hr : (is.foldl (fun b i => (b.cancel i).2) b).requests[i]? = some r) :
    r.state ≠ .pending := by
  induction is generalizing b with
  | nil => cases hi
  | cons j is ih =>
      rw [List.foldl_cons] at hr
      by_cases hin : i ∈ is
      · exact ih _ hin hr
      · have hij : i = j := by
          rcases List.mem_cons.mp hi with h | h
          · exact h
          · exact absurd h hin
        subst hij
        have hlt : i < (b.cancel i).2.requests.length := by
          have := (List.getElem?_eq_some_iff.mp hr).1
          rwa [length_cancelAll] at this
        obtain ⟨q, hq⟩ : ∃ q, (b.cancel i).2.requests[i]? = some q :=
          ⟨_, List.getElem?_eq_getElem hlt⟩
        obtain ⟨r', hr', -, -, ha⟩ := moves_cancelAll _ is i q hq
        rw [hr] at hr'
        cases hr'
        exact FutureState.Advances.ne_pending ha (cancel_not_pending hq)

theorem shutdown_not_pending {b : Background} {i : Nat} {r : Request}
    (hr : b.shutdown.requests[i]? = some r) : r.state ≠ .pending := by
  have hlt : i < b.requests.length := by
    have := (List.getElem?_eq_some_iff.mp hr).1
    rwa [Background.shutdown, length_cancelAll] at this
  exact cancelAll_not_pending _ (List.mem_range.mpr hlt) hr

/-! ## What a finished future holds -/

/-- The answers a future may finish with: the refusal of a pool that was shut down, or what a
query of the request's own source and offset gives. -/
def Answers (r : Request) (res : Except Fault (List Suggestion)) : Prop :=
  res = .error (.service .workerStopped) ∨
    ∃ (c : Client) (h : Host), (c.query Client.workerRoom h r.source r.offset).1 = res

/-- Every finished future holds one of its request's answers. -/
def Answered (b : Background) : Prop :=
  ∀ (i : Nat) (r : Request) (res : Except Fault (List Suggestion)), b.requests[i]? = some r →
    r.state = .finished res → Answers r res

theorem answered_init (c : Client) (h : Host) : (init c h).Answered := by
  intro i r res hr
  simp [init] at hr

theorem Answered.settle {b : Background} (hb : b.Answered) {i : Nat} {r : Request}
    (hr : b.requests[i]? = some r) {s : FutureState}
    (hs : ∀ res, s = .finished res → Answers r res) : (b.settle i s).Answered := by
  have hlt : i < b.requests.length := (List.getElem?_eq_some_iff.mp hr).1
  intro j q res hq hfin
  simp only [Background.settle, hr, List.getElem?_set] at hq
  by_cases hij : i = j
  · subst hij
    simp only [if_true, hlt, Option.some.injEq] at hq
    subst hq
    exact hs res hfin
  · simp only [hij, if_false] at hq
    exact hb j q res hq hfin

theorem Answered.ask {b : Background} (hb : b.Answered) (src : Text) (off : Json) :
    (b.ask src off).2.Answered := by
  unfold Background.ask
  split
  · exact hb
  · intro j q res hq hfin
    split at hq
    · dsimp only at hq
      rw [List.getElem?_append] at hq
      split at hq
      · exact hb j q res hq hfin
      · cases hk : j - b.requests.length with
        | zero =>
            simp only [hk, List.getElem?_cons_zero, Option.some.injEq] at hq
            subst hq
            cases hfin
        | succ k => simp [hk] at hq
    · dsimp only at hq
      rw [List.getElem?_append] at hq
      split at hq
      · exact hb j q res hq hfin
      · cases hk : j - b.requests.length with
        | zero =>
            simp only [hk, List.getElem?_cons_zero, Option.some.injEq] at hq
            subst hq
            simp only [FutureState.finished.injEq] at hfin
            exact .inl hfin.symm
        | succ k => simp [hk] at hq

theorem Answered.attach {b : Background} (hb : b.Answered) (i : Nat) : (b.attach i).Answered := by
  cases hr : b.requests[i]? with
  | none => simpa [Background.attach, hr] using hb
  | some r =>
      cases hh : r.handed with
      | true => simpa [Background.attach, hr, hh] using hb
      | false =>
          have hlt : i < b.requests.length := (List.getElem?_eq_some_iff.mp hr).1
          intro j q res hq hfin
          simp only [Background.attach, hr, hh, Bool.false_eq_true, if_false,
            List.getElem?_set] at hq
          by_cases hij : i = j
          · subst hij
            simp only [if_true, hlt, Option.some.injEq] at hq
            subst hq
            exact hb i r res hr hfin
          · simp only [hij, if_false] at hq
            exact hb j q res hq hfin

theorem Answered.cancel {b : Background} (hb : b.Answered) (i : Nat) :
    (b.cancel i).2.Answered := by
  cases hr : b.requests[i]? with
  | none => simpa [Background.cancel, hr] using hb
  | some r =>
      cases hs : r.state with
      | pending =>
          simpa [Background.cancel, hr, hs] using hb.settle hr (fun res h => by cases h)
      | _ => simpa [Background.cancel, hr, hs] using hb

theorem Answered.cancelAll {b : Background} (hb : b.Answered) (is : List Nat) :
    (is.foldl (fun b i => (b.cancel i).2) b).Answered :=
  cancelAll_keeps Answered (fun _ i h => h.cancel i) hb is

theorem Answered.step {b : Background} (hb : b.Answered) : ∀ ev, (b.step ev).Answered
  | .ask src off => hb.ask src off
  | .attach i => hb.attach i
  | .cancel i => hb.cancel i
  | .start i => by
      cases hr : b.requests[i]? with
      | none => simpa [Background.step, Background.start, hr] using hb
      | some r =>
          cases hs : r.state with
          | pending =>
              simp only [Background.step, Background.start, hr, hs, Option.map_some]
              split
              · exact hb.settle hr (fun res h => by cases h)
              · exact hb
          | _ => simpa [Background.step, Background.start, hr, hs] using hb
  | .finish i => by
      show (b.finish i).Answered
      unfold Background.finish
      split
      · rename_i src off handed hr
        have asked : Answers ⟨src, off, .running, handed⟩
            (b.client.query Client.workerRoom b.host src off).1 :=
          .inr ⟨b.client, b.host, rfl⟩
        cases hq : b.client.query Client.workerRoom b.host src off with
        | mk res h' =>
            rw [hq] at asked
            exact Answered.settle (b := { b with host := h' }) hb hr
              (fun res' h => by cases h; exact asked)
      · exact hb
  | .configure _ => hb
  | .shutdown => Answered.cancelAll (b := { b with client := b.client.stop }) hb _

theorem Answered.run {b : Background} (hb : b.Answered) (evs : List Event) :
    (b.run evs).Answered :=
  run_keeps Answered (fun _ ev h => h.step ev) hb evs

/-! ## Calls that make no request, or a refused one -/

theorem ask_outside (b : Background) {src : Text} {off : Json} {i : Int}
    (hi : off.toInteger = .ok i) (out : i < 0 ∨ (src.length : Int) < i) :
    b.ask src off = (.error (.offsetOutside i src.length), b) := by
  simp [Background.ask, Client.check_outside hi out]

theorem ask_refused {b : Background} (hb : b.Delivers) {src : Text} {off : Json} {n : Nat}
    (hn : Offset.check src off = .ok n) (hstop : b.client.accepting = false) :
    (b.ask src off).2.requests[b.requests.length]? =
        some ⟨src, off, .finished (.error (.service .workerStopped)), true⟩ ∧
      (b.ask src off).2.givenTo b.requests.length = [.error (.service .workerStopped)] := by
  have stored : (b.ask src off).2.requests[b.requests.length]? =
      some ⟨src, off, .finished (.error (.service .workerStopped)), true⟩ := by
    simp [Background.ask, hn, hstop]
  refine ⟨stored, ?_⟩
  rw [hb.ask src off, owed, stored]
  rfl

/-- Exactly-once delivery of background requests. Over every run of a client's background
requests: a call whose offset lies outside its source fails and changes nothing, so nothing is
ever given for it; a call on a pool that was shut down makes a future that holds the refusal
and gives the refusal to its receiver before it returns; every receiver has been given exactly
its future's outcome once its call has returned and the future is done, and nothing before, so
at most one outcome at any point and exactly one once the future is done; a finished future
holds the refusal or what its own query gave; whatever happens next, futures only move on, so a
cancelled request was cancelled before any worker took it and a finished one stays as it is;
and the shutdown leaves no request waiting. -/
theorem receiver_given_one_outcome (c : Client) (h : Host) (evs : List Event) :
    (∀ src off i, off.toInteger = .ok i → (i < 0 ∨ (src.length : Int) < i) →
      ((init c h).run evs).ask src off =
        (.error (.offsetOutside i src.length), (init c h).run evs)) ∧
    (∀ src off n, Offset.check src off = .ok n → ((init c h).run evs).client.accepting = false →
      (((init c h).run evs).ask src off).2.requests[((init c h).run evs).requests.length]? =
          some ⟨src, off, .finished (.error (.service .workerStopped)), true⟩ ∧
        (((init c h).run evs).ask src off).2.givenTo ((init c h).run evs).requests.length =
          [.error (.service .workerStopped)]) ∧
    (∀ i, ((init c h).run evs).givenTo i = ((init c h).run evs).owed i) ∧
    (∀ (i : Nat) (r : Request) res, ((init c h).run evs).requests[i]? = some r →
      r.state = .finished res → Answers r res) ∧
    (∀ evs' (i : Nat) (r : Request), ((init c h).run evs).requests[i]? = some r →
      ∃ r' : Request, (((init c h).run evs).run evs').requests[i]? = some r' ∧
        r'.source = r.source ∧ r'.offset = r.offset ∧ r.state.Advances r'.state) ∧
    (∀ (i : Nat) (r : Request), ((init c h).run evs).shutdown.requests[i]? = some r →
      r.state ≠ .pending) := by
  have delivers := (delivers_init c h).run evs
  refine ⟨fun src off i hi out => ask_outside _ hi out,
    fun src off n hn hstop => ask_refused delivers hn hstop, delivers,
    (answered_init c h).run evs, fun evs' => moves_run _ evs', fun i r hr => shutdown_not_pending hr⟩

end Background

end PhpCompletion
