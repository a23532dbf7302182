import PhpCompletion.Editor
import PhpCompletion.Proofs.Manager.Steps

/-! # Completion switched off

While the settings have completion off, every way of asking for candidates on an open buffer
answers with none and changes nothing the manager keeps. `candidates` returns `[]` and leaves
the state exactly as it was; `candidatesLater` and `request` hand `[]` to the receiver and do
nothing else, whether the request would have been made now or in the background. The manager
reads the switch before its lookup, so no token is taken, no request is cancelled, no cache
entry is narrowed, no failure is reported and the service is not asked.

A backend reads the switch in its own places: its prefix is none before the cursor is read, and
its candidates are `[]` either through the manager (requests made now) or before the cache is
looked at (requests made in the background).
-/

namespace PhpCompletion

namespace Manager

variable {σ : Type} {m : Manager σ} {b : Text} {s : Session}

section Off

variable (svc : Service σ) (off : m.settings.enabled = false) (h : m.session? b = some s)
include off h

theorem candidates_run_off (room : Nat) (lit : Text) (q : Json) (view : Text × Json) :
    (candidates svc room b lit q view).run m = .ok [] m := by
  rw [candidates_run h, if_pos off]

theorem candidatesLater_run_off (lit : Text) (q : Json) (l : Listener) (view : Text × Json) :
    (candidatesLater svc b lit q l view).run m = (deliver l []).run m := by
  rw [candidatesLater_run h, if_pos off]

theorem request_run_off (room : Nat) (lit : Text) (q : Json) (l : Listener)
    (view : Text × Json) :
    (request svc room b lit q l view).run m = (deliver l []).run m := by
  rw [request_run]
  split
  · exact candidatesLater_run_off svc off h lit q l view
  · rw [candidates_run_off svc off h]

end Off

end Manager

namespace Editor

variable {e : Editor} {room : Nat} {b : Json} {be : Backend}

theorem onManager_of_run {α : Type} {act : Step Link α} {a : α}
    (h : act.run e.manager = .ok a e.manager) : e.onManager act = (.ok a, e) := by
  unfold onManager
  rw [h]

theorem withBackend_of_get (hb : e.backends.get b = .ok be)
    (f : Backend → Except Fault Reply × Editor) : e.withBackend b f = f be := by
  unfold withBackend
  rw [hb]

theorem exec_backendPrefix_off (off : e.manager.settings.enabled = false)
    (hb : e.backends.get b = .ok be) :
    e.exec room (.backendPrefix b) = (.ok (.symbol none), e) := by
  simp only [exec]
  rw [withBackend_of_get hb, off]
  rfl

/-- A backend's candidates are `[]` with completion off: a request made now goes through the
manager, which answers `[]` for the open session; one made in the background stops at the
switch before the cache is looked at, and no handle is kept. -/
theorem exec_backendCandidates_off (off : e.manager.settings.enabled = false)
    (hb : e.backends.get b = .ok be) {s : Session} (h : e.manager.session? be.name = some s)
    (q handle : Json) :
    e.exec room (.backendCandidates b q handle) = (.ok (.candidates (some [])), e) := by
  simp only [exec]
  rw [withBackend_of_get hb]
  cases hbg : e.manager.settings.background with
  | false =>
      rw [Bool.not_false, if_pos rfl, onManager_of_run (Manager.candidates_run_off Link.service off h _ _ _ _)]
      rfl
  | true =>
      rw [Bool.not_true, if_neg Bool.false_ne_true, off, Bool.not_false, if_pos rfl]

end Editor

/-- With completion off, asking for candidates on an open buffer answers `[]` and changes
nothing else. The manager's `candidates` returns `[]` and leaves its state as it was;
`candidatesLater` and `request` do exactly what handing `[]` to the receiver does. So the
service is not asked, and every session keeps its cache, token, pending request and reported
failures. A backend's prefix is none, and its candidates for an open session are `[]`, with the
editor unchanged. -/
theorem completion_off_inert :
    (∀ {σ : Type} (svc : Service σ) (m : Manager σ) (b : Text) (s : Session),
      m.settings.enabled = false → m.session? b = some s →
      (∀ room lit q view, (Manager.candidates svc room b lit q view).run m = .ok [] m) ∧
      (∀ lit q l view,
        (Manager.candidatesLater svc b lit q l view).run m = (Manager.deliver l []).run m) ∧
      (∀ room lit q l view,
        (Manager.request svc room b lit q l view).run m = (Manager.deliver l []).run m)) ∧
    (∀ (e : Editor) (room : Nat) (b : Json) (be : Backend),
      e.manager.settings.enabled = false → e.backends.get b = .ok be →
      e.exec room (.backendPrefix b) = (.ok (.symbol none), e) ∧
      ∀ s, e.manager.session? be.name = some s → ∀ q handle,
        e.exec room (.backendCandidates b q handle) = (.ok (.candidates (some [])), e)) := by
  refine ⟨fun svc m b s off h => ?_, fun e room b be off hb => ?_⟩
  · exact ⟨Manager.candidates_run_off svc off h, Manager.candidatesLater_run_off svc off h,
      Manager.request_run_off svc off h⟩
  · exact ⟨Editor.exec_backendPrefix_off off hb,
      fun _ h q handle => Editor.exec_backendCandidates_off off hb h q handle⟩

def offStart : Manager Link :=
  ⟨{ Settings.defaults with enabled := false }, .scripted Scripted.initial,
    [Session.fresh (Text.ofString "a.php") 0], [], [], 1, []⟩

def offEditor : Editor :=
  { Editor.ofManager offStart with
    store := [⟨Text.ofString "<?php\n$this->f", .int 14⟩]
    backends := ⟨[(.text (Text.ofString "a.php"), ⟨Text.ofString "a.php", 0⟩)]⟩ }

theorem completion_off_inert_sample :
    offStart.settings.enabled = false ∧
      offStart.session? (Text.ofString "a.php") = some (Session.fresh (Text.ofString "a.php") 0) ∧
      (Manager.request Link.service 100 (Text.ofString "a.php") (Text.ofString "a.php")
        (.str (Text.ofString "f")) ⟨.str (Text.ofString "cb"), none⟩
        (Text.ofString "<?php\n$this->f", .int 14)).run offStart =
        .ok () (offStart.record (.delivered (.str (Text.ofString "cb")) [])) ∧
      offEditor.backends.get (.str (Text.ofString "a.php")) =
        .ok ⟨Text.ofString "a.php", 0⟩ ∧
      offEditor.exec 100 (.backendCandidates (.str (Text.ofString "a.php"))
        (.str (Text.ofString "f")) (.int 0)) = (.ok (.candidates (some [])), offEditor) := by
  have off : offStart.settings.enabled = false := rfl
  have h : offStart.session? (Text.ofString "a.php") =
      some (Session.fresh (Text.ofString "a.php") 0) := rfl
  have hb : offEditor.backends.get (.str (Text.ofString "a.php")) =
      .ok ⟨Text.ofString "a.php", 0⟩ := rfl
  refine ⟨off, h, ?_, hb, ?_⟩
  · rw [(completion_off_inert.1 Link.service offStart _ _ off h).2.2, Manager.deliver_run]
  · exact (completion_off_inert.2 offEditor 100 _ _ off hb).2 _ h _ _

end PhpCompletion
