import PhpCompletion.Program
import PhpCompletion.Proofs.Manager.Waiting
import PhpCompletion.Proofs.Cache.Lookup
import PhpCompletion.Proofs.Client.Query

/-! # How the program ends

A run goes through its stages in order, and the first that does not go through decides how it
ends (`run_exit_codes_by_stage`): a bad command line exits with 2, a source file that cannot be
opened with 1, an offset outside the source with 2. A source file that is not UTF-8, or whose
path has no byte form, ends the run with that failure, as does a settings file that cannot be
used (its home directory unknown, its name too long, its text nested too deep, or its wait
infinite). Otherwise the run opens the source as a buffer of a fresh manager, whose cache
misses, so the service is asked at once: its suggestions are printed, one line each and in
order, and exit 0; a failure of the service prints nothing and exits 0; a reply nested too deep
ends the run with that failure.
-/

namespace PhpCompletion

namespace Linked

@[simp] theorem query_service (room : Nat) (src : Text) (off : Int) (s : Linked) :
    service.query room src off s =
      ((s.client.query room s.host src (.int off)).1,
        { s with host := (s.client.query room s.host src (.int off)).2 }) := rfl

@[simp] theorem stop_host (s : Linked) : (service.stop s).host = s.host := rfl

end Linked

namespace Manager

theorem cancelPending_linked (m : Manager Linked) (b : Text) :
    (m.cancelPending Linked.service b).service = m.service := by
  rw [cancelPending_service]
  cases m.waitsOn b <;> rfl

theorem closeAll_linked (m : Manager Linked) (xs : List Session) :
    (m.closeAll Linked.service xs).service = m.service := by
  induction xs generalizing m with
  | nil => rfl
  | cons x xs ih =>
      rw [closeAll, List.foldl_cons, ← closeAll, ih, closedSession_service, cancelPending_linked]

end Manager

namespace Program

open Manager

/-! ## The completion step -/

def started (s : Settings) (h : Host) : Manager Linked :=
  ⟨s, ⟨Client.ofSettings s, h, 0⟩, [], [], [], 0, []⟩

def openedOn (s : Settings) (h : Host) (file : Text) : Manager Linked :=
  ⟨s, ⟨Client.ofSettings s, h, 0⟩, [Session.fresh file 0], [], [], 1, []⟩

/-- The candidates the completion step computes with settings `s`, and the host after: none
with completion off; else the service is asked, a failure of the service gives none, and any
other failure ends the step. -/
def candidatesOf (room : Nat) (s : Settings) (h : Host) (source : Text) (offset : Int) :
    Except Fault (List Candidate) × Host :=
  if s.enabled = false then (.ok [], h)
  else
    match (Client.ofSettings s).query (room - 1) h source (.int offset) with
    | (.ok ss, h') => (.ok (Candidate.ofSuggestions ss), h')
    | (.error f, h') => (if f.isQueryFailure then .ok [] else .error f, h')

theorem create_of_normalize {σ : Type} {cfg : Json} {s : Settings} (svc : σ)
    (hn : Settings.normalize cfg = .ok s) :
    Manager.create cfg svc = .ok ⟨s, svc, [], [], [], 0, []⟩ := by
  simp [Manager.create, hn, bind, Except.bind, pure, Except.pure]

theorem complete_run (room : Nat) (s : Settings) (h : Host) (file q source : Text) (offset : Int) :
    ∃ m, (match (candidatesOf room s h source offset).1 with
      | .ok items => (complete room file q source offset).run (started s h) = .ok items m
      | .error f => (complete room file q source offset).run (started s h) = .error f m) ∧
      m.service.host = (candidatesOf room s h source offset).2 := by
  have opened :
      (openBuffer Linked.service file).run (started s h) = .ok () (openedOn s h file) := by
    rw [openBuffer_run]
    simp [withFresh, withoutBuffer, started, openedOn, session?]
  have fresh : (openedOn s h file).session? file = some (Session.fresh file 0) := by
    simp [openedOn, session?, Session.fresh]
  have looked (c : PrefixCache) :
      ((openedOn s h file).afterLookup Linked.service file c).service = (started s h).service := by
    rw [afterLookup_service, cancelPending_linked]
    rfl
  simp only [complete, EStateM.run_bind, opened, candidates_run fresh, looked]
  cases hen : s.enabled with
  | false => simp [candidatesOf, hen, openedOn, shutdown_run, closeAll_linked]
  | true =>
      cases hq : (Client.ofSettings s).query (room - 1) h source (.int offset) with
      | mk r h' =>
          cases r with
          | ok ss =>
              simp [candidatesOf, hen, hq, started, openedOn, shutdown_run, closeAll_linked, record,
                Session.fresh, PrefixCache.get_empty, Session.readView, Json.toInteger_int]
          | error f =>
              cases hf : f.isQueryFailure with
              | false =>
                  simp [candidatesOf, hen, hq, hf, started, openedOn, Session.fresh,
                    PrefixCache.get_empty, Session.readView, Json.toInteger_int]
              | true =>
                  simp [candidatesOf, hen, hq, hf, started, openedOn, shutdown_run, closeAll_linked,
                    Session.fresh, PrefixCache.get_empty, Session.readView, Json.toInteger_int]

/-! ## The stages of a run -/

section Stages

variable {room : Nat} {argv : List Text} {h : Host} {args : Arguments} {file : Text}
  {offset : Int}

theorem run_of_parse_error {f : Fault} (hp : parse argv = .error f) :
    run room argv h =
      ⟨.ok 2, Text.empty, line (usage ++ Text.ofString "\n" ++ f.message), h⟩ := by
  simp [run, hp]

variable (hp : parse argv = .ok (args, file, offset))
include hp

theorem run_of_unopened {e : OsError} (hr : h.disk.readText file = .error (.unopened e)) :
    (run room argv h).exit = .ok 1 ∧ (run room argv h).host = h := by
  simp [run, hp, hr]

theorem run_of_undecodable {e : Text.Utf8Error}
    (hr : h.disk.readText file = .error (.undecodable e)) :
    (run room argv h).exit = .error (.undecodable e) := by
  simp [run, hp, hr]

theorem run_of_unnamable {e : PathFault} (hr : h.disk.readText file = .error (.unnamable e)) :
    (run room argv h).exit = .error e.toFault := by
  simp [run, hp, hr]

variable {source : Text} (hr : h.disk.readText file = .ok source)
include hr

theorem run_of_outside (out : offset < 0 ∨ (source.length : Int) < offset) :
    (run room argv h).exit = .ok 2 ∧ (run room argv h).host = h := by
  simp [run, hp, hr, out]

variable (inside : ¬(offset < 0 ∨ (source.length : Int) < offset))
include inside

theorem run_of_settings_error {f : Fault}
    (hs : settingsFrom (room - 1) h.disk args.settingsPath = .error f) :
    (run room argv h).exit = .error f := by
  simp [run, hp, hr, inside, hs]

theorem run_of_settings {cfg : Json} {complaint : Option Text} {s : Settings}
    (hs : settingsFrom (room - 1) h.disk args.settingsPath = .ok (cfg, complaint))
    (hn : Settings.normalize (foreground cfg) = .ok s) :
    (run room argv h).exit = (candidatesOf (room - 1) s h source offset).1.map (fun _ => 0) ∧
    (run room argv h).out = (match (candidatesOf (room - 1) s h source offset).1 with
      | .ok items => (items.map candidateLine).foldl (· ++ ·) Text.empty
      | .error _ => Text.empty) ∧
    (run room argv h).host = (candidatesOf (room - 1) s h source offset).2 := by
  have created : Manager.create (foreground cfg) (⟨Client.ofSettings s, h, 0⟩ : Linked) =
      .ok (started s h) := create_of_normalize _ hn
  obtain ⟨m, hrun, hhost⟩ := complete_run (room - 1) s h file
    (args.completionPrefix.getD ((Symbol.atCursor source offset).getD Text.empty)) source offset
  simp only [run, hp, hr, inside, if_false, hs, hn, Except.toOption, Option.getD_some, created]
  revert hrun hhost
  cases (candidatesOf (room - 1) s h source offset).1 <;> intro hrun hhost <;>
    simp [hrun, hhost, Except.map]

end Stages

/-! ## Settings -/

theorem normalize_foreground {room : Nat} {d : Disk} {path : Option Text} {cfg : Json}
    {complaint : Option Text} (hs : settingsFrom room d path = .ok (cfg, complaint)) :
    ∃ s, Settings.normalize (foreground cfg) = .ok s := by
  unfold settingsFrom at hs
  split at hs
  · cases hs
    exact ⟨_, rfl⟩
  · split at hs
    · cases hs
      exact ⟨_, rfl⟩
    · simp only [bind, Except.bind, pure, Except.pure] at hs
      split at hs
      · cases hs
      · split at hs
        · cases hs
        · cases hs
          exact ⟨_, rfl⟩

theorem settingsFrom_error {room : Nat} {d : Disk} {path : Option Text} {f : Fault}
    (hs : settingsFrom room d path = .error f) :
    ∃ p, path = some p ∧ (Disk.expandHome p = .error f ∨
      ∃ q, Disk.expandHome p = .ok q ∧ SettingsFile.load (room - 1) d q = .error f) := by
  unfold settingsFrom at hs
  split at hs
  · cases hs
  · rename_i p
    split at hs
    · cases hs
    · simp only [bind, Except.bind, pure, Except.pure] at hs
      refine ⟨p, rfl, ?_⟩
      cases he : Disk.expandHome p with
      | error e =>
          simp only [he] at hs
          cases hs
          exact .inl rfl
      | ok q =>
          simp only [he] at hs
          refine .inr ⟨q, rfl, ?_⟩
          cases hl : SettingsFile.load (room - 1) d q with
          | error e =>
              simp only [hl] at hs
              cases hs
              rfl
          | ok r => simp [hl] at hs

/-! ## How a run ends -/

theorem check_inside {source : Text} {offset : Int}
    (inside : ¬(offset < 0 ∨ (source.length : Int) < offset)) :
    Offset.check source (.int offset) = .ok offset.toNat := by
  simp [Offset.check, Json.toInteger_int, inside]

/-- How a run ends, by the first stage that does not go through. A bad command line exits with
2, a source file that cannot be opened with 1 and an offset outside the source with 2, none of
them starting the service. A source file that is not UTF-8 or whose path has no byte form, and
a settings path whose home directory cannot be expanded or whose file cannot be loaded, end the
run with that failure. Otherwise, with completion off, the run prints nothing and exits with 0.
With completion on the service is asked once: its suggestions are printed one line each, in
order, and the run exits with 0; a failure of the service prints nothing and exits with 0; any
other failure is a reply nested too deep, and it ends the run. -/
theorem run_exit_codes_by_stage (room : Nat) (argv : List Text) (h : Host) :
    (∀ f, parse argv = .error f →
      (run room argv h).exit = .ok 2 ∧ (run room argv h).host = h) ∧
    ∀ args file offset, parse argv = .ok (args, file, offset) →
      (∀ e, h.disk.readText file = .error (.unopened e) →
        (run room argv h).exit = .ok 1 ∧ (run room argv h).host = h) ∧
      (∀ e, h.disk.readText file = .error (.undecodable e) →
        (run room argv h).exit = .error (.undecodable e)) ∧
      (∀ e, h.disk.readText file = .error (.unnamable e) →
        (run room argv h).exit = .error e.toFault) ∧
      ∀ source, h.disk.readText file = .ok source →
        ((offset < 0 ∨ (source.length : Int) < offset) →
          (run room argv h).exit = .ok 2 ∧ (run room argv h).host = h) ∧
        (0 ≤ offset → offset ≤ source.length →
          (∀ f, settingsFrom (room - 1) h.disk args.settingsPath = .error f →
            (run room argv h).exit = .error f ∧ ∃ p, args.settingsPath = some p ∧
              (Disk.expandHome p = .error f ∨ ∃ q, Disk.expandHome p = .ok q ∧
                SettingsFile.load (room - 2) h.disk q = .error f)) ∧
          ∀ cfg complaint,
            settingsFrom (room - 1) h.disk args.settingsPath = .ok (cfg, complaint) →
            ∃ s, Settings.normalize (foreground cfg) = .ok s ∧
              (s.enabled = false → (run room argv h).exit = .ok 0 ∧
                (run room argv h).out = Text.empty ∧ (run room argv h).host = h) ∧
              (s.enabled = true → ∀ r h',
                (Client.ofSettings s).query (room - 2) h source (.int offset) = (r, h') →
                (run room argv h).host = h' ∧
                (∀ ss, r = .ok ss → (run room argv h).exit = .ok 0 ∧
                  (run room argv h).out =
                    ((Candidate.ofSuggestions ss).map candidateLine).foldl (· ++ ·)
                      Text.empty) ∧
                (∀ f, r = .error f → f.isQueryFailure = true →
                  (run room argv h).exit = .ok 0 ∧ (run room argv h).out = Text.empty) ∧
                (∀ f, r = .error f → f.isQueryFailure = false →
                  (run room argv h).exit = .error f ∧ ∃ k, f = .tooDeep k))) := by
  have hroom : room - 1 - 1 = room - 2 := by omega
  refine ⟨fun f hp => by simp [run_of_parse_error hp], fun args file offset hp => ?_⟩
  refine ⟨fun e hr => run_of_unopened hp hr, fun e hr => run_of_undecodable hp hr,
    fun e hr => run_of_unnamable hp hr,
    fun source hr => ⟨run_of_outside hp hr, fun lo hi => ?_⟩⟩
  have inside : ¬(offset < 0 ∨ (source.length : Int) < offset) := by omega
  refine ⟨fun f hs => ⟨run_of_settings_error hp hr inside hs, ?_⟩,
    fun cfg complaint hs => ?_⟩
  · rw [← hroom]
    exact settingsFrom_error hs
  obtain ⟨s, hn⟩ := normalize_foreground hs
  obtain ⟨hexit, hout, hhost⟩ := run_of_settings hp hr inside hs hn
  refine ⟨s, hn, fun hen => ?_, fun hen r h' hq => ?_⟩
  · simp [hexit, hout, hhost, candidatesOf, hen, Except.map]
  rw [← hroom] at hq
  have asked : candidatesOf (room - 1) s h source offset =
      (match r with
        | .ok ss => .ok (Candidate.ofSuggestions ss)
        | .error f => if f.isQueryFailure then .ok [] else .error f, h') := by
    simp only [candidatesOf, hen, hq]
    cases r <;> rfl
  rw [asked] at hexit hout hhost
  refine ⟨hhost, fun ss hr => ?_, fun f hr hf => ?_, fun f hr hf => ⟨?_, ?_⟩⟩
  · subst hr
    simp [hexit, hout, Except.map]
  · subst hr
    simp [hexit, hout, hf, Except.map]
  · subst hr
    simp [hexit, hf, Except.map]
  · have failed :
        ((Client.ofSettings s).query (room - 1 - 1) h source (.int offset)).1 = .error f := by
      rw [hq, hr]
    rcases Client.query_error_cases _ _ _ (check_inside inside) failed with
      ⟨e, rfl⟩ | ⟨p, rfl⟩ | found
    · cases hf
    · simp at hf
    · exact found

def undecodableDisk : Disk := Disk.empty.withFile (Text.ofString "a.php") [255]

/-- A source file that is there but is not UTF-8 does not exit with 1: the run ends with the
decoding failure, whatever the room and the service. -/
theorem undecodable_source_escapes (room : Nat) (runner : Runner) :
    ∃ e, (run room [Text.ofString "a.php", Text.ofString "0"]
        ⟨undecodableDisk, runner⟩).exit = .error (.undecodable e) ∧
      (Fault.undecodable e).typeName = "UnicodeDecodeError" := by
  have hp : parse [Text.ofString "a.php", Text.ofString "0"] =
      .ok (⟨[Text.ofString "a.php", Text.ofString "0"], none, none, false⟩,
        Text.ofString "a.php", 0) := rfl
  obtain ⟨e, hr⟩ :
      ∃ e, undecodableDisk.readText (Text.ofString "a.php") = .error (.undecodable e) :=
    ⟨_, rfl⟩
  exact ⟨e, run_of_undecodable hp hr, rfl⟩

/-- The command line `a.php 0` over a source file of the one byte `0xff`, run as the executable
runs it, with no run of the service possible: the run ends with the decoding failure. -/
theorem run_fails_on_undecodable_source :
    ∃ e, (run (Json.stackLimit - 2) [Text.ofString "a.php", Text.ofString "0"]
        ⟨undecodableDisk, ⟨[], .notStarted, [], true⟩⟩).exit = .error (.undecodable e) ∧
      (Fault.undecodable e).typeName = "UnicodeDecodeError" :=
  undecodable_source_escapes _ _

end Program

end PhpCompletion
