import PhpCompletion.Settings

/-! # Loading the settings file

Reading the settings file is meant to give settings whatever the file holds, with a complaint
when the file could not be used. Two failures escape it: a text that nests arrays and objects
deeper than the reader goes, and a `completion` object whose `timeout_ms` is an infinite number,
which the conversion to an integer refuses after the section has been taken. Apart from a path
the system refuses to look up, these are the only ways loading fails (`load_eq_error_iff`).

When loading succeeds, the complaint is absent exactly when the file is missing or is a JSON
object whose `completion` is absent or an object; the section kept is that object (empty
otherwise), and the settings are the section's (`load_eq_ok_spec`). Loading reads the disk and
changes nothing on it: it is a function of the disk, so a second load of the same file gives
the same settings.
-/

namespace PhpCompletion

namespace Settings

/-- A completion section that asks for an infinite wait. -/
def InfiniteWait (sec : List (Text × Json)) : Prop :=
  ∃ x, Json.lookup sec keyTimeout = some (.float x) ∧ x.isInfinite = true

theorem text_toInteger_ne_infinite (t : Text) : t.toInteger ≠ .error .infinite := by
  unfold Text.toInteger
  simp only
  split
  · simp
  · split
    · simp
    · split
      · simp
      · split
        · simp
        · split <;> simp

theorem toInteger_eq_infinite_iff (v : Json) :
    v.toInteger = .error .infinite ↔ ∃ x, v = .float x ∧ x.isInfinite = true := by
  cases v with
  | float x =>
      by_cases hi : x.isInfinite = true
      · have hn : x.isNaN = false := by
          simp only [Binary64.isInfinite, Bool.and_eq_true, beq_iff_eq] at hi
          simp [Binary64.isNaN, hi.2]
        simp [Json.toInteger, hn, hi]
      · simp only [Bool.not_eq_true] at hi
        by_cases hn : x.isNaN = true <;> simp [Json.toInteger, hn, hi]
  | str s => simpa [Json.toInteger] using text_toInteger_ne_infinite s
  | _ => simp [Json.toInteger]

theorem timeoutOf_eq_error_iff (v : Json) (f : Fault) :
    timeoutOf v = .error f ↔ f = .integer .infinite ∧ ∃ x, v = .float x ∧ x.isInfinite = true := by
  rw [← toInteger_eq_infinite_iff]
  unfold timeoutOf
  cases h : v.toInteger with
  | ok n => simp
  | error e => cases e <;> simp [eq_comm]

def waitOf (cfg : Json) : Json := (cfg.get? keyTimeout).getD (.int 2000)

def readWith (cfg : Json) (t : Int) : Settings :=
  ⟨((cfg.get? keyEnabled).getD (.bool true)).truthy,
    ((cfg.get? keyBackground).getD (.bool true)).truthy,
    executableOf ((cfg.get? keyExecutable).getD (.str defaultExecutable)),
    ((cfg.get? keyWorkingDir).getD (.str Text.empty)).displayOrEmpty.trim, t⟩

theorem normalize_eq (cfg : Json) :
    normalize cfg = (timeoutOf (waitOf cfg)).map (readWith cfg) := by
  cases cfg <;> rfl

theorem normalize_eq_error_of_timeoutOf {cfg : Json} {f : Fault} :
    normalize cfg = .error f ↔ timeoutOf (waitOf cfg) = .error f := by
  rw [normalize_eq]
  cases timeoutOf (waitOf cfg) <;> simp [Except.map]

theorem normalize_obj_eq_error_iff (sec : List (Text × Json)) (f : Fault) :
    normalize (.obj sec) = .error f ↔ f = .integer .infinite ∧ InfiniteWait sec := by
  rw [normalize_eq_error_of_timeoutOf, timeoutOf_eq_error_iff]
  simp only [InfiniteWait, waitOf, Json.get?]
  cases Json.lookup sec keyTimeout <;> simp

theorem normalize_obj_nil : normalize (.obj []) = .ok defaults := rfl

end Settings

namespace SettingsFile

def sectionKey : Text := Text.ofString "completion"

/-- The file at `p` is a JSON object, read with `room` places of the call stack free, whose
`completion` is absent, with `sec` empty, or is the object `sec`. -/
def HoldsSection (room : Nat) (d : Disk) (p : Text) (sec : List (Text × Json)) : Prop :=
  d.exists? p = .ok true ∧ ∃ text fields, d.readText p = .ok text ∧
    Json.read (room - 1) text = .ok (.obj fields) ∧
    (Json.lookup fields sectionKey = none ∧ sec = [] ∨
      Json.lookup fields sectionKey = some (.obj sec))

def TooDeep (room : Nat) (d : Disk) (p : Text) (c : Json.Container) : Prop :=
  d.exists? p = .ok true ∧ ∃ text, d.readText p = .ok text ∧ Json.read (room - 1) text = .error (.tooDeep c)

variable {room : Nat} {d : Disk} {p : Text}

theorem readText_ne_unnamable (h : d.exists? p = .ok true) (e : PathFault) :
    d.readText p ≠ .error (.unnamable e) := by
  unfold Disk.exists? at h
  unfold Disk.readText
  cases hf : d.find (Disk.normal p) with
  | error f => simp [hf] at h
  | ok r =>
      cases r with
      | ok n =>
          cases n
          · simp only
            split <;> simp
          · simp
      | error o => simp

theorem sectionAt_eq_error_iff (f : Fault) :
    sectionAt room d p = .error f ↔ d.exists? p = .error f ∨ ∃ c, TooDeep room d p c ∧ f = .tooDeep c := by
  unfold sectionAt TooDeep
  cases he : d.exists? p with
  | error e => simp [bind, Except.bind]
  | ok present =>
    cases present with
    | false => simp [bind, Except.bind, pure, Except.pure]
    | true =>
      simp only [bind, Except.bind, Bool.not_true, Bool.false_eq_true, if_false, reduceCtorEq,
        false_or, true_and]
      cases hr : d.readText p with
      | error r =>
          cases r with
          | unnamable e => exact absurd hr (readText_ne_unnamable he e)
          | _ => simp [pure, Except.pure]
      | ok text =>
          simp only [Except.ok.injEq, exists_eq_left']
          cases hj : Json.read (room - 1) text with
          | error r =>
              cases r with
              | tooDeep c => simp [throw, throwThe, MonadExceptOf.throw, eq_comm]
              | _ => simp [pure, Except.pure]
          | ok v =>
              cases v with
              | obj fields =>
                  simp only [reduceCtorEq, false_and, exists_false, iff_false]
                  cases hl : Json.lookup fields (Text.ofString "completion") with
                  | none => simp [pure, Except.pure]
                  | some v => cases v <;> simp [pure, Except.pure]
              | _ => simp [pure, Except.pure]

theorem sectionAt_eq_ok_none_iff (sec : List (Text × Json)) :
    sectionAt room d p = .ok (sec, none) ↔
      d.exists? p = .ok false ∧ sec = [] ∨ HoldsSection room d p sec := by
  unfold sectionAt HoldsSection
  cases he : d.exists? p with
  | error e => simp [bind, Except.bind]
  | ok present =>
    cases present with
    | false => simp [bind, Except.bind, pure, Except.pure, eq_comm]
    | true =>
      simp only [bind, Except.bind, Bool.not_true, Bool.false_eq_true, if_false, true_and]
      cases hr : d.readText p with
      | error r =>
          cases r with
          | unnamable e => exact absurd hr (readText_ne_unnamable he e)
          | _ => simp [pure, Except.pure]
      | ok text =>
          simp only [Except.ok.injEq]
          cases hj : Json.read (room - 1) text with
          | error r => cases r <;> simp [throw, throwThe, MonadExceptOf.throw, pure, Except.pure, hj]
          | ok v =>
              cases v with
              | obj fields =>
                  simp only [sectionKey]
                  cases hl : Json.lookup fields (Text.ofString "completion") with
                  | none => simp [pure, Except.pure, eq_comm, hl, hj]
                  | some v => cases v <;> simp [pure, Except.pure, hl, hj]
              | _ => simp [pure, Except.pure, hj]

theorem sectionAt_complained {sec : List (Text × Json)} {t : Text}
    (h : sectionAt room d p = .ok (sec, some t)) : sec = [] := by
  have emptied : ∀ msg : Text,
      (pure ([], some msg) : Except Fault (List (Text × Json) × Option Text)) = .ok (sec, some t) →
        sec = [] := by
    intro msg hm
    simp only [pure, Except.pure, Except.ok.injEq, Prod.mk.injEq] at hm
    exact hm.1.symm
  unfold sectionAt at h
  cases he : d.exists? p with
  | error e => simp [he, bind, Except.bind] at h
  | ok present =>
    cases present with
    | false => simp [he, bind, Except.bind, pure, Except.pure] at h
    | true =>
      simp only [he, bind, Except.bind, Bool.not_true, Bool.false_eq_true, if_false] at h
      split at h
      · exact emptied _ h
      · exact emptied _ h
      · simp [throw, throwThe, MonadExceptOf.throw] at h
      · split at h
        · simp [throw, throwThe, MonadExceptOf.throw] at h
        · exact emptied _ h
        · split at h
          · simp [pure, Except.pure] at h
          · simp [pure, Except.pure] at h
          · exact emptied _ h
        · exact emptied _ h

theorem holdsSection_of_wait {sec : List (Text × Json)} {complaint : Option Text}
    (h : sectionAt room d p = .ok (sec, complaint)) (wait : Settings.InfiniteWait sec) :
    HoldsSection room d p sec := by
  have noWait : ¬Settings.InfiniteWait [] := fun ⟨x, hx, _⟩ => by simp [Json.lookup] at hx
  cases complaint with
  | none =>
      rcases (sectionAt_eq_ok_none_iff sec).mp h with ⟨-, rfl⟩ | held
      · exact absurd wait noWait
      · exact held
  | some t =>
      rw [sectionAt_complained h] at wait
      exact absurd wait noWait

theorem load_eq_bind (room : Nat) (d : Disk) (p : Text) :
    load room d p = (sectionAt room d p).bind fun r =>
      (Settings.normalize (.obj r.1)).map fun s => ⟨r.1, r.2, s⟩ := by
  simp only [load, bind, Except.bind]
  cases sectionAt room d p with
  | error e => rfl
  | ok r => cases Settings.normalize (.obj r.1) <;> rfl

/-- Loading fails only when the path cannot be looked up, when the file's text nests deeper than
the reader goes, or when the file holds a section that asks for an infinite wait. -/
theorem load_eq_error_iff (f : Fault) :
    load room d p = .error f ↔
      d.exists? p = .error f ∨ (∃ c, TooDeep room d p c ∧ f = .tooDeep c) ∨
        ∃ sec, HoldsSection room d p sec ∧ Settings.InfiniteWait sec ∧ f = .integer .infinite := by
  have mapped : ∀ (x : Except Fault Settings) (g : Settings → SettingsFile),
      x.map g = .error f ↔ x = .error f := by
    intro x g
    cases x <;> simp [Except.map]
  rw [load_eq_bind, ← or_assoc, ← sectionAt_eq_error_iff]
  constructor
  · intro failed
    cases hs : sectionAt room d p with
    | error e =>
        rw [hs] at failed
        have same : e = f := by simpa [Except.bind] using failed
        exact .inl (by rw [same])
    | ok r =>
        obtain ⟨sec, complaint⟩ := r
        rw [hs, Except.bind, mapped, Settings.normalize_obj_eq_error_iff] at failed
        exact .inr ⟨sec, holdsSection_of_wait hs failed.2, failed.2, failed.1⟩
  · rintro (failed | ⟨sec, held, wait, rfl⟩)
    · rw [failed]
      rfl
    · rw [(sectionAt_eq_ok_none_iff sec).mpr (.inr held), Except.bind, mapped,
        Settings.normalize_obj_eq_error_iff]
      exact ⟨rfl, wait⟩

theorem load_eq_ok_spec {r : SettingsFile} (h : load room d p = .ok r) :
    (r.complaint = none ↔ d.exists? p = .ok false ∨ ∃ sec, HoldsSection room d p sec) ∧
      (∀ sec, HoldsSection room d p sec → r.completion = sec) ∧
      ((∀ sec, ¬HoldsSection room d p sec) → r.completion = []) ∧
      Settings.normalize (.obj r.completion) = .ok r.settings := by
  rw [load_eq_bind] at h
  cases hs : sectionAt room d p with
  | error e =>
      rw [hs] at h
      cases h
  | ok found =>
    obtain ⟨sec, complaint⟩ := found
    rw [hs] at h
    cases hn : Settings.normalize (.obj sec) with
    | error e =>
        simp [Except.bind, hn, Except.map] at h
    | ok st =>
      simp only [Except.bind, hn, Except.map, Except.ok.injEq] at h
      subst h
      have only : ∀ sec', HoldsSection room d p sec' → sec' = sec ∧ complaint = none := by
        intro sec' held
        have := (sectionAt_eq_ok_none_iff sec').mpr (.inr held)
        rw [hs] at this
        simp only [Except.ok.injEq, Prod.mk.injEq] at this
        exact ⟨this.1.symm, this.2⟩
      refine ⟨?_, fun sec' held => (only sec' held).1.symm, fun none_held => ?_, hn⟩
      · cases complaint with
        | none =>
            simp only [true_iff]
            exact ((sectionAt_eq_ok_none_iff sec).mp hs).imp (·.1) (⟨sec, ·⟩)
        | some t =>
            simp only [reduceCtorEq, false_iff, not_or, not_exists]
            refine ⟨fun missing => ?_, fun sec' held => by simpa using (only sec' held).2⟩
            have missed : sectionAt room d p = .ok ([], none) :=
              (sectionAt_eq_ok_none_iff []).mpr (.inl ⟨missing, rfl⟩)
            rw [hs] at missed
            simp at missed
      · cases complaint with
        | none =>
            rcases (sectionAt_eq_ok_none_iff sec).mp hs with ⟨-, empty⟩ | held
            · exact empty
            · exact absurd held (none_held sec)
        | some t => exact sectionAt_complained hs

end SettingsFile

/-- Loading the settings file fails only when its path cannot be looked up, when its text nests
deeper than the reader goes, or when it holds a `completion` section that asks for an infinite
wait. When it succeeds, the complaint is absent exactly when the file is missing or is a JSON
object whose `completion` is absent or an object; the section kept is that object, empty
otherwise, and the settings are the section's. -/
theorem settings_load_fails_only_on_depth_or_infinite_wait (room : Nat) (d : Disk) (p : Text) :
    (∀ f, SettingsFile.load room d p = .error f ↔
      d.exists? p = .error f ∨ (∃ c, SettingsFile.TooDeep room d p c ∧ f = .tooDeep c) ∨
        ∃ sec, SettingsFile.HoldsSection room d p sec ∧ Settings.InfiniteWait sec ∧
          f = .integer .infinite) ∧
    ∀ r, SettingsFile.load room d p = .ok r →
      (r.complaint = none ↔
        d.exists? p = .ok false ∨ ∃ sec, SettingsFile.HoldsSection room d p sec) ∧
      (∀ sec, SettingsFile.HoldsSection room d p sec → r.completion = sec) ∧
      ((∀ sec, ¬SettingsFile.HoldsSection room d p sec) → r.completion = []) ∧
      Settings.normalize (.obj r.completion) = .ok r.settings :=
  ⟨SettingsFile.load_eq_error_iff, fun _ h => SettingsFile.load_eq_ok_spec h⟩

def infiniteWaitDisk : Disk :=
  Disk.empty.withFile (Text.ofString "settings.json")
    (Text.encodeUtf8 (Text.ofString "\x7b\"completion\": \x7b\"timeout_ms\": Infinity\x7d\x7d"))

/-- Loading does fail on a well-formed file: a section whose wait is `Infinity`. -/
theorem settings_load_fails_on_infinite_wait :
    SettingsFile.load (Json.stackLimit - 5) infiniteWaitDisk (Text.ofString "settings.json") =
      .error (.integer .infinite) := by
  with_unfolding_all rfl

end PhpCompletion
