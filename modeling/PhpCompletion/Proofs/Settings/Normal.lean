import PhpCompletion.Proofs.Settings.Load

/-! # Normal settings

`normalize` is a projection onto the settings it can give. Whatever value it reads, settings
it returns are `Normal`: the wait within 100..30000 milliseconds, the executable a trimmed text
that is not empty, the working directory trimmed (`normalize_normal`). Normal settings written
back as a JSON object read as themselves (`normalize_toJson`), so normalizing twice is
normalizing once (`normalize_bind_toJson`).

It fails only on an infinite wait (`normalize_eq_error_iff`); any other value that reads as no
integer waits 2000 milliseconds (`timeoutOf_of_toInteger_error`). Trimming is idempotent over
every code point (`Text.trim_trim`), which is what makes the texts fixed points.
-/

namespace PhpCompletion

namespace Text

theorem trim_trim (t : Text) : t.trim.trim = t.trim := by
  apply trim_of_ends
  · intro c r h
    have pre : t.trim.points <+: t.points.dropWhile isBlankPoint := by
      rw [trim, ← List.reverse_suffix, List.reverse_reverse]
      exact List.dropWhile_suffix _
    obtain ⟨u, hu⟩ := pre
    rw [h] at hu
    exact dropWhile_head_not hu.symm
  · exact trim_last_not_blank t

end Text

namespace Settings

/-- Settings as normalizing gives them. -/
structure Normal (s : Settings) : Prop where
  timeout_bounds : minTimeout ≤ s.timeoutMs ∧ s.timeoutMs ≤ maxTimeout
  executable_nonempty : s.executable.isEmpty = false
  executable_trimmed : s.executable.trim = s.executable
  workingDir_trimmed : s.workingDir.trim = s.workingDir

instance (s : Settings) : Decidable (Normal s) :=
  decidable_of_iff ((minTimeout ≤ s.timeoutMs ∧ s.timeoutMs ≤ maxTimeout) ∧
      s.executable.isEmpty = false ∧ s.executable.trim = s.executable ∧
      s.workingDir.trim = s.workingDir)
    ⟨fun ⟨a, b, c, d⟩ => ⟨a, b, c, d⟩, fun ⟨a, b, c, d⟩ => ⟨a, b, c, d⟩⟩

theorem normalize_eq_ok_iff {cfg : Json} {s : Settings} :
    normalize cfg = .ok s ↔ ∃ t, timeoutOf (waitOf cfg) = .ok t ∧ readWith cfg t = s := by
  rw [normalize_eq]
  cases timeoutOf (waitOf cfg) <;> simp [Except.map]

theorem timeoutOf_of_toInteger_ok {v : Json} {n t : Int} (hv : v.toInteger = .ok n)
    (h : timeoutOf v = .ok t) : t = max minTimeout (min maxTimeout n) := by
  simp only [timeoutOf, hv, Except.ok.injEq] at h
  exact h.symm

theorem timeoutOf_of_toInteger_error {v : Json} {e : IntegerFault} {t : Int}
    (hv : v.toInteger = .error e) (h : timeoutOf v = .ok t) : t = 2000 := by
  unfold timeoutOf at h
  rw [hv] at h
  cases e with
  | infinite => cases h
  | _ => simp only [Except.ok.injEq, minTimeout, maxTimeout] at h; omega

theorem timeoutOf_int {n : Int} (hn : minTimeout ≤ n ∧ n ≤ maxTimeout) :
    timeoutOf (.int n) = .ok n := by
  simp only [timeoutOf, Json.toInteger_int, Except.ok.injEq]
  omega

theorem executableOf_str {t : Text} (hne : t.isEmpty = false) (ht : t.trim = t) :
    executableOf (.str t) = t := by
  simp [executableOf, Json.displayOrEmpty_str, ht, hne]

theorem executableOf_nonempty (v : Json) : (executableOf v).isEmpty = false := by
  dsimp only [executableOf]
  split
  · rfl
  · exact eq_false_of_ne_true ‹_›

theorem executableOf_trim (v : Json) : (executableOf v).trim = executableOf v := by
  dsimp only [executableOf]
  split
  · rfl
  · exact Text.trim_trim _

/-- Whatever value is normalized, the settings it gives are normal. -/
theorem normalize_normal {cfg : Json} {s : Settings} (h : normalize cfg = .ok s) : Normal s := by
  obtain ⟨t, ht, rfl⟩ := normalize_eq_ok_iff.mp h
  exact ⟨timeoutOf_bounds _ _ ht, executableOf_nonempty _, executableOf_trim _,
    Text.trim_trim _⟩

/-- The settings of a fresh installation are normal. -/
example : Normal defaults := by decide

theorem normalize_toJson {s : Settings} (hs : Normal s) : normalize s.toJson = .ok s := by
  obtain ⟨en, bg, ex, wd, t⟩ := s
  rw [normalize_eq]
  have waited : timeoutOf (waitOf (toJson ⟨en, bg, ex, wd, t⟩)) = .ok t :=
    timeoutOf_int hs.timeout_bounds
  rw [waited]
  show Except.ok (⟨(Json.bool en).truthy, (Json.bool bg).truthy, executableOf (.str ex),
    (Json.str wd).displayOrEmpty.trim, t⟩ : Settings) = .ok ⟨en, bg, ex, wd, t⟩
  rw [executableOf_str hs.executable_nonempty hs.executable_trimmed, Json.displayOrEmpty_str,
    hs.workingDir_trimmed]
  rfl

theorem normalize_bind_toJson (cfg : Json) :
    (normalize cfg).bind (fun s => normalize s.toJson) = normalize cfg := by
  cases h : normalize cfg with
  | error f => rfl
  | ok s => exact normalize_toJson (normalize_normal h)

theorem normalize_eq_error_iff (cfg : Json) (f : Fault) :
    normalize cfg = .error f ↔
      f = .integer .infinite ∧ ∃ x, cfg.get? keyTimeout = some (.float x) ∧ x.isInfinite = true := by
  rw [normalize_eq_error_of_timeoutOf, timeoutOf_eq_error_iff, waitOf]
  cases cfg.get? keyTimeout <;> simp

/-- Settings normalizing is a projection. Its settings are normal and read back as
themselves, so normalizing again changes nothing; the wait is the integer the value asks
for, clamped, or 2000 milliseconds when it asks for none; and it fails exactly when the wait
asked for is an infinite number. -/
theorem normalize_is_projection (cfg : Json) :
    (∀ s, normalize cfg = .ok s → Normal s ∧ normalize s.toJson = .ok s ∧
      (∀ n, (waitOf cfg).toInteger = .ok n → s.timeoutMs = max minTimeout (min maxTimeout n)) ∧
      (∀ e, (waitOf cfg).toInteger = .error e → s.timeoutMs = 2000)) ∧
    (normalize cfg).bind (fun s => normalize s.toJson) = normalize cfg ∧
    (∀ f, normalize cfg = .error f ↔
      f = .integer .infinite ∧ ∃ x, cfg.get? keyTimeout = some (.float x) ∧ x.isInfinite = true) := by
  refine ⟨fun s h => ?_, normalize_bind_toJson cfg, normalize_eq_error_iff cfg⟩
  obtain ⟨t, ht, rfl⟩ := normalize_eq_ok_iff.mp h
  exact ⟨normalize_normal h, normalize_toJson (normalize_normal h),
    fun _ hn => timeoutOf_of_toInteger_ok hn ht, fun _ he => timeoutOf_of_toInteger_error he ht⟩

end Settings

end PhpCompletion
