import PhpCompletion.Proofs.Decimal.Quotient
import PhpCompletion.Proofs.Settings.Normal
import PhpCompletion.Proofs.Program.Exit

/-! # The client follows the settings

The manager builds its client from normalized settings (`Client.ofSettings`) and hands new
normalized settings to the client it has (`Client.applySettings`). The client reads them with
rules of its own: an empty executable falls back to `phpactor`, a false wait to 2000
milliseconds, and a wait is at least a tenth of a second. None of these rules changes normal
settings, so both paths give the client the settings' executable and working directory and a
timeout of `timeoutMs / 1000` seconds, rounded once to binary64
(`client_follows_normalized_settings`).

The tenth of a second is itself the quotient of the shortest wait (`minSeconds_eq`); a longer
wait divides to more than a tenth (`minSeconds_lt`), which is read off the bits of the
quotient.
-/

namespace PhpCompletion

namespace Client

open Decimal Binary64

theorem minSeconds_eq : minSeconds = nearestRatio false 100 1000 := by decide

theorem minSeconds_lt {d : ℕ} (lo : 101 ≤ d) (hi : d ≤ 30000) :
    minSeconds.lt (nearestRatio false d 1000) = true := by
  have hd : 0 < d := by omega
  have fits := fits_fitExponent hd (show 0 < 1000 by norm_num)
  simp only [Nat.cast_ofNat] at fits
  set e := fitExponent d 1000 8 ((Nat.log2 d : ℤ) - Nat.log2 1000 - 52)
  have ratioLow : (101 : ℚ) / 1000 ≤ (d : ℚ) / 1000 := by
    gcongr
    exact_mod_cast lo
  have ratioHigh : (d : ℚ) / 1000 ≤ 30 := by
    rw [div_le_iff₀ (by norm_num)]
    exact_mod_cast (by omega : d ≤ 30 * 1000)
  -- the ratio lies between a tenth and 30, so it has 53 bits at an exponent from -56 to -48
  have eLow : -57 < e := fits.lt_of_large <|
    calc (2 : ℚ) ^ 53 ≤ 101 / 1000 * 2 ^ (57 : ℤ) := by norm_num
      _ ≤ d / 1000 * 2 ^ (-(-57 : ℤ)) := by
          rw [neg_neg]
          exact mul_le_mul_of_nonneg_right ratioLow (by positivity)
  have eHigh : e < -47 := fits.lt_of_small <|
    calc (d : ℚ) / 1000 * 2 ^ (-(-47 : ℤ)) ≤ 30 * 2 ^ (47 : ℤ) := by
          rw [neg_neg]
          exact mul_le_mul_of_nonneg_right ratioHigh (by positivity)
      _ < 2 ^ 52 := by norm_num
  obtain ⟨q, qLow, qHigh, qFloor, bits⟩ :=
    nearestRatio_bits hd (by norm_num) fits (by omega) (by omega)
  have tenth : minSeconds.bits.toNat = 0x3FB999999999999A := rfl
  simp only [hiddenBit] at qLow qHigh bits
  simp only [Nat.cast_ofNat] at qFloor
  apply lt_of_bits_lt (by rw [tenth]; norm_num) (by rw [bits]; omega)
  rw [tenth, bits]
  rcases (show e = -56 ∨ -55 ≤ e by omega) with least | higher
  · have above : 7205759403792795 ≤ ⌊(d : ℚ) / 1000 * 2 ^ (-e)⌋₊ := by
      apply Nat.le_floor
      rw [least, neg_neg]
      calc ((7205759403792795 : ℕ) : ℚ) ≤ 101 / 1000 * 2 ^ (56 : ℤ) := by norm_num
        _ ≤ d / 1000 * 2 ^ (56 : ℤ) := mul_le_mul_of_nonneg_right ratioLow (by positivity)
    rw [least] at bits ⊢
    omega
  · omega

theorem secondsOf_eq {ms : ℤ} (lo : 100 ≤ ms) (hi : ms ≤ 30000) :
    secondsOf ms = .ok (nearestRatio false ms.toNat 1000) := by
  obtain ⟨x, read, whole⟩ := ofInt?_isWhole (show 0 < ms by omega) (by omega)
  rw [secondsOf, read]
  simp only [quotient_of_isWhole whole (by omega) (by norm_num : 0 < 1000)]
  congr 1
  rcases (show ms.toNat = 100 ∨ 101 ≤ ms.toNat by omega) with least | longer
  · rw [least, ← minSeconds_eq, ite_self]
  · rw [if_pos (minSeconds_lt longer (by omega))]

variable {s : Settings}

theorem create_of_normal (hs : s.Normal) :
    create (.str s.executable) (.str s.workingDir) (.int s.timeoutMs) (.int 2) =
      .ok ⟨s.executable, s.workingDir, nearestRatio false s.timeoutMs.toNat 1000, 2, true⟩ := by
  have waited : timeoutOf (.int s.timeoutMs) = .ok (nearestRatio false s.timeoutMs.toNat 1000) :=
    secondsOf_eq hs.timeout_bounds.1 hs.timeout_bounds.2
  unfold create
  rw [waited]
  simp only [bind, Except.bind, Settings.executableOf_str hs.executable_nonempty
    hs.executable_trimmed, Json.displayOrEmpty_str, hs.workingDir_trimmed]
  rfl

theorem ofSettings_of_normal (hs : s.Normal) :
    ofSettings s = ⟨s.executable, s.workingDir, nearestRatio false s.timeoutMs.toNat 1000, 2, true⟩ := by
  rw [ofSettings, create_of_normal hs]

/-- Normal settings handed to a client change its executable, working directory and timeout to
theirs, and nothing else. -/
theorem applySettings_of_normal (hs : s.Normal) (c : Client) :
    c.applySettings s = { c with
      executable := s.executable, workingDir := s.workingDir,
      timeout := nearestRatio false s.timeoutMs.toNat 1000 } := by
  have waited : timeoutOf (Json.orElse (.int s.timeoutMs) (.int 2000)) =
      .ok (nearestRatio false s.timeoutMs.toNat 1000) := by
    have kept : Json.orElse (.int s.timeoutMs) (.int 2000) = .int s.timeoutMs := by
      have := hs.timeout_bounds.1
      simp only [Settings.minTimeout] at this
      simp only [Json.orElse, Json.truthy, bne_iff_ne, ne_eq, if_pos (show s.timeoutMs ≠ 0 by omega)]
    rw [kept]
    exact secondsOf_eq hs.timeout_bounds.1 hs.timeout_bounds.2
  have configured : c.configure s.toJson = .ok { c with
      executable := s.executable, workingDir := s.workingDir,
      timeout := nearestRatio false s.timeoutMs.toNat 1000 } := by
    show (do
      let t ← timeoutOf (Json.orElse (.int s.timeoutMs) (.int 2000))
      pure { c with executable := Settings.executableOf (.str s.executable)
                    workingDir := (Json.str s.workingDir).displayOrEmpty.trim
                    timeout := t }) = _
    rw [waited, Settings.executableOf_str hs.executable_nonempty hs.executable_trimmed,
      Json.displayOrEmpty_str, hs.workingDir_trimmed]
    rfl
  rw [applySettings, configured]

end Client

namespace Manager

theorem supersedeAll_linked (m : Manager Linked) (xs : List Session) :
    (m.supersedeAll Linked.service xs).service = m.service := by
  induction xs generalizing m with
  | nil => rfl
  | cons x xs ih =>
      rw [supersedeAll, List.foldl_cons, ← supersedeAll, ih, cancelPending_linked]
      rfl

/-- New settings reach the client of a linked service whether or not they turn completion
off. -/
theorem updateSettings_linked {cfg : Json} {s : Settings} (h : Settings.normalize cfg = .ok s)
    (m : Manager Linked) :
    ∃ m', (updateSettings Linked.service cfg).run m = .ok s m' ∧
      m'.service = { m.service with client := m.service.client.applySettings s } := by
  rw [updateSettings_run, h]
  refine ⟨_, rfl, ?_⟩
  split
  · rfl
  · rw [supersedeAll_linked]
    rfl

end Manager

/-- The manager's client agrees with the normalized settings, on both paths. Built from them, it
is created without falling back on anything, with their executable and working directory and a
timeout of the binary64 number nearest to `timeoutMs / 1000` seconds; a manager over a linked
service that takes the same settings gives its client the same three values and keeps the
rest. -/
theorem client_follows_normalized_settings {cfg : Json} {s : Settings}
    (h : Settings.normalize cfg = .ok s) :
    let seconds := Decimal.nearestRatio false s.timeoutMs.toNat 1000
    Client.create (.str s.executable) (.str s.workingDir) (.int s.timeoutMs) (.int 2) =
        .ok (Client.ofSettings s) ∧
      Client.ofSettings s = ⟨s.executable, s.workingDir, seconds, 2, true⟩ ∧
      ∀ m : Manager Linked, ∃ m', (Manager.updateSettings Linked.service cfg).run m = .ok s m' ∧
        m'.service.client = { m.service.client with
          executable := s.executable, workingDir := s.workingDir, timeout := seconds } := by
  intro seconds
  have hs := Settings.normalize_normal h
  refine ⟨by rw [Client.create_of_normal hs, Client.ofSettings_of_normal hs],
    Client.ofSettings_of_normal hs, fun m => ?_⟩
  obtain ⟨m', run, service⟩ := Manager.updateSettings_linked h m
  exact ⟨m', run, by rw [service, Client.applySettings_of_normal hs]⟩

theorem client_follows_normalized_settings_defaults :
    Settings.normalize (.obj []) = .ok Settings.defaults ∧
      Client.ofSettings Settings.defaults =
        ⟨Settings.defaultExecutable, Text.empty, Decimal.nearestRatio false 2000 1000, 2, true⟩ :=
  ⟨Settings.normalize_obj_nil, (client_follows_normalized_settings Settings.normalize_obj_nil).2.1⟩

end PhpCompletion
