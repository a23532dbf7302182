import PhpCompletion.Program

/-! # The grammar of a command line

A command line is read left to right as a sequence of *segments*: a verbose flag alone, an
option flag followed by its value, whatever that argument is, or any other argument alone.
Every command line is such a sequence, or such a sequence followed by an option flag with
nothing after it (`shape_of_list`).

Reading the arguments of a segment moves the scan's accumulator by that segment only
(`scan_segment`), so reading a sequence of segments moves it by the whole sequence
(`scan_segments`). Hence a command line of whole segments reads as its positional arguments in
order, the value of the last segment of each option, and verbose output when a segment asks
for it, and a command line that ends with an option flag fails on that flag
(`ofList_segments`).
-/

namespace PhpCompletion

namespace Arguments

def IsVerboseFlag (a : Text) : Prop := a = Text.ofString "-v" ∨ a = Text.ofString "--verbose"

def IsValueFlag (a : Text) : Prop := a = Text.ofString "--prefix" ∨ a = Text.ofString "--settings"

instance : DecidablePred IsVerboseFlag := fun a =>
  inferInstanceAs (Decidable (a = Text.ofString "-v" ∨ a = Text.ofString "--verbose"))

instance : DecidablePred IsValueFlag := fun a =>
  inferInstanceAs (Decidable (a = Text.ofString "--prefix" ∨ a = Text.ofString "--settings"))

/-- One segment of a command line, with the proof that it has its shape. -/
inductive Segment where
  | verbose (flag : Text) (h : IsVerboseFlag flag)
  | option (flag value : Text) (h : IsValueFlag flag)
  | other (arg : Text) (h : ¬IsVerboseFlag arg ∧ ¬IsValueFlag arg)

namespace Segment

def args : Segment → List Text
  | verbose f _ => [f]
  | option f v _ => [f, v]
  | other a _ => [a]

def positional? : Segment → Option Text
  | verbose _ _ => Option.none
  | option _ _ _ => Option.none
  | other a _ => some a

def valueOf? (flag : Text) : Segment → Option Text
  | verbose _ _ => Option.none
  | option f v _ => if f = flag then some v else Option.none
  | other _ _ => Option.none

def isVerbose : Segment → Bool
  | verbose _ _ => true
  | option _ _ _ => false
  | other _ _ => false

end Segment

/-- The arguments of a sequence of segments: the positional ones in order, for each option the
value of its last segment (none when no segment gives it), and verbose output when some segment
asks for it. -/
def ofSegments (segs : List Segment) : Arguments :=
  ⟨segs.filterMap Segment.positional?,
    (segs.filterMap (Segment.valueOf? (Text.ofString "--prefix"))).getLast?,
    (segs.filterMap (Segment.valueOf? (Text.ofString "--settings"))).getLast?,
    segs.any Segment.isVerbose⟩

/-- The scan's accumulator after a sequence of segments: positional arguments are gathered in
reverse, a later value of an option replaces an earlier one. -/
def extend (acc : Arguments) (segs : List Segment) : Arguments :=
  ⟨(ofSegments segs).positional.reverse ++ acc.positional,
    (ofSegments segs).completionPrefix.or acc.completionPrefix,
    (ofSegments segs).settingsPath.or acc.settingsPath,
    acc.verbose || (ofSegments segs).verbose⟩

@[simp] theorem extend_nil (acc : Arguments) : acc.extend [] = acc := by
  simp [extend, ofSegments]

theorem extend_append (acc : Arguments) (xs ys : List Segment) :
    (acc.extend xs).extend ys = acc.extend (xs ++ ys) := by
  simp only [extend, ofSegments, List.filterMap_append, List.reverse_append, List.append_assoc,
    List.getLast?_append, Option.or_assoc, List.any_append, Bool.or_assoc]

/-! ## Reading segments -/

section OneSegment

variable (acc : Arguments) (f v : Text)

theorem extend_verbose (h : IsVerboseFlag f) :
    acc.extend [.verbose f h] = { acc with verbose := true } := by
  simp [extend, ofSegments, Segment.positional?, Segment.valueOf?, Segment.isVerbose]

theorem extend_prefixFlag (h : IsValueFlag (Text.ofString "--prefix")) :
    acc.extend [.option (Text.ofString "--prefix") v h] = { acc with completionPrefix := some v } := by
  have other : Text.ofString "--prefix" ≠ Text.ofString "--settings" := by decide
  simp [extend, ofSegments, Segment.positional?, Segment.valueOf?, Segment.isVerbose, other]

theorem extend_settings (h : IsValueFlag (Text.ofString "--settings")) :
    acc.extend [.option (Text.ofString "--settings") v h] = { acc with settingsPath := some v } := by
  have other : Text.ofString "--settings" ≠ Text.ofString "--prefix" := by decide
  simp [extend, ofSegments, Segment.positional?, Segment.valueOf?, Segment.isVerbose, other]

theorem extend_other (h : ¬IsVerboseFlag f ∧ ¬IsValueFlag f) :
    acc.extend [.other f h] = { acc with positional := f :: acc.positional } := by
  simp [extend, ofSegments, Segment.positional?, Segment.valueOf?, Segment.isVerbose]

end OneSegment

theorem scan_segment (seg : Segment) (rest : List Text) (acc : Arguments) :
    scan (seg.args ++ rest) acc = scan rest (acc.extend [seg]) := by
  cases seg with
  | verbose f h =>
      rw [extend_verbose, Segment.args, List.singleton_append, scan.eq_def]
      rw [IsVerboseFlag] at h
      simp only [if_pos h]
  | option f v h =>
      have notVerbose : ¬(f = Text.ofString "-v" ∨ f = Text.ofString "--verbose") := by
        rcases h with rfl | rfl <;> decide
      rw [Segment.args, List.cons_append, List.singleton_append, scan.eq_def]
      simp only [if_neg notVerbose]
      have which := h
      rcases which with rfl | rfl
      · rw [extend_prefixFlag]
        simp only [if_true]
      · have other : Text.ofString "--settings" ≠ Text.ofString "--prefix" := by decide
        rw [extend_settings]
        simp only [if_neg other, if_true]
  | other a h =>
      rw [extend_other, Segment.args, List.singleton_append, scan.eq_def]
      obtain ⟨notVerbose, notValue⟩ := h
      rw [IsVerboseFlag] at notVerbose
      rw [IsValueFlag, not_or] at notValue
      simp only [if_neg notVerbose, if_neg notValue.1, if_neg notValue.2]

theorem scan_segments (segs : List Segment) (rest : List Text) (acc : Arguments) :
    scan (segs.flatMap Segment.args ++ rest) acc = scan rest (acc.extend segs) := by
  induction segs generalizing acc with
  | nil => simp
  | cons seg segs ih =>
      rw [List.flatMap_cons, List.append_assoc, scan_segment, ih, extend_append]
      rfl

theorem ofList_flatMap (segs : List Segment) :
    ofList (segs.flatMap Segment.args) = .ok (ofSegments segs) := by
  have whole := scan_segments segs [] none
  rw [List.append_nil] at whole
  rw [ofList, whole, scan]
  simp [extend, none, ofSegments]

theorem ofList_flatMap_flag (segs : List Segment) {flag : Text} (h : IsValueFlag flag) :
    ofList (segs.flatMap Segment.args ++ [flag]) = .error (.missingValue flag) := by
  have notVerbose : ¬(flag = Text.ofString "-v" ∨ flag = Text.ofString "--verbose") := by
    rcases h with rfl | rfl <;> decide
  rw [ofList, scan_segments, scan.eq_def]
  simp only [if_neg notVerbose]
  rcases h with rfl | rfl
  · simp
  · have other : Text.ofString "--settings" ≠ Text.ofString "--prefix" := by decide
    simp [other]

/-! ## Every command line is made of segments -/

/-- A command line made of whole segments, or of whole segments and an option flag after
them. -/
def Shape (argv : List Text) : Prop :=
  (∃ segs : List Segment, argv = segs.flatMap Segment.args) ∨
    ∃ (segs : List Segment) (flag : Text), IsValueFlag flag ∧
      argv = segs.flatMap Segment.args ++ [flag]

theorem Shape.cons {rest : List Text} (h : Shape rest) (seg : Segment) :
    Shape (seg.args ++ rest) := by
  rcases h with ⟨segs, rfl⟩ | ⟨segs, flag, hf, rfl⟩
  · exact .inl ⟨seg :: segs, by simp⟩
  · exact .inr ⟨seg :: segs, flag, hf, by simp⟩

/-- Every command line splits into segments, the way the scan reads it. -/
theorem shape_of_list : ∀ argv : List Text, Shape argv
  | [] => .inl ⟨[], rfl⟩
  | a :: rest =>
      if hv : IsVerboseFlag a then (shape_of_list rest).cons (.verbose a hv)
      else if hf : IsValueFlag a then
        match rest with
        | [] => .inr ⟨[], a, hf, rfl⟩
        | v :: more => (shape_of_list more).cons (.option a v hf)
      else (shape_of_list rest).cons (.other a ⟨hv, hf⟩)

/-- The command-line grammar. Reading a command line fails exactly when, read as segments, it
ends with an option flag that has no value after it, and the failure is a value error that
names that flag. Otherwise it is a sequence of whole segments, and it reads as their positional
arguments in order, for each option the value of the last segment of that option (and none
when no segment has it), and verbose output exactly when some segment asks for it. -/
theorem ofList_segments (argv : List Text) :
    (∀ f, ofList argv = .error f ↔ ∃ (segs : List Segment) (flag : Text), IsValueFlag flag ∧
      argv = segs.flatMap Segment.args ++ [flag] ∧ f = .missingValue flag ∧
      f.message = flag ++ Text.ofString " needs a value" ∧ f.typeName = "ValueError") ∧
    (∀ a, ofList argv = .ok a ↔ ∃ segs : List Segment,
      argv = segs.flatMap Segment.args ∧ a = ofSegments segs) := by
  constructor
  · intro f
    constructor
    · intro hf
      rcases shape_of_list argv with ⟨segs, rfl⟩ | ⟨segs, flag, hflag, rfl⟩
      · rw [ofList_flatMap] at hf
        cases hf
      · rw [ofList_flatMap_flag segs hflag] at hf
        cases hf
        exact ⟨segs, flag, hflag, rfl, rfl, rfl, rfl⟩
    · rintro ⟨segs, flag, hflag, rfl, rfl, -, -⟩
      exact ofList_flatMap_flag segs hflag
  · intro a
    constructor
    · intro ha
      rcases shape_of_list argv with ⟨segs, rfl⟩ | ⟨segs, flag, hflag, rfl⟩
      · rw [ofList_flatMap] at ha
        cases ha
        exact ⟨segs, rfl, rfl⟩
      · rw [ofList_flatMap_flag segs hflag] at ha
        cases ha
    · rintro ⟨segs, rfl, rfl⟩
      exact ofList_flatMap segs

/-- An option takes the next argument as its value even when that argument is a flag. -/
example : ofList (["a.php", "--prefix", "--verbose", "3"].map Text.ofString) =
    .ok ⟨["a.php", "3"].map Text.ofString, some (Text.ofString "--verbose"), Option.none, false⟩ :=
  rfl

end Arguments

end PhpCompletion
