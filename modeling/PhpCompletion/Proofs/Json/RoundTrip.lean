import PhpCompletion.Proofs.Json.Strings
import PhpCompletion.Proofs.Json.Scalars

/-! # Reading written JSON back

A value written in the compact style reads back as itself when every object's keys are
distinct and every integer has at most `digitLimit` digits (`Readable`), and the reader has a
free place for each container on its deepest path; every not-a-number comes back as the one
that `NaN` gives (`withCanonicalNaN`). The reader's fuel is never what stops it: a value needs
fuel beyond the length of its text (`ReadsBack`), and `read` gives twice that length.

The proof follows the value: each scalar by its own lemma, and a container through one lemma
per separator of the reader's item and field loops, with the items' own round trips as the
hypothesis (`readItems_written`, `readFields_written`).
-/

namespace PhpCompletion.Json

/-! ## Values that read back -/

/-- The values that come back from their text: the keys of every object are distinct and every
integer has at most `digitLimit` digits. -/
inductive Readable : Json → Prop
  | null : Readable .null
  | bool (b : Bool) : Readable (.bool b)
  | int {n : Int} (h : Decimal.digitCount n.natAbs ≤ digitLimit) : Readable (.int n)
  | float (x : Binary64) : Readable (.float x)
  | str (s : Text) : Readable (.str s)
  | arr {items : List Json} (h : ∀ v ∈ items, Readable v) : Readable (.arr items)
  | obj {fields : List (Text × Json)} (keys : (fields.map Prod.fst).Nodup)
      (h : ∀ f ∈ fields, Readable f.2) : Readable (.obj fields)

def withCanonicalNaN : Json → Json
  | .float x => .float (canonicalNaN x)
  | .arr items => .arr (items.attach.map fun ⟨v, _⟩ => withCanonicalNaN v)
  | .obj fields => .obj (fields.attach.map fun ⟨(k, v), h⟩ =>
      have := sizeOf_lt_of_mem_fields h
      (k, withCanonicalNaN v))
  | v => v

@[simp] theorem withCanonicalNaN_arr (items : List Json) :
    (Json.arr items).withCanonicalNaN = .arr (items.map withCanonicalNaN) := by
  simp [withCanonicalNaN]

@[simp] theorem withCanonicalNaN_obj (fields : List (Text × Json)) :
    (Json.obj fields).withCanonicalNaN =
      .obj (fields.map fun f => (f.1, f.2.withCanonicalNaN)) := by
  simp [withCanonicalNaN, List.map_attach_eq_pmap, List.pmap_eq_map]

@[simp] theorem withCanonicalNaN_str (s : Text) : (Json.str s).withCanonicalNaN = .str s := by
  simp [withCanonicalNaN]

@[simp] theorem depth_str (s : Text) : (Json.str s).depth = 0 := by
  simp [depth]

theorem depth_arr (items : List Json) :
    (Json.arr items).depth = 1 + (items.map depth).foldr max 0 := by
  simp [depth]

theorem depth_obj (fields : List (Text × Json)) :
    (Json.obj fields).depth = 1 + (fields.map fun f => f.2.depth).foldr max 0 := by
  simp [depth, List.map_attach_eq_pmap, List.pmap_eq_map]

theorem le_foldr_max {l : List Nat} {a : Nat} (h : a ∈ l) : a ≤ l.foldr max 0 :=
  List.le_max_of_le h le_rfl

theorem depth_lt_of_mem_items {v : Json} {items : List Json} (h : v ∈ items) :
    v.depth < (Json.arr items).depth := by
  have := le_foldr_max (List.mem_map_of_mem (f := depth) h)
  rw [depth_arr]
  omega

theorem depth_lt_of_mem_fields {f : Text × Json} {fields : List (Text × Json)} (h : f ∈ fields) :
    f.2.depth < (Json.obj fields).depth := by
  have := le_foldr_max (List.mem_map_of_mem (f := fun f : Text × Json => f.2.depth) h)
  rw [depth_obj]
  omega

/-! ## The compact text of a container -/

def fieldPoints (f : Text × Json) : List Nat :=
  writeString .compact f.1 ++ 58 :: writePoints .compact f.2

theorem writePoints_arr (items : List Json) :
    writePoints .compact (.arr items) =
      91 :: (List.intercalate [44] (items.map (writePoints .compact)) ++ [93]) := by
  simp [writePoints, Style.compact, ascii]

theorem writePoints_obj (fields : List (Text × Json)) :
    writePoints .compact (.obj fields) =
      123 :: (List.intercalate [44] (fields.map fieldPoints) ++ [125]) := by
  simp [writePoints, Style.compact, ascii, List.map_attach_eq_pmap, List.pmap_eq_map]
  rfl

theorem writePoints_head (v : Json) :
    ∃ c r, writePoints .compact v = c :: r ∧ 33 ≤ c ∧ c ≤ 123 ∧ c ≠ 93 := by
  cases v with
  | null => exact ⟨110, [117, 108, 108], by simp [writePoints, ascii], by decide, by decide,
      by decide⟩
  | bool b =>
      cases b
      · exact ⟨102, [97, 108, 115, 101], by simp [writePoints, ascii], by decide, by decide,
          by decide⟩
      · exact ⟨116, [114, 117, 101], by simp [writePoints, ascii], by decide, by decide,
          by decide⟩
  | int n =>
      obtain ⟨c, r, h, hc1, hc2⟩ := (intNumeral_valid n).points_head
      exact ⟨c, r, by simp only [writePoints]; exact (ofInt_points n).trans h, by omega, by omega,
        by omega⟩
  | float x =>
      obtain ⟨c, r, h, hc1, hc2⟩ := ascii_render_head x
      exact ⟨c, r, by simp only [writePoints]; exact h, by omega, by omega, by omega⟩
  | str s => exact ⟨34, s.points.flatMap (escapeInString false) ++ [34],
      by simp [writePoints, writeString, Style.compact], by decide, by decide, by decide⟩
  | arr items => exact ⟨91, _, writePoints_arr items, by decide, by decide, by decide⟩
  | obj fields => exact ⟨123, _, writePoints_obj fields, by decide, by decide, by decide⟩

theorem skipSpace_visible {c : Nat} (hc : 33 ≤ c) (r : List Nat) (pos : Nat) :
    skipSpace (c :: r) pos = (c :: r, pos) := by
  have : isSpace c = false := by
    simp only [isSpace, Bool.or_eq_false_iff, beq_eq_false_iff_ne]
    omega
  simp [skipSpace, this]

theorem skipSpace_written (v : Json) (rest : List Nat) (pos : Nat) :
    skipSpace (writePoints .compact v ++ rest) pos = (writePoints .compact v ++ rest, pos) := by
  obtain ⟨c, r, h, hc, -⟩ := writePoints_head v
  rw [h, List.cons_append, skipSpace_visible hc]

theorem ends_cons {c : Nat} (hc : c = 44 ∨ c = 93 ∨ c = 125) (r : List Nat) : Ends (c :: r) := by
  intro c' r' h
  cases h
  exact hc

theorem ends_nil : Ends [] := fun _ _ h => by cases h

/-! ## The item and field loops -/

theorem intercalate_cons_append {α : Type} (sep x : List α) (xs : List (List α)) (t : List α) :
    ∃ u, List.intercalate sep (x :: xs) ++ t = x ++ u := by
  cases xs with
  | nil => exact ⟨t, by simp⟩
  | cons y ys => exact ⟨sep ++ List.intercalate sep (y :: ys) ++ t, by
      simp [List.intercalate_cons_cons]⟩

/-- `v` reads back from its compact text followed by anything that may follow a value, with
`room` containers free and fuel beyond the length of the text. -/
def ReadsBack (room : Nat) (v : Json) : Prop :=
  ∀ rest, Ends rest → ∀ fuel pos, (writePoints .compact v).length < fuel →
    ∃ p, readValue fuel room (writePoints .compact v ++ rest) pos =
      .ok (v.withCanonicalNaN, rest, p)

theorem ReadsBack.of_succ {room : Nat} {v : Json}
    (h : ∀ rest, Ends rest → ∀ fuel pos, ∃ p, readValue (fuel + 1) room
      (writePoints .compact v ++ rest) pos = .ok (v.withCanonicalNaN, rest, p)) :
    ReadsBack room v := by
  intro rest hrest fuel pos hfuel
  obtain ⟨f, rfl⟩ : ∃ f, fuel = f + 1 := ⟨fuel - 1, by omega⟩
  exact h rest hrest f pos

theorem readItems_last {fuel room : Nat} {s rest : List Nat} {pos p : Nat} {v : Json}
    (acc : List Json) (h : readValue fuel room s pos = .ok (v, 93 :: rest, p)) :
    readItems (fuel + 1) room s pos acc = .ok (.arr (v :: acc).reverse, rest, p + 1) := by
  simp [readItems, h, bind, Except.bind, skipSpace, isSpace]

theorem readItems_next {fuel room : Nat} {s more : List Nat} {pos p : Nat} {v : Json}
    (acc : List Json) (h : readValue fuel room s pos = .ok (v, 44 :: more, p))
    (hmore : skipSpace more (p + 1) = (more, p + 1)) :
    readItems (fuel + 1) room s pos acc = readItems fuel room more (p + 1) (v :: acc) := by
  simp [readItems, h, bind, Except.bind, skipSpace, isSpace, hmore]

theorem readItems_written {room : Nat} {items : List Json}
    (children : ∀ v ∈ items, ReadsBack room v)
    (hne : items ≠ []) (rest : List Nat) :
    ∀ (acc : List Json) (fuel pos : Nat),
      (List.intercalate [44] (items.map (writePoints .compact))).length + 1 < fuel →
      ∃ p, readItems fuel room (List.intercalate [44] (items.map (writePoints .compact)) ++
        93 :: rest) pos acc = .ok (.arr (acc.reverse ++ items.map withCanonicalNaN), rest, p) := by
  induction items with
  | nil => exact absurd rfl hne
  | cons v vs ih =>
      intro acc fuel pos hfuel
      obtain ⟨f, rfl⟩ : ∃ f, fuel = f + 1 := ⟨fuel - 1, by omega⟩
      have first := children v List.mem_cons_self
      cases vs with
      | nil =>
          simp only [List.map_cons, List.map_nil, List.intercalate_singleton] at hfuel ⊢
          obtain ⟨p, hp⟩ := first (93 :: rest) (ends_cons (by omega) rest) f pos (by omega)
          exact ⟨p + 1, by rw [readItems_last acc hp]; simp⟩
      | cons w ws =>
          simp only [List.map_cons] at ih hfuel ⊢
          rw [List.intercalate_cons_cons] at hfuel ⊢
          obtain ⟨u, hu⟩ : ∃ u, List.intercalate [44] (writePoints .compact w ::
              ws.map (writePoints .compact)) ++ 93 :: rest = writePoints .compact w ++ u :=
            intercalate_cons_append _ _ _ _
          simp only [List.length_append, List.length_cons, List.length_nil] at hfuel
          obtain ⟨p, hp⟩ := first (44 :: (List.intercalate [44] (writePoints .compact w ::
            ws.map (writePoints .compact)) ++ 93 :: rest)) (ends_cons (by omega) _) f pos
            (by omega)
          rw [List.append_assoc, List.append_assoc, List.singleton_append,
            readItems_next acc hp (by rw [hu]; exact skipSpace_written w u (p + 1))]
          obtain ⟨q, hq⟩ := ih (fun x hx => children x (List.mem_cons_of_mem v hx)) (by simp)
            (v.withCanonicalNaN :: acc) f (p + 1) (by omega)
          exact ⟨q, by rw [hq]; simp⟩

theorem setField_of_not_mem {fields : List (Text × Json)} {key : Text}
    (h : key ∉ fields.map Prod.fst) (value : Json) :
    setField fields key value = fields ++ [(key, value)] := by
  have absent : fields.any (fun f => f.1 == key) = false := by
    rw [List.any_eq_false]
    intro f hf same
    exact h (List.mem_map.2 ⟨f, hf, by simpa using same⟩)
  simp [setField, absent]

theorem readFields_last {fuel room : Nat} {k : Text} {s rest : List Nat} {v : Json}
    (acc : List (Text × Json)) (hs : ∀ q, ∃ p, readValue fuel room s q = .ok (v, 125 :: rest, p))
    (hspace : ∀ q, skipSpace s q = (s, q)) (pos : Nat) :
    ∃ p, readFields (fuel + 1) room (writeString .compact k ++ 58 :: s) pos acc =
      .ok (.obj (setField acc k v), rest, p) := by
  obtain ⟨P, hk⟩ := readString_writeString k (58 :: s) pos
  obtain ⟨p, hv⟩ := hs (P + 1)
  rw [writeString_compact_append]
  simp only [readFields, hk, bind, Except.bind, skipSpace_visible (by decide : 33 ≤ 58), hspace,
    hv, skipSpace_visible (by decide : 33 ≤ 125)]
  exact ⟨_, rfl⟩

theorem readFields_next {fuel room : Nat} {k : Text} {s more : List Nat} {v : Json}
    (acc : List (Text × Json)) (hs : ∀ q, ∃ p, readValue fuel room s q = .ok (v, 44 :: more, p))
    (hspace : ∀ q, skipSpace s q = (s, q)) (hmore : ∀ q, skipSpace more q = (more, q))
    (pos : Nat) :
    ∃ p, readFields (fuel + 1) room (writeString .compact k ++ 58 :: s) pos acc =
      readFields fuel room more p (setField acc k v) := by
  obtain ⟨P, hk⟩ := readString_writeString k (58 :: s) pos
  obtain ⟨p, hv⟩ := hs (P + 1)
  rw [writeString_compact_append]
  simp only [readFields, hk, bind, Except.bind, skipSpace_visible (by decide : 33 ≤ 58), hspace,
    hv, skipSpace_visible (by decide : 33 ≤ 44), hmore]
  exact ⟨_, rfl⟩

theorem readFields_written {room : Nat} {fields : List (Text × Json)}
    (children : ∀ f ∈ fields, ReadsBack room f.2) (hne : fields ≠ []) (rest : List Nat) :
    ∀ (acc : List (Text × Json)) (fuel pos : Nat), (acc.map Prod.fst ++ fields.map Prod.fst).Nodup →
      (List.intercalate [44] (fields.map fieldPoints)).length + 1 < fuel →
      ∃ p, readFields fuel room (List.intercalate [44] (fields.map fieldPoints) ++ 125 :: rest)
        pos acc = .ok (.obj (acc ++ fields.map fun f => (f.1, f.2.withCanonicalNaN)), rest, p) := by
  induction fields with
  | nil => exact absurd rfl hne
  | cons f fs ih =>
      intro acc fuel pos keys hfuel
      obtain ⟨k, v⟩ := f
      obtain ⟨n, rfl⟩ : ∃ n, fuel = n + 1 := ⟨fuel - 1, by omega⟩
      have first := children (k, v) List.mem_cons_self
      have fresh : k ∉ acc.map Prod.fst := by
        intro hk
        simp only [List.map_cons] at keys
        exact (List.nodup_append.1 keys).2.2 k hk k List.mem_cons_self rfl
      dsimp only at first
      cases fs with
      | nil =>
          simp only [List.map_cons, List.map_nil, List.intercalate_singleton, fieldPoints,
            List.append_assoc, List.cons_append] at hfuel ⊢
          simp only [List.length_append, List.length_cons] at hfuel
          obtain ⟨p, hp⟩ := readFields_last (k := k) acc
            (fun q => first (125 :: rest) (ends_cons (by omega) rest) n q (by omega))
            (fun q => skipSpace_written v _ q) pos
          exact ⟨p, by rw [hp, setField_of_not_mem fresh]⟩
      | cons g gs =>
          simp only [List.map_cons] at ih keys hfuel ⊢
          rw [List.intercalate_cons_cons] at hfuel ⊢
          obtain ⟨u, hu⟩ : ∃ u, List.intercalate [44] (fieldPoints g :: gs.map fieldPoints) ++
              125 :: rest = fieldPoints g ++ u :=
            intercalate_cons_append _ _ _ _
          have next : ∀ q, skipSpace (List.intercalate [44] (fieldPoints g :: gs.map fieldPoints) ++
              125 :: rest) q = (List.intercalate [44] (fieldPoints g :: gs.map fieldPoints) ++
              125 :: rest, q) := by
            intro q
            rw [hu, fieldPoints, List.append_assoc, writeString_compact_append, List.cons_append]
            exact skipSpace_visible (by decide) _ q
          have front : ∀ t : List Nat, fieldPoints (k, v) ++ [44] ++ t = writeString .compact k ++
              58 :: (writePoints .compact v ++ 44 :: t) := by
            intro t
            simp [fieldPoints]
          rw [front] at hfuel
          rw [List.append_assoc, front]
          simp only [List.length_append, List.length_cons] at hfuel
          obtain ⟨p, hp⟩ := readFields_next (k := k) acc
            (fun q => first _ (ends_cons (by omega) _) n q (by omega))
            (fun q => skipSpace_written v _ q) next pos
          rw [hp, setField_of_not_mem fresh]
          obtain ⟨q, hq⟩ := ih (fun x hx => children x (List.mem_cons_of_mem _ hx)) (by simp)
            (acc ++ [(k, v.withCanonicalNaN)]) n p (by simpa using keys) (by omega)
          exact ⟨q, by rw [hq]; simp⟩

/-! ## Containers -/

theorem readValue_empty_array (fuel room : Nat) (rest : List Nat) (pos : Nat) :
    readValue (fuel + 1) (room + 1) (91 :: 93 :: rest) pos = .ok (.arr [], rest, pos + 2) := by
  simp [readValue, skipSpace, isSpace]

theorem readValue_open_array {c : Nat} (hc : 33 ≤ c) (hc' : c ≠ 93) (fuel room : Nat)
    (s : List Nat) (pos : Nat) :
    readValue (fuel + 1) (room + 1) (91 :: c :: s) pos =
      readItems fuel room (c :: s) (pos + 1) [] := by
  simp [readValue, skipSpace_visible hc, hc']

theorem readValue_empty_object (fuel room : Nat) (rest : List Nat) (pos : Nat) :
    readValue (fuel + 1) (room + 1) (123 :: 125 :: rest) pos = .ok (.obj [], rest, pos + 2) := by
  simp [readValue, skipSpace, isSpace]

theorem readValue_open_object {c : Nat} (hc : 33 ≤ c) (hc' : c ≠ 125) (fuel room : Nat)
    (s : List Nat) (pos : Nat) :
    readValue (fuel + 1) (room + 1) (123 :: c :: s) pos =
      readFields fuel room (c :: s) (pos + 1) [] := by
  simp [readValue, skipSpace_visible hc, hc']

/-! ## Every readable value reads back -/

/-- A readable value reads back from its compact text, given a free place for each container on
its deepest path. -/
theorem Readable.readsBack {v : Json} (hv : v.Readable) : ∀ {room : Nat}, v.depth ≤ room →
    ReadsBack room v := by
  induction hv with
  | null =>
      intro room _
      refine .of_succ fun rest _ f pos => ?_
      simp only [writePoints, withCanonicalNaN]
      exact ⟨_, readValue_null f room pos⟩
  | bool b =>
      intro room _
      refine .of_succ fun rest _ f pos => ?_
      simp only [writePoints, withCanonicalNaN]
      exact readValue_bool b f room pos
  | int h =>
      intro room _
      refine .of_succ fun rest hrest f pos => ?_
      simp only [writePoints, withCanonicalNaN]
      exact readValue_int h hrest f room pos
  | float x =>
      intro room _
      refine .of_succ fun rest hrest f pos => ?_
      simp only [writePoints, withCanonicalNaN]
      exact readValue_float x hrest f room pos
  | str t =>
      intro room _
      refine .of_succ fun rest _ f pos => ?_
      simp only [writePoints, withCanonicalNaN]
      exact readValue_writeString t rest f room pos
  | @arr items _ ih =>
      intro room hroom rest _ fuel pos hfuel
      obtain ⟨r, rfl⟩ : ∃ r, room = r + 1 := ⟨room - 1, by rw [depth_arr] at hroom; omega⟩
      obtain ⟨f, rfl⟩ : ∃ f, fuel = f + 1 := ⟨fuel - 1, by omega⟩
      have inner : ∀ v ∈ items, ReadsBack r v := fun v hv =>
        ih v hv (by have := depth_lt_of_mem_items hv; omega)
      rw [writePoints_arr] at hfuel ⊢
      cases items with
      | nil => exact ⟨_, by simpa using readValue_empty_array f r rest pos⟩
      | cons w ws =>
          obtain ⟨u, hu⟩ := intercalate_cons_append [44] (writePoints .compact w)
            (ws.map (writePoints .compact)) (93 :: rest)
          obtain ⟨c, t, hct, hc1, -, hc3⟩ := writePoints_head w
          have starts : List.intercalate [44] ((w :: ws).map (writePoints .compact)) ++ 93 :: rest =
              c :: (t ++ u) := by
            rw [List.map_cons, hu, hct, List.cons_append]
          simp only [List.length_cons, List.length_append] at hfuel
          obtain ⟨p, hp⟩ := readItems_written inner (by simp) rest [] f (pos + 1) (by omega)
          rw [List.cons_append, List.append_assoc, List.singleton_append, starts,
            readValue_open_array hc1 hc3, ← starts]
          exact ⟨p, by rw [hp]; simp⟩
  | @obj fields keys _ ih =>
      intro room hroom rest _ fuel pos hfuel
      obtain ⟨r, rfl⟩ : ∃ r, room = r + 1 := ⟨room - 1, by rw [depth_obj] at hroom; omega⟩
      obtain ⟨f, rfl⟩ : ∃ f, fuel = f + 1 := ⟨fuel - 1, by omega⟩
      have inner : ∀ g ∈ fields, ReadsBack r g.2 := fun g hg =>
        ih g hg (by have := depth_lt_of_mem_fields hg; omega)
      rw [writePoints_obj] at hfuel ⊢
      cases fields with
      | nil => exact ⟨_, by simpa using readValue_empty_object f r rest pos⟩
      | cons g gs =>
          obtain ⟨u, hu⟩ := intercalate_cons_append [44] (fieldPoints g) (gs.map fieldPoints)
            (125 :: rest)
          have starts : List.intercalate [44] ((g :: gs).map fieldPoints) ++ 125 :: rest =
              34 :: (g.1.points.flatMap (escapeInString false) ++ 34 :: 58 ::
                writePoints .compact g.2 ++ u) := by
            rw [List.map_cons, hu, fieldPoints, List.append_assoc, writeString_compact_append]
            simp
          simp only [List.length_cons, List.length_append] at hfuel
          obtain ⟨p, hp⟩ := readFields_written inner (by simp) rest [] f (pos + 1)
            (by simpa using keys) (by omega)
          rw [List.cons_append, List.append_assoc, List.singleton_append, starts,
            readValue_open_object (by decide) (by decide), ← starts]
          exact ⟨p, by rw [hp]; simp⟩

/-- A readable value written in the compact style reads back as itself, up to the form of its
not-a-numbers, when the reader has room for its nesting. -/
theorem read_write {v : Json} (hv : v.Readable) {room : Nat}
    (hroom : v.depth + readerPlaces ≤ room) :
    read room (write .compact v) = .ok v.withCanonicalNaN := by
  obtain ⟨c, r, hcr, hc1, hc2, -⟩ := writePoints_head v
  obtain ⟨p, hp⟩ := hv.readsBack (show v.depth ≤ room - readerPlaces by omega) [] ends_nil
    (2 * (writePoints .compact v).length + 4) 0 (by omega)
  rw [List.append_nil, hcr, List.length_cons] at hp
  have bom : c ≠ 0xFEFF := by omega
  have trail : skipSpace [] p = ([], p) := rfl
  simp only [read, write, hcr]
  simp [bom, skipSpace_visible hc1, hp, trail]

end PhpCompletion.Json
