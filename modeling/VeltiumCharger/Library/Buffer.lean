import Mathlib.Data.List.TakeWhile
import Mathlib.Tactic.Common

/-!
# Buffers written piece by piece

A buffer is a function of the place.  Texts are appended to it by writing at
the end of what has been written, possibly over a terminator; the text it holds
ends at its first terminator.
-/

namespace VeltiumCharger.Buffer

universe u

variable {α : Type u}

/-- Copy `cells` to the places from `at` on. -/
def write (start : Nat) (cells : List α) (mem : Nat → α) (k : Nat) : α :=
  if start ≤ k then (cells[k - start]?).getD (mem k) else mem k

/-- The first cells of the buffer are those of `text`. -/
def Begins (mem : Nat → α) (text : List α) : Prop :=
  ∀ k, k < text.length → text[k]? = some (mem k)

section Write

variable {start : Nat} {cells text more : List α} {mem : Nat → α}

theorem write_of_lt {k : Nat} (before : k < start) : write start cells mem k = mem k := by
  rw [write, if_neg (Nat.not_le_of_lt before)]

theorem write_of_ge {k : Nat} (behind : start + cells.length ≤ k) :
    write start cells mem k = mem k := by
  rw [write, if_pos (by omega), List.getElem?_eq_none (by omega), Option.getD_none]

theorem write_inside {k : Nat} (inside : k < cells.length) :
    cells[k]? = some (write start cells mem (start + k)) := by
  rw [write, if_pos (Nat.le_add_right _ _), Nat.add_sub_cancel_left,
    List.getElem?_eq_getElem inside, Option.getD_some]

theorem write_singleton {cell : α} {k : Nat} :
    write start [cell] mem k = if k = start then cell else mem k := by
  obtain before | rfl | behind := Nat.lt_trichotomy k start
  · rw [write_of_lt before, if_neg before.ne]
  · rw [if_pos rfl, write, if_pos le_rfl, Nat.sub_self]
    rfl
  · rw [write_of_ge (by rw [List.length_singleton]; omega), if_neg behind.ne']

theorem begins_nil : Begins mem [] :=
  fun _ below => absurd below (Nat.not_lt_zero _)

theorem Begins.left (begins : Begins mem (text ++ more)) : Begins mem text := by
  intro k below
  have cell := begins k (by rw [List.length_append]; omega)
  rwa [List.getElem?_append_left below] at cell

theorem Begins.right (begins : Begins mem (text ++ more)) :
    Begins (fun k => mem (text.length + k)) more := by
  intro k below
  have cell := begins (text.length + k) (by rw [List.length_append]; omega)
  rwa [List.getElem?_append_right (Nat.le_add_right _ _), Nat.add_sub_cancel_left] at cell

theorem begins_append_iff : Begins mem (text ++ more) ↔
    Begins mem text ∧ Begins (fun k => mem (text.length + k)) more := by
  refine ⟨fun begins => ⟨begins.left, begins.right⟩, fun ⟨left, right⟩ k below => ?_⟩
  by_cases before : k < text.length
  · rw [List.getElem?_append_left before]
    exact left k before
  · rw [List.length_append] at below
    have cell : more[k - text.length]? = some (mem (text.length + (k - text.length))) :=
      right (k - text.length) (by omega)
    rwa [Nat.add_sub_cancel' (Nat.le_of_not_lt before),
      ← List.getElem?_append_right (Nat.le_of_not_lt before)] at cell

theorem Begins.eq_map (begins : Begins mem text) : (List.range text.length).map mem = text := by
  apply List.ext_getElem?
  intro k
  by_cases below : k < text.length
  · rw [List.getElem?_map, List.getElem?_range below, begins k below, Option.map_some]
  · rw [List.getElem?_eq_none (by simpa using below), List.getElem?_eq_none (by omega)]

/-- The cells from a place of the text on. -/
theorem Begins.drop (begins : Begins mem text) {n : Nat} (inside : n ≤ text.length) :
    Begins (fun k => mem (n + k)) (text.drop n) := by
  have parts : Begins mem (text.take n ++ text.drop n) := by rwa [List.take_append_drop]
  have behind := parts.right
  rwa [List.length_take, Nat.min_eq_left inside] at behind

/-- The first cells of the text. -/
theorem Begins.take (begins : Begins mem text) {n : Nat} (inside : n ≤ text.length) :
    (List.range n).map mem = text.take n := by
  have parts : Begins mem (text.take n ++ text.drop n) := by rwa [List.take_append_drop]
  have first := parts.left.eq_map
  rwa [List.length_take, Nat.min_eq_left inside] at first

theorem begins_singleton_iff {cell : α} : Begins mem [cell] ↔ mem 0 = cell := by
  refine ⟨fun begins => (Option.some.inj (begins 0 Nat.one_pos)).symm, fun same k below => ?_⟩
  obtain rfl : k = 0 := Nat.lt_one_iff.mp below
  rw [same]
  rfl

/-- Writing behind a text appends to it. -/
theorem Begins.write (begins : Begins mem text) (more : List α) :
    Begins (write text.length more mem) (text ++ more) := by
  intro k below
  by_cases before : k < text.length
  · rw [List.getElem?_append_left before, write_of_lt before]
    exact begins k before
  · rw [List.length_append] at below
    rw [List.getElem?_append_right (by omega), write_inside (by omega),
      Nat.add_sub_cancel' (by omega)]

theorem begins_write_zero (cells : List α) (mem : Nat → α) :
    Begins (Buffer.write 0 cells mem) cells := by
  intro k below
  have written : cells[k]? = some (Buffer.write 0 cells mem (0 + k)) := write_inside below
  rwa [Nat.zero_add] at written

theorem begins_map_range (mem : Nat → α) (size : Nat) : Begins mem ((List.range size).map mem) := by
  intro k below
  rw [List.length_map, List.length_range] at below
  rw [List.getElem?_map, List.getElem?_range below, Option.map_some]

theorem begins_getD (text : List α) (value : α) : Begins (fun k => text.getD k value) text := by
  intro k below
  change _ = some (text.getD k value)
  rw [List.getD_eq_getElem?_getD, List.getElem?_eq_getElem below, Option.getD_some]

theorem write_nil : Buffer.write start [] mem = mem := by
  funext k
  by_cases before : k < start
  · exact write_of_lt before
  · exact write_of_ge (by rw [List.length_nil]; omega)

/-- Writing in two pieces. -/
theorem write_append : Buffer.write start (cells ++ more) mem =
    Buffer.write (start + cells.length) more (Buffer.write start cells mem) := by
  funext k
  simp only [Buffer.write]
  by_cases before : k < start
  · rw [if_neg (by omega), if_neg (by omega), if_neg (by omega)]
  · by_cases first : k < start + cells.length
    · rw [if_pos (by omega), if_neg (by omega), if_pos (by omega),
        List.getElem?_append_left (by omega)]
    · rw [if_pos (by omega), if_pos (by omega), if_pos (by omega),
        List.getElem?_append_right (by omega), List.getElem?_eq_none (l := cells) (by omega),
        Option.getD_none]
      rw [show k - start - cells.length = k - (start + cells.length) by omega]

/-- A place outside the cells keeps what it held. -/
theorem write_outside {k : Nat} (outside : k < start ∨ start + cells.length ≤ k) :
    Buffer.write start cells mem k = mem k :=
  outside.elim write_of_lt write_of_ge

/-- Pieces that do not meet can be written in any order. -/
theorem write_comm {other : Nat} (apart : start + cells.length ≤ other ∨
    other + more.length ≤ start) :
    Buffer.write start cells (Buffer.write other more mem) =
      Buffer.write other more (Buffer.write start cells mem) := by
  have same : ∀ {start k} {cells : List α} {mem mem' : Nat → α}, mem k = mem' k →
      Buffer.write start cells mem k = Buffer.write start cells mem' k := by
    intro start k cells mem mem' equal
    rw [Buffer.write, Buffer.write, equal]
  funext k
  by_cases first : start ≤ k ∧ k < start + cells.length
  · have outside : k < other ∨ other + more.length ≤ k := by omega
    rw [write_outside outside]
    exact same (write_outside outside)
  · have outside : k < start ∨ start + cells.length ≤ k := by omega
    rw [write_outside outside]
    exact (same (write_outside outside)).symm

/-- A text written from the beginning covers what was written within it. -/
theorem write_cover (within : start + cells.length ≤ text.length) :
    Buffer.write 0 text (Buffer.write start cells mem) = Buffer.write 0 text mem := by
  funext k
  by_cases inside : k < text.length
  · have cell := @begins_write_zero _ text (Buffer.write start cells mem) k inside
    have cell' := @begins_write_zero _ text mem k inside
    rw [cell] at cell'
    exact Option.some.inj cell'
  · rw [write_of_ge (by omega), write_of_ge (by omega), write_of_ge (by omega)]

/-- Writing what is there already. -/
theorem Begins.write_zero (begins : Begins mem text) : Buffer.write 0 text mem = mem := by
  funext k
  by_cases inside : k < text.length
  · have cell := @begins_write_zero _ text mem k inside
    rw [begins k inside] at cell
    exact (Option.some.inj cell).symm
  · exact write_of_ge (by omega)

/-- Writing cells of another buffer to the places they have there. -/
theorem write_of_begins {other : Nat → α} (begins : Begins (fun k => other (start + k)) cells)
    (k : Nat) : Buffer.write start cells mem k =
      if start ≤ k ∧ k < start + cells.length then other k else mem k := by
  split_ifs with inside
  · have same : cells[k - start]? = some (Buffer.write start cells mem (start + (k - start))) :=
      write_inside (by omega)
    rw [begins _ (by omega)] at same
    dsimp only at same
    rw [Nat.add_sub_cancel' inside.1] at same
    exact (Option.some.inj same).symm
  · by_cases before : k < start
    · exact write_of_lt before
    · exact write_of_ge (by omega)

/-- Writing changes nothing exactly when the cells are there. -/
theorem write_eq_self_iff :
    Buffer.write start cells mem = mem ↔ Begins (fun k => mem (start + k)) cells := by
  constructor
  · intro same k below
    have cell : cells[k]? = some (Buffer.write start cells mem (start + k)) := write_inside below
    rwa [same] at cell
  · intro begins
    funext k
    rw [write_of_begins begins]
    split_ifs <;> rfl

end Write

/-- Two lists that are the same but for one place. -/
theorem exists_append_of_eq_but_one {first second : List α} {k : Nat}
    (largo : first.length = second.length) (dentro : k < first.length)
    (igual : ∀ j, j ≠ k → first[j]? = second[j]?) :
    ∃ antes byte otro detras, first = antes ++ byte :: detras ∧
      second = antes ++ otro :: detras ∧ antes.length = k := by
  have hantes : first.take k = second.take k := by
    apply List.ext_getElem?
    intro j
    simp only [List.getElem?_take]
    split_ifs with antes
    · exact igual j antes.ne
    · rfl
  have hdetras : first.drop (k + 1) = second.drop (k + 1) := by
    apply List.ext_getElem?
    intro j
    rw [List.getElem?_drop, List.getElem?_drop]
    exact igual _ (by omega)
  refine ⟨first.take k, first[k], second[k], first.drop (k + 1), ?_, ?_, ?_⟩
  · rw [← List.drop_eq_getElem_cons dentro, List.take_append_drop]
  · rw [hantes, hdetras, ← List.drop_eq_getElem_cons (largo ▸ dentro), List.take_append_drop]
  · rw [List.length_take, Nat.min_eq_left dentro.le]

section Range

variable {size : Nat} {text : List α} {mem : Nat → α}

/-- The first cells of a buffer that begins with a text. -/
theorem map_range_of_begins (begins : Begins mem text) (fits : text.length ≤ size) :
    (List.range size).map mem =
      text ++ (List.range (size - text.length)).map fun k => mem (text.length + k) := by
  apply List.ext_getElem?
  intro k
  by_cases before : k < text.length
  · rw [List.getElem?_append_left before, begins k before, List.getElem?_map,
      List.getElem?_range (by omega), Option.map_some]
  · rw [List.getElem?_append_right (by omega), List.getElem?_map, List.getElem?_map]
    by_cases inside : k < size
    · rw [List.getElem?_range inside, List.getElem?_range (by omega), Option.map_some,
        Option.map_some, Nat.add_sub_cancel' (by omega)]
    · rw [List.getElem?_eq_none (by simpa using inside), List.getElem?_eq_none (by simp; omega)]
      rfl

theorem stop_mem_of_begins {stop : α} (begins : Begins mem (text ++ [stop]))
    (fits : text.length < size) :
    stop ∈ (List.range size).map mem := by
  rw [map_range_of_begins begins (by rwa [List.length_append])]
  simp

/-- A copy of the first cells of a buffer. -/
theorem write_map_range {other : Nat → α} {k : Nat} :
    Buffer.write 0 ((List.range size).map mem) other k = if k < size then mem k else other k := by
  split_ifs with inside
  · have cell := @write_inside _ 0 ((List.range size).map mem) other k (by simpa using inside)
    simpa [inside] using cell.symm
  · exact write_of_ge (by simpa using inside)

end Range

/-! ## Terminated texts -/

section Terminated

variable [DecidableEq α]

/-- The text a buffer of `size` cells holds, up to its first `stop`. -/
def cString (stop : α) (size : Nat) (mem : Nat → α) : List α :=
  ((List.range size).map mem).takeWhile (· != stop)

variable {stop : α} {size : Nat} {text : List α} {mem : Nat → α}

/-- A text without terminator is the beginning of what the buffer holds. -/
theorem prefix_cString (begins : Begins mem text) (clean : stop ∉ text)
    (fits : text.length ≤ size) : text <+: cString stop size mem := by
  have keeps : ∀ cell ∈ text, (cell != stop) = true := by
    intro cell member
    rw [bne_iff_ne]
    rintro rfl
    exact clean member
  rw [cString, map_range_of_begins begins fits, List.takeWhile_append_of_pos keeps]
  exact List.prefix_append _ _

/-- The text ends at the terminator behind it. -/
theorem cString_of_begins (begins : Begins mem (text ++ [stop])) (clean : stop ∉ text)
    (fits : text.length < size) : cString stop size mem = text := by
  have keeps : ∀ cell ∈ text, (cell != stop) = true := by
    intro cell member
    rw [bne_iff_ne]
    rintro rfl
    exact clean member
  rw [cString, map_range_of_begins begins (by rwa [List.length_append]), List.append_assoc,
    List.takeWhile_append_of_pos keeps]
  simp

theorem begins_cString (stop : α) (size : Nat) (mem : Nat → α) :
    Begins mem (cString stop size mem) := by
  apply @Begins.left _ _ (((List.range size).map mem).dropWhile (· != stop))
  rw [cString, List.takeWhile_append_dropWhile]
  exact begins_map_range mem size

/-- The text does not go beyond a terminator. -/
theorem length_cString_le {k : Nat} (stops : mem k = stop) :
    (cString stop size mem).length ≤ k := by
  by_contra longer
  have cell := begins_cString stop size mem k (Nat.lt_of_not_le longer)
  rw [stops] at cell
  have goesOn := List.mem_takeWhile_imp (List.mem_of_getElem? cell)
  rw [bne_self_eq_false] at goesOn
  exact absurd goesOn Bool.false_ne_true

theorem stop_not_mem_cString : stop ∉ cString stop size mem := by
  intro inside
  have goesOn := List.mem_takeWhile_imp inside
  rw [bne_self_eq_false] at goesOn
  exact absurd goesOn Bool.false_ne_true

/-- A buffer with a terminator is its text, the terminator and the rest. -/
theorem exists_eq_cString_append (stops : stop ∈ (List.range size).map mem) :
    ∃ rest, (List.range size).map mem = cString stop size mem ++ stop :: rest := by
  have split := @List.takeWhile_append_dropWhile _ (· != stop) ((List.range size).map mem)
  cases tail : ((List.range size).map mem).dropWhile (· != stop) with
  | nil =>
    have keeps := List.dropWhile_eq_nil_iff.mp tail stop stops
    rw [bne_self_eq_false] at keeps
    exact absurd keeps Bool.false_ne_true
  | cons first rest =>
    have head := @List.head_dropWhile_not _ (· != stop) ((List.range size).map mem)
      (by rw [tail]; exact List.cons_ne_nil _ _)
    simp only [tail, List.head_cons, bne_eq_false_iff_eq] at head
    rw [tail, head] at split
    exact ⟨rest, split.symm⟩

/-- The text of a buffer that has a terminator. -/
theorem cString_eq_iff (stops : stop ∈ (List.range size).map mem) :
    cString stop size mem = text ↔
      stop ∉ text ∧ text.length < size ∧ Begins mem (text ++ [stop]) := by
  constructor
  · rintro rfl
    obtain ⟨rest, split⟩ := exists_eq_cString_append stops
    have whole := begins_map_range mem size
    refine ⟨stop_not_mem_cString, ?_, ?_⟩
    · have same := congrArg List.length split
      simp only [List.length_map, List.length_range, List.length_append, List.length_cons] at same
      omega
    · rw [split, ← List.singleton_append, ← List.append_assoc] at whole
      exact whole.left
  · rintro ⟨clean, fits, begins⟩
    exact cString_of_begins begins clean fits

end Terminated

/-! ## Records of a fixed length -/

/-- The first `count` records, one after the other. -/
def records (count : Nat) (record : Nat → List α) : List α :=
  (List.range count).flatMap record

section Records

variable {count width : Nat} {record : Nat → List α}

theorem records_zero : records 0 record = [] :=
  rfl

theorem records_succ : records (count + 1) record = records count record ++ record count := by
  simp [records, List.range_succ]

theorem length_records (same : ∀ i, i < count → (record i).length = width) :
    (records count record).length = count * width := by
  induction count with
  | zero => simp [records_zero]
  | succ count ih =>
      rw [records_succ, List.length_append, ih fun i below => same i (by omega),
        same count (Nat.lt_succ_self count), Nat.succ_mul]

/-- Each cell of a record is found at its offset. -/
theorem getElem?_records (same : ∀ i, i < count → (record i).length = width) {i j : Nat}
    (below : i < count) (inside : j < width) :
    (records count record)[i * width + j]? = (record i)[j]? := by
  induction count with
  | zero => omega
  | succ count ih =>
      have earlier : ∀ i, i < count → (record i).length = width :=
        fun i below => same i (by omega)
      rw [records_succ]
      rcases Nat.lt_succ_iff_lt_or_eq.mp below with before | rfl
      · have room : i * width + j < count * width := by
          calc
            i * width + j < i * width + width := by omega
            _ = (i + 1) * width := (Nat.succ_mul i width).symm
            _ ≤ count * width := Nat.mul_le_mul_right width before
        rw [List.getElem?_append_left (by rwa [length_records earlier]), ih earlier before]
      · rw [List.getElem?_append_right (by rw [length_records earlier]; omega),
          length_records earlier, Nat.add_sub_cancel_left]

/-- A buffer that begins with records behind a header holds each at its place. -/
theorem Begins.at_record {mem : Nat → α} {header : List α}
    (begins : Begins mem (header ++ records count record))
    (same : ∀ i, i < count → (record i).length = width) {i j : Nat} (below : i < count)
    (inside : j < width) : (record i)[j]? = some (mem (header.length + i * width + j)) := by
  have room : i * width + j < count * width := by
    calc
      i * width + j < i * width + width := by omega
      _ = (i + 1) * width := (Nat.succ_mul i width).symm
      _ ≤ count * width := Nat.mul_le_mul_right width below
  have cell := begins.right (i * width + j) (by rwa [length_records same])
  rw [getElem?_records same below inside] at cell
  rwa [Nat.add_assoc]

theorem mem_records {cell : α} :
    cell ∈ records count record ↔ ∃ i, i < count ∧ cell ∈ record i := by
  simp [records]

end Records

end VeltiumCharger.Buffer
