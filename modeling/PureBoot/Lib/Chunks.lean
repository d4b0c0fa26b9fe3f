/-
  PureBoot.Lib.Chunks — reading a file in chunks.

  `read size` is Python's `f.read(size)` on what is left of the file: a negative size
  reads everything, and an empty answer means the end of the file.  `chunks size` is
  what a loop that reads until the end gets; with a positive size it cuts the file
  into full chunks and at most one shorter one at the end.
-/
import Mathlib.Tactic.Common

namespace PureBoot.Lib

variable {α : Type*}

/-! ## §1. One read. -/

/-- `f.read(size)`: what is read, and what is left. -/
def read (size : Int) (s : List α) : List α × List α :=
  if size < 0 then (s, []) else (s.take size.toNat, s.drop size.toNat)

theorem read_append (size : Int) (s : List α) : (read size s).1 ++ (read size s).2 = s := by
  unfold read
  split
  next => exact List.append_nil s
  next => exact List.take_append_drop _ s

theorem read_rest_length (size : Int) (s : List α) :
    (read size s).1.length + (read size s).2.length = s.length := by
  rw [← List.length_append, read_append]

/-- A read that is not the end of the file makes it shorter. -/
theorem read_shorter {size : Int} {s : List α} (h : (read size s).1 ≠ []) :
    (read size s).2.length < s.length := by
  have hlen := read_rest_length size s
  have hpos := List.length_pos_iff.mpr h
  omega

theorem read_of_nonneg {size : Int} (h : 0 ≤ size) (s : List α) :
    read size s = (s.take size.toNat, s.drop size.toNat) :=
  if_neg (by omega)

/-- With a size other than zero only the end of the file reads as empty. -/
theorem read_eq_nil {size : Int} (hsize : size ≠ 0) {s : List α} (h : (read size s).1 = []) :
    s = [] := by
  unfold read at h
  split at h
  next => exact h
  next hneg =>
    rcases List.take_eq_nil_iff.mp h with hzero | hnil
    · omega
    · exact hnil

/-! ## §2. Reading until the end. -/

/-- At most `fuel` reads that are not the end of the file. -/
def readAll (size : Int) : Nat → List α → List (List α)
  | 0, _ => []
  | fuel + 1, s =>
      match (read size s).1 with
      | [] => []
      | a :: chunk => (a :: chunk) :: readAll size fuel (read size s).2

/-- The chunks of a file. -/
def chunks (size : Int) (s : List α) : List (List α) :=
  readAll size s.length s

theorem readAll_of_read_nil {size : Int} {s : List α} (h : (read size s).1 = []) :
    ∀ fuel, readAll size fuel s = []
  | 0 => rfl
  | fuel + 1 => by
      unfold readAll
      rw [h]

theorem readAll_of_read_ne_nil {size : Int} {s : List α} (h : (read size s).1 ≠ []) (fuel : Nat) :
    readAll size (fuel + 1) s = (read size s).1 :: readAll size fuel (read size s).2 := by
  rw [readAll]
  cases hread : (read size s).1 with
  | nil => exact absurd hread h
  | cons a chunk => rfl

/-- Fuel beyond the length of the file makes no difference. -/
theorem readAll_fuel (size : Int) :
    ∀ (fuel fuel' : Nat) (s : List α), s.length ≤ fuel → s.length ≤ fuel' →
      readAll size fuel s = readAll size fuel' s := by
  intro fuel
  induction fuel with
  | zero =>
      intro fuel' s hs _
      obtain rfl : s = [] := List.eq_nil_of_length_eq_zero (by omega)
      have hend : (read size ([] : List α)).1 = [] :=
        (List.append_eq_nil_iff.mp (read_append size [])).1
      rw [readAll_of_read_nil hend, readAll_of_read_nil hend]
  | succ fuel ih =>
      intro fuel' s hs hs'
      by_cases hread : (read size s).1 = []
      · rw [readAll_of_read_nil hread, readAll_of_read_nil hread]
      · have hshort := read_shorter hread
        obtain ⟨n, rfl⟩ : ∃ n, fuel' = n + 1 := ⟨fuel' - 1, by omega⟩
        rw [readAll_of_read_ne_nil hread, readAll_of_read_ne_nil hread,
          ih n (read size s).2 (by omega) (by omega)]

/-- At the end of the file there are no more chunks. -/
theorem chunks_of_read_nil {size : Int} {s : List α} (h : (read size s).1 = []) :
    chunks size s = [] :=
  readAll_of_read_nil h s.length

/-- The first chunk is what the first read gets. -/
theorem chunks_of_read_ne_nil {size : Int} {s : List α} (h : (read size s).1 ≠ []) :
    chunks size s = (read size s).1 :: chunks size (read size s).2 := by
  have hshort := read_shorter h
  unfold chunks
  obtain ⟨n, hn⟩ : ∃ n, s.length = n + 1 := ⟨s.length - 1, by omega⟩
  rw [hn, readAll_of_read_ne_nil h,
    readAll_fuel size n (read size s).2.length _ (by omega) (by omega)]

/-- **THE CHUNKS MAKE UP THE FILE.** -/
theorem chunks_flatten {size : Int} (hsize : size ≠ 0) :
    ∀ s : List α, (chunks size s).flatten = s := by
  intro s
  induction hn : s.length using Nat.strongRecOn generalizing s with
  | _ n ih =>
      by_cases hread : (read size s).1 = []
      · rw [chunks_of_read_nil hread, read_eq_nil hsize hread]
        rfl
      · have hshort := read_shorter hread
        rw [chunks_of_read_ne_nil hread, List.flatten_cons,
          ih (read size s).2.length (by omega) (read size s).2 rfl, read_append]

/-! ## §3. A closing chunk. -/

/-- What is sent of the rest `s` of a file after the chunk `last`: the chunks, and an
empty one if the last of them was full, so that the end is always a chunk shorter than
`size`. -/
def closed (size : Int) (last : List α) (s : List α) : List (List α) :=
  chunks size s ++ (if (((chunks size s).getLast?).getD last).length = size then [[]] else [])

theorem closed_of_read_nil {size : Int} {last s : List α} (h : (read size s).1 = []) :
    closed size last s = if (last.length : Int) = size then [[]] else [] := by
  unfold closed
  rw [chunks_of_read_nil h]
  rfl

theorem closed_of_read_ne_nil {size : Int} {last s : List α} (h : (read size s).1 ≠ []) :
    closed size last s = (read size s).1 :: closed size (read size s).1 (read size s).2 := by
  unfold closed
  rw [chunks_of_read_ne_nil h, List.getLast?_cons, List.cons_append]
  rfl

theorem read_nat (n : Nat) (s : List α) : read (n : Int) s = (s.take n, s.drop n) := by
  rw [read_of_nonneg (by omega)]
  rfl

/-- A read that gets something is the next chunk. -/
theorem closed_of_ne_nil {n : Nat} (hn : 0 < n) {last s : List α} (hs : s ≠ []) :
    closed n last s = s.take n :: closed n (s.take n) (s.drop n) := by
  have hchunk : (read (n : Int) s).1 ≠ [] := by
    rw [read_nat]
    intro hnil
    rcases List.take_eq_nil_iff.mp hnil with hzero | hnil
    · omega
    · exact hs hnil
  rw [closed_of_read_ne_nil hchunk, read_nat]

theorem closed_nil (n : Nat) (last : List α) :
    closed n last [] = if last.length = n then [[]] else [] := by
  have hend : (read (n : Int) ([] : List α)).1 = [] :=
    (List.append_eq_nil_iff.mp (read_append _ [])).1
  rw [closed_of_read_nil hend]
  simp only [Int.natCast_inj]

/-- A file of one chunk, full or not. -/
theorem closed_of_le {n : Nat} (hn : 0 < n) {last s : List α} (hs : s ≠ []) (hle : s.length ≤ n) :
    closed n last s = s :: (if s.length = n then [[]] else []) := by
  rw [closed_of_ne_nil hn hs, List.take_of_length_le hle, List.drop_eq_nil_of_le hle, closed_nil]

/-- **THE END IS MARKED**: a file that is not empty is sent as full chunks followed by one
that is shorter, and there are `length / size` full ones. -/
theorem closed_shape {n : Nat} (hn : 0 < n) (last : List α) :
    ∀ {s : List α}, s ≠ [] → ∃ full short, closed n last s = full ++ [short] ∧
      (∀ c ∈ full, c.length = n) ∧ short.length < n ∧ full.length = s.length / n := by
  intro s
  induction hlen : s.length using Nat.strongRecOn generalizing s last with
  | _ m ih =>
      intro hs
      have hpos := List.length_pos_iff.mpr hs
      by_cases hle : s.length ≤ n
      · rw [closed_of_le hn hs hle]
        by_cases hfull : s.length = n
        · rw [if_pos hfull]
          refine ⟨[s], [], rfl, ?_, hn, ?_⟩
          · intro c hc
            rw [List.mem_singleton.mp hc]
            exact hfull
          · rw [← hlen, hfull, Nat.div_self hn]
            rfl
        · rw [if_neg hfull]
          refine ⟨[], s, rfl, ?_, by omega, ?_⟩
          · intro c hc
            cases hc
          · rw [← hlen, Nat.div_eq_of_lt (by omega)]
            rfl
      · -- a full chunk and the rest
        have hdrop : (s.drop n).length = s.length - n := List.length_drop
        have hrest : s.drop n ≠ [] := List.ne_nil_of_length_pos (by omega)
        obtain ⟨full, short, hclosed, hfull, hshort, hcount⟩ :=
          ih (s.drop n).length (by omega) (s.take n) rfl hrest
        refine ⟨s.take n :: full, short, ?_, ?_, hshort, ?_⟩
        · rw [closed_of_ne_nil hn hs, hclosed]
          rfl
        · intro c hc
          rcases List.mem_cons.mp hc with rfl | hc
          · rw [List.length_take]
            omega
          · exact hfull c hc
        · have hdiv : s.length / n = (s.length - n) / n + 1 := by
            rw [Nat.div_eq_sub_div hn (by omega)]
          rw [List.length_cons, hcount, hdrop, ← hlen, hdiv]

theorem closed_flatten {size : Int} (hsize : size ≠ 0) (last s : List α) :
    (closed size last s).flatten = s := by
  unfold closed
  rw [List.flatten_append, chunks_flatten hsize]
  split
  next => exact List.append_nil s
  next => exact List.append_nil s

/-! ## §4. Pages. -/

/-- **PAGES** of one size, one after another, are the list. -/
theorem flatMap_pages (size : Nat) (l : List α) {n : Nat} (h : l.length ≤ n * size) :
    (List.range n).flatMap (fun i => (l.drop (i * size)).take size) = l := by
  have htake : ∀ k, (List.range k).flatMap (fun i => (l.drop (i * size)).take size)
      = l.take (k * size) := by
    intro k
    induction k with
    | zero => rw [Nat.zero_mul, List.take_zero]; rfl
    | succ k ih =>
        rw [List.range_succ, List.flatMap_append, ih, Nat.succ_mul, List.take_add,
          List.flatMap_singleton]
  rw [htake, List.take_of_length_le h]

end PureBoot.Lib
