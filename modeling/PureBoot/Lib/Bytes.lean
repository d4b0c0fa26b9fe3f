/-
  PureBoot.Lib.Bytes — BYTE STRINGS: numbers in network order, ASCII text, texts that
  end in a mark, and slices of a buffer.

  Bytes are `UInt8`, a byte string is a list of them.  A writer that can refuse its
  argument returns `none` for the exception.

  Main results:
    * `unpackBe16_be16` — a 16-bit number comes back;
    * `decodeAscii_encodeAscii` — so does an ASCII text;
    * `splitOn_terminated` — texts that end in a mark are found again by splitting;
    * `slice_setSlice`, `take_setSlice` — what is written into a slice is read back.
-/
import Mathlib.Tactic.Common

namespace PureBoot.Lib

/-! ## §1. Numbers. -/

/-- A 16-bit number in network order. -/
def be16 (n : Nat) : List UInt8 := [UInt8.ofNat (n / 256), UInt8.ofNat (n % 256)]

/-- `struct.pack("!H", n)`. -/
def packBe16 (n : Nat) : Option (List UInt8) := if n < 65536 then some (be16 n) else none

/-- `struct.unpack("!H", bytes)`: two bytes, no more and no less. -/
def unpackBe16 : List UInt8 → Option Nat
  | [hi, lo] => some (hi.toNat * 256 + lo.toNat)
  | _ => none

theorem packBe16_of_lt {n : Nat} (h : n < 65536) : packBe16 n = some (be16 n) := if_pos h

theorem take_be16 (n : Nat) (rest : List UInt8) : (be16 n ++ rest).take 2 = be16 n := rfl

theorem drop_be16 (n : Nat) (rest : List UInt8) : (be16 n ++ rest).drop 2 = rest := rfl

/-- **A NUMBER COMES BACK.** -/
theorem unpackBe16_be16 {n : Nat} (h : n < 65536) : unpackBe16 (be16 n) = some n := by
  have hhi : (UInt8.ofNat (n / 256)).toNat = n / 256 :=
    UInt8.toNat_ofNat_of_lt' (by show n / 256 < 256; omega)
  have hlo : (UInt8.ofNat (n % 256)).toNat = n % 256 :=
    UInt8.toNat_ofNat_of_lt' (by show n % 256 < 256; omega)
  rw [be16, unpackBe16, hhi, hlo]
  congr 1
  omega

/-! ## §2. ASCII. -/

def asciiByte (c : Char) : UInt8 := UInt8.ofNat c.toNat

def asciiChar (b : UInt8) : Char := Char.ofNat b.toNat

/-- `text.encode("ascii")`. -/
def encodeAscii (text : List Char) : Option (List UInt8) :=
  if text.all (fun c => c.toNat < 128) then some (text.map asciiByte) else none

/-- `bytes.decode("ascii")`. -/
def decodeAscii (bytes : List UInt8) : Option (List Char) :=
  if bytes.all (fun b => b.toNat < 128) then some (bytes.map asciiChar) else none

/-- `bytes.decode("ascii", errors="ignore")`. -/
def decodeAsciiIgnore (bytes : List UInt8) : List Char :=
  (bytes.filter (fun b => b.toNat < 128)).map asciiChar

/-- The text is ASCII. -/
def IsAscii (text : List Char) : Prop := ∀ c ∈ text, c.toNat < 128

instance (text : List Char) : Decidable (IsAscii text) :=
  List.decidableBAll (fun c : Char => c.toNat < 128) text

theorem IsAscii.append {left right : List Char} (hl : IsAscii left) (hr : IsAscii right) :
    IsAscii (left ++ right) := by
  intro c hc
  rcases List.mem_append.mp hc with hc | hc
  · exact hl c hc
  · exact hr c hc

theorem toNat_asciiByte {c : Char} (h : c.toNat < 128) : (asciiByte c).toNat = c.toNat :=
  UInt8.toNat_ofNat_of_lt' (by show c.toNat < 256; omega)

theorem asciiChar_asciiByte {c : Char} (h : c.toNat < 128) : asciiChar (asciiByte c) = c := by
  unfold asciiChar
  rw [toNat_asciiByte h, Char.ofNat_toNat]

theorem encodeAscii_of_isAscii {text : List Char} (h : IsAscii text) :
    encodeAscii text = some (text.map asciiByte) := by
  unfold encodeAscii
  rw [if_pos]
  simpa [IsAscii] using h

/-- **AN ASCII TEXT COMES BACK.** -/
theorem decodeAscii_encodeAscii {text : List Char} (h : IsAscii text) :
    decodeAscii (text.map asciiByte) = some text := by
  unfold decodeAscii
  have hall : (text.map asciiByte).all (fun b => b.toNat < 128) = true := by
    rw [List.all_map, List.all_eq_true]
    intro c hc
    show decide ((asciiByte c).toNat < 128) = true
    rw [toNat_asciiByte (h c hc), decide_eq_true_eq]
    exact h c hc
  have hmap : (text.map asciiByte).map asciiChar = text := by
    rw [List.map_map]
    conv_rhs => rw [← List.map_id text]
    exact List.map_congr_left (fun c hc => asciiChar_asciiByte (h c hc))
  rw [if_pos hall, hmap]

/-- No byte of an ASCII text is the one of a character that is not in it. -/
theorem asciiByte_notMem {text : List Char} {c : Char} (h : IsAscii text) (hc : c.toNat < 128)
    (hnot : c ∉ text) : asciiByte c ∉ text.map asciiByte := by
  intro hmem
  obtain ⟨d, hd, heq⟩ := List.mem_map.mp hmem
  have hdc : d = c := by
    rw [← asciiChar_asciiByte (h d hd), heq, asciiChar_asciiByte hc]
  exact hnot (hdc ▸ hd)

/-! ## §3. Texts with a mark behind each. -/

section Terminated

variable {α : Type*}

/-- Each text with the mark behind it. -/
def terminated (mark : α) (texts : List (List α)) : List α :=
  texts.flatMap (fun text => text ++ [mark])

theorem terminated_cons (mark : α) (text : List α) (texts : List (List α)) :
    terminated mark (text :: texts) = text ++ mark :: terminated mark texts := by
  unfold terminated
  rw [List.flatMap_cons, List.append_assoc]
  rfl

/-- **SPLITTING AT THE MARK** finds the texts again, and what is behind the last mark. -/
theorem splitOn_terminated [BEq α] [LawfulBEq α] {mark : α} {texts : List (List α)}
    (h : ∀ text ∈ texts, mark ∉ text) (rest : List α) :
    (terminated mark texts ++ rest).splitOn mark = texts ++ rest.splitOn mark := by
  induction texts with
  | nil => rfl
  | cons text texts ih =>
      have htext : text.splitOn mark = [text] :=
        List.splitOn_eq_singleton (h text List.mem_cons_self)
      rw [terminated_cons, List.append_assoc, List.cons_append, List.splitOn_append_cons_self,
        htext, ih (fun t ht => h t (List.mem_cons_of_mem text ht))]
      rfl

end Terminated

/-! ## §4. Slices of a buffer. -/

section Slices

variable {α : Type*}

/-- `buffer[i:j]`. -/
def slice (i j : Nat) (buffer : List α) : List α := (buffer.take j).drop i

/-- `buffer[i:j] = value`: the rest moves if the value has another size. -/
def setSlice (i j : Nat) (value buffer : List α) : List α :=
  buffer.take i ++ value ++ buffer.drop (max i j)

/-- A slice of the first bytes. -/
theorem slice_take {n a b : Nat} {buffer : List α} (hb : b ≤ n) :
    slice a b (buffer.take n) = slice a b buffer := by
  unfold slice
  rw [List.take_take, Nat.min_eq_left hb]

/-- The value fits into its slice: nothing else moves. -/
structure FitsSlice (i j : Nat) (value buffer : List α) : Prop where
  order : i ≤ j
  size : value.length = j - i
  room : j ≤ buffer.length

variable {i j a b : Nat} {value buffer : List α}

theorem length_setSlice (h : FitsSlice i j value buffer) :
    (setSlice i j value buffer).length = buffer.length := by
  have horder := h.order
  have hroom := h.room
  unfold setSlice
  rw [Nat.max_eq_right horder, List.length_append, List.length_append, List.length_take,
    List.length_drop, h.size]
  omega

/-- **UP TO ITS END** a buffer is what it was and the value. -/
theorem take_setSlice (h : FitsSlice i j value buffer) :
    (setSlice i j value buffer).take j = buffer.take i ++ value := by
  have horder := h.order
  have hroom := h.room
  have hlen : (buffer.take i ++ value).length = j := by
    rw [List.length_append, List.length_take, h.size]
    omega
  unfold setSlice
  exact List.take_left' hlen

theorem take_setSlice_of_le (h : FitsSlice i j value buffer) (ha : a ≤ i) :
    (setSlice i j value buffer).take a = buffer.take a := by
  have hlen : a ≤ (buffer.take i).length := by
    have horder := h.order
    have hroom := h.room
    rw [List.length_take]
    omega
  unfold setSlice
  rw [List.append_assoc, List.take_append_of_le_length hlen, List.take_take,
    Nat.min_eq_left ha]

theorem getElem?_setSlice_of_lt {k : Nat} (h : FitsSlice i j value buffer) (hk : k < i) :
    (setSlice i j value buffer)[k]? = buffer[k]? := by
  rw [← List.getElem?_take_of_lt hk, take_setSlice_of_le h (Nat.le_refl i),
    List.getElem?_take_of_lt hk]

/-- **THE VALUE IS READ BACK.** -/
theorem slice_setSlice (h : FitsSlice i j value buffer) :
    slice i j (setSlice i j value buffer) = value := by
  have hlen : (buffer.take i).length = i := by
    have horder := h.order
    have hroom := h.room
    rw [List.length_take]
    omega
  unfold slice
  rw [take_setSlice h]
  exact List.drop_left' hlen

/-- What is before the slice is as it was. -/
theorem slice_setSlice_of_le (h : FitsSlice i j value buffer) (hb : b ≤ i) :
    slice a b (setSlice i j value buffer) = slice a b buffer := by
  unfold slice
  rw [take_setSlice_of_le h hb]

end Slices

end PureBoot.Lib
