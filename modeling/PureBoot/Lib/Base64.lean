/-
  PureBoot.Lib.Base64 — BASE 64, as Python's `binascii` writes and reads it.

  Three bytes are written as four digits; what is missing in the last group is filled up with
  `=`.  The reader goes digit by digit, as the C code does: what is no digit is passed over,
  and enough padding ends the text, whatever follows.

  A safe is a form in which texts are kept, and from which they are read back.

  Main results:
    * `decode_encode` — every list of bytes is read back;
    * `openText_closeText` — every text is, through its bytes.
-/
import PureBoot.Lib.Hex

namespace PureBoot.Lib

/-- How texts are kept. -/
structure Safe (σ : Type) where
  store : String → σ
  /-- `none` where it raises. -/
  reveal : σ → Option String
  reveal_store : ∀ text, reveal (store text) = some text

/-- They are kept as they are. -/
def Safe.plain : Safe String := ⟨id, some, fun _ => rfl⟩

namespace Base64

/-! ## §1. Digits. -/

def alphabet : List Char :=
  "ABCDEFGHIJKLMNOPQRSTUVWXYZabcdefghijklmnopqrstuvwxyz0123456789+/".toList

def digit (n : Nat) : Char := alphabet.getD n '='

/-- The value of a digit. -/
def value (c : Char) : Option Nat := alphabet.findIdx? (fun d => d = c)

theorem value_digit {n : Nat} (h : n < 64) : value (digit n) = some n := by
  have hall : ∀ n ∈ List.range 64, value (digit n) = some n :=
    forall_mem_of_all (by decide +kernel)
  exact hall n (List.mem_range.mpr h)

theorem digit_ne_pad {n : Nat} (h : n < 64) : digit n ≠ '=' := by
  have hall : ∀ n ∈ List.range 64, digit n ≠ '=' := forall_mem_of_all (by decide +kernel)
  exact hall n (List.mem_range.mpr h)

/-! ## §2. Writing and reading. -/

/-- `binascii.b2a_base64(data, newline=False)`. -/
def encode : List UInt8 → List Char
  | [] => []
  | [a] => [digit (a.toNat / 4), digit (a.toNat % 4 * 16), '=', '=']
  | [a, b] =>
      [digit (a.toNat / 4), digit (a.toNat % 4 * 16 + b.toNat / 16), digit (b.toNat % 16 * 4), '=']
  | a :: b :: c :: rest =>
      digit (a.toNat / 4) :: digit (a.toNat % 4 * 16 + b.toNat / 16)
        :: digit (b.toNat % 16 * 4 + c.toNat / 64) :: digit (c.toNat % 64) :: encode rest

/-- `binascii.a2b_base64`, not strict: `place` digits of a group are read, of which the bits
`left` are not used yet, and `pads` signs of padding. -/
def decodeFrom (place left pads : Nat) : List Char → Option (List UInt8)
  | [] => if place = 0 then some [] else none
  | c :: rest =>
      if c = '=' then
        if place < 2 then decodeFrom place left pads rest
        else if 4 ≤ place + (pads + 1) then some []
        else decodeFrom place left (pads + 1) rest
      else
        match value c with
        | none => decodeFrom place left pads rest
        | some v =>
            match place with
            | 0 => decodeFrom 1 v 0 rest
            | 1 => (decodeFrom 2 (v % 16) 0 rest).map (UInt8.ofNat (left * 4 + v / 16) :: ·)
            | 2 => (decodeFrom 3 (v % 4) 0 rest).map (UInt8.ofNat (left * 16 + v / 4) :: ·)
            | _ => (decodeFrom 0 0 0 rest).map (UInt8.ofNat (left * 64 + v) :: ·)

def decode (text : List Char) : Option (List UInt8) := decodeFrom 0 0 0 text

variable {n left pads : Nat} {rest : List Char}

/-- The first digit of a group is kept, -/
theorem decodeFrom_first (h : n < 64) :
    decodeFrom 0 left pads (digit n :: rest) = decodeFrom 1 n 0 rest := by
  rw [decodeFrom, if_neg (digit_ne_pad h), value_digit h]
  rfl

/-- and each other one ends a byte. -/
theorem decodeFrom_second {b : UInt8} (h : n < 64) (hb : b.toNat = left * 4 + n / 16) :
    decodeFrom 1 left pads (digit n :: rest) = (decodeFrom 2 (n % 16) 0 rest).map (b :: ·) := by
  rw [decodeFrom, if_neg (digit_ne_pad h), value_digit h]
  rw [← UInt8.ofNat_toNat (x := b), hb]
  rfl

theorem decodeFrom_third {b : UInt8} (h : n < 64) (hb : b.toNat = left * 16 + n / 4) :
    decodeFrom 2 left pads (digit n :: rest) = (decodeFrom 3 (n % 4) 0 rest).map (b :: ·) := by
  rw [decodeFrom, if_neg (digit_ne_pad h), value_digit h]
  rw [← UInt8.ofNat_toNat (x := b), hb]
  rfl

theorem decodeFrom_fourth {b : UInt8} (h : n < 64) (hb : b.toNat = left * 64 + n) :
    decodeFrom 3 left pads (digit n :: rest) = (decodeFrom 0 0 0 rest).map (b :: ·) := by
  rw [decodeFrom, if_neg (digit_ne_pad h), value_digit h]
  rw [← UInt8.ofNat_toNat (x := b), hb]
  rfl

theorem decodeFrom_encode (data : List UInt8) :
    ∀ left pads, decodeFrom 0 left pads (encode data) = some data := by
  induction data using encode.induct with
  | case1 => exact fun _ _ => rfl
  | case2 a =>
      intro left pads
      have ha : a.toNat < 256 := a.toNat_lt_size
      rw [encode, decodeFrom_first (by omega), decodeFrom_second (b := a) (by omega) (by omega)]
      rfl
  | case3 a b =>
      intro left pads
      have ha : a.toNat < 256 := a.toNat_lt_size
      have hb : b.toNat < 256 := b.toNat_lt_size
      rw [encode, decodeFrom_first (by omega), decodeFrom_second (b := a) (by omega) (by omega),
        decodeFrom_third (b := b) (by omega) (by omega)]
      rfl
  | case4 a b c rest ih =>
      intro left pads
      have ha : a.toNat < 256 := a.toNat_lt_size
      have hb : b.toNat < 256 := b.toNat_lt_size
      have hc : c.toNat < 256 := c.toNat_lt_size
      rw [encode, decodeFrom_first (by omega), decodeFrom_second (b := a) (by omega) (by omega),
        decodeFrom_third (b := b) (by omega) (by omega),
        decodeFrom_fourth (b := c) (by omega) (by omega), ih]
      rfl

/-- **EVERY LIST OF BYTES IS READ BACK.** -/
theorem decode_encode (data : List UInt8) : decode (encode data) = some data :=
  decodeFrom_encode data 0 0

/-! ## §3. Texts. -/

/-- `text.encode()`. -/
def utf8 (text : String) : List UInt8 := text.toByteArray.data.toList

/-- `data.decode()`, unless it raises. -/
def ofUtf8 (data : List UInt8) : Option String := String.fromUTF8? ⟨data.toArray⟩

theorem ofUtf8_utf8 (text : String) : ofUtf8 (utf8 text) = some text := by
  have hbytes : (⟨text.toByteArray.data.toList.toArray⟩ : ByteArray) = text.toByteArray := rfl
  unfold ofUtf8 utf8
  rw [hbytes]
  unfold String.fromUTF8?
  rw [dif_pos text.isValidUTF8]
  rfl

/-- `base64.b64encode(text.encode()).decode()`. -/
def closeText (text : String) : String := String.ofList (encode (utf8 text))

/-- `base64.b64decode(text.encode()).decode()`, unless it raises. -/
def openText (text : String) : Option String := (decode text.toList).bind ofUtf8

/-- **EVERY TEXT IS READ BACK.** -/
theorem openText_closeText (text : String) : openText (closeText text) = some text := by
  unfold openText closeText
  rw [String.toList_ofList, decode_encode, Option.bind_some, ofUtf8_utf8]

end Base64

def Safe.base64 : Safe String := ⟨Base64.closeText, Base64.openText, Base64.openText_closeText⟩

end PureBoot.Lib
