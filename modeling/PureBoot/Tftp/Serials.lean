/-
  PureBoot.Tftp.Serials — three validators of the SERIAL NUMBER of a Raspberry Pi.

  A serial number is eight hexadecimal digits.  `pxe/pi_manager.py: validate_serial` and
  `PiRegisterRequest.validate_serial` of `api/schemas.py` match a pattern, which lets a
  newline pass at the end; `NFSManager.validate_serial` of `core/nfs_manager.py` counts
  characters and asks whether `int(serial, 16)` raises, and `int` reads more than digits.

  Main results:
    * `validateSerial_iff`, `nfsValidateSerial_iff` — the language of each;
    * `serials_iff` — the texts on which the three agree with the definition.
-/
import PureBoot.Lib.IntText
import PureBoot.Lib.Run
import PureBoot.Tftp.PiBoot

namespace PureBoot.Tftp

open PureBoot.Lib

/-! ## §1. The validators. -/

section Validators

variable (u : Unicode) (data : CharData)

/-- `PiRegisterRequest.validate_serial`. -/
def piRegisterValidateSerial (v : List Char) : Except PiError (List Char) :=
  let normalized := u.lower v
  if serialPattern normalized then .ok normalized
  else .error (.valueError ("Invalid Pi serial number: ".toList ++ v
    ++ ". Must be exactly 8 hexadecimal characters.".toList))

/-- `NFSManager.validate_serial`. -/
def nfsValidateSerial (serial : List Char) : Bool :=
  if serial.isEmpty || serial.length ≠ 8 then false
  else (Radix.hex.intOf data serial).isSome

/-- `NFSManager.get_node_path`; a serial number that was accepted is one name. -/
def getNodePath (nodesPath : AbsPath) (serial : List Char) : Except PiError AbsPath :=
  if nfsValidateSerial data serial then .ok (nodesPath.enter (u.lower serial))
  else .error (.valueError ("Invalid serial number: ".toList ++ serial))

/-! ## §2. The law. -/

/-- Eight hexadecimal digits and nothing else. -/
structure IsSerial (text : List Char) : Prop where
  length : text.length = 8
  digits : ∀ c ∈ text, isHexDigit c = true

/-- All three accept it. -/
def AllAccept (text : List Char) : Prop :=
  validateSerial u text = true ∧ (piRegisterValidateSerial u text).isOk = true
    ∧ nfsValidateSerial data text = true

/-- **THE SAME LANGUAGE**, for one text. -/
structure SameLanguage (nodesPath : AbsPath) (text : List Char) : Prop where
  manager : validateSerial u text = true ↔ IsSerial text
  schema : (piRegisterValidateSerial u text).isOk = true ↔ IsSerial text
  nfs : nfsValidateSerial data text = true ↔ IsSerial text
  /-- The directory it names is one for all. -/
  directory : ∀ path, getNodePath u data nodesPath text = .ok path →
    ∃ name, path = nodesPath.enter name ∧ AllAccept u data name

/-- A newline after a serial number. -/
def SerialNewline (text : List Char) : Prop := ∃ serial, IsSerial serial ∧ text = serial ++ ['\n']

/-- A literal of eight characters that is not eight digits: with blanks, a sign, a `0x`, an
underscore or a digit that is not ASCII. -/
def OddLiteral (text : List Char) : Prop :=
  text.length = 8 ∧ Radix.hex.Literal (text.map data.ascii) ∧ ¬ IsSerial text

/-- What `lower` makes a digit or a newline of is ASCII, as Unicode has it. -/
def LowersAscii : Prop :=
  ∀ text, (∀ c ∈ u.lower text, isHex c = true ∨ c = '\n') → ∀ c ∈ text, c.toNat < 128

end Validators

/-! ## §3. The patterns. -/

section

variable {u : Unicode} {data : CharData}

theorem toLower_hexDigits : ∀ c ∈ hexDigits,
    isHex c.toLower = true ∧ c.toNat < 128 ∧ isHexDigit c.toLower = true :=
  forall_mem_of_all (by decide)

/-- The ASCII characters whose lower case is a digit or a newline. -/
theorem of_toLower {c : Char} (hc : c.toNat < 128) :
    (isHex c.toLower = true → isHexDigit c = true) ∧ (c.toLower = '\n' → c = '\n') := by
  have hall : ∀ n ∈ List.range' 0 128,
      (isHex (Char.ofNat n).toLower = true → isHexDigit (Char.ofNat n) = true)
        ∧ ((Char.ofNat n).toLower = '\n' → Char.ofNat n = '\n') := by
    decide +kernel
  have hn := hall c.toNat (List.mem_range'_1.mpr (by omega))
  rwa [Char.ofNat_toNat] at hn

theorem IsSerial.ascii {text : List Char} (h : IsSerial text) : ∀ c ∈ text, c.toNat < 128 :=
  fun c hc => (toLower_hexDigits c (isHexDigit_iff.mp (h.digits c hc))).2.1

theorem IsSerial.lower {text : List Char} (h : IsSerial text) : IsSerial (u.lower text) := by
  rw [u.lower_ascii text h.ascii]
  refine ⟨by rw [List.length_map, h.length], ?_⟩
  intro c hc
  obtain ⟨d, hd, rfl⟩ := List.mem_map.mp hc
  exact (toLower_hexDigits d (isHexDigit_iff.mp (h.digits d hd))).2.2

/-- Eight digits once they are in lower case. -/
theorem isSerial_of_map_toLower {text : List Char} (hascii : ∀ c ∈ text, c.toNat < 128)
    (hlen : (text.map Char.toLower).length = 8)
    (h : (text.map Char.toLower).all isHex = true) : IsSerial text := by
  refine ⟨by rwa [List.length_map] at hlen, fun c hc => ?_⟩
  exact (of_toLower (hascii c hc)).1 (List.all_eq_true.mp h _ (List.mem_map_of_mem hc))

theorem serialPattern_lower {text : List Char} (h : IsSerial text) :
    (u.lower text).length = 8 ∧ (u.lower text).all isHex = true := by
  refine ⟨h.lower.length, ?_⟩
  rw [u.lower_ascii text h.ascii, List.all_map, List.all_eq_true]
  exact fun c hc => (toLower_hexDigits c (isHexDigit_iff.mp (h.digits c hc))).1

/-- **THE LANGUAGE OF THE PATTERN**, once the text is in lower case. -/
theorem serialPattern_lower_iff (hlower : LowersAscii u) {text : List Char} :
    serialPattern (u.lower text) = true ↔ IsSerial text ∨ SerialNewline text := by
  unfold serialPattern
  rw [endsLine_iff]
  constructor
  · rintro ⟨s, hs, htext⟩
    rw [Bool.and_eq_true, decide_eq_true_eq] at hs
    have hascii : ∀ c ∈ text, c.toNat < 128 := by
      refine hlower text (fun c hc => ?_)
      rcases htext with h | h
      · exact .inl (List.all_eq_true.mp hs.2 c (h ▸ hc))
      · rw [h, List.mem_append, List.mem_singleton] at hc
        exact hc.imp_left (List.all_eq_true.mp hs.2 c)
    rw [u.lower_ascii text hascii] at htext
    rcases htext with rfl | htext
    · exact .inl (isSerial_of_map_toLower hascii hs.1 hs.2)
    · -- the last character is the newline itself
      right
      obtain ⟨serial, last, rfl, rfl, hlast⟩ := List.map_eq_append_iff.mp htext
      obtain ⟨c, rfl, hc⟩ := List.map_eq_singleton_iff.mp hlast
      have hascii' : ∀ x ∈ serial, x.toNat < 128 :=
        fun x hx => hascii x (List.mem_append_left _ hx)
      have hc' : c.toNat < 128 := hascii c (List.mem_append_right _ (List.mem_singleton_self c))
      rw [(of_toLower hc').2 hc]
      exact ⟨serial, isSerial_of_map_toLower hascii' hs.1 hs.2, rfl⟩
  · rintro (h | ⟨serial, h, rfl⟩)
    · exact ⟨_, by simpa using serialPattern_lower h, .inl rfl⟩
    · refine ⟨u.lower serial, by simpa using serialPattern_lower h, .inr ?_⟩
      have hascii : ∀ c ∈ serial ++ ['\n'], c.toNat < 128 := by
        intro c hc
        rcases List.mem_append.mp hc with hc | hc
        · exact h.ascii c hc
        · rw [List.mem_singleton.mp hc]
          decide
      rw [u.lower_ascii _ hascii, u.lower_ascii serial h.ascii, List.map_append]
      rfl

/-- **THE LANGUAGE OF THE MANAGER.** -/
theorem validateSerial_iff (hlower : LowersAscii u) {text : List Char} :
    validateSerial u text = true ↔ IsSerial text ∨ SerialNewline text :=
  serialPattern_lower_iff hlower

/-- The language of the request. -/
theorem piRegister_iff (hlower : LowersAscii u) {text : List Char} :
    (piRegisterValidateSerial u text).isOk = true ↔ IsSerial text ∨ SerialNewline text := by
  rw [← serialPattern_lower_iff hlower]
  unfold piRegisterValidateSerial
  by_cases h : serialPattern (u.lower text) = true
  · simp [h]
  · simp [h]

/-! ## §4. `int`. -/

/-- Digits are a literal. -/
theorem IsSerial.literal {text : List Char} (h : IsSerial text) :
    Radix.hex.Literal (text.map data.ascii) := by
  have hne : text ≠ [] := by
    rintro rfl
    cases h.length
  have hdigits : ∀ c ∈ text, (Radix.hex.digit c).isSome = true := h.digits
  refine Radix.intOf_isSome_iff.mp ?_
  rw [Radix.intOf_digits hne h.ascii hdigits]
  rfl

/-- **THE LANGUAGE OF THE NFS MANAGER.** -/
theorem nfsValidateSerial_iff {text : List Char} :
    nfsValidateSerial data text = true ↔ IsSerial text ∨ OddLiteral data text := by
  unfold nfsValidateSerial
  by_cases hlen : text.length = 8
  · have hne : text.isEmpty = false := by
      cases text with
      | nil => cases hlen
      | cons c text => rfl
    rw [hne, decide_eq_false (not_not.mpr hlen), if_neg (by decide), Radix.intOf_isSome_iff]
    constructor
    · intro h
      by_cases hserial : IsSerial text
      · exact .inl hserial
      · exact .inr ⟨hlen, h, hserial⟩
    · rintro (h | ⟨-, h, -⟩)
      · exact h.literal
      · exact h
  · rw [decide_eq_true hlen, Bool.or_true, if_pos rfl]
    constructor
    · intro h
      cases h
    · rintro (h | ⟨h, -⟩)
      · exact absurd h.length hlen
      · exact absurd h hlen

theorem SerialNewline.not_isSerial {text : List Char} (h : SerialNewline text) :
    ¬ IsSerial text := by
  obtain ⟨serial, hserial, rfl⟩ := h
  intro h
  have hlen := h.length
  rw [List.length_append, hserial.length] at hlen
  cases hlen

theorem IsSerial.allAccept (hlower : LowersAscii u) {text : List Char} (h : IsSerial text) :
    AllAccept u data text :=
  ⟨(validateSerial_iff hlower).mpr (.inl h), (piRegister_iff hlower).mpr (.inl h),
    nfsValidateSerial_iff.mpr (.inl h)⟩

/-- **THE THREE VALIDATORS ACCEPT THE SAME LANGUAGE**, exactly but for a newline after a serial
number and the other literals that `int` reads. -/
theorem serials_iff (hlower : LowersAscii u) (data : CharData) (nodesPath : AbsPath)
    (text : List Char) :
    SameLanguage u data nodesPath text ↔ ¬ SerialNewline text ∧ ¬ OddLiteral data text := by
  constructor
  · intro h
    constructor
    · intro hnewline
      exact hnewline.not_isSerial (h.manager.mp ((validateSerial_iff hlower).mpr (.inr hnewline)))
    · intro hodd
      exact hodd.2.2 (h.nfs.mp (nfsValidateSerial_iff.mpr (.inr hodd)))
  · rintro ⟨hnewline, hodd⟩
    have hnfs : nfsValidateSerial data text = true ↔ IsSerial text := by
      rw [nfsValidateSerial_iff, or_iff_left hodd]
    refine ⟨?_, ?_, hnfs, ?_⟩
    · rw [validateSerial_iff hlower, or_iff_left hnewline]
    · rw [piRegister_iff hlower, or_iff_left hnewline]
    · intro path hpath
      unfold getNodePath at hpath
      split at hpath
      next haccept =>
        have hserial := hnfs.mp haccept
        exact ⟨u.lower text, (Except.ok.inj hpath).symm, hserial.lower.allAccept hlower⟩
      next => cases hpath

end

theorem lowersAscii_asciiCase : LowersAscii asciiCase := by
  intro text h c hc
  by_contra hno
  have hupper : ¬ (c.val ≥ 'A'.val ∧ c.val ≤ 'Z'.val) := by
    rintro ⟨-, hhigh⟩
    have hhigh : c.toNat ≤ 90 := UInt32.le_iff_toNat_le.mp hhigh
    omega
  have hsame : c.toLower = c := by
    unfold Char.toLower
    rw [dif_neg hupper]
  rcases h c (List.mem_map.mpr ⟨c, hc, hsame⟩) with h | rfl
  · have hrange := isHex_range h
    omega
  · exact hno (by decide)

theorem serials_iff_digits :
    SameLanguage asciiCase CharData.asciiOnly ⟨[], by simp⟩ "D83add36".toList
      ↔ ¬ SerialNewline "D83add36".toList ∧ ¬ OddLiteral CharData.asciiOnly "D83add36".toList :=
  serials_iff lowersAscii_asciiCase CharData.asciiOnly ⟨[], by simp⟩ "D83add36".toList

/-- One accepts what the others do not, either way. -/
theorem serials_differ :
    ¬ SameLanguage asciiCase CharData.asciiOnly ⟨[], by simp⟩ "0x123456".toList
      ∧ ¬ SameLanguage asciiCase CharData.asciiOnly ⟨[], by simp⟩ "d83add36\n".toList := by
  constructor
  · intro h
    have hserial : IsSerial "0x123456".toList := h.nfs.mp (by decide)
    exact absurd (hserial.digits 'x' (by decide)) (by decide)
  · intro h
    have hserial : IsSerial "d83add36\n".toList := h.manager.mp (by decide)
    exact absurd hserial.length (by decide)

end PureBoot.Tftp
