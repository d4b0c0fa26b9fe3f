/-
  PureBoot.Lifecycle.MacAddress — the GRAMMAR of MAC addresses and their canonical form.

  A MAC address is the key of a node.  Two copies of one pattern decide which texts are
  one: `boot.py: validate_mac` and `NodeCreate.validate_mac` of `api/schemas.py`; both go
  on to `normalize_mac`.

  The pattern ends in `$`, which lets a newline after the address pass.

  Main results:
    * `matchMacGroups_iff` — what the pattern matches;
    * `Denotes.normalizeMac` — the canonical form of a text is that of its bytes;
    * `mac_grammar_iff` — the texts on which both validators follow the grammar.
-/
import PureBoot.Lib.Hex
import PureBoot.Lifecycle.NodeApi

namespace PureBoot.Lifecycle

open PureBoot.Lib

/-! ## §1. The validators and the grammar. -/

/-- `NodeCreate.validate_mac`. -/
def nodeCreateValidateMac (v : String) : Except Exn String :=
  if macPatternMatches v then .ok (normalizeMac v)
  else .error (.valueError ("Invalid MAC address format: " ++ v))

/-- Pairs of digits with single separators between them, and the bytes they spell. -/
inductive MacGroups : List Char → List Nat → Prop where
  | last {a b n} : hexByte a b = some n → MacGroups [a, b] [n]
  | more {a b n sep text bytes} : hexByte a b = some n → sep = ':' ∨ sep = '-' →
      MacGroups text bytes → MacGroups (a :: b :: sep :: text) (n :: bytes)

/-- The text is a MAC address: six bytes. -/
def Denotes (mac : String) (bytes : List Nat) : Prop :=
  MacGroups mac.toList bytes ∧ bytes.length = 6

/-- The canonical form of bytes. -/
def colonForm (bytes : List Nat) : String :=
  String.ofList ([':'].intercalate (bytes.map hexPair))

/-- **WHAT A VALIDATOR IS TO DO WITH A TEXT.** -/
structure FollowsGrammar (validate : String → Except Exn String) (mac : String) : Prop where
  accepts : (validate mac).isOk = true ↔ ∃ bytes, Denotes mac bytes
  canonical : ∀ m, validate mac = .ok m →
    ∃ bytes, Denotes mac bytes ∧ m = colonForm bytes ∧ m.length = 17
  fixed : ∀ m, validate mac = .ok m → validate m = .ok m
  /-- One machine has one key. -/
  identifies : ∀ mac' m m', validate mac = .ok m → validate mac' = .ok m' →
    (m = m' ↔ ∃ bytes, Denotes mac bytes ∧ Denotes mac' bytes)

/-! ## §2. What the pattern matches. -/

theorem isHex_iff {c : Char} : isHex c = true ↔ ∃ n, hexValue c = some n := by
  rw [← Option.isSome_iff_exists]
  show _ ↔ isHexDigit c = true
  constructor
  · intro h
    refine isHexDigit_iff.mpr ?_
    unfold isHex Char.isDigit at h
    simp only [Bool.or_eq_true, Bool.and_eq_true, decide_eq_true_eq] at h
    rcases h with (h | h) | h
    · exact of_code_range (by decide) (UInt32.le_iff_toNat_le.mp h.1)
        (UInt32.le_iff_toNat_le.mp h.2)
    · exact of_code_range (by decide) (UInt32.le_iff_toNat_le.mp h.1)
        (UInt32.le_iff_toNat_le.mp h.2)
    · exact of_code_range (by decide) (UInt32.le_iff_toNat_le.mp h.1)
        (UInt32.le_iff_toNat_le.mp h.2)
  · intro h
    have hall : ∀ c ∈ hexDigits, isHex c = true := forall_mem_of_all (by decide)
    exact hall c (isHexDigit_iff.mp h)

theorem isHex_pair_iff {a b : Char} : (isHex a && isHex b) = true ↔ ∃ n, hexByte a b = some n := by
  rw [Bool.and_eq_true, isHex_iff, isHex_iff]
  constructor
  · rintro ⟨⟨high, ha⟩, low, hb⟩
    exact ⟨_, hexByte_eq_some_iff.mpr ⟨high, low, ha, hb, rfl⟩⟩
  · rintro ⟨n, h⟩
    obtain ⟨high, low, ha, hb, -⟩ := hexByte_eq_some_iff.mp h
    exact ⟨⟨high, ha⟩, low, hb⟩

theorem MacGroups.bytes_ne_nil {text : List Char} {bytes : List Nat} (h : MacGroups text bytes) :
    bytes ≠ [] := by
  cases h <;> simp

/-- A text that the pattern matches is groups, or groups and a newline. -/
theorem groups_of_match {k : Nat} {text : List Char} (h : matchMacGroups k text = true) :
    ∃ groups bytes, MacGroups groups bytes ∧ bytes.length = k + 1
      ∧ (text = groups ∨ text = groups ++ ['\n']) := by
  induction k generalizing text with
  | zero =>
      match text, h with
      | [a, b], h =>
          obtain ⟨n, hn⟩ := isHex_pair_iff.mp h
          exact ⟨_, _, .last hn, rfl, .inl rfl⟩
      | [a, b, c], h =>
          rw [matchMacGroups, Bool.and_eq_true, decide_eq_true_eq] at h
          obtain ⟨n, hn⟩ := isHex_pair_iff.mp h.1
          refine ⟨_, _, .last hn, rfl, .inr ?_⟩
          rw [h.2]
          rfl
  | succ k ih =>
      match text, h with
      | a :: b :: sep :: rest, h =>
          rw [matchMacGroups, Bool.and_eq_true, Bool.and_eq_true, Bool.or_eq_true,
            decide_eq_true_eq, decide_eq_true_eq] at h
          obtain ⟨n, hn⟩ := isHex_pair_iff.mp h.1.1
          obtain ⟨groups, bytes, hgroups, hlen, hrest⟩ := ih h.2
          refine ⟨_, _, .more hn h.1.2 hgroups, congrArg Nat.succ hlen, ?_⟩
          rcases hrest with rfl | rfl
          · exact .inl rfl
          · exact .inr rfl

/-- Groups are matched, also before a newline. -/
theorem MacGroups.matches {groups : List Char} {bytes : List Nat} (h : MacGroups groups bytes)
    {k : Nat} (hlen : bytes.length = k + 1) {text : List Char}
    (htext : text = groups ∨ text = groups ++ ['\n']) : matchMacGroups k text = true := by
  induction h generalizing k text with
  | last hn =>
      obtain rfl : 0 = k := Nat.succ.inj hlen
      have hpair := isHex_pair_iff.mpr ⟨_, hn⟩
      rcases htext with rfl | rfl
      · exact hpair
      · show (_ && decide ('\n' = '\n')) = true
        rw [hpair]
        rfl
  | @more a b n sep rest bytes hn hsep hrest ih =>
      cases k with
      | zero =>
          -- a second group is a second byte
          exact absurd (List.length_eq_zero_iff.mp (Nat.succ.inj hlen)) hrest.bytes_ne_nil
      | succ k =>
          have hmatch : ∀ t, (t = rest ∨ t = rest ++ ['\n']) →
              matchMacGroups (k + 1) (a :: b :: sep :: t) = true := by
            intro t ht
            rw [matchMacGroups, isHex_pair_iff.mpr ⟨n, hn⟩, Bool.true_and, Bool.and_eq_true,
              Bool.or_eq_true, decide_eq_true_eq, decide_eq_true_eq]
            exact ⟨hsep, ih (Nat.succ.inj hlen) ht⟩
          rcases htext with rfl | rfl
          · exact hmatch rest (.inl rfl)
          · exact hmatch (rest ++ ['\n']) (.inr rfl)

/-- **WHAT THE PATTERN MATCHES**: groups, or groups and a newline. -/
theorem matchMacGroups_iff {k : Nat} {text : List Char} :
    matchMacGroups k text = true ↔
      ∃ groups bytes, MacGroups groups bytes ∧ bytes.length = k + 1
        ∧ (text = groups ∨ text = groups ++ ['\n']) := by
  constructor
  · exact groups_of_match
  · rintro ⟨groups, bytes, hgroups, hlen, htext⟩
    exact hgroups.matches hlen htext

/-- A newline after a MAC address. -/
def EndsInNewline (mac : String) : Prop := ∃ m bytes, Denotes m bytes ∧ mac = m ++ "\n"

theorem macPatternMatches_iff {mac : String} :
    macPatternMatches mac = true ↔ (∃ bytes, Denotes mac bytes) ∨ EndsInNewline mac := by
  unfold macPatternMatches
  rw [matchMacGroups_iff]
  constructor
  · rintro ⟨groups, bytes, hgroups, hlen, htext | htext⟩
    · exact .inl ⟨bytes, htext ▸ hgroups, hlen⟩
    · refine .inr ⟨String.ofList groups, bytes, ⟨?_, hlen⟩, ?_⟩
      · rwa [String.toList_ofList]
      · rw [← String.toList_inj, String.toList_append, String.toList_ofList]
        exact htext
  · rintro (⟨bytes, hgroups, hlen⟩ | ⟨m, bytes, ⟨hgroups, hlen⟩, rfl⟩)
    · exact ⟨_, bytes, hgroups, hlen, .inl rfl⟩
    · exact ⟨_, bytes, hgroups, hlen, .inr (String.toList_append ..)⟩

/-! ## §3. The canonical form. -/

/-- The character that `normalize_mac` makes of one. -/
def normalizeChar (c : Char) : Char := if c = '-' then ':' else c.toLower

theorem toList_normalizeMac_eq (mac : String) :
    (normalizeMac mac).toList = mac.toList.map normalizeChar :=
  String.toList_map

theorem normalizeChar_of_hexValue {c : Char} {n : Nat} (h : hexValue c = some n) :
    normalizeChar c = c.toLower := by
  unfold normalizeChar
  rw [if_neg]
  rintro rfl
  cases h

theorem map_normalizeChar_pair {a b : Char} {n : Nat} (h : hexByte a b = some n) :
    [a, b].map normalizeChar = hexPair n := by
  obtain ⟨high, low, ha, hb, -⟩ := hexByte_eq_some_iff.mp h
  rw [← map_toLower_of_hexByte h]
  show [normalizeChar a, normalizeChar b] = _
  rw [normalizeChar_of_hexValue ha, normalizeChar_of_hexValue hb]

/-- **THE CANONICAL FORM** of groups is that of their bytes. -/
theorem MacGroups.map_normalizeChar {text : List Char} {bytes : List Nat}
    (h : MacGroups text bytes) :
    text.map normalizeChar = [':'].intercalate (bytes.map hexPair) := by
  induction h with
  | last hn =>
      rw [map_normalizeChar_pair hn]
      exact List.intercalate_singleton.symm
  | @more a b n sep text bytes hn hsep hrest ih =>
      have hcolon : normalizeChar sep = ':' := by
        rcases hsep with rfl | rfl
        · rfl
        · rfl
      have hne : bytes.map hexPair ≠ [] := by simpa using hrest.bytes_ne_nil
      show [a, b].map normalizeChar ++ normalizeChar sep :: text.map normalizeChar = _
      rw [map_normalizeChar_pair hn, hcolon, ih, List.map_cons,
        List.intercalate_cons_of_ne_nil hne]
      rfl

/-- The canonical form of bytes spells them. -/
theorem macGroups_intercalate {bytes : List Nat} (hne : bytes ≠ []) (hlt : ∀ n ∈ bytes, n < 256) :
    MacGroups ([':'].intercalate (bytes.map hexPair)) bytes := by
  induction bytes with
  | nil => exact absurd rfl hne
  | cons n bytes ih =>
      have hn := hexByte_hexPair (hlt n List.mem_cons_self)
      cases bytes with
      | nil => exact .last hn
      | cons m bytes =>
          have hrest := ih (List.cons_ne_nil m bytes)
            (fun x hx => hlt x (List.mem_cons_of_mem n hx))
          exact .more hn (.inl rfl) hrest

theorem MacGroups.lt {text : List Char} {bytes : List Nat} (h : MacGroups text bytes) :
    ∀ n ∈ bytes, n < 256 := by
  induction h with
  | last hn => simpa using hexByte_lt hn
  | more hn _ _ ih => exact List.forall_mem_cons.mpr ⟨hexByte_lt hn, ih⟩

theorem MacGroups.length_eq {text : List Char} {bytes : List Nat} (h : MacGroups text bytes) :
    text.length + 1 = 3 * bytes.length := by
  induction h with
  | last _ => rfl
  | more _ _ _ ih =>
      simp only [List.length_cons]
      omega

/-- A text spells one list of bytes. -/
theorem MacGroups.unique {text : List Char} {bytes bytes' : List Nat} (h : MacGroups text bytes)
    (h' : MacGroups text bytes') : bytes = bytes' := by
  induction h generalizing bytes' with
  | last hn =>
      cases h' with
      | last hn' => rw [Option.some.inj (hn.symm.trans hn')]
  | more hn _ _ ih =>
      cases h' with
      | more hn' _ hrest => rw [Option.some.inj (hn.symm.trans hn'), ih hrest]

theorem Denotes.unique {mac : String} {bytes bytes' : List Nat} (h : Denotes mac bytes)
    (h' : Denotes mac bytes') : bytes = bytes' :=
  h.1.unique h'.1

theorem Denotes.normalizeMac {mac : String} {bytes : List Nat} (h : Denotes mac bytes) :
    normalizeMac mac = colonForm bytes := by
  unfold colonForm
  rw [← String.toList_inj, toList_normalizeMac_eq, String.toList_ofList, h.1.map_normalizeChar]

theorem Denotes.colonForm {mac : String} {bytes : List Nat} (h : Denotes mac bytes) :
    Denotes (colonForm bytes) bytes := by
  unfold Lifecycle.colonForm Denotes
  rw [String.toList_ofList]
  exact ⟨macGroups_intercalate h.1.bytes_ne_nil h.1.lt, h.2⟩

theorem Denotes.length {mac : String} {bytes : List Nat} (h : Denotes mac bytes) :
    mac.length = 17 := by
  have hlen := h.1.length_eq
  rw [h.2] at hlen
  rw [← String.length_toList]
  omega

/-- A MAC address does not end in a newline. -/
theorem Denotes.not_endsInNewline {mac : String} {bytes : List Nat} (h : Denotes mac bytes) :
    ¬ EndsInNewline mac := by
  rintro ⟨m, bytes', hm, rfl⟩
  have hlen := h.length
  rw [String.length_append, hm.length] at hlen
  cases hlen

/-! ## §4. The grammar. -/

section

variable {reject : String → Exn}

/-- Both validators are the pattern, with their own texts for what does not match. -/
def checkMac (reject : String → Exn) (mac : String) : Except Exn String :=
  if macPatternMatches mac then .ok (normalizeMac mac) else .error (reject mac)

theorem checkMac_eq_ok {mac m : String} :
    checkMac reject mac = .ok m ↔ macPatternMatches mac = true ∧ normalizeMac mac = m := by
  unfold checkMac
  by_cases h : macPatternMatches mac = true
  · simp [h]
  · simp [h]

theorem isOk_checkMac {mac : String} :
    (checkMac reject mac).isOk = true ↔ macPatternMatches mac = true := by
  unfold checkMac
  by_cases h : macPatternMatches mac = true
  · simp [h]
  · simp [h]

theorem checkMac_of_denotes {mac : String} {bytes : List Nat} (h : Denotes mac bytes) :
    checkMac reject mac = .ok (colonForm bytes) :=
  checkMac_eq_ok.mpr ⟨macPatternMatches_iff.mpr (.inl ⟨bytes, h⟩), h.normalizeMac⟩

/-- A text with a newline after the address has another canonical form than any address. -/
theorem normalizeMac_endsInNewline {mac : String} (h : EndsInNewline mac) :
    (normalizeMac mac).length = 18 := by
  obtain ⟨m, bytes, hm, rfl⟩ := h
  rw [← String.length_toList, toList_normalizeMac_eq, List.length_map, String.length_toList,
    String.length_append, hm.length]
  rfl

theorem followsGrammar_checkMac_iff (mac : String) :
    FollowsGrammar (checkMac reject) mac ↔ ¬ EndsInNewline mac := by
  constructor
  · intro h hnewline
    obtain ⟨bytes, hmac⟩ := h.accepts.mp (isOk_checkMac.mpr (macPatternMatches_iff.mpr
      (.inr hnewline)))
    exact hmac.not_endsInNewline hnewline
  · intro hno
    have haccepts : (checkMac reject mac).isOk = true ↔ ∃ bytes, Denotes mac bytes := by
      rw [isOk_checkMac, macPatternMatches_iff, or_iff_left hno]
    have hdenotes : ∀ m, checkMac reject mac = .ok m →
        ∃ bytes, Denotes mac bytes ∧ m = colonForm bytes := by
      intro m hm
      obtain ⟨bytes, hmac⟩ := haccepts.mp (by rw [hm]; rfl)
      rw [checkMac_of_denotes hmac] at hm
      exact ⟨bytes, hmac, (Except.ok.inj hm).symm⟩
    refine ⟨haccepts, ?_, ?_, ?_⟩
    · intro m hm
      obtain ⟨bytes, hmac, rfl⟩ := hdenotes m hm
      exact ⟨bytes, hmac, rfl, hmac.colonForm.length⟩
    · intro m hm
      obtain ⟨bytes, hmac, rfl⟩ := hdenotes m hm
      exact checkMac_of_denotes hmac.colonForm
    · intro mac' m m' hm hm'
      obtain ⟨bytes, hmac, rfl⟩ := hdenotes m hm
      obtain ⟨hmatch, rfl⟩ := checkMac_eq_ok.mp hm'
      rcases macPatternMatches_iff.mp hmatch with ⟨bytes', hmac'⟩ | hnewline
      · rw [hmac'.normalizeMac]
        constructor
        · intro heq
          have hsame : Denotes (colonForm bytes) bytes' := heq ▸ hmac'.colonForm
          exact ⟨bytes, hmac, hmac.colonForm.unique hsame ▸ hmac'⟩
        · rintro ⟨b, hb, hb'⟩
          rw [hmac.unique hb, hmac'.unique hb']
      · -- the other text is no address, and its canonical form is too long
        constructor
        · intro heq
          have hlen := hmac.colonForm.length
          rw [heq, normalizeMac_endsInNewline hnewline] at hlen
          cases hlen
        · rintro ⟨b, -, hb'⟩
          exact absurd hnewline hb'.not_endsInNewline

end

/-- **MAC ADDRESSES HAVE ONE GRAMMAR AND ONE CANONICAL FORM** for both validators, exactly but
for a newline after an address. -/
theorem mac_grammar_iff (mac : String) :
    (FollowsGrammar validateMac mac ∧ FollowsGrammar nodeCreateValidateMac mac)
      ↔ ¬ EndsInNewline mac := by
  have hboot : FollowsGrammar validateMac mac ↔ ¬ EndsInNewline mac :=
    followsGrammar_checkMac_iff mac
  have hschema : FollowsGrammar nodeCreateValidateMac mac ↔ ¬ EndsInNewline mac :=
    followsGrammar_checkMac_iff mac
  constructor
  · rintro ⟨h, -⟩
    exact hboot.mp h
  · intro h
    exact ⟨hboot.mpr h, hschema.mpr h⟩

/-- An address with a newline after it. -/
def newlineMac : String := "AA-bb:cc:dd:ee:ff\n"

theorem endsInNewline_newlineMac : EndsInNewline newlineMac := by
  refine ⟨"AA-bb:cc:dd:ee:ff", [170, 187, 204, 221, 238, 255], ⟨?_, rfl⟩, by decide⟩
  exact .more rfl (.inr rfl) (.more rfl (.inl rfl) (.more rfl (.inl rfl) (.more rfl (.inl rfl)
    (.more rfl (.inl rfl) (.last rfl)))))

/-- It is accepted, and is another node than the address. -/
theorem mac_grammar_newline :
    ¬ (FollowsGrammar validateMac newlineMac ∧ FollowsGrammar nodeCreateValidateMac newlineMac)
      ∧ macPatternMatches newlineMac = true
      ∧ normalizeMac newlineMac ≠ normalizeMac "aa:bb:cc:dd:ee:ff" := by
  refine ⟨fun h => ?_, by decide, ?_⟩
  · exact (followsGrammar_checkMac_iff newlineMac).mp h.1 endsInNewline_newlineMac
  · rw [Ne, ← String.toList_inj, toList_normalizeMac_eq, toList_normalizeMac_eq]
    decide

end PureBoot.Lifecycle
