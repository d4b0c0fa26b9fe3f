/-
  PureBoot.Lib.Url — the parts of a URL, as TEXTS.

  `pathOf` is the path that `urllib.parse.urlsplit` finds behind a scheme and its two
  slashes: what follows the authority, which ends at the first `/`, `?` or `#`, up to the
  next `?` or `#`, and without the characters that are removed wherever they stand.  A
  URL that is put together from an authority and a path therefore does not always have
  this path: a `?` in either of them cuts it off.

  `unquote` replaces the escapes `%41` of a path by what their bytes spell in UTF-8, so a
  path that has been unquoted may have a `?` again.

  Main results:
    * `pathOf_authority` — behind an authority a path is cut, and nothing else;
    * `pathOf_clean` — a path without such characters is the path of its URL;
    * `unquote_append` — what stands before the first escape stays as it is.
-/
import Mathlib.Data.List.Infix
import PureBoot.Lib.Hex

namespace PureBoot.Lib

/-! ## §1. Characters. -/

/-- A statement about the characters of a text is decided by the text, not by going through all
the characters there are. -/
instance decidableForallMem (p : Char → Prop) [DecidablePred p] (t : List Char) :
    Decidable (∀ c ∈ t, p c) :=
  List.decidableBAll p t

/-- The authority ends at these. -/
def isMark (c : Char) : Bool := c = '/' || c = '?' || c = '#'

/-- These are removed from a URL. -/
def isNoise (c : Char) : Bool := c = '\t' || c = '\n' || c = '\r'

def dropNoise (t : List Char) : List Char := t.filter (fun c => !isNoise c)

/-- The path of a URL ends where its query or its fragment begins. -/
def cutQuery (t : List Char) : List Char :=
  t.takeWhile (fun c => c ≠ '?' && c ≠ '#')

/-- `urlsplit(scheme + "://" + t).path`. -/
def pathOf (t : List Char) : List Char :=
  cutQuery ((dropNoise t).dropWhile (fun c => !isMark c))

/-- A text in the place of an authority that ends there. -/
structure Authority where
  text : List Char
  ends : ∀ c ∈ text, isMark c = false

/-- A text that the path of a URL may have. -/
def Clean (t : List Char) : Prop := ∀ c ∈ t, c ≠ '?' ∧ c ≠ '#' ∧ isNoise c = false

instance Clean.decidable (t : List Char) : Decidable (Clean t) :=
  decidableForallMem _ t

/-! ## §2. Paths. -/

/-- `cutQuery` goes through a text that has neither of its marks. -/
theorem cutQuery_append {a : List Char} (b : List Char) (h : ∀ c ∈ a, c ≠ '?' ∧ c ≠ '#') :
    cutQuery (a ++ b) = a ++ cutQuery b := by
  unfold cutQuery
  rw [List.takeWhile_append_of_pos]
  intro c hc
  simp [h c hc]

theorem dropNoise_append (a b : List Char) : dropNoise (a ++ b) = dropNoise a ++ dropNoise b :=
  List.filter_append a b

theorem Clean.dropNoise_eq {t : List Char} (h : Clean t) : dropNoise t = t := by
  unfold dropNoise
  rw [List.filter_eq_self]
  intro c hc
  rw [(h c hc).2.2]
  rfl

/-- A clean text at the front of a path stays. -/
theorem Clean.cut_append {a : List Char} (h : Clean a) (b : List Char) :
    cutQuery (dropNoise (a ++ b)) = a ++ cutQuery (dropNoise b) := by
  rw [dropNoise_append, h.dropNoise_eq,
    cutQuery_append _ (fun c hc => ⟨(h c hc).1, (h c hc).2.1⟩)]

theorem Clean.cut_eq {t : List Char} (h : Clean t) : cutQuery (dropNoise t) = t := by
  have hnil := h.cut_append []
  rw [List.append_nil] at hnil
  rw [hnil]
  exact List.append_nil t

/-- **BEHIND AN AUTHORITY A PATH IS CUT**, and nothing else happens to it. -/
theorem pathOf_authority (host : Authority) (p : List Char) :
    pathOf (host.text ++ '/' :: p) = cutQuery (dropNoise ('/' :: p)) := by
  have hdrop : (dropNoise host.text ++ dropNoise ('/' :: p)).dropWhile (fun c => !isMark c)
      = dropNoise ('/' :: p) := by
    rw [List.dropWhile_append_of_pos]
    · rfl
    · intro c hc
      rw [host.ends c (List.mem_of_mem_filter hc)]
      rfl
  unfold pathOf
  rw [dropNoise_append, hdrop]

/-- **A CLEAN PATH** is the path of its URL. -/
theorem pathOf_clean (host : Authority) {p : List Char} (h : Clean ('/' :: p)) :
    pathOf (host.text ++ '/' :: p) = '/' :: p := by
  rw [pathOf_authority, h.cut_eq]

/-! ## §3. Escapes. -/

/-- A UTF-8 sequence that has begun: the bytes that are still missing, the value so far and the
bytes that may come next. -/
structure Utf8 where
  missing : Nat := 0
  value : Nat := 0
  low : Nat := 0x80
  high : Nat := 0xBF

/-- The first byte of a sequence. -/
def Utf8.start (b : Nat) : List Char × Utf8 :=
  if b < 0x80 then ([Char.ofNat b], {})
  else if 0xC2 ≤ b ∧ b ≤ 0xDF then ([], { missing := 1, value := b - 0xC0 })
  else if b = 0xE0 then ([], { missing := 2, value := 0, low := 0xA0 })
  else if b = 0xED then ([], { missing := 2, value := 0xD, high := 0x9F })
  else if 0xE1 ≤ b ∧ b ≤ 0xEF then ([], { missing := 2, value := b - 0xE0 })
  else if b = 0xF0 then ([], { missing := 3, value := 0, low := 0x90 })
  else if b = 0xF4 then ([], { missing := 3, value := 4, high := 0x8F })
  else if 0xF1 ≤ b ∧ b ≤ 0xF3 then ([], { missing := 3, value := b - 0xF0 })
  else (['\uFFFD'], {})

/-- A sequence that breaks off. -/
def Utf8.broken (s : Utf8) : List Char := if s.missing = 0 then [] else ['\uFFFD']

/-- `bytes.decode("utf-8", "replace")`, after the bytes that led to `s`. -/
def Utf8.decode : Utf8 → List Nat → List Char
  | s, [] => s.broken
  | s, b :: bytes =>
      if s.missing ≠ 0 ∧ s.low ≤ b ∧ b ≤ s.high then
        let value := s.value * 64 + (b - 0x80)
        if s.missing = 1 then Char.ofNat value :: decode {} bytes
        else decode { missing := s.missing - 1, value } bytes
      else s.broken ++ (Utf8.start b).1 ++ decode (Utf8.start b).2 bytes

/-- `unquote`, after escapes for these bytes. -/
def unquoteFrom : List Nat → List Char → List Char
  | bytes, [] => Utf8.decode {} bytes
  | bytes, '%' :: a :: b :: rest =>
      match hexByte a b with
      | some byte => unquoteFrom (bytes ++ [byte]) rest
      | none => Utf8.decode {} bytes ++ '%' :: unquoteFrom [] (a :: b :: rest)
  | bytes, c :: rest => Utf8.decode {} bytes ++ c :: unquoteFrom [] rest

/-- `urllib.parse.unquote`. -/
def unquote (t : List Char) : List Char := unquoteFrom [] t

example : unquote "/a%3Fx%C3%a4%zz%ff.png".toList = "/a?xä%zz\uFFFD.png".toList := by decide

theorem unquote_cons {c : Char} (rest : List Char) (h : c ≠ '%') :
    unquote (c :: rest) = c :: unquote rest := by
  unfold unquote
  rw [unquoteFrom]
  · rfl
  · rintro a b rest' hc -
    exact h hc

/-- **BEFORE THE FIRST ESCAPE** a text stays as it is. -/
theorem unquote_append {a : List Char} (b : List Char) (h : '%' ∉ a) :
    unquote (a ++ b) = a ++ unquote b := by
  induction a with
  | nil => rfl
  | cons c a ih =>
      rw [List.mem_cons, not_or] at h
      rw [List.cons_append, unquote_cons _ (Ne.symm h.1), ih h.2]
      rfl

end PureBoot.Lib
