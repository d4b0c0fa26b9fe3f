/-
  PureBoot.Dhcp.Packet — reading a DHCP PACKET.

  Embeds `pxe/dhcp_proxy.py: DHCPPacket.parse`.  Behind a header of 236 bytes and the
  magic cookie come the options: a code, a length and as many bytes of data, with
  padding between them, up to an end byte.  The loop goes by the lengths it reads, so
  one that is misread misreads everything behind it.

  Main results:
    * `parseOptions_items` — what the loop finds in a list of options;
    * `parse_datagram` — what is read of a whole datagram.
-/
import PureBoot.Lib.Bytes
import PureBoot.Lib.Dict
import PureBoot.Lib.Run
import Mathlib.Data.List.Infix

namespace PureBoot.Dhcp

open PureBoot.Lib

/-! ## §1. Packets. -/

abbrev Bytes : Type := List UInt8

/-- `ClientArchitecture`. -/
inductive ClientArchitecture where
  | bios
  | uefiX64
  | uefiX64Alt
  deriving DecidableEq, Repr

/-- `ClientArchitecture(n)`. -/
def ClientArchitecture.ofNumber? : Nat → Option ClientArchitecture
  | 0x00 => some .bios
  | 0x07 => some .uefiX64
  | 0x09 => some .uefiX64Alt
  | _ => none

inductive DHCPError where
  | valueError (message : String)
  | indexError
  | structError
  | unicodeError
  deriving DecidableEq, Repr

/-- `DHCPPacket`. -/
structure DHCPPacket where
  op : UInt8
  htype : UInt8
  hlen : UInt8
  xid : Bytes
  clientMac : Bytes
  clientArch : Option ClientArchitecture := none
  isIpxe : Bool := false
  options : Dict UInt8 Bytes := Table.empty

def magicCookie : Bytes := [0x63, 0x82, 0x53, 0x63]

/-! ## §2. The parser. -/

/-- `data[i]`. -/
def byteAt (data : Bytes) (i : Nat) : Except DHCPError UInt8 :=
  match data[i]? with
  | some b => .ok b
  | none => .error .indexError

/-- What the loop has found so far. -/
structure Scanned where
  options : Dict UInt8 Bytes := Table.empty
  clientArch : Option ClientArchitecture := none
  isIpxe : Bool := false

/-- The architecture that option 93 names. -/
def archOf (optData : Bytes) : Option ClientArchitecture :=
  (unpackBe16 (optData.take 2)).bind ClientArchitecture.ofNumber?

/-- `"iPXE" in opt_data.decode("ascii", errors="ignore")`. -/
def saysIpxe (optData : Bytes) : Bool := decide ("iPXE".toList <:+: decodeAsciiIgnore optData)

/-- `struct.unpack("!H", opt_data[:2])[0]`; an option may be cut off by the end of the
datagram. -/
def archType (optData : Bytes) : Except DHCPError Nat :=
  match unpackBe16 (optData.take 2) with
  | some n => .ok n
  | none => .error .structError

/-- The architecture, once an option is read. -/
def Scanned.archAfter (found : Scanned) (optCode : UInt8) (optLen : Nat) (optData : Bytes) :
    Except DHCPError (Option ClientArchitecture) :=
  if optCode = 93 ∧ 2 ≤ optLen then do
    let n ← archType optData
    .ok (ClientArchitecture.ofNumber? n)
  else .ok found.clientArch

/-- One option of the loop. -/
def Scanned.add (found : Scanned) (optCode : UInt8) (optLen : Nat) (optData : Bytes) :
    Except DHCPError Scanned := do
  let clientArch ← found.archAfter optCode optLen optData
  .ok { options := Dict.set found.options optCode optData
        clientArch
        isIpxe := found.isIpxe || (optCode = 77 && saysIpxe optData) || optCode = 175 }

/-- The loop over the options; the list is `data[i:]`. -/
def parseOptions (found : Scanned) : Bytes → Except DHCPError Scanned
  | [] => .ok found
  | optCode :: rest =>
      if optCode = 255 then .ok found
      else if optCode = 0 then parseOptions found rest
      else
        match rest with
        | [] => .error .indexError
        | optLen :: rest => do
            let found ← found.add optCode optLen.toNat (rest.take optLen.toNat)
            parseOptions found (rest.drop optLen.toNat)
termination_by data => data.length
decreasing_by
  · simp
  · simp only [List.length_drop, List.length_cons]
    omega

/-- The options, if the cookie is there. -/
def scan (data : Bytes) : Except DHCPError Scanned :=
  if slice 236 240 data = magicCookie then parseOptions {} (data.drop 240) else .ok {}

/-- `DHCPPacket.parse`. -/
def DHCPPacket.parse (data : Bytes) : Except DHCPError DHCPPacket :=
  if data.length < 240 then .error (.valueError "Packet too short")
  else do
    let op ← byteAt data 0
    let htype ← byteAt data 1
    let hlen ← byteAt data 2
    let found ← scan data
    .ok { op, htype, hlen
          xid := slice 4 8 data
          clientMac := slice 28 (28 + hlen.toNat) data
          clientArch := found.clientArch
          isIpxe := found.isIpxe
          options := found.options }

/-! ## §3. Options as they are written. -/

/-- An option that can be written. -/
structure DHCPOption where
  code : UInt8
  data : Bytes
  not_pad : code ≠ 0
  not_end : code ≠ 255
  fits : data.length < 256

/-- What stands behind the cookie. -/
inductive Item where
  | pad
  | option (o : DHCPOption)

def Item.bytes : Item → Bytes
  | .pad => [0]
  | .option o => o.code :: UInt8.ofNat o.data.length :: o.data

def Item.option? : Item → Option DHCPOption
  | .pad => none
  | .option o => some o

/-- The options of a list, in their order. -/
def optionsOf (items : List Item) : List DHCPOption := items.filterMap Item.option?

/-- The option gives an architecture. -/
def DHCPOption.givesArch (o : DHCPOption) : Bool := o.code = 93 && 2 ≤ o.data.length

/-- The option tells that the client is iPXE. -/
def DHCPOption.tellsIpxe (o : DHCPOption) : Bool :=
  (o.code = 77 && saysIpxe o.data) || o.code = 175

/-- What is known once the option is read. -/
def Scanned.learn (found : Scanned) (o : DHCPOption) : Scanned where
  options := Dict.set found.options o.code o.data
  clientArch := if o.givesArch then archOf o.data else found.clientArch
  isIpxe := found.isIpxe || o.tellsIpxe

/-! ## §4. What the loop finds. -/

theorem unpackBe16_take_two {bytes : Bytes} (h : 2 ≤ bytes.length) :
    ∃ n, unpackBe16 (bytes.take 2) = some n := by
  match bytes, h with
  | hi :: lo :: rest, _ => exact ⟨hi.toNat * 256 + lo.toNat, rfl⟩

theorem Scanned.archAfter_eq (found : Scanned) (o : DHCPOption) :
    found.archAfter o.code o.data.length o.data = .ok (found.learn o).clientArch := by
  unfold Scanned.archAfter
  by_cases harch : o.code = 93 ∧ 2 ≤ o.data.length
  · have hgives : o.givesArch = true := by
      simpa [DHCPOption.givesArch] using harch
    obtain ⟨n, hn⟩ := unpackBe16_take_two harch.2
    have htype : archType o.data = .ok n := by
      unfold archType
      rw [hn]
    have hlearn : (found.learn o).clientArch = ClientArchitecture.ofNumber? n := by
      show (if o.givesArch then archOf o.data else _) = _
      rw [if_pos hgives, archOf, hn]
      rfl
    rw [if_pos harch, htype, ok_bind, hlearn]
  · have hgives : ¬ o.givesArch = true := by
      simpa [DHCPOption.givesArch] using harch
    have hlearn : (found.learn o).clientArch = found.clientArch := if_neg hgives
    rw [if_neg harch, hlearn]

theorem Scanned.add_eq_learn (found : Scanned) (o : DHCPOption) :
    found.add o.code o.data.length o.data = .ok (found.learn o) := by
  unfold Scanned.add
  rw [found.archAfter_eq, ok_bind, Bool.or_assoc]
  rfl

theorem parseOptions_end (found : Scanned) (rest : Bytes) :
    parseOptions found (255 :: rest) = .ok found := by
  rw [parseOptions.eq_def]
  rfl

theorem parseOptions_pad (found : Scanned) (rest : Bytes) :
    parseOptions found (0 :: rest) = parseOptions found rest := by
  rw [parseOptions.eq_def]
  rfl

/-- One option is read, and the loop goes on behind its data. -/
theorem parseOptions_option (found : Scanned) (o : DHCPOption) (rest : Bytes) :
    parseOptions found (o.code :: UInt8.ofNat o.data.length :: (o.data ++ rest))
      = parseOptions (found.learn o) rest := by
  have hlen : (UInt8.ofNat o.data.length).toNat = o.data.length :=
    UInt8.toNat_ofNat_of_lt' o.fits
  rw [parseOptions.eq_def]
  dsimp only
  rw [if_neg o.not_end, if_neg o.not_pad, hlen, List.take_left' rfl, List.drop_left' rfl,
    found.add_eq_learn, ok_bind]

/-- **THE LOOP READS EVERY OPTION** up to the end byte, whatever comes behind it. -/
theorem parseOptions_items (tail : Bytes) : ∀ (items : List Item) (found : Scanned),
    parseOptions found (items.flatMap Item.bytes ++ 255 :: tail)
      = .ok ((optionsOf items).foldl Scanned.learn found) := by
  intro items
  induction items with
  | nil =>
      intro found
      exact parseOptions_end found tail
  | cons item items ih =>
      intro found
      rw [List.flatMap_cons, List.append_assoc]
      cases item with
      | pad =>
          show parseOptions found (0 :: (items.flatMap Item.bytes ++ 255 :: tail)) = _
          rw [parseOptions_pad]
          exact ih found
      | option o =>
          show parseOptions found (o.code :: UInt8.ofNat o.data.length ::
            (o.data ++ (items.flatMap Item.bytes ++ 255 :: tail))) = _
          rw [parseOptions_option]
          exact ih (found.learn o)

/-- What is known of a list of options. -/
def learned (items : List Item) : Scanned := (optionsOf items).foldl Scanned.learn {}

theorem learn_options (os : List DHCPOption) (found : Scanned) :
    (os.foldl Scanned.learn found).options
      = Dict.setAll found.options (os.map (fun o => (o.code, o.data))) := by
  induction os generalizing found with
  | nil => rfl
  | cons o os ih => exact ih (found.learn o)

/-- For each code, the last data of the list. -/
theorem get_learned (items : List Item) (code : UInt8) :
    Dict.get (learned items).options code
      = Dict.lastValue code ((optionsOf items).map (fun o => (o.code, o.data))) := by
  unfold learned
  rw [learn_options, Dict.get_setAll, Dict.get_empty, Option.or_none]

theorem learn_isIpxe (os : List DHCPOption) (found : Scanned) :
    (os.foldl Scanned.learn found).isIpxe = (found.isIpxe || os.any DHCPOption.tellsIpxe) := by
  induction os generalizing found with
  | nil => simp
  | cons o os ih =>
      rw [List.foldl_cons, ih, List.any_cons, ← Bool.or_assoc]
      rfl

/-- The last option that gives an architecture decides, known or not. -/
theorem learn_clientArch (os : List DHCPOption) (found : Scanned) :
    (os.foldl Scanned.learn found).clientArch
      = (((os.filter DHCPOption.givesArch).getLast?).map (fun o => archOf o.data)).getD
          found.clientArch := by
  induction os generalizing found with
  | nil => rfl
  | cons o os ih =>
      rw [List.foldl_cons, ih]
      by_cases hgives : o.givesArch = true
      · rw [List.filter_cons_of_pos hgives, List.getLast?_cons]
        cases (os.filter DHCPOption.givesArch).getLast? with
        | some last => rfl
        | none => exact if_pos hgives
      · rw [List.filter_cons_of_neg hgives]
        cases (os.filter DHCPOption.givesArch).getLast? with
        | some last => rfl
        | none => exact if_neg hgives

/-! ## §5. A whole datagram. -/

theorem byteAt_of_lt {data : Bytes} {i : Nat} (h : i < data.length) :
    ∃ b, data[i]? = some b ∧ byteAt data i = .ok b := by
  refine ⟨data[i], List.getElem?_eq_getElem h, ?_⟩
  unfold byteAt
  rw [List.getElem?_eq_getElem h]

/-- The header of what is read of a datagram. -/
structure HeaderOf (data : Bytes) (p : DHCPPacket) : Prop where
  op : data[0]? = some p.op
  htype : data[1]? = some p.htype
  hlen : data[2]? = some p.hlen
  xid : p.xid = slice 4 8 data
  clientMac : p.clientMac = slice 28 (28 + p.hlen.toNat) data

/-- A datagram is read if its options are. -/
theorem parse_of_scanned {data : Bytes} {found : Scanned} (hlen : 240 ≤ data.length)
    (hcookie : slice 236 240 data = magicCookie)
    (hfound : parseOptions {} (data.drop 240) = .ok found) :
    ∃ p, DHCPPacket.parse data = .ok p ∧ HeaderOf data p ∧ p.clientArch = found.clientArch ∧
      p.isIpxe = found.isIpxe ∧ p.options = found.options := by
  obtain ⟨op, hop, hop'⟩ := byteAt_of_lt (show 0 < data.length by omega)
  obtain ⟨htype, hhtype, hhtype'⟩ := byteAt_of_lt (show 1 < data.length by omega)
  obtain ⟨hlen', hhlen, hhlen'⟩ := byteAt_of_lt (show 2 < data.length by omega)
  have hscan : scan data = .ok found := (if_pos hcookie).trans hfound
  unfold DHCPPacket.parse
  rw [if_neg (by omega), hop', ok_bind, hhtype', ok_bind, hhlen', ok_bind, hscan, ok_bind]
  exact ⟨_, rfl, ⟨hop, hhtype, hhlen, rfl, rfl⟩, rfl, rfl, rfl⟩

/-- A datagram: the header, the cookie, the options, the end byte and anything behind it. -/
def datagram (header : Bytes) (items : List Item) (tail : Bytes) : Bytes :=
  header ++ magicCookie ++ (items.flatMap Item.bytes ++ 255 :: tail)

theorem length_header_cookie {header : Bytes} (h : header.length = 236) :
    (header ++ magicCookie).length = 240 := by
  rw [List.length_append, h]
  rfl

theorem slice_cookie {header : Bytes} (h : header.length = 236) (rest : Bytes) :
    slice 236 240 (header ++ magicCookie ++ rest) = magicCookie := by
  unfold slice
  rw [List.take_left' (length_header_cookie h), List.drop_left' h]

/-- A datagram is read, with what is known of its options. -/
theorem parse_items {header : Bytes} (hheader : header.length = 236) (items : List Item)
    (tail : Bytes) :
    ∃ p, DHCPPacket.parse (datagram header items tail) = .ok p ∧
      HeaderOf (datagram header items tail) p ∧ p.clientArch = (learned items).clientArch ∧
      p.isIpxe = (learned items).isIpxe ∧ p.options = (learned items).options := by
  have hlen : 240 ≤ (datagram header items tail).length := by
    unfold datagram
    rw [List.length_append, length_header_cookie hheader]
    omega
  have hdrop : (datagram header items tail).drop 240
      = items.flatMap Item.bytes ++ 255 :: tail :=
    List.drop_left' (length_header_cookie hheader)
  refine parse_of_scanned hlen (slice_cookie hheader _) ?_
  rw [hdrop]
  exact parseOptions_items tail items {}

theorem learned_isIpxe_iff (os : List DHCPOption) :
    os.any DHCPOption.tellsIpxe = true ↔ (∃ o ∈ os, o.code = 175) ∨
      ∃ o ∈ os, o.code = 77 ∧ "iPXE".toList <:+: decodeAsciiIgnore o.data := by
  simp only [List.any_eq_true, DHCPOption.tellsIpxe, saysIpxe, Bool.or_eq_true,
    Bool.and_eq_true, decide_eq_true_eq]
  constructor
  · rintro ⟨o, ho, huser | hcode⟩
    · exact .inr ⟨o, ho, huser⟩
    · exact .inl ⟨o, ho, hcode⟩
  · rintro (⟨o, ho, hcode⟩ | ⟨o, ho, huser⟩)
    · exact ⟨o, ho, .inr hcode⟩
    · exact ⟨o, ho, .inl huser⟩

/-- **READING A DATAGRAM**: the parser returns, with the header as it stands there, the last
data for each code, the architecture of the last option 93 that is long enough, and iPXE by
option 175 or by the user class. -/
theorem parse_datagram (header : Bytes) (hheader : header.length = 236) (items : List Item)
    (tail : Bytes) :
    ∃ p, DHCPPacket.parse (datagram header items tail) = .ok p ∧
      HeaderOf (datagram header items tail) p ∧
      (∀ code, Dict.get p.options code
        = Dict.lastValue code ((optionsOf items).map (fun o => (o.code, o.data)))) ∧
      (p.isIpxe = true ↔ (∃ o ∈ optionsOf items, o.code = 175) ∨
        ∃ o ∈ optionsOf items, o.code = 77 ∧
          "iPXE".toList <:+: decodeAsciiIgnore o.data) ∧
      p.clientArch = (((optionsOf items).filter
        (fun o => o.code = 93 && 2 ≤ o.data.length)).getLast?).bind (fun o => archOf o.data) := by
  obtain ⟨p, hp, hhead, harch, hipxe, hoptions⟩ := parse_items hheader items tail
  refine ⟨p, hp, hhead, fun code => ?_, ?_, ?_⟩
  · rw [hoptions, get_learned]
  · rw [hipxe, learned, learn_isIpxe, Bool.false_or]
    exact learned_isIpxe_iff _
  · rw [harch, learned, learn_clientArch]
    show _ = ((optionsOf items).filter DHCPOption.givesArch).getLast?.bind _
    cases ((optionsOf items).filter DHCPOption.givesArch).getLast? <;> rfl

/-- A request of a UEFI client, with its user class behind some padding. -/
def uefiItems : List Item :=
  [.option ⟨93, [0, 7], by decide, by decide, by decide⟩, .pad,
   .option ⟨77, [0x69, 0x50, 0x58, 0x45], by decide, by decide, by decide⟩]

theorem parse_datagram_uefi :
    ∃ p, DHCPPacket.parse (datagram (List.replicate 236 1) uefiItems [7]) = .ok p ∧
      p.op = 1 ∧ p.isIpxe = true ∧ p.clientArch = some .uefiX64 ∧
      Dict.get p.options 93 = some [0, 7] ∧ Dict.get p.options 53 = none := by
  obtain ⟨p, hp, hhead, hoptions, hipxe, harch⟩ :=
    parse_datagram (List.replicate 236 1) (List.length_replicate ..) uefiItems [7]
  have hop : some p.op = some 1 := hhead.op.symm
  refine ⟨p, hp, Option.some.inj hop, hipxe.mpr ?_, harch.trans (by decide),
    (hoptions 93).trans (by decide), (hoptions 53).trans (by decide)⟩
  right
  exact ⟨⟨77, [0x69, 0x50, 0x58, 0x45], by decide, by decide, by decide⟩, by
    simp [optionsOf, uefiItems, Item.option?], rfl, by decide⟩

end PureBoot.Dhcp
