/-
  PureBoot.Tftp.Codec — TFTP PACKETS as bytes.

  Embeds `pxe/tftp_server.py: TFTPPacket` (`parse` and its four parts, `build_data`,
  `build_ack`, `build_error`, `build_oack`).  A builder refuses a number that does not
  fit into 16 bits and a text that is not ASCII; the parser refuses what it cannot read.

  The options of a request are pairs of texts, each with a NUL behind it; the parser
  splits at the NULs and stops at the first empty name, which the NUL behind the last
  text always gives it.

  Main results:
    * `parseOptions_pairs` — what the loop over the parts leaves;
    * `parse_undoes_build` — the parser undoes the builders, and reads any request.
-/
import PureBoot.Lib.Bytes
import PureBoot.Lib.Dict
import PureBoot.Lib.Run
import PureBoot.Tftp.Transfer

namespace PureBoot.Tftp

open PureBoot.Lib

/-! ## §1. Packets. -/

/-- `OpCode`. -/
inductive OpCode where
  | rrq
  | wrq
  | data
  | ack
  | error
  | oack
  deriving DecidableEq, Repr

/-- The number of an operation. -/
def OpCode.number : OpCode → Nat
  | .rrq => 1
  | .wrq => 2
  | .data => 3
  | .ack => 4
  | .error => 5
  | .oack => 6

/-- `OpCode(n)`. -/
def OpCode.ofNumber? : Nat → Option OpCode
  | 1 => some .rrq
  | 2 => some .wrq
  | 3 => some .data
  | 4 => some .ack
  | 5 => some .error
  | 6 => some .oack
  | _ => none

theorem OpCode.ofNumber?_number (op : OpCode) : OpCode.ofNumber? op.number = some op := by
  cases op <;> rfl

theorem OpCode.number_lt (op : OpCode) : op.number < 65536 := by
  cases op <;> decide

inductive PacketError where
  | valueError (message : String)
  | structError
  | unicodeError
  deriving DecidableEq, Repr

/-- `TFTPPacket`. -/
structure TFTPPacket where
  opcode : OpCode
  filename : List Char := []
  mode : List Char := "octet".toList
  blockNum : Nat := 0
  data : Bytes := []
  errorCode : Nat := 0
  errorMessage : List Char := []
  options : Dict (List Char) (List Char) := Table.empty

/-- `str.lower`, for ASCII. -/
def lower (text : List Char) : List Char := text.map Char.toLower

/-! ## §2. Reading. -/

/-- `struct.unpack("!H", bytes)[0]`. -/
def unpack (bytes : Bytes) : Except PacketError Nat :=
  match unpackBe16 bytes with
  | some n => .ok n
  | none => .error .structError

/-- `bytes.decode("ascii")`. -/
def decode (bytes : Bytes) : Except PacketError (List Char) :=
  match decodeAscii bytes with
  | some text => .ok text
  | none => .error .unicodeError

namespace TFTPPacket

/-- The loop of `_parse_request`, over the parts from the third on. -/
def parseOptions (options : Dict (List Char) (List Char)) :
    List Bytes → Except PacketError (Dict (List Char) (List Char))
  | name :: value :: rest =>
      if name = [] then .ok options
      else do
        let name ← decode name
        let value ← decode value
        parseOptions (Dict.set options (lower name) value) rest
  | _ => .ok options

/-- `_parse_request`. -/
def parseRequest (opcode : OpCode) (data : Bytes) : Except PacketError TFTPPacket :=
  match data.splitOn 0 with
  | [] => .error (.valueError "")
  | [filename] => do
      let filename ← decode filename
      .ok { opcode, filename }
  | filename :: mode :: rest => do
      let filename ← decode filename
      let mode ← decode mode
      let options ← parseOptions Table.empty rest
      .ok { opcode, filename, mode := lower mode, options }

/-- `_parse_data`. -/
def parseData (data : Bytes) : Except PacketError TFTPPacket := do
  let blockNum ← unpack (data.take 2)
  .ok { opcode := .data, blockNum, data := data.drop 2 }

/-- `_parse_ack`. -/
def parseAck (data : Bytes) : Except PacketError TFTPPacket := do
  let blockNum ← unpack (data.take 2)
  .ok { opcode := .ack, blockNum }

/-- `_parse_error`. -/
def parseError (data : Bytes) : Except PacketError TFTPPacket := do
  let errorCode ← unpack (data.take 2)
  let errorMessage ← decode (((data.drop 2).splitOn 0).headD [])
  .ok { opcode := .error, errorCode, errorMessage }

/-- The branches of `parse`. -/
def parseBody (opcode : OpCode) (data : Bytes) : Except PacketError TFTPPacket :=
  match opcode with
  | .rrq | .wrq => parseRequest opcode data
  | .data => parseData data
  | .ack => parseAck data
  | .error => parseError data
  | .oack => .error (.valueError "Unknown opcode: 6")

/-- `parse`. -/
def parse (data : Bytes) : Except PacketError TFTPPacket :=
  if data.length < 2 then .error (.valueError "Packet too short")
  else do
    let number ← unpack (data.take 2)
    match OpCode.ofNumber? number with
    | none => .error (.valueError (toString number ++ " is not a valid OpCode"))
    | some opcode => parseBody opcode (data.drop 2)

/-! ## §3. Writing. -/

/-- `struct.pack("!H", n)`. -/
def pack (n : Nat) : Except PacketError Bytes :=
  match packBe16 n with
  | some bytes => .ok bytes
  | none => .error .structError

/-- `text.encode("ascii")`. -/
def encode (text : List Char) : Except PacketError Bytes :=
  match encodeAscii text with
  | some bytes => .ok bytes
  | none => .error .unicodeError

/-- `struct.pack("!HH", opcode, n)`. -/
def packHeader (opcode : OpCode) (n : Nat) : Except PacketError Bytes := do
  let first ← pack opcode.number
  let second ← pack n
  .ok (first ++ second)

/-- `build_data`. -/
def buildData (blockNum : Nat) (data : Bytes) : Except PacketError Bytes := do
  let header ← packHeader .data blockNum
  .ok (header ++ data)

/-- `build_ack`. -/
def buildAck (blockNum : Nat) : Except PacketError Bytes := packHeader .ack blockNum

/-- `build_error`. -/
def buildError (errorCode : Nat) (message : List Char) : Except PacketError Bytes := do
  let header ← packHeader .error errorCode
  let message ← encode message
  .ok (header ++ message ++ [0])

/-- The loop of `build_oack`. -/
def addOptions (packet : Bytes) : List (List Char × List Char) → Except PacketError Bytes
  | [] => .ok packet
  | (name, value) :: options => do
      let name ← encode name
      let value ← encode value
      addOptions (packet ++ name ++ [0] ++ value ++ [0]) options

/-- `build_oack`. -/
def buildOack (options : List (List Char × List Char)) : Except PacketError Bytes := do
  let packet ← pack OpCode.oack.number
  addOptions packet options

/-- The bytes of a read request: the operation, then each text with a NUL behind it. -/
def encodeRequest (filename mode : List Char) (options : List (List Char × List Char)) : Bytes :=
  be16 OpCode.rrq.number ++ terminated 0
    ((filename :: mode :: options.flatMap (fun o => [o.1, o.2])).map
      (fun text => text.map asciiByte))

/-! ## §4. Reading what was written. -/

/-- ASCII without a NUL. -/
def Plain (text : List Char) : Prop := IsAscii text ∧ '\x00' ∉ text

instance (text : List Char) : Decidable (Plain text) := inferInstanceAs (Decidable (_ ∧ _))

theorem unpack_be16 {n : Nat} (h : n < 65536) : unpack (be16 n) = .ok n := by
  unfold unpack
  rw [unpackBe16_be16 h]

theorem pack_of_lt {n : Nat} (h : n < 65536) : pack n = .ok (be16 n) := by
  unfold pack
  rw [packBe16_of_lt h]

theorem decode_plain {text : List Char} (h : IsAscii text) :
    decode (text.map asciiByte) = .ok text := by
  unfold decode
  rw [decodeAscii_encodeAscii h]

theorem encode_plain {text : List Char} (h : IsAscii text) :
    encode text = .ok (text.map asciiByte) := by
  unfold encode
  rw [encodeAscii_of_isAscii h]

/-- The bytes of a text without a NUL have no zero. -/
theorem Plain.no_zero {text : List Char} (h : Plain text) : (0 : UInt8) ∉ text.map asciiByte :=
  asciiByte_notMem (c := '\x00') h.1 (by decide) h.2

theorem packHeader_of_lt (opcode : OpCode) {n : Nat} (h : n < 65536) :
    packHeader opcode n = .ok (be16 opcode.number ++ be16 n) := by
  unfold packHeader
  rw [pack_of_lt opcode.number_lt, ok_bind, pack_of_lt h, ok_bind]

/-- The operation decides which part reads the rest. -/
theorem parse_be16 (opcode : OpCode) (rest : Bytes) :
    parse (be16 opcode.number ++ rest) = parseBody opcode rest := by
  have hlen : ¬ (be16 opcode.number ++ rest).length < 2 := by
    simp [be16]
  unfold parse
  rw [if_neg hlen, take_be16, drop_be16, unpack_be16 opcode.number_lt, ok_bind,
    OpCode.ofNumber?_number]

/-- **THE LOOP OVER THE PARTS** sets the options, in their order. -/
theorem parseOptions_pairs : ∀ (options : List (List Char × List Char))
    (d : Dict (List Char) (List Char)),
    (∀ o ∈ options, IsAscii o.1 ∧ IsAscii o.2 ∧ o.1 ≠ []) →
    parseOptions d (options.flatMap (fun o => [o.1.map asciiByte, o.2.map asciiByte]) ++ [[]])
      = .ok (Dict.setAll d (options.map (fun o => (lower o.1, o.2)))) := by
  intro options
  induction options with
  | nil =>
      intro d _
      rfl
  | cons o options ih =>
      intro d h
      obtain ⟨hname, hvalue, hne⟩ := h o List.mem_cons_self
      have hbytes : o.1.map asciiByte ≠ [] := by simpa using hne
      rw [List.flatMap_cons]
      show parseOptions d (o.1.map asciiByte :: o.2.map asciiByte ::
        (options.flatMap (fun o => [o.1.map asciiByte, o.2.map asciiByte]) ++ [[]])) = _
      rw [parseOptions, if_neg hbytes, decode_plain hname, ok_bind, decode_plain hvalue, ok_bind,
        ih _ (fun o' ho' => h o' (List.mem_cons_of_mem o ho'))]
      rfl

theorem parse_buildData {blockNum : Nat} (h : blockNum < 65536) (payload : Bytes) :
    (buildData blockNum payload >>= parse)
      = .ok { opcode := .data, blockNum, data := payload } := by
  unfold buildData
  rw [packHeader_of_lt .data h, ok_bind, ok_bind, List.append_assoc, parse_be16]
  show parseData (be16 blockNum ++ payload) = _
  unfold parseData
  rw [take_be16, drop_be16, unpack_be16 h, ok_bind]

theorem parse_buildAck {blockNum : Nat} (h : blockNum < 65536) :
    (buildAck blockNum >>= parse) = .ok { opcode := .ack, blockNum } := by
  unfold buildAck
  rw [packHeader_of_lt .ack h, ok_bind, parse_be16, ← List.append_nil (be16 blockNum)]
  show parseAck (be16 blockNum ++ []) = _
  unfold parseAck
  rw [take_be16, unpack_be16 h, ok_bind]

theorem parse_buildError {errorCode : Nat} (h : errorCode < 65536) {message : List Char}
    (hmessage : Plain message) :
    (buildError errorCode message >>= parse)
      = .ok { opcode := .error, errorCode, errorMessage := message } := by
  have hsplit : (message.map asciiByte ++ [0]).splitOn 0 = [message.map asciiByte, []] := by
    rw [List.splitOn_append_cons_self, List.splitOn_eq_singleton hmessage.no_zero]
    rfl
  unfold buildError
  rw [packHeader_of_lt .error h, ok_bind, encode_plain hmessage.1, ok_bind, ok_bind,
    List.append_assoc, List.append_assoc, parse_be16]
  show parseError (be16 errorCode ++ (message.map asciiByte ++ [0])) = _
  unfold parseError
  rw [take_be16, drop_be16, unpack_be16 h, ok_bind, hsplit]
  show (decode (message.map asciiByte) >>= _) = _
  rw [decode_plain hmessage.1, ok_bind]

/-- The texts of a request. -/
structure PlainRequest (filename mode : List Char) (options : List (List Char × List Char)) :
    Prop where
  filename : Plain filename
  mode : Plain mode
  options : ∀ o ∈ options, Plain o.1 ∧ Plain o.2 ∧ o.1 ≠ []

/-- Splitting finds the parts of a request, and the empty one behind the last NUL. -/
theorem splitOn_request {filename mode : List Char} {options : List (List Char × List Char)}
    (h : PlainRequest filename mode options) :
    (terminated 0 ((filename :: mode :: options.flatMap (fun o => [o.1, o.2])).map
        (fun text => text.map asciiByte))).splitOn (0 : UInt8)
      = filename.map asciiByte :: mode.map asciiByte ::
        (options.flatMap (fun o => [o.1.map asciiByte, o.2.map asciiByte]) ++ [[]]) := by
  have hfree : ∀ part ∈ (filename :: mode :: options.flatMap (fun o => [o.1, o.2])).map
      (fun text => text.map asciiByte), (0 : UInt8) ∉ part := by
    intro part hpart
    obtain ⟨text, htext, rfl⟩ := List.mem_map.mp hpart
    rcases List.mem_cons.mp htext with rfl | htext
    · exact h.filename.no_zero
    rcases List.mem_cons.mp htext with rfl | htext
    · exact h.mode.no_zero
    obtain ⟨o, ho, htext⟩ := List.mem_flatMap.mp htext
    obtain ⟨hname, hvalue, -⟩ := h.options o ho
    rcases List.mem_cons.mp htext with rfl | htext
    · exact hname.no_zero
    · rw [List.mem_singleton.mp htext]
      exact hvalue.no_zero
  have hsplit := splitOn_terminated hfree []
  rw [List.append_nil, List.splitOn_nil] at hsplit
  rw [hsplit, List.map_cons, List.map_cons, List.map_flatMap]
  rfl

theorem parse_encodeRequest {filename mode : List Char}
    {options : List (List Char × List Char)} (h : PlainRequest filename mode options) :
    parse (encodeRequest filename mode options)
      = .ok { opcode := .rrq, filename, mode := lower mode,
              options := Dict.setAll Table.empty (options.map (fun o => (lower o.1, o.2))) } := by
  have hoptions : ∀ o ∈ options, IsAscii o.1 ∧ IsAscii o.2 ∧ o.1 ≠ [] := by
    intro o ho
    obtain ⟨hname, hvalue, hne⟩ := h.options o ho
    exact ⟨hname.1, hvalue.1, hne⟩
  unfold encodeRequest
  rw [parse_be16]
  show parseRequest .rrq _ = _
  unfold parseRequest
  rw [splitOn_request h]
  dsimp only
  rw [decode_plain h.filename.1, ok_bind, decode_plain h.mode.1, ok_bind,
    parseOptions_pairs options Table.empty hoptions, ok_bind]

/-- **THE PARSER UNDOES THE BUILDERS**, and reads every request of NUL-free ASCII texts: the
last value counts for a name, whatever its case. -/
theorem parse_undoes_build :
    (∀ blockNum < 65536, ∀ payload, (buildData blockNum payload >>= parse)
        = .ok { opcode := .data, blockNum, data := payload }) ∧
      (∀ blockNum < 65536, (buildAck blockNum >>= parse) = .ok { opcode := .ack, blockNum }) ∧
      (∀ errorCode < 65536, ∀ message, Plain message → (buildError errorCode message >>= parse)
        = .ok { opcode := .error, errorCode, errorMessage := message }) ∧
      ∀ filename mode options, PlainRequest filename mode options →
        ∃ p, parse (encodeRequest filename mode options) = .ok p ∧ p.opcode = .rrq ∧
          p.filename = filename ∧ p.mode = lower mode ∧ ∀ name, Dict.get p.options name
            = Dict.lastValue name (options.map (fun o => (lower o.1, o.2))) := by
  refine ⟨fun _ h payload => parse_buildData h payload, fun _ h => parse_buildAck h,
    fun _ h _ hmessage => parse_buildError h hmessage, ?_⟩
  intro filename mode options h
  refine ⟨_, parse_encodeRequest h, rfl, rfl, rfl, fun name => ?_⟩
  rw [Dict.get_setAll, Dict.get_empty, Option.or_none]

theorem plainRequest_blksize : PlainRequest "a".toList "OCTET".toList
    [("BlkSize".toList, "512".toList), ("blksize".toList, []), ("tsize".toList, "0".toList)] where
  filename := by decide
  mode := by decide
  options := by decide

/-- A request that names an option twice, the second time with an empty value. -/
theorem parse_undoes_build_blksize :
    ∃ p, parse (encodeRequest "a".toList "OCTET".toList [("BlkSize".toList, "512".toList),
        ("blksize".toList, []), ("tsize".toList, "0".toList)]) = .ok p ∧
      p.mode = "octet".toList ∧ Dict.get p.options "blksize".toList = some [] := by
  obtain ⟨p, hp, -, -, hmode, hget⟩ := parse_undoes_build.2.2.2 _ _ _ plainRequest_blksize
  refine ⟨p, hp, hmode.trans (by decide), (hget _).trans (by decide)⟩

end TFTPPacket

/-- What a datagram is to the transfer. -/
def Reply.ofDatagram (data : Bytes) : Reply :=
  match TFTPPacket.parse data with
  | .ok packet =>
      match packet.opcode with
      | .ack => .ack packet.blockNum
      | .error => .error (String.ofList packet.errorMessage)
      | _ => .other
  | .error _ => .other

/-- An acknowledgement is received as the one that was built. -/
theorem ofDatagram_buildAck {blockNum : Nat} {data : Bytes} (h : blockNum < 65536)
    (hdata : TFTPPacket.buildAck blockNum = .ok data) :
    Reply.ofDatagram data = .ack blockNum := by
  have hparse := TFTPPacket.parse_buildAck h
  rw [hdata, ok_bind] at hparse
  unfold Reply.ofDatagram
  rw [hparse]

end PureBoot.Tftp
