/-
  PureBoot.Tftp.Transfer — one TFTP read transfer, as the server runs it.

  Embeds `pxe/tftp_server.py: TFTPTransfer` (`send_file`, `wait_for_ack`,
  `datagram_received`) with `TFTPHandler.read_file` and `TFTPPacket.build_data`.  The
  transfer is a coroutine that shares `last_ack_block` and `ack_event` with the
  callback that receives datagrams, so it is a machine: `Pc` says at which `await` it
  is, and each function below is what happens up to the next one — a datagram comes
  in, the event wakes the waiter, the waiter times out, a read of the file returns.

  The transfer is over when it has returned; every exception is caught in it and
  answered with an ERROR packet.
-/
import PureBoot.Lib.Chunks

namespace PureBoot.Tftp

open PureBoot.Lib

/-! ## §1. Packets. -/

abbrev Bytes : Type := List UInt8

/-- `DEFAULT_BLKSIZE`. -/
def defaultBlksize : Int := 512

/-- `MAX_BLKSIZE`. -/
def maxBlksize : Int := 65464

/-- `TFTPTransfer.MAX_RETRIES`. -/
def maxRetries : Nat := 3

/-- `ErrorCode`. -/
inductive ErrorCode where
  | notDefined
  | fileNotFound
  | accessViolation
  | diskFull
  | illegalOperation
  | unknownTid
  | fileExists
  | noSuchUser
  deriving DecidableEq, Repr

/-- The packets the transfer sends. -/
inductive Packet where
  | oack (tsize : Option Nat) (blksize : Option Int)
  | data (blockNum : Nat) (payload : Bytes)
  | error (code : ErrorCode) (message : String)
  deriving DecidableEq, Repr

/-- The packets it receives. -/
inductive Reply where
  | ack (blockNum : Nat)
  | error (message : String)
  /-- Any other packet, and any datagram that does not parse. -/
  | other
  deriving DecidableEq, Repr

/-- The text of the `struct.error` of a number that does not fit into 16 bits. -/
def structError : String := "'H' format requires 0 <= number <= 65535"

/-- `TFTPPacket.build_data`. -/
def buildData (blockNum : Nat) (payload : Bytes) : Except String Packet :=
  if blockNum ≤ 65535 then .ok (.data blockNum payload) else .error structError

/-! ## §2. The request. -/

/-- What the handler finds under the requested name. -/
inductive Lookup where
  /-- `_resolve_path` raises a `PermissionError`. -/
  | denied (message : String)
  | missing
  /-- A directory, say; with the message of the `PermissionError` of `read_file`. -/
  | notFile (size : Nat) (message : String)
  | file (content : Bytes)
  deriving DecidableEq, Repr

/-- The options the server looks at. -/
structure Options where
  tsize : Bool := false
  /-- The requested block size; the error is what `int` says of a text that is none. -/
  blksize : Option (Except String Int) := none

/-- `get_file_size` for the `tsize` option; a missing file is passed over. -/
def tsizeOf (options : Options) : Lookup → Except (ErrorCode × String) (Option Nat)
  | .denied message =>
      if options.tsize then .error (.accessViolation, message) else .ok none
  | .missing => .ok none
  | .notFile size _ => .ok (if options.tsize then some size else none)
  | .file content => .ok (if options.tsize then some content.length else none)

/-- The block size of the OACK, if it names one. -/
def blksizeOf (options : Options) : Except (ErrorCode × String) (Option Int) :=
  match options.blksize with
  | none => .ok none
  | some (.ok requested) => .ok (some (min requested maxBlksize))
  | some (.error message) => .error (.notDefined, message)

/-! ## §3. The state of a transfer. -/

/-- Where `send_file` is. -/
inductive Pc where
  /-- In `wait_for_ack(0)` for the OACK; `tries` more waits are left after this one. -/
  | oack (tries : Nat)
  /-- Before `read_file` opens the file. -/
  | opening
  /-- In a read of the file; `chunk` is what the last one got. -/
  | reading (blockNum : Nat) (chunk rest : Bytes)
  /-- In `wait_for_ack(block_num)`; the block may be sent `resends` more times. -/
  | data (blockNum : Nat) (chunk rest : Bytes) (resends tries : Nat)
  /-- In the wait for the acknowledgement of the closing empty block. -/
  | final (blockNum tries : Nat)
  /-- `send_file` has returned. -/
  | finished (result : Bool)
  deriving DecidableEq, Repr

/-- `TFTPTransfer`, with its request and everything it has sent. -/
structure Transfer where
  lookup : Lookup
  blksize : Int := defaultBlksize
  lastAckBlock : Int := -1
  ackEvent : Bool := false
  done : Bool := false
  pc : Pc := .opening
  sent : List Packet := []
  deriving DecidableEq, Repr

namespace Transfer

/-- `transport.sendto(packet, client_addr)`. -/
def send (t : Transfer) (packet : Packet) : Transfer :=
  { t with sent := t.sent ++ [packet] }

/-- An exception: an ERROR packet, and `send_file` returns False. -/
def fail (t : Transfer) (code : ErrorCode) (message : String) : Transfer :=
  { t.send (.error code message) with pc := .finished false }

/-- The next wait of `wait_for_ack` begins: the event is cleared. -/
def wait (t : Transfer) (pc : Pc) : Transfer :=
  { t with ackEvent := false, pc }

/-- Send a DATA packet and wait for its acknowledgement, at `pc`. -/
def sendData (t : Transfer) (blockNum : Nat) (payload : Bytes) (pc : Pc) : Transfer :=
  match buildData blockNum payload with
  | .ok packet => (t.send packet).wait pc
  | .error message => t.fail .notDefined message

/-! ## §4. Steps. -/

/-- `send_file` up to its first await. -/
def start (lookup : Lookup) (options : Options) : Transfer :=
  match tsizeOf options lookup with
  | .error (code, message) => fail { lookup } code message
  | .ok tsize =>
      match blksizeOf options with
      | .error (code, message) => fail { lookup } code message
      | .ok blksize =>
          let t : Transfer := { lookup, blksize := blksize.getD defaultBlksize }
          if tsize = none ∧ blksize = none then t
          else (t.send (.oack tsize blksize)).wait (.oack (maxRetries - 1))

/-- How a transfer of a file begins: with an error if the block size is no number, by
opening the file if no option is to be acknowledged, else with an OACK. -/
theorem start_file (content : Bytes) (options : Options) :
    (∃ code message, blksizeOf options = .error (code, message) ∧
        start (.file content) options = fail { lookup := .file content } code message) ∨
      ∃ blksize, blksizeOf options = .ok blksize ∧
        ((options.tsize = false ∧ blksize = none ∧ start (.file content) options
            = { lookup := .file content, blksize := blksize.getD defaultBlksize }) ∨
          ((options.tsize = true ∨ blksize ≠ none) ∧ ∃ tsize, start (.file content) options
            = (send { lookup := .file content, blksize := blksize.getD defaultBlksize }
                (.oack tsize blksize)).wait (.oack (maxRetries - 1)))) := by
  unfold start tsizeOf
  dsimp only
  cases hblk : blksizeOf options with
  | error e => exact .inl ⟨e.1, e.2, rfl, rfl⟩
  | ok blksize =>
      refine .inr ⟨blksize, rfl, ?_⟩
      cases htsize : options.tsize with
      | true => exact .inr ⟨.inl rfl, some content.length, if_neg (by simp)⟩
      | false =>
          by_cases hnone : blksize = none
          · exact .inl ⟨rfl, hnone, if_pos ⟨rfl, hnone⟩⟩
          · exact .inr ⟨.inr hnone, none, if_neg (by simp [hnone])⟩

/-- `datagram_received`. -/
def datagramReceived (t : Transfer) : Reply → Transfer
  | .ack blockNum => { t with lastAckBlock := blockNum, ackEvent := true }
  | .error _ =>
      -- an error before the first acknowledgement is ignored
      if 0 ≤ t.lastAckBlock then { t with done := true, ackEvent := true } else t
  | .other => t

/-- `error_received` and `connection_lost`. -/
def connectionLost (t : Transfer) : Transfer :=
  { t with done := true, ackEvent := true }

/-- A read of the file returns. -/
def readStep (t : Transfer) : Transfer :=
  match t.pc with
  | .opening =>
      match t.lookup with
      | .denied message => t.fail .accessViolation message
      | .missing => t.fail .fileNotFound "File not found"
      | .notFile _ message => t.fail .accessViolation message
      | .file content => { t with pc := .reading 1 [] content }
  | .reading blockNum chunk rest =>
      match read (min t.blksize maxBlksize) rest with
      | ([], _) =>
          -- the end of the file: an empty block if the last one was full
          if (chunk.length : Int) = t.blksize then
            t.sendData blockNum [] (.final blockNum (maxRetries - 1))
          else { t with pc := .finished true }
      | (a :: next, rest') =>
          t.sendData blockNum (a :: next)
            (.data blockNum (a :: next) rest' (maxRetries - 1) (maxRetries - 1))
  | _ => t

/-- `wait_for_ack` returns. -/
def acked (t : Transfer) (success : Bool) : Transfer :=
  match t.pc with
  | .oack _ => { t with pc := if success then .opening else .finished false }
  | .data blockNum chunk rest resends _ =>
      if success then { t with pc := .reading (blockNum + 1) chunk rest }
      else
        match resends with
        | 0 => { t with pc := .finished false }
        | resends + 1 =>
            t.sendData blockNum chunk (.data blockNum chunk rest resends (maxRetries - 1))
  | .final _ _ => { t with pc := .finished true }
  | _ => t

/-- The block `wait_for_ack` waits for, the waits it has left, and where it would wait
next. -/
def waiting (t : Transfer) : Option (Nat × Nat × (Nat → Pc)) :=
  match t.pc with
  | .oack tries => some (0, tries, .oack)
  | .data blockNum chunk rest resends tries =>
      some (blockNum, tries, .data blockNum chunk rest resends)
  | .final blockNum tries => some (blockNum, tries, .final blockNum)
  | _ => none

/-- A wait is over without the acknowledgement it was for. -/
def retry (t : Transfer) : Transfer :=
  match t.waiting with
  | none => t
  | some (_, 0, _) => t.acked false
  | some (_, tries + 1, pc) => t.wait (pc tries)

/-- The wait times out. -/
def timeout (t : Transfer) : Transfer :=
  t.retry

/-- The event wakes the wait. -/
def wake (t : Transfer) : Transfer :=
  match t.waiting with
  | none => t
  | some (expectedBlock, _, _) =>
      if t.ackEvent then
        if t.done then t.acked false
        else if t.lastAckBlock = expectedBlock then t.acked true
        else t.retry
      else t

end Transfer

end PureBoot.Tftp
