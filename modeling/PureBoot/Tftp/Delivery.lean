/-
  PureBoot.Tftp.Delivery — a transfer over a network that loses, duplicates, delays
  and reorders.

  Everything either side has ever sent stays in the network (`sent`, `replies`), and a
  copy of any of it may arrive at any time, any number of times, or never.  The client
  is a lock-step one: it appends block `n` when it holds exactly `n - 1` blocks, and
  acknowledges only blocks it holds.

  An acknowledgement in the network, and so `last_ack_block`, is never ahead of what
  the client holds (`Inv`).  A stale one can wake the server, but it is then not the one
  the server waits for; so the server moves on to block `n + 1` only when the client has
  block `n`, and every DATA packet in the network is a block of the file the client has
  or needs next.

  Main results:
    * `inv_exec` — one step of either side or the network;
    * `delivery_safe` — every schedule.
-/
import PureBoot.Tftp.Transfer
import PureBoot.Lib.Run

namespace PureBoot.Tftp

open PureBoot.Lib

/-! ## §1. Server, network and client. -/

structure World where
  server : Transfer
  /-- Everything the client has sent. -/
  replies : List Reply := []
  /-- The number of blocks the client has. -/
  held : Nat := 0
  /-- What it has received. -/
  bytes : Bytes := []
  deriving DecidableEq, Repr

/-- The steps of the three. -/
inductive Label where
  /-- The server's read of the file returns. -/
  | read
  /-- The event wakes the server. -/
  | wake
  /-- The server's wait times out. -/
  | timeout
  /-- The server's socket reports an error or is closed. -/
  | connectionLost
  /-- A copy of packet `i` reaches the client. -/
  | toClient (i : Nat)
  /-- The client sends ACK `n`. -/
  | clientAck (n : Nat)
  /-- The client sends something else. -/
  | clientSends (reply : Reply)
  /-- A copy of reply `i` reaches the server. -/
  | toServer (i : Nat)

/-- The client gets a packet. -/
def clientReceives (w : World) : Packet → World
  | .data blockNum payload =>
      if blockNum = w.held + 1 then
        { w with held := w.held + 1, bytes := w.bytes ++ payload }
      else w
  | _ => w

def exec (w : World) : Label → World
  | .read => { w with server := w.server.readStep }
  | .wake => { w with server := w.server.wake }
  | .timeout => { w with server := w.server.timeout }
  | .connectionLost => { w with server := w.server.connectionLost }
  | .toClient i =>
      match w.server.sent[i]? with
      | some packet => clientReceives w packet
      | none => w
  | .clientAck n => if n ≤ w.held then { w with replies := w.replies ++ [.ack n] } else w
  | .clientSends reply =>
      match reply with
      | .ack _ => w
      | notAck => { w with replies := w.replies ++ [notAck] }
  | .toServer i =>
      match w.replies[i]? with
      | some reply => { w with server := w.server.datagramReceived reply }
      | none => w

/-- The client has asked for a file. -/
def World.start (content : Bytes) (options : Options) : World where
  server := Transfer.start (.file content) options

/-- The block size both sides use. -/
def blockSize (options : Options) : Int :=
  match blksizeOf options with
  | .ok (some blksize) => blksize
  | _ => defaultBlksize

/-! ## §2. What is to hold in every state. -/

structure Safe (content : Bytes) (size : Int) (w : World) : Prop where
  /-- The client has a number of chunks from the beginning of the file. -/
  received : ∃ k, w.bytes = ((chunks size content).take k).flatten
  /-- A block is sent only when the client has all those before it. -/
  lockstep : ∀ n payload, .data (n + 1) payload ∈ w.server.sent →
    n ≤ w.held ∧ ((chunks size content).take n).flatten <+: w.bytes
  /-- When `send_file` has returned True the client has every chunk, and with a block
  size that is one, the file. -/
  complete : w.server.pc = .finished true →
    w.bytes = (chunks size content).flatten ∧ (1 ≤ size → w.bytes = content)

/-- The blocks of the transfer: the chunks, and the closing empty one. -/
def blocks (size : Int) (content : Bytes) : List Bytes :=
  chunks size content ++ [[]]

/-- What the place of the server in the file says about the client. -/
def AtBlock (size : Int) (content : Bytes) (held : Nat) : Pc → Prop
  | .reading blockNum _ rest =>
      ∃ before, chunks size content = before ++ chunks size rest ∧
        blockNum = before.length + 1 ∧ before.length ≤ held
  | .data blockNum chunk rest _ _ =>
      ∃ before, chunks size content = before ++ chunk :: chunks size rest ∧
        blockNum = before.length + 1 ∧ before.length ≤ held
  | .final blockNum _ =>
      blockNum = (chunks size content).length + 1 ∧ (chunks size content).length ≤ held
  | .finished true => (chunks size content).length ≤ held
  | _ => True

/-- The server's part: it is never ahead of a client with `held` blocks. -/
structure ServerOk (content : Bytes) (size : Int) (held : Nat) (t : Transfer) : Prop where
  lookup : t.lookup = .file content
  blksize : min t.blksize maxBlksize = size
  sent : ∀ n payload, .data n payload ∈ t.sent →
    ∃ m, n = m + 1 ∧ m ≤ held ∧ (blocks size content)[m]? = some payload
  lastAck : t.lastAckBlock ≤ held
  place : AtBlock size content held t.pc

structure Inv (content : Bytes) (size : Int) (w : World) : Prop where
  server : ServerOk content size w.held w.server
  acks : ∀ n, .ack n ∈ w.replies → n ≤ w.held
  received : w.bytes = ((blocks size content).take w.held).flatten

/-- The closing block adds nothing. -/
theorem blocks_take_flatten (size : Int) (content : Bytes) (k : Nat) :
    ((blocks size content).take k).flatten = ((chunks size content).take k).flatten := by
  unfold blocks
  rw [List.take_append, List.flatten_append]
  have hempty : (([[]] : List Bytes).take (k - (chunks size content).length)).flatten = [] := by
    rw [List.flatten_eq_nil_iff]
    intro l hl
    rw [List.mem_singleton.mp (List.mem_of_mem_take hl)]
  rw [hempty, List.append_nil]

theorem Inv.safe {content : Bytes} {size : Int} {w : World} (h : Inv content size w) :
    Safe content size w := by
  have hbytes : w.bytes = ((chunks size content).take w.held).flatten := by
    rw [h.received, blocks_take_flatten]
  refine ⟨⟨w.held, hbytes⟩, ?_, ?_⟩
  · intro n payload hsent
    obtain ⟨m, hm, hheld, -⟩ := h.server.sent _ _ hsent
    obtain rfl : n = m := by omega
    refine ⟨hheld, ?_⟩
    -- the first `n` of the first `held` chunks
    have htake : (chunks size content).take n
        = ((chunks size content).take w.held).take n := by
      rw [List.take_take, Nat.min_eq_left hheld]
    rw [hbytes, htake]
    nth_rewrite 2 [← List.take_append_drop n ((chunks size content).take w.held)]
    rw [List.flatten_append]
    exact List.prefix_append _ _
  · intro hpc
    have hplace := h.server.place
    rw [hpc] at hplace
    have hall : w.bytes = (chunks size content).flatten := by
      rw [hbytes, List.take_of_length_le hplace]
    refine ⟨hall, ?_⟩
    intro hsize
    rw [hall, chunks_flatten (by omega)]

/-! ## §3. The server. -/

theorem AtBlock.mono {size : Int} {content : Bytes} {held held' : Nat} (hle : held ≤ held') :
    ∀ {pc : Pc}, AtBlock size content held pc → AtBlock size content held' pc
  | .reading _ _ _, ⟨before, hchunks, hblock, hbefore⟩ =>
      ⟨before, hchunks, hblock, Nat.le_trans hbefore hle⟩
  | .data _ _ _ _ _, ⟨before, hchunks, hblock, hbefore⟩ =>
      ⟨before, hchunks, hblock, Nat.le_trans hbefore hle⟩
  | .final _ _, ⟨hblock, hall⟩ => ⟨hblock, Nat.le_trans hall hle⟩
  | .finished true, hall => Nat.le_trans hall hle
  | .finished false, _ => trivial
  | .oack _, _ => trivial
  | .opening, _ => trivial

namespace ServerOk

variable {content : Bytes} {size : Int} {held : Nat} {t : Transfer}

theorem mono (h : ServerOk content size held t) {held' : Nat} (hle : held ≤ held') :
    ServerOk content size held' t where
  lookup := h.lookup
  blksize := h.blksize
  sent := by
    intro n payload hsent
    obtain ⟨m, hm, hheld, hblock⟩ := h.sent n payload hsent
    exact ⟨m, hm, Nat.le_trans hheld hle, hblock⟩
  lastAck := by
    have := h.lastAck
    omega
  place := h.place.mono hle

/-- The server is somewhere else, and has sent nothing. -/
theorem at_pc (h : ServerOk content size held t) {pc : Pc} {ackEvent done : Bool}
    (hplace : AtBlock size content held pc) :
    ServerOk content size held { t with pc, ackEvent, done } :=
  ⟨h.lookup, h.blksize, h.sent, h.lastAck, hplace⟩

theorem fail (h : ServerOk content size held t) (code : ErrorCode) (message : String) :
    ServerOk content size held (t.fail code message) := by
  refine ⟨h.lookup, h.blksize, ?_, h.lastAck, trivial⟩
  intro n payload hsent
  rcases List.mem_append.mp hsent with hsent | hsent
  · exact h.sent n payload hsent
  · cases List.mem_singleton.mp hsent

/-- A block is sent that the client has or needs next. -/
theorem sendData (h : ServerOk content size held t) {m : Nat} {payload : Bytes} {pc : Pc}
    (hm : m ≤ held) (hblock : (blocks size content)[m]? = some payload)
    (hplace : AtBlock size content held pc) :
    ServerOk content size held (t.sendData (m + 1) payload pc) := by
  unfold Transfer.sendData buildData
  by_cases hfits : m + 1 ≤ 65535
  · rw [if_pos hfits]
    refine ⟨h.lookup, h.blksize, ?_, h.lastAck, hplace⟩
    intro n payload' hsent
    rcases List.mem_append.mp hsent with hsent | hsent
    · exact h.sent n payload' hsent
    · have heq := List.mem_singleton.mp hsent
      injection heq with hn hpayload
      subst hn
      subst hpayload
      exact ⟨m, rfl, hm, hblock⟩
  · rw [if_neg hfits]
    exact h.fail _ _

/-- The block after `before` is the next chunk. -/
theorem block_of_chunk {before rest : List Bytes} {chunk : Bytes}
    (hchunks : chunks size content = before ++ chunk :: rest) :
    (blocks size content)[before.length]? = some chunk := by
  unfold blocks
  rw [hchunks, List.append_assoc, List.getElem?_append_right (Nat.le_refl _)]
  simp

theorem readStep (h : ServerOk content size held t) :
    ServerOk content size held t.readStep := by
  unfold Transfer.readStep
  cases hpc : t.pc with
  | opening =>
      have hlookup := h.lookup
      dsimp only
      split
      next heq => exact absurd (hlookup.symm.trans heq) (by simp)
      next heq => exact absurd (hlookup.symm.trans heq) (by simp)
      next heq => exact absurd (hlookup.symm.trans heq) (by simp)
      next content' heq =>
        obtain rfl : content = content' := by
          rw [hlookup] at heq
          injection heq
        exact h.at_pc ⟨[], rfl, rfl, Nat.zero_le _⟩
  | reading blockNum chunk rest =>
      have hplace := h.place
      rw [hpc] at hplace
      obtain ⟨before, hchunks, rfl, hbefore⟩ := hplace
      dsimp only
      rw [h.blksize]
      cases hread : read size rest with
      | mk next rest' =>
          cases next with
          | nil =>
              -- the end of the file: the chunks before are all there are
              have hend : chunks size rest = [] := chunks_of_read_nil (by rw [hread])
              rw [hend, List.append_nil] at hchunks
              dsimp only
              by_cases hfull : (chunk.length : Int) = t.blksize
              · rw [if_pos hfull]
                refine h.sendData hbefore ?_ ?_
                · unfold blocks
                  rw [hchunks]
                  simp
                · rw [← hchunks] at hbefore ⊢
                  exact ⟨rfl, hbefore⟩
              · rw [if_neg hfull]
                refine h.at_pc ?_
                show (chunks size content).length ≤ held
                rw [hchunks]
                exact hbefore
          | cons a next =>
              have hnext : chunks size rest = (a :: next) :: chunks size rest' := by
                have hne : (Lib.read size rest).1 ≠ [] := by
                  rw [hread]
                  simp
                rw [chunks_of_read_ne_nil hne, hread]
              rw [hnext] at hchunks
              dsimp only
              exact h.sendData hbefore (block_of_chunk hchunks) ⟨before, hchunks, rfl, hbefore⟩
  | _ => exact h

/-- `wait_for_ack` returns; it returns True only for a block the client has. -/
theorem acked (h : ServerOk content size held t) {success : Bool}
    (hack : success = true → ∀ expected tries pc, t.waiting = some (expected, tries, pc) →
      expected ≤ held) : ServerOk content size held (t.acked success) := by
  have hplace := h.place
  unfold Transfer.acked
  cases hpc : t.pc with
  | oack tries =>
      refine h.at_pc ?_
      cases success <;> exact trivial
  | data blockNum chunk rest resends tries =>
      rw [hpc] at hplace
      obtain ⟨before, hchunks, rfl, hbefore⟩ := hplace
      cases success with
      | true =>
          -- the client has one block more than before
          have hheld := hack rfl (before.length + 1) tries _ (by unfold Transfer.waiting; rw [hpc])
          refine h.at_pc ?_
          refine ⟨before ++ [chunk], ?_, ?_, ?_⟩
          · rw [hchunks, List.append_assoc]
            rfl
          · rw [List.length_append]
            rfl
          · rw [List.length_append]
            exact hheld
      | false =>
          cases resends with
          | zero => exact h.at_pc trivial
          | succ resends =>
              exact h.sendData hbefore (block_of_chunk hchunks) ⟨before, hchunks, rfl, hbefore⟩
  | final blockNum tries =>
      rw [hpc] at hplace
      exact h.at_pc hplace.2
  | _ => exact h

theorem retry (h : ServerOk content size held t) : ServerOk content size held t.retry := by
  have hplace := h.place
  have hfalse : ServerOk content size held (t.acked false) := h.acked (fun hf => by cases hf)
  unfold Transfer.retry Transfer.waiting
  cases hpc : t.pc with
  | oack tries =>
      cases tries with
      | zero => exact hfalse
      | succ tries => exact h.at_pc trivial
  | data blockNum chunk rest resends tries =>
      cases tries with
      | zero => exact hfalse
      | succ tries =>
          rw [hpc] at hplace
          exact h.at_pc hplace
  | final blockNum tries =>
      cases tries with
      | zero => exact hfalse
      | succ tries =>
          rw [hpc] at hplace
          exact h.at_pc hplace
  | _ => exact h

theorem wake (h : ServerOk content size held t) : ServerOk content size held t.wake := by
  unfold Transfer.wake
  split
  next => exact h
  next expected tries pc hwaiting =>
    split
    next =>
      split
      next => exact h.acked (fun hf => by cases hf)
      next =>
        split
        next hlast =>
          -- the acknowledgement it waits for: the client has the block
          refine h.acked ?_
          intro _ expected' tries' pc' hwaiting'
          rw [hwaiting] at hwaiting'
          injection hwaiting' with hwaiting'
          injection hwaiting' with hexpected
          have hle := h.lastAck
          omega
        next => exact h.retry
    next => exact h

theorem datagramReceived (h : ServerOk content size held t) {reply : Reply}
    (hreply : ∀ n, reply = .ack n → n ≤ held) :
    ServerOk content size held (t.datagramReceived reply) := by
  cases reply with
  | ack n =>
      have hle := hreply n rfl
      exact ⟨h.lookup, h.blksize, h.sent, by simpa [Transfer.datagramReceived] using hle, h.place⟩
  | error message =>
      show ServerOk content size held
        (if 0 ≤ t.lastAckBlock then { t with done := true, ackEvent := true } else t)
      split
      next => exact h.at_pc h.place
      next => exact h
  | other => exact h

end ServerOk

/-! ## §4. One step. -/

theorem inv_toClient {content : Bytes} {size : Int} {w : World} (h : Inv content size w)
    {packet : Packet} (hpacket : packet ∈ w.server.sent) :
    Inv content size (clientReceives w packet) := by
  cases packet with
  | data blockNum payload =>
      unfold clientReceives
      dsimp only
      by_cases hnext : blockNum = w.held + 1
      · rw [if_pos hnext]
        -- the next block of the file, and no other
        obtain ⟨m, hm, -, hblock⟩ := h.server.sent _ _ hpacket
        obtain rfl : m = w.held := by omega
        refine ⟨h.server.mono (Nat.le_succ _), ?_, ?_⟩
        · intro n hn
          exact Nat.le_succ_of_le (h.acks n hn)
        · show w.bytes ++ payload = ((blocks size content).take (w.held + 1)).flatten
          rw [List.take_add_one, hblock, List.flatten_append, ← h.received]
          simp
      · rw [if_neg hnext]
        exact h
  | oack tsize blksize => exact h
  | error code message => exact h

/-- **ONE STEP** of the server, the network or the client. -/
theorem inv_exec {content : Bytes} {size : Int} (w : World) (label : Label)
    (h : Inv content size w) : Inv content size (exec w label) := by
  cases label with
  | read => exact ⟨h.server.readStep, h.acks, h.received⟩
  | wake => exact ⟨h.server.wake, h.acks, h.received⟩
  | timeout => exact ⟨h.server.retry, h.acks, h.received⟩
  | connectionLost => exact ⟨h.server.at_pc h.server.place, h.acks, h.received⟩
  | toClient i =>
      unfold exec
      dsimp only
      split
      next packet hpacket => exact inv_toClient h (List.mem_of_getElem? hpacket)
      next => exact h
  | clientAck n =>
      unfold exec
      dsimp only
      split
      -- a client acknowledges only blocks it holds
      next hheld =>
        refine ⟨h.server, ?_, h.received⟩
        intro k hk
        rcases List.mem_append.mp hk with hk | hk
        · exact h.acks k hk
        · have heq := List.mem_singleton.mp hk
          injection heq with heq
          rw [heq]
          exact hheld
      next => exact h
  | clientSends reply =>
      cases reply with
      | ack n => exact h
      | _ =>
          refine ⟨h.server, ?_, h.received⟩
          intro k hk
          rcases List.mem_append.mp hk with hk | hk
          · exact h.acks k hk
          · cases List.mem_singleton.mp hk
  | toServer i =>
      unfold exec
      dsimp only
      split
      next reply hreply =>
        refine ⟨h.server.datagramReceived ?_, h.acks, h.received⟩
        intro n hn
        apply h.acks
        rw [← hn]
        exact List.mem_of_getElem? hreply
      next => exact h

/-! ## §5. Every schedule. -/

theorem min_blksize (requested : Int) :
    min (min requested maxBlksize) maxBlksize = min requested maxBlksize := by
  unfold maxBlksize
  omega

theorem blockSize_of_ok {options : Options} {blksize : Option Int}
    (h : blksizeOf options = .ok blksize) :
    min (blksize.getD defaultBlksize) maxBlksize = blockSize options := by
  unfold blockSize
  rw [h]
  cases blksize with
  | none => decide
  | some b =>
      unfold blksizeOf at h
      split at h
      next => cases h
      next requested _ =>
        injection h with h
        injection h with h
        rw [← h]
        exact min_blksize requested
      next => cases h

theorem serverOk_empty (content : Bytes) {size blksize : Int}
    (hsize : min blksize maxBlksize = size) :
    ServerOk content size 0 { lookup := .file content, blksize } where
  lookup := rfl
  blksize := hsize
  sent := by
    intro n payload hsent
    cases hsent
  lastAck := by
    show (-1 : Int) ≤ 0
    omega
  place := trivial

theorem inv_start (content : Bytes) (options : Options) :
    Inv content (blockSize options) (World.start content options) := by
  have hserver : ServerOk content (blockSize options) 0
      (Transfer.start (.file content) options) := by
    rcases Transfer.start_file content options with
      ⟨code, message, hblk, hstart⟩ | ⟨blksize, hblk, ⟨-, -, hstart⟩ | ⟨-, tsize, hstart⟩⟩
    · rw [hstart]
      refine (serverOk_empty content ?_).fail code message
      unfold blockSize
      rw [hblk]
      show min defaultBlksize maxBlksize = defaultBlksize
      decide
    · rw [hstart]
      exact serverOk_empty content (blockSize_of_ok hblk)
    · rw [hstart]
      have h := serverOk_empty content (blockSize_of_ok hblk)
      refine ⟨h.lookup, h.blksize, ?_, h.lastAck, trivial⟩
      -- the OACK is no DATA packet
      intro n payload hsent
      cases List.mem_singleton.mp hsent
  refine ⟨hserver, ?_, rfl⟩
  intro n hn
  cases hn

/-- **SAFE DELIVERY UNDER EVERY SCHEDULE** of server, network and client. -/
theorem delivery_safe (content : Bytes) (options : Options) (labels : List Label) :
    Always exec (Safe content (blockSize options)) (World.start content options) labels :=
  (always_of_step (fun w label h _ => inv_exec w label h) (inv_start content options)
    (along_true _ labels)).mono (fun _ h => h.safe)

/-- One byte, sent twice because the first wait runs out of time, and received twice. -/
example : (run exec (World.start [7] {})
    [.read, .read, .timeout, .timeout, .timeout, .toClient 0, .toClient 1, .clientAck 1, .toServer 0,
      .wake, .read]).server.pc = .finished true := by decide

end PureBoot.Tftp
