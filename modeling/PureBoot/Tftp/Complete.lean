/-
  PureBoot.Tftp.Complete — which files a client that acknowledges everything gets.

  Against such a client the transfer is deterministic: it sends the blocks of the file
  one after the other (`promptRun_reading`).  What it sends is complete, and its end is
  recognisable, if the file is not empty (an empty one is sent as no block at all), the
  block size is not below eight, and the last block number fits into 16 bits.

  Main result:
    * `transfer_complete_iff` — exactly these.
-/
import Mathlib.Logic.Function.Iterate
import PureBoot.Tftp.Transfer

namespace PureBoot.Tftp

open PureBoot.Lib

/-! ## §1. A client that acknowledges every packet. -/

/-- The number such a client acknowledges a packet with. -/
def Packet.ackNumber : Packet → Option Nat
  | .oack _ _ => some 0
  | .data blockNum _ => some blockNum
  | .error _ _ => none

/-- The payload of a DATA packet. -/
def Packet.payload? : Packet → Option Bytes
  | .data _ payload => some payload
  | _ => none

/-- The server goes on: a wait gets the acknowledgement of the last packet, and a read
returns. -/
def promptStep (t : Transfer) : Transfer :=
  match t.waiting with
  | some _ =>
      match t.sent.getLast?.bind Packet.ackNumber with
      | some n => (t.datagramReceived (.ack n)).wake
      | none => t
  | none => t.readStep

def promptRun (n : Nat) (t : Transfer) : Transfer :=
  promptStep^[n] t

/-- The payloads of the DATA packets sent. -/
def payloads (t : Transfer) : List Bytes :=
  t.sent.filterMap Packet.payload?

/-- The options of a request with an integer block size, or without one. -/
def requestOptions (tsize : Bool) (requested : Option Int) : Options where
  tsize := tsize
  blksize := requested.map .ok

/-- The block size is in the range of RFC 2348 and the one announced; the transfer
returns True, and its DATA blocks make up the file, all of them full but the last, which
is shorter. -/
def Completes (content : Bytes) (options : Options) : Prop :=
  let t := Transfer.start (.file content) options
  (8 ≤ t.blksize ∧ t.blksize ≤ 65464) ∧
    ∃ n, (promptRun n t).pc = .finished true ∧
      (∀ tsize b, .oack tsize (some b) ∈ (promptRun n t).sent → b = t.blksize) ∧
      ∃ full short, payloads (promptRun n t) = full ++ [short] ∧
        (full ++ [short]).flatten = content ∧ (∀ p ∈ full, (p.length : Int) = t.blksize) ∧
        (short.length : Int) < t.blksize

/-- The file is not empty, the block size is not below eight, and the number of blocks
fits. -/
def Fits (content : Bytes) (requested : Option Int) : Prop :=
  content ≠ [] ∧ 8 ≤ requested.getD 512 ∧
    content.length / (min (requested.getD 512) 65464).toNat + 1 ≤ 65535

/-! ## §2. The run against this client. -/

theorem promptRun_add (m n : Nat) (t : Transfer) :
    promptRun (m + n) t = promptRun n (promptRun m t) := by
  unfold promptRun
  rw [Nat.add_comm, Function.iterate_add_apply]

theorem promptRun_one (t : Transfer) : promptRun 1 t = promptStep t := rfl

theorem promptRun_finished {t : Transfer} {result : Bool} (h : t.pc = .finished result) :
    ∀ n, promptRun n t = t := by
  have hfixed : promptStep t = t := by
    unfold promptStep Transfer.waiting Transfer.readStep
    rw [h]
  intro n
  induction n with
  | zero => rfl
  | succ n ih =>
      rw [promptRun_add, ih, promptRun_one]
      exact hfixed

/-- The transfer ends in one way only. -/
theorem promptRun_unique {t : Transfer} {m n : Nat} {r r' : Bool}
    (hm : (promptRun m t).pc = .finished r) (hn : (promptRun n t).pc = .finished r') :
    promptRun m t = promptRun n t := by
  rcases Nat.le_total m n with hle | hle
  · obtain ⟨k, rfl⟩ := Nat.exists_eq_add_of_le hle
    rw [promptRun_add, promptRun_finished hm]
  · obtain ⟨k, rfl⟩ := Nat.exists_eq_add_of_le hle
    rw [promptRun_add, promptRun_finished hn]

/-- A wait gets the acknowledgement it is for. -/
theorem promptStep_waiting {t : Transfer} {packet : Packet} {before : List Packet}
    {expected tries : Nat} {pc : Nat → Pc} (hwaiting : t.waiting = some (expected, tries, pc))
    (hsent : t.sent = before ++ [packet]) (hack : packet.ackNumber = some expected)
    (hdone : t.done = false) :
    promptStep t = ({ t with lastAckBlock := expected, ackEvent := true } : Transfer).acked true := by
  have hlast : t.sent.getLast?.bind Packet.ackNumber = some expected := by
    rw [hsent, List.getLast?_concat]
    exact hack
  have hwaiting' : (t.datagramReceived (.ack expected)).waiting = some (expected, tries, pc) :=
    hwaiting
  unfold promptStep
  rw [hwaiting]
  dsimp only
  rw [hlast]
  show (t.datagramReceived (.ack expected)).wake = _
  unfold Transfer.wake
  rw [hwaiting']
  dsimp only
  rw [if_pos (show (t.datagramReceived (.ack expected)).ackEvent = true from rfl),
    if_neg (by rw [show (t.datagramReceived (.ack expected)).done = false from hdone]; decide),
    if_pos (show (t.datagramReceived (.ack expected)).lastAckBlock = (expected : Int) from rfl)]
  rfl

/-- The DATA packets of blocks, numbered from `m`. -/
def numbered : Nat → List Bytes → List Packet
  | _, [] => []
  | m, payload :: rest => .data m payload :: numbered (m + 1) rest

theorem payloads_numbered : ∀ (m : Nat) (l : List Bytes),
    (numbered m l).filterMap Packet.payload? = l
  | _, [] => rfl
  | m, payload :: rest => by
      unfold numbered
      have hdata : Packet.payload? (.data m payload) = some payload := rfl
      rw [List.filterMap_cons_some hdata, payloads_numbered (m + 1) rest]

theorem not_oack_numbered : ∀ (m : Nat) (l : List Bytes) (tsize : Option Nat) (b : Option Int),
    .oack tsize b ∉ numbered m l
  | _, [], _, _ => by
      intro h
      cases h
  | m, payload :: rest, tsize, b => by
      intro h
      rcases List.mem_cons.mp h with h | h
      · cases h
      · exact not_oack_numbered (m + 1) rest tsize b h

/-- How a transfer that has come to a read goes on: to the end if the block numbers
suffice, else to an error. -/
structure Ends (t : Transfer) (m : Nat) (blocks : List Bytes) (t' : Transfer) : Prop where
  complete : m + blocks.length ≤ 65536 →
    t'.pc = .finished true ∧ t'.sent = t.sent ++ numbered m blocks
  overflow : ¬ m + blocks.length ≤ 65536 → t'.pc = .finished false

theorem sendData_fits {t : Transfer} {m : Nat} (hm : m ≤ 65535) (payload : Bytes) (pc : Pc) :
    t.sendData m payload pc = (t.send (.data m payload)).wait pc := by
  unfold Transfer.sendData buildData
  rw [if_pos hm]

theorem sendData_overflow {t : Transfer} {m : Nat} (hm : ¬ m ≤ 65535) (payload : Bytes) (pc : Pc) :
    t.sendData m payload pc = t.fail .notDefined structError := by
  unfold Transfer.sendData buildData
  rw [if_neg hm]

/-- A step of the server at a read. -/
theorem promptStep_reading {t : Transfer} {m : Nat} {chunk rest : Bytes}
    (hpc : t.pc = .reading m chunk rest) : promptStep t = t.readStep := by
  unfold promptStep Transfer.waiting
  rw [hpc]

/-- The end of the file is read. -/
theorem readStep_end {t : Transfer} {m : Nat} {chunk rest : Bytes}
    (hpc : t.pc = .reading m chunk rest) (hread : (read (min t.blksize maxBlksize) rest).1 = []) :
    t.readStep = if (chunk.length : Int) = t.blksize then
        t.sendData m [] (.final m (maxRetries - 1)) else { t with pc := .finished true } := by
  unfold Transfer.readStep
  rw [hpc]
  dsimp only
  cases h : read (min t.blksize maxBlksize) rest with
  | mk next rest' =>
      rw [h] at hread
      dsimp only at hread
      rw [hread]

/-- A chunk is read and sent. -/
theorem readStep_chunk {t : Transfer} {m : Nat} {chunk rest : Bytes}
    (hpc : t.pc = .reading m chunk rest) (hread : (read (min t.blksize maxBlksize) rest).1 ≠ []) :
    t.readStep = t.sendData m (read (min t.blksize maxBlksize) rest).1
      (.data m (read (min t.blksize maxBlksize) rest).1 (read (min t.blksize maxBlksize) rest).2
        (maxRetries - 1) (maxRetries - 1)) := by
  unfold Transfer.readStep
  rw [hpc]
  dsimp only
  cases h : read (min t.blksize maxBlksize) rest with
  | mk next rest' =>
      rw [h] at hread
      cases next with
      | nil => exact absurd rfl hread
      | cons a next => rfl

/-- A block whose number does not fit into 16 bits ends the transfer. -/
theorem ends_overflow {t : Transfer} {m : Nat} {payload : Bytes} {pc : Pc} {blocks : List Bytes}
    (hfits : ¬ m ≤ 65535) (hblocks : blocks ≠ []) (hstep : promptStep t = t.sendData m payload pc) :
    Ends t m blocks (promptRun 1 t) := by
  rw [sendData_overflow hfits] at hstep
  have hlen : 0 < blocks.length := List.length_pos_iff.mpr hblocks
  refine ⟨?_, ?_⟩
  · intro hle
    omega
  · intro _
    rw [promptRun_one, hstep]
    rfl

/-- The end of the file: a full last block is followed by an empty one. -/
theorem ends_of_file {blksize : Int} {t : Transfer} {m : Nat} {chunk rest : Bytes}
    (hpc : t.pc = .reading m chunk rest) (hmin : min t.blksize maxBlksize = blksize)
    (hblksize : t.blksize = blksize) (hdone : t.done = false) (hm : m ≤ 65536)
    (hread : (read blksize rest).1 = []) :
    ∃ n, Ends t m (closed blksize chunk rest) (promptRun n t) := by
  have hstep : promptStep t = if (chunk.length : Int) = blksize then
      t.sendData m [] (.final m (maxRetries - 1)) else { t with pc := .finished true } := by
    rw [promptStep_reading hpc, readStep_end hpc (by rw [hmin]; exact hread), hblksize]
  rw [closed_of_read_nil hread]
  by_cases hfull : (chunk.length : Int) = blksize
  · rw [if_pos hfull] at hstep ⊢
    by_cases hfits : m ≤ 65535
    · -- the closing empty block, and its acknowledgement
      rw [sendData_fits hfits] at hstep
      have hack : promptStep (promptStep t) = { t with
          lastAckBlock := m, ackEvent := true, sent := t.sent ++ [.data m []],
          pc := .finished true } := by
        have hwaiting : ((t.send (.data m [])).wait (.final m (maxRetries - 1))).waiting
            = some (m, maxRetries - 1, .final m) := rfl
        rw [hstep]
        exact promptStep_waiting hwaiting rfl rfl hdone
      refine ⟨2, ?_, ?_⟩
      · intro _
        rw [show promptRun 2 t = promptStep (promptStep t) from rfl, hack]
        exact ⟨rfl, rfl⟩
      · intro hover
        simp only [List.length_singleton] at hover
        omega
    · exact ⟨1, ends_overflow hfits (List.cons_ne_nil _ _) hstep⟩
  · rw [if_neg hfull] at hstep ⊢
    refine ⟨1, ?_, ?_⟩
    · intro _
      rw [promptRun_one, hstep]
      exact ⟨rfl, (List.append_nil _).symm⟩
    · intro hover
      exact absurd hm hover

/-- A chunk that is sent and acknowledged: two steps. -/
theorem promptStep_chunk {t : Transfer} {m : Nat} {chunk rest : Bytes} (hfits : m ≤ 65535)
    (hdone : t.done = false)
    (hstep : promptStep t = t.sendData m chunk
      (.data m chunk rest (maxRetries - 1) (maxRetries - 1))) :
    promptStep (promptStep t) = { t with
      lastAckBlock := m, ackEvent := true, sent := t.sent ++ [.data m chunk],
      pc := .reading (m + 1) chunk rest } := by
  rw [sendData_fits hfits] at hstep
  have hwaiting : ((t.send (.data m chunk)).wait
      (.data m chunk rest (maxRetries - 1) (maxRetries - 1))).waiting
      = some (m, maxRetries - 1, .data m chunk rest (maxRetries - 1)) := rfl
  rw [hstep]
  exact promptStep_waiting hwaiting rfl rfl hdone

/-- What follows a chunk that was sent and acknowledged. -/
theorem ends_after_chunk {t : Transfer} {m n : Nat} {chunk rest : Bytes} {blocks : List Bytes}
    (hack : promptStep (promptStep t) = { t with
      lastAckBlock := m, ackEvent := true, sent := t.sent ++ [.data m chunk],
      pc := .reading (m + 1) chunk rest })
    (h : Ends (promptStep (promptStep t)) (m + 1) blocks (promptRun n (promptStep (promptStep t)))) :
    Ends t m (chunk :: blocks) (promptRun (2 + n) t) := by
  obtain ⟨hcomplete, hoverflow⟩ := h
  have hrun : promptRun (2 + n) t = promptRun n (promptStep (promptStep t)) := by
    rw [promptRun_add]
    rfl
  refine ⟨?_, ?_⟩
  · intro hle
    rw [List.length_cons] at hle
    obtain ⟨hend, hsent⟩ := hcomplete (by omega)
    rw [hrun]
    refine ⟨hend, ?_⟩
    rw [hsent, hack]
    show (t.sent ++ [_]) ++ numbered (m + 1) _ = t.sent ++ numbered m (_ :: _)
    rw [List.append_assoc]
    rfl
  · intro hover
    rw [List.length_cons] at hover
    rw [hrun]
    exact hoverflow (by omega)

/-- **THE BLOCKS ARE SENT ONE AFTER THE OTHER**, until the end of the file or of the
block numbers. -/
theorem promptRun_reading (blksize : Int) (hsize : min blksize maxBlksize = blksize) :
    ∀ (rest : Bytes) {t : Transfer} {m : Nat} {chunk : Bytes}, t.pc = .reading m chunk rest →
      t.blksize = blksize → t.done = false → m ≤ 65536 →
      ∃ n, Ends t m (closed blksize chunk rest) (promptRun n t) := by
  intro rest
  -- by the length of what is left to read
  induction hlen : rest.length using Nat.strongRecOn generalizing rest with
  | _ k ih =>
      intro t m chunk hpc hblksize hdone hm
      have hmin : min t.blksize maxBlksize = blksize := by
        rw [hblksize]
        exact hsize
      by_cases hread : (read blksize rest).1 = []
      · exact ends_of_file hpc hmin hblksize hdone hm hread
      · have hshort := read_shorter hread
        have hstep : promptStep t = t.sendData m (read blksize rest).1
            (.data m (read blksize rest).1 (read blksize rest).2 (maxRetries - 1)
              (maxRetries - 1)) := by
          rw [promptStep_reading hpc, readStep_chunk hpc (by rw [hmin]; exact hread), hmin]
        rw [closed_of_read_ne_nil hread]
        by_cases hfits : m ≤ 65535
        · have hack := promptStep_chunk hfits hdone hstep
          have hpc' : (promptStep (promptStep t)).pc
              = .reading (m + 1) (read blksize rest).1 (read blksize rest).2 := by
            rw [hack]
          have hblksize' : (promptStep (promptStep t)).blksize = blksize := by
            rw [hack]
            exact hblksize
          have hdone' : (promptStep (promptStep t)).done = false := by
            rw [hack]
            exact hdone
          obtain ⟨n, hends⟩ := ih (read blksize rest).2.length (by omega)
            (read blksize rest).2 rfl hpc' hblksize' hdone' (by omega)
          exact ⟨2 + n, ends_after_chunk hack hends⟩
        · exact ⟨1, ends_overflow hfits (List.cons_ne_nil _ _) hstep⟩

/-! ## §3. The beginning of the transfer. -/

theorem blksizeOf_request (tsize : Bool) (requested : Option Int) :
    blksizeOf (requestOptions tsize requested)
      = .ok (requested.map (fun r => min r maxBlksize)) := by
  cases requested with
  | none => rfl
  | some r => rfl

/-- The block size of a request. -/
theorem blksize_request (requested : Option Int) :
    (requested.map (fun r => min r maxBlksize)).getD defaultBlksize
      = min (requested.getD 512) 65464 := by
  cases requested with
  | none => rfl
  | some r => rfl

theorem promptStep_opening {t : Transfer} {content : Bytes} (hpc : t.pc = .opening)
    (hlookup : t.lookup = .file content) :
    promptStep t = { t with pc := .reading 1 [] content } := by
  unfold promptStep Transfer.waiting
  rw [hpc]
  dsimp only
  unfold Transfer.readStep
  rw [hpc]
  dsimp only
  split
  next heq => exact absurd (hlookup.symm.trans heq) (by simp)
  next heq => exact absurd (hlookup.symm.trans heq) (by simp)
  next heq => exact absurd (hlookup.symm.trans heq) (by simp)
  next content' heq =>
    obtain rfl : content = content' := by
      rw [hlookup] at heq
      injection heq
    rfl

/-- Up to the first read the server has sent at most an OACK, which announces the block
size it uses. -/
structure Opened (content : Bytes) (size : Int) (t : Transfer) : Prop where
  pc : t.pc = .reading 1 [] content
  done : t.done = false
  blksize : t.blksize = size
  payloads : t.sent.filterMap Packet.payload? = []
  oack : ∀ tsize b, .oack tsize (some b) ∈ t.sent → b = size

theorem promptRun_start (content : Bytes) (tsize : Bool) (requested : Option Int) :
    (Transfer.start (.file content) (requestOptions tsize requested)).blksize
        = min (requested.getD 512) 65464 ∧
      ∃ n, Opened content (min (requested.getD 512) 65464)
        (promptRun n (Transfer.start (.file content) (requestOptions tsize requested))) := by
  rw [← blksize_request requested]
  rcases Transfer.start_file content (requestOptions tsize requested) with
    ⟨code, message, hblk, -⟩ | ⟨blksize, hblk, ⟨-, -, hstart⟩ | ⟨-, ts, hstart⟩⟩
  · rw [blksizeOf_request] at hblk
    cases hblk
  · -- no OACK: the first step opens the file
    rw [blksizeOf_request] at hblk
    injection hblk with hblk
    rw [hblk, hstart]
    refine ⟨rfl, 1, ?_⟩
    rw [promptRun_one, promptStep_opening rfl rfl]
    refine ⟨rfl, rfl, rfl, rfl, ?_⟩
    intro ts b hsent
    cases hsent
  · -- an OACK, its acknowledgement, and then the file
    rw [blksizeOf_request] at hblk
    injection hblk with hblk
    rw [hblk]
    generalize Transfer.start (.file content) (requestOptions tsize requested) = t at hstart ⊢
    have hsent : t.sent = [] ++ [.oack ts blksize] := by rw [hstart]; rfl
    have hwaiting : t.waiting = some (0, maxRetries - 1, .oack) := by rw [hstart]; rfl
    have hdone : t.done = false := by rw [hstart]; rfl
    have hacked : promptStep t
        = { t with lastAckBlock := 0, ackEvent := true, pc := .opening } := by
      rw [promptStep_waiting hwaiting hsent rfl hdone, hstart]
      rfl
    have hopened : promptRun 2 t
        = { t with lastAckBlock := 0, ackEvent := true, pc := .reading 1 [] content } := by
      show promptStep (promptStep t) = _
      rw [hacked]
      refine promptStep_opening rfl ?_
      rw [hstart]
      rfl
    refine ⟨by rw [hstart]; rfl, 2, ?_⟩
    rw [hopened]
    refine ⟨rfl, hdone, by rw [hstart]; rfl, by rw [hsent]; rfl, ?_⟩
    intro ts' b hmem
    have hmem : .oack ts' (some b) ∈ t.sent := hmem
    rw [hsent] at hmem
    have heq := List.mem_singleton.mp hmem
    injection heq with _ heq
    rw [← heq]
    rfl

/-! ## §4. Exactly which transfers are complete. -/

/-- Every file reaches the end of its transfer: with all blocks of the file sent, or with
an error if their numbers do not fit. -/
theorem promptRun_ends (content : Bytes) (tsize : Bool) (requested : Option Int) :
    ∃ n t, promptRun n (Transfer.start (.file content) (requestOptions tsize requested)) = t ∧
      (1 + (closed (min (requested.getD 512) 65464) [] content).length ≤ 65536 →
        t.pc = .finished true ∧ payloads t = closed (min (requested.getD 512) 65464) [] content ∧
          ∀ ts b, .oack ts (some b) ∈ t.sent → b = min (requested.getD 512) 65464) ∧
      (¬ 1 + (closed (min (requested.getD 512) 65464) [] content).length ≤ 65536 →
        t.pc = .finished false) := by
  obtain ⟨-, m, hopened⟩ := promptRun_start content tsize requested
  have hmin : min (min (requested.getD 512) 65464) maxBlksize = min (requested.getD 512) 65464 := by
    unfold maxBlksize
    omega
  obtain ⟨n, hcomplete, hoverflow⟩ := promptRun_reading _ hmin content hopened.pc hopened.blksize
    hopened.done (by omega)
  refine ⟨m + n, _, promptRun_add m n _, ?_, hoverflow⟩
  intro hle
  obtain ⟨hpc, hsent⟩ := hcomplete hle
  refine ⟨hpc, ?_, ?_⟩
  · unfold payloads
    rw [hsent, List.filterMap_append, hopened.payloads, payloads_numbered]
    rfl
  · intro ts b hmem
    rw [hsent] at hmem
    rcases List.mem_append.mp hmem with hmem | hmem
    · exact hopened.oack ts b hmem
    · exact absurd hmem (not_oack_numbered 1 _ ts (some b))

/-- **COMPLETE TRANSFERS ARE EXACTLY THOSE OF FILES THAT FIT.** -/
theorem transfer_complete_iff (content : Bytes) (tsize : Bool) (requested : Option Int) :
    Completes content (requestOptions tsize requested) ↔ Fits content requested := by
  obtain ⟨hblksize, -⟩ := promptRun_start content tsize requested
  obtain ⟨n, t, hrun, hcomplete, hoverflow⟩ := promptRun_ends content tsize requested
  unfold Completes Fits
  dsimp only
  rw [hblksize]
  -- the block size as a natural number
  generalize hsize : (min (requested.getD 512) 65464).toNat = size
  constructor
  · rintro ⟨⟨hlow, hhigh⟩, n', hpc', -, full, short, hpayloads, -, -, -⟩
    have hsize' : min (requested.getD 512) 65464 = (size : Int) := by omega
    by_cases hle : 1 + (closed (min (requested.getD 512) 65464) [] content).length ≤ 65536
    · obtain ⟨hpc, hsent, -⟩ := hcomplete hle
      have hsame := promptRun_unique hpc' (hrun.symm ▸ hpc)
      rw [hsame, hrun, hsent] at hpayloads
      rw [hsize'] at hle hpayloads
      have hcontent : content ≠ [] := by
        -- nothing is sent of an empty file
        rintro rfl
        have hend : (read (size : Int) ([] : Bytes)).1 = [] :=
          (List.append_eq_nil_iff.mp (read_append _ [])).1
        rw [closed_of_read_nil hend, if_neg (by simp only [List.length_nil]; omega)] at hpayloads
        exact absurd hpayloads.symm (by simp)
      refine ⟨hcontent, by omega, ?_⟩
      obtain ⟨full', short', hshape, -, -, hcount⟩ :=
        closed_shape (show 0 < size by omega) [] hcontent
      rw [hshape, List.length_append, hcount, List.length_singleton] at hle
      omega
    · have hsame := promptRun_unique hpc' (hrun.symm ▸ hoverflow hle)
      rw [hsame, hrun, hoverflow hle] at hpc'
      cases hpc'
  · rintro ⟨hcontent, hlow, hfits⟩
    have hsize' : min (requested.getD 512) 65464 = (size : Int) := by omega
    have hpos : 0 < size := by omega
    obtain ⟨full, short, hshape, hfull, hshort, hcount⟩ := closed_shape hpos [] hcontent
    have hle : 1 + (closed (min (requested.getD 512) 65464) [] content).length ≤ 65536 := by
      rw [hsize', hshape, List.length_append, hcount, List.length_singleton]
      omega
    obtain ⟨hpc, hsent, hoack⟩ := hcomplete hle
    refine ⟨by omega, n, by rw [hrun]; exact hpc, by rw [hrun]; exact hoack, full, short,
      ?_, ?_, ?_, ?_⟩
    · rw [hrun, hsent, hsize', hshape]
    · rw [← hshape]
      exact closed_flatten (by omega) [] content
    · intro p hp
      rw [hsize', hfull p hp]
    · omega

/-- The empty file is sent as no block at all. -/
theorem transfer_of_empty_file_incomplete : ¬ Completes [] (requestOptions false none) := by
  rintro ⟨-, n, hpc, -, full, short, hpayloads, -⟩
  have hend : (promptRun 2 (Transfer.start (.file []) (requestOptions false none))).pc
      = .finished true := by decide
  have hnone : payloads (promptRun 2 (Transfer.start (.file []) (requestOptions false none)))
      = [] := by decide
  rw [promptRun_unique hpc hend, hnone] at hpayloads
  exact absurd hpayloads.symm (by simp)

end PureBoot.Tftp
