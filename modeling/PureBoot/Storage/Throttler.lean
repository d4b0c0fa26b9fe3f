/-
  PureBoot.Storage.Throttler — the BANDWIDTH of boot files that are being served.

  Embeds `core/bandwidth_throttler.py`: the register of transfers with their priorities,
  the bytes that a transfer is allowed for an interval, and `throttled_iterator`, that cuts
  a content into pieces and sleeps between them.  Numbers that the source keeps as floats
  are rationals.  The path and the start of a transfer, that are only logged, are left out.

  An iterator is a little machine that goes on from one `await` to the next.  The lock of
  the throttler is never held across one, so it does not appear.

  Main results:
    * `le_getAllowedBytes`, `getAllowedBytes_le` — the floor and the cap of an allowance;
    * `get_resume_of_ne` — an iterator minds its own entry of the throttler.
-/
import PureBoot.Lib.Dict
import PureBoot.Lib.Run
import Mathlib.Data.Rat.Floor
import Mathlib.Tactic.NormNum
import Mathlib.Tactic.Linarith
import Mathlib.Tactic.Positivity

namespace PureBoot.Storage

open PureBoot.Lib

/-! ## §1. Transfers. -/

/-- `MIN_BANDWIDTH_MBPS`. -/
def minBandwidthMbps : Nat := 1

/-- `MIN_BANDWIDTH_BYTES_PER_SEC`. -/
def minBandwidthBytesPerSec : Nat := minBandwidthMbps * 125000

structure ActiveTransfer where
  totalBytes : Int
  bytesTransferred : Int := 0
  priority : ℚ := 1
  deriving DecidableEq

namespace ActiveTransfer

variable (t : ActiveTransfer)

/-- The fraction that is transferred. -/
def progress : ℚ :=
  if t.totalBytes ≤ 0 then 0 else min 1 (t.bytesTransferred / t.totalBytes)

def remainingBytes : Int := max 0 (t.totalBytes - t.bytesTransferred)

/-- `calculate_priority`. -/
def calculatePriority : ℚ :=
  let sizeFactor : ℚ :=
    if t.totalBytes < 10 * 1024 * 1024 then 1 - t.totalBytes / (10 * 1024 * 1024) else 0
  let completionFactor : ℚ :=
    if 8 / 10 < t.progress then (t.progress - 8 / 10) / (2 / 10) else 0
  1 + sizeFactor + completionFactor

end ActiveTransfer

/-! ## §2. The throttler. -/

structure BandwidthThrottler where
  totalBandwidthBytesPerSec : Int
  /-- By the id of the transfer. -/
  transfers : Dict String ActiveTransfer := Table.empty

/-- `int(x)`. -/
def truncate (x : ℚ) : Int := if 0 ≤ x then ⌊x⌋ else ⌈x⌉

@[simp] theorem truncate_intCast (k : Int) : truncate k = k := by
  unfold truncate
  rw [Int.floor_intCast, Int.ceil_intCast, ite_self]

theorem truncate_mono {x y : ℚ} (hxy : x ≤ y) : truncate x ≤ truncate y := by
  unfold truncate
  split_ifs with hx hy hy
  · exact Int.floor_le_floor hxy
  · exact absurd (hx.trans hxy) hy
  · have hx' : ⌈x⌉ ≤ 0 := Int.ceil_le.mpr (by simpa using (not_le.mp hx).le)
    exact hx'.trans (Int.floor_nonneg.mpr hy)
  · exact Int.ceil_le_ceil hxy

namespace BandwidthThrottler

variable (throttler : BandwidthThrottler)

/-- `register_transfer`. -/
def registerTransfer (transferId : String) (totalBytes : Int) : BandwidthThrottler :=
  let transfer : ActiveTransfer := { totalBytes }
  { throttler with
    transfers := throttler.transfers.set transferId
      { transfer with priority := transfer.calculatePriority } }

/-- `unregister_transfer`. -/
def unregisterTransfer (transferId : String) : BandwidthThrottler :=
  { throttler with transfers := throttler.transfers.pop transferId }

/-- `update_progress`. -/
def updateProgress (transferId : String) (bytesSent : Nat) : BandwidthThrottler :=
  match throttler.transfers.get transferId with
  | none => throttler
  | some transfer =>
      let transfer := { transfer with bytesTransferred := transfer.bytesTransferred + bytesSent }
      { throttler with
        transfers := throttler.transfers.set transferId
          { transfer with priority := transfer.calculatePriority } }

/-- `get_allowed_bytes`. -/
def getAllowedBytes (transferId : String) (intervalSeconds : ℚ) : Int :=
  match throttler.transfers.get transferId with
  | none => 0
  | some transfer =>
      let totalPriority := (throttler.transfers.rows.map (fun p => p.2.priority)).sum
      let priorityShare := transfer.priority / totalPriority
      let totalBytesThisInterval := throttler.totalBandwidthBytesPerSec * intervalSeconds
      let allowed := truncate (totalBytesThisInterval * priorityShare)
      let minAllowed := truncate (minBandwidthBytesPerSec * intervalSeconds)
      min (max allowed minAllowed) transfer.remainingBytes

end BandwidthThrottler

section Allowance

variable {throttler : BandwidthThrottler} {transferId other : String} {transfer : ActiveTransfer}

/-- The floor for a tenth of a second. -/
theorem truncate_minBandwidth :
    truncate ((minBandwidthBytesPerSec : ℚ) * (1 / 10)) = 12500 := by
  have hvalue : (minBandwidthBytesPerSec : ℚ) * (1 / 10) = ((12500 : Int) : ℚ) := by
    unfold minBandwidthBytesPerSec minBandwidthMbps
    norm_num
  rw [hvalue, truncate_intCast]

theorem getAllowedBytes_of_get (h : throttler.transfers.get transferId = some transfer) :
    ∃ allowed, throttler.getAllowedBytes transferId (1 / 10)
      = min (max allowed 12500) transfer.remainingBytes := by
  unfold BandwidthThrottler.getAllowedBytes
  rw [h, ← truncate_minBandwidth]
  exact ⟨_, rfl⟩

/-- **THE FLOOR**: what is left of the transfer, or 12500 bytes for a tenth of a second. -/
theorem le_getAllowedBytes (h : throttler.transfers.get transferId = some transfer) :
    min 12500 transfer.remainingBytes ≤ throttler.getAllowedBytes transferId (1 / 10) := by
  obtain ⟨allowed, hallowed⟩ := getAllowedBytes_of_get h
  rw [hallowed]
  exact min_le_min_right _ (le_max_right allowed 12500)

/-- **THE CAP**: what is left of the transfer. -/
theorem getAllowedBytes_le (h : throttler.transfers.get transferId = some transfer) :
    throttler.getAllowedBytes transferId (1 / 10) ≤ transfer.remainingBytes := by
  obtain ⟨allowed, hallowed⟩ := getAllowedBytes_of_get h
  rw [hallowed]
  exact min_le_right _ _

theorem get_updateProgress (h : throttler.transfers.get transferId = some transfer) (n : Nat) :
    ∃ transfer', (throttler.updateProgress transferId n).transfers.get transferId
        = some transfer' ∧ transfer'.totalBytes = transfer.totalBytes ∧
      transfer'.bytesTransferred = transfer.bytesTransferred + n := by
  unfold BandwidthThrottler.updateProgress
  rw [h]
  dsimp only
  rw [Dict.get_set, if_pos rfl]
  exact ⟨_, rfl, rfl, rfl⟩

theorem get_updateProgress_of_ne (h : other ≠ transferId) (n : Nat) :
    (throttler.updateProgress transferId n).transfers.get other
      = throttler.transfers.get other := by
  unfold BandwidthThrottler.updateProgress
  split
  next => rfl
  next =>
    dsimp only
    rw [Dict.get_set, if_neg h]

end Allowance

/-! ## §3. The iterator. -/

/-- The default of `chunk_size`, that no caller overrides. -/
def chunkSize : Nat := 8192

/-- A file that is served: `register_transfer` and `throttled_iterator` with its content. -/
structure Download (α : Type) where
  transferId : String
  totalBytes : Int
  content : List (List α)

/-- Where an iterator is. -/
inductive Point where
  /-- Nobody has asked it for a piece. -/
  | start
  /-- `async for chunk in content_iterator`. -/
  | pull
  /-- `while len(buffer) >= chunk_size`. -/
  | fill
  /-- `while buffer`. -/
  | drain
  /-- In one of the two loops, with bytes that it is allowed. -/
  | send (draining : Bool) (allowed : Int)
  | finished
  deriving DecidableEq

/-- An iterator, and the pieces it has yielded. -/
structure Consumer (α : Type) where
  download : Download α
  /-- The chunks that are still to come. -/
  content : List (List α)
  buffer : List α := []
  point : Point := .start
  /-- The end of the sleep it is in. -/
  due : ℚ := 0
  yielded : List (List α) := []

variable {α : Type}

namespace Consumer

variable (c : Consumer α)

def transferId : String := c.download.transferId

/-- The bytes it has yielded. -/
def sent : Nat := c.yielded.flatten.length

/-- `if allowed <= 0: await asyncio.sleep(0.1)`. -/
def ask (now : ℚ) (draining : Bool) (allowed : Int) : Consumer α :=
  if allowed ≤ 0 then { c with due := now + 1 / 10 } else { c with point := .send draining allowed }

/-- `min(len(buffer), allowed, chunk_size)`. -/
def sendSize (allowed : Int) : Nat := min (min c.buffer.length allowed.toNat) chunkSize

/-- The iterator goes on to its next `await`. -/
def resume (throttler : BandwidthThrottler) (now : ℚ) : Consumer α × BandwidthThrottler :=
  match c.point with
  | .start => ({ c with point := .pull, due := now }, throttler)
  | .pull =>
      match c.content with
      | [] => ({ c with point := .drain }, throttler)
      | chunk :: content =>
          ({ c with content, buffer := c.buffer ++ chunk, point := .fill }, throttler)
  | .fill =>
      if chunkSize ≤ c.buffer.length then
        (c.ask now false (throttler.getAllowedBytes c.transferId (1 / 10)), throttler)
      else ({ c with point := .pull }, throttler)
  | .drain =>
      if c.buffer.isEmpty then
        ({ c with point := .finished }, throttler.unregisterTransfer c.transferId)
      else (c.ask now true (throttler.getAllowedBytes c.transferId (1 / 10)), throttler)
  | .send draining allowed =>
      let toSend := c.buffer.take (c.sendSize allowed)
      let buffer := c.buffer.drop (c.sendSize allowed)
      ({ c with
          buffer, yielded := c.yielded ++ [toSend]
          point := if draining then .drain else .fill
          -- the last piece is not followed by a sleep
          due := if draining && buffer.isEmpty then c.due else now + 1 / 100 },
        throttler.updateProgress c.transferId toSend.length)
  | .finished => (c, throttler)

theorem transferId_resume (throttler : BandwidthThrottler) (now : ℚ) :
    (c.resume throttler now).1.transferId = c.transferId := by
  unfold resume ask
  repeat' split
  all_goals rfl

/-- An iterator minds its own entry of the throttler. -/
theorem get_resume_of_ne {other : String} (h : other ≠ c.transferId)
    (throttler : BandwidthThrottler) (now : ℚ) :
    (c.resume throttler now).2.transfers.get other = throttler.transfers.get other := by
  unfold resume
  split
  next => rfl
  next => split <;> rfl
  next => split <;> rfl
  next =>
    split
    next => exact Dict.get_pop_of_ne _ h
    next => rfl
  next => exact get_updateProgress_of_ne h _
  next => rfl

end Consumer

/-! ## §4. Many iterators. -/

/-- The throttler, the iterators and the clock. -/
structure Serving (α : Type) where
  throttler : BandwidthThrottler
  consumers : Table (Consumer.transferId (α := α))
  now : ℚ := 0

inductive Tick where
  | resume (transferId : String)
  /-- The client goes away: `finally`. -/
  | close (transferId : String)
  /-- Time passes, up to the end of the first sleep. -/
  | advance (now : ℚ)

/-- One step: an iterator whose sleep is over goes on in no time, or time passes. -/
def servingStep (s : Serving α) : Tick → Serving α
  | .resume transferId =>
      match s.consumers.get? transferId with
      | none => s
      | some c =>
          if c.due ≤ s.now then
            { s with
              throttler := (c.resume s.throttler s.now).2
              consumers := s.consumers.put (c.resume s.throttler s.now).1 }
          else s
  | .close transferId =>
      match s.consumers.get? transferId with
      | none => s
      | some c =>
          { s with
            throttler := s.throttler.unregisterTransfer transferId
            consumers := s.consumers.put { c with point := .finished } }
  | .advance now =>
      if s.now ≤ now ∧
          ∀ c ∈ s.consumers.rows, c.point = .start ∨ c.point = .finished ∨ now ≤ c.due then
        { s with now }
      else s

/-- The files are registered, and no piece is asked for. -/
def serving (bandwidth : Int) (downloads : Table (Download.transferId (α := α))) : Serving α where
  throttler :=
    downloads.rows.foldl (fun throttler d => throttler.registerTransfer d.transferId d.totalBytes)
      { totalBandwidthBytesPerSec := bandwidth }
  consumers := downloads.view (fun d => { download := d, content := d.content }) (fun _ => rfl)

/-- The bytes that all iterators have yielded. -/
def Serving.sent (s : Serving α) : Nat := s.consumers.total Consumer.sent

end PureBoot.Storage
