/-
  PureBoot.Storage.Throttled — does a THROTTLED content arrive, and does it end?

  `throttled_iterator` of `core/bandwidth_throttler.py` once more, for any `chunk_size`, and
  alone: what the other transfers do meanwhile is the environment's.  Each of its steps
  begins with any other active transfers and any bandwidth (`Moment`).

  An allowance is capped by what remains of the size that was registered.  An HTTP source
  without `Content-Length` is registered with the size 0, so nothing ever remains of it.
  As long as something remains, an allowance is positive, and every step lowers `work`.

  Main results:
    * `resume_eq_resumeBy` — this is the iterator of `Storage/Throttler.lean`;
    * `ThrottledOk.exec` — what a step preserves, `work_exec` — what it lowers;
    * `throttledIterator_delivers_iff` — the contents that arrive, and end.
-/
import PureBoot.Storage.Throttler

namespace PureBoot.Storage

open PureBoot.Lib

variable {α : Type}

/-! ## §1. The iterator, for any `chunk_size`. -/

namespace Consumer

variable (c : Consumer α)

/-- `min(len(buffer), allowed, chunk_size)`. -/
def sendSizeBy (chunkSize : Nat) (allowed : Int) : Nat :=
  min (min c.buffer.length allowed.toNat) chunkSize

/-- The iterator goes on to its next `await`. -/
def resumeBy (chunkSize : Nat) (throttler : BandwidthThrottler) (now : ℚ) :
    Consumer α × BandwidthThrottler :=
  match c.point with
  | .start => ({ c with point := .pull, due := now }, throttler)
  | .pull =>
      match c.content with
      | [] => ({ c with point := .drain }, throttler)
      | chunk :: content =>
          ({ c with content, buffer := c.buffer ++ chunk, point := .fill }, throttler)
  | .fill =>
      if chunkSize ≤ c.buffer.length then
        (c.ask now false (throttler.getAllowedBytes c.transferId (1 / 10)), throttler)
      else ({ c with point := .pull }, throttler)
  | .drain =>
      if c.buffer.isEmpty then
        ({ c with point := .finished }, throttler.unregisterTransfer c.transferId)
      else (c.ask now true (throttler.getAllowedBytes c.transferId (1 / 10)), throttler)
  | .send draining allowed =>
      let toSend := c.buffer.take (c.sendSizeBy chunkSize allowed)
      let buffer := c.buffer.drop (c.sendSizeBy chunkSize allowed)
      ({ c with
          buffer, yielded := c.yielded ++ [toSend]
          point := if draining then .drain else .fill
          due := if draining && buffer.isEmpty then c.due else now + 1 / 100 },
        throttler.updateProgress c.transferId toSend.length)
  | .finished => (c, throttler)

/-- The iterators of boot files have the default `chunk_size`. -/
theorem resume_eq_resumeBy (throttler : BandwidthThrottler) (now : ℚ) :
    c.resume throttler now = c.resumeBy chunkSize throttler now := rfl

end Consumer

/-! ## §2. One iterator among other transfers. -/

/-- What an iterator finds when it goes on: the time, the bandwidth and the other active
transfers. -/
structure Moment where
  now : ℚ
  bandwidth : Int
  others : Dict String ActiveTransfer

/-- The throttler at a moment: the others have registered, sent and gone as they like, the
entry of this transfer is as it was. -/
def BandwidthThrottler.among (throttler : BandwidthThrottler) (transferId : String)
    (moment : Moment) : BandwidthThrottler where
  totalBandwidthBytesPerSec := moment.bandwidth
  transfers :=
    match throttler.transfers.get transferId with
    | some transfer => moment.others.set transferId transfer
    | none => moment.others.pop transferId

/-- The throttler and the iterator. -/
structure Throttled (α : Type) where
  throttler : BandwidthThrottler
  iterator : Consumer α

namespace Throttled

/-- `register_transfer`, and `throttled_iterator` before its first step. -/
def init (throttler : BandwidthThrottler) (d : Download α) : Throttled α where
  throttler := throttler.registerTransfer d.transferId d.totalBytes
  iterator := { download := d, content := d.content }

/-- One step of the iterator, up to its next `await`; a sleep is over then. -/
def exec (chunkSize : Nat) (s : Throttled α) (moment : Moment) : Throttled α where
  throttler := (s.iterator.resumeBy chunkSize
    (s.throttler.among s.iterator.transferId moment) moment.now).2
  iterator := (s.iterator.resumeBy chunkSize
    (s.throttler.among s.iterator.transferId moment) moment.now).1

/-- **NOTHING IS LOST**: the iterator has ended and unregistered its transfer, and what it has
yielded is the content, in pieces of one byte up to `chunkSize`. -/
structure Delivered (chunkSize : Nat) (s : Throttled α) : Prop where
  finished : s.iterator.point = .finished
  content : s.iterator.yielded.flatten = s.iterator.download.content.flatten
  pieces : ∀ piece ∈ s.iterator.yielded, 1 ≤ piece.length ∧ piece.length ≤ chunkSize
  unregistered : s.throttler.transfers.get s.iterator.transferId = none

/-! ## §3. What a step preserves. -/

/-- What holds of an iterator and its entry. -/
structure Ok (chunkSize : Nat) (s : Throttled α) : Prop where
  bytes : s.iterator.yielded.flatten ++ s.iterator.buffer ++ s.iterator.content.flatten
    = s.iterator.download.content.flatten
  pieces : ∀ piece ∈ s.iterator.yielded, 1 ≤ piece.length ∧ piece.length ≤ chunkSize
  entry : s.iterator.point ≠ .finished →
    ∃ transfer, s.throttler.transfers.get s.iterator.transferId = some transfer
      ∧ transfer.totalBytes = s.iterator.download.totalBytes
      ∧ transfer.bytesTransferred = s.iterator.sent
  within : s.iterator.sent ≤ s.iterator.download.totalBytes.toNat
  drained : s.iterator.point = .drain → s.iterator.content = []
  granted : ∀ draining allowed, s.iterator.point = .send draining allowed →
    0 < allowed ∧ allowed ≤ s.iterator.download.totalBytes - s.iterator.sent
      ∧ s.iterator.buffer ≠ [] ∧ (draining = true → s.iterator.content = [])
  ended : s.iterator.point = .finished →
    s.iterator.buffer = [] ∧ s.iterator.content = []
      ∧ s.throttler.transfers.get s.iterator.transferId = none

end Throttled

/-- The entry of this transfer is not touched by the others. -/
theorem get_among (throttler : BandwidthThrottler) (transferId : String) (moment : Moment) :
    (throttler.among transferId moment).transfers.get transferId
      = throttler.transfers.get transferId := by
  unfold BandwidthThrottler.among
  dsimp only
  split
  next transfer h => rw [h, Dict.get_set, if_pos rfl]
  next h => rw [h, Dict.get_pop, if_pos rfl]

theorem get_registerTransfer (throttler : BandwidthThrottler) (transferId : String)
    (totalBytes : Int) :
    ∃ transfer, (throttler.registerTransfer transferId totalBytes).transfers.get transferId
        = some transfer ∧ transfer.totalBytes = totalBytes ∧ transfer.bytesTransferred = 0 := by
  unfold BandwidthThrottler.registerTransfer
  dsimp only
  rw [Dict.get_set, if_pos rfl]
  exact ⟨_, rfl, rfl, rfl⟩

namespace Throttled

variable {chunkSize : Nat} {throttler : BandwidthThrottler} {s : Throttled α}

theorem ok_init (chunkSize : Nat) (throttler : BandwidthThrottler) (d : Download α) :
    Ok chunkSize (init throttler d) where
  bytes := rfl
  pieces := fun piece hpiece => (nomatch hpiece)
  entry := by
    intro _
    obtain ⟨transfer, hget, htotal, hsent⟩ := get_registerTransfer throttler d.transferId
      d.totalBytes
    exact ⟨transfer, hget, htotal, hsent⟩
  within := Nat.zero_le _
  drained := fun h => (nomatch h)
  granted := fun _ _ h => (nomatch h)
  ended := fun h => (nomatch h)

/-- The others do what they do. -/
theorem Ok.among (h : Ok chunkSize s) (moment : Moment) :
    Ok chunkSize { s with throttler := s.throttler.among s.iterator.transferId moment } where
  bytes := h.bytes
  pieces := h.pieces
  entry := by
    intro hpoint
    obtain ⟨transfer, hget, hrest⟩ := h.entry hpoint
    exact ⟨transfer, (get_among _ _ _).trans hget, hrest⟩
  within := h.within
  drained := h.drained
  granted := h.granted
  ended := by
    intro hpoint
    obtain ⟨hbuffer, hcontent, hget⟩ := h.ended hpoint
    exact ⟨hbuffer, hcontent, (get_among _ _ _).trans hget⟩

/-- The iterator moves on without a look at the throttler. -/
theorem Ok.move (h : Ok chunkSize s) {c : Consumer α}
    (hdownload : c.download = s.iterator.download) (hyielded : c.yielded = s.iterator.yielded)
    (hbytes : c.buffer ++ c.content.flatten
      = s.iterator.buffer ++ s.iterator.content.flatten)
    (hactive : s.iterator.point ≠ .finished) (hfinished : c.point ≠ .finished)
    (hsend : ∀ draining allowed, c.point ≠ .send draining allowed)
    (hdrained : c.point = .drain → c.content = []) :
    Ok chunkSize { s with iterator := c } where
  bytes := by
    show c.yielded.flatten ++ c.buffer ++ c.content.flatten = c.download.content.flatten
    rw [hyielded, List.append_assoc, hbytes, ← List.append_assoc, hdownload]
    exact h.bytes
  pieces := by
    show ∀ piece ∈ c.yielded, _
    rw [hyielded]
    exact h.pieces
  entry := by
    intro _
    show ∃ transfer, s.throttler.transfers.get c.download.transferId = some transfer
      ∧ transfer.totalBytes = c.download.totalBytes
      ∧ transfer.bytesTransferred = (c.yielded.flatten.length : Int)
    rw [hdownload, hyielded]
    exact h.entry hactive
  within := by
    show c.yielded.flatten.length ≤ c.download.totalBytes.toNat
    rw [hdownload, hyielded]
    exact h.within
  drained := hdrained
  granted := fun draining allowed hpoint => absurd hpoint (hsend draining allowed)
  ended := fun hpoint => absurd hpoint hfinished

/-- The iterator asks for its allowance: it waits, or may send. -/
theorem Ok.ask (h : Ok chunkSize s) {now : ℚ} {draining : Bool}
    (hpoint : s.iterator.point = .fill ∨ s.iterator.point = .drain)
    (hbuffer : s.iterator.buffer ≠ [])
    (hdraining : draining = true → s.iterator.content = []) :
    Ok chunkSize ⟨s.throttler, s.iterator.ask now draining
      (s.throttler.getAllowedBytes s.iterator.transferId (1 / 10))⟩ := by
  have hactive : s.iterator.point ≠ .finished := by
    rcases hpoint with hpoint | hpoint <;> rw [hpoint] <;> decide
  obtain ⟨transfer, hget, htotal, hsent⟩ := h.entry hactive
  have hcap := getAllowedBytes_le hget
  unfold ActiveTransfer.remainingBytes at hcap
  rw [htotal, hsent] at hcap
  unfold Consumer.ask
  split
  next =>
    refine h.move rfl rfl rfl hactive hactive ?_ h.drained
    intro draining' allowed'
    rcases hpoint with hpoint | hpoint <;> rw [hpoint] <;> exact fun heq => nomatch heq
  next hpos =>
    refine ⟨h.bytes, h.pieces, fun _ => h.entry hactive, h.within, fun heq => (nomatch heq), ?_,
      fun heq => (nomatch heq)⟩
    intro draining' allowed' heq
    obtain ⟨rfl, rfl⟩ := Point.send.inj heq
    refine ⟨by omega, ?_, hbuffer, hdraining⟩
    show _ ≤ s.iterator.download.totalBytes - (s.iterator.sent : Int)
    omega

/-- The iterator sends a piece. -/
theorem Ok.send (hchunk : 1 ≤ chunkSize) (h : Ok chunkSize s) {draining : Bool} {allowed : Int}
    (hpoint : s.iterator.point = .send draining allowed) (now : ℚ) :
    Ok chunkSize ⟨(s.iterator.resumeBy chunkSize s.throttler now).2,
      (s.iterator.resumeBy chunkSize s.throttler now).1⟩ := by
  obtain ⟨throttler, c⟩ := s
  obtain ⟨hpos, hcap, hbuffer, hdraining⟩ := h.granted draining allowed hpoint
  have hactive : c.point ≠ .finished := by
    intro heq
    rw [heq] at hpoint
    cases hpoint
  obtain ⟨transfer, hget, htotal, hsent⟩ := h.entry hactive
  have hlength := List.length_pos_iff.mpr hbuffer
  have hwithin := h.within
  dsimp only at *
  have hsize : (c.buffer.take (c.sendSizeBy chunkSize allowed)).length
      = c.sendSizeBy chunkSize allowed := by
    rw [List.length_take]
    unfold Consumer.sendSizeBy
    omega
  have hbounds : 1 ≤ c.sendSizeBy chunkSize allowed ∧ c.sendSizeBy chunkSize allowed ≤ chunkSize
      ∧ c.sendSizeBy chunkSize allowed ≤ allowed.toNat := by
    unfold Consumer.sendSizeBy
    omega
  obtain ⟨transfer', hget', htotal', hsent'⟩ :=
    get_updateProgress hget (c.buffer.take (c.sendSizeBy chunkSize allowed)).length
  have hsnoc : (c.yielded ++ [c.buffer.take (c.sendSizeBy chunkSize allowed)]).flatten.length
      = c.sent + c.sendSizeBy chunkSize allowed := by
    rw [List.flatten_append, List.length_append, List.flatten_singleton, hsize]
    rfl
  unfold Consumer.resumeBy
  rw [hpoint]
  refine ⟨?_, ?_, ?_, ?_, ?_, ?_, ?_⟩
  · show (c.yielded ++ [c.buffer.take (c.sendSizeBy chunkSize allowed)]).flatten
        ++ c.buffer.drop (c.sendSizeBy chunkSize allowed) ++ c.content.flatten = _
    rw [List.flatten_append, List.flatten_singleton, List.append_assoc c.yielded.flatten,
      List.take_append_drop]
    exact h.bytes
  · intro piece hpiece
    rcases List.mem_append.mp hpiece with hpiece | hpiece
    · exact h.pieces piece hpiece
    · rw [List.mem_singleton.mp hpiece, hsize]
      exact ⟨hbounds.1, hbounds.2.1⟩
  · intro _
    refine ⟨transfer', hget', htotal'.trans htotal, ?_⟩
    show _ = ((c.yielded ++ [_]).flatten.length : Int)
    rw [hsent', hsent, hsnoc, hsize]
    push_cast
    rfl
  -- the allowance was capped by what remains of the registered size
  · show (c.yielded ++ [_]).flatten.length ≤ c.download.totalBytes.toNat
    rw [hsnoc]
    omega
  · intro hdrain
    cases draining with
    | false => cases hdrain
    | true => exact hdraining rfl
  · intro draining' allowed' heq
    cases draining <;> cases heq
  · intro heq
    cases draining <;> cases heq

/-- **WHAT A STEP PRESERVES**, whatever the others do. -/
theorem Ok.exec (hchunk : 1 ≤ chunkSize) (h : Ok chunkSize s) (moment : Moment) :
    Ok chunkSize (s.exec chunkSize moment) := by
  have h' := h.among moment
  unfold Throttled.exec
  generalize s.throttler.among s.iterator.transferId moment = throttler at h'
  obtain ⟨throttler₀, download, content, buffer, point, due, yielded⟩ := s
  cases point with
  | start =>
      exact h'.move rfl rfl rfl (fun heq => nomatch heq) (fun heq => nomatch heq)
        (fun _ _ heq => nomatch heq) (fun heq => nomatch heq)
  | pull =>
      cases content with
      | nil =>
          exact h'.move rfl rfl rfl (fun heq => nomatch heq) (fun heq => nomatch heq)
            (fun _ _ heq => nomatch heq) (fun _ => rfl)
      | cons chunk content =>
          exact h'.move rfl rfl (List.append_assoc buffer chunk content.flatten)
            (fun heq => nomatch heq) (fun heq => nomatch heq) (fun _ _ heq => nomatch heq)
            (fun heq => nomatch heq)
  | fill =>
      unfold Consumer.resumeBy
      dsimp only
      split
      next hfull =>
        refine h'.ask (.inl rfl) ?_ (fun heq => (nomatch heq))
        exact List.length_pos_iff.mp (lt_of_lt_of_le hchunk hfull)
      next =>
        exact h'.move rfl rfl rfl (fun heq => nomatch heq) (fun heq => nomatch heq)
          (fun _ _ heq => nomatch heq) (fun heq => nomatch heq)
  | drain =>
      unfold Consumer.resumeBy
      dsimp only
      split
      next hempty =>
        refine ⟨h'.bytes, h'.pieces, fun hne => absurd rfl hne, h'.within,
          fun heq => (nomatch heq), fun _ _ heq => (nomatch heq), fun _ => ?_⟩
        refine ⟨List.isEmpty_iff.mp hempty, h'.drained rfl, ?_⟩
        show Dict.get (Dict.pop _ _) download.transferId = none
        exact (Dict.get_pop _ _ _).trans (if_pos rfl)
      next hrest =>
        exact h'.ask (.inr rfl) (fun hnil => hrest (List.isEmpty_iff.mpr hnil))
          (fun _ => h'.drained rfl)
  | send draining allowed => exact h'.send hchunk rfl moment.now
  | finished => exact h'

/-! ## §4. What a step lowers. -/

/-- The steps that are left at most, if no allowance is 0. -/
def work (s : Throttled α) : Nat :=
  let rest := s.iterator.buffer.length + s.iterator.content.flatten.length
  match s.iterator.point with
  | .start | .fill => 2 * rest + 2 * s.iterator.content.length + 3
  | .pull | .send false _ => 2 * rest + 2 * s.iterator.content.length + 2
  | .drain => 2 * rest + 1
  | .send true _ => 2 * rest
  | .finished => 0

/-- The content is not longer than the size that was registered. -/
def Announced (d : Download α) : Prop := d.content.flatten.length ≤ d.totalBytes.toNat

/-- **SOMETHING REMAINS** of an announced content as long as the buffer is not empty, so an
iterator does not wait. -/
theorem Ok.ask_eq (h : Ok chunkSize s) (hsize : Announced s.iterator.download) (now : ℚ)
    (draining : Bool) (hactive : s.iterator.point ≠ .finished) (hbuffer : s.iterator.buffer ≠ []) :
    ∃ allowed, s.iterator.ask now draining
      (s.throttler.getAllowedBytes s.iterator.transferId (1 / 10))
        = { s.iterator with point := .send draining allowed } := by
  obtain ⟨transfer, hget, htotal, hsent⟩ := h.entry hactive
  have hfloor := le_getAllowedBytes hget
  unfold ActiveTransfer.remainingBytes at hfloor
  rw [htotal, hsent] at hfloor
  have hlength := List.length_pos_iff.mpr hbuffer
  have hbytes := congrArg List.length h.bytes
  rw [List.length_append, List.length_append] at hbytes
  change s.iterator.sent + _ + _ = _ at hbytes
  unfold Announced at hsize
  unfold Consumer.ask
  rw [if_neg (by omega)]
  exact ⟨_, rfl⟩

/-- **A STEP LOWERS THE WORK** that is left. -/
theorem Ok.work_exec (hchunk : 1 ≤ chunkSize) (h : Ok chunkSize s)
    (hsize : Announced s.iterator.download) (moment : Moment) :
    (s.exec chunkSize moment).work ≤ s.work - 1 := by
  have h' := h.among moment
  unfold Throttled.exec
  generalize s.throttler.among s.iterator.transferId moment = throttler at h'
  obtain ⟨throttler₀, download, content, buffer, point, due, yielded⟩ := s
  cases point with
  | start => exact Nat.le_refl _
  | pull =>
      cases content with
      | nil =>
          exact Nat.le_refl _
      | cons chunk content =>
          show 2 * ((buffer ++ chunk).length + content.flatten.length) + 2 * content.length + 3
            ≤ 2 * (buffer.length + (chunk ++ content.flatten).length)
              + 2 * (content.length + 1) + 2 - 1
          rw [List.length_append, List.length_append]
          omega
  | fill =>
      unfold Consumer.resumeBy
      dsimp only
      split
      next hfull =>
        have hbuffer : buffer ≠ [] := List.length_pos_iff.mp (lt_of_lt_of_le hchunk hfull)
        obtain ⟨allowed, hask⟩ :=
          h'.ask_eq hsize moment.now false (fun heq => nomatch heq) hbuffer
        dsimp only at hask
        rw [hask]
        exact Nat.le_refl _
      next => exact Nat.le_refl _
  | drain =>
      unfold Consumer.resumeBy
      dsimp only
      split
      next => exact Nat.zero_le _
      next hrest =>
        obtain ⟨allowed, hask⟩ :=
          h'.ask_eq hsize moment.now true (fun heq => nomatch heq)
            (fun hnil => hrest (List.isEmpty_iff.mpr hnil))
        dsimp only at hask
        rw [hask]
        exact Nat.le_refl _
  | send draining allowed =>
      obtain ⟨hpos, -, hbuffer, -⟩ := h'.granted draining allowed rfl
      have hlength : 1 ≤ buffer.length := List.length_pos_iff.mpr hbuffer
      -- at least one byte leaves the buffer
      have hless : (buffer.drop (min (min buffer.length allowed.toNat) chunkSize)).length + 1
          ≤ buffer.length := by
        rw [List.length_drop]
        omega
      cases draining with
      | false =>
          show 2 * ((buffer.drop (min (min buffer.length allowed.toNat) chunkSize)).length
              + content.flatten.length) + 2 * content.length + 3
            ≤ 2 * (buffer.length + content.flatten.length) + 2 * content.length + 2 - 1
          omega
      | true =>
          show 2 * ((buffer.drop (min (min buffer.length allowed.toNat) chunkSize)).length
              + content.flatten.length) + 1
            ≤ 2 * (buffer.length + content.flatten.length) - 1
          omega
  | finished => exact Nat.zero_le _

/-! ## §5. Whole runs. -/

theorem download_exec (chunkSize : Nat) (s : Throttled α) (moment : Moment) :
    (s.exec chunkSize moment).iterator.download = s.iterator.download := by
  unfold Throttled.exec Consumer.resumeBy Consumer.ask
  repeat' split
  all_goals rfl

theorem download_run (chunkSize : Nat) (s : Throttled α) (moments : List Moment) :
    (run (exec chunkSize) s moments).iterator.download = s.iterator.download := by
  induction moments generalizing s with
  | nil => rfl
  | cons moment moments ih => exact (ih (s.exec chunkSize moment)).trans (download_exec _ _ _)

theorem ok_run (hchunk : 1 ≤ chunkSize) (throttler : BandwidthThrottler) (d : Download α)
    (moments : List Moment) :
    Ok chunkSize (run (exec chunkSize) (init throttler d) moments) :=
  run_invariant' (fun _ moment h => h.exec hchunk moment) moments
    (ok_init chunkSize throttler d)

/-- An iterator without work has ended. -/
theorem Ok.finished (h : Ok chunkSize s) (hwork : s.work = 0) :
    s.iterator.point = .finished := by
  unfold work at hwork
  cases hpoint : s.iterator.point with
  | finished => rfl
  | send draining allowed =>
      obtain ⟨-, -, hbuffer, -⟩ := h.granted draining allowed hpoint
      have hlength := List.length_pos_iff.mpr hbuffer
      rw [hpoint] at hwork
      cases draining <;> dsimp only at hwork <;> omega
  | start => rw [hpoint] at hwork; cases hwork
  | pull => rw [hpoint] at hwork; cases hwork
  | fill => rw [hpoint] at hwork; cases hwork
  | drain => rw [hpoint] at hwork; cases hwork

/-- An iterator that has ended has yielded the content. -/
theorem Ok.delivered (h : Ok chunkSize s) (hfinished : s.iterator.point = .finished) :
    Delivered chunkSize s := by
  obtain ⟨hbuffer, hcontent, hget⟩ := h.ended hfinished
  have hbytes := h.bytes
  rw [hbuffer, hcontent, List.append_nil, List.flatten_nil, List.append_nil] at hbytes
  exact ⟨hfinished, hbytes, h.pieces, hget⟩

/-- **AN ANNOUNCED CONTENT ARRIVES**, after as many steps as there was work. -/
theorem delivered_of_announced (hchunk : 1 ≤ chunkSize) (throttler : BandwidthThrottler)
    {d : Download α} (hsize : Announced d) {moments : List Moment}
    (hlength : (init throttler d).work ≤ moments.length) :
    Delivered chunkSize (run (exec chunkSize) (init throttler d) moments) := by
  have hstep : ∀ s : Throttled α, ∀ moment, Ok chunkSize s ∧ Announced s.iterator.download →
      True → Ok chunkSize (s.exec chunkSize moment)
        ∧ Announced (s.exec chunkSize moment).iterator.download := by
    intro s moment ⟨hok, hsize⟩ _
    rw [download_exec]
    exact ⟨hok.exec hchunk moment, hsize⟩
  have hlower : ∀ s : Throttled α, ∀ moment, Ok chunkSize s ∧ Announced s.iterator.download →
      True → (s.exec chunkSize moment).work ≤ s.work - (if true then 1 else 0) :=
    fun s moment ⟨hok, hsize⟩ _ => hok.work_exec hchunk hsize moment
  have hwork : (run (exec chunkSize) (init throttler d) moments).work
      ≤ (init throttler d).work - moments.countP (fun _ => true) :=
    run_measure hstep hlower ⟨ok_init chunkSize throttler d, hsize⟩ (along_true _ moments)
  have hok := ok_run hchunk throttler d moments
  rw [List.countP_true] at hwork
  exact hok.delivered (hok.finished (by omega))

/-- **A LONGER CONTENT NEVER ENDS**: only what was announced is yielded. -/
theorem not_finished_of_not_announced (hchunk : 1 ≤ chunkSize) (throttler : BandwidthThrottler)
    {d : Download α} (hsize : ¬ Announced d) (moments : List Moment) :
    (run (exec chunkSize) (init throttler d) moments).iterator.point ≠ .finished := by
  intro hfinished
  have hok := ok_run hchunk throttler d moments
  have hcontent := (hok.delivered hfinished).content
  have hwithin := hok.within
  have hdownload := download_run chunkSize (init throttler d) moments
  apply hsize
  unfold Consumer.sent at hwithin
  rw [hcontent, hdownload] at hwithin
  exact hwithin

/-- **WHICH CONTENTS ARRIVE**: exactly those that are not longer than the size they are
registered with.  The others never end, whatever the other transfers do. -/
theorem throttledIterator_delivers_iff (hchunk : 1 ≤ chunkSize)
    (throttler : BandwidthThrottler) (d : Download α) :
    ((∃ n, ∀ moments : List Moment, n ≤ moments.length →
        Delivered chunkSize (run (exec chunkSize) (init throttler d) moments))
      ↔ d.content.flatten.length ≤ d.totalBytes.toNat)
    ∧ (¬ d.content.flatten.length ≤ d.totalBytes.toNat → ∀ moments : List Moment,
        (run (exec chunkSize) (init throttler d) moments).iterator.point ≠ .finished) := by
  have hnever := not_finished_of_not_announced hchunk throttler (d := d)
  refine ⟨⟨?_, ?_⟩, hnever⟩
  · rintro ⟨n, hn⟩
    by_contra hsize
    have moment : Moment := ⟨0, 0, Table.empty⟩
    have hdelivered := hn (List.replicate n moment) (by rw [List.length_replicate])
    exact hnever hsize _ hdelivered.finished
  · intro hsize
    exact ⟨_, fun moments hlength => delivered_of_announced hchunk throttler hsize hlength⟩

/-- Two chunks, in pieces of at most two bytes. -/
theorem threeBytes_delivered :
    ∃ n, ∀ moments : List Moment, n ≤ moments.length →
      Delivered 2 (run (exec 2)
        (init { totalBandwidthBytesPerSec := 125000 } ⟨"boot-/vmlinuz", 3, [[1, 2], [3]]⟩)
        moments) :=
  (throttledIterator_delivers_iff (by decide) _ ⟨"boot-/vmlinuz", 3, [[1, 2], [3]]⟩).1.mpr
    (by decide)

/-- One byte of an HTTP source without `Content-Length`, at the default `chunk_size`. -/
def withoutLength : Download Nat := ⟨"boot-/vmlinuz", 0, [[1]]⟩

/-- The iterator never ends. -/
theorem withoutLength_hangs :
    ¬ ∃ n, ∀ moments : List Moment, n ≤ moments.length →
      Delivered 8192 (run (exec 8192)
        (init { totalBandwidthBytesPerSec := 125000000 } withoutLength) moments) := by
  rintro ⟨n, hn⟩
  have moment : Moment := ⟨0, 125000000, Table.empty⟩
  have hdelivered := hn (List.replicate n moment) (by rw [List.length_replicate])
  have hsize : ¬ Announced withoutLength := by
    unfold Announced
    decide
  exact not_finished_of_not_announced (by decide) _ hsize _ hdelivered.finished

end Throttled

end PureBoot.Storage
