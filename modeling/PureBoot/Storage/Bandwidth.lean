/-
  PureBoot.Storage.Bandwidth — is the LIMIT of the bandwidth kept?

  A transfer is allowed what is its share of a TENTH of a second, and no less than 12500
  bytes.  It sends a piece of at most 8192 bytes, so the allowance never holds it back, and
  sleeps a HUNDREDTH of a second before the next: 8192 bytes every 10 ms, whatever the
  limit, until the content or the registered size is used up.

  In any interleaving, an iterator has yielded at most `k + 1` pieces by the time `k / 100`
  (`yielded_le`), and there is a run in which all of them do (`exists_run_at`).  So the
  limit is kept exactly if this much is within it.

  Main results:
    * `servingOk_step` — what every step keeps;
    * `sent_le_sendable`, `exists_run_at` — how much can be sent, and that it is;
    * `bandwidth_limit_iff` — the files and limits with which the limit is kept.
-/
import PureBoot.Storage.Throttler

namespace PureBoot.Storage

open PureBoot.Lib

variable {α : Type}

/-! ## §1. How much is sent at most. -/

/-- What can be sent of a file: the content, up to the size it is registered with. -/
def Download.size (d : Download α) : Nat := min d.content.flatten.length d.totalBytes.toNat

/-- An allowance, as the iterator holds it until it sends. -/
structure Granted (c : Consumer α) (draining : Bool) (allowed : Int) : Prop where
  pos : 0 < allowed
  floor : min 12500 (c.download.totalBytes - c.sent) ≤ allowed
  cap : allowed ≤ c.download.totalBytes - c.sent
  filling : draining = false → chunkSize ≤ c.buffer.length
  draining : draining = true → c.content = [] ∧ c.buffer ≠ []

/-- What holds of an iterator. -/
structure ConsumerOk (throttler : BandwidthThrottler) (now : ℚ) (c : Consumer α) : Prop where
  bytes : c.yielded.flatten ++ c.buffer ++ c.content.flatten = c.download.content.flatten
  entry : c.point ≠ .finished → ∃ transfer, throttler.transfers.get c.transferId = some transfer ∧
    transfer.totalBytes = c.download.totalBytes ∧ transfer.bytesTransferred = c.sent
  within : c.sent ≤ c.download.totalBytes.toNat
  pieces : c.sent ≤ chunkSize * c.yielded.length
  drained : c.point = .drain → c.content = []
  granted : ∀ draining allowed, c.point = .send draining allowed → Granted c draining allowed
  /-- A piece for each hundredth of a second that has been slept, up to the last one. -/
  paced : c.point ≠ .finished →
    (c.yielded.length : ℚ) ≤ 100 * c.due ∨ (c.point = .drain ∧ c.buffer = [])
  counted : (c.yielded.length : ℚ) ≤ 100 * now + 1

section OneIterator

variable {throttler : BandwidthThrottler} {now : ℚ} {c : Consumer α}

theorem Consumer.sent_snoc (c : Consumer α) (piece : List α) :
    (c.yielded ++ [piece]).flatten.length = c.sent + piece.length := by
  simp [Consumer.sent]

/-- An iterator asks for its allowance. -/
theorem ConsumerOk.ask (h : ConsumerOk throttler now c) (hdue : c.due ≤ now) {draining : Bool}
    (hpoint : c.point = .fill ∨ c.point = .drain)
    (hfilling : draining = false → chunkSize ≤ c.buffer.length)
    (hdraining : draining = true → c.content = [] ∧ c.buffer ≠ []) :
    ConsumerOk throttler now
      (c.ask now draining (throttler.getAllowedBytes c.transferId (1 / 10))) := by
  have hactive : c.point ≠ .finished := by
    rcases hpoint with hpoint | hpoint <;> rw [hpoint] <;> decide
  obtain ⟨transfer, hget, htotal, hsent⟩ := h.entry hactive
  have hfloor := le_getAllowedBytes hget
  have hcap := getAllowedBytes_le hget
  unfold ActiveTransfer.remainingBytes at hfloor hcap
  rw [htotal, hsent] at hfloor hcap
  unfold Consumer.ask
  split
  next =>
    refine ⟨h.bytes, h.entry, h.within, h.pieces, h.drained, ?_, ?_, h.counted⟩
    · intro draining' allowed' heq
      have hnot : c.point ≠ .send draining' allowed' := by
        rcases hpoint with hpoint | hpoint <;> rw [hpoint] <;> exact fun heq => nomatch heq
      exact absurd heq hnot
    · intro _
      rcases h.paced hactive with hpaced | hspent
      · left
        show (c.yielded.length : ℚ) ≤ 100 * (now + 1 / 10)
        linarith
      · exact .inr hspent
  next hpos =>
    refine ⟨h.bytes, fun _ => h.entry hactive, h.within, h.pieces, ?_, ?_, ?_, h.counted⟩
    · intro hdrain
      cases hdrain
    · rintro draining' allowed' heq
      obtain ⟨rfl, rfl⟩ := Point.send.inj heq
      refine ⟨by omega, ?_, ?_, hfilling, hdraining⟩
      · show min 12500 (c.download.totalBytes - c.sent) ≤ _
        omega
      · show _ ≤ c.download.totalBytes - (c.sent : Int)
        omega
    · intro _
      rcases h.paced hactive with hpaced | ⟨hdrain, hempty⟩
      · exact .inl hpaced
      · -- an empty buffer asks for nothing
        exfalso
        cases draining with
        | false =>
            have hlen := hfilling rfl
            rw [hempty] at hlen
            cases hlen
        | true => exact (hdraining rfl).2 hempty

/-- An iterator sends a piece. -/
theorem ConsumerOk.send (h : ConsumerOk throttler now c) (hdue : c.due ≤ now) {draining : Bool}
    {allowed : Int} (hpoint : c.point = .send draining allowed) :
    ConsumerOk (c.resume throttler now).2 now (c.resume throttler now).1 := by
  have hactive : c.point ≠ .finished := by
    rw [hpoint]
    exact fun heq => nomatch heq
  obtain ⟨transfer, hget, htotal, hsent⟩ := h.entry hactive
  obtain ⟨hpos, -, hcap, hfilling, hdraining⟩ := h.granted draining allowed hpoint
  have hpaced : (c.yielded.length : ℚ) ≤ 100 * c.due := by
    rcases h.paced hactive with hpaced | ⟨hdrain, -⟩
    · exact hpaced
    · rw [hpoint] at hdrain
      cases hdrain
  have hwithin := h.within
  have hpieces := h.pieces
  have hsize : (c.buffer.take (c.sendSize allowed)).length = c.sendSize allowed := by
    rw [List.length_take]
    unfold Consumer.sendSize
    omega
  have hle : c.sendSize allowed ≤ allowed.toNat ∧ c.sendSize allowed ≤ chunkSize := by
    unfold Consumer.sendSize
    omega
  obtain ⟨transfer', hget', htotal', hsent'⟩ :=
    get_updateProgress hget (c.buffer.take (c.sendSize allowed)).length
  unfold Consumer.resume
  rw [hpoint]
  dsimp only
  refine ⟨?_, ?_, ?_, ?_, ?_, ?_, ?_, ?_⟩
  -- What is sent leaves the buffer at its front, and the entry counts it.
  · show (c.yielded ++ [c.buffer.take (c.sendSize allowed)]).flatten
        ++ c.buffer.drop (c.sendSize allowed) ++ c.content.flatten = _
    rw [List.flatten_append, List.flatten_singleton, List.append_assoc c.yielded.flatten,
      List.take_append_drop]
    exact h.bytes
  · intro _
    refine ⟨transfer', hget', htotal'.trans htotal, ?_⟩
    show _ = ((c.yielded ++ [_]).flatten.length : Int)
    rw [hsent', hsent, Consumer.sent_snoc]
    push_cast
    rfl
  -- The allowance was capped by what remains of the registered size, `chunkSize` caps a piece.
  · show (c.yielded ++ [_]).flatten.length ≤ _
    rw [Consumer.sent_snoc, hsize]
    show c.sent + c.sendSize allowed ≤ c.download.totalBytes.toNat
    omega
  · show (c.yielded ++ [_]).flatten.length ≤ chunkSize * (c.yielded ++ [_]).length
    rw [Consumer.sent_snoc, hsize, List.length_append, List.length_singleton, Nat.mul_succ]
    omega
  · intro hdrain
    cases draining with
    | false => cases hdrain
    | true => exact (hdraining rfl).1
  · rintro draining' allowed' heq
    cases draining <;> cases heq
  -- One more piece, and a hundredth of a second later, unless it was the last one: the
  -- source does not sleep after that.
  · intro _
    show ((c.yielded ++ [_]).length : ℚ) ≤ 100 * (if _ then _ else _) ∨ _
    rw [List.length_append, List.length_singleton]
    push_cast
    split
    next hlast =>
      rw [Bool.and_eq_true, List.isEmpty_iff] at hlast
      right
      rw [hlast.1]
      exact ⟨rfl, hlast.2⟩
    next =>
      left
      have hslept : 100 * (now + 1 / 100) = 100 * now + 1 := by ring
      rw [hslept]
      linarith
  · show ((c.yielded ++ [_]).length : ℚ) ≤ 100 * now + 1
    rw [List.length_append, List.length_singleton]
    push_cast
    linarith

/-- An iterator goes on to another loop, and takes a chunk perhaps. -/
theorem ConsumerOk.move {c' : Consumer α} (h : ConsumerOk throttler now c)
    (hpoint : c.point ≠ .drain ∧ c.point ≠ .finished) (hdownload : c'.download = c.download)
    (hyielded : c'.yielded = c.yielded)
    (hbytes : c'.buffer ++ c'.content.flatten = c.buffer ++ c.content.flatten)
    (hsend : ∀ draining allowed, c'.point ≠ .send draining allowed)
    (hdrained : c'.point = .drain → c'.content = []) (hdue : c.due ≤ c'.due) :
    ConsumerOk throttler now c' where
  bytes := by
    rw [hyielded, List.append_assoc, hbytes, ← List.append_assoc, hdownload]
    exact h.bytes
  entry := by
    intro _
    unfold Consumer.transferId Consumer.sent
    rw [hdownload, hyielded]
    exact h.entry hpoint.2
  within := by
    unfold Consumer.sent
    rw [hyielded, hdownload]
    exact h.within
  pieces := by
    unfold Consumer.sent
    rw [hyielded]
    exact h.pieces
  drained := hdrained
  granted := fun draining allowed heq => absurd heq (hsend draining allowed)
  paced := by
    intro _
    left
    rw [hyielded]
    rcases h.paced hpoint.2 with hpaced | hspent
    · linarith
    · exact absurd hspent.1 hpoint.1
  counted := by
    rw [hyielded]
    exact h.counted

/-- An iterator ends. -/
theorem ConsumerOk.finish (h : ConsumerOk throttler now c) (throttler' : BandwidthThrottler) :
    ConsumerOk throttler' now { c with point := .finished } where
  bytes := h.bytes
  entry := fun hne => absurd rfl hne
  within := h.within
  pieces := h.pieces
  drained := fun heq => nomatch heq
  granted := fun _ _ heq => nomatch heq
  paced := fun hne => absurd rfl hne
  counted := h.counted

/-- **ONE STEP OF AN ITERATOR.** -/
theorem ConsumerOk.resume (h : ConsumerOk throttler now c) (hdue : c.due ≤ now) :
    ConsumerOk (c.resume throttler now).2 now (c.resume throttler now).1 := by
  cases hpoint : c.point with
  | send draining allowed => exact h.send hdue hpoint
  | start =>
      unfold Consumer.resume
      rw [hpoint]
      exact h.move (by rw [hpoint]; decide) rfl rfl rfl (fun _ _ heq => nomatch heq)
        (fun heq => nomatch heq) hdue
  | pull =>
      unfold Consumer.resume
      rw [hpoint]
      cases hcontent : c.content with
      | nil =>
          exact h.move (by rw [hpoint]; decide) rfl rfl (by rw [hcontent])
            (fun _ _ heq => nomatch heq) (fun _ => rfl) le_rfl
      | cons chunk content =>
          refine h.move (by rw [hpoint]; decide) rfl rfl ?_ (fun _ _ heq => nomatch heq)
            (fun heq => nomatch heq) le_rfl
          rw [hcontent, List.flatten_cons, ← List.append_assoc]
  | fill =>
      unfold Consumer.resume
      rw [hpoint]
      dsimp only
      split
      next hlen => exact h.ask hdue (.inl hpoint) (fun _ => hlen) (fun heq => nomatch heq)
      next =>
        exact h.move (by rw [hpoint]; decide) rfl rfl rfl (fun _ _ heq => nomatch heq)
          (fun heq => nomatch heq) le_rfl
  | drain =>
      unfold Consumer.resume
      rw [hpoint]
      dsimp only
      split
      next => exact h.finish _
      next hne =>
        refine h.ask hdue (.inr hpoint) (fun heq => nomatch heq) (fun _ => ⟨h.drained hpoint, ?_⟩)
        exact fun hempty => hne (List.isEmpty_iff.mpr hempty)
  | finished =>
      unfold Consumer.resume
      rw [hpoint]
      exact h

/-- What others do to the throttler does not matter. -/
theorem ConsumerOk.congr {throttler' : BandwidthThrottler} (h : ConsumerOk throttler now c)
    (hget : throttler'.transfers.get c.transferId = throttler.transfers.get c.transferId) :
    ConsumerOk throttler' now c :=
  ⟨h.bytes, by rw [hget]; exact h.entry, h.within, h.pieces, h.drained, h.granted, h.paced,
    h.counted⟩

theorem ConsumerOk.later {now' : ℚ} (h : ConsumerOk throttler now c) (hnow : now ≤ now') :
    ConsumerOk throttler now' c :=
  ⟨h.bytes, h.entry, h.within, h.pieces, h.drained, h.granted, h.paced, by
    have hcounted := h.counted
    linarith⟩

theorem ConsumerOk.length_eq (h : ConsumerOk throttler now c) :
    c.sent + c.buffer.length + c.content.flatten.length = c.download.content.flatten.length := by
  have hbytes := congrArg List.length h.bytes
  rw [List.length_append, List.length_append] at hbytes
  exact hbytes

/-- **HOW MUCH ONE HAS SENT** by a time. -/
theorem ConsumerOk.sent_le (h : ConsumerOk throttler now c) {k : Nat} (hk : 100 * now < k + 1) :
    c.sent ≤ min (chunkSize * (k + 1)) c.download.size := by
  have hpieces : c.yielded.length ≤ k + 1 := by
    have hlt : (c.yielded.length : ℚ) < ((k + 2 : Nat) : ℚ) := by
      have hcounted := h.counted
      push_cast
      linarith
    have hlt := Nat.cast_lt.mp hlt
    omega
  have hlength := h.length_eq
  have hmul := Nat.mul_le_mul_left chunkSize hpieces
  have hsent := h.pieces
  have hwithin := h.within
  unfold Download.size
  omega

end OneIterator

/-! ## §2. Runs. -/

/-- What a run keeps. -/
structure ServingOk (downloads : Table (Download.transferId (α := α))) (s : Serving α) : Prop where
  now : 0 ≤ s.now
  consumers : ∀ c ∈ s.consumers.rows, ConsumerOk s.throttler s.now c
  downloads : s.consumers.rows.map Consumer.download = downloads.rows

/-- What the files come to, if each sends `k + 1` pieces or all it can. -/
def sendable (downloads : Table (Download.transferId (α := α))) (k : Nat) : Nat :=
  downloads.total (fun d => min (chunkSize * (k + 1)) d.size)

section Steps

variable {downloads : Table (Download.transferId (α := α))} {s : Serving α}

/-- One iterator has changed, and its entry of the throttler perhaps. -/
theorem ServingOk.put {c c' : Consumer α} {throttler : BandwidthThrottler}
    (h : ServingOk downloads s) (hc : c ∈ s.consumers.rows) (hdownload : c'.download = c.download)
    (hok : ConsumerOk throttler s.now c')
    (hget : ∀ other, other ≠ c.transferId →
      throttler.transfers.get other = s.throttler.transfers.get other) :
    ServingOk downloads { s with throttler, consumers := s.consumers.put c' } := by
  have hkey : c'.transferId = c.transferId := by
    unfold Consumer.transferId
    rw [hdownload]
  refine ⟨h.now, ?_, ?_⟩
  · intro x hx
    rcases (Table.mem_put_iff ⟨c, hc, hkey.symm⟩).mp hx with rfl | ⟨hx, hne⟩
    · exact hok
    · exact (h.consumers x hx).congr (hget _ (hkey ▸ hne))
  · exact (Table.map_put hc hkey hdownload).trans h.downloads

theorem Consumer.download_resume (c : Consumer α) (throttler : BandwidthThrottler) (now : ℚ) :
    (c.resume throttler now).1.download = c.download := by
  unfold Consumer.resume Consumer.ask
  repeat' split
  all_goals rfl

/-- **ONE STEP.** -/
theorem servingOk_step (s : Serving α) (tick : Tick) (h : ServingOk downloads s) :
    ServingOk downloads (servingStep s tick) := by
  unfold servingStep
  split
  next transferId =>
    split
    next => exact h
    next c hget =>
      obtain ⟨hc, -⟩ := Table.get?_eq_some_iff.mp hget
      split
      next hdue =>
        exact h.put hc (c.download_resume _ _) ((h.consumers c hc).resume hdue)
          (fun other hne => c.get_resume_of_ne hne _ _)
      next => exact h
  next transferId =>
    split
    next => exact h
    next c hget =>
      obtain ⟨hc, rfl⟩ := Table.get?_eq_some_iff.mp hget
      have hfinish := (h.consumers c hc).finish (s.throttler.unregisterTransfer c.transferId)
      exact h.put hc rfl hfinish (fun other hne => Dict.get_pop_of_ne _ hne)
  next now =>
    split
    next hlater =>
      exact ⟨h.now.trans hlater.1, fun c hc => (h.consumers c hc).later hlater.1, h.downloads⟩
    next => exact h

theorem total_downloads (h : ServingOk downloads s) (w : Download α → Nat) :
    s.consumers.total (fun c => w c.download) = downloads.total w := by
  unfold Table.total
  rw [← h.downloads, List.map_map]
  rfl

/-- **HOW MUCH IS SENT AT MOST** by a time. -/
theorem sent_le_sendable (h : ServingOk downloads s) {k : Nat} (hk : 100 * s.now < k + 1) :
    s.sent ≤ sendable downloads k := by
  unfold sendable Serving.sent
  rw [← total_downloads h]
  refine List.sum_le_sum (fun c hc => ?_)
  exact (h.consumers c hc).sent_le hk

end Steps

section Start

variable {bandwidth : Int} {downloads : Table (Download.transferId (α := α))}

/-- Every file is registered with its size. -/
theorem get_serving (bandwidth : Int) {d : Download α} (hd : d ∈ downloads.rows) :
    ∃ transfer, (serving bandwidth downloads).throttler.transfers.get d.transferId = some transfer ∧
      transfer.totalBytes = d.totalBytes ∧ transfer.bytesTransferred = 0 := by
  let registered (d : Download α) : ActiveTransfer :=
    { totalBytes := d.totalBytes
      priority := ({ totalBytes := d.totalBytes } : ActiveTransfer).calculatePriority }
  have hfold : ∀ (ds : List (Download α)) (throttler : BandwidthThrottler),
      (ds.foldl (fun throttler d => throttler.registerTransfer d.transferId d.totalBytes)
        throttler).transfers
        = Dict.setAll throttler.transfers (ds.map (fun d => (d.transferId, registered d))) := by
    intro ds
    induction ds with
    | nil => intro _; rfl
    | cons d ds ih => intro throttler; exact ih _
  refine ⟨registered d, ?_, rfl, rfl⟩
  show Dict.get (BandwidthThrottler.transfers (downloads.rows.foldl _ _)) d.transferId = _
  rw [hfold]
  refine Dict.get_setAll_of_nodup _ ?_ (List.mem_map.mpr ⟨d, hd, rfl⟩)
  rw [List.map_map]
  exact downloads.nodup

theorem servingOk_serving : ServingOk downloads (serving bandwidth downloads) where
  now := le_rfl
  consumers := by
    intro c hc
    obtain ⟨d, hd, rfl⟩ := List.mem_map.mp hc
    obtain ⟨transfer, hget, htotal, hzero⟩ := get_serving bandwidth hd
    have hpaced : ((0 : Nat) : ℚ) ≤ 100 * 0 := by norm_num
    have hcounted : ((0 : Nat) : ℚ) ≤ 100 * 0 + 1 := by norm_num
    exact ⟨rfl, fun _ => ⟨transfer, hget, htotal, hzero⟩, Nat.zero_le _, Nat.zero_le _,
      fun heq => (nomatch heq), fun _ _ heq => (nomatch heq), fun _ => .inl hpaced, hcounted⟩
  downloads := by
    show (downloads.rows.map _).map _ = _
    rw [List.map_map]
    exact List.map_id _

end Start

/-! ## §3. A run in which so much is sent. -/

/-- It has sent `j` pieces, or all it can; as long as there is more, the next piece is due. -/
structure Paced (j : Nat) (c : Consumer α) : Prop where
  sent : c.sent = min (chunkSize * j) c.download.size
  due : c.sent < c.download.size → c.due = j / 100

/-- In the `j`-th hundredth of a second, before or after its piece. -/
structure OnTime (j : Nat) (c : Consumer α) : Prop where
  paced : Paced j c ∨ Paced (j + 1) c
  hundredths : ∃ m : Nat, c.due = m / 100
  finished : c.point = .finished → c.buffer = [] ∧ c.content = []

section OnTime

variable {throttler : BandwidthThrottler} {j : Nat} {c : Consumer α}

/-- **THE ALLOWANCE NEVER HOLDS A PIECE BACK.** -/
theorem ConsumerOk.sendSize {now : ℚ} (h : ConsumerOk throttler now c) {draining : Bool}
    {allowed : Int} (hpoint : c.point = .send draining allowed) :
    c.sent + c.sendSize allowed = min (c.sent + chunkSize) c.download.size := by
  obtain ⟨hpos, hfloor, hcap, hfilling, hdraining⟩ := h.granted draining allowed hpoint
  have hlength := h.length_eq
  have hchunk : chunkSize = 8192 := rfl
  unfold Consumer.sendSize Download.size
  cases draining with
  | false =>
      have hlen := hfilling rfl
      omega
  | true =>
      rw [(hdraining rfl).1, List.flatten_nil, List.length_nil] at hlength
      omega

/-- Who has sent everything asks for nothing. -/
theorem ConsumerOk.not_send {now : ℚ} (h : ConsumerOk throttler now c)
    (hall : c.sent = c.download.size) (draining : Bool) (allowed : Int) :
    c.point ≠ .send draining allowed := by
  intro hpoint
  obtain ⟨hpos, -, hcap, hfilling, hdraining⟩ := h.granted draining allowed hpoint
  have hlength := h.length_eq
  have hchunk : chunkSize = 8192 := rfl
  unfold Download.size at hall
  cases draining with
  | false =>
      have hlen := hfilling rfl
      omega
  | true =>
      have hlen := List.length_pos_iff.mpr (hdraining rfl).2
      omega

theorem ConsumerOk.sent_le_size {now : ℚ} (h : ConsumerOk throttler now c) :
    c.sent ≤ c.download.size := by
  have hlength := h.length_eq
  have hwithin := h.within
  unfold Download.size
  omega

/-- What is empty has sent everything. -/
theorem ConsumerOk.size_of_empty {now : ℚ} (h : ConsumerOk throttler now c)
    (hbuffer : c.buffer = []) (hcontent : c.content = []) : c.sent = c.download.size := by
  have hlength := h.length_eq
  rw [hbuffer, hcontent, List.flatten_nil, List.length_nil] at hlength
  have hle := h.sent_le_size
  unfold Download.size at hle ⊢
  omega

theorem Paced.next (h : Paced j c) (hall : c.sent = c.download.size) : Paced (j + 1) c := by
  have hsent := h.sent
  refine ⟨?_, fun hlt => absurd hall (Nat.ne_of_lt hlt)⟩
  rw [Nat.mul_succ]
  omega

/-- As long as there is more to send, an iterator that is awake is due now. -/
theorem OnTime.due_eq (h : OnTime j c) (hdue : c.due ≤ j / 100)
    (hmore : c.sent < c.download.size) : c.due = j / 100 := by
  rcases h.paced with hpaced | hpaced
  · exact hpaced.due hmore
  · have hnext := hpaced.due hmore
    push_cast at hnext
    linarith

/-- A step that yields nothing. -/
theorem OnTime.quiet {c' : Consumer α} (h : OnTime j c) (hdue : c.due ≤ j / 100)
    (hdownload : c'.download = c.download) (hyielded : c'.yielded = c.yielded)
    (hmore : c.sent < c.download.size → c'.due = j / 100)
    (hhundredths : ∃ m : Nat, c'.due = m / 100)
    (hfinished : c'.point = .finished → c'.buffer = [] ∧ c'.content = []) : OnTime j c' := by
  have hsent : c'.sent = c.sent := by
    unfold Consumer.sent
    rw [hyielded]
  refine ⟨?_, hhundredths, hfinished⟩
  rcases h.paced with hpaced | hpaced
  · left
    exact ⟨by rw [hsent, hdownload]; exact hpaced.sent, by rw [hsent, hdownload]; exact hmore⟩
  · right
    refine ⟨by rw [hsent, hdownload]; exact hpaced.sent, ?_⟩
    rw [hsent, hdownload]
    intro hlt
    -- with more to send, the next piece would not be due yet
    have hnext := hpaced.due hlt
    push_cast at hnext
    linarith

theorem OnTime.ask (h : OnTime j c) (hok : ConsumerOk throttler (j / 100) c)
    (hdue : c.due ≤ j / 100) (hactive : c.point ≠ .finished) (draining : Bool) :
    OnTime j (c.ask (j / 100) draining (throttler.getAllowedBytes c.transferId (1 / 10))) := by
  obtain ⟨transfer, hget, htotal, hsent⟩ := hok.entry hactive
  have hfloor := le_getAllowedBytes hget
  unfold ActiveTransfer.remainingBytes at hfloor
  rw [htotal, hsent] at hfloor
  unfold Consumer.ask
  split
  next hnone =>
    refine h.quiet hdue rfl rfl ?_ ⟨j + 10, ?_⟩ (fun heq => absurd heq hactive)
    · intro hmore
      exfalso
      unfold Download.size at hmore
      omega
    · push_cast
      ring
  next =>
    exact h.quiet hdue rfl rfl (h.due_eq hdue) h.hundredths (fun heq => nomatch heq)

theorem OnTime.send (h : OnTime j c) (hok : ConsumerOk throttler (j / 100) c)
    (hdue : c.due ≤ j / 100) {draining : Bool} {allowed : Int}
    (hpoint : c.point = .send draining allowed) : OnTime j (c.resume throttler (j / 100)).1 := by
  have hok' := hok.resume hdue
  have hsize := hok.sendSize hpoint
  have hmore : c.sent < c.download.size := by
    refine lt_of_le_of_ne hok.sent_le_size (fun hall => ?_)
    exact hok.not_send hall draining allowed hpoint
  have hsent : c.sent = chunkSize * j := by
    rcases h.paced with hpaced | hpaced
    · have heq := hpaced.sent
      omega
    · have hnext := hpaced.due hmore
      push_cast at hnext
      linarith
  unfold Consumer.resume at hok' ⊢
  rw [hpoint] at hok' ⊢
  dsimp only at hok' ⊢
  have hsent' : (c.yielded ++ [c.buffer.take (c.sendSize allowed)]).flatten.length
      = min (chunkSize * (j + 1)) c.download.size := by
    have htake : c.sendSize allowed ≤ c.buffer.length := by
      unfold Consumer.sendSize
      omega
    rw [Consumer.sent_snoc, List.length_take, Nat.min_eq_left htake, Nat.mul_succ, ← hsent]
    exact hsize
  refine ⟨.inr ⟨hsent', ?_⟩, ?_, ?_⟩
  · intro hlt
    show (if _ then _ else _) = (_ : ℚ)
    split
    next hlast =>
      -- the last piece leaves nothing to send
      exfalso
      rw [Bool.and_eq_true, List.isEmpty_iff] at hlast
      obtain ⟨rfl, hempty⟩ := hlast
      obtain ⟨-, -, -, -, hdraining⟩ := hok.granted true allowed hpoint
      exact absurd (hok'.size_of_empty hempty (hdraining rfl).1) (Nat.ne_of_lt hlt)
    next =>
      push_cast
      ring
  · by_cases hlast : (draining && (c.buffer.drop (c.sendSize allowed)).isEmpty) = true
    · dsimp only
      rw [if_pos hlast]
      exact h.hundredths
    · refine ⟨j + 1, ?_⟩
      dsimp only
      rw [if_neg hlast]
      push_cast
      ring
  · intro heq
    cases draining <;> cases heq

/-- **ONE STEP IN THE `j`-TH HUNDREDTH OF A SECOND.** -/
theorem OnTime.resume (h : OnTime j c) (hok : ConsumerOk throttler (j / 100) c)
    (hdue : c.due ≤ j / 100) : OnTime j (c.resume throttler (j / 100)).1 := by
  cases hpoint : c.point with
  | send draining allowed => exact h.send hok hdue hpoint
  | start =>
      unfold Consumer.resume
      rw [hpoint]
      exact h.quiet hdue rfl rfl (fun _ => rfl) ⟨j, rfl⟩ (fun heq => nomatch heq)
  | pull =>
      unfold Consumer.resume
      rw [hpoint]
      dsimp only
      split
      all_goals exact h.quiet hdue rfl rfl (h.due_eq hdue) h.hundredths (fun heq => nomatch heq)
  | fill =>
      unfold Consumer.resume
      rw [hpoint]
      dsimp only
      split
      next => exact h.ask hok hdue (by rw [hpoint]; decide) false
      next => exact h.quiet hdue rfl rfl (h.due_eq hdue) h.hundredths (fun heq => nomatch heq)
  | drain =>
      unfold Consumer.resume
      rw [hpoint]
      dsimp only
      split
      next hempty =>
        exact h.quiet hdue rfl rfl (h.due_eq hdue) h.hundredths
          (fun _ => ⟨List.isEmpty_iff.mp hempty, hok.drained hpoint⟩)
      next => exact h.ask hok hdue (by rw [hpoint]; decide) true
  | finished =>
      unfold Consumer.resume
      rw [hpoint]
      exact h

end OnTime

/-! The iterators that are awake go on until all of them sleep or have ended. -/

/-- Steps to the next sleep, at most. -/
def Consumer.weight (c : Consumer α) : Nat :=
  match c.point with
  | .start => 2 * c.content.length + 6
  | .pull => 2 * c.content.length + 4
  | .fill => 2 * c.content.length + 5
  | .drain => if c.buffer.isEmpty then 1 else 3
  | .send _ _ => 2
  | .finished => 0

/-- The same, and none in a sleep. -/
def Consumer.rank (now : ℚ) (c : Consumer α) : Nat := if c.due ≤ now then c.weight else 0

section Progress

variable {throttler : BandwidthThrottler} {now : ℚ} {j : Nat} {c : Consumer α}

theorem Consumer.rank_le_weight (now : ℚ) (c : Consumer α) : c.rank now ≤ c.weight := by
  unfold Consumer.rank
  split
  next => exact le_rfl
  next => exact Nat.zero_le _

theorem Consumer.rank_of_asleep (h : now < c.due) : c.rank now = 0 := if_neg (not_le.mpr h)

theorem rank_ask_le (draining : Bool) (allowed : Int) :
    (c.ask now draining allowed).rank now ≤ 2 := by
  unfold Consumer.ask
  split
  next =>
    have hasleep : now < now + 1 / 10 := by linarith
    rw [Consumer.rank_of_asleep hasleep]
    exact Nat.zero_le 2
  next => exact Consumer.rank_le_weight now _

theorem rank_resume_lt (throttler : BandwidthThrottler) (hdue : c.due ≤ now)
    (hpos : c.weight ≠ 0) :
    (c.resume throttler now).1.rank now < c.rank now := by
  have hrank : c.rank now = c.weight := if_pos hdue
  rw [hrank]
  cases hpoint : c.point with
  | start =>
      refine lt_of_le_of_lt (Consumer.rank_le_weight now _) ?_
      simp only [Consumer.resume, Consumer.weight, hpoint]
      omega
  | pull =>
      have hweight : c.weight = 2 * c.content.length + 4 := by simp only [Consumer.weight, hpoint]
      refine lt_of_le_of_lt (Consumer.rank_le_weight now _) ?_
      unfold Consumer.resume
      rw [hpoint, hweight]
      cases c.content with
      | nil =>
          show (if c.buffer.isEmpty = true then 1 else 3) < 4
          split <;> omega
      | cons chunk content =>
          show 2 * content.length + 5 < 2 * (content.length + 1) + 4
          omega
  | fill =>
      have hweight : c.weight = 2 * c.content.length + 5 := by simp only [Consumer.weight, hpoint]
      unfold Consumer.resume
      rw [hpoint, hweight]
      dsimp only
      split
      next => exact lt_of_le_of_lt (rank_ask_le false _) (by omega)
      next =>
        refine lt_of_le_of_lt (Consumer.rank_le_weight now _) ?_
        show 2 * c.content.length + 4 < _
        omega
  | drain =>
      have hweight : c.weight = if c.buffer.isEmpty then 1 else 3 := by
        simp only [Consumer.weight, hpoint]
      unfold Consumer.resume
      rw [hpoint, hweight]
      dsimp only
      split
      next =>
        refine lt_of_le_of_lt (Consumer.rank_le_weight now _) ?_
        exact Nat.zero_lt_one
      next => exact lt_of_le_of_lt (rank_ask_le true _) (by omega)
  | send draining allowed =>
      have hweight : c.weight = 2 := by simp only [Consumer.weight, hpoint]
      unfold Consumer.resume
      rw [hpoint, hweight]
      dsimp only
      by_cases hlast : (draining && (c.buffer.drop (c.sendSize allowed)).isEmpty) = true
      · -- an empty buffer ends the loop at once
        refine lt_of_le_of_lt (Consumer.rank_le_weight now _) ?_
        rw [Bool.and_eq_true] at hlast
        simp [Consumer.weight, hlast.1, hlast.2]
      · rw [if_neg hlast, Consumer.rank_of_asleep]
        · exact Nat.zero_lt_two
        · show now < now + 1 / 100
          linarith
  | finished =>
      simp only [Consumer.weight, hpoint] at hpos
      exact absurd rfl hpos

/-- Who does not go on has sent its piece, and sleeps until the next hundredth of a second. -/
theorem OnTime.settled (h : OnTime j c) (hok : ConsumerOk throttler (j / 100) c)
    (hrank : c.rank (j / 100) = 0) :
    Paced (j + 1) c ∧ (c.point = .finished ∨ ((j + 1 : Nat) : ℚ) / 100 ≤ c.due) := by
  have hall : c.sent = c.download.size → Paced (j + 1) c := by
    intro hall
    rcases h.paced with hpaced | hpaced
    · exact hpaced.next hall
    · exact hpaced
  by_cases hfinished : c.point = .finished
  · obtain ⟨hbuffer, hcontent⟩ := h.finished hfinished
    exact ⟨hall (hok.size_of_empty hbuffer hcontent), .inl hfinished⟩
  · have hasleep : (j : ℚ) / 100 < c.due := by
      by_contra hawake
      rw [Consumer.rank, if_pos (not_lt.mp hawake)] at hrank
      unfold Consumer.weight at hrank
      split at hrank
      next => omega
      next => omega
      next => omega
      next => split at hrank <;> omega
      next => omega
      next heq => exact hfinished heq
    refine ⟨?_, .inr ?_⟩
    · rcases h.paced with hpaced | hpaced
      · refine hall (le_antisymm hok.sent_le_size (not_lt.mp (fun hlt => ?_)))
        rw [hpaced.due hlt] at hasleep
        exact lt_irrefl _ hasleep
      · exact hpaced
    · obtain ⟨m, hm⟩ := h.hundredths
      rw [hm] at hasleep ⊢
      have hlt : (j : ℚ) < m := by linarith
      have hle : j + 1 ≤ m := Nat.cast_lt.mp hlt
      gcongr

end Progress

/-- Steps until all iterators sleep or have ended, at most. -/
def Serving.rank (s : Serving α) : Nat := s.consumers.total (Consumer.rank s.now)

/-- All iterators are in the `j`-th hundredth of a second. -/
structure TickOk (downloads : Table (Download.transferId (α := α))) (j : Nat) (s : Serving α) :
    Prop where
  ok : ServingOk downloads s
  now : s.now = j / 100
  onTime : ∀ c ∈ s.consumers.rows, OnTime j c

section Ticks

variable {downloads : Table (Download.transferId (α := α))} {j : Nat} {s : Serving α}

theorem servingStep_resume {c : Consumer α} (hc : c ∈ s.consumers.rows) (hdue : c.due ≤ s.now) :
    servingStep s (.resume c.transferId) =
      { s with
        throttler := (c.resume s.throttler s.now).2
        consumers := s.consumers.put (c.resume s.throttler s.now).1 } := by
  unfold servingStep
  dsimp only
  rw [Table.get?_eq_some_iff.mpr ⟨hc, rfl⟩]
  dsimp only
  rw [if_pos hdue]

/-- As long as an iterator is awake, one of them goes on. -/
theorem TickOk.progress (s : Serving α) (h : TickOk downloads j s) (hrank : s.rank ≠ 0) :
    ∃ tick, TickOk downloads j (servingStep s tick) ∧ (servingStep s tick).rank < s.rank := by
  have hawake : ∃ c ∈ s.consumers.rows, c.rank s.now ≠ 0 := by
    by_contra hnone
    push Not at hnone
    refine hrank (List.sum_eq_zero (fun x hx => ?_))
    obtain ⟨c, hc, rfl⟩ := List.mem_map.mp hx
    exact hnone c hc
  obtain ⟨c, hc, hne⟩ := hawake
  have hdue : c.due ≤ s.now := by
    by_contra hasleep
    exact hne (Consumer.rank_of_asleep (not_le.mp hasleep))
  have hweight : c.weight ≠ 0 := by
    rwa [Consumer.rank, if_pos hdue] at hne
  have hkey := c.transferId_resume s.throttler s.now
  have hok := servingOk_step s (.resume c.transferId) h.ok
  refine ⟨.resume c.transferId, ⟨hok, ?_, ?_⟩, ?_⟩
  · rw [servingStep_resume hc hdue]
    exact h.now
  · rw [servingStep_resume hc hdue]
    intro x hx
    rcases (Table.mem_put_iff ⟨c, hc, hkey.symm⟩).mp hx with rfl | ⟨hx, -⟩
    · have hcok := h.ok.consumers c hc
      rw [h.now] at hcok hdue ⊢
      exact (h.onTime c hc).resume hcok hdue
    · exact h.onTime x hx
  · rw [servingStep_resume hc hdue]
    have htotal := Table.total_put (w := Consumer.rank s.now) hc hkey
    have hlt := rank_resume_lt s.throttler hdue hweight
    unfold Serving.rank
    dsimp only
    omega

/-- All of them sleep or have ended. -/
structure Settled (downloads : Table (Download.transferId (α := α))) (j : Nat) (s : Serving α) :
    Prop where
  tick : TickOk downloads j s
  settled : ∀ c ∈ s.consumers.rows,
    Paced (j + 1) c ∧ (c.point = .finished ∨ ((j + 1 : Nat) : ℚ) / 100 ≤ c.due)

theorem TickOk.settle (h : TickOk downloads j s) :
    ∃ ticks, Settled downloads j (run servingStep s ticks) := by
  obtain ⟨ticks, htick, hrank⟩ := exists_run_of_measure TickOk.progress h
  refine ⟨ticks, htick, fun c hc => ?_⟩
  have hcok := htick.ok.consumers c hc
  have hzero : c.rank (run servingStep s ticks).now = 0 :=
    List.sum_eq_zero_iff.mp hrank _ (List.mem_map.mpr ⟨c, hc, rfl⟩)
  rw [htick.now] at hcok hzero
  exact (htick.onTime c hc).settled hcok hzero

/-- Time passes to the next hundredth of a second. -/
theorem Settled.advance (h : Settled downloads j s) :
    TickOk downloads (j + 1) (servingStep s (.advance ((j + 1 : Nat) / 100))) := by
  have hlater : s.now ≤ ((j + 1 : Nat) : ℚ) / 100 := by
    rw [h.tick.now]
    gcongr
    exact Nat.le_succ j
  have hall : ∀ c ∈ s.consumers.rows, c.point = .start ∨ c.point = .finished ∨
      ((j + 1 : Nat) : ℚ) / 100 ≤ c.due := fun c hc => .inr (h.settled c hc).2
  have hstep : servingStep s (.advance ((j + 1 : Nat) / 100))
      = { s with now := ((j + 1 : Nat) : ℚ) / 100 } := if_pos ⟨hlater, hall⟩
  have hok := servingOk_step s (.advance ((j + 1 : Nat) / 100)) h.tick.ok
  rw [hstep] at hok ⊢
  refine ⟨hok, rfl, fun c hc => ?_⟩
  have honTime := h.tick.onTime c hc
  exact ⟨.inl (h.settled c hc).1, honTime.hundredths, honTime.finished⟩

/-- **IT HAS ALL BEEN SENT.** -/
theorem Settled.sent_eq (h : Settled downloads j s) : s.sent = sendable downloads j := by
  unfold sendable Serving.sent
  rw [← total_downloads h.tick.ok]
  unfold Table.total
  exact congrArg List.sum (List.map_congr_left (fun c hc => (h.settled c hc).1.sent))

end Ticks

/-- **A RUN IN WHICH SO MUCH IS SENT**, by every hundredth of a second. -/
theorem exists_run_at (bandwidth : Int) (downloads : Table (Download.transferId (α := α)))
    (k : Nat) :
    ∃ ticks, Settled downloads k (run servingStep (serving bandwidth downloads) ticks) := by
  induction k with
  | zero =>
      refine TickOk.settle ⟨servingOk_serving, by simp [serving], fun c hc => ?_⟩
      obtain ⟨d, -, rfl⟩ := List.mem_map.mp hc
      exact ⟨.inl ⟨by simp [Consumer.sent], fun _ => by simp⟩, ⟨0, by simp⟩, fun heq => nomatch heq⟩
  | succ k ih =>
      obtain ⟨ticks, hsettled⟩ := ih
      obtain ⟨ticks', hsettled'⟩ := hsettled.advance.settle
      refine ⟨ticks ++ .advance ((k + 1 : Nat) / 100) :: ticks', ?_⟩
      rw [run_append]
      exact hsettled'

/-! ## §4. The limit. -/

/-- **THE LIMIT**: all that has been yielded by now is within the bandwidth, or within the
floor for each of the transfers, with a tenth of a second in advance. -/
def WithinLimit (bandwidth : Int) (transfers : Nat) (s : Serving α) : Prop :=
  (s.sent : ℚ) ≤ max (bandwidth : ℚ) (transfers * 125000) * (s.now + 1 / 10)

/-- The limit at the time `k / 100`, in whole numbers. -/
theorem limit_at (limit : Int) (sent k : Nat) :
    (sent : ℚ) ≤ limit * (k / 100 + 1 / 10) ↔ 100 * (sent : Int) ≤ limit * (k + 10) := by
  have hmul : (limit : ℚ) * (k / 100 + 1 / 10) = ((limit * (k + 10) : Int) : ℚ) / 100 := by
    push_cast
    ring
  rw [hmul, le_div_iff₀ (by norm_num)]
  constructor
  · intro h
    have hcast : ((100 * (sent : Int) : Int) : ℚ) ≤ ((limit * (k + 10) : Int) : ℚ) := by
      push_cast at h ⊢
      linarith
    exact Int.cast_le.mp hcast
  · intro h
    have hcast : ((100 * (sent : Int) : Int) : ℚ) ≤ ((limit * (k + 10) : Int) : ℚ) :=
      Int.cast_le.mpr h
    push_cast at hcast ⊢
    linarith

theorem limit_cast (bandwidth : Int) (transfers : Nat) :
    max (bandwidth : ℚ) (transfers * 125000)
      = ((max bandwidth (transfers * 125000) : Int) : ℚ) := by
  push_cast
  rfl

/-- **THE LIMIT IS KEPT IN EVERY INTERLEAVING, EXACTLY IF** for every `k` the files, each with
`k + 1` pieces of 8192 bytes or all that can be sent of it, are within the limit at the time
`k / 100`. -/
theorem bandwidth_limit_iff (bandwidth : Int)
    (downloads : Table (Download.transferId (α := α))) :
    (∀ ticks, Always servingStep (WithinLimit bandwidth downloads.rows.length)
      (serving bandwidth downloads) ticks) ↔
    ∀ k : Nat, 100 * (sendable downloads k : Int) ≤
      max bandwidth (downloads.rows.length * 125000) * (k + 10) := by
  constructor
  · intro h k
    obtain ⟨ticks, hsettled⟩ := exists_run_at bandwidth downloads k
    have hlast := (h ticks).last
    unfold WithinLimit at hlast
    rw [hsettled.sent_eq, hsettled.tick.now, limit_cast] at hlast
    exact (limit_at _ _ k).mp hlast
  · intro h ticks
    have hok : Always servingStep (ServingOk downloads) (serving bandwidth downloads) ticks :=
      always_of_step (fun s tick hs _ => servingOk_step s tick hs)
        servingOk_serving (along_true _ _)
    refine hok.mono (fun s hs => ?_)
    -- the last hundredth of a second that has begun
    obtain ⟨k, hk, hlt⟩ : ∃ k : Nat, (k : ℚ) ≤ 100 * s.now ∧ 100 * s.now < k + 1 :=
      ⟨⌊100 * s.now⌋₊, Nat.floor_le (by linarith [hs.now]), Nat.lt_floor_add_one _⟩
    have hsent : (s.sent : ℚ) ≤ sendable downloads k := by
      exact_mod_cast sent_le_sendable hs hlt
    have hlimit := (limit_at _ _ k).mpr (h k)
    unfold WithinLimit
    rw [limit_cast]
    have hpos : (0 : ℚ) ≤ ((max bandwidth (downloads.rows.length * 125000) : Int) : ℚ) := by
      have hmax : (0 : Int) ≤ max bandwidth (downloads.rows.length * 125000) := by omega
      exact_mod_cast hmax
    refine (hsent.trans hlimit).trans (mul_le_mul_of_nonneg_left ?_ hpos)
    linarith

/-- One file of so many bytes. -/
def oneFile (bytes : Nat) : Table (Download.transferId (α := Nat)) where
  rows := [{ transferId := "boot", totalBytes := bytes, content := [List.replicate bytes 0] }]
  nodup := List.nodup_singleton _

theorem sendable_oneFile (bytes k : Nat) :
    sendable (oneFile bytes) k = min (chunkSize * (k + 1)) bytes := by
  simp [sendable, oneFile, Table.total, Download.size]

/-- A file of two pieces, with the limit at the floor: after 10 ms both pieces are sent,
16384 bytes where 13750 are within the limit. -/
theorem limit_exceeded :
    ¬ ∀ ticks, Always servingStep (WithinLimit 125000 (oneFile 16384).rows.length)
      (serving 125000 (oneFile 16384)) ticks := by
  intro h
  obtain ⟨ticks, hsettled⟩ := exists_run_at 125000 (oneFile 16384) 1
  have hlast := (h ticks).last
  have hone : (oneFile 16384).rows.length = 1 := rfl
  have hsendable : sendable (oneFile 16384) 1 = 16384 := sendable_oneFile 16384 1
  unfold WithinLimit at hlast
  rw [hsettled.sent_eq, hsettled.tick.now, hsendable, hone] at hlast
  norm_num at hlast

end PureBoot.Storage
