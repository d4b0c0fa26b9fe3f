/-
  PureBoot.Lifecycle.StoredTimes — the STORED TIMES that the boot and the clone protocol read back.

  `GET /boot` measures how long a node has been installing, and
  `POST /clone-sessions/{id}/complete` how long a session took.  Both subtract a stored time
  from the current one.  The columns keep no time zone: what is read back is naive, the
  current time is not, and Python refuses to subtract the two.

  Main results:
    * `returns_iff` — such a request returns exactly if the time it reads is `NULL`;
    * `stored_times_iff` — runs without a crash.
-/
import PureBoot.Lifecycle.Timeouts

namespace PureBoot.Lifecycle

open PureBoot.Lib

/-! ## §1. The requests that measure a time. -/

/-- The node `GET /boot` finds. -/
def bootNode (db : DB) (req : BootRequest) : Option Node :=
  match validateMac req.mac with
  | .ok mac => db.nodeByMac mac
  | .error _ => none

/-- `GET /boot` of an installing node with a timeout, and the completion of a session that was
started. -/
def timed (env : Env) (db : DB) (r : Request) : Bool :=
  match r.op with
  | .getBootScript _ req =>
      0 < env.installTimeoutMinutes && (bootNode db req).any (fun n => n.state = .installing)
  | .cloneComplete sessionId => (db.sessions.get? sessionId).any (fun s => s.startedAt.isSome)
  | _ => false

/-- The time it reads. -/
def storedTime (db : DB) (r : Request) : Option Timestamp :=
  match r.op with
  | .getBootScript _ req => (bootNode db req).bind Node.stateChangedAt
  | .cloneComplete sessionId => (db.sessions.get? sessionId).bind CloneSession.startedAt
  | _ => none

/-- The two handlers return normally. -/
def Returns (env : Env) (db : DB) (r : Request) : Prop :=
  match r.op with
  | .getBootScript uuid req => ∃ answer, getBootScript env r.now db uuid req = .ok answer
  | .cloneComplete sessionId => ∃ answer, cloneComplete env r.now db sessionId = .ok answer
  | _ => True

/-- No request of the run that measures a time crashes. -/
def NeverCrashes (env : Env) (db : DB) (reqs : List Request) : Prop :=
  Along (exec env) (fun db r => timed env db r = true → Returns env db r) db reqs

/-! ## §2. One request. -/

section
variable {env : Env} {db : DB} {r : Request}

/-- A stored time that is read back naive cannot be subtracted from the current one. -/
theorem sub_readback (hnaive : ∀ t, (env.readback t).aware = false) {now stored : Timestamp}
    (hnow : now.aware = true) :
    now.sub (env.readback stored)
      = .error (.typeError "can't subtract offset-naive and offset-aware datetimes") := by
  unfold Timestamp.sub
  rw [hnow, hnaive, if_neg (by decide)]

/-- The timeout check of an installing node returns exactly if no time is stored. -/
theorem getBootScript_returns_iff (hnaive : ∀ t, (env.readback t).aware = false)
    (hT : 0 < env.installTimeoutMinutes) {now : Timestamp} (hnow : now.aware = true)
    {uuid : String} {req : BootRequest} {node : Node} (hnode : bootNode db req = some node)
    (hstate : node.state = .installing) :
    (∃ answer, getBootScript env now db uuid req = .ok answer) ↔ node.stateChangedAt = none := by
  unfold bootNode at hnode
  cases hmac : validateMac req.mac with
  | error e =>
      rw [hmac] at hnode
      cases hnode
  | ok mac =>
      rw [hmac] at hnode
      have hnode : db.nodeByMac mac = some node := hnode
      have hstate' : (touchBooted now node req).state = .installing := hstate
      have hboot : getBootScript env now db uuid req
          = bootInstalling env now (touchBooted now node req)
            >>= fun w => .ok (w.1, db.save w.2.1 w.2.2 []) := by
        unfold getBootScript
        rw [hmac, ok_bind, hnode]
        dsimp only
        rw [hstate']
      have hchanged : (touchBooted now node req).stateChangedAt = node.stateChangedAt := rfl
      rw [hboot]
      unfold bootInstalling
      rw [hchanged]
      cases node.stateChangedAt with
      | none => exact ⟨fun _ => rfl, fun _ => ⟨_, rfl⟩⟩
      | some changed =>
          dsimp only
          rw [if_pos hT, sub_readback hnaive hnow]
          constructor
          · rintro ⟨answer, h⟩
            cases h
          · intro h
            cases h

/-- A completion returns exactly if no start is stored. -/
theorem cloneComplete_returns_iff (hnaive : ∀ t, (env.readback t).aware = false)
    {now : Timestamp} (hnow : now.aware = true) {sessionId : String} {session : CloneSession}
    (hsession : db.sessions.get? sessionId = some session) :
    (∃ answer, cloneComplete env now db sessionId = .ok answer) ↔ session.startedAt = none := by
  unfold cloneComplete
  rw [hsession]
  dsimp only
  cases session.startedAt with
  | none => exact ⟨fun _ => rfl, fun _ => ⟨_, rfl⟩⟩
  | some started =>
      dsimp only
      rw [sub_readback hnaive hnow]
      constructor
      · rintro ⟨answer, h⟩
        cases h
      · intro h
        cases h

/-- **ONE REQUEST**: it returns exactly if the time it reads is `NULL`. -/
theorem returns_iff (hnaive : ∀ t, (env.readback t).aware = false) (hnow : r.now.aware = true)
    (htimed : timed env db r = true) : Returns env db r ↔ storedTime db r = none := by
  unfold timed at htimed
  unfold Returns storedTime
  split at htimed
  next uuid req hop =>
    rw [Bool.and_eq_true, decide_eq_true_eq, Option.any_eq_true] at htimed
    obtain ⟨hT, node, hnode, hstate⟩ := htimed
    rw [hnode]
    exact getBootScript_returns_iff hnaive hT hnow hnode (of_decide_eq_true hstate)
  next sessionId hop =>
    rw [Option.any_eq_true] at htimed
    obtain ⟨session, hsession, -⟩ := htimed
    rw [hsession]
    exact cloneComplete_returns_iff hnaive hnow hsession
  next => cases htimed

end

/-! ## §3. Runs. -/

/-- **THE PROTOCOLS DO NOT CRASH EXACTLY WHERE NO TIME IS STORED.** -/
theorem stored_times_iff {env : Env} (hnaive : ∀ t, (env.readback t).aware = false) (db : DB)
    {reqs : List Request} (hnow : ∀ r ∈ reqs, r.now.aware = true) :
    NeverCrashes env db reqs ↔
      Along (exec env) (fun db r => timed env db r = true → storedTime db r = none) db reqs := by
  have hlabels : Along (exec env) (fun _ r => r.now.aware = true) db reqs :=
    along_label_iff.mpr hnow
  exact (hlabels.mono (fun db r h => imp_congr_right (returns_iff hnaive h))).congr

/-- A session that is started and completed. -/
def completedClone : List Request :=
  preparedClone ++ [⟨⟨4, true⟩, .startCloneSession "s"⟩, ⟨⟨5, true⟩, .cloneComplete "s"⟩]

theorem stored_times_iff_completed :
    NeverCrashes sqliteEnv DB.empty completedClone ↔
      Along (exec sqliteEnv) (fun db r => timed sqliteEnv db r = true → storedTime db r = none)
        DB.empty completedClone :=
  stored_times_iff (fun _ => rfl) DB.empty (by decide)

/-- Neither the session can be completed nor the node that is being installed be booted. -/
theorem stored_times_crash :
    ¬ NeverCrashes sqliteEnv DB.empty completedClone
      ∧ ¬ NeverCrashes sqliteEnv slowDB [bootAt 1] := by
  constructor
  · rintro ⟨-, -, -, -, -, hcomplete, -⟩
    have htimed := hcomplete (by decide)
    rw [returns_iff (fun _ => rfl) rfl (by decide)] at htimed
    exact absurd htimed (by decide)
  · rintro ⟨hboot, -⟩
    have hnode : bootNode slowDB { mac := "00-11-22-33-44-55" } = some slowNode := by
      unfold bootNode
      rw [validateMac_bootAt]
      decide
    have htimed : timed sqliteEnv slowDB (bootAt 1) = true := by
      unfold timed bootAt
      dsimp only
      rw [hnode]
      decide
    have hnone := (returns_iff (fun _ => rfl) rfl htimed).mp (hboot htimed)
    unfold storedTime bootAt at hnone
    dsimp only at hnone
    rw [hnode] at hnone
    exact absurd hnone (by decide)

end PureBoot.Lifecycle
