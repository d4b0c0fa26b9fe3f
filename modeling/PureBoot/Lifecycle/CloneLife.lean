/-
  PureBoot.Lifecycle.CloneLife — the life of a CLONE SESSION under requests in any order.

  A session goes from `pending` over `source_ready` and `cloning` to `completed`, and from
  any of the first three to `failed` or `cancelled`.  Only `start`, `update` and `delete`
  look at the status; the messages of the two machines (`source-ready`, `complete`,
  `failed`) write theirs whatever they find, and `start` leaves the status at `pending`, so
  it can be repeated.  `Watch` adds to the database the starts that succeeded.

  Main results:
    * `exec_sessions` — what a request does to the sessions;
    * `lifecycleLaw_iff` — the requests that respect the life of a session;
    * `clone_lifecycle_iff` — the runs that do.
-/
import PureBoot.Lifecycle.NodeSteps

namespace PureBoot.Lifecycle

open PureBoot.Lib

/-! ## §1. The law. -/

/-- `completed`, `failed` and `cancelled`. -/
def CloneStatus.terminal : CloneStatus → Bool
  | .completed | .failed | .cancelled => true
  | .pending | .sourceReady | .cloning => false

/-- A move forward: to the next status, or to the end.  If `skips`, a status in between may
be left out. -/
def CloneStatus.forward (skips : Bool) (a : CloneStatus) : CloneStatus → Bool
  | .pending => false
  | .sourceReady => a = .pending
  | .cloning => a = .sourceReady || skips && a = .pending
  | .completed => a = .cloning || skips && (a = .pending || a = .sourceReady)
  | .failed | .cancelled => !a.terminal

/-- The session a request is about. -/
def Op.session : Op → Option String
  | .updateCloneSession sessionId _ | .deleteCloneSession sessionId
  | .startCloneSession sessionId | .cloneSourceReady sessionId _ | .cloneProgress sessionId _
  | .cloneComplete sessionId | .cloneFailed sessionId _ => some sessionId
  | _ => none

/-- The database, and the ids of the sessions started so far, one for each start. -/
structure Watch where
  db : DB
  started : List String

/-- One request, watched; the id of a new session has not been started. -/
def watchStep (env : Env) (w : Watch) (r : Request) : Watch where
  db := exec env w.db r
  started := match r.op with
    | .startCloneSession sessionId =>
        match startCloneSession env r.now w.db sessionId with
        | .ok _ => sessionId :: w.started
        | .error _ => w.started
    | .createCloneSession uuid request =>
        match createCloneSession env w.db uuid request with
        | .ok _ => w.started.filter (fun id => id ≠ uuid)
        | .error _ => w.started
    | _ => w.started

def watchEmpty : Watch := ⟨DB.empty, []⟩

/-- **THE LIFE OF A SESSION**, as one request may go on with it. -/
structure LifecycleLaw (skips : Bool) (env : Env) (w : Watch) (r : Request) : Prop where
  /-- The status is kept or moves forward. -/
  status : ∀ s ∈ w.db.sessions.rows, ∀ s' ∈ (exec env w.db r).sessions.rows, s'.id = s.id →
    s'.status = s.status ∨ s.status.forward skips s'.status = true
  /-- A session that has ended keeps its status and its end. -/
  ended : ∀ s ∈ w.db.sessions.rows, s.status.terminal = true →
    ∀ s' ∈ (exec env w.db r).sessions.rows, s'.id = s.id →
      s'.status = s.status ∧ s'.completedAt = s.completedAt
  /-- Its requests leave every node as it is. -/
  assigned : ∀ s ∈ w.db.sessions.rows, s.status.terminal = true → r.op.session = some s.id →
    (exec env w.db r).nodes = w.db.nodes
  /-- No session is started twice. -/
  startedOnce : (watchStep env w r).started.Nodup

/-! ## §2. When a request keeps it. -/

/-- `completed_at - started_at` can be computed, so `clone_complete` returns. -/
def durationComputable (env : Env) (now : Timestamp) (s : CloneSession) : Bool :=
  match s.startedAt with
  | some started => now.aware = (env.readback started).aware
  | none => true

/-- The session with this id, if there is one, satisfies the condition. -/
def DB.sessionMeets (db : DB) (sessionId : String) (p : CloneSession → Bool) : Bool :=
  match db.sessions.get? sessionId with
  | some s => p s
  | none => true

/-- A source becomes ready only while its session waits for it; the end of a session is
reported once, where it may end so; a pending session is started once. -/
def cloneMeets (skips : Bool) (env : Env) (db : DB) (r : Request) : Bool :=
  match r.op with
  | .cloneSourceReady sessionId _ =>
      db.sessionMeets sessionId (fun s => s.status = .pending || s.status = .sourceReady)
  | .cloneComplete sessionId =>
      db.sessionMeets sessionId (fun s => !durationComputable env r.now s
        || s.status.forward skips .completed
        || s.status = .completed && s.completedAt = some r.now)
  | .cloneFailed sessionId _ =>
      db.sessionMeets sessionId (fun s => !s.status.terminal
        || s.status = .failed && s.completedAt = some r.now)
  | .startCloneSession sessionId =>
      db.sessionMeets sessionId (fun s => s.status ≠ .pending || s.startedAt = none)
  | _ => true

/-! ## §3. What a request does to a session. -/

/-- The columns the life of a session is told in. -/
structure SessionKept (s s' : CloneSession) : Prop where
  id : s'.id = s.id
  status : s'.status = s.status
  startedAt : s'.startedAt = s.startedAt
  completedAt : s'.completedAt = s.completedAt

/-- **What one request may do to a session.** -/
inductive SessionStep (env : Env) (r : Request) (s : CloneSession) : CloneSession → Prop where
  | kept {s' : CloneSession} : SessionKept s s' → SessionStep env r s s'
  | started {s' : CloneSession} : r.op = .startCloneSession s.id → s.status = .pending →
      s'.id = s.id → s'.status = .pending → s'.startedAt = some r.now →
      s'.completedAt = s.completedAt → SessionStep env r s s'
  | sourceReady {s' : CloneSession} {request : CloneSourceReady} :
      r.op = .cloneSourceReady s.id request → s'.id = s.id → s'.status = .sourceReady →
      s'.completedAt = s.completedAt → SessionStep env r s s'
  | progressed {s' : CloneSession} : s.status = .sourceReady → s'.id = s.id →
      s'.status = .cloning → s'.completedAt = s.completedAt → SessionStep env r s s'
  | completed {s' : CloneSession} : r.op = .cloneComplete s.id →
      durationComputable env r.now s = true → s'.id = s.id → s'.status = .completed →
      s'.completedAt = some r.now → SessionStep env r s s'
  | failed {s' : CloneSession} {errorMessage : String} :
      r.op = .cloneFailed s.id errorMessage → s'.id = s.id → s'.status = .failed →
      s'.completedAt = some r.now → SessionStep env r s s'
  | cancelled {s' : CloneSession} : s.status = .cloning → s'.id = s.id →
      s'.status = .cancelled → SessionStep env r s s'

/-- A session that was just created. -/
structure Newcomer (db : DB) (r : Request) (s' : CloneSession) : Prop where
  created : ∃ request, r.op = .createCloneSession s'.id request
  fresh : ∀ s ∈ db.sessions.rows, s.id ≠ s'.id
  status : s'.status = .pending
  startedAt : s'.startedAt = none

/-- **What one request may do to the `clone_sessions` table**: sessions may also go. -/
def SessionsFrom (env : Env) (r : Request) (db db' : DB) : Prop :=
  ∀ s' ∈ db'.sessions.rows, (∃ s ∈ db.sessions.rows, SessionStep env r s s') ∨ Newcomer db r s'

theorem SessionStep.id_eq {env : Env} {r : Request} {s s' : CloneSession}
    (h : SessionStep env r s s') : s'.id = s.id := by
  cases h with
  | kept hk => exact hk.id
  | started _ _ hid => exact hid
  | sourceReady _ hid => exact hid
  | progressed _ hid => exact hid
  | completed _ _ hid => exact hid
  | failed _ hid => exact hid
  | cancelled _ hid => exact hid

section Handlers

variable {env : Env} {r : Request} {db db' : DB} {sessionId : String}

theorem sessionsFrom_frame (h : db'.sessions = db.sessions) : SessionsFrom env r db db' := by
  intro s' hs'
  rw [h] at hs'
  exact .inl ⟨s', hs', .kept ⟨rfl, rfl, rfl, rfl⟩⟩

theorem sessionsFrom_put {s s' : CloneSession} (hs : s ∈ db.sessions.rows)
    (hdb : db'.sessions = db.sessions.put s') (hstep : SessionStep env r s s') :
    SessionsFrom env r db db' := by
  intro x hx
  rw [hdb, Table.mem_put_iff ⟨s, hs, hstep.id_eq.symm⟩] at hx
  rcases hx with rfl | ⟨hx, -⟩
  · exact .inl ⟨s, hs, hstep⟩
  · exact .inl ⟨x, hx, .kept ⟨rfl, rfl, rfl, rfl⟩⟩

theorem bootForClone_saveSession (now : Timestamp) (nodeId workflowId : String)
    (s' : CloneSession) :
    ((db.bootForClone now nodeId workflowId).saveSession s').sessions = db.sessions.put s' := by
  unfold DB.bootForClone
  split <;> rfl

/-- A session that is created is pending and has a new id. -/
theorem createCloneSession_eq_ok {uuid : String} {request : CloneSessionCreate}
    {a : CloneSession} (h : createCloneSession env db uuid request = .ok (a, db')) :
    db'.sessions.rows = db.sessions.rows ++ [a] ∧ (∀ s ∈ db.sessions.rows, s.id ≠ a.id)
      ∧ a.id = uuid ∧ a.status = .pending ∧ a.startedAt = none := by
  unfold createCloneSession at h
  obtain ⟨-, h⟩ := ite_error_eq_ok.mp h
  obtain ⟨-, h⟩ := ite_error_eq_ok.mp h
  obtain ⟨-, h⟩ := ite_error_eq_ok.mp h
  dsimp only at h
  split at h
  next sessions hins =>
    obtain ⟨rfl, rfl⟩ := ok_pair_inj h
    obtain ⟨hfresh, hrows⟩ := Table.insert?_eq_some_iff.mp hins
    exact ⟨hrows, hfresh, rfl, rfl, rfl⟩
  next => cases h

theorem createCloneSession_sessions {uuid : String} {request : CloneSessionCreate}
    {a : CloneSession} (hop : r.op = .createCloneSession uuid request)
    (h : createCloneSession env db uuid request = .ok (a, db')) : SessionsFrom env r db db' := by
  obtain ⟨hrows, hfresh, hid, hst, hstart⟩ := createCloneSession_eq_ok h
  intro s' hs'
  rw [hrows, List.mem_append, List.mem_singleton] at hs'
  rcases hs' with hs' | rfl
  · exact .inl ⟨s', hs', .kept ⟨rfl, rfl, rfl, rfl⟩⟩
  · exact .inr ⟨⟨request, hid ▸ hop⟩, hfresh, hst, hstart⟩

theorem updateCloneSession_sessions {request : CloneSessionUpdate} {a : CloneSession}
    (h : updateCloneSession db sessionId request = .ok (a, db')) : SessionsFrom env r db db' := by
  unfold updateCloneSession at h
  split at h
  next => cases h
  next s hget =>
    obtain ⟨-, h⟩ := ite_error_eq_ok.mp h
    obtain ⟨-, h⟩ := ite_error_eq_ok.mp h
    obtain ⟨-, rfl⟩ := ok_pair_inj h
    exact sessionsFrom_put (Table.get?_eq_some_iff.mp hget).1 rfl (.kept ⟨rfl, rfl, rfl, rfl⟩)

theorem deleteCloneSession_sessions {a : String}
    (h : deleteCloneSession r.now db sessionId = .ok (a, db')) : SessionsFrom env r db db' := by
  unfold deleteCloneSession at h
  split at h
  next => cases h
  next s hget =>
    split at h
    next hcloning =>
      obtain ⟨-, rfl⟩ := ok_pair_inj h
      exact sessionsFrom_put (Table.get?_eq_some_iff.mp hget).1 rfl (.cancelled hcloning rfl rfl)
    next =>
      obtain ⟨-, rfl⟩ := ok_pair_inj h
      intro s' hs'
      exact .inl ⟨s', (Table.mem_delete.mp hs').1, .kept ⟨rfl, rfl, rfl, rfl⟩⟩

theorem startCloneSession_sessions {a : String} (hop : r.op = .startCloneSession sessionId)
    (h : startCloneSession env r.now db sessionId = .ok (a, db')) : SessionsFrom env r db db' := by
  obtain ⟨s, hs, rfl, hst, s', rfl, hid, hst', hstart, hend⟩ := startCloneSession_eq_ok h
  exact sessionsFrom_put hs (bootForClone_saveSession ..)
    (.started hop hst hid hst' hstart hend)

theorem cloneSourceReady_sessions {request : CloneSourceReady} {a : Bool × String}
    (hop : r.op = .cloneSourceReady sessionId request)
    (h : cloneSourceReady r.now db sessionId request = .ok (a, db')) :
    SessionsFrom env r db db' := by
  obtain ⟨s, hs, rfl, s', rfl | ⟨nodeId, -, -, -, rfl⟩, hid, hst, hend⟩ :=
    cloneSourceReady_eq_ok h
  · exact sessionsFrom_put hs rfl (.sourceReady hop hid hst hend)
  · exact sessionsFrom_put hs (bootForClone_saveSession ..) (.sourceReady hop hid hst hend)

theorem cloneProgress_sessions {request : CloneProgressUpdate} {a : CloneSession}
    (h : cloneProgress db sessionId request = .ok (a, db')) : SessionsFrom env r db db' := by
  unfold cloneProgress at h
  split at h
  next => cases h
  next s hget =>
    obtain ⟨-, rfl⟩ := ok_pair_inj h
    refine sessionsFrom_put (Table.get?_eq_some_iff.mp hget).1 rfl ?_
    by_cases hready : s.status = .sourceReady
    · exact .progressed hready rfl (by simp [hready]) rfl
    · exact .kept ⟨rfl, by simp [hready], rfl, rfl⟩

theorem cloneComplete_sessions {a : Int} (hop : r.op = .cloneComplete sessionId)
    (h : cloneComplete env r.now db sessionId = .ok (a, db')) : SessionsFrom env r db db' := by
  unfold cloneComplete at h
  split at h
  next => cases h
  next s hget =>
    obtain ⟨hs, hid⟩ := Table.get?_eq_some_iff.mp hget
    have hop' : r.op = .cloneComplete s.id := hid ▸ hop
    dsimp only at h
    split at h
    next started hstarted =>
      obtain ⟨micros, hsub, h⟩ := bind_eq_ok.mp h
      obtain ⟨-, rfl⟩ := ok_pair_inj h
      refine sessionsFrom_put hs rfl (.completed hop' ?_ rfl rfl rfl)
      unfold durationComputable
      rw [hstarted]
      unfold Timestamp.sub at hsub
      split at hsub
      next haware => simpa using haware
      next => cases hsub
    next hnone =>
      obtain ⟨-, rfl⟩ := ok_pair_inj h
      refine sessionsFrom_put hs rfl (.completed hop' ?_ rfl rfl rfl)
      unfold durationComputable
      rw [hnone]

theorem cloneFailed_sessions {errorMessage a : String}
    (hop : r.op = .cloneFailed sessionId errorMessage)
    (h : cloneFailed r.now db sessionId errorMessage = .ok (a, db')) :
    SessionsFrom env r db db' := by
  unfold cloneFailed at h
  split at h
  next => cases h
  next s hget =>
    obtain ⟨hs, hid⟩ := Table.get?_eq_some_iff.mp hget
    obtain ⟨-, rfl⟩ := ok_pair_inj h
    exact sessionsFrom_put hs rfl (.failed (hid ▸ hop) rfl rfl rfl)

/-- The bulk loop leaves the sessions alone. -/
theorem bulkChangeState_sessions {now : Timestamp} {nodeIds : List String} {newState : NodeState}
    {res : BulkChangeStateResult}
    (h : bulkChangeState now db nodeIds newState = .ok (res, db')) :
    db'.sessions = db.sessions :=
  bulkLoop_rule (P := fun _ d => d.sessions = db.sessions) (fun _ _ _ hP => hP)
    (fun _ _ _ _ _ hP _ => hP) _ rfl h

end Handlers

/-- **WHAT A REQUEST DOES TO THE SESSIONS.** -/
theorem exec_sessions (env : Env) (db : DB) (r : Request) :
    SessionsFrom env r db (exec env db r) := by
  obtain ⟨now, op⟩ := r
  have hrefl : SessionsFrom env ⟨now, op⟩ db db := sessionsFrom_frame rfl
  have hframe : ∀ {α : Type} {h : Except Exn (α × DB)},
      (∀ a db', h = .ok (a, db') → db'.sessions = db.sessions) →
      SessionsFrom env ⟨now, op⟩ db (commitOrRollback db h) := fun hh =>
    commitOrRollback_preserves hrefl (fun a db' he => sessionsFrom_frame (hh a db' he))
  -- a node endpoint
  have hdoes : ∀ {α : Type} {h : Except Exn (α × DB)},
      (∀ a db', h = .ok (a, db') → EndpointStep now true db db') →
      SessionsFrom env ⟨now, op⟩ db (commitOrRollback db h) := fun hh =>
    hframe (fun a db' he => (hh a db' he).sessions)
  cases op with
  | createNode uuid data => exact hdoes (fun _ _ h => createNode_does h)
  | updateNode nodeId data => exact hdoes (fun _ _ h => updateNode_does h)
  | transitionNodeState nodeId state comment force =>
      exact hdoes (fun _ _ h => transitionNodeState_does (fun _ => rfl) h)
  | bulkChangeState nodeIds newState => exact hframe (fun _ _ h => bulkChangeState_sessions h)
  | retireNode nodeId => exact hdoes (fun _ _ h => retireNode_does h)
  | reportNodeStatus report clientHost => exact hdoes (fun _ _ h => reportNodeStatus_does h)
  | nodeCloneSourceReady nodeId body clientHost =>
      exact hdoes (fun _ _ h => nodeCloneSourceReady_does h)
  | nodeInstalledCallback nodeId success clientHost =>
      exact hdoes (fun _ _ h => nodeInstalledCallback_does h)
  | nodeInstallFailedCallback nodeId error =>
      exact hdoes (fun _ _ h => nodeInstallFailedCallback_does h)
  | getBootScript uuid req => exact hdoes (fun _ _ h => getBootScript_does h)
  | createCloneSession uuid request =>
      exact commitOrRollback_preserves hrefl (fun _ _ h => createCloneSession_sessions rfl h)
  | updateCloneSession sessionId request =>
      exact commitOrRollback_preserves hrefl (fun _ _ h => updateCloneSession_sessions h)
  | deleteCloneSession sessionId =>
      exact commitOrRollback_preserves hrefl (fun _ _ h => deleteCloneSession_sessions h)
  | startCloneSession sessionId =>
      exact commitOrRollback_preserves hrefl (fun _ _ h => startCloneSession_sessions rfl h)
  | cloneSourceReady sessionId request =>
      exact commitOrRollback_preserves hrefl (fun _ _ h => cloneSourceReady_sessions rfl h)
  | cloneProgress sessionId request =>
      exact commitOrRollback_preserves hrefl (fun _ _ h => cloneProgress_sessions h)
  | cloneComplete sessionId =>
      exact commitOrRollback_preserves hrefl (fun _ _ h => cloneComplete_sessions rfl h)
  | cloneFailed sessionId errorMessage =>
      exact commitOrRollback_preserves hrefl (fun _ _ h => cloneFailed_sessions rfl h)

/-! ## §4. The law and its condition. -/

/-- A pending session has been started exactly if it has a start time. -/
structure WatchInv (w : Watch) : Prop where
  nodup : w.started.Nodup
  pending : ∀ s ∈ w.db.sessions.rows, s.status = .pending →
    (s.id ∈ w.started ↔ s.startedAt ≠ none)

section Law

variable {skips : Bool} {env : Env} {w : Watch} {r : Request}

/-- The condition on the one session a request is about. -/
theorem sessionMeets_of_mem {db : DB} {s : CloneSession} {p : CloneSession → Bool}
    (hs : s ∈ db.sessions.rows) : db.sessionMeets s.id p = p s := by
  unfold DB.sessionMeets
  rw [Table.get?_eq_some_iff.mpr ⟨hs, rfl⟩]

theorem forward_terminal {a b : CloneStatus} (h : a.terminal = true) :
    a.forward skips b = false := by
  cases a <;> cases b <;> cases skips <;> first | rfl | cases h

/-- **ONE SESSION, ONE REQUEST**: under the condition the status is kept or moves forward,
and a session that has ended stays as it is. -/
theorem SessionStep.lawful {s s' : CloneSession} (hs : s ∈ w.db.sessions.rows)
    (h : SessionStep env r s s') (hg : cloneMeets skips env w.db r = true) :
    (s'.status = s.status ∧ (s.status.terminal = true → s'.completedAt = s.completedAt))
      ∨ s.status.forward skips s'.status = true := by
  unfold cloneMeets at hg
  cases h with
  -- the source looks at the status in a start, a progress report and a cancellation; for the
  -- other three `cloneMeets` has to say that it was right
  | kept hk => exact .inl ⟨hk.status, fun _ => hk.completedAt⟩
  | started hop hst hid hst' hstart hend => exact .inl ⟨hst'.trans hst.symm, fun _ => hend⟩
  | sourceReady hop hid hst' hend =>
      rw [hop] at hg
      dsimp only at hg
      rw [sessionMeets_of_mem hs, Bool.or_eq_true, decide_eq_true_eq, decide_eq_true_eq] at hg
      rcases hg with hst | hst
      · rw [hst', hst]
        exact .inr rfl
      · exact .inl ⟨hst'.trans hst.symm, fun _ => hend⟩
  | progressed hst hid hst' hend =>
      rw [hst', hst]
      exact .inr rfl
  | completed hop hdur hid hst' hend =>
      rw [hop] at hg
      dsimp only at hg
      rw [sessionMeets_of_mem hs, hdur] at hg
      simp only [Bool.not_true, Bool.false_or, Bool.or_eq_true, Bool.and_eq_true,
        decide_eq_true_eq] at hg
      rcases hg with hst | ⟨hst, hsame⟩
      · exact .inr (hst' ▸ hst)
      · exact .inl ⟨hst'.trans hst.symm, fun _ => hend.trans hsame.symm⟩
  | failed hop hid hst' hend =>
      rw [hop] at hg
      dsimp only at hg
      rw [sessionMeets_of_mem hs] at hg
      simp only [Bool.or_eq_true, Bool.and_eq_true, decide_eq_true_eq] at hg
      rcases hg with hst | ⟨hst, hsame⟩
      · exact .inr (hst' ▸ hst)
      · exact .inl ⟨hst'.trans hst.symm, fun _ => hend.trans hsame.symm⟩
  | cancelled hst hid hst' =>
      rw [hst', hst]
      exact .inr rfl

/-- A session that is there before and after a request made a step. -/
theorem step_of_mem {db : DB} {s s' : CloneSession} (hs : s ∈ db.sessions.rows)
    (hs' : s' ∈ (exec env db r).sessions.rows) (hid : s'.id = s.id) : SessionStep env r s s' := by
  rcases exec_sessions env db r s' hs' with ⟨s₀, hs₀, hstep⟩ | hnew
  · have hkey : s₀.id = s.id := hstep.id_eq.symm.trans hid
    rw [← db.sessions.eq_of_key_eq hs₀ hs hkey]
    exact hstep
  · exact absurd hid.symm (hnew.fresh s hs)

/-- A request of a session that has ended prepares no node. -/
theorem nodes_of_ended {s : CloneSession} (hs : s ∈ w.db.sessions.rows)
    (hend : s.status.terminal = true) (hop : r.op.session = some s.id)
    (hg : cloneMeets skips env w.db r = true) : (exec env w.db r).nodes = w.db.nodes := by
  obtain ⟨now, op⟩ := r
  have hkept : ∀ {α : Type} {h : Except Exn (α × DB)},
      (∀ a db', h = .ok (a, db') → db'.nodes = w.db.nodes) →
      (commitOrRollback w.db h).nodes = w.db.nodes := fun hh =>
    commitOrRollback_preserves (P := fun d : DB => d.nodes = w.db.nodes) rfl hh
  have hframe : ∀ {α : Type} {h : Except Exn (α × DB)},
      (∀ a db', h = .ok (a, db') → NodesKept w.db db') →
      (commitOrRollback w.db h).nodes = w.db.nodes := fun hh =>
    hkept (fun a db' he => (hh a db' he).nodes)
  cases op with
  | updateCloneSession sessionId request => exact hframe (fun _ _ h => updateCloneSession_frame h)
  | deleteCloneSession sessionId => exact hframe (fun _ _ h => deleteCloneSession_frame h)
  | startCloneSession sessionId =>
      -- only a pending session is started
      obtain rfl : sessionId = s.id := Option.some.inj hop
      refine hkept (fun a db' h => ?_)
      obtain ⟨s', hs', hid, hst, -⟩ := startCloneSession_eq_ok h
      rw [← w.db.sessions.eq_of_key_eq hs' hs hid, hst] at hend
      cases hend
  | cloneSourceReady sessionId request =>
      -- the condition keeps it away from a session that has ended
      obtain rfl : sessionId = s.id := Option.some.inj hop
      unfold cloneMeets at hg
      dsimp only at hg
      rw [sessionMeets_of_mem hs, Bool.or_eq_true, decide_eq_true_eq, decide_eq_true_eq] at hg
      rcases hg with hst | hst <;> (rw [hst] at hend; cases hend)
  | cloneProgress sessionId request => exact hframe (fun _ _ h => cloneProgress_frame h)
  | cloneComplete sessionId => exact hframe (fun _ _ h => cloneComplete_frame h)
  | cloneFailed sessionId errorMessage => exact hframe (fun _ _ h => cloneFailed_frame h)
  | _ => cases hop

/-- Under the condition no session is started twice. -/
theorem startedOnce_of_meets (hinv : WatchInv w) (hg : cloneMeets skips env w.db r = true) :
    (watchStep env w r).started.Nodup := by
  obtain ⟨now, op⟩ := r
  cases op with
  | startCloneSession sessionId =>
      show (match startCloneSession env now w.db sessionId with
        | .ok _ => sessionId :: w.started
        | .error _ => w.started).Nodup
      split
      next a hok =>
        obtain ⟨s, hs, rfl, hst, -⟩ := startCloneSession_eq_ok hok
        refine List.nodup_cons.mpr ⟨?_, hinv.nodup⟩
        rw [hinv.pending s hs hst, not_not]
        unfold cloneMeets at hg
        dsimp only at hg
        rw [sessionMeets_of_mem hs] at hg
        simpa [hst] using hg
      next => exact hinv.nodup
  | createCloneSession uuid request =>
      show (match createCloneSession env w.db uuid request with
        | .ok _ => w.started.filter (fun id => id ≠ uuid)
        | .error _ => w.started).Nodup
      split
      · exact hinv.nodup.filter _
      · exact hinv.nodup
  | _ => exact hinv.nodup

/-- What a source-ready message leaves. -/
theorem exec_cloneSourceReady {db : DB} {s : CloneSession} {now : Timestamp}
    {request : CloneSourceReady} (hs : s ∈ db.sessions.rows) :
    ∃ s' ∈ (exec env db ⟨now, .cloneSourceReady s.id request⟩).sessions.rows,
      s'.id = s.id ∧ s'.status = .sourceReady := by
  show ∃ s' ∈ (commitOrRollback db (cloneSourceReady now db s.id request)).sessions.rows, _
  unfold cloneSourceReady
  rw [Table.get?_eq_some_iff.mpr ⟨hs, rfl⟩]
  dsimp only
  split
  · rw [commitOrRollback_ok, bootForClone_saveSession]
    exact ⟨_, Table.mem_put_self hs rfl, rfl, rfl⟩
  · rw [commitOrRollback_ok]
    exact ⟨_, Table.mem_put_self hs rfl, rfl, rfl⟩

/-- What the end of a clone leaves, if it is reported at all. -/
theorem exec_cloneComplete {db : DB} {s : CloneSession} {now : Timestamp}
    (hs : s ∈ db.sessions.rows) (hdur : durationComputable env now s = true) :
    ∃ s' ∈ (exec env db ⟨now, .cloneComplete s.id⟩).sessions.rows,
      s'.id = s.id ∧ s'.status = .completed ∧ s'.completedAt = some now := by
  show ∃ s' ∈ (commitOrRollback db (cloneComplete env now db s.id)).sessions.rows, _
  unfold durationComputable at hdur
  unfold cloneComplete
  rw [Table.get?_eq_some_iff.mpr ⟨hs, rfl⟩]
  dsimp only
  split
  next started hstarted =>
    rw [hstarted] at hdur
    have haware : now.aware = (env.readback started).aware := by simpa using hdur
    unfold Timestamp.sub
    rw [if_pos haware]
    exact ⟨_, Table.mem_put_self hs rfl, rfl, rfl, rfl⟩
  next => exact ⟨_, Table.mem_put_self hs rfl, rfl, rfl, rfl⟩

theorem exec_cloneFailed {db : DB} {s : CloneSession} {now : Timestamp} {errorMessage : String}
    (hs : s ∈ db.sessions.rows) :
    ∃ s' ∈ (exec env db ⟨now, .cloneFailed s.id errorMessage⟩).sessions.rows,
      s'.id = s.id ∧ s'.status = .failed ∧ s'.completedAt = some now := by
  show ∃ s' ∈ (commitOrRollback db (cloneFailed now db s.id errorMessage)).sessions.rows, _
  unfold cloneFailed
  rw [Table.get?_eq_some_iff.mpr ⟨hs, rfl⟩]
  exact ⟨_, Table.mem_put_self hs rfl, rfl, rfl, rfl⟩

/-- A pending session can always be started. -/
theorem started_of_pending {s : CloneSession} {now : Timestamp} (hs : s ∈ w.db.sessions.rows)
    (hst : s.status = .pending) :
    (watchStep env w ⟨now, .startCloneSession s.id⟩).started = s.id :: w.started := by
  show (match startCloneSession env now w.db s.id with
    | .ok _ => s.id :: w.started
    | .error _ => w.started) = _
  unfold startCloneSession
  rw [Table.get?_eq_some_iff.mpr ⟨hs, rfl⟩]
  simp [hst]

/-- A request outside the condition is about a session that is there. -/
theorem not_sessionMeets {db : DB} {sessionId : String} {p : CloneSession → Bool}
    (h : ¬ db.sessionMeets sessionId p = true) :
    ∃ s ∈ db.sessions.rows, s.id = sessionId ∧ p s = false := by
  unfold DB.sessionMeets at h
  split at h
  next s hget =>
    obtain ⟨hs, hid⟩ := Table.get?_eq_some_iff.mp hget
    exact ⟨s, hs, hid, by simpa using h⟩
  next => exact absurd rfl h

/-- **A REQUEST OUTSIDE THE CONDITION** breaks the law at once. -/
theorem meets_of_lawful (hinv : WatchInv w) (h : LifecycleLaw skips env w r) :
    cloneMeets skips env w.db r = true := by
  by_contra hg
  obtain ⟨now, op⟩ := r
  unfold cloneMeets at hg
  cases op with
  | cloneSourceReady sessionId request =>
      obtain ⟨s, hs, rfl, hp⟩ := not_sessionMeets hg
      rw [Bool.or_eq_false_iff, decide_eq_false_iff_not, decide_eq_false_iff_not] at hp
      obtain ⟨s', hs', hid, hst⟩ := exec_cloneSourceReady hs
      rcases h.status s hs s' hs' hid with heq | hfwd
      · exact hp.2 (heq.symm.trans hst)
      · rw [hst] at hfwd
        exact hp.1 (by simpa [CloneStatus.forward] using hfwd)
  | cloneComplete sessionId =>
      obtain ⟨s, hs, rfl, hp⟩ := not_sessionMeets hg
      simp only [Bool.or_eq_false_iff, Bool.not_eq_false'] at hp
      obtain ⟨⟨hdur, hnofwd⟩, hnot⟩ := hp
      obtain ⟨s', hs', hid, hst, hend⟩ := exec_cloneComplete hs hdur
      rcases h.status s hs s' hs' hid with heq | hfwd
      · -- a second report of the end moves the end
        have hcompleted : s.status = .completed := heq.symm.trans hst
        have hsame := (h.ended s hs (by rw [hcompleted]; rfl) s' hs' hid).2
        rw [hend] at hsame
        simp [hcompleted, ← hsame] at hnot
      · rw [hst, hnofwd] at hfwd
        cases hfwd
  | cloneFailed sessionId errorMessage =>
      obtain ⟨s, hs, rfl, hp⟩ := not_sessionMeets hg
      simp only [Bool.or_eq_false_iff, Bool.not_eq_false'] at hp
      obtain ⟨hterm, hnot⟩ := hp
      obtain ⟨s', hs', hid, hst, hend⟩ := exec_cloneFailed hs
      obtain ⟨heq, hsame⟩ := h.ended s hs hterm s' hs' hid
      have hfailed : s.status = .failed := heq.symm.trans hst
      rw [hend] at hsame
      simp [hfailed, ← hsame] at hnot
  | startCloneSession sessionId =>
      obtain ⟨s, hs, rfl, hp⟩ := not_sessionMeets hg
      rw [Bool.or_eq_false_iff, decide_eq_false_iff_not, decide_eq_false_iff_not, not_not] at hp
      have honce := h.startedOnce
      rw [started_of_pending hs hp.1] at honce
      exact (List.nodup_cons.mp honce).1 ((hinv.pending s hs hp.1).mpr hp.2)
  | _ => exact hg rfl

/-- **THE LAW AND ITS CONDITION**, for one request. -/
theorem lifecycleLaw_iff (hinv : WatchInv w) :
    LifecycleLaw skips env w r ↔ cloneMeets skips env w.db r = true := by
  constructor
  · exact meets_of_lawful hinv
  · intro hg
    have hlawful : ∀ s ∈ w.db.sessions.rows, ∀ s' ∈ (exec env w.db r).sessions.rows,
        s'.id = s.id → _ := fun s hs s' hs' hid => (step_of_mem hs hs' hid).lawful hs hg
    refine ⟨?_, ?_, fun s hs hend hop => nodes_of_ended hs hend hop hg,
      startedOnce_of_meets hinv hg⟩
    · intro s hs s' hs' hid
      exact (hlawful s hs s' hs' hid).imp (fun h => h.1) id
    · intro s hs hend s' hs' hid
      rcases hlawful s hs s' hs' hid with ⟨hst, hcompleted⟩ | hfwd
      · exact ⟨hst, hcompleted hend⟩
      · rw [forward_terminal hend] at hfwd
        cases hfwd

/-- **ONE REQUEST** under the condition keeps the account of the starts. -/
theorem watchInv_step (hinv : WatchInv w) (hg : cloneMeets skips env w.db r = true) :
    WatchInv (watchStep env w r) := by
  refine ⟨startedOnce_of_meets hinv hg, ?_⟩
  obtain ⟨now, op⟩ := r
  -- a request that neither starts nor creates a session
  have hother : (watchStep env w ⟨now, op⟩).started = w.started →
      (∀ id, op ≠ .startCloneSession id) → (∀ uuid request, op ≠ .createCloneSession uuid request) →
      ∀ s' ∈ (exec env w.db ⟨now, op⟩).sessions.rows, s'.status = .pending →
        (s'.id ∈ (watchStep env w ⟨now, op⟩).started ↔ s'.startedAt ≠ none) := by
    intro hstarted hstart hcreate s' hs' hst'
    rw [hstarted]
    rcases exec_sessions env w.db ⟨now, op⟩ s' hs' with ⟨s, hs, hstep⟩ | hnew
    · cases hstep with
      | kept hk =>
          rw [hk.id, hk.startedAt]
          exact hinv.pending s hs (hk.status.symm.trans hst')
      | started hop => exact absurd hop (hstart s.id)
      | sourceReady _ _ h => rw [h] at hst'; cases hst'
      | progressed _ _ h => rw [h] at hst'; cases hst'
      | completed _ _ _ h => rw [h] at hst'; cases hst'
      | failed _ _ h => rw [h] at hst'; cases hst'
      | cancelled _ _ h => rw [h] at hst'; cases hst'
    · obtain ⟨request, hop⟩ := hnew.created
      exact absurd hop (hcreate s'.id request)
  cases op with
  | startCloneSession sessionId =>
      show ∀ s' ∈ (commitOrRollback w.db (startCloneSession env now w.db sessionId)).sessions.rows,
        s'.status = .pending → (s'.id ∈ (match startCloneSession env now w.db sessionId with
          | .ok _ => sessionId :: w.started
          | .error _ => w.started) ↔ s'.startedAt ≠ none)
      cases hok : startCloneSession env now w.db sessionId with
      | error e => exact hinv.pending
      | ok p =>
          obtain ⟨s, hs, rfl, -, s₁, hdb, hid, -, hstart, -⟩ := startCloneSession_eq_ok hok
          intro s' hs' hst'
          rw [commitOrRollback, hdb, bootForClone_saveSession,
            Table.mem_put_iff ⟨s, hs, hid.symm⟩] at hs'
          rcases hs' with rfl | ⟨hs', hne⟩
          · simp [hid, hstart]
          · rw [hid] at hne
            simp only [List.mem_cons, hne, false_or]
            exact hinv.pending s' hs' hst'
  | createCloneSession uuid request =>
      show ∀ s' ∈ (commitOrRollback w.db (createCloneSession env w.db uuid request)).sessions.rows,
        s'.status = .pending → (s'.id ∈ (match createCloneSession env w.db uuid request with
          | .ok _ => w.started.filter (fun id => id ≠ uuid)
          | .error _ => w.started) ↔ s'.startedAt ≠ none)
      cases hok : createCloneSession env w.db uuid request with
      | error e => exact hinv.pending
      | ok p =>
          obtain ⟨hrows, hfresh, rfl, -, hstart⟩ := createCloneSession_eq_ok hok
          intro s' hs' hst'
          rw [commitOrRollback, hrows, List.mem_append, List.mem_singleton] at hs'
          rcases hs' with hs' | rfl
          · simp only [List.mem_filter, hfresh s' hs', ne_eq, not_false_eq_true, decide_true,
              and_true]
            exact hinv.pending s' hs' hst'
          · simp [hstart]
  | _ => exact hother rfl (by simp) (by simp)

end Law

/-! ## §5. Whole runs. -/

/-- **THE CLONE SESSION LIFECYCLE, EXACTLY**: the requests of a run respect the life of every
session, whether statuses may be skipped or not, if and only if a source becomes ready only
while its session is pending or ready, an end is reported only where the session may end so
(or once more at the very same time), and a pending session is started only once. -/
theorem clone_lifecycle_iff (env : Env) (skips : Bool) (reqs : List Request) :
    Along (watchStep env) (LifecycleLaw skips env) watchEmpty reqs
      ↔ Along (watchStep env) (fun w r => cloneMeets skips env w.db r = true) watchEmpty reqs := by
  have hempty : WatchInv watchEmpty := by
    refine ⟨List.nodup_nil, ?_⟩
    intro s hs
    simp [watchEmpty, DB.empty] at hs
  exact along_iff_of_step (fun w r hinv hg => watchInv_step hinv hg)
    (fun w r hinv => lifecycleLaw_iff hinv) hempty

/-- A session that has failed. -/
def failedClone : List Request :=
  preparedClone ++ [⟨⟨4, true⟩, .cloneFailed "s" "disk error"⟩]

/-- The session as it was created, and as it failed. -/
def failedSession : CloneSession where
  id := "s"
  status := .failed
  cloneMode := .direct
  sourceNodeId := "m"
  targetNodeId := some "n"
  errorMessage := some "disk error"
  completedAt := some ⟨4, true⟩

def lateSourceReady : Request :=
  ⟨⟨5, true⟩, .cloneSourceReady "s" { ip := "10.0.0.7", sizeBytes := 64, device := "/dev/sda" }⟩

theorem not_lawful_lateSourceReady (skips : Bool) :
    ¬ Along (watchStep sqliteEnv) (LifecycleLaw skips sqliteEnv) watchEmpty
      (failedClone ++ [lateSourceReady]) := by
  rintro ⟨-, -, -, -, -, hlaw, -⟩
  -- the failed session is found `source_ready` after the message
  have hended := hlaw.ended failedSession (by decide) rfl
    { failedSession with
      status := .sourceReady, sourceIp := some "10.0.0.7", bytesTotal := some 64,
      startedAt := some ⟨5, true⟩ } (by decide) rfl
  exact absurd hended.1 (by decide)

/-- A late source-ready message of a failed session brings it back. -/
theorem late_source_ready_revives :
    ¬ Along (watchStep sqliteEnv) (LifecycleLaw true sqliteEnv) watchEmpty
        (failedClone ++ [lateSourceReady])
      ∧ ¬ Along (watchStep sqliteEnv) (LifecycleLaw false sqliteEnv) watchEmpty
        (failedClone ++ [lateSourceReady]) :=
  ⟨not_lawful_lateSourceReady true, not_lawful_lateSourceReady false⟩

end PureBoot.Lifecycle
