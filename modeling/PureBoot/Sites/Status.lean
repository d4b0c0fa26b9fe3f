/-
  PureBoot.Sites.Status — ONE STATUS of an agent, computed in three places.

  The job computes the status of an agent from the time of its last heartbeat and stores
  it.  `get_agent_status` computes it again, but while the heartbeat is recent it reports
  what is stored.  Between two runs of the job the stored status is that of an earlier
  time; what makes the report right is that a recent agent is always stored as online:
  whoever is seen is stored so, and the job stores something else only of an agent that
  will not be recent again before it is seen.

  Main results:
    * `recentOnline_step` — what every operation keeps;
    * `agent_status_views_agree` — the report is that of the last heartbeat, at all times.
-/
import PureBoot.Sites.Agents

namespace PureBoot.Sites

open PureBoot.Lib

/-! ## §1. Operations one after another. -/

/-- The table, and when the last operation was. -/
structure Clocked where
  db : SiteDb
  clock : Int

/-- The next operation. -/
def Clocked.exec (hashToken : String → String) (s : Clocked) (e : AgentEvent) : Clocked where
  db := execOp hashToken s.db e
  clock := e.now

/-- Time does not go back. -/
def Clocked.InTime (s : Clocked) (e : AgentEvent) : Prop :=
  s.clock ≤ e.now

instance (s : Clocked) (e : AgentEvent) : Decidable (s.InTime e) :=
  inferInstanceAs (Decidable (s.clock ≤ e.now))

/-! ## §2. A recent agent is stored as online. -/

section

variable {hashToken : String → String}

/-- From `clock` on, as long as the agent is recent it is stored as online. -/
def RecentOnline (clock : Int) (site : Site) : Prop :=
  ∀ seen, site.agentLastSeen = some seen → ∀ t, clock ≤ t →
    t - seen ≤ seconds (heartbeatInterval * degradedThreshold) → site.agentStatus = some .online

theorem statusAfter_eq_online {elapsed : Int} :
    statusAfter elapsed = .online ↔ elapsed ≤ seconds (heartbeatInterval * degradedThreshold) := by
  unfold statusAfter seconds heartbeatInterval offlineThreshold degradedThreshold
  split
  · simp
    omega
  · split <;> simp <;> omega

/-- A step does not make an agent that is recent anything but online. -/
theorem recentOnline_step {clock : Int} {e : AgentEvent} {site site' : Site}
    (hclock : clock ≤ e.now) (h : RecentOnline clock site)
    (hstep : SiteStep hashToken e site site') : RecentOnline e.now site' := by
  have hlater : RecentOnline e.now site :=
    fun seen hseen t ht => h seen hseen t (hclock.trans ht)
  cases hstep with
  | kept => exact hlater
  | drawn => exact hlater
  | registered => exact fun _ _ _ _ _ => rfl
  | heartbeat => exact fun _ _ _ _ _ => rfl
  | passed =>
      intro seen hseen t ht hrecent
      rw [updateAgentStatus_agentLastSeen] at hseen
      by_cases hsite : site.isSite = true
      · -- recent at a later time, it is recent when the job looks at it
        have honline : statusAfter (e.now - seen) = .online :=
          statusAfter_eq_online.mpr (by omega)
        rw [updateAgentStatus_agentStatus hsite hseen, honline]
      · rw [updateAgentStatus_of_not_site e.now hsite]
        exact hlater seen hseen t ht hrecent

/-- The invariant of a run. -/
def Clocked.Inv (s : Clocked) : Prop :=
  ∀ site ∈ s.db.rows, RecentOnline s.clock site

theorem Clocked.inv_step (s : Clocked) (e : AgentEvent) (h : s.Inv) (hclock : s.InTime e) :
    (s.exec hashToken e).Inv := by
  intro site' hsite'
  rcases (execOp_becomes hashToken s.db e).prev site' hsite' with ⟨site, hsite, hstep⟩ | hnew
  · exact recentOnline_step hclock (h site hsite) hstep
  · exact hnew.elim

/-! ## §3. The views agree. -/

/-- What is reported of an agent that is stored as online while it is recent. -/
theorem reportedStatus_eq {clock t seen : Int} {site : Site} (h : RecentOnline clock site)
    (hseen : site.agentLastSeen = some seen) (ht : clock ≤ t) :
    reportedStatus t site = some (getStatusForLastSeen t site.agentLastSeen) := by
  have hrecent := h seen hseen t ht
  unfold reportedStatus
  rw [hseen]
  simp only [getStatusForLastSeen, statusAfter]
  unfold minutes
  unfold seconds heartbeatInterval degradedThreshold at *
  unfold offlineThreshold
  split
  next hoff => rw [if_pos (by omega)]
  next hoff =>
    split
    next hdeg => rw [if_neg (by omega), if_pos (by omega)]
    next hdeg =>
      rw [if_neg (by omega), if_neg (by omega)]
      exact hrecent (by omega)

/-- The view of `GET /agents/{site_id}/status`. -/
theorem getAgentStatus_of_seen {s : Clocked} (h : s.Inv) {site : Site} {seen t : Int}
    (hmem : site ∈ s.db.rows) (hsite : site.isSite = true)
    (hseen : site.agentLastSeen = some seen) (ht : s.clock ≤ t) :
    ∃ response, getAgentStatus t s.db site.id = .ok response ∧
      response.agentStatus = some (getStatusForLastSeen t site.agentLastSeen) := by
  have hfound : siteOf s.db site.id = .ok site := siteOf_eq_ok.mpr ⟨hmem, rfl, hsite⟩
  unfold getAgentStatus
  rw [hfound, ok_bind]
  exact ⟨_, rfl, reportedStatus_eq (h site hmem) hseen ht⟩

/-- What the job has stored. -/
theorem status_after_update {now : Int} {db : SiteDb} {site : Site} {seen : Int}
    (hmem : site ∈ (updateAgentStatuses now db).rows) (hsite : site.isSite = true)
    (hseen : site.agentLastSeen = some seen) :
    site.agentStatus = some (getStatusForLastSeen now site.agentLastSeen) := by
  obtain ⟨before, -, rfl⟩ := Table.mem_update.mp hmem
  rw [updateAgentStatus_isSite] at hsite
  rw [updateAgentStatus_agentLastSeen] at hseen
  rw [updateAgentStatus_agentStatus hsite hseen, updateAgentStatus_agentLastSeen, hseen]
  rfl

/-- A site whose agent has been seen. -/
def Site.Seen (site : Site) : Prop :=
  site.isSite = true ∧ site.agentLastSeen.isSome = true

/-- **THE VIEWS OF THE STATUS AGREE**: after every run whose times do not go back, the
status that is reported of an agent, at any time before the next operation, is that of its
last heartbeat at this time; and after the job has run, the stored status is so too. -/
theorem agent_status_views_agree (hashToken : String → String) {start : Clocked}
    (hstart : ∀ site ∈ start.db.rows, site.agentLastSeen = none) {events : List AgentEvent}
    (hclock : Along (Clocked.exec hashToken) Clocked.InTime start events) :
    (∀ site ∈ (run (Clocked.exec hashToken) start events).db.rows, site.Seen →
      ∀ t, (run (Clocked.exec hashToken) start events).clock ≤ t →
        ∃ response,
          getAgentStatus t (run (Clocked.exec hashToken) start events).db site.id = .ok response ∧
          response.agentStatus = some (getStatusForLastSeen t site.agentLastSeen)) ∧
    ∀ now, (run (Clocked.exec hashToken) start events).clock ≤ now →
      ∀ site ∈ (execOp hashToken (run (Clocked.exec hashToken) start events).db
        ⟨now, .updateAgentStatuses⟩).rows, site.Seen →
        site.agentStatus = some (getStatusForLastSeen now site.agentLastSeen) := by
  have h0 : start.Inv := by
    intro site hsite seen hseen
    rw [hstart site hsite] at hseen
    cases hseen
  have hinv := run_invariant Clocked.inv_step h0 hclock
  constructor
  · intro site hmem hseen t ht
    obtain ⟨seen, hlast⟩ := Option.isSome_iff_exists.mp hseen.2
    exact getAgentStatus_of_seen hinv hmem hseen.1 hlast ht
  · intro now _ site hmem hseen
    obtain ⟨seen, hlast⟩ := Option.isSome_iff_exists.mp hseen.2
    exact status_after_update hmem hseen.1 hlast

end

/-- A site that is in use. -/
def branchSite : Site where
  id := "s1"
  name := "Branch"
  agentTokenHash := some "#t1"

def branchSites : Clocked where
  db := ⟨[branchSite], by decide⟩
  clock := 0

/-- An agent registers, is silent for three minutes, and the job runs. -/
def branchEvents : List AgentEvent :=
  [⟨seconds 10, .registerAgent ⟨"s1", "t1", "http://agent"⟩⟩, ⟨seconds 190, .updateAgentStatuses⟩]

theorem branch_status_views_agree :
    ∃ response,
      getAgentStatus (seconds 200) (run (Clocked.exec ("#" ++ ·)) branchSites branchEvents).db "s1"
        = .ok response ∧ response.agentStatus = some .degraded := by
  obtain ⟨response, hok, hstatus⟩ :=
    (@agent_status_views_agree ("#" ++ ·) branchSites (by decide) branchEvents (by decide)).1
      { branchSite with
        agentUrl := some "http://agent"
        agentStatus := some .degraded
        agentLastSeen := some (seconds 10) }
      (by decide +kernel) ⟨rfl, rfl⟩ (seconds 200) (by decide)
  exact ⟨response, hok, hstatus.trans (by decide)⟩

end PureBoot.Sites
