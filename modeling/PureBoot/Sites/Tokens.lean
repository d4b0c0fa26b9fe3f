/-
  PureBoot.Sites.Tokens — are the registration tokens of the agents ONE-TIME?

  `generate_agent_token` promises a one-time token that is good for 24 hours and that a
  newer token of the site replaces.  What it stores is a hash: not when the token was made,
  and `register_agent` does not take the hash away when it accepts the token.  So a token
  is good for its own site only, and only until it is replaced; but until then it is good
  again and again, and at any time.

  Main results:
    * `registerAgent_accepted_iff` — the token that is accepted is the newest of the site;
    * `one_time_iff` — the runs in which the tokens are one-time.
-/
import PureBoot.Sites.Agents

namespace PureBoot.Sites

open PureBoot.Lib

variable (hashToken : String → String)

/-! ## §1. What has happened. -/

/-- A token that has been given out. -/
structure Generation where
  siteId : String
  token : String
  expiresInHours : Nat
  givenAt : Int
  deriving DecidableEq, Repr

/-- A registration that has been accepted. -/
structure Acceptance where
  siteId : String
  token : String
  acceptedAt : Int
  deriving DecidableEq, Repr

/-- The table, with the tokens given out so far and the registrations accepted so far, the
newest first. -/
structure History where
  db : SiteDb
  generated : List Generation := []
  accepted : List Acceptance := []

/-- The next operation. -/
def History.exec (h : History) (e : AgentEvent) : History where
  db := execOp hashToken h.db e
  generated :=
    match e.op with
    | .generateAgentToken siteId token =>
        match generateAgentToken hashToken token h.db siteId with
        | .ok (response, _) =>
            ⟨siteId, response.token, response.expiresInHours, e.now⟩ :: h.generated
        | .error _ => h.generated
    | _ => h.generated
  accepted :=
    match e.op with
    | .registerAgent r =>
        match registerAgent hashToken e.now h.db r with
        | .ok _ => ⟨r.siteId, r.token, e.now⟩ :: h.accepted
        | .error _ => h.accepted
    | _ => h.accepted

/-- The newest token of a site. -/
def History.newest (h : History) (siteId : String) : Option Generation :=
  h.generated.find? (fun g => g.siteId = siteId)

/-- The token that is drawn has not been given out before. -/
def DrawsFresh (h : History) (e : AgentEvent) : Prop :=
  ∀ siteId token, e.op = .generateAgentToken siteId token → ∀ g ∈ h.generated, g.token ≠ token

/-! ## §2. The law. -/

/-- What is promised of a token that is accepted. -/
structure OneTime (h : History) (g : Generation) (siteId : String) (now : Int) : Prop where
  once : ∀ a ∈ h.accepted, a.token ≠ g.token
  own : g.siteId = siteId
  inTime : now ≤ g.givenAt + hours g.expiresInHours
  newest : h.newest siteId = some g

/-- **THE LAW OF THE TOKENS**, for one operation: each generated token that is accepted is
accepted as promised. -/
def KeepsPromise (h : History) (e : AgentEvent) : Prop :=
  ∀ r, e.op = .registerAgent r → (∃ p, registerAgent hashToken e.now h.db r = .ok p) →
    ∀ g ∈ h.generated, g.token = r.token → OneTime h g r.siteId e.now

/-- No registration presents the newest token of its site after it was accepted once, or
when it is older than it may be. -/
def PresentedInTime (h : History) (e : AgentEvent) : Prop :=
  ∀ r, e.op = .registerAgent r → ∀ g, h.newest r.siteId = some g → g.token = r.token →
    (∀ a ∈ h.accepted, a.token ≠ g.token) ∧ e.now ≤ g.givenAt + hours g.expiresInHours

/-! ## §3. The stored hash is that of the newest token. -/

/-- The invariant of a run. -/
structure History.Inv (h : History) : Prop where
  /-- What is stored is the hash of the newest token of the site. -/
  stored : ∀ site ∈ h.db.rows, site.isSite = true →
    site.agentTokenHash = (h.newest site.id).map (fun g => hashToken g.token)
  /-- A token was given out for a site. -/
  known : ∀ g ∈ h.generated, ∃ site ∈ h.db.rows, site.id = g.siteId ∧ site.isSite = true
  /-- No token was given out twice. -/
  distinct : (h.generated.map Generation.token).Nodup

variable {hashToken} {h : History} {e : AgentEvent}

theorem newest_mem {siteId : String} {g : Generation} (hg : h.newest siteId = some g) :
    g ∈ h.generated ∧ g.siteId = siteId :=
  ⟨List.mem_of_find?_eq_some hg, by simpa using List.find?_some hg⟩

theorem newest_cons (g : Generation) (siteId : String) :
    ({ h with generated := g :: h.generated } : History).newest siteId
      = if g.siteId = siteId then some g else h.newest siteId := by
  unfold History.newest
  rw [List.find?_cons]
  by_cases hg : g.siteId = siteId <;> simp [hg]

/-- What the invariant speaks of. -/
theorem History.Inv.congr {h' : History} (hinv : h.Inv hashToken) (hdb : h'.db = h.db)
    (hgen : h'.generated = h.generated) : h'.Inv hashToken := by
  have hnewest : ∀ siteId, h'.newest siteId = h.newest siteId := by
    intro siteId
    unfold History.newest
    rw [hgen]
  constructor
  · intro site hsite hissite
    rw [hnewest]
    exact hinv.stored site (hdb ▸ hsite) hissite
  · intro g hg
    rw [hdb]
    exact hinv.known g (hgen ▸ hg)
  · rw [hgen]
    exact hinv.distinct

/-- An operation that is not one of drawing a token. -/
theorem History.Inv.exec_of_ne (hinv : h.Inv hashToken)
    (hop : ∀ siteId token, e.op ≠ .generateAgentToken siteId token) :
    ({ h with db := execOp hashToken h.db e } : History).Inv hashToken := by
  have hbecomes := execOp_becomes hashToken h.db e
  constructor
  · intro site' hsite' hissite
    rcases hbecomes.prev site' hsite' with ⟨site, hsite, hstep⟩ | hnew
    · obtain ⟨hid, hsame⟩ := hstep.same
      rw [hstep.hash_kept hop, hid]
      exact hinv.stored site hsite (hsame ▸ hissite)
    · exact hnew.elim
  · intro g hg
    obtain ⟨site, hsite, hid, hissite⟩ := hinv.known g hg
    obtain ⟨site', hsite', hstep⟩ := hbecomes.next site hsite
    obtain ⟨hid', hsame⟩ := hstep.same
    exact ⟨site', hsite', hid'.trans hid, hsame.trans hissite⟩
  · exact hinv.distinct

/-- A token is given out. -/
theorem History.Inv.generate (hinv : h.Inv hashToken) {g : Generation}
    (hfresh : ∀ g' ∈ h.generated, g'.token ≠ g.token) {site : Site}
    (hsite : siteOf h.db g.siteId = .ok site) :
    ({ h with
      db := h.db.put { site with agentTokenHash := some (hashToken g.token) }
      generated := g :: h.generated } : History).Inv hashToken := by
  obtain ⟨hmem, hid, hissite⟩ := siteOf_eq_ok.mp hsite
  have hput := fun x => Table.mem_put_iff (t := h.db) (x := x)
    (r := { site with agentTokenHash := some (hashToken g.token) }) ⟨site, hmem, rfl⟩
  have hnewest : ∀ siteId, ({ h with
        db := h.db.put { site with agentTokenHash := some (hashToken g.token) }
        generated := g :: h.generated } : History).newest siteId
      = if g.siteId = siteId then some g else h.newest siteId := newest_cons g
  constructor
  · intro x hx hxsite
    rw [hnewest]
    rcases (hput x).mp hx with rfl | ⟨hx, hne⟩
    · rw [if_pos hid.symm]
      rfl
    · rw [if_neg (fun heq => hne (heq.symm.trans hid.symm))]
      exact hinv.stored x hx hxsite
  · intro g' hg'
    -- the row of the site is there, with another hash
    have hrow : ∀ x ∈ h.db.rows, ∃ x' ∈ (h.db.put
        { site with agentTokenHash := some (hashToken g.token) }).rows,
        x'.id = x.id ∧ x'.isSite = x.isSite := by
      intro x hx
      by_cases hxid : x.id = site.id
      · obtain rfl : x = site := h.db.eq_of_key_eq hx hmem hxid
        exact ⟨_, (hput _).mpr (.inl rfl), rfl, rfl⟩
      · exact ⟨x, (hput x).mpr (.inr ⟨hx, hxid⟩), rfl, rfl⟩
    have hold : ∃ x ∈ h.db.rows, x.id = g'.siteId ∧ x.isSite = true := by
      rcases List.mem_cons.mp hg' with rfl | hg'
      · exact ⟨site, hmem, hid, hissite⟩
      · exact hinv.known g' hg'
    obtain ⟨x, hx, hxid, hxsite⟩ := hold
    obtain ⟨x', hx', hid', hsite'⟩ := hrow x hx
    exact ⟨x', hx', hid'.trans hxid, hsite'.trans hxsite⟩
  · show ((g :: h.generated).map Generation.token).Nodup
    rw [List.map_cons, List.nodup_cons]
    refine ⟨?_, hinv.distinct⟩
    intro hmem'
    obtain ⟨g', hg', htoken⟩ := List.mem_map.mp hmem'
    exact hfresh g' hg' htoken

/-- **EVERY OPERATION KEEPS THE INVARIANT**, if the token that it draws is fresh. -/
theorem History.inv_step (h : History) (e : AgentEvent) (hinv : h.Inv hashToken)
    (hfresh : DrawsFresh h e) : (h.exec hashToken e).Inv hashToken := by
  cases hop : e.op with
  | generateAgentToken siteId token =>
      cases hgen : generateAgentToken hashToken token h.db siteId with
      | error exn =>
          refine hinv.congr ?_ ?_
          · simp only [History.exec, execOp, hop, hgen, commitOrRollback_error]
          · simp only [History.exec, hop, hgen]
      | ok p =>
          obtain ⟨response, db'⟩ := p
          obtain ⟨htoken, site, hsite, rfl⟩ := generateAgentToken_ok hgen
          have hnew := hinv.generate (g := ⟨siteId, token, response.expiresInHours, e.now⟩)
            (hfresh siteId token hop) hsite
          refine hnew.congr ?_ ?_
          · simp only [History.exec, execOp, hop, hgen, commitOrRollback_ok]
          · simp only [History.exec, hop, hgen, htoken]
  | registerAgent registration =>
      refine (hinv.exec_of_ne (e := e) ?_).congr rfl ?_
      · simp [hop]
      · simp only [History.exec, hop]
  | agentHeartbeat siteId serverTime =>
      refine (hinv.exec_of_ne (e := e) ?_).congr rfl ?_
      · simp [hop]
      · simp only [History.exec, hop]
  | updateAgentStatuses =>
      refine (hinv.exec_of_ne (e := e) ?_).congr rfl ?_
      · simp [hop]
      · simp only [History.exec, hop]

/-! ## §4. When the tokens are one-time. -/

/-- `hashlib.sha256(…).hexdigest()`, as far as it matters: it tells tokens apart and is
never empty. -/
structure TellsApart (hashToken : String → String) : Prop where
  injective : Function.Injective hashToken
  nonempty : ∀ token, hashToken token ≠ ""

/-- **A REGISTRATION IS ACCEPTED EXACTLY WITH THE NEWEST TOKEN OF ITS SITE.** -/
theorem registerAgent_accepted_iff (hhash : TellsApart hashToken) (hinv : h.Inv hashToken)
    (now : Int) {r : AgentRegistration} :
    (∃ p, registerAgent hashToken now h.db r = .ok p) ↔
      ∃ g, h.newest r.siteId = some g ∧ g.token = r.token := by
  constructor
  · rintro ⟨⟨config, db'⟩, hok⟩
    obtain ⟨site, hsite, htoken, -⟩ := registerAgent_ok hok
    obtain ⟨hmem, hid, hissite⟩ := siteOf_eq_ok.mp hsite
    have hstored := hinv.stored site hmem hissite
    rw [htoken, hid] at hstored
    obtain ⟨g, hg, hsame⟩ := Option.map_eq_some_iff.mp hstored.symm
    exact ⟨g, hg, hhash.injective hsame⟩
  · rintro ⟨g, hg, htoken⟩
    obtain ⟨hmem, hgsite⟩ := newest_mem hg
    obtain ⟨site, hsite, hid, hissite⟩ := hinv.known g hmem
    have hstored := hinv.stored site hsite hissite
    rw [hid, hgsite, hg, Option.map_some, htoken] at hstored
    have hfound : siteOf h.db r.siteId = .ok site :=
      siteOf_eq_ok.mpr ⟨hsite, hid.trans hgsite, hissite⟩
    obtain ⟨config, db', hok⟩ := exists_registerAgent hfound hstored (hhash.nonempty r.token)
    exact ⟨_, hok⟩

/-- One operation: the promise is kept where no token is presented again or too late. -/
theorem keepsPromise_iff (hhash : TellsApart hashToken) (hinv : h.Inv hashToken) :
    KeepsPromise hashToken h e ↔ PresentedInTime h e := by
  constructor
  · intro hkeeps r hop g hg htoken
    have haccepted := (registerAgent_accepted_iff hhash hinv e.now).mpr ⟨g, hg, htoken⟩
    have honce := hkeeps r hop haccepted g (newest_mem hg).1 htoken
    exact ⟨honce.once, honce.inTime⟩
  · intro htimely r hop haccepted g hgmem htoken
    obtain ⟨g', hg', htoken'⟩ := (registerAgent_accepted_iff hhash hinv e.now).mp haccepted
    -- the token that is presented was given out once only
    obtain rfl : g = g' := List.inj_on_of_nodup_map hinv.distinct hgmem (newest_mem hg').1
      (htoken.trans htoken'.symm)
    obtain ⟨honce, hin⟩ := htimely r hop g hg' htoken
    exact ⟨honce, (newest_mem hg').2, hin, hg'⟩

/-- No token has been given out yet. -/
def History.start (db : SiteDb) : History where
  db := db

/-- **WHEN THE TOKENS ARE ONE-TIME**: in a run that draws fresh tokens, every token is
accepted once, for its own site, in its time and before it is replaced, exactly if no
registration presents the newest token of its site again or too late. -/
theorem one_time_iff (hhash : TellsApart hashToken) {db : SiteDb}
    (hstart : ∀ site ∈ db.rows, site.agentTokenHash = none) {events : List AgentEvent}
    (hfresh : Along (History.exec hashToken) DrawsFresh (.start db) events) :
    Along (History.exec hashToken) (KeepsPromise hashToken) (.start db) events ↔
      Along (History.exec hashToken) PresentedInTime (.start db) events := by
  have h0 : (History.start db).Inv hashToken :=
    ⟨fun site hsite _ => hstart site hsite, fun _ hg => (nomatch hg), List.nodup_nil⟩
  have hstep : ∀ h e, h.Inv hashToken → DrawsFresh h e →
      (KeepsPromise hashToken h e ↔ PresentedInTime h e) :=
    fun _ _ hinv _ => keepsPromise_iff hhash hinv
  exact (Along.of_step History.inv_step hstep h0 hfresh).congr

/-- A hash for the runs below. -/
def mark (token : String) : String := "#" ++ token

theorem mark_toList (token : String) : (mark token).toList = '#' :: token.toList :=
  String.toList_append

theorem mark_tellsApart : TellsApart mark where
  injective := by
    intro a b h
    have hlist := congrArg String.toList h
    rw [mark_toList, mark_toList] at hlist
    exact String.toList_inj.mp (List.cons.inj hlist).2
  nonempty := by
    intro token h
    have hlist := congrArg String.toList h
    rw [mark_toList] at hlist
    cases hlist

def newSite : Site where
  id := "s1"
  name := "Branch"

def newSites : SiteDb := ⟨[newSite], by decide⟩

/-- A token is drawn, and two agents register with it, the second a year later. -/
def reusedToken : List AgentEvent :=
  [⟨0, .generateAgentToken "s1" "t1"⟩,
   ⟨seconds 1, .registerAgent ⟨"s1", "t1", "http://agent"⟩⟩,
   ⟨hours 8760, .registerAgent ⟨"s1", "t1", "http://intruder"⟩⟩]

/-- The token is accepted twice. -/
theorem token_accepted_twice :
    (∀ site ∈ newSites.rows, site.agentTokenHash = none) ∧
    Along (History.exec mark) DrawsFresh (.start newSites) reusedToken ∧
    ¬ Along (History.exec mark) (KeepsPromise mark) (.start newSites) reusedToken := by
  refine ⟨by decide, ⟨?_, ?_, ?_, trivial⟩, ?_⟩
  · exact fun _ _ _ g hg => (nomatch hg)
  · exact fun _ _ hop => (nomatch hop)
  · exact fun _ _ hop => (nomatch hop)
  · intro h
    have hthird := h.2.2.1 ⟨"s1", "t1", "http://intruder"⟩ rfl ⟨_, rfl⟩
      ⟨"s1", "t1", 24, 0⟩ (by decide +kernel) rfl
    exact hthird.once ⟨"s1", "t1", seconds 1⟩ (by decide +kernel) rfl

/-- The same token presented once. -/
theorem token_accepted_once :
    Along (History.exec mark) (KeepsPromise mark) (.start newSites) (reusedToken.take 2) := by
  refine (one_time_iff mark_tellsApart (by decide) ?_).mpr ?_
  · exact ⟨fun _ _ _ _ hg => (nomatch hg), fun _ _ hop => (nomatch hop), trivial⟩
  · refine ⟨fun _ hop => (nomatch hop), ?_, trivial⟩
    intro r hop g hg _
    have hg' : some ⟨"s1", "t1", 24, 0⟩ = some g := by
      rw [← hg, ← AgentOp.registerAgent.inj hop]
      decide +kernel
    rw [← Option.some.inj hg']
    exact ⟨fun _ ha => (nomatch ha), by decide⟩

end PureBoot.Sites
