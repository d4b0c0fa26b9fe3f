/-
  PureBoot.Lifecycle.CloneCerts — the CERTIFICATE AUTHORITY for clone sessions, over
  the life of a controller that may be killed at any time, on a disk that may fail.

  The authority keeps its key and its certificate as two files, written one after the
  other.  A controller that finds both loads them, and any other one generates both
  anew, if its settings give the certificate dates that it can have.  Certificates are
  issued when a direct session is created, before it has an id, and again when it is
  started; the two machines fetch them later, perhaps from another controller process
  than the one that issued them.

  Main results:
    * `clone_certs_trusted` — whatever controller serves a certificate, it verifies
      under the authority served with it, which is the only one there ever was;
    * `ca_start_raises_iff` — a start raises just when the disk fails it, when the dates
      of the authority it has to make are refused, or when an earlier start was stopped
      while it wrote the certificate of the authority.
-/
import PureBoot.Lib.TextForm
import PureBoot.Lifecycle.CloneLife
import Mathlib.Tactic.DeriveEncodable

namespace PureBoot.Lifecycle

open PureBoot.Lib

/-! ## §1. Certificates. -/

/-- `x509.Name`, with the two attributes that are set. -/
structure X509Name where
  organizationName : String
  commonName : String
  deriving DecidableEq, Repr, Encodable

/-- `x509.KeyUsage`. -/
structure KeyUsage where
  digitalSignature : Bool
  keyCertSign : Bool
  crlSign : Bool
  keyEncipherment : Bool
  contentCommitment : Bool
  dataEncipherment : Bool
  keyAgreement : Bool
  encipherOnly : Bool
  decipherOnly : Bool
  deriving DecidableEq, Repr, Encodable

/-- `x509.ExtendedKeyUsage`, of one purpose. -/
inductive ExtendedKeyUsage where
  | serverAuth
  | clientAuth
  deriving DecidableEq, Repr, Encodable

/-- A private key, named by its key pair. -/
structure PrivateKey where
  pair : Nat
  deriving DecidableEq, Repr, Encodable

/-- A certificate; public keys are named by their pairs, and the signature by the pair it was
made with. -/
structure Certificate where
  subject : X509Name
  issuer : X509Name
  publicKey : Nat
  serialNumber : Nat
  /-- In seconds. -/
  notValidBefore : Int
  notValidAfter : Int
  /-- `BasicConstraints(ca, path_length)`. -/
  ca : Bool
  pathLength : Option Nat
  keyUsage : Option KeyUsage := none
  extendedKeyUsage : Option ExtendedKeyUsage := none
  subjectAlternativeName : List String := []
  signedBy : Nat
  deriving DecidableEq, Repr, Encodable

/-- What the making of a certificate draws from outside: a key pair, a serial number and the
clock, in seconds since 1970. -/
structure Draw where
  pair : Nat
  serial : Nat
  now : Int
  deriving DecidableEq, Repr

/-- The PEM forms of keys and certificates. -/
structure Pems where
  key : TextForm PrivateKey
  cert : TextForm Certificate

/-- The last second of `datetime`, in the year 9999. -/
def lastSecond : Int := 253402300799

/-- `_EARLIEST_UTC_TIME` of a certificate: the first second of 1950. -/
def earliestUtcTime : Int := -631152000

/-- The dates `now` and `now + timedelta(seconds=length)` of a `CertificateBuilder`: the sum is a
`datetime`, neither is too early, and they are in this order. -/
def datable (now length : Int) : Bool :=
  earliestUtcTime ≤ now && 0 ≤ length && now + length ≤ lastSecond

/-- A plain instance: keys and certificates tallied. -/
def tallyPems : Pems := ⟨.tally PrivateKey, .tally Certificate⟩

/-! ## §2. The authority. -/

/-- `CASettings`. -/
structure CASettings where
  enabled : Bool := true
  caValidityYears : Int := 10
  sessionCertValidityHours : Int := 24
  deriving DecidableEq, Repr

/-- The directory of the authority: the texts of `ca.key` and `ca.crt`. -/
structure CertDir where
  caKey : Option String := none
  caCert : Option String := none
  deriving DecidableEq, Repr

/-- `CAService`: what a process has in memory. -/
structure CAService where
  caCert : Option Certificate := none
  caKey : Option PrivateKey := none
  deriving DecidableEq, Repr

/-- How a start ends early: the process is killed, or something raises. -/
inductive StartEnd where
  | killed
  | raised (e : Exn)
  deriving DecidableEq, Repr

/-- How far a start gets with the files of the authority. -/
inductive Reached where
  /-- Nothing is written: the directory is made, the files are looked for and read, `ca.key` is
  opened. -/
  | files
  /-- `n` characters of `ca.key` are written. -/
  | inKey (n : Nat)
  /-- `ca.key` is written, and `ca.crt` not opened. -/
  | between
  /-- `n` characters of `ca.crt` are written. -/
  | inCert (n : Nat)
  deriving DecidableEq, Repr

/-- A start that is stopped among its files, by a kill or by an operation that fails. -/
structure Cut where
  reached : Reached
  ended : StartEnd
  deriving DecidableEq, Repr

/-- The name of the authority. -/
def caName : X509Name := ⟨"PureBoot", "PureBoot CA"⟩

/-- How long the authority is valid: `timedelta(days=365 * settings.ca.ca_validity_years)`. -/
def CASettings.caValidity (settings : CASettings) : Int := 365 * settings.caValidityYears * 86400

/-- `timedelta(hours=settings.ca.session_cert_validity_hours)`. -/
def CASettings.sessionValidity (settings : CASettings) : Int :=
  settings.sessionCertValidityHours * 3600

/-- The root certificate that `_generate_ca` builds and signs, with these dates. -/
def rootCert (settings : CASettings) (draw : Draw) : Certificate where
  subject := caName
  issuer := caName
  publicKey := draw.pair
  serialNumber := draw.serial
  notValidBefore := draw.now
  notValidAfter := draw.now + settings.caValidity
  ca := true
  pathLength := some 0
  keyUsage := some
    { digitalSignature := true, keyCertSign := true, crlSign := true, keyEncipherment := false,
      contentCommitment := false, dataEncipherment := false, keyAgreement := false,
      encipherOnly := false, decipherOnly := false }
  signedBy := draw.pair

/-- `CAService._generate_ca`: the certificate is built first, and the key is written first. -/
def generateCa (pems : Pems) (settings : CASettings) (draw : Draw) (cut : Option Cut)
    (dir : CertDir) : CertDir × Except StartEnd CAService :=
  if datable draw.now settings.caValidity = false then (dir, .error (.raised .other))
  else
    let privateKey : PrivateKey := ⟨draw.pair⟩
    let cert := rootCert settings draw
    let keyPem := pems.key.dump privateKey
    let certPem := pems.cert.dump cert
    match cut with
    | some ⟨.files, ended⟩ => (dir, .error ended)
    | some ⟨.inKey n, ended⟩ => ({ dir with caKey := some (written (some n) keyPem) }, .error ended)
    | some ⟨.between, ended⟩ => ({ dir with caKey := some keyPem }, .error ended)
    | some ⟨.inCert n, ended⟩ => (⟨some keyPem, some (written (some n) certPem)⟩, .error ended)
    | none => (⟨some keyPem, some certPem⟩, .ok ⟨some cert, some privateKey⟩)

/-- `CAService._load_ca`. -/
def loadCa (pems : Pems) (keyPem certPem : String) : Except StartEnd CAService :=
  match pems.key.load keyPem with
  | none => .error (.raised .other)
  | some key =>
      match pems.cert.load certPem with
      | none => .error (.raised .other)
      | some cert => .ok ⟨some cert, some key⟩

/-- `CAService.initialize`. -/
def initialize_ (pems : Pems) (settings : CASettings) (draw : Draw) (cut : Option Cut)
    (dir : CertDir) : CertDir × Except StartEnd CAService :=
  if settings.enabled = false then (dir, .ok {})
  else
    match cut with
    | some ⟨.files, ended⟩ => (dir, .error ended)
    | _ =>
        match dir.caCert, dir.caKey with
        | some certPem, some keyPem => (dir, loadCa pems keyPem certPem)
        | _, _ => generateCa pems settings draw cut dir

/-- `f"clone-{session_id}-{role}"`. -/
def sessionCn (sessionId : Option String) (role : String) : String :=
  "clone-" ++ showOpt sessionId ++ "-" ++ role

/-- The purpose of a participant: the source serves, anybody else is a client. -/
def roleUsage (role : String) : ExtendedKeyUsage :=
  if role = "source" then .serverAuth else .clientAuth

/-- `CAService.is_initialized`. -/
def CAService.isInitialized (ca : CAService) : Bool :=
  ca.caCert.isSome && ca.caKey.isSome

/-- `CAService.issue_session_cert`, as its callers use it: without an address. -/
def CAService.issueSessionCert (ca : CAService) (settings : CASettings) (draw : Draw)
    (sessionId : Option String) (role : String) : Except Exn (Certificate × PrivateKey) :=
  match ca.caCert, ca.caKey with
  | some caCert, some caKey =>
      let cn := sessionCn sessionId role
      if datable draw.now settings.sessionValidity = false then .error .other
      else
        .ok
          ({ subject := ⟨"PureBoot", cn⟩
             issuer := caCert.subject
             publicKey := draw.pair
             serialNumber := draw.serial
             notValidBefore := draw.now
             notValidAfter := draw.now + settings.sessionValidity
             ca := false
             pathLength := none
             extendedKeyUsage := some (roleUsage role)
             subjectAlternativeName := [cn]
             signedBy := caKey.pair },
            ⟨draw.pair⟩)
  | _, _ => .error .other

/-- `CAService.get_ca_cert_pem`. -/
def CAService.getCaCertPem (pems : Pems) (ca : CAService) : Except Exn String :=
  match ca.caCert with
  | some caCert => .ok (pems.cert.dump caCert)
  | none => .error .other

/-! ## §3. The endpoints. -/

/-- The participants that a request issues certificates for. -/
def issuedFor (db : DB) : Op → List String
  | .createCloneSession _ request =>
      if request.cloneMode = .direct then ["source", "target"] else []
  | .startCloneSession sessionId =>
      match db.sessions.get? sessionId with
      | some session =>
          if truthy session.targetNodeId = true then ["source", "target"] else ["source"]
      | none => []
  | _ => []

/-- A certificate that the request issues is refused its dates: the request is answered 500. -/
def CAService.refuses (ca : CAService) (settings : CASettings) (draws : String → Draw) (db : DB)
    (op : Op) : Bool :=
  ca.isInitialized
    && (issuedFor db op).any (fun role => !datable (draws role).now settings.sessionValidity)

/-- The authority, as the endpoints that create and start a session ask it. -/
def CAService.issuer (pems : Pems) (ca : CAService) (settings : CASettings)
    (draws : String → Draw) : Option (Option String → String → String × String) :=
  if ca.isInitialized = true then
    some (fun sessionId role =>
      match ca.issueSessionCert settings (draws role) sessionId role with
      | .ok (cert, key) => (pems.cert.dump cert, pems.key.dump key)
      | .error _ => ("", ""))
  else none

/-- `CloneCertBundle`. -/
structure CloneCertBundle where
  certPem : String
  keyPem : String
  caPem : String
  deriving DecidableEq, Repr

/-- The columns of a participant. -/
def CloneSession.certOf (session : CloneSession) (role : String) : Option (String × String) :=
  if role = "source" then session.sourceCert else session.targetCert

/-- `get_clone_certs`. -/
def getCloneCerts (pems : Pems) (ca : CAService) (db : DB) (sessionId role : String) :
    Except Exn CloneCertBundle :=
  if role ≠ "source" ∧ role ≠ "target" then
    .error (.http 400 "Role must be 'source' or 'target'")
  else
    match db.sessions.get? sessionId with
    | none => .error (.http 404 "Clone session not found")
    | some session =>
        if session.cloneMode ≠ .direct then
          .error (.http 400 "Certificates only available for direct mode sessions")
        else if ca.isInitialized = false then
          .error (.http 503 "CA service not initialized")
        else
          match session.certOf role with
          | none => .error (.http 400 ("Certificates not yet generated for " ++ role
              ++ ". Start the session first."))
          | some (certPem, keyPem) =>
              if certPem = "" ∨ keyPem = "" then
                .error (.http 400 ("Certificates not yet generated for " ++ role
                  ++ ". Start the session first."))
              else do
                let caPem ← ca.getCaCertPem pems
                .ok ⟨certPem, keyPem, caPem⟩

/-! ## §4. The controller. -/

/-- A controller: its files, its process and its database.  `loaded` and `named` are kept for
the statements: the authorities its processes worked with, and the participants whose last
certificate was issued under the id of their session. -/
structure Controller where
  dir : CertDir := {}
  process : Option (CASettings × CAService) := none
  db : DB := DB.empty
  loaded : List Certificate := []
  named : List (String × String) := []

/-- What happens to a controller. -/
inductive Happening where
  /-- A process is started, and is stopped at `cut` if it gets there. -/
  | start (settings : CASettings) (draw : Draw) (cut : Option Cut)
  /-- The process ends, or is killed. -/
  | stop
  /-- A request is answered; if not `commits`, the process is killed before it is stored. -/
  | request (r : Request) (draws : String → Draw) (commits : Bool)

/-- The participants named by the certificates on file, after a request. -/
def namedAfter (env : Env) (db : DB) (r : Request) (named : List (String × String)) :
    List (String × String) :=
  match r.op with
  | .createCloneSession uuid request =>
      match createCloneSession env db uuid request with
      | .ok _ => named.filter (fun p => p.1 ≠ uuid)
      | .error _ => named
  | .startCloneSession sessionId =>
      match startCloneSession env r.now db sessionId, env.issueSessionCert with
      | .ok _, some _ =>
          if ((db.sessions.get? sessionId).map (fun s => truthy s.targetNodeId)) = some true
          then (sessionId, "source") :: (sessionId, "target") :: named
          else (sessionId, "source") :: named
      | _, _ => named
  | _ => named

/-- The world a request sees: the authority of its process. -/
def requestEnv (pems : Pems) (env : Env) (settings : CASettings) (ca : CAService)
    (draws : String → Draw) : Env :=
  { env with issueSessionCert := ca.issuer pems settings draws }

/-- What one happening does. -/
def Controller.exec (pems : Pems) (env : Env) (s : Controller) : Happening → Controller
  | .start settings draw cut =>
      match s.process with
      | some _ => s
      | none =>
          match initialize_ pems settings draw cut s.dir with
          | (dir, .ok ca) =>
              { s with dir := dir, process := some (settings, ca),
                       loaded := s.loaded ++ ca.caCert.toList }
          | (dir, .error _) => { s with dir := dir }
  | .stop => { s with process := none }
  | .request r draws commits =>
      match s.process with
      | none => s
      | some (settings, ca) =>
          if commits = false then { s with process := none }
          else if ca.refuses settings draws s.db r.op = true then s
          else
            { s with db := Lifecycle.exec (requestEnv pems env settings ca draws) s.db r,
                     named := namedAfter (requestEnv pems env settings ca draws) s.db r s.named }

/-! ## §5. What a request does to the certificates. -/

/-- **WHERE A CERTIFICATE ON FILE COMES FROM**, for a participant of a session after a request that
issues certificates for `roles`. -/
inductive CertFrom (env : Env) (db : DB) (roles : List String)
    (named named' : List (String × String)) (s' : CloneSession) (role : String) : Prop where
  | kept {s : CloneSession} : s ∈ db.sessions.rows → s'.id = s.id →
      s'.certOf role = s.certOf role → ((s'.id, role) ∈ named' ↔ (s'.id, role) ∈ named) →
      CertFrom env db roles named named' s' role
  | started {issue : Option String → String → String × String} :
      env.issueSessionCert = some issue → role ∈ roles →
      s'.certOf role = some (issue (some s'.id) role) →
      (s'.id, role) ∈ named' → CertFrom env db roles named named' s' role
  | created : (∀ pair, s'.certOf role = some pair → role ∈ roles ∧
        ∃ issue, env.issueSessionCert = some issue ∧ pair = issue none role) →
      (s'.id, role) ∉ named' → CertFrom env db roles named named' s' role

/-- Both participants of every session. -/
def CertsFrom (env : Env) (db db' : DB) (roles : List String)
    (named named' : List (String × String)) : Prop :=
  ∀ s' ∈ db'.sessions.rows, ∀ role, role = "source" ∨ role = "target" →
    CertFrom env db roles named named' s' role

section Handlers

variable {env : Env} {r : Request} {db db' : DB} {sessionId : String}
  {roles : List String} {named : List (String × String)}

theorem certsFrom_frame (h : db'.sessions = db.sessions) :
    CertsFrom env db db' roles named named := by
  intro s' hs' role _
  rw [h] at hs'
  exact .kept hs' rfl rfl Iff.rfl

/-- A session saved with its certificates as they were. -/
theorem certsFrom_put {s s' : CloneSession} (hs : s ∈ db.sessions.rows)
    (hdb : db'.sessions = db.sessions.put s') (hid : s'.id = s.id)
    (hsource : s'.sourceCert = s.sourceCert) (htarget : s'.targetCert = s.targetCert) :
    CertsFrom env db db' roles named named := by
  intro x hx role _
  rw [hdb, Table.mem_put_iff ⟨s, hs, hid.symm⟩] at hx
  rcases hx with rfl | ⟨hx, -⟩
  · have hcert : x.certOf role = s.certOf role := by
      unfold CloneSession.certOf
      rw [hsource, htarget]
    exact .kept hs hid hcert Iff.rfl
  · exact .kept hx rfl rfl Iff.rfl

theorem updateCloneSession_certs {request : CloneSessionUpdate} {a : CloneSession}
    (h : updateCloneSession db sessionId request = .ok (a, db')) :
    CertsFrom env db db' roles named named := by
  unfold updateCloneSession at h
  split at h
  next => cases h
  next s hget =>
    obtain ⟨-, h⟩ := ite_error_eq_ok.mp h
    obtain ⟨-, h⟩ := ite_error_eq_ok.mp h
    obtain ⟨-, rfl⟩ := ok_pair_inj h
    exact certsFrom_put (Table.get?_eq_some_iff.mp hget).1 rfl rfl rfl rfl

theorem deleteCloneSession_certs {a : String}
    (h : deleteCloneSession r.now db sessionId = .ok (a, db')) :
    CertsFrom env db db' roles named named := by
  unfold deleteCloneSession at h
  split at h
  next => cases h
  next s hget =>
    split at h
    next =>
      obtain ⟨-, rfl⟩ := ok_pair_inj h
      exact certsFrom_put (Table.get?_eq_some_iff.mp hget).1 rfl rfl rfl rfl
    next =>
      obtain ⟨-, rfl⟩ := ok_pair_inj h
      intro s' hs' role _
      exact .kept (Table.mem_delete.mp hs').1 rfl rfl Iff.rfl

theorem cloneSourceReady_certs {request : CloneSourceReady} {a : Bool × String}
    (h : cloneSourceReady r.now db sessionId request = .ok (a, db')) :
    CertsFrom env db db' roles named named := by
  unfold cloneSourceReady at h
  split at h
  next => cases h
  next s hget =>
    have hs := (Table.get?_eq_some_iff.mp hget).1
    dsimp only at h
    generalize (if s.cloneMode = .direct ∧ truthy s.targetNodeId = true
      then s.targetNodeId.bind db.nodes.get? else none) = target at h
    cases target with
    | some node =>
        obtain ⟨-, rfl⟩ := ok_pair_inj h
        exact certsFrom_put hs (bootForClone_saveSession ..) rfl rfl rfl
    | none =>
        obtain ⟨-, rfl⟩ := ok_pair_inj h
        exact certsFrom_put hs rfl rfl rfl rfl

theorem cloneProgress_certs {request : CloneProgressUpdate} {a : CloneSession}
    (h : cloneProgress db sessionId request = .ok (a, db')) :
    CertsFrom env db db' roles named named := by
  unfold cloneProgress at h
  split at h
  next => cases h
  next s hget =>
    obtain ⟨-, rfl⟩ := ok_pair_inj h
    exact certsFrom_put (Table.get?_eq_some_iff.mp hget).1 rfl rfl rfl rfl

theorem cloneComplete_certs {a : Int}
    (h : cloneComplete env r.now db sessionId = .ok (a, db')) :
    CertsFrom env db db' roles named named := by
  unfold cloneComplete at h
  split at h
  next => cases h
  next s hget =>
    have hs := (Table.get?_eq_some_iff.mp hget).1
    dsimp only at h
    split at h
    next started _ =>
      obtain ⟨micros, -, h⟩ := bind_eq_ok.mp h
      obtain ⟨-, rfl⟩ := ok_pair_inj h
      exact certsFrom_put hs rfl rfl rfl rfl
    next =>
      obtain ⟨-, rfl⟩ := ok_pair_inj h
      exact certsFrom_put hs rfl rfl rfl rfl

theorem cloneFailed_certs {errorMessage a : String}
    (h : cloneFailed r.now db sessionId errorMessage = .ok (a, db')) :
    CertsFrom env db db' roles named named := by
  unfold cloneFailed at h
  split at h
  next => cases h
  next s hget =>
    obtain ⟨-, rfl⟩ := ok_pair_inj h
    exact certsFrom_put (Table.get?_eq_some_iff.mp hget).1 rfl rfl rfl rfl

/-- A new session, which has no id yet when its certificates are issued. -/
theorem createCloneSession_certs {uuid : String} {request : CloneSessionCreate}
    {a : CloneSession} (h : createCloneSession env db uuid request = .ok (a, db')) :
    CertsFrom env db db' (issuedFor db (.createCloneSession uuid request)) named
      (named.filter (fun p => p.1 ≠ uuid)) := by
  obtain ⟨hrows, hfresh, hid, -, -⟩ := createCloneSession_eq_ok h
  have hissue : ∀ role, role = "source" ∨ role = "target" → ∀ pair, a.certOf role = some pair →
      role ∈ issuedFor db (.createCloneSession uuid request) ∧
        ∃ issue, env.issueSessionCert = some issue ∧ pair = issue none role := by
    unfold createCloneSession at h
    obtain ⟨-, h⟩ := ite_error_eq_ok.mp h
    obtain ⟨-, h⟩ := ite_error_eq_ok.mp h
    obtain ⟨-, h⟩ := ite_error_eq_ok.mp h
    dsimp only at h
    split at h
    next sessions _ =>
      obtain ⟨rfl, -⟩ := ok_pair_inj h
      have hall : ∀ role, role = "source" ∨ role = "target" → ∀ pair,
          ((if request.cloneMode = .direct then env.issueSessionCert else none).map
            (fun f => f none role)) = some pair →
          role ∈ issuedFor db (.createCloneSession uuid request) ∧
            ∃ issue, env.issueSessionCert = some issue ∧ pair = issue none role := by
        intro role hrole pair hpair
        obtain ⟨issue, hissue, rfl⟩ := Option.map_eq_some_iff.mp hpair
        split at hissue
        next hdirect =>
          refine ⟨?_, issue, hissue, rfl⟩
          unfold issuedFor
          dsimp only
          rw [if_pos hdirect]
          simpa using hrole
        next => cases hissue
      rintro role (rfl | rfl) pair hpair
      · exact hall _ (.inl rfl) _ hpair
      · exact hall _ (.inr rfl) _ hpair
    next => cases h
  intro s' hs' role hrole
  rw [hrows, List.mem_append, List.mem_singleton] at hs'
  rcases hs' with hs' | rfl
  · have hne : s'.id ≠ uuid := hid ▸ hfresh s' hs'
    refine .kept hs' rfl rfl ?_
    simp [List.mem_filter, hne]
  · refine .created (hissue role hrole) ?_
    simp [List.mem_filter, hid]

/-- The start of a session, which issues its certificates once more. -/
theorem startCloneSession_certs (named : List (String × String)) {a : String}
    (h : startCloneSession env r.now db sessionId = .ok (a, db'))
    (hop : r.op = .startCloneSession sessionId) :
    CertsFrom env db db' (issuedFor db r.op) named (namedAfter env db r named) := by
  have hnamed : namedAfter env db r named = env.issueSessionCert.elim named (fun _ =>
      if ((db.sessions.get? sessionId).map (fun s => truthy s.targetNodeId)) = some true
      then (sessionId, "source") :: (sessionId, "target") :: named
      else (sessionId, "source") :: named) := by
    unfold namedAfter
    rw [hop]
    dsimp only
    rw [h]
    cases env.issueSessionCert <;> rfl
  unfold startCloneSession at h
  split at h
  next => cases h
  next s hget =>
    obtain ⟨hs, rfl⟩ := Table.get?_eq_some_iff.mp hget
    obtain ⟨-, h⟩ := ite_error_eq_ok.mp h
    dsimp only at h
    obtain ⟨-, rfl⟩ := ok_pair_inj h
    have hroles : issuedFor db r.op
        = if truthy s.targetNodeId = true then ["source", "target"] else ["source"] := by
      unfold issuedFor
      rw [hop]
      dsimp only
      rw [hget]
    rw [hroles]
    cases hissue : env.issueSessionCert with
    | none =>
        rw [hnamed, hissue, Option.elim_none]
        exact certsFrom_put hs (bootForClone_saveSession ..) rfl rfl rfl
    | some issue =>
        rw [hissue, Option.elim_some, hget, Option.map_some] at hnamed
        intro x hx role hrole
        rw [bootForClone_saveSession] at hx
        rcases (Table.mem_put_iff ⟨s, hs, by rfl⟩).mp hx with rfl | ⟨hx, hne⟩
        · dsimp only
          rcases hrole with rfl | rfl
          · refine .started hissue ?_ rfl ?_
            · split <;> simp
            · rw [hnamed]
              split <;> simp
          -- without a target node its columns stay as they are
          · by_cases htarget : truthy s.targetNodeId = true
            · refine .started hissue (by simp [htarget]) ?_ ?_
              · show (if truthy s.targetNodeId = true then _ else _) = _
                rw [if_pos htarget]
              · rw [hnamed, if_pos (congrArg some htarget)]
                simp
            · refine .kept hs rfl ?_ ?_
              · show (if truthy s.targetNodeId = true then _ else _) = _
                rw [if_neg htarget]
                rfl
              · rw [hnamed, if_neg (by simpa using htarget)]
                simp
        -- the row of another session
        · have hne' : x.id ≠ s.id := hne
          refine .kept hx rfl rfl ?_
          rw [hnamed]
          split <;> simp [hne']

end Handlers

/-- **WHAT A REQUEST DOES TO THE CERTIFICATES.** -/
theorem exec_certs (env : Env) (db : DB) (r : Request) (named : List (String × String)) :
    CertsFrom env db (exec env db r) (issuedFor db r.op) named (namedAfter env db r named) := by
  obtain ⟨now, op⟩ := r
  have hrefl : ∀ {roles : List String}, CertsFrom env db db roles named named :=
    certsFrom_frame rfl
  -- a clone endpoint that leaves `named` as it is
  have hclone : ∀ {α : Type} {h : Except Exn (α × DB)} {roles : List String},
      (∀ a db', h = .ok (a, db') → CertsFrom env db db' roles named named) →
      CertsFrom env db (commitOrRollback db h) roles named named := fun {_ _ roles} hh =>
    commitOrRollback_preserves (P := fun db' => CertsFrom env db db' roles named named) hrefl hh
  have hkeeps : ∀ {α : Type} {h : Except Exn (α × DB)} {roles : List String},
      (∀ a db', h = .ok (a, db') → db'.sessions = db.sessions) →
      CertsFrom env db (commitOrRollback db h) roles named named := fun hh =>
    hclone (fun a db' he => certsFrom_frame (hh a db' he))
  -- a node endpoint
  have hdoes : ∀ {α : Type} {h : Except Exn (α × DB)} {roles : List String},
      (∀ a db', h = .ok (a, db') → EndpointStep now true db db') →
      CertsFrom env db (commitOrRollback db h) roles named named := fun hh =>
    hkeeps (fun a db' he => (hh a db' he).sessions)
  cases op with
  | createNode uuid data => exact hdoes (fun _ _ h => createNode_does h)
  | updateNode nodeId data => exact hdoes (fun _ _ h => updateNode_does h)
  | transitionNodeState nodeId state comment force =>
      exact hdoes (fun _ _ h => transitionNodeState_does (fun _ => rfl) h)
  | bulkChangeState nodeIds newState => exact hkeeps (fun _ _ h => bulkChangeState_sessions h)
  | retireNode nodeId => exact hdoes (fun _ _ h => retireNode_does h)
  | reportNodeStatus report clientHost => exact hdoes (fun _ _ h => reportNodeStatus_does h)
  | nodeCloneSourceReady nodeId body clientHost =>
      exact hdoes (fun _ _ h => nodeCloneSourceReady_does h)
  | nodeInstalledCallback nodeId success clientHost =>
      exact hdoes (fun _ _ h => nodeInstalledCallback_does h)
  | nodeInstallFailedCallback nodeId error =>
      exact hdoes (fun _ _ h => nodeInstallFailedCallback_does h)
  | getBootScript uuid req => exact hdoes (fun _ _ h => getBootScript_does h)
  | createCloneSession uuid request =>
      unfold exec namedAfter
      dsimp only
      cases h : createCloneSession env db uuid request with
      | error e => exact hrefl
      | ok p => exact createCloneSession_certs h
  | updateCloneSession sessionId request =>
      exact hclone (fun _ _ h => updateCloneSession_certs h)
  | deleteCloneSession sessionId =>
      exact hclone
        (fun _ _ h => deleteCloneSession_certs (r := ⟨now, .deleteCloneSession sessionId⟩) h)
  | startCloneSession sessionId =>
      cases h : startCloneSession env now db sessionId with
      | error e =>
          unfold exec namedAfter
          dsimp only
          rw [h]
          exact hrefl
      | ok p =>
          have hcerts := startCloneSession_certs named
            (r := ⟨now, .startCloneSession sessionId⟩) h rfl
          unfold exec
          dsimp only
          rw [h]
          exact hcerts
  | cloneSourceReady sessionId request =>
      exact hclone
        (fun _ _ h => cloneSourceReady_certs (r := ⟨now, .cloneSourceReady sessionId request⟩) h)
  | cloneProgress sessionId request =>
      exact hclone (fun _ _ h => cloneProgress_certs h)
  | cloneComplete sessionId =>
      exact hclone
        (fun _ _ h => cloneComplete_certs (r := ⟨now, .cloneComplete sessionId⟩) h)
  | cloneFailed sessionId errorMessage =>
      exact hclone
        (fun _ _ h => cloneFailed_certs (r := ⟨now, .cloneFailed sessionId errorMessage⟩) h)

/-! ## §6. One authority. -/

/-- A certificate that `_generate_ca` makes. -/
def IsRoot (root : Certificate) : Prop := ∃ settings draw, root = rootCert settings draw

/-- The authority in memory that belongs to a root certificate. -/
def authority (root : Certificate) : CAService := ⟨some root, some ⟨root.publicKey⟩⟩

/-- What is on file for a participant was issued by this authority, under this id. -/
def IssuedBy (pems : Pems) (root : Certificate) (sessionId : Option String) (role : String)
    (pair : String × String) : Prop :=
  ∃ settings draw cert key,
    (authority root).issueSessionCert settings draw sessionId role = .ok (cert, key) ∧
      pair = (pems.cert.dump cert, pems.key.dump key)

/-- **THE DIRECTORY**: where there is a certificate, there is the key of the authority that it
belongs to, and it is refused or read as that authority; all authorities in use were it. -/
structure DirOk (pems : Pems) (dir : CertDir) (loaded : List Certificate) : Prop where
  whole : ∀ certPem, dir.caCert = some certPem → ∃ root keyPem, IsRoot root ∧
    dir.caKey = some keyPem ∧ pems.key.load keyPem = some ⟨root.publicKey⟩ ∧
    (pems.cert.load certPem = none ∨ pems.cert.load certPem = some root)
  loaded : ∀ root ∈ loaded, ∃ certPem, dir.caCert = some certPem ∧
    pems.cert.load certPem = some root

/-- The certificate of the authority is there, and cannot be read. -/
def CertDir.torn (pems : Pems) (dir : CertDir) : Bool :=
  match dir.caCert with
  | some certPem => (pems.cert.load certPem).isNone
  | none => false

/-- There is no authority yet: one of its files is missing. -/
def CertDir.missing (dir : CertDir) : Bool := dir.caCert.isNone || dir.caKey.isNone

/-- The start makes an authority, and is stopped while it writes the certificate: what is there
of it cannot be read. -/
def CertDir.tornBy (pems : Pems) (dir : CertDir) (settings : CASettings) (draw : Draw)
    (cut : Option Cut) : Bool :=
  settings.enabled && dir.missing && datable draw.now settings.caValidity &&
    match cut with
    | some ⟨.inCert n, _⟩ =>
        (pems.cert.load (written (some n) (pems.cert.dump (rootCert settings draw)))).isNone
    | _ => false

/-- **WHAT A START DOES** in a directory as the starts before it left it. -/
inductive StartStep (pems : Pems) (settings : CASettings) (dir : CertDir)
    (loaded : List Certificate) (tears : Bool) : CertDir × Except StartEnd CAService → Prop where
  | off : settings.enabled = false → tears = false →
      StartStep pems settings dir loaded tears (dir, .ok {})
  | loads {root : Certificate} : tears = false → IsRoot root → DirOk pems dir (loaded ++ [root]) →
      StartStep pems settings dir loaded tears (dir, .ok (authority root))
  | generates {root : Certificate} {dir' : CertDir} : tears = false → IsRoot root →
      dir.torn pems = false → dir'.torn pems = false → DirOk pems dir' (loaded ++ [root]) →
      StartStep pems settings dir loaded tears (dir', .ok (authority root))
  | stopped {dir' : CertDir} {ended : StartEnd} : DirOk pems dir' loaded →
      (dir'.torn pems = true ↔ dir.torn pems = true ∨ tears = true) →
      StartStep pems settings dir loaded tears (dir', .error ended)

section Start

variable {pems : Pems} {settings : CASettings} {draw : Draw} {dir : CertDir}
  {loaded : List Certificate}

/-- Nobody worked with an authority whose certificate is not there. -/
theorem DirOk.loaded_nil (h : DirOk pems dir loaded) (hnone : dir.caCert = none) :
    loaded = [] := by
  cases loaded with
  | nil => rfl
  | cons root _ =>
      obtain ⟨certPem, hcert, -⟩ := h.loaded root List.mem_cons_self
      rw [hnone] at hcert
      cases hcert

/-- A directory without a certificate. -/
theorem dirOk_of_none (hnone : dir.caCert = none) : DirOk pems dir [] where
  whole certPem hcert := by
    rw [hnone] at hcert
    cases hcert
  loaded root hroot := absurd hroot List.not_mem_nil

theorem torn_of_none (pems : Pems) (hnone : dir.caCert = none) : dir.torn pems = false := by
  unfold CertDir.torn
  rw [hnone]

theorem torn_of_some {certPem : String} (hcert : dir.caCert = some certPem) :
    dir.torn pems = (pems.cert.load certPem).isNone := by
  unfold CertDir.torn
  rw [hcert]

/-- A directory in which the key was written, and then the certificate, perhaps not to its
end. -/
theorem dirOk_written (pems : Pems) (settings : CASettings) (draw : Draw) (cut : Option Nat) :
    DirOk pems ⟨some (pems.key.dump ⟨draw.pair⟩),
      some (written cut (pems.cert.dump (rootCert settings draw)))⟩ [] where
  whole certPem hcert := by
    obtain rfl := Option.some.inj hcert
    exact ⟨rootCert settings draw, _, ⟨settings, draw, rfl⟩, rfl, pems.key.load_dump _,
      pems.cert.load_written cut _⟩
  loaded root hroot := absurd hroot List.not_mem_nil

theorem DirOk.snoc (h : DirOk pems dir loaded) {root : Certificate} {certPem : String}
    (hcert : dir.caCert = some certPem) (hload : pems.cert.load certPem = some root) :
    DirOk pems dir (loaded ++ [root]) where
  whole := h.whole
  loaded root' hroot := by
    rcases List.mem_append.mp hroot with hroot | hroot
    · exact h.loaded root' hroot
    · obtain rfl := List.mem_singleton.mp hroot
      exact ⟨certPem, hcert, hload⟩

/-- A start that leaves the files alone. -/
theorem stopped_same (h : DirOk pems dir loaded) (ended : StartEnd) :
    StartStep pems settings dir loaded false (dir, .error ended) :=
  .stopped h (by simp)

/-- Where no authority can be found, one is made. -/
theorem generateCa_step (hen : settings.enabled = true) (hcert : dir.caCert = none)
    (hnil : loaded = []) (cut : Option Cut) :
    StartStep pems settings dir loaded (dir.tornBy pems settings draw cut)
      (generateCa pems settings draw cut dir) := by
  subst hnil
  have htorn : dir.torn pems = false := torn_of_none pems hcert
  have hdir : DirOk pems dir [] := dirOk_of_none hcert
  unfold generateCa
  split
  next hundated =>
    have hby : dir.tornBy pems settings draw cut = false := by
      unfold CertDir.tornBy
      rw [hundated, Bool.and_false, Bool.false_and]
    rw [hby]
    exact stopped_same hdir _
  next hdated =>
    have hby : dir.tornBy pems settings draw cut = match cut with
        | some ⟨.inCert n, _⟩ =>
            (pems.cert.load (written (some n) (pems.cert.dump (rootCert settings draw)))).isNone
        | _ => false := by
      unfold CertDir.tornBy CertDir.missing
      rw [hen, hcert, Bool.eq_true_of_not_eq_false hdated]
      simp
    rw [hby]
    cases cut with
    | none =>
        have hdir := dirOk_written pems settings draw none
        refine .generates rfl ⟨settings, draw, rfl⟩ htorn ?_
          (hdir.snoc rfl (pems.cert.load_dump (rootCert settings draw)))
        rw [torn_of_some rfl, pems.cert.load_dump]
        rfl
    | some cut =>
        obtain ⟨reached, ended⟩ := cut
        cases reached with
        | files => exact stopped_same hdir ended
        | inKey n =>
            refine .stopped (dirOk_of_none hcert) ?_
            rw [htorn, torn_of_none pems (by exact hcert)]
            simp
        | between =>
            refine .stopped (dirOk_of_none hcert) ?_
            rw [htorn, torn_of_none pems (by exact hcert)]
            simp
        | inCert n =>
            refine .stopped (dirOk_written pems settings draw (some n)) ?_
            rw [htorn, torn_of_some rfl]
            simp

/-- A start that is stopped before it has written anything. -/
theorem initialize_files (hen : settings.enabled = true) {ended : StartEnd} :
    initialize_ pems settings draw (some ⟨.files, ended⟩) dir = (dir, .error ended) := by
  unfold initialize_
  rw [if_neg (by simp [hen])]

/-- Any other start, with the authority switched on. -/
theorem initialize_on (hen : settings.enabled = true) {cut : Option Cut}
    (hfiles : ¬ ∃ ended, cut = some ⟨.files, ended⟩) :
    initialize_ pems settings draw cut dir = match dir.caCert, dir.caKey with
      | some certPem, some keyPem => (dir, loadCa pems keyPem certPem)
      | _, _ => generateCa pems settings draw cut dir := by
  unfold initialize_
  rw [if_neg (by simp [hen])]
  split
  next ended => exact absurd ⟨ended, rfl⟩ hfiles
  next => rfl

/-- **ONE START.** -/
theorem initialize_step (h : DirOk pems dir loaded) (settings : CASettings) (draw : Draw)
    (cut : Option Cut) :
    StartStep pems settings dir loaded (dir.tornBy pems settings draw cut)
      (initialize_ pems settings draw cut dir) := by
  by_cases hen : settings.enabled = true
  next =>
    by_cases hfiles : ∃ ended, cut = some ⟨.files, ended⟩
    next =>
      obtain ⟨ended, rfl⟩ := hfiles
      have hby : dir.tornBy pems settings draw (some ⟨.files, ended⟩) = false :=
        Bool.and_false _
      rw [hby, initialize_files hen]
      exact stopped_same h ended
    next =>
      rw [initialize_on hen hfiles]
      cases hcert : dir.caCert with
      | none => exact generateCa_step hen hcert (h.loaded_nil hcert) cut
      | some certPem =>
          obtain ⟨root, keyPem, hroot, hkey, hkeyPem, hload⟩ := h.whole certPem hcert
          have hby : dir.tornBy pems settings draw cut = false := by
            unfold CertDir.tornBy CertDir.missing
            rw [hcert, hkey]
            simp
          rw [hkey, hby]
          dsimp only
          unfold loadCa
          rw [hkeyPem]
          dsimp only
          rcases hload with hload | hload
          · rw [hload]
            exact stopped_same h _
          · rw [hload]
            exact .loads rfl hroot (h.snoc hcert hload)
  next =>
    have hoff : settings.enabled = false := by simpa using hen
    unfold initialize_
    rw [if_pos hoff]
    refine .off hoff ?_
    unfold CertDir.tornBy
    rw [hoff]
    rfl

end Start

/-! ## §7. Whole runs. -/

/-- The authority in a process. -/
def ProcessOk (loaded : List Certificate) (ca : CAService) : Prop :=
  ca = {} ∨ ∃ root ∈ loaded, ca = authority root

/-- What is on file for the participants. -/
def CertsOk (pems : Pems) (loaded : List Certificate) (named : List (String × String))
    (db : DB) : Prop :=
  ∀ s ∈ db.sessions.rows, ∀ role, role = "source" ∨ role = "target" →
    ∀ pair, s.certOf role = some pair → ∃ root ∈ loaded,
      IssuedBy pems root (if named.contains (s.id, role) then some s.id else none) role pair

/-- **THE INVARIANT** of a controller. -/
structure ControllerInv (pems : Pems) (s : Controller) : Prop where
  dir : DirOk pems s.dir s.loaded
  roots : ∀ root ∈ s.loaded, IsRoot root
  process : ∀ settings ca, s.process = some (settings, ca) → ProcessOk s.loaded ca
  certs : CertsOk pems s.loaded s.named s.db

theorem controllerInv_start (pems : Pems) : ControllerInv pems {} where
  dir := dirOk_of_none rfl
  roots _ hroot := absurd hroot List.not_mem_nil
  process _ _ h := by cases h
  certs _ hs := absurd hs List.not_mem_nil

section Step

variable {pems : Pems} {env : Env} {s : Controller} {loaded : List Certificate}
  {named : List (String × String)} {db : DB}

/-- More authorities take nothing away. -/
theorem CertsOk.mono {loaded' : List Certificate} (h : CertsOk pems loaded named db)
    (hsub : ∀ root ∈ loaded, root ∈ loaded') : CertsOk pems loaded' named db := by
  intro s hs role hrole pair hpair
  obtain ⟨root, hroot, hissued⟩ := h s hs role hrole pair hpair
  exact ⟨root, hsub root hroot, hissued⟩

/-- What the authority of a process issues, for a participant whose certificate has its dates. -/
theorem issuedBy_of_issuer {ca : CAService} {settings : CASettings} {draws : String → Draw}
    {issue : Option String → String → String × String} (hca : ProcessOk loaded ca)
    (hissue : ca.issuer pems settings draws = some issue) (sessionId : Option String)
    {role : String} (hdated : datable (draws role).now settings.sessionValidity = true) :
    ∃ root ∈ loaded, IssuedBy pems root sessionId role (issue sessionId role) := by
  rcases hca with rfl | ⟨root, hroot, rfl⟩
  · cases hissue
  · obtain rfl := Option.some.inj hissue
    have hissued : ∃ cert key,
        (authority root).issueSessionCert settings (draws role) sessionId role
          = .ok (cert, key) := by
      unfold CAService.issueSessionCert authority
      dsimp only
      rw [if_neg (by simp [hdated])]
      exact ⟨_, _, rfl⟩
    obtain ⟨cert, key, hissued⟩ := hissued
    refine ⟨root, hroot, settings, draws role, cert, key, hissued, ?_⟩
    dsimp only
    rw [hissued]

/-- Every certificate that an answered request issues has its dates. -/
theorem datable_of_refuses {ca : CAService} {settings : CASettings} {draws : String → Draw}
    {op : Op} {issue : Option String → String → String × String}
    (hrefuses : ca.refuses settings draws db op = false)
    (hissue : ca.issuer pems settings draws = some issue) {role : String}
    (hrole : role ∈ issuedFor db op) :
    datable (draws role).now settings.sessionValidity = true := by
  have hinit : ca.isInitialized = true := by
    by_contra hne
    unfold CAService.issuer at hissue
    rw [if_neg hne] at hissue
    cases hissue
  unfold CAService.refuses at hrefuses
  rw [hinit, Bool.true_and, List.any_eq_false] at hrefuses
  simpa using hrefuses role hrole

/-- **ONE REQUEST**: what is on file was issued by one of the authorities in use. -/
theorem CertsOk.request {ca : CAService} {settings : CASettings} {draws : String → Draw}
    (h : CertsOk pems loaded named db) (hca : ProcessOk loaded ca) (r : Request)
    (hrefuses : ca.refuses settings draws db r.op = false) :
    let env' := requestEnv pems env settings ca draws
    CertsOk pems loaded (namedAfter env' db r named) (Lifecycle.exec env' db r) := by
  intro env' s' hs' role hrole pair hpair
  cases exec_certs env' db r named s' hs' role hrole with
  | @kept s hs hid hcert hnamed =>
      rw [hcert] at hpair
      obtain ⟨root, hroot, hissued⟩ := h s hs role hrole pair hpair
      refine ⟨root, hroot, ?_⟩
      rw [← hid] at hissued
      rwa [if_congr (List.contains_iff_mem.trans (hnamed.trans List.contains_iff_mem.symm))
        rfl rfl]
  | started hissue hasked hcert hnamed =>
      rw [hcert] at hpair
      obtain rfl := Option.some.inj hpair
      rw [if_pos (List.contains_iff_mem.mpr hnamed)]
      exact issuedBy_of_issuer hca hissue _ (datable_of_refuses hrefuses hissue hasked)
  | created hcert hnamed =>
      obtain ⟨hasked, issue, hissue, rfl⟩ := hcert pair hpair
      rw [if_neg (fun hmem => hnamed (List.contains_iff_mem.mp hmem))]
      exact issuedBy_of_issuer hca hissue none (datable_of_refuses hrefuses hissue hasked)

end Step

theorem exec_start_cases {pems : Pems} {env : Env} {s : Controller} (hnone : s.process = none)
    (settings : CASettings) (draw : Draw) (cut : Option Cut) :
    s.exec pems env (.start settings draw cut) =
      match initialize_ pems settings draw cut s.dir with
      | (dir, .ok ca) =>
          { s with dir := dir, process := some (settings, ca),
                   loaded := s.loaded ++ ca.caCert.toList }
      | (dir, .error _) => { s with dir := dir } := by
  unfold Controller.exec
  dsimp only
  rw [hnone]

/-- **A HAPPENING KEEPS THE INVARIANT.** -/
theorem ControllerInv.exec {pems : Pems} (env : Env) (s : Controller) (e : Happening)
    (h : ControllerInv pems s) : ControllerInv pems (s.exec pems env e) := by
  cases e with
  | start settings draw cut =>
      cases hprocess : s.process with
      | some p =>
          unfold Controller.exec
          dsimp only
          rw [hprocess]
          exact h
      | none =>
          rw [exec_start_cases hprocess]
          have hstep := initialize_step h.dir settings draw cut
          generalize initialize_ pems settings draw cut s.dir = out at hstep
          -- a process that works with this authority
          have hruns : ∀ {root : Certificate} {dir' : CertDir}, IsRoot root →
              DirOk pems dir' (s.loaded ++ [root]) →
              ControllerInv pems { s with dir := dir', process := some (settings, authority root),
                                          loaded := s.loaded ++ [root] } := by
            intro root dir' hroot hdir
            have hmem : root ∈ s.loaded ++ [root] :=
              List.mem_append_right _ (List.mem_singleton_self root)
            refine ⟨hdir, ?_, ?_, h.certs.mono (fun _ => List.mem_append_left _)⟩
            · intro root' hroot'
              rcases List.mem_append.mp hroot' with hroot' | hroot'
              · exact h.roots root' hroot'
              · obtain rfl := List.mem_singleton.mp hroot'
                exact hroot
            · intro settings' ca hca
              cases hca
              exact .inr ⟨root, hmem, rfl⟩
          cases hstep with
          | off _ _ =>
              show ControllerInv pems { s with process := some (settings, {}),
                                               loaded := s.loaded ++ [] }
              rw [List.append_nil]
              refine ⟨h.dir, h.roots, ?_, h.certs⟩
              intro settings' ca hca
              cases hca
              exact .inl rfl
          | loads _ hroot hdir => exact hruns hroot hdir
          | generates _ hroot _ _ hdir => exact hruns hroot hdir
          | stopped hdir _ => exact ⟨hdir, h.roots, h.process, h.certs⟩
  | stop => exact ⟨h.dir, h.roots, fun _ _ hp => (by cases hp), h.certs⟩
  | request r draws commits =>
      unfold Controller.exec
      dsimp only
      split
      next => exact h
      next settings ca hprocess =>
        split_ifs with hcommits hrefuses
        next => exact ⟨h.dir, h.roots, fun _ _ hp => (by cases hp), h.certs⟩
        next => exact h
        next =>
          have hrefuses : ca.refuses settings draws s.db r.op = false := by simpa using hrefuses
          exact ⟨h.dir, h.roots, h.process,
            h.certs.request (h.process _ _ hprocess) r hrefuses⟩

theorem controllerInv_run (pems : Pems) (env : Env) (es : List Happening) :
    ControllerInv pems (run (Controller.exec pems env) {} es) := by
  have hkeep : ∀ (s : Controller) (e : Happening), ControllerInv pems s →
      ControllerInv pems (s.exec pems env e) := fun s e h => h.exec env s e
  exact run_invariant' hkeep es (controllerInv_start pems)

/-- There was never more than one authority. -/
theorem ControllerInv.one {pems : Pems} {s : Controller} (h : ControllerInv pems s)
    {root root' : Certificate} (hroot : root ∈ s.loaded) (hroot' : root' ∈ s.loaded) :
    root = root' := by
  obtain ⟨certPem, hcert, hload⟩ := h.dir.loaded root hroot
  obtain ⟨certPem', hcert', hload'⟩ := h.dir.loaded root' hroot'
  rw [hcert] at hcert'
  obtain rfl := Option.some.inj hcert'
  exact Option.some.inj (hload.symm.trans hload')

/-! ## §8. What the participants get. -/

/-- The certificate is in date. -/
def Certificate.inDate (cert : Certificate) (t : Int) : Bool :=
  cert.notValidBefore ≤ t && t ≤ cert.notValidAfter

/-- What the other participant checks of a certificate, apart from the dates. -/
def verifies (root cert : Certificate) (usage : ExtendedKeyUsage) : Bool :=
  root.ca && root.keyUsage.any KeyUsage.keyCertSign && root.issuer = root.subject &&
    root.signedBy = root.publicKey && cert.issuer = root.subject &&
    cert.signedBy = root.publicKey && !cert.ca && cert.extendedKeyUsage = some usage

/-- What it checks at time `t`. -/
def accepts (root cert : Certificate) (usage : ExtendedKeyUsage) (t : Int) : Bool :=
  verifies root cert usage && root.inDate t && cert.inDate t

/-- What a certificate that was issued says. -/
theorem issueSessionCert_eq_ok {root cert : Certificate} {key : PrivateKey}
    {settings : CASettings} {draw : Draw} {sessionId : Option String} {role : String}
    (h : (authority root).issueSessionCert settings draw sessionId role = .ok (cert, key)) :
    cert.publicKey = key.pair ∧ cert.subject.commonName = sessionCn sessionId role ∧
      cert.issuer = root.subject ∧ cert.signedBy = root.publicKey ∧ cert.ca = false ∧
      cert.extendedKeyUsage = some (roleUsage role) := by
  unfold CAService.issueSessionCert authority at h
  dsimp only at h
  obtain ⟨-, h⟩ := ite_error_eq_ok.mp h
  obtain ⟨rfl, rfl⟩ := Prod.mk.inj (Except.ok.inj h)
  exact ⟨rfl, rfl, rfl, rfl, rfl, rfl⟩

/-- What an endpoint serves was on file. -/
theorem getCloneCerts_eq_ok {pems : Pems} {ca : CAService} {db : DB} {sessionId role : String}
    {bundle : CloneCertBundle} (h : getCloneCerts pems ca db sessionId role = .ok bundle) :
    (role = "source" ∨ role = "target") ∧
    (∃ s ∈ db.sessions.rows, s.id = sessionId ∧
      s.certOf role = some (bundle.certPem, bundle.keyPem)) ∧
    ca.getCaCertPem pems = .ok bundle.caPem := by
  unfold getCloneCerts at h
  obtain ⟨hrole, h⟩ := ite_error_eq_ok.mp h
  split at h
  next => cases h
  next s hget =>
    obtain ⟨hs, hid⟩ := Table.get?_eq_some_iff.mp hget
    obtain ⟨-, h⟩ := ite_error_eq_ok.mp h
    obtain ⟨-, h⟩ := ite_error_eq_ok.mp h
    split at h
    next => cases h
    next certPem keyPem hcert =>
      obtain ⟨-, h⟩ := ite_error_eq_ok.mp h
      obtain ⟨caPem, hca, h⟩ := bind_eq_ok.mp h
      obtain rfl := Except.ok.inj h
      refine ⟨?_, ⟨s, hs, hid, hcert⟩, hca⟩
      by_contra hne
      exact hrole ⟨fun he => hne (.inl he), fun he => hne (.inr he)⟩

/-- **CLONE CERTIFICATES ARE TRUSTED.**  Whatever happened to a controller since its directory
and its database were empty: the certificate it serves belongs to the key served with it and
verifies, at every time at which both are in date, under the authority served with it; that is
the only authority its processes ever worked with; and the certificate names the session just
when it was issued by a start of the session. -/
theorem clone_certs_trusted (pems : Pems) (env : Env) (es : List Happening) :
    let s := run (Controller.exec pems env) {} es
    ∀ settings ca, s.process = some (settings, ca) → ∀ sessionId role bundle,
      getCloneCerts pems ca s.db sessionId role = .ok bundle →
      ∃ root cert key, pems.cert.load bundle.caPem = some root ∧
        pems.cert.load bundle.certPem = some cert ∧ pems.key.load bundle.keyPem = some key ∧
        cert.publicKey = key.pair ∧
        (∀ t, accepts root cert (roleUsage role) t = (root.inDate t && cert.inDate t)) ∧
        (∀ root' ∈ s.loaded, root' = root) ∧
        cert.subject.commonName
          = sessionCn (if (sessionId, role) ∈ s.named then some sessionId else none) role := by
  intro s settings ca hprocess sessionId role bundle hserved
  have h : ControllerInv pems s := controllerInv_run pems env es
  obtain ⟨hrole, ⟨session, hs, rfl, hcert⟩, hcaPem⟩ := getCloneCerts_eq_ok hserved
  obtain ⟨root, hroot, settings', draw, cert, key, hissued, hpair⟩ :=
    h.certs session hs role hrole _ hcert
  rw [if_congr List.contains_iff_mem rfl rfl] at hissued
  obtain ⟨hcertPem, hkeyPem⟩ := Prod.mk.inj hpair
  have hca : ca = authority root := by
    rcases h.process settings ca hprocess with rfl | ⟨root', hroot', rfl⟩
    · cases hcaPem
    · rw [h.one hroot' hroot]
  obtain rfl := hca
  have hcaPem' : pems.cert.dump root = bundle.caPem := Except.ok.inj hcaPem
  obtain ⟨hpublic, hname, hissuer, hsigned, hca, husage⟩ := issueSessionCert_eq_ok hissued
  obtain ⟨rootSettings, rootDraw, rfl⟩ := h.roots root hroot
  refine ⟨_, cert, key, hcaPem' ▸ pems.cert.load_dump _, hcertPem ▸ pems.cert.load_dump _,
    hkeyPem ▸ pems.key.load_dump _, hpublic, ?_, fun root' hroot' => h.one hroot' hroot, hname⟩
  intro t
  have hverifies : verifies (rootCert rootSettings rootDraw) cert (roleUsage role) = true := by
    unfold verifies
    rw [hissuer, hsigned, hca, husage]
    simp [rootCert]
  unfold accepts
  rw [hverifies, Bool.true_and]

/-- A controller that was started, two nodes, and a direct session that was created and
started. -/
def servedClone : List Happening :=
  .start {} ⟨1, 1, 0⟩ none
    :: (preparedClone ++ [(⟨⟨4, true⟩, .startCloneSession "s"⟩ : Request)]).map (fun r =>
      .request r (fun role => if role = "source" then ⟨2, 2, 60⟩ else ⟨3, 3, 60⟩) true)

theorem getCloneCerts_servedClone :
    ∃ bundle, getCloneCerts tallyPems (authority (rootCert {} ⟨1, 1, 0⟩))
      (run (Controller.exec tallyPems sqliteEnv) {} servedClone).db "s" "source" = .ok bundle := by
  let root := rootCert {} ⟨1, 1, 0⟩
  have hsession : ∃ s cert key,
      (run (Controller.exec tallyPems sqliteEnv) {} servedClone).db.sessions.get? "s" = some s ∧
      s.cloneMode = .direct ∧
      s.certOf "source" = some (tallyPems.cert.dump cert, tallyPems.key.dump key) :=
    ⟨_, _, _, rfl, rfl, rfl⟩
  obtain ⟨s, cert, key, hget, hmode, hcert⟩ := hsession
  have hempty : ¬ (tallyPems.cert.dump cert = "" ∨ tallyPems.key.dump key = "") :=
    not_or.mpr ⟨TextForm.tally_ne_empty cert, TextForm.tally_ne_empty key⟩
  refine ⟨⟨tallyPems.cert.dump cert, tallyPems.key.dump key, tallyPems.cert.dump root⟩, ?_⟩
  unfold getCloneCerts
  rw [if_neg (by decide), hget]
  dsimp only
  rw [if_neg (by simp [hmode]), if_neg (by decide), hcert]
  dsimp only
  rw [if_neg hempty]
  rfl

theorem clone_certs_trusted_started :
    ∃ bundle root cert key, getCloneCerts tallyPems (authority (rootCert {} ⟨1, 1, 0⟩))
        (run (Controller.exec tallyPems sqliteEnv) {} servedClone).db "s" "source" = .ok bundle ∧
      tallyPems.cert.load bundle.caPem = some root ∧
      tallyPems.cert.load bundle.certPem = some cert ∧
      tallyPems.key.load bundle.keyPem = some key ∧ cert.publicKey = key.pair ∧
      (∀ t, accepts root cert .serverAuth t = (root.inDate t && cert.inDate t)) ∧
      cert.subject.commonName = "clone-s-source" := by
  obtain ⟨bundle, hserved⟩ := getCloneCerts_servedClone
  obtain ⟨root, cert, key, hca, hcert, hkey, hpair, haccepts, -, hname⟩ :=
    clone_certs_trusted tallyPems sqliteEnv servedClone {} (authority (rootCert {} ⟨1, 1, 0⟩)) rfl
      "s" "source" bundle hserved
  have hnamed : ("s", "source")
      ∈ (run (Controller.exec tallyPems sqliteEnv) {} servedClone).named :=
    List.mem_cons_self
  rw [if_pos hnamed] at hname
  exact ⟨bundle, root, cert, key, hserved, hca, hcert, hkey, hpair, haccepts, hname⟩

/-! ## §9. When a controller cannot start. -/

/-- The process is killed before it has written anything. -/
def killedFirst : Option Cut → Bool
  | some ⟨.files, .killed⟩ => true
  | _ => false

/-- An operation on the files of the authority raises, and the start gets to it. -/
def CertDir.fails (dir : CertDir) : Option Cut → Bool
  | some ⟨.files, .raised _⟩ => true
  | some ⟨_, .raised _⟩ => dir.missing
  | _ => false

/-- The authority that the start has to make is refused its dates. -/
def CertDir.undated (dir : CertDir) (settings : CASettings) (draw : Draw) : Bool :=
  dir.missing && !datable draw.now settings.caValidity

/-- A process is started with its authority switched on, and gets to its files. -/
def Controller.tries (s : Controller) : Happening → Bool
  | .start settings _ cut => s.process.isNone && settings.enabled && !killedFirst cut
  | _ => false

/-- The start was ended by an exception. -/
def raised : CertDir × Except StartEnd CAService → Bool
  | (_, .error (.raised _)) => true
  | _ => false

/-- A process is started, and an exception ends it. -/
def Controller.raises (pems : Pems) (s : Controller) : Happening → Bool
  | .start settings draw cut =>
      s.process.isNone && raised (initialize_ pems settings draw cut s.dir)
  | _ => false

/-- An operation on the files raises. -/
def Controller.fails (s : Controller) : Happening → Bool
  | .start _ _ cut => s.dir.fails cut
  | _ => false

/-- There is no authority yet, and the settings give it dates that it cannot have. -/
def Controller.undated (s : Controller) : Happening → Bool
  | .start settings draw _ => s.dir.undated settings draw
  | _ => false

/-- A process is started, and is stopped while it writes the certificate of the authority. -/
def Controller.tears (pems : Pems) (s : Controller) : Happening → Bool
  | .start settings draw cut => s.process.isNone && s.dir.tornBy pems settings draw cut
  | _ => false

/-- The making of an authority raises just where its dates or the disk make it. -/
theorem generateCa_raises_iff {pems : Pems} {dir : CertDir} (hmissing : dir.missing = true)
    (settings : CASettings) (draw : Draw) {cut : Option Cut} (hfirst : killedFirst cut = false) :
    raised (generateCa pems settings draw cut dir) = true ↔
      dir.fails cut = true ∨ dir.undated settings draw = true := by
  unfold generateCa CertDir.undated
  rw [hmissing, Bool.true_and]
  split
  next hundated => simp [raised, hundated]
  next hdated =>
    rw [Bool.eq_true_of_not_eq_false hdated]
    cases cut with
    | none => simp [raised, CertDir.fails]
    | some cut =>
        obtain ⟨reached, ended⟩ := cut
        cases reached <;> cases ended <;>
          simp_all [raised, CertDir.fails, killedFirst]

/-- **WHEN A START RAISES**, with the authority switched on. -/
theorem initialize_raises_iff {pems : Pems} {dir : CertDir} {loaded : List Certificate}
    (h : DirOk pems dir loaded) {settings : CASettings} (hen : settings.enabled = true)
    (draw : Draw) {cut : Option Cut} (hfirst : killedFirst cut = false) :
    raised (initialize_ pems settings draw cut dir) = true ↔
      dir.fails cut = true ∨ dir.undated settings draw = true ∨ dir.torn pems = true := by
  by_cases hfiles : ∃ ended, cut = some ⟨.files, ended⟩
  · obtain ⟨ended, rfl⟩ := hfiles
    rw [initialize_files hen]
    cases ended with
    | killed => cases hfirst
    | raised e => simp [raised, CertDir.fails]
  rw [initialize_on hen hfiles]
  cases hcert : dir.caCert with
  | none =>
      have hmissing : dir.missing = true := by
        unfold CertDir.missing
        rw [hcert]
        rfl
      dsimp only
      rw [torn_of_none pems hcert, generateCa_raises_iff hmissing settings draw hfirst]
      simp
  | some certPem =>
      obtain ⟨root, keyPem, -, hkey, hkeyPem, hload⟩ := h.whole certPem hcert
      have hmissing : dir.missing = false := by
        unfold CertDir.missing
        rw [hcert, hkey]
        rfl
      have hfails : dir.fails cut = false := by
        unfold CertDir.fails
        split
        next e => exact absurd ⟨_, rfl⟩ hfiles
        next => exact hmissing
        next => rfl
      have hundated : dir.undated settings draw = false := by
        unfold CertDir.undated
        rw [hmissing, Bool.false_and]
      rw [hkey, hfails, hundated, torn_of_some hcert]
      unfold loadCa
      dsimp only
      rw [hkeyPem]
      dsimp only
      rcases hload with hload | hload <;> simp [hload, raised]

/-- What a happening meets that makes a start raise. -/
theorem raises_iff {pems : Pems} {s : Controller} (h : ControllerInv pems s) (e : Happening) :
    s.raises pems e = true ↔ s.tries e = true ∧
      (s.fails e = true ∨ s.undated e = true ∨ s.dir.torn pems = true) := by
  cases e with
  | start settings draw cut =>
      show (s.process.isNone && raised (initialize_ pems settings draw cut s.dir)) = true ↔
        (s.process.isNone && settings.enabled && !killedFirst cut) = true ∧
          (s.dir.fails cut = true ∨ s.dir.undated settings draw = true ∨ _)
      rw [Bool.and_eq_true, Bool.and_assoc, Bool.and_eq_true, and_assoc]
      refine and_congr_right (fun _ => ?_)
      by_cases hen : settings.enabled = true
      · rw [hen, Bool.true_and]
        cases hfirst : killedFirst cut with
        | false =>
            rw [initialize_raises_iff h.dir hen draw hfirst]
            simp
        | true =>
            obtain rfl : cut = some ⟨.files, .killed⟩ := by
              unfold killedFirst at hfirst
              split at hfirst
              next => rfl
              next => cases hfirst
            simp [initialize_, hen, raised]
      · simp [initialize_, hen, raised]
  | stop => simp [Controller.raises, Controller.tries]
  | request r draws commits => simp [Controller.raises, Controller.tries]

/-- **ONE HAPPENING**: nothing repairs the certificate, and only a stopped start tears it. -/
theorem torn_exec {pems : Pems} (env : Env) {s : Controller} (h : ControllerInv pems s)
    (e : Happening) :
    (s.exec pems env e).dir.torn pems = true ↔
      s.dir.torn pems = true ∨ s.tears pems e = true := by
  cases e with
  | start settings draw cut =>
      cases hprocess : s.process with
      | some p =>
          show _ ↔ _ ∨ (s.process.isNone && _) = true
          unfold Controller.exec
          dsimp only
          rw [hprocess]
          simp
      | none =>
          rw [exec_start_cases hprocess]
          show _ ↔ _ ∨ (s.process.isNone && s.dir.tornBy pems settings draw cut) = true
          rw [hprocess, Option.isNone_none, Bool.true_and]
          have hstep := initialize_step h.dir settings draw cut
          generalize initialize_ pems settings draw cut s.dir = out at hstep ⊢
          generalize s.dir.tornBy pems settings draw cut = tears at hstep ⊢
          cases hstep with
          | off _ htears => simp [htears]
          | loads htears _ _ => simp [htears]
          | generates htears _ htorn htorn' _ => simp [htears, htorn, htorn']
          | stopped _ htorn => exact htorn
  | stop => simp [Controller.exec, Controller.tears]
  | request r draws commits =>
      have hdir : (s.exec pems env (.request r draws commits)).dir = s.dir := by
        unfold Controller.exec
        dsimp only
        split
        next => rfl
        next => split_ifs <;> rfl
      rw [hdir]
      simp [Controller.tears]

/-- **WHEN A CONTROLLER CANNOT START.**  A start that is not killed before it has written anything
raises just when its authority is switched on and an operation on its files fails, or there
is no authority yet and its dates are refused, or an earlier start, at any time before, was
stopped while it wrote the certificate of the authority. -/
theorem ca_start_raises_iff (pems : Pems) (env : Env) (es : List Happening) (e : Happening) :
    let s := run (Controller.exec pems env) {} es
    s.raises pems e = true ↔ s.tries e = true ∧
      (s.fails e = true ∨ s.undated e = true ∨
        ¬ Along (Controller.exec pems env) (fun s e => ¬ s.tears pems e = true) {} es) := by
  intro s
  have hkeep : ∀ (s : Controller) (e : Happening), ControllerInv pems s →
      ControllerInv pems (s.exec pems env e) := fun s e h => h.exec env s e
  have hlatch : ∀ (s : Controller) (e : Happening), ControllerInv pems s →
      ((s.exec pems env e).dir.torn pems = true ↔
        s.dir.torn pems = true ∨ s.tears pems e = true) := fun s e h => torn_exec env h e
  have htorn := run_latch (P := fun s => s.dir.torn pems = true) hkeep hlatch es
    (controllerInv_start pems)
  have hstart : ¬ ({} : Controller).dir.torn pems = true := by
    rw [torn_of_none pems rfl]
    exact Bool.false_ne_true
  rw [raises_iff (controllerInv_run pems env es) e, htorn, or_iff_right hstart]

end PureBoot.Lifecycle
