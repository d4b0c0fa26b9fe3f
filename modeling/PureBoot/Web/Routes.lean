/-
  PureBoot.Web.Routes — route PATTERNS and the gate in front of them.

  A route is a pattern of components: a literal, a parameter `{x}` that stands for one
  component, or a parameter `{x:path}` that stands for any number of them.  A pattern
  is written as in the decorators of `api/routes` and read by `parsePattern`; matching
  follows the regular expression the framework makes of it, whose `$` also accepts a
  newline at the end.

  The gate looks at another path than the routes do: a `?` in the text of a parameter ends
  the path that the gate sees, so a parameter opens its route wherever it stands.

  Main results:
    * `routeMatches_lits` — a pattern without parameters takes one path;
    * `route_gate_iff` — the gate protects a route exactly if its pattern has no parameters
      and does not end like a static file.
-/
import PureBoot.Lib.Posix
import PureBoot.Web.Auth

namespace PureBoot.Web

open PureBoot.Lib

/-! ## §1. Patterns. -/

inductive Segment where
  | lit (text : List Char)
  /-- `{x}`. -/
  | param
  /-- `{x:path}`. -/
  | path
  deriving DecidableEq

/-- A component of a pattern, as it is written. -/
def parseSegment (text : List Char) : Segment :=
  if "\x7b".toList <+: text then
    if ":path\x7d".toList <:+ text then .path else .param
  else .lit text

/-- The pattern of a route, without the slash it begins with. -/
def parsePattern (text : String) : List Segment :=
  (text.toList.drop 1).splitOn '/' |>.map parseSegment

def matchComponents : List Segment → List (List Char) → Bool
  | [], [] => true
  | .lit t :: ps, c :: cs => c = t && matchComponents ps cs
  | .param :: ps, c :: cs => c ≠ [] && matchComponents ps cs
  | .path :: ps, _ :: cs => matchComponents ps cs || matchComponents (.path :: ps) cs
  | _, _ => false

/-- The path of a request without the slash it begins with, in components. -/
def matchPath (pattern : List Segment) : List Char → Bool
  | '/' :: rest => matchComponents pattern (rest.splitOn '/')
  | _ => false

/-- The route takes the path. -/
def routeMatches (pattern : List Segment) (path : List Char) : Bool :=
  endsLine (matchPath pattern) path

/-! ## §2. What a pattern takes. -/

/-- The components of a text, each behind its slash. -/
theorem cons_intercalate : ∀ {cs : List (List Char)}, cs ≠ [] →
    '/' :: ['/'].intercalate cs = flat '/' cs := by
  intro cs
  induction cs with
  | nil => intro h; exact absurd rfl h
  | cons c cs ih =>
      intro _
      cases cs with
      | nil => simp [flat]
      | cons d ds =>
          have hrest := ih (List.cons_ne_nil d ds)
          rw [flat_cons, ← hrest]
          simp [List.intercalate]

theorem flat_splitOn (rest : List Char) : flat '/' (rest.splitOn '/') = '/' :: rest := by
  rw [← cons_intercalate (List.splitOn_ne_nil '/' rest), List.intercalate_splitOn]

theorem matchComponents_nil {cs : List (List Char)} : matchComponents [] cs = true ↔ cs = [] := by
  cases cs <;> simp [matchComponents]

theorem matchComponents_lit_cons {t : List Char} {ps : List Segment} {cs : List (List Char)} :
    matchComponents (.lit t :: ps) cs = true ↔
      ∃ rest, cs = t :: rest ∧ matchComponents ps rest = true := by
  cases cs <;> simp [matchComponents, and_assoc]

/-- Components that match literals are the literals. -/
theorem matchComponents_lits : ∀ {ts cs : List (List Char)},
    matchComponents (ts.map Segment.lit) cs = true → cs = ts := by
  intro ts
  induction ts with
  | nil =>
      intro cs h
      exact matchComponents_nil.mp h
  | cons t ts ih =>
      intro cs h
      obtain ⟨rest, rfl, hrest⟩ := matchComponents_lit_cons.mp h
      rw [ih hrest]

/-- The paths that a route takes, by their components. -/
theorem components_of_routeMatches {pattern : List Segment} {path : List Char}
    (h : routeMatches pattern path = true) : ∃ cs, matchComponents pattern cs = true ∧
      (path = flat '/' cs ∨ path = flat '/' cs ++ ['\n']) := by
  obtain ⟨s, hs, hpath⟩ := endsLine_iff.mp h
  unfold matchPath at hs
  split at hs
  next rest =>
    refine ⟨rest.splitOn '/', hs, ?_⟩
    rw [flat_splitOn]
    exact hpath
  next => cases hs

/-- **A ROUTE WITHOUT PARAMETERS TAKES ONE PATH**, and that path with a newline. -/
theorem routeMatches_lits {ts : List (List Char)} {path : List Char}
    (h : routeMatches (ts.map Segment.lit) path = true) :
    path = flat '/' ts ∨ path = flat '/' ts ++ ['\n'] := by
  obtain ⟨cs, hcs, hpath⟩ := components_of_routeMatches h
  rw [matchComponents_lits hcs] at hpath
  exact hpath

/-! ## §3. The gate in front of a route. -/

/-- A text for a segment of a pattern. -/
def Segment.sample : Segment → List Char
  | .lit t => t
  | _ => "x.png?".toList

theorem map_sample_lit (ts : List (List Char)) :
    (ts.map Segment.lit).map Segment.sample = ts := by
  rw [List.map_map]
  exact List.map_id ts

theorem matchComponents_sample : ∀ ps : List Segment,
    matchComponents ps (ps.map Segment.sample) = true := by
  intro ps
  induction ps with
  | nil => rfl
  | cons p ps ih =>
      cases p with
      | lit t => simp [matchComponents, Segment.sample, ih]
      | param => simp [matchComponents, Segment.sample, ih]
      | path => simp [matchComponents, Segment.sample, ih]

/-- The literals of the pattern have no slash, and nothing that ends a path. -/
def PlainLiterals (ps : List Segment) : Prop := ∀ t, .lit t ∈ ps → '/' ∉ t ∧ Clean t

/-- A path that the route takes. -/
theorem routeMatches_sample {ps : List Segment} (hne : ps ≠ []) (hplain : PlainLiterals ps) :
    routeMatches ps (flat '/' (ps.map Segment.sample)) = true := by
  have hslash : ∀ v ∈ ps.map Segment.sample, '/' ∉ v := by
    intro v hv
    obtain ⟨p, hp, rfl⟩ := List.mem_map.mp hv
    cases p with
    | lit t => exact (hplain t hp).1
    | param => decide
    | path => decide
  have hvalues : ps.map Segment.sample ≠ [] := by
    intro hnil
    exact hne (List.map_eq_nil_iff.mp hnil)
  refine endsLine_iff.mpr ⟨_, ?_, .inl rfl⟩
  rw [← cons_intercalate hvalues]
  show matchComponents ps ((['/'].intercalate (ps.map Segment.sample)).splitOn '/') = true
  rw [List.splitOn_intercalate '/' hslash hvalues]
  exact matchComponents_sample ps

/-- A pattern without parameters takes its own text. -/
theorem routeMatches_flat {ts : List (List Char)} (hne : ts ≠ [])
    (hplain : PlainLiterals (ts.map Segment.lit)) :
    routeMatches (ts.map Segment.lit) (flat '/' ts) = true := by
  have hsample := routeMatches_sample (mt List.map_eq_nil_iff.mp hne) hplain
  rw [map_sample_lit] at hsample
  exact hsample

/-- The components of a path are clean, and so is the path. -/
theorem clean_flat {cs : List (List Char)} (h : ∀ c ∈ cs, Clean c) : Clean (flat '/' cs) := by
  intro c hc
  unfold flat at hc
  obtain ⟨t, ht, hc⟩ := List.mem_flatMap.mp hc
  rcases List.mem_cons.mp hc with rfl | hc
  · decide
  · exact h t ht c hc

/-- The path of a request for components that are not none begins with a slash. -/
theorem pathOf_flat (host : Authority) {cs : List (List Char)} (hne : cs ≠ [])
    (rest : List Char) :
    pathOf (host.text ++ (flat '/' cs ++ rest)) = cutQuery (dropNoise (flat '/' cs ++ rest)) := by
  obtain ⟨c, cs, rfl⟩ := List.exists_cons_of_ne_nil hne
  rw [flat_cons]
  exact pathOf_authority host _

/-- **A PARAMETER OPENS ITS ROUTE**: the gate sees the path up to the text of the parameter. -/
theorem isPublicPath_parameter (host : Authority) {ts : List (List Char)}
    (hclean : ∀ t ∈ ts, Clean t) (rest : List (List Char)) :
    isPublicPath (pathOf (host.text ++ flat '/' (ts ++ "x.png?".toList :: rest))) = true := by
  have hsplit : flat '/' (ts ++ "x.png?".toList :: rest)
      = flat '/' (ts ++ ["x.png".toList]) ++ ('?' :: flat '/' rest) := by
    simp [flat]
  have hfront : Clean (flat '/' (ts ++ ["x.png".toList])) := by
    refine clean_flat (fun c hc => ?_)
    rcases List.mem_append.mp hc with hc | hc
    · exact hclean c hc
    · rw [List.mem_singleton.mp hc]
      decide
  have hne : ts ++ ["x.png".toList] ≠ [] := List.concat_ne_nil _ _
  rw [hsplit, pathOf_flat host hne, hfront.cut_append]
  apply isPublicPath_of_extension
  refine hasPublicExtension_iff.mpr ⟨".png".toList, by decide, ?_⟩
  refine ⟨flat '/' ts ++ "/x".toList, ?_⟩
  simp [flat, cutQuery, dropNoise, isNoise]

/-- The first segment that is no literal. -/
theorem exists_first_parameter : ∀ {ps : List Segment}, (∃ p ∈ ps, ∀ t, p ≠ .lit t) →
    ∃ ts p rest, ps = List.map Segment.lit ts ++ p :: rest ∧ p.sample = "x.png?".toList := by
  intro ps
  induction ps with
  | nil => exact fun ⟨p, hp, _⟩ => absurd hp List.not_mem_nil
  | cons q ps ih =>
      rintro ⟨p, hp, hparam⟩
      cases q with
      | param => exact ⟨[], _, ps, rfl, rfl⟩
      | path => exact ⟨[], _, ps, rfl, rfl⟩
      | lit t =>
          have hrest : p ∈ ps := (List.mem_cons.mp hp).resolve_left (hparam t)
          obtain ⟨ts, p, rest, rfl, hsample⟩ := ih ⟨p, hrest, hparam⟩
          exact ⟨t :: ts, p, rest, rfl, hsample⟩

/-- **THE GATE PROTECTS A ROUTE, EXACTLY IF** its pattern has no parameter and does not end
like a static file: for every other one there are texts for the parameters that open it. -/
theorem route_gate_iff (env : AuthEnv) (db : AuthDb) (host : Authority) {ps : List Segment}
    (hne : ps ≠ []) (hplain : PlainLiterals ps)
    (hprotected : ∀ path, routeMatches ps path = true → Protected path) :
    (∀ r : Request, r.host = host.text → routeMatches ps r.path = true → ∀ who,
      (dispatch env db r).1 = .passed who → CarriesToken env db r) ↔
        ∃ ts, ps = List.map Segment.lit ts ∧ hasPublicExtension (flat '/' ts) = false := by
  constructor
  · intro hgate
    have htakes := routeMatches_sample hne hplain
    -- the sample path is closed, or a request without a header would pass
    have hclosed := (auth_gate_iff env db host.text _).mp
      (fun r hhost hpath => hgate r hhost (hpath ▸ htakes))
    by_cases hparam : ∃ p ∈ ps, ∀ t, p ≠ .lit t
    · obtain ⟨ts, p, rest, rfl, hsample⟩ := exists_first_parameter hparam
      have hclean : ∀ t ∈ ts, Clean t := fun t ht =>
        (hplain t (List.mem_append_left _ (List.mem_map_of_mem ht))).2
      have hvalues : List.map Segment.sample (List.map Segment.lit ts ++ p :: rest)
          = ts ++ "x.png?".toList :: rest.map Segment.sample := by
        rw [List.map_append, map_sample_lit, List.map_cons, hsample]
      rw [hvalues, isPublicPath_parameter host hclean] at hclosed
      cases hclosed
    · push Not at hparam
      have hlits : ps = List.map Segment.lit (ps.map Segment.sample) := by
        rw [List.map_map, List.map_congr_left (g := id), List.map_id]
        intro p hp
        obtain ⟨t, rfl⟩ := hparam p hp
        rfl
      have hvalues : Clean (flat '/' (ps.map Segment.sample)) := by
        refine clean_flat (fun c hc => ?_)
        obtain ⟨p, hp, rfl⟩ := List.mem_map.mp hc
        obtain ⟨t, rfl⟩ := hparam p hp
        exact (hplain t hp).2
      rw [isPublicPath_clean (hprotected _ htakes) hvalues] at hclosed
      exact ⟨_, hlits, hclosed⟩
  · rintro ⟨ts, rfl, hclosed⟩ r hhost hr who hpassed
    refine carriesToken_of_passed ?_ hpassed
    have hclean : Clean (flat '/' ts) :=
      clean_flat (fun t ht => (hplain t (List.mem_map_of_mem ht)).2)
    have hnonempty : ts ≠ [] := fun hnil => hne (by rw [hnil]; rfl)
    have hpath : isPublicPath (pathOf (host.text ++ flat '/' ts))
        = hasPublicExtension (flat '/' ts) :=
      isPublicPath_clean (hprotected _ (routeMatches_flat hnonempty hplain)) hclean
    unfold Request.urlPath
    rw [hhost]
    -- the newline that the route accepts is removed before the gate looks
    rcases routeMatches_lits hr with hend | hend
    · rw [hend, hpath]
      exact hclosed
    · have hline : pathOf (host.text ++ (flat '/' ts ++ ['\n']))
          = pathOf (host.text ++ flat '/' ts) := by
        have hplainPath := pathOf_flat host hnonempty []
        rw [List.append_nil, hclean.cut_eq] at hplainPath
        rw [pathOf_flat host hnonempty, hclean.cut_append, hplainPath]
        exact List.append_nil _
      rw [hend, hline, hpath]
      exact hclosed

end PureBoot.Web
