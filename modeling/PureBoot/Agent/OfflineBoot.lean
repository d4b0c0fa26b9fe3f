/-
  PureBoot.Agent.OfflineBoot — what a machine is told to do while its site is OFFLINE.

  Embeds `OfflineBootGenerator` of `agent/offline_boot.py`, with the scripts that
  `AgentBootService` makes itself.  A script is a text that is put together from lines.  The
  MAC address of the request, the id of the site and a state that the generator does not
  know are put into it as they are.

  The orders of a script are read off its text, as iPXE reads it: remarks and `echo` do
  nothing, and `||`, `&&` and `;` end a command.

  Main results:
    * `orders_generateScript` — what a script orders, line by line;
    * `offline_answers_boot_locally` — every answer that is not central's waits, boots from
      the local disk and ends, apart from what the texts put into it order.
-/
import PureBoot.Agent.BootService
import PureBoot.Agent.StateCache
import PureBoot.Agent.StoredTimes
import PureBoot.Lib.Commands

namespace PureBoot.Agent

open PureBoot.Lib PureBoot.Lifecycle

/-! ## §1. iPXE. -/

/-- How iPXE reads a script. -/
def ipxe : Dialect where
  isBlank c := c = ' ' || c = '\t' || c = '\r'
  isRemark w := w.head? = some '#'
  isEnd w := w = "||".toList || w = "&&".toList || w = ";".toList
  isMute w := w = "echo".toList

/-- What a script orders. -/
def orders (script : String) : List (List (List Char)) := ipxe.commands script

/-! ## §2. The generator. -/

/-- `default_action`. -/
inductive DefaultAction where
  | localBoot
  | discovery
  | lastKnown
  deriving DecidableEq, Repr

/-- `OfflineBootGenerator`, without its caches. -/
structure OfflineBootGenerator where
  siteId : String
  defaultAction : DefaultAction := .localBoot
  offlineSince : Option Datetime := none

/-- `%Y-%m-%d %H:%M:%S UTC`. -/
def stampFormat : List Field :=
  [⟨4, ['-']⟩, ⟨2, ['-']⟩, ⟨2, [' ']⟩, ⟨2, [':']⟩, ⟨2, [':']⟩, ⟨2, [' ', 'U', 'T', 'C']⟩]

/-- `t.strftime("%Y-%m-%d %H:%M:%S UTC")`. -/
def stamp (t : Datetime) : String := String.ofList (spell stampFormat t.toMoment.fields)

/-- `get_node`; the time in a row may not parse. -/
def NodesTable.getNode (t : NodesTable) (mac : String) :
    Except Raised (Option (TimedNode Datetime)) :=
  match t.get? (normalizeMac mac) with
  | none => .ok none
  | some row =>
      match rowToNode row with
      | some node => .ok (some node)
      | none => .error .valueError

/-- The last lines of a script. -/
def lastLines (seconds : Nat) (disk : Bool) : List String :=
  ["sleep " ++ toString seconds, if disk then "sanboot --drive 0x80 || exit" else "exit"]

/-- What the generator does with a state. -/
structure StateCase where
  echoes : List String
  seconds : Nat
  disk : Bool := true
  known : Bool := true

/-- The states, as `_generate_cached_script` takes them apart. -/
def stateCase (state : String) : StateCase :=
  if state = "discovered" ∨ state = "pending" then
    { echoes := ["echo   Node is in '" ++ state ++ "' state.",
        "echo   Cannot provision while offline.", "echo   Booting from local disk..."],
      seconds := 5 }
  else if state = "installing" then
    { echoes := ["echo   *** WARNING ***", "echo   Node was in '" ++ state
          ++ "' state when offline began.",
        "echo   Cannot continue installation without central.",
        "echo   Booting from local disk (installation may be incomplete)."],
      seconds := 10 }
  else if state = "installed" ∨ state = "active" then
    { echoes := ["echo   Node is in '" ++ state ++ "' state.", "echo   Booting from local disk..."],
      seconds := 3 }
  else if state = "reprovision" then
    { echoes := ["echo   Node is marked for reprovisioning.",
        "echo   Cannot reprovision while offline.", "echo   Booting from local disk..."],
      seconds := 5 }
  else if state = "retired" then
    { echoes := ["echo   Node is retired.", "echo   No boot action configured."],
      seconds := 3, disk := false }
  else
    { echoes := ["echo   Unknown node state: " ++ state, "echo   Booting from local disk..."],
      seconds := 3, known := false }

namespace OfflineBootGenerator

variable (g : OfflineBootGenerator)

/-- `_script_header`. -/
def scriptHeader (mac : String) : List String :=
  ["#!ipxe", "# PureBoot Site Agent - OFFLINE MODE", "# MAC: " ++ mac, "# Site: " ++ g.siteId,
    "", "echo", "echo *** PureBoot Site Agent - OFFLINE ***", "echo",
    "echo   Central controller is unreachable.", "echo   Operating from cached state.", "echo"]

/-- `_get_offline_info`: hours and minutes are rounded down. -/
def getOfflineInfo (now : Datetime) : String :=
  match g.offlineSince with
  | some since =>
      let duration : Int := (now.micros : Int) - since.micros
      "# Offline Since: " ++ stamp since ++ " (" ++ toString (duration / 3600000000) ++ "h "
        ++ toString (duration % 3600000000 / 60000000) ++ "m)"
  | none => "# Offline Duration: Unknown"

/-- `_generate_cached_script`. -/
def generateCachedScript (node : TimedNode Datetime) (now : Datetime) : List String :=
  let c := stateCase node.state
  g.scriptHeader node.macAddress
    ++ ["", "# Cached State: " ++ node.state ++ (if c.known then "" else " (unknown)"),
      "# Cached At: " ++ stamp node.cachedAt, g.getOfflineInfo now, ""]
    ++ c.echoes ++ ["echo", ""] ++ lastLines c.seconds c.disk

/-- `_generate_discovery_script`. -/
def generateDiscoveryScript (mac : String) (now : Datetime) : List String :=
  g.scriptHeader mac ++ ["", "# Discovery Mode (Offline)", g.getOfflineInfo now, "",
    "echo   Running offline discovery...", "echo", "echo   MAC Address: " ++ mac,
    "echo   Vendor: $\x7bmanufacturer:undef\x7d", "echo   Model: $\x7bproduct:undef\x7d",
    "echo   Serial: $\x7bserial:undef\x7d", "echo   UUID: $\x7buuid:undef\x7d", "echo",
    "echo   Discovery data will be synced when online.", "echo   Booting from local disk...",
    "echo", ""] ++ lastLines 10 true

/-- The script for local boot that ends `_generate_unknown_script`. -/
def unregisteredScript (mac : String) (now : Datetime) : List String :=
  g.scriptHeader mac ++ ["", "# Node not in cache", g.getOfflineInfo now, "",
    "echo   This node is not registered.", "echo   Cannot register while offline.",
    "echo   Booting from local disk...", "echo", ""] ++ lastLines 5 true

/-- `_generate_unknown_script`; the cache is read again. -/
def generateUnknownScript (cache : NodesTable) (mac : String) (now : Datetime) :
    Except Raised (List String) :=
  match g.defaultAction with
  | .discovery => .ok (g.generateDiscoveryScript mac now)
  | .lastKnown =>
      match cache.getNode mac with
      | .error e => .error e
      | .ok (some node) => .ok (g.generateCachedScript node now)
      | .ok none => .ok (g.unregisteredScript mac now)
  | .localBoot => .ok (g.unregisteredScript mac now)

/-- `generate_script`; `later` is the cache when it is read again. -/
def generateScript (cache later : NodesTable) (mac : String) (now : Datetime) :
    Except Raised String :=
  let mac := normalizeMac mac
  match cache.getNode mac with
  | .error e => .error e
  | .ok (some node) => .ok (endLines (g.generateCachedScript node now))
  | .ok none => (g.generateUnknownScript later mac now).map endLines

end OfflineBootGenerator

/-! ## §3. The scripts of the boot service. -/

/-- `_generate_fallback_script`. -/
def generateFallbackScript (siteId mac : String) : String :=
  endLines ["#!ipxe", "# PureBoot Agent - Central Error", "# MAC: " ++ mac, "# Site: " ++ siteId,
    "", "echo", "echo *** PureBoot Site Agent ***", "echo",
    "echo   Central controller returned an error.", "echo   Booting from local disk...", "echo",
    "sleep 3", "exit"]

/-- `_generate_offline_script`. -/
def generateOfflineScript (siteId mac : String) : String :=
  endLines ["#!ipxe", "# PureBoot Agent - Offline Mode", "# MAC: " ++ mac, "# Site: " ++ siteId,
    "", "echo", "echo *** PureBoot Site Agent - Offline ***", "echo",
    "echo   Cannot reach central controller.", "echo   Site agent is operating in offline mode.",
    "echo   Booting from local disk...", "echo", "sleep 5", "exit"]

/-- The text that is sent for an answer; a script of the generator is what it made, and an
exception leaves none. -/
def BootAnswer.text (siteId mac : String) (made : Except Raised String) :
    BootAnswer → Option String
  | .central script => some (String.ofList script)
  | .fallback => some (generateFallbackScript siteId mac)
  | .generated => made.toOption
  | .offline => some (generateOfflineScript siteId mac)
  | .raised => none

/-! ## §4. What lines order. -/

/-- The orders that end a script. -/
def ending (seconds : Nat) (disk : Bool) : List (List (List Char)) :=
  ["sleep".toList, (toString seconds).toList]
    :: (if disk then [["sanboot".toList, "--drive".toList, "0x80".toList]] else [])
    ++ [["exit".toList]]

/-- What lines order. -/
def lineOrders (lines : List String) : List (List (List Char)) := lines.flatMap orders

theorem lineOrders_append (a b : List String) :
    lineOrders (a ++ b) = lineOrders a ++ lineOrders b := List.flatMap_append

theorem lineOrders_cons (line : String) (lines : List String) :
    lineOrders (line :: lines) = orders line ++ lineOrders lines := List.flatMap_cons

theorem lineOrders_nil : lineOrders [] = [] := rfl

theorem orders_endLines (lines : List String) : orders (endLines lines) = lineOrders lines :=
  ipxe.commands_endLines lines

/-- What lines that are spelled out order. -/
theorem lineOrders_spelled (lines : List (List Char)) :
    lineOrders (lines.map String.ofList) = lines.flatMap ipxe.ofText :=
  ipxe.flatMap_commands_ofList lines

theorem orders_spelled (line : List Char) : orders (String.ofList line) = ipxe.ofText line :=
  ipxe.commands_ofList line

/-- A remark without a line break. -/
theorem orders_remark {text : String} (h : '\n' ∉ text.toList) : orders ("# " ++ text) = [] := by
  have hline : ("# " ++ text) = "#" ++ " " ++ text := rfl
  unfold orders
  rw [hline]
  exact Dialect.commands_remark "#" (w := ['#']) rfl rfl rfl (by decide) h

theorem notMem_stamp (t : Datetime) : '\n' ∉ (stamp t).toList := by
  have hdigit : ∀ d < 10, Nat.digitChar d ≠ '\n' := by decide
  have hafter : ∀ f ∈ stampFormat, ∀ c ∈ f.after, c ≠ '\n' := by
    have hall : stampFormat.all (fun f => f.after.all (fun c => c ≠ '\n')) = true := rfl
    simpa using hall
  unfold stamp
  rw [String.toList_ofList]
  intro h
  exact forall_mem_spell hdigit hafter _ '\n' h rfl

theorem notMem_repr (n : Int) : '\n' ∉ n.repr.toList := by
  have hnat : ∀ m : Nat, '\n' ∉ m.repr.toList := by
    intro m h
    rw [Nat.toList_repr] at h
    exact absurd (Nat.isDigit_of_mem_toDigits (by decide) (le_refl 10) h) (by decide)
  cases n with
  | ofNat m => exact hnat m
  | negSucc m =>
      show '\n' ∉ ("-" ++ (m + 1).repr).toList
      rw [String.toList_append, List.mem_append, not_or]
      exact ⟨by decide, hnat (m + 1)⟩

theorem notMem_append {a b : String} (ha : '\n' ∉ a.toList) (hb : '\n' ∉ b.toList) :
    '\n' ∉ (a ++ b).toList := by
  rw [String.toList_append, List.mem_append, not_or]
  exact ⟨ha, hb⟩

section Lines

variable (g : OfflineBootGenerator) (now : Datetime)

theorem orders_getOfflineInfo : orders (g.getOfflineInfo now) = [] := by
  unfold OfflineBootGenerator.getOfflineInfo
  split
  next since _ =>
    dsimp only
    have hassoc : ∀ a b c : String, "# Offline Since: " ++ a ++ " (" ++ b ++ "h " ++ c ++ "m)"
        = "# " ++ ("Offline Since: " ++ a ++ " (" ++ b ++ "h " ++ c ++ "m)") := by
      intro a b c
      have hhead : "# Offline Since: " = "# " ++ "Offline Since: " := rfl
      rw [hhead]
      simp only [String.append_assoc]
    rw [hassoc]
    refine orders_remark ?_
    refine notMem_append (notMem_append (notMem_append (notMem_append (notMem_append
      (notMem_append ?_ (notMem_stamp since)) ?_) (notMem_repr _)) ?_) (notMem_repr _)) ?_
    all_goals decide
  next => exact (orders_spelled _).trans rfl

theorem orders_cachedAt (t : Datetime) : orders ("# Cached At: " ++ stamp t) = [] := by
  have hline : "# Cached At: " ++ stamp t = "# " ++ ("Cached At: " ++ stamp t) := by
    rw [← String.append_assoc]
    rfl
  rw [hline]
  exact orders_remark (notMem_append (by decide) (notMem_stamp t))

/-- The lines of the header that a text from outside is put into. -/
def OfflineBootGenerator.headerTexts (mac : String) : List String :=
  ["# MAC: " ++ mac, "# Site: " ++ g.siteId]

theorem lineOrders_scriptHeader (mac : String) :
    lineOrders (g.scriptHeader mac) = lineOrders (g.headerTexts mac) := by
  have hbegin : lineOrders ["#!ipxe", "# PureBoot Site Agent - OFFLINE MODE"] = [] :=
    (lineOrders_spelled [_, _]).trans rfl
  have hbanner : lineOrders ["", "echo", "echo *** PureBoot Site Agent - OFFLINE ***", "echo",
      "echo   Central controller is unreachable.", "echo   Operating from cached state.",
      "echo"] = [] :=
    (lineOrders_spelled [_, _, _, _, _, _, _]).trans rfl
  have hlines : g.scriptHeader mac = ["#!ipxe", "# PureBoot Site Agent - OFFLINE MODE"]
      ++ (g.headerTexts mac ++ ["", "echo", "echo *** PureBoot Site Agent - OFFLINE ***", "echo",
        "echo   Central controller is unreachable.", "echo   Operating from cached state.",
        "echo"]) := rfl
  rw [hlines, lineOrders_append, lineOrders_append, hbegin, hbanner, List.append_nil,
    List.nil_append]

/-- The states that the generator knows. -/
def knownStates : List String :=
  ["discovered", "pending", "installing", "installed", "active", "reprovision", "retired"]

theorem stateCase_unknown {state : String} (h : state ∉ knownStates) :
    stateCase state =
      { echoes := ["echo   Unknown node state: " ++ state, "echo   Booting from local disk..."],
        seconds := 3, known := false } := by
  unfold knownStates at h
  simp only [List.mem_cons, List.not_mem_nil, or_false, not_or] at h
  unfold stateCase
  simp [h]

/-- The lines for a state that a text from outside is put into. -/
def stateTexts (state : String) : List String :=
  if state ∈ knownStates then []
  else ["# Cached State: " ++ state ++ " (unknown)", "echo   Unknown node state: " ++ state]

theorem orders_around (a t c : List Char) :
    orders (String.ofList a ++ String.ofList t ++ String.ofList c) = ipxe.ofText (a ++ t ++ c) :=
  ipxe.commands_ofList_append a t c

/-- The line about the state that a node is in. -/
theorem orders_nodeIs {state : String}
    (h : (state = "discovered" ∨ state = "pending") ∨ state = "installed" ∨ state = "active") :
    orders ("echo   Node is in '" ++ state ++ "' state.") = [] := by
  rcases h with (rfl | rfl) | rfl | rfl
  · exact (orders_around _ _ _).trans rfl
  · exact (orders_around _ _ _).trans rfl
  · exact (orders_around _ _ _).trans rfl
  · exact (orders_around _ _ _).trans rfl

theorem orders_nodeWas :
    orders ("echo   Node was in '" ++ "installing" ++ "' state when offline began.") = [] :=
  (orders_around _ _ _).trans rfl

/-- What is said about a state that is known orders nothing. -/
theorem lineOrders_echoes {state : String} (h : state ∈ knownStates) :
    lineOrders (stateCase state).echoes = [] := by
  have hboot : lineOrders ["echo   Booting from local disk..."] = [] :=
    (lineOrders_spelled [_]).trans rfl
  have hprovision : lineOrders ["echo   Cannot provision while offline.",
      "echo   Booting from local disk..."] = [] :=
    (lineOrders_spelled [_, _]).trans rfl
  have hwarning : orders "echo   *** WARNING ***" = [] :=
    (orders_spelled _).trans rfl
  have hcontinue : lineOrders ["echo   Cannot continue installation without central.",
      "echo   Booting from local disk (installation may be incomplete)."] = [] :=
    (lineOrders_spelled [_, _]).trans rfl
  unfold stateCase
  split
  next hstate => rw [lineOrders_cons, orders_nodeIs (.inl hstate), hprovision, List.append_nil]
  next =>
    split
    next hstate =>
      rw [hstate, lineOrders_cons, hwarning, lineOrders_cons, orders_nodeWas, hcontinue]
      rfl
    next =>
      split
      next hstate => rw [lineOrders_cons, orders_nodeIs (.inr hstate), hboot, List.append_nil]
      next =>
        split
        next => exact (lineOrders_spelled [_, _, _]).trans rfl
        next =>
          split
          next => exact (lineOrders_spelled [_, _]).trans rfl
          next h1 h2 h3 h4 h5 =>
            unfold knownStates at h
            simp only [List.mem_cons, List.not_mem_nil, or_false] at h
            rcases h with h | h | h | h | h | h | h
            · exact absurd (.inl h) h1
            · exact absurd (.inr h) h1
            · exact absurd h h2
            · exact absurd (.inl h) h3
            · exact absurd (.inr h) h3
            · exact absurd h h4
            · exact absurd h h5

theorem known_of_mem : ∀ state ∈ knownStates,
    (stateCase state).known = true ∧ '\n' ∉ state.toList := by
  decide

/-- What the lines for a state order. -/
theorem lineOrders_stateCase (state : String) :
    orders ("# Cached State: " ++ state ++ (if (stateCase state).known then "" else " (unknown)"))
        ++ lineOrders (stateCase state).echoes = lineOrders (stateTexts state) := by
  by_cases h : state ∈ knownStates
  · obtain ⟨hknown, hline⟩ := known_of_mem state h
    have hremark : "# Cached State: " ++ state ++ "" = "# " ++ ("Cached State: " ++ state) := by
      rw [String.append_empty, ← String.append_assoc]
      rfl
    unfold stateTexts
    rw [hknown, if_pos rfl, hremark, orders_remark (notMem_append (by decide) hline),
      lineOrders_echoes h, if_pos h]
    rfl
  · have hdisk : orders "echo   Booting from local disk..." = [] :=
      (orders_spelled _).trans rfl
    unfold stateTexts
    rw [stateCase_unknown h, if_neg h]
    dsimp only
    rw [if_neg (by decide), lineOrders_cons, lineOrders_cons, lineOrders_cons, lineOrders_cons,
      hdisk, lineOrders_nil]
    simp

/-- Every script ends. -/
theorem lineOrders_lastLines (state : String) :
    lineOrders (lastLines (stateCase state).seconds (stateCase state).disk)
      = ending (stateCase state).seconds (stateCase state).disk := by
  by_cases h : state ∈ knownStates
  · have hall : ∀ state ∈ knownStates,
        lineOrders (lastLines (stateCase state).seconds (stateCase state).disk)
          = ending (stateCase state).seconds (stateCase state).disk := by
      decide
    exact hall state h
  · rw [stateCase_unknown h]
    dsimp only
    decide

theorem lineOrders_generateCachedScript (node : TimedNode Datetime) :
    lineOrders (g.generateCachedScript node now)
      = lineOrders (g.headerTexts node.macAddress ++ stateTexts node.state)
        ++ ending (stateCase node.state).seconds (stateCase node.state).disk := by
  have hblank : orders "" = [] := rfl
  have hecho : orders "echo" = [] := rfl
  unfold OfflineBootGenerator.generateCachedScript
  simp only [lineOrders_append, lineOrders_cons, lineOrders_nil, lineOrders_scriptHeader,
    orders_cachedAt, orders_getOfflineInfo, hblank, hecho, lineOrders_lastLines, List.nil_append,
    List.append_nil, ← lineOrders_stateCase, List.append_assoc]

theorem lineOrders_generateDiscoveryScript (mac : String) :
    lineOrders (g.generateDiscoveryScript mac now)
      = lineOrders (g.headerTexts mac ++ ["echo   MAC Address: " ++ mac]) ++ ending 10 true := by
  have hbegin : lineOrders ["", "# Discovery Mode (Offline)"] = [] :=
    (lineOrders_spelled [_, _]).trans rfl
  have hgreeting : lineOrders ["", "echo   Running offline discovery...", "echo"] = [] :=
    (lineOrders_spelled [_, _, _]).trans rfl
  have hsaid : lineOrders ["echo   Vendor: $\x7bmanufacturer:undef\x7d",
      "echo   Model: $\x7bproduct:undef\x7d", "echo   Serial: $\x7bserial:undef\x7d",
      "echo   UUID: $\x7buuid:undef\x7d", "echo",
      "echo   Discovery data will be synced when online.", "echo   Booting from local disk...",
      "echo", ""] = [] :=
    (lineOrders_spelled [_, _, _, _, _, _, _, _, _]).trans rfl
  have hend : lineOrders (lastLines 10 true) = ending 10 true := rfl
  have hlines : g.generateDiscoveryScript mac now = g.scriptHeader mac
      ++ (["", "# Discovery Mode (Offline)"] ++ ([g.getOfflineInfo now]
      ++ (["", "echo   Running offline discovery...", "echo"]
      ++ (["echo   MAC Address: " ++ mac] ++ (["echo   Vendor: $\x7bmanufacturer:undef\x7d",
        "echo   Model: $\x7bproduct:undef\x7d", "echo   Serial: $\x7bserial:undef\x7d",
        "echo   UUID: $\x7buuid:undef\x7d", "echo",
        "echo   Discovery data will be synced when online.", "echo   Booting from local disk...",
        "echo", ""] ++ lastLines 10 true))))) := rfl
  have hinfo : lineOrders [g.getOfflineInfo now] = [] := by
    rw [lineOrders_cons, orders_getOfflineInfo]
    rfl
  rw [hlines, lineOrders_append, lineOrders_scriptHeader, lineOrders_append, hbegin,
    lineOrders_append, hinfo, lineOrders_append, hgreeting, lineOrders_append, lineOrders_append,
    hsaid, hend, lineOrders_append, List.nil_append, List.nil_append, List.nil_append,
    List.nil_append, List.append_assoc]

theorem lineOrders_unregisteredScript (mac : String) :
    lineOrders (g.unregisteredScript mac now)
      = lineOrders (g.headerTexts mac) ++ ending 5 true := by
  have hbegin : lineOrders ["", "# Node not in cache"] = [] :=
    (lineOrders_spelled [_, _]).trans rfl
  have hsaid : lineOrders ["", "echo   This node is not registered.",
      "echo   Cannot register while offline.", "echo   Booting from local disk...", "echo", ""]
        = [] :=
    (lineOrders_spelled [_, _, _, _, _, _]).trans rfl
  have hend : lineOrders (lastLines 5 true) = ending 5 true := rfl
  have hlines : g.unregisteredScript mac now = g.scriptHeader mac
      ++ (["", "# Node not in cache"] ++ ([g.getOfflineInfo now]
      ++ (["", "echo   This node is not registered.", "echo   Cannot register while offline.",
        "echo   Booting from local disk...", "echo", ""] ++ lastLines 5 true))) := rfl
  have hinfo : lineOrders [g.getOfflineInfo now] = [] := by
    rw [lineOrders_cons, orders_getOfflineInfo]
    rfl
  rw [hlines, lineOrders_append, lineOrders_scriptHeader, lineOrders_append, hbegin,
    lineOrders_append, hinfo, lineOrders_append, hsaid, hend, List.nil_append, List.nil_append,
    List.nil_append]

end Lines

/-! ## §5. What scripts order. -/

/-- The lines that a text from outside is put into. -/
def linesWith (text : String) : List String :=
  ["# MAC: " ++ text, "# Site: " ++ text, "# Cached State: " ++ text ++ " (unknown)",
    "echo   Unknown node state: " ++ text, "echo   MAC Address: " ++ text]

/-- **THE SCRIPT WAITS, BOOTS LOCALLY AND ENDS**, apart from what lines with these texts in
them order before. -/
def BootsLocally (texts : List String) (script : String) : Prop :=
  ∃ lines seconds disk, (∀ line ∈ lines, ∃ text ∈ texts, line ∈ linesWith text) ∧
    orders script = lineOrders lines ++ ending seconds disk

/-- A plain text orders nothing, whichever line it is put into. -/
theorem orders_linesWith {text line : String} (htext : ipxe.Plain text)
    (hline : line ∈ linesWith text) : orders line = [] := by
  have hunknown : '\n' ∉ (text ++ " (unknown)").toList :=
    notMem_append htext.1 (by decide)
  unfold linesWith at hline
  simp only [List.mem_cons, List.not_mem_nil, or_false] at hline
  rcases hline with rfl | rfl | rfl | rfl | rfl
  · exact Dialect.commands_remark "# MAC:" (w := ['#']) rfl rfl rfl (by decide) htext.1
  · exact Dialect.commands_remark "# Site:" (w := ['#']) rfl rfl rfl (by decide) htext.1
  · rw [String.append_assoc]
    exact Dialect.commands_remark "# Cached State:" (w := ['#']) rfl rfl rfl (by decide)
      hunknown
  · exact Dialect.commands_mute "echo   Unknown node state:" rfl rfl rfl (by decide)
      (by decide) htext
  · exact Dialect.commands_mute "echo   MAC Address:" rfl rfl rfl (by decide)
      (by decide) htext

theorem BootsLocally.of_plain {texts : List String} {script : String}
    (h : BootsLocally texts script) (hplain : ∀ text ∈ texts, ipxe.Plain text) :
    ∃ seconds disk, orders script = ending seconds disk := by
  obtain ⟨lines, seconds, disk, hlines, horders⟩ := h
  have hnone : lineOrders lines = [] := by
    refine List.flatMap_eq_nil_iff.mpr (fun line hline => ?_)
    obtain ⟨text, htext, hmem⟩ := hlines line hline
    exact orders_linesWith (hplain text htext) hmem
  exact ⟨seconds, disk, by rw [horders, hnone, List.nil_append]⟩

/-- The states that a cache has for a node. -/
def statesOf (t : NodesTable) (mac : String) : List String :=
  (t.rows.filter (fun row => row.macAddress = mac)).map TimedNode.state

theorem getNode_eq_ok {t : NodesTable} {mac : String} {node : TimedNode Datetime}
    (h : t.getNode mac = .ok (some node)) :
    node.macAddress = normalizeMac mac ∧ node.state ∈ statesOf t (normalizeMac mac) := by
  unfold NodesTable.getNode at h
  split at h
  next => cases h
  next row hget =>
    obtain ⟨hrow, hmac⟩ := Table.get?_eq_some_iff.mp hget
    split at h
    next node' hnode =>
      obtain rfl := Option.some.inj (Except.ok.inj h)
      unfold rowToNode at hnode
      obtain ⟨cachedAt, -, hnode⟩ := Option.bind_eq_some_iff.mp hnode
      obtain ⟨expiresAt, -, hnode⟩ := Option.bind_eq_some_iff.mp hnode
      obtain rfl := Option.some.inj hnode
      refine ⟨hmac, List.mem_map.mpr ⟨row, ?_, rfl⟩⟩
      exact List.mem_filter.mpr ⟨hrow, decide_eq_true hmac⟩
    next => cases h

section Generator

variable {g : OfflineBootGenerator} {texts : List String}

theorem headerTexts_foreign {mac : String} (hmac : mac ∈ texts) (hsite : g.siteId ∈ texts) :
    ∀ line ∈ g.headerTexts mac, ∃ text ∈ texts, line ∈ linesWith text := by
  intro line hline
  unfold OfflineBootGenerator.headerTexts at hline
  rcases List.mem_pair.mp hline with rfl | rfl
  · exact ⟨mac, hmac, by simp [linesWith]⟩
  · exact ⟨g.siteId, hsite, by simp [linesWith]⟩

theorem stateTexts_foreign {state : String} (hstate : state ∈ texts) :
    ∀ line ∈ stateTexts state, ∃ text ∈ texts, line ∈ linesWith text := by
  intro line hline
  unfold stateTexts at hline
  split at hline
  next => cases hline
  next =>
    refine ⟨state, hstate, ?_⟩
    rcases List.mem_pair.mp hline with rfl | rfl <;> simp [linesWith]

theorem cachedScript_bootsLocally {node : TimedNode Datetime} (now : Datetime)
    (hmac : node.macAddress ∈ texts) (hsite : g.siteId ∈ texts) (hstate : node.state ∈ texts) :
    BootsLocally texts (endLines (g.generateCachedScript node now)) := by
  refine ⟨_, _, _, ?_, (orders_endLines _).trans (lineOrders_generateCachedScript g now node)⟩
  intro line hline
  rcases List.mem_append.mp hline with hline | hline
  · exact headerTexts_foreign hmac hsite line hline
  · exact stateTexts_foreign hstate line hline

theorem unknownScript_bootsLocally {later : NodesTable} {mac : String} {now : Datetime}
    {lines : List String} (h : g.generateUnknownScript later mac now = .ok lines)
    (hmac : mac ∈ texts) (hsite : g.siteId ∈ texts) (hnorm : normalizeMac mac = mac)
    (hstates : ∀ state ∈ statesOf later mac, state ∈ texts) :
    BootsLocally texts (endLines lines) := by
  have hlocal : BootsLocally texts (endLines (g.unregisteredScript mac now)) :=
    ⟨_, _, _, headerTexts_foreign hmac hsite,
      (orders_endLines _).trans (lineOrders_unregisteredScript g now mac)⟩
  unfold OfflineBootGenerator.generateUnknownScript at h
  split at h
  next =>
    obtain rfl := Except.ok.inj h
    refine ⟨_, _, _, ?_, (orders_endLines _).trans (lineOrders_generateDiscoveryScript g now mac)⟩
    intro line hline
    rcases List.mem_append.mp hline with hline | hline
    · exact headerTexts_foreign hmac hsite line hline
    · obtain rfl := List.mem_singleton.mp hline
      exact ⟨mac, hmac, by simp [linesWith]⟩
  next =>
    split at h
    next => cases h
    next node hget =>
      obtain rfl := Except.ok.inj h
      obtain ⟨hnode, hstate⟩ := getNode_eq_ok hget
      rw [hnorm] at hnode hstate
      exact cachedScript_bootsLocally now (hnode ▸ hmac) hsite (hstates _ hstate)
    next =>
      obtain rfl := Except.ok.inj h
      exact hlocal
  next =>
    obtain rfl := Except.ok.inj h
    exact hlocal

/-- The texts from outside that an answer can have in it. -/
def foreignTexts (g : OfflineBootGenerator) (cache later : NodesTable) (mac : String) :
    List String :=
  normalizeMac mac :: g.siteId
    :: (statesOf cache (normalizeMac mac) ++ statesOf later (normalizeMac mac))

/-- **WHAT A SCRIPT ORDERS.** -/
theorem orders_generateScript {cache later : NodesTable} {mac script : String} {now : Datetime}
    (h : g.generateScript cache later mac now = .ok script) :
    BootsLocally (foreignTexts g cache later mac) script := by
  have hmac : normalizeMac mac ∈ foreignTexts g cache later mac := List.mem_cons_self
  have hsite : g.siteId ∈ foreignTexts g cache later mac :=
    List.mem_cons_of_mem _ List.mem_cons_self
  have hnorm := normalizeMac_normalizeMac mac
  unfold OfflineBootGenerator.generateScript at h
  dsimp only at h
  split at h
  next => cases h
  next node hget =>
    obtain rfl := Except.ok.inj h
    obtain ⟨hnode, hstate⟩ := getNode_eq_ok hget
    rw [hnorm] at hnode hstate
    refine cachedScript_bootsLocally now (hnode ▸ hmac) hsite ?_
    exact List.mem_cons_of_mem _ (List.mem_cons_of_mem _ (List.mem_append_left _ hstate))
  next =>
    obtain ⟨lines, hlines, rfl⟩ := map_eq_ok h
    refine unknownScript_bootsLocally hlines hmac hsite hnorm (fun state hstate => ?_)
    exact List.mem_cons_of_mem _ (List.mem_cons_of_mem _ (List.mem_append_right _ hstate))

end Generator

/-! ## §6. The answers of an agent whose central does not answer. -/

theorem lineOrders_serviceScript (opening banner : List String) (siteId mac : String)
    (hbegin : lineOrders opening = []) {seconds : Nat} (hend : lineOrders banner
      = ending seconds false) :
    orders (endLines (opening ++ (["# MAC: " ++ mac, "# Site: " ++ siteId] ++ banner)))
      = lineOrders ["# MAC: " ++ mac, "# Site: " ++ siteId] ++ ending seconds false := by
  rw [orders_endLines, lineOrders_append, hbegin, lineOrders_append, hend, List.nil_append]

theorem serviceTexts_foreign (siteId mac : String) :
    ∀ line ∈ ["# MAC: " ++ mac, "# Site: " ++ siteId], ∃ text ∈ [mac, siteId],
      line ∈ linesWith text := by
  intro line hline
  rcases List.mem_pair.mp hline with rfl | rfl
  · exact ⟨mac, by simp, by simp [linesWith]⟩
  · exact ⟨siteId, by simp, by simp [linesWith]⟩

theorem fallbackScript_bootsLocally (siteId mac : String) :
    BootsLocally [mac, siteId] (generateFallbackScript siteId mac) :=
  ⟨_, 3, false, serviceTexts_foreign siteId mac,
    lineOrders_serviceScript ["#!ipxe", "# PureBoot Agent - Central Error"] _ siteId mac
      ((lineOrders_spelled [_, _]).trans rfl)
      ((lineOrders_spelled [_, _, _, _, _, _, _, _, _]).trans rfl)⟩

theorem offlineScript_bootsLocally (siteId mac : String) :
    BootsLocally [mac, siteId] (generateOfflineScript siteId mac) :=
  ⟨_, 5, false, serviceTexts_foreign siteId mac,
    lineOrders_serviceScript ["#!ipxe", "# PureBoot Agent - Offline Mode"] _ siteId mac
      ((lineOrders_spelled [_, _]).trans rfl)
      ((lineOrders_spelled [_, _, _, _, _, _, _, _, _, _]).trans rfl)⟩

namespace BootService

variable {cfg : BootConfig} {s : BootService}

/-- **WHERE A SCRIPT OF CENTRAL COMES FROM**: central has answered with 200. -/
theorem exec_answers (cfg : BootConfig) (s : BootService) (step : BootStep) :
    (s.exec cfg step).answers = s.answers ∨ ∃ p, (s.exec cfg step).answers = s.answers ++ [p] ∧
      ∀ script, p.2 = .central script → ∃ id sent, step = .bootTurn id (.answered 200 sent) := by
  cases step with
  | bootAsks id mac monitor =>
      left
      show (s.askScript cfg id mac monitor).answers = s.answers
      unfold BootService.askScript
      dsimp only
      split
      next => rfl
      next => split <;> rfl
  | fileAsks id path =>
      left
      exact (askFile_sameScripts s id path).answers
  | fileTurn id turn =>
      left
      unfold exec
      dsimp only
      split
      next t _ => exact (fileTurn_sameScripts s t turn).answers
      next => rfl
  | bootTurn id turn =>
      unfold exec
      dsimp only
      split
      next t _ =>
        rcases bootTurn_cases cfg s t turn with heq | heq | ⟨answer, heq, hcentral⟩
        · exact .inl (by rw [heq])
        · exact .inl (by rw [heq])
        · refine .inr ⟨(t.id, answer), by rw [heq]; rfl, fun script hanswer => ?_⟩
          obtain ⟨sent, rfl⟩ := hcentral script hanswer
          exact ⟨id, sent, rfl⟩
      next => exact .inl rfl

/-- No answer is a script of central's. -/
def NoneCentrals (s : BootService) : Prop := ∀ p ∈ s.answers, ∀ script, p.2 ≠ .central script

theorem NoneCentrals.exec (h : NoneCentrals s) (step : BootStep)
    (hoff : ∀ id script, step ≠ .bootTurn id (.answered 200 script)) :
    NoneCentrals (s.exec cfg step) := by
  intro p hp script hcentral
  rcases exec_answers cfg s step with hsame | ⟨q, hmore, hq⟩
  · rw [hsame] at hp
    exact h p hp script hcentral
  · rw [hmore] at hp
    rcases List.mem_append.mp hp with hp | hp
    · exact h p hp script hcentral
    · obtain rfl := List.mem_singleton.mp hp
      obtain ⟨id, sent, hstep⟩ := hq script hcentral
      exact hoff id sent hstep

end BootService

theorem BootsLocally.mono {texts texts' : List String} {script : String}
    (h : BootsLocally texts script) (hsub : texts ⊆ texts') : BootsLocally texts' script := by
  obtain ⟨lines, seconds, disk, hlines, horders⟩ := h
  refine ⟨lines, seconds, disk, fun line hline => ?_, horders⟩
  obtain ⟨text, htext, hmem⟩ := hlines line hline
  exact ⟨text, hsub htext, hmem⟩

/-- **OFFLINE ANSWERS BOOT LOCALLY.**  As long as central answers no request with a script,
whatever an agent answers a request, with whatever caches and whenever, waits, boots from the
local disk or not, and ends, apart from what the MAC address of the request, the id of the site
and the states in the caches order as lines of their own; plain texts order nothing. -/
theorem offline_answers_boot_locally (cfg : BootConfig) (tree : Lib.Tree Bytes)
    (steps : List BootStep)
    (hoff : ∀ step ∈ steps, ∀ id script, step ≠ .bootTurn id (.answered 200 script))
    (g : OfflineBootGenerator) (siteId : String) (cache later : NodesTable) (mac : String)
    (now : Datetime) :
    ∀ p ∈ (run (BootService.exec cfg) (BootService.start tree) steps).answers, ∀ script,
      p.2.text siteId mac (g.generateScript cache later mac now) = some script →
      BootsLocally (mac :: siteId :: foreignTexts g cache later mac) script ∧
      ((∀ text ∈ mac :: siteId :: foreignTexts g cache later mac, ipxe.Plain text) →
        ∃ seconds disk, orders script = ending seconds disk) := by
  intro p hp script htext
  have hkeep : ∀ (s : BootService) (step : BootStep), BootService.NoneCentrals s →
      (∀ id script, step ≠ .bootTurn id (.answered 200 script)) →
      BootService.NoneCentrals (s.exec cfg step) := fun s step h hstep => h.exec step hstep
  have hnone : BootService.NoneCentrals
      (run (BootService.exec cfg) (BootService.start tree) steps) :=
    run_invariant hkeep (fun _ h => absurd h List.not_mem_nil) (along_label_iff.mpr hoff)
  have hservice : [mac, siteId] ⊆ mac :: siteId :: foreignTexts g cache later mac := by
    intro text h
    rcases List.mem_pair.mp h with rfl | rfl <;> simp
  have hlocal : BootsLocally (mac :: siteId :: foreignTexts g cache later mac) script := by
    cases hanswer : p.2 with
    | central sent => exact absurd hanswer (hnone p hp sent)
    | fallback =>
        rw [hanswer] at htext
        obtain rfl := Option.some.inj htext
        exact (fallbackScript_bootsLocally siteId mac).mono hservice
    | generated =>
        rw [hanswer] at htext
        refine (orders_generateScript (toOption_eq_some_iff.mp htext)).mono ?_
        exact fun text h => List.mem_cons_of_mem _ (List.mem_cons_of_mem _ h)
    | offline =>
        rw [hanswer] at htext
        obtain rfl := Option.some.inj htext
        exact (offlineScript_bootsLocally siteId mac).mono hservice
    | raised =>
        rw [hanswer] at htext
        cases htext
  exact ⟨hlocal, hlocal.of_plain⟩

/-- A line break in the MAC address of a request brings an order of its own. -/
example : orders ("# MAC: " ++ "aa:bb\nchain http://elsewhere/x")
    = [["chain".toList, "http://elsewhere/x".toList]] := by
  decide

/-- The 14th of March 2027, 15:09:26. -/
def offlineTime : Datetime where
  year := 2027
  month := 3
  day := 14
  hour := 15
  minute := 9
  second := 26
  microsecond := 535897
  year_le := by decide
  month_le := by decide
  day_le := by decide
  hour_lt := by decide
  minute_lt := by decide
  second_lt := by decide
  year_pos := by decide
  microsecond_lt := by decide

/-- A request while the monitor says that the agent is offline. -/
def offlineSteps : List BootStep := [.bootAsks 0 "aa:bb".toList false, .bootTurn 0 .generated]

/-- A generator without a node in its cache. -/
def siteGenerator : OfflineBootGenerator where
  siteId := "site"

theorem offline_answers_boot_locally_unknown :
    (run (BootService.exec BootService.agentConfig) (BootService.start BootService.emptyTree)
        offlineSteps).answers = [(0, .generated)] ∧
      ∃ script, siteGenerator.generateScript Table.empty Table.empty "aa:bb" offlineTime
          = .ok script ∧
        ∃ seconds disk, orders script = ending seconds disk := by
  have hanswers : (run (BootService.exec BootService.agentConfig)
      (BootService.start BootService.emptyTree) offlineSteps).answers = [(0, .generated)] := rfl
  have hmem : (0, BootAnswer.generated) ∈ (run (BootService.exec BootService.agentConfig)
      (BootService.start BootService.emptyTree) offlineSteps).answers := by
    rw [hanswers]
    exact List.mem_singleton_self _
  have hoff : ∀ step ∈ offlineSteps, ∀ id script,
      step ≠ BootStep.bootTurn id (.answered 200 script) := by
    intro step hstep id script
    rcases List.mem_pair.mp hstep with rfl | rfl <;> exact nofun
  have hscript : ∃ script, siteGenerator.generateScript Table.empty Table.empty "aa:bb" offlineTime
      = .ok script := ⟨_, rfl⟩
  have hplain : ∀ text ∈ "aa:bb" :: "site" :: foreignTexts siteGenerator Table.empty Table.empty
      "aa:bb", ipxe.Plain text := by
    have htexts : foreignTexts siteGenerator Table.empty Table.empty "aa:bb"
        = ["aa:bb", "site"] := by
      decide +kernel
    have hmac : ipxe.Plain "aa:bb" := ⟨by decide, by decide⟩
    have hsite : ipxe.Plain "site" := ⟨by decide, by decide⟩
    rw [htexts]
    simp only [List.forall_mem_cons, List.not_mem_nil, false_implies, implies_true, and_true]
    exact ⟨hmac, hsite, hmac, hsite⟩
  obtain ⟨script, hscript⟩ := hscript
  have htext : BootAnswer.generated.text "site" "aa:bb"
      (siteGenerator.generateScript Table.empty Table.empty "aa:bb" offlineTime) = some script := by
    unfold BootAnswer.text
    rw [hscript]
    rfl
  obtain ⟨-, hends⟩ := offline_answers_boot_locally BootService.agentConfig BootService.emptyTree
    offlineSteps hoff siteGenerator "site" Table.empty Table.empty "aa:bb" offlineTime _ hmem script
    htext
  exact ⟨hanswers, script, hscript, hends hplain⟩

end PureBoot.Agent
