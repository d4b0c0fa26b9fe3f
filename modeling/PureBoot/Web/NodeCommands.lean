/-
  PureBoot.Web.NodeCommands — the COMMAND that waits for a node.

  Embeds `api/routes/nodes.py` (`send_node_command`, `get_node_command`) and
  `api/routes/boot.py: get_boot_status`.  A command is queued in a column of the node,
  and two endpoints hand it out: the one of the agent, which clears it on demand, and
  the one that a machine in iPXE polls, which clears it at once and then answers a
  script for two of the three commands.

  Main results:
    * `status_effect` — what a poll from iPXE does;
    * `commandsKept_iff` — the requests that lose no command;
    * `commands_kept_iff` — the runs in which no command is lost.
-/
import PureBoot.Lib.Run
import PureBoot.Web.Scripts

namespace PureBoot.Web

open PureBoot.Lib PureBoot.Lifecycle

/-! ## §1. Commands. -/

/-- The commands that the pattern of `NodeCommandRequest` admits. -/
inductive NodeCommand where
  | poweroff
  | reboot
  | rescan
  deriving DecidableEq, Repr

def NodeCommand.text : NodeCommand → String
  | .poweroff => "poweroff"
  | .reboot => "reboot"
  | .rescan => "rescan"

/-- `^(poweroff|reboot|rescan)$`. -/
def NodeCommand.ofText? (text : String) : Option NodeCommand :=
  [NodeCommand.poweroff, .reboot, .rescan].find? (fun c => c.text = text)

/-- A node with its column `pending_command`. -/
structure CommandedNode where
  node : Node
  pendingCommand : Option NodeCommand := none
  deriving DecidableEq, Repr

def CommandedNode.id (n : CommandedNode) : String := n.node.id

structure NodeCommandResponse where
  nodeId : String
  pendingCommand : Option NodeCommand
  message : String
  deriving DecidableEq, Repr

/-- `send_node_command`. -/
def sendNodeCommand (nodes : Table CommandedNode.id) (nodeId : String) (command : NodeCommand) :
    Except Exn (NodeCommandResponse × Table CommandedNode.id) :=
  match nodes.get? nodeId with
  | none => .error (.http 404 "Node not found")
  | some n =>
      .ok ({ nodeId, pendingCommand := some command
             message := "Command '" ++ command.text ++ "' queued for node" },
        nodes.put { n with pendingCommand := some command })

/-- `get_node_command`. -/
def getNodeCommand (nodes : Table CommandedNode.id) (nodeId : String) (clear : Bool) :
    Except Exn (NodeCommandResponse × Table CommandedNode.id) :=
  match nodes.get? nodeId with
  | none => .error (.http 404 "Node not found")
  | some n =>
      .ok ({ nodeId, pendingCommand := n.pendingCommand
             message := if n.pendingCommand.isSome then "Command retrieved"
               else "No pending command" },
        if clear && n.pendingCommand.isSome then nodes.put { n with pendingCommand := none }
        else nodes)

/-! ## §2. The machine that polls. -/

/-- The script for a command that iPXE can carry out. -/
def commandScript (title : String) (node : Node) (doing command : String) : Script :=
  sayAll ["#!ipxe", "# Command: " ++ command,
    "echo [" ++ shortId node.macAddress ++ "] " ++ title ++ " command received",
    "echo " ++ doing ++ " in 3 seconds...", "sleep 3", command]

/-- The script for a node that has its workflow. -/
def assignedScript (server : String) (node : Node) : Script :=
  sayAll ["#!ipxe", "# Workflow assigned - proceeding to install", ":start",
    "echo [" ++ shortId node.macAddress ++ "] Workflow assigned: " ++ node.workflowId.getD "",
    "echo Starting installation..."]
  ++ .fetch "chain" (server ++ "/api/v1/boot?mac=" ++ node.macAddress) " || goto retry"
  :: sayAll ["", ":retry",
    "echo [" ++ shortId node.macAddress ++ "] Failed to load boot script, retrying in 5s...",
    "sleep 5", "goto start"]

/-- The script for a node that waits on. -/
def waitingScript (server : String) (node : Node) : Script :=
  sayAll ["#!ipxe", "# Still waiting for workflow assignment", "console --x 800 --y 600 ||",
    "clear ||", "", "echo", "echo ========================================",
    "echo   PureBoot - Awaiting Workflow", "echo ========================================", "echo"]
  ++ pendingStatus server node
  ++ sayAll ["echo   Assign a workflow in the PureBoot UI.", "echo",
    "echo ========================================", "echo",
    "echo Polling for workflow assignment...", "echo", "", "sleep 10"]
  ++ .fetch "chain" (server ++ "/api/v1/boot/status?mac=" ++ node.macAddress) " || goto retry"
  :: sayAll ["", ":retry", "echo Server unreachable, retrying...", "sleep 5"]
  ++ [.fetch "chain" (server ++ "/api/v1/boot/status?mac=" ++ node.macAddress) " || goto retry"]

/-- What a node without a command is told. -/
def statusScript (server : String) (node : Node) : Script :=
  if node.state = .pending ∧ truthy node.workflowId then assignedScript server node
  else waitingScript server node

/-- What the node is told; a machine in iPXE cannot scan its disks. -/
def pollScript (server : String) (node : Node) : Option NodeCommand → Script
  | some .poweroff => commandScript "Poweroff" node "Shutting down" "poweroff"
  | some .reboot => commandScript "Reboot" node "Rebooting" "reboot"
  | some .rescan => statusScript server node
  | none => statusScript server node

/-- The node as it was seen. -/
def seenNode (node : Node) (now : Timestamp) (clientHost : Option String) : Node :=
  { node with lastSeenAt := some now, ipAddress := clientHost.or node.ipAddress }

/-- The node with this address. -/
def polledNode (nodes : Table CommandedNode.id) (mac : String) :
    Except Exn (Option CommandedNode) :=
  scalarOneOrNone (nodes.rows.filter (fun n => n.node.macAddress = mac))

/-- `get_boot_status`. -/
def getBootStatus (server : String) (nodes : Table CommandedNode.id) (mac : String)
    (now : Timestamp) (clientHost : Option String) :
    Except Exn (Script × Table CommandedNode.id) := do
  let mac ← validateMac mac
  let found ← polledNode nodes mac
  match found with
  | none => .ok (generateLocalBootScript, nodes)
  | some n =>
      .ok (pollScript server (seenNode n.node now clientHost) n.pendingCommand,
        nodes.put { node := seenNode n.node now clientHost, pendingCommand := none })

/-! ## §3. Requests. -/

inductive CommandOp where
  /-- `POST /nodes/{id}/command`. -/
  | post (nodeId command : String)
  /-- `GET /nodes/{id}/command`. -/
  | get (nodeId : String) (clear : Bool)
  /-- `GET /boot/status`. -/
  | status (mac : String) (now : Timestamp) (clientHost : Option String)

inductive CommandAnswer where
  | response (r : NodeCommandResponse)
  | script (s : Script)

/-- A request up to its answer. -/
def performCommand (server : String) (nodes : Table CommandedNode.id) :
    CommandOp → Except Exn (CommandAnswer × Table CommandedNode.id)
  | .post nodeId text =>
      match NodeCommand.ofText? text with
      -- the request does not pass its schema
      | none => .error (.http 422 "String should match pattern '^(poweroff|reboot|rescan)$'")
      | some command => (sendNodeCommand nodes nodeId command).map (Prod.map .response id)
  | .get nodeId clear => (getNodeCommand nodes nodeId clear).map (Prod.map .response id)
  | .status mac now clientHost =>
      (getBootStatus server nodes mac now clientHost).map (Prod.map .script id)

/-- One request in its own session. -/
def commandStep (server : String) (nodes : Table CommandedNode.id) (op : CommandOp) :
    Table CommandedNode.id :=
  commitOrRollback nodes (performCommand server nodes op)

/-! ## §4. Commands are not lost. -/

/-- The answer carries the command. -/
def CommandAnswer.carries (command : NodeCommand) : CommandAnswer → Bool
  | .response r => r.pendingCommand = some command
  | .script s => decide (Line.say command.text ∈ s)

/-- The request is one of the node for its command. -/
def CommandOp.polls (op : CommandOp) (n : CommandedNode) : Prop :=
  match op with
  | .post _ _ => False
  | .get nodeId _ => nodeId = n.id
  | .status mac _ _ => validateMac mac = .ok n.node.macAddress

/-- The request queues a command for the node. -/
def CommandOp.queuesFor (op : CommandOp) (n : CommandedNode) : Prop :=
  ∃ text command, op = .post n.id text ∧ NodeCommand.ofText? text = some command

/-- **A COMMAND IS NOT LOST** in a request: it is pending after it, or the answer hands it to
the node, or another one is queued in its place. -/
def CommandsKept (server : String) (nodes : Table CommandedNode.id) (op : CommandOp) : Prop :=
  ∀ n ∈ nodes.rows, ∀ command, n.pendingCommand = some command →
    (∃ n' ∈ (commandStep server nodes op).rows, n'.id = n.id ∧ n'.pendingCommand = some command) ∨
    (op.polls n ∧ ∃ answer nodes', performCommand server nodes op = .ok (answer, nodes') ∧
      answer.carries command = true) ∨
    op.queuesFor n

/-- The address is that of a node with `rescan` queued. -/
def awaitsRescan (nodes : Table CommandedNode.id) (mac : String) : Bool :=
  match validateMac mac >>= polledNode nodes with
  | .ok (some n) => n.pendingCommand = some .rescan
  | _ => false

/-- The request is not the poll, from iPXE, of a node with `rescan` queued. -/
def commandMeets (nodes : Table CommandedNode.id) : CommandOp → Bool
  | .post _ _ => true
  | .get _ _ => true
  | .status mac _ _ => !awaitsRescan nodes mac

section Steps

variable {server : String} {nodes : Table CommandedNode.id} {op : CommandOp}

/-- A request that changes nothing loses nothing. -/
theorem commandsKept_of_same (h : commandStep server nodes op = nodes) :
    CommandsKept server nodes op := by
  intro n hn command hcommand
  rw [h]
  exact .inl ⟨n, hn, rfl, hcommand⟩

/-- A request that rewrites one node loses nothing if it does not lose the command of that
node. -/
theorem commandsKept_of_put {target target' : CommandedNode} (htarget : target ∈ nodes.rows)
    (hid : target'.id = target.id) (hstep : commandStep server nodes op = nodes.put target')
    (h : ∀ command, target.pendingCommand = some command →
      target'.pendingCommand = some command ∨
      (op.polls target ∧ ∃ answer nodes', performCommand server nodes op = .ok (answer, nodes') ∧
        answer.carries command = true) ∨ op.queuesFor target) :
    CommandsKept server nodes op := by
  intro n hn command hcommand
  rw [hstep]
  by_cases hne : n.id = target.id
  · -- the node itself
    have hsame := nodes.eq_of_key_eq hn htarget hne
    rw [hsame] at hcommand ⊢
    refine (h command hcommand).imp_left (fun hkept => ⟨target', ?_, hid, hkept⟩)
    exact (Table.mem_put_iff ⟨target, htarget, hid.symm⟩).mpr (.inl rfl)
  · exact .inl ⟨n, Table.mem_put_of_ne hn (by rw [hid]; exact hne), rfl, hcommand⟩

theorem commandStep_of_error {e : Exn} (h : performCommand server nodes op = .error e) :
    commandStep server nodes op = nodes := by
  unfold commandStep
  rw [h]
  rfl

theorem commandStep_of_ok {answer : CommandAnswer} {nodes' : Table CommandedNode.id}
    (h : performCommand server nodes op = .ok (answer, nodes')) :
    commandStep server nodes op = nodes' := by
  unfold commandStep
  rw [h]
  rfl

theorem commandsKept_post (nodeId text : String) :
    CommandsKept server nodes (.post nodeId text) := by
  cases htext : NodeCommand.ofText? text with
  | none =>
      have hperform : performCommand server nodes (.post nodeId text)
          = .error (.http 422 "String should match pattern '^(poweroff|reboot|rescan)$'") := by
        simp only [performCommand, htext]
      exact commandsKept_of_same (commandStep_of_error hperform)
  | some command =>
      have hperform : performCommand server nodes (.post nodeId text)
          = (sendNodeCommand nodes nodeId command).map (Prod.map .response id) := by
        simp only [performCommand, htext]
      unfold sendNodeCommand at hperform
      cases hget : nodes.get? nodeId with
      | none =>
          rw [hget] at hperform
          exact commandsKept_of_same (commandStep_of_error hperform)
      | some n =>
          obtain ⟨hn, rfl⟩ := Table.get?_eq_some_iff.mp hget
          rw [hget] at hperform
          have hstep := commandStep_of_ok hperform
          refine commandsKept_of_put hn ?_ hstep
            (fun _ _ => .inr (.inr ⟨text, command, rfl, htext⟩))
          rfl

theorem commandsKept_get (nodeId : String) (clear : Bool) :
    CommandsKept server nodes (.get nodeId clear) := by
  have hperform : performCommand server nodes (.get nodeId clear)
      = (getNodeCommand nodes nodeId clear).map (Prod.map .response id) := rfl
  unfold getNodeCommand at hperform
  cases hget : nodes.get? nodeId with
  | none =>
      rw [hget] at hperform
      exact commandsKept_of_same (commandStep_of_error hperform)
  | some n =>
      obtain ⟨hn, rfl⟩ := Table.get?_eq_some_iff.mp hget
      rw [hget] at hperform
      by_cases hclear : (clear && n.pendingCommand.isSome) = true
      · dsimp only at hperform
        rw [if_pos hclear] at hperform
        have hstep := commandStep_of_ok hperform
        refine commandsKept_of_put hn ?_ hstep (fun command hcommand => ?_)
        · rfl
        · -- what is cleared is in the response
          refine .inr (.inl ⟨rfl, _, _, hperform, ?_⟩)
          simpa [CommandAnswer.carries] using hcommand
      · dsimp only at hperform
        rw [if_neg hclear] at hperform
        exact commandsKept_of_same (commandStep_of_ok hperform)

/-! The poll from iPXE. -/

theorem mem_of_polledNode {mac : String} {n : CommandedNode}
    (h : polledNode nodes mac = .ok (some n)) : n ∈ nodes.rows ∧ n.node.macAddress = mac := by
  unfold polledNode at h
  cases hrows : nodes.rows.filter (fun n => n.node.macAddress = mac) with
  | nil =>
      rw [hrows] at h
      cases h
  | cons m rest =>
      rw [hrows] at h
      cases rest with
      | cons _ _ => cases h
      | nil =>
          cases h
          have hmem : n ∈ nodes.rows.filter (fun n => n.node.macAddress = mac) := by
            rw [hrows]
            exact List.mem_singleton_self n
          simpa using List.mem_filter.mp hmem

theorem mem_sayAll {text : String} {lines : List String} :
    Line.say text ∈ sayAll lines ↔ text ∈ lines := by
  simp [sayAll]

/-- A line of output is no command. -/
theorem rescan_ne_append {start rest : String} (h : start.toList.head? = some 'e') :
    NodeCommand.rescan.text ≠ start ++ rest := by
  intro heq
  have hhead := congrArg (fun text : String => text.toList.head?) heq
  simp only [String.toList_append, List.head?_append, h, Option.some_or] at hhead
  revert hhead
  decide

/-- A node that is told its status is not told the command. -/
theorem rescan_notMem_statusScript (server : String) (node : Node) :
    Line.say NodeCommand.rescan.text ∉ statusScript server node := by
  unfold statusScript
  split
  next =>
    simp only [assignedScript, List.mem_append, List.mem_cons, mem_sayAll, reduceCtorEq,
      false_or, List.not_mem_nil, or_false, String.append_assoc]
    simp (disch := decide) only [rescan_ne_append, false_or]
    decide
  next =>
    simp only [waitingScript, pendingStatus, List.mem_append, List.mem_cons, mem_sayAll,
      reduceCtorEq, false_or, List.not_mem_nil, or_false, String.append_assoc]
    simp (disch := decide) only [rescan_ne_append, false_or]
    decide

/-- **THE POLL FROM iPXE** clears the command of the node and answers a script. -/
theorem status_effect (server : String) {mac : String} {n : CommandedNode} (now : Timestamp)
    (clientHost : Option String) (h : (validateMac mac >>= polledNode nodes) = .ok (some n)) :
    n ∈ nodes.rows ∧ CommandOp.polls (.status mac now clientHost) n ∧
      performCommand server nodes (.status mac now clientHost)
        = .ok (.script (pollScript server (seenNode n.node now clientHost) n.pendingCommand),
            nodes.put { node := seenNode n.node now clientHost, pendingCommand := none }) := by
  obtain ⟨mac', hmac, hpolled⟩ := bind_eq_ok.mp h
  obtain ⟨hn, haddress⟩ := mem_of_polledNode hpolled
  refine ⟨hn, hmac.trans (by rw [haddress]), ?_⟩
  show (getBootStatus server nodes mac now clientHost).map _ = _
  unfold getBootStatus
  rw [hmac, ok_bind, hpolled, ok_bind]
  rfl

/-- A poll of no known node changes nothing. -/
theorem status_same {mac : String} (now : Timestamp) (clientHost : Option String)
    (h : ∀ n, (validateMac mac >>= polledNode nodes) ≠ .ok (some n)) :
    commandStep server nodes (.status mac now clientHost) = nodes := by
  have hperform : performCommand server nodes (.status mac now clientHost)
      = (getBootStatus server nodes mac now clientHost).map (Prod.map .script id) := rfl
  unfold getBootStatus at hperform
  cases hmac : validateMac mac with
  | error e =>
      rw [hmac] at hperform
      exact commandStep_of_error hperform
  | ok mac' =>
      rw [hmac, ok_bind] at hperform h
      cases hpolled : polledNode nodes mac' with
      | error e =>
          rw [hpolled] at hperform
          exact commandStep_of_error hperform
      | ok found =>
          rw [hpolled] at h
          cases found with
          | some n => exact absurd rfl (h n)
          | none =>
              rw [hpolled, ok_bind] at hperform
              exact commandStep_of_ok hperform

/-- The script for a command that iPXE can carry out has it as a line. -/
theorem carries_pollScript {command : NodeCommand} (h : command ≠ .rescan) (node : Node) :
    (CommandAnswer.script (pollScript server node (some command))).carries command = true := by
  cases command with
  | poweroff => simp [CommandAnswer.carries, pollScript, commandScript, mem_sayAll,
      NodeCommand.text]
  | reboot => simp [CommandAnswer.carries, pollScript, commandScript, mem_sayAll,
      NodeCommand.text]
  | rescan => exact absurd rfl h

/-- **ONE REQUEST LOSES NO COMMAND, EXACTLY IF** it is not the poll from iPXE of a node with
`rescan` queued. -/
theorem commandsKept_iff (server : String) (nodes : Table CommandedNode.id) (op : CommandOp) :
    CommandsKept server nodes op ↔ commandMeets nodes op = true := by
  cases op with
  | post nodeId text => exact iff_of_true (commandsKept_post nodeId text) rfl
  | get nodeId clear => exact iff_of_true (commandsKept_get nodeId clear) rfl
  | status mac now clientHost =>
      -- only a poll for a node that is found can clear anything
      by_cases hfound : ∃ n, (validateMac mac >>= polledNode nodes) = .ok (some n)
      · obtain ⟨n, hfound⟩ := hfound
        obtain ⟨hn, hpolls, hperform⟩ := status_effect server now clientHost hfound
        have hstep := commandStep_of_ok hperform
        have hmeets : commandMeets nodes (.status mac now clientHost)
            = !decide (n.pendingCommand = some .rescan) := by
          show (!awaitsRescan nodes mac) = _
          unfold awaitsRescan
          rw [hfound]
        rw [hmeets, Bool.not_eq_true', decide_eq_false_iff_not]
        constructor
        · intro hkept hrescan
          -- neither the node nor the script has it
          rcases hkept n hn .rescan hrescan with ⟨n', hn', hid, hcommand⟩ | ⟨-, a, nodes', ha, hc⟩
            | ⟨_, _, hpost, -⟩
          · rw [hstep] at hn'
            have hsame : n.id = CommandedNode.id
              { node := seenNode n.node now clientHost, pendingCommand := none } := rfl
            rcases (Table.mem_put_iff ⟨n, hn, hsame⟩).mp hn' with rfl | ⟨-, hne⟩
            · cases hcommand
            · exact hne hid
          · rw [hperform, hrescan] at ha
            cases ha
            exact rescan_notMem_statusScript server _ (of_decide_eq_true hc)
          · cases hpost
        · intro hne
          refine commandsKept_of_put hn ?_ hstep (fun command hcommand => ?_)
          · rfl
          · refine .inr (.inl ⟨hpolls, _, _, hperform, ?_⟩)
            rw [hcommand]
            exact carries_pollScript (fun hrescan => hne (by rw [hcommand, hrescan])) _
      · have hnone : ∀ n, (validateMac mac >>= polledNode nodes) ≠ .ok (some n) :=
          fun n hn => hfound ⟨n, hn⟩
        refine iff_of_true (commandsKept_of_same (status_same now clientHost hnone)) ?_
        show (!awaitsRescan nodes mac) = true
        unfold awaitsRescan
        split
        next n hn => exact absurd hn (hnone n)
        next => rfl

end Steps

/-! ## §5. Runs. -/

/-- **NO COMMAND IS LOST IN A RUN, EXACTLY IF** no node with `rescan` queued polls from
iPXE. -/
theorem commands_kept_iff (server : String) (nodes : Table CommandedNode.id)
    (ops : List CommandOp) :
    Along (commandStep server) (CommandsKept server) nodes ops
      ↔ Along (commandStep server) (fun nodes op => commandMeets nodes op = true) nodes ops :=
  along_congr (commandsKept_iff server) nodes ops

/-- A node that waits in iPXE. -/
def waitingNodes : Table CommandedNode.id :=
  ⟨[{ node := { id := "n", macAddress := "00:11:22:33:44:55" } }], by simp⟩

/-- `rescan` is queued for it; its poll takes the command away, and the script does not have
it. -/
theorem rescan_lost_in_poll :
    ¬ Along (commandStep "http://h") (CommandsKept "http://h") waitingNodes
        [.post "n" "rescan", .status "00:11:22:33:44:55" ⟨0, true⟩ none] := by
  intro h
  have hmeets := (commandsKept_iff _ _ _).mp h.2.1
  revert hmeets
  decide +kernel

end PureBoot.Web
