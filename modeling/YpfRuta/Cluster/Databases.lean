/-
  The cluster with its databases (`server/src/node/database.rs`): every node sends the
  commands of its turns to a router of its own, the actors behind it work in any order, and
  the node receives what fits in the channel of their events.

  In `Cluster.State` a database is something that answers the commands it was sent, each at
  most once and in any order. The databases of the actors do that: whatever they do, the
  cluster with them does what the cluster without them can do.
-/
import YpfRuta.Actors.Agreement
import YpfRuta.Actors.Events
import YpfRuta.Actors.Once
import YpfRuta.Cluster.Replication

namespace YpfRuta.Cluster.Databases

open Lib Server

variable {Amount : Type} [Currency Amount]

/-- The node's part of the state, and for each address the database and its channel. The
    list `outstanding` of a node is history: no step depends on it. -/
structure State where
  cluster : Cluster.State Amount
  database : SocketAddr → Actors.Events.State

inductive Label where
  /-- A step of the nodes and links. -/
  | cluster (l : Cluster.Label Amount)
  /-- An actor of the database of `dst` handles a message. -/
  | actor (dst : SocketAddr) (l : Actors.Label)
  /-- Node `dst` receives the next event of its database. -/
  | event (dst : SocketAddr)

/-! ## Commands -/

/-- The commands the node at `a` has sent to its database. -/
def executed (c : Cluster.State Amount) (a : SocketAddr) : List (OpId × Operation Amount) :=
  (c.node a).elim [] NodeState.executed

/-- The commands the node at `a` has no result of. -/
def outstanding (c : Cluster.State Amount) (a : SocketAddr) : List (OpId × Operation Amount) :=
  (c.node a).elim [] NodeState.outstanding

/-- `Database::send`. -/
def send (d : Actors.Events.State) (cmd : OpId × Operation Amount) : Actors.Events.State :=
  d.emit (d.db.execute cmd.1 cmd.2)

namespace State

/-- The nodes have moved on to `c`, and what they sent on the way reaches their databases. -/
def forward (s : State) (c : Cluster.State Amount) : State where
  cluster := c
  database a := ((executed c a).drop (executed s.cluster a).length).foldl send (s.database a)

/-- Replace what the node at `a` has behind it. -/
def setDatabase (s : State) (a : SocketAddr) (d : Actors.Events.State) : State :=
  { s with database := Function.update s.database a d }

section Step

variable [AddrHash]

/-- `handle_actor_event`. A debug event is dropped. -/
def handleEvent (s : State) (dst : SocketAddr) (n : NodeState Amount) :
    Actors.ActorEvent → State
  | .operationResult opId operation r _ _ =>
    s.forward (s.cluster.act dst { n with outstanding := n.outstanding.erase (opId, operation) }
      (.actorEvent (.operationResult opId operation r)) 0)
  | .debug _ => s

/-- The actors stop with their node. -/
def step (s : State) : Label → Option State
  | .cluster (.result ..) => none
  | .cluster l => (s.cluster.step l).map s.forward
  | .actor _ (.execute ..) => none
  | .actor dst l =>
    match s.cluster.up dst with
    | some _ => ((s.database dst).step (.db l)).map (s.setDatabase dst)
    | none => none
  | .event dst =>
    match s.cluster.up dst, (s.database dst).channel.buffer with
    | some n, event :: rest =>
      let received := (s.database dst).channel.received ++ [event]
      some ((s.setDatabase dst { s.database dst with channel := ⟨rest, received⟩ }).handleEvent
        dst n event)
    | _, _ => none

end Step

end State

/-! ## A database and its node -/

/-- The event is the result of the command `e`. -/
def answers (e : OpId × Operation Amount) : Actors.ActorEvent → Bool
  | .operationResult opId operation .. => (opId, operation) == e
  | .debug _ => false

/-- The database works on what its node has sent it, and the node waits for the commands it
    has not received a result of. -/
structure Keeps (d : Actors.Events.State) (executed outstanding : List (OpId × Operation Amount)) :
    Prop where
  reaches : Reaches Actors.Events.State.step .init d
  commands : d.db.commands = executed
  owed : ∀ e, outstanding.count e + d.channel.received.countP (answers e) = executed.count e

section Keeps

variable {d d' : Actors.Events.State} {executed outstanding : List (OpId × Operation Amount)}

theorem Keeps.init : Keeps .init [] [] := ⟨⟨[], rfl⟩, rfl, fun _ => rfl⟩

theorem send_channel (d : Actors.Events.State) (cmd : OpId × Operation Amount) :
    (send d cmd).channel = d.channel :=
  Actors.Events.emit_none rfl

theorem Keeps.send (h : Keeps d executed outstanding) (cmd : OpId × Operation Amount) :
    Keeps (send d cmd) (executed ++ [cmd]) (outstanding ++ [cmd]) where
  reaches := by
    obtain ⟨ks, hks⟩ := h.reaches
    exact ⟨ks ++ [.db (.execute cmd.1 cmd.2)], run_concat.mpr ⟨d, hks, rfl⟩⟩
  commands := by
    show d.db.commands ++ [cmd] = _
    rw [h.commands]
  owed e := by
    have howed := h.owed e
    rw [send_channel, List.count_append, List.count_append]
    omega

theorem Keeps.sends (h : Keeps d executed outstanding) (cmds : List (OpId × Operation Amount)) :
    Keeps (cmds.foldl Databases.send d) (executed ++ cmds) (outstanding ++ cmds) := by
  induction cmds generalizing d executed outstanding with
  | nil => simpa using h
  | cons cmd cmds ih => simpa using ih (h.send cmd)

theorem received_emit {db : Actors.ActorDb} {l : Actors.Label} (hs : d.db.step l = some db) :
    (d.emit db).channel.received = d.channel.received := by
  rcases Actors.ActorDb.step_emits hs with ⟨hev, -⟩ | ⟨ev, hev, -⟩
  · rw [Actors.Events.emit_none hev]
  · rw [Actors.Events.emit_one hev]
    unfold Channel.trySend
    split <;> rfl

theorem internal_commands {s s' : Actors.ActorDb} {l : Actors.Label} (hl : l.Internal)
    (hs : s.step l = some s') : s'.commands = s.commands := by
  obtain ⟨n, o, rfl, -⟩ | ⟨m, rest, -, -, -, rfl⟩ | ⟨a, m, rest, -, -, rfl⟩ |
    ⟨k, m, rest, -, -, rfl⟩ := Actors.ActorDb.step_cases hs
  · exact hl.elim
  · rfl
  · rfl
  · rfl

theorem Keeps.actor (h : Keeps d executed outstanding) {l : Actors.Label} (hl : l.Internal)
    (hs : d.step (.db l) = some d') : Keeps d' executed outstanding := by
  have hs' := hs
  obtain ⟨db, hdb, rfl⟩ := Option.map_eq_some_iff.mp hs
  refine ⟨?_, (internal_commands hl hdb).trans h.commands, fun e => ?_⟩
  · obtain ⟨ks, hks⟩ := h.reaches
    exact ⟨ks ++ [.db l], run_concat.mpr ⟨d, hks, hs'⟩⟩
  · rw [received_emit hdb]
    exact h.owed e

theorem Keeps.recv (h : Keeps d executed outstanding) {event : Actors.ActorEvent}
    {rest : List Actors.ActorEvent} (hbuf : d.channel.buffer = event :: rest) :
    Reaches Actors.Events.State.step .init
      { d with channel := ⟨rest, d.channel.received ++ [event]⟩ } := by
  obtain ⟨ks, hks⟩ := h.reaches
  refine ⟨ks ++ [.recv], run_concat.mpr ⟨d, hks, ?_⟩⟩
  simp [Actors.Events.State.step, Channel.recv, hbuf]

/-- The next result is of a command the node still waits for. -/
theorem Keeps.awaited (h : Keeps d executed outstanding) (hid : (executed.map Prod.fst).Nodup)
    {n : OpId} {o : Operation Amount} {r : OperationResult Amount} {b : Bool}
    {err : Option VerifyError} {rest : List Actors.ActorEvent}
    (hbuf : d.channel.buffer = .operationResult n o r b err :: rest) : (n, o) ∈ outstanding := by
  obtain ⟨ks, hks⟩ := h.reaches
  have hdb := Actors.Events.reaches_db hks
  have hsub : d.channel.accepted.Sublist d.db.events :=
    run_induct (P := fun t : Actors.Events.State => t.channel.accepted.Sublist t.db.events)
      (fun _ _ _ => Actors.Events.step_sublist) hks (List.Sublist.refl [])
  have hacc : d.channel.accepted = d.channel.received ++ .operationResult n o r b err :: rest := by
    unfold Channel.accepted
    rw [hbuf]
  rw [← h.commands] at hid
  -- the id has one result, and this is the one
  have hone : d.channel.received.countP (Actors.ActorEvent.results n) = 0 := by
    have hle := (hsub.countP_le (p := Actors.ActorEvent.results n)).trans
      (Actors.once_reaches hdb hid n)
    have hids := List.nodup_iff_count_le_one.mp hid n
    have hself : Actors.ActorEvent.results n (.operationResult n o r b err) = true := by
      simp [Actors.ActorEvent.results]
    rw [hacc, List.countP_append, List.countP_cons_of_pos hself] at hle
    omega
  have hnone : d.channel.received.countP (answers (n, o)) = 0 := by
    refine Nat.le_zero.mp (hone ▸ List.countP_mono_left fun ev _ hev => ?_)
    cases ev with
    | debug text => cases hev
    | operationResult n' o' r' b' err' =>
      obtain ⟨rfl, -⟩ : n' = n ∧ o' = o := by simpa [answers] using hev
      simp [Actors.ActorEvent.results]
  have hmem : (n, o) ∈ executed := by
    have hev : .operationResult n o r b err ∈ d.db.events :=
      hsub.subset (hacc ▸ List.mem_append_right _ List.mem_cons_self)
    rw [← h.commands]
    exact (Actors.origin_reaches hdb).events _ hev
  have howed := h.owed (n, o)
  have hpos := List.count_pos_iff.mpr hmem
  exact List.count_pos_iff.mp (by omega)

theorem Keeps.result (h : Keeps d executed outstanding) (hid : (executed.map Prod.fst).Nodup)
    {n : OpId} {o : Operation Amount} {r : OperationResult Amount} {b : Bool}
    {err : Option VerifyError} {rest : List Actors.ActorEvent}
    (hbuf : d.channel.buffer = .operationResult n o r b err :: rest) :
    Keeps { d with channel := ⟨rest, d.channel.received ++ [.operationResult n o r b err]⟩ }
      executed (outstanding.erase (n, o)) where
  reaches := h.recv hbuf
  commands := h.commands
  owed e := by
    have howed := h.owed e
    have hmem := List.count_pos_iff.mpr (h.awaited hid hbuf)
    show (outstanding.erase (n, o)).count e +
      (d.channel.received ++ [Actors.ActorEvent.operationResult n o r b err]).countP (answers e) = _
    rw [List.countP_append, List.countP_singleton]
    by_cases he : e = (n, o)
    · subst he
      rw [List.count_erase_self]
      simp only [answers, beq_self_eq_true, if_true]
      omega
    · rw [List.count_erase_of_ne he]
      simp only [answers, beq_false_of_ne (Ne.symm he), Bool.false_eq_true, if_false]
      omega

theorem Keeps.debug (h : Keeps d executed outstanding) {text : String}
    {rest : List Actors.ActorEvent} (hbuf : d.channel.buffer = .debug text :: rest) :
    Keeps { d with channel := ⟨rest, d.channel.received ++ [.debug text]⟩ } executed
      outstanding where
  reaches := h.recv hbuf
  commands := h.commands
  owed e := by
    show _ + (d.channel.received ++ [Actors.ActorEvent.debug text]).countP (answers e) = _
    rw [List.countP_append]
    exact h.owed e

end Keeps

/-! ## The nodes -/

/-- What the nodes send their databases in a step that is no result. -/
def Grows (c c' : Cluster.State Amount) : Prop :=
  ∀ a, ∃ new, executed c' a = executed c a ++ new ∧ outstanding c' a = outstanding c a ++ new

section Nodes

variable {c c' : Cluster.State Amount} {a : SocketAddr} {n n' : NodeState Amount}

omit [Currency Amount] in
theorem executed_of_node (h : c.node a = some n) : executed c a = n.executed := by
  rw [executed, h]
  rfl

omit [Currency Amount] in
theorem outstanding_of_node (h : c.node a = some n) : outstanding c a = n.outstanding := by
  rw [outstanding, h]
  rfl

omit [Currency Amount] in
/-- One node moves on, and the others stay as they are. -/
theorem Grows.update (h : c.node a = some n) (hc : c'.node = Function.update c.node a (some n'))
    (new : List (OpId × Operation Amount)) (hexec : n'.executed = n.executed ++ new)
    (hout : n'.outstanding = n.outstanding ++ new) : Grows c c' := by
  intro b
  by_cases hb : b = a
  · subst hb
    have hn' : c'.node b = some n' := by rw [hc, Function.update_self]
    rw [executed_of_node h, outstanding_of_node h, executed_of_node hn', outstanding_of_node hn']
    exact ⟨new, hexec, hout⟩
  · have hsame : c'.node b = c.node b := by rw [hc, Function.update_of_ne hb]
    refine ⟨[], ?_, ?_⟩ <;> rw [List.append_nil]
    · rw [executed, executed, hsame]
    · rw [outstanding, outstanding, hsame]

variable [AddrHash]

omit [Currency Amount] in
theorem act_grows (h : c.node a = some n) (hexec : n'.executed = n.executed)
    (hout : n'.outstanding = n.outstanding) (event : Event Amount) (now : Nat)
    (hc : c'.node = c.node) : Grows c (c'.act a n' event now) := by
  cases hended : ended (NodeRuntime.turn event (n'.task now)) with
  | mk fault t =>
    have hnode : (c'.act a n' event now).node =
        Function.update c.node a (some (n'.after event fault t)) := by
      rw [act_eq hended, hc]
    refine .update h hnode t.commands ?_ ?_
    · rw [after_executed, hexec]
    · rw [after_outstanding, hout]

omit [Currency Amount] in
/-- **What a step sends.** -/
theorem step_grows {l : Cluster.Label Amount} (hl : ∀ dst k r, l ≠ .result dst k r)
    (hs : c.step l = some c') : Grows c c' := by
  cases l with
  | request dst reqId op addr =>
    obtain ⟨n, hup, rfl⟩ := Option.map_eq_some_iff.mp hs
    exact act_grows (up_eq_some.mp hup).1 rfl rfl _ _ rfl
  | station dst msg =>
    obtain ⟨n, hup, rfl⟩ := Option.map_eq_some_iff.mp hs
    exact act_grows (up_eq_some.mp hup).1 rfl rfl _ _ rfl
  | deliver src dst =>
    simp only [Cluster.State.step] at hs
    split at hs
    · rename_i n m rest hup hlink
      obtain rfl := Option.some.inj hs
      refine act_grows (up_eq_some.mp hup).1 ?_ ?_ _ _ ?_ <;> rfl
    · cases hs
  | result dst k r => exact absurd rfl (hl dst k r)
  | lost dst addr =>
    obtain ⟨n, hup, rfl⟩ := Option.map_eq_some_iff.mp hs
    exact act_grows (up_eq_some.mp hup).1 rfl rfl _ _ rfl
  | check dst now =>
    obtain ⟨n, hup, rfl⟩ := Option.map_eq_some_iff.mp hs
    exact act_grows (up_eq_some.mp hup).1 rfl rfl _ _ rfl
  | crash dst =>
    obtain ⟨n, hup, rfl⟩ := Option.map_eq_some_iff.mp hs
    exact .update (up_eq_some.mp hup).1 rfl [] (List.append_nil _).symm (List.append_nil _).symm
  | promote dst =>
    obtain ⟨n, hup, rfl⟩ := Option.map_eq_some_iff.mp hs
    exact .update (up_eq_some.mp hup).1 rfl [] (List.append_nil _).symm (List.append_nil _).symm

end Nodes

/-! ## The simulation -/

namespace State

variable {s s' : State}

/-- Every database and its node keep each other's books. -/
def Kept (s : State) : Prop :=
  ∀ a, Keeps (s.database a) (executed s.cluster a) (outstanding s.cluster a)

/-- No node has sent the same id twice. -/
def Distinct (s : State) : Prop := ∀ a, ((executed s.cluster a).map Prod.fst).Nodup

theorem Kept.forward (h : s.Kept) {c : Cluster.State Amount} (hc : Grows s.cluster c) :
    (s.forward c).Kept := by
  intro a
  obtain ⟨new, hexec, hout⟩ := hc a
  have hdb : (s.forward c).database a = new.foldl send (s.database a) := by
    unfold State.forward
    dsimp only
    rw [hexec, List.drop_left]
  rw [hdb]
  show Keeps _ (executed c a) (outstanding c a)
  rw [hexec, hout]
  exact (h a).sends new

theorem Kept.setDatabase (h : s.Kept) {a : SocketAddr} {d : Actors.Events.State}
    (hd : Keeps d (executed s.cluster a) (outstanding s.cluster a)) :
    (s.setDatabase a d).Kept := by
  intro b
  unfold State.setDatabase
  dsimp only
  by_cases hb : b = a
  · subst hb
    rw [Function.update_self]
    exact hd
  · rw [Function.update_of_ne hb]
    exact h b

end State

/-- The steps of the cluster without databases that follow a step with them. -/
inductive Matches : Label → List (Cluster.Label Amount) → Prop where
  | cluster (l : Cluster.Label Amount) : Matches (.cluster l) [l]
  | actor (dst : SocketAddr) (l : Actors.Label) : Matches (.actor dst l) []
  | debug (dst : SocketAddr) : Matches (.event dst) []
  | result (dst : SocketAddr) (k : Nat) (r : OperationResult Amount) :
      Matches (.event dst) [.result dst k r]

section Simulation

variable [AddrHash] {s s' : State} {l : Label}

/-- The state after node `dst` has taken `event` off the channel. -/
def State.receive (s : State) (dst : SocketAddr) (event : Actors.ActorEvent)
    (rest : List Actors.ActorEvent) : State :=
  s.setDatabase dst { s.database dst with
    channel := ⟨rest, (s.database dst).channel.received ++ [event]⟩ }

/-- **What a step can do.** -/
inductive Does (s : State) : Label → State → Prop where
  | cluster {l : Cluster.Label Amount} {c : Cluster.State Amount}
      (hl : ∀ dst k r, l ≠ .result dst k r) (hc : s.cluster.step l = some c) :
      Does s (.cluster l) (s.forward c)
  | actor {dst : SocketAddr} {l : Actors.Label} {d : Actors.Events.State} (hl : l.Internal)
      (hd : (s.database dst).step (.db l) = some d) : Does s (.actor dst l) (s.setDatabase dst d)
  | event {dst : SocketAddr} {n : NodeState Amount} {event : Actors.ActorEvent}
      {rest : List Actors.ActorEvent} (hup : s.cluster.up dst = some n)
      (hbuf : (s.database dst).channel.buffer = event :: rest) :
      Does s (.event dst) ((s.receive dst event rest).handleEvent dst n event)

theorem step_does (hs : s.step l = some s') : Does s l s' := by
  cases l with
  | cluster l =>
    have hl : ∀ dst k r, l ≠ .result dst k r := by
      rintro dst k r rfl
      cases hs
    have hmap : (s.cluster.step l).map s.forward = some s' := by
      cases l <;> first | exact hs | exact absurd rfl (hl _ _ _)
    obtain ⟨c, hc, rfl⟩ := Option.map_eq_some_iff.mp hmap
    exact .cluster hl hc
  | actor dst l =>
    have hl : l.Internal := by
      cases l with
      | execute n o => cases hs
      | _ => exact True.intro
    have hmap : ((s.database dst).step (.db l)).map (s.setDatabase dst) = some s' := by
      cases hup : s.cluster.up dst with
      | none => cases l <;> simp [State.step, hup] at hs
      | some n => cases l <;> simp_all [State.step]
    obtain ⟨d, hd, rfl⟩ := Option.map_eq_some_iff.mp hmap
    exact .actor hl hd
  | event dst =>
    cases hup : s.cluster.up dst with
    | none => simp [State.step, hup] at hs
    | some n =>
      cases hbuf : (s.database dst).channel.buffer with
      | nil => simp [State.step, hup, hbuf] at hs
      | cons event rest =>
        simp only [State.step, hup, hbuf, Option.some.injEq] at hs
        subst hs
        exact .event hup hbuf

/-- A node handles a result. -/
theorem step_result (h : s.Kept) (hid : s.Distinct) {dst : SocketAddr} {n : NodeState Amount}
    (hup : s.cluster.up dst = some n) {opId : OpId} {o : Operation Amount}
    {r : OperationResult Amount} {b : Bool} {err : Option VerifyError}
    {rest : List Actors.ActorEvent}
    (hbuf : (s.database dst).channel.buffer = .operationResult opId o r b err :: rest)
    (hs : s' = (s.receive dst (.operationResult opId o r b err) rest).handleEvent dst n
      (.operationResult opId o r b err)) :
    s'.Kept ∧ ∃ k, s.cluster.step (.result dst k r) = some s'.cluster := by
  obtain ⟨hnode, -⟩ := up_eq_some.mp hup
  have hkeeps := h dst
  have hids := hid dst
  rw [executed_of_node hnode, outstanding_of_node hnode] at hkeeps
  rw [executed_of_node hnode] at hids
  have hmem := hkeeps.awaited hids hbuf
  -- the node after the result has left the list
  let n₁ : NodeState Amount := { n with outstanding := n.outstanding.erase (opId, o) }
  let c₁ : Cluster.State Amount := s.cluster.setNode dst n₁
  have hnode₁ : c₁.node dst = some n₁ := Function.update_self ..
  let s₁ : State :=
    { cluster := c₁
      database := Function.update s.database dst { s.database dst with
        channel := ⟨rest, (s.database dst).channel.received ++ [.operationResult opId o r b err]⟩ } }
  have hexec : ∀ a, executed c₁ a = executed s.cluster a := by
    intro a
    by_cases ha : a = dst
    · subst ha
      rw [executed_of_node hnode₁, executed_of_node hnode]
    · have hsame : c₁.node a = s.cluster.node a := Function.update_of_ne ha ..
      rw [executed, executed, hsame]
  have hkept : s₁.Kept := by
    intro a
    by_cases ha : a = dst
    · subst ha
      show Keeps (Function.update s.database a _ a) (executed c₁ a) (outstanding c₁ a)
      rw [Function.update_self, executed_of_node hnode₁, outstanding_of_node hnode₁]
      exact hkeeps.result hids hbuf
    · have hsame : c₁.node a = s.cluster.node a := Function.update_of_ne ha ..
      show Keeps (Function.update s.database dst _ a) (executed c₁ a) (outstanding c₁ a)
      rw [Function.update_of_ne ha, hexec, outstanding, hsame]
      exact h a
  let event : Event Amount := .actorEvent (.operationResult opId o r)
  have hact : c₁.act dst n₁ event 0 = s.cluster.act dst n₁ event 0 := by
    unfold Cluster.State.act c₁ Cluster.State.setNode
    dsimp only
    rw [Function.update_idem]
  have hs₁ : s' = s₁.forward (s.cluster.act dst n₁ event 0) := by
    rw [hs]
    unfold State.handleEvent State.receive State.forward State.setDatabase
    simp only [s₁, hexec]
    rfl
  refine ⟨?_, n.outstanding.idxOf (opId, o), ?_⟩
  · rw [hs₁]
    refine hkept.forward ?_
    rw [← hact]
    exact act_grows hnode₁ rfl rfl event 0 rfl
  · have hk : n.outstanding[n.outstanding.idxOf (opId, o)]? = some (opId, o) :=
      List.getElem?_idxOf hmem
    simp only [Cluster.State.step, hup, hk, List.eraseIdx_idxOf_eq_erase]
    rw [hs₁]
    rfl

/-- **One step with databases is one step without them, or none.** -/
theorem step_matches (h : s.Kept) (hid : s.Distinct) (hs : s.step l = some s') :
    s'.Kept ∧ ∃ ms, Matches l ms ∧ Cluster.run s.cluster ms = some s'.cluster := by
  cases step_does hs with
  | @cluster l c hl hc =>
    refine ⟨h.forward (step_grows hl hc), [l], .cluster l, ?_⟩
    rw [Cluster.run, run_cons]
    exact ⟨c, hc, rfl⟩
  | @actor dst l d hl hd =>
    exact ⟨h.setDatabase ((h dst).actor hl hd), [], .actor dst l, rfl⟩
  | @event dst n event rest hup hbuf =>
    cases event with
    | operationResult opId o r b err =>
      obtain ⟨hkept, k, hk⟩ := step_result h hid hup hbuf rfl
      refine ⟨hkept, [.result dst k r], .result dst k r, ?_⟩
      rw [Cluster.run, run_cons]
      exact ⟨_, hk, rfl⟩
    | debug text => exact ⟨h.setDatabase ((h dst).debug hbuf), [], .debug dst, rfl⟩

/-- What a node has sent its database stays sent. -/
theorem step_executed (hs : s.step l = some s') (a : SocketAddr) :
    executed s.cluster a <+: executed s'.cluster a := by
  have hgrows : ∀ {c : Cluster.State Amount}, Grows s.cluster c →
      executed s.cluster a <+: executed c a := by
    intro c hc
    obtain ⟨new, hexec, -⟩ := hc a
    exact ⟨new, hexec.symm⟩
  cases step_does hs with
  | cluster hl hc => exact hgrows (step_grows hl hc)
  | actor => exact List.prefix_refl _
  | @event dst n event rest hup hbuf =>
    cases event with
    | debug text => exact List.prefix_refl _
    | operationResult opId o r b err =>
      show executed s.cluster a <+: executed (s.cluster.act dst _ _ 0) a
      by_cases ha : a = dst
      · subst ha
        rw [executed_of_node (up_eq_some.mp hup).1,
          executed_of_node (c := s.cluster.act a _ _ 0) (Function.update_self ..)]
        exact List.prefix_append _ _
      · have hsame : ∀ n' ev, (s.cluster.act dst n' ev 0).node a = s.cluster.node a :=
          fun n' ev => Function.update_of_ne ha ..
        rw [executed, executed, hsame]

theorem reaches_executed (hr : Reaches State.step s s') (a : SocketAddr) :
    executed s.cluster a <+: executed s'.cluster a :=
  hr.induct (P := fun t => executed s.cluster a <+: executed t.cluster a)
    (fun _ _ _ hi hs => hi.trans (step_executed hs a)) (List.prefix_refl _)

end Simulation

end YpfRuta.Cluster.Databases
