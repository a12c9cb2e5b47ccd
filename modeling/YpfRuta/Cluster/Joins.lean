/-
  A leader and its own database: joins, requests, acks, lost peers and installed views
  in any order, with the database's steps and its results in between.

  A join makes the database collect a snapshot, and the result becomes the joiner's
  view. All joins go under op id 0, and the router has one slot for an id: every joiner
  gets its view as long as no command under id 0 reaches the router while a snapshot is
  still collected under it.
-/
import YpfRuta.Actors.Fragments
import YpfRuta.Cluster.Steady
import YpfRuta.Server.Outcome

namespace YpfRuta.Cluster.Joins

open Server Lib
open Actors (ActorDb Ask SnapshotBook Formed)

section

variable {Amount : Type} [Currency Amount]

/-! ## The leader with its database -/

/-- `handled` counts the events of the database the leader has taken. `sent` are the
    messages it sent, `joined` the joins it handled, and `asked` the requests for a
    snapshot under id 0 as its router handled them. -/
structure State where
  leader : Leader Amount
  db : ActorDb
  handled : Nat
  sent : List (SocketAddr × Message Amount)
  joined : List SocketAddr
  asked : List Ask

inductive Label where
  | join (addr : SocketAddr)
  | request (reqId : ReqId) (op : Operation Amount) (addr : SocketAddr)
  | ack (opId : OpId)
  | lost (addr : SocketAddr)
  /-- Another leader's view, handled at time `now`. -/
  | view (members : List (NodeId × SocketAddr)) (leaderAddr : SocketAddr)
      (snapshot : DatabaseSnapshot Amount) (now : Nat)
  /-- The leader takes the next event of its database. -/
  | result
  /-- An actor of the database handles a message. -/
  | db (l : Actors.Label)

/-- The database's event as the node reads it. -/
def nodeEvent : Actors.ActorEvent → ActorEvent Amount
  | .operationResult opId operation result _ _ => .operationResult opId operation result
  | .debug text => .debug text

/-- The commands of a turn reach the database. -/
def commanded (db : ActorDb) (cs : List (OpId × Operation Amount)) : ActorDb :=
  cs.foldl (fun db c => db.execute c.1 c.2) db

namespace State

/-- What a turn starts with: every send succeeds. -/
def task (s : State) (now : Nat) : Task Amount (Leader Amount) where
  self := s.leader
  connected := true
  outcomes := []
  now := now
  sent := []
  told := []
  commands := []

/-- One turn of the leader. It takes none that panics or changes its role. -/
def turn [AddrHash] (s : State) (event : Event Amount) (now : Nat) : Option State :=
  match Node.runOnce event (s.task now) with
  | .ok .none t => some { s with
      leader := t.self
      db := commanded s.db t.commands
      sent := s.sent ++ t.sent }
  | _ => none

def step [AddrHash] (s : State) : Label → Option State
  | .join addr =>
    (s.turn (.nodeMsg (.ok (.join addr))) 0).map fun s => { s with joined := s.joined ++ [addr] }
  | .request reqId op addr =>
    if IsRequest op then s.turn (.nodeMsg (.ok (.request reqId op addr))) 0 else none
  | .ack opId => s.turn (.nodeMsg (.ok (.ack opId))) 0
  | .lost addr => s.turn (.nodeMsg (.error (.connectionLostWith addr))) 0
  | .view members leaderAddr snapshot now =>
    s.turn (.nodeMsg (.ok (.clusterView members leaderAddr snapshot))) now
  | .result =>
    match s.db.events[s.handled]? with
    | some e =>
      (s.turn (.actorEvent (nodeEvent e)) 0).map fun s => { s with handled := s.handled + 1 }
    | none => none
  | .db l =>
    if l.dest = .node then none
    else (s.db.step l).map fun db => { s with
      db := db
      asked := s.asked ++ ((s.db.next l).bind (Actors.Send.ask? 0 s.db.router)).toList }

/-- A command under id 0 reaches the router while a snapshot is collected under it. -/
def Overlaps (s : State) : Label → Bool
  | .db l => s.db.Overlaps 0 l
  | _ => false

end State

/-- The view a message brings to its addressee. -/
def clusterView? : SocketAddr × Message Amount → Option Actors.View
  | (addr, .clusterView _ _ snapshot) => some (addr, snapshot)
  | _ => none

/-- The views the leader has sent. -/
def State.views (s : State) : List Actors.View := s.sent.filterMap clusterView?

/-- The snapshots sent to one address. -/
def State.viewsTo (s : State) (addr : SocketAddr) : List (DatabaseSnapshot Amount) :=
  (s.views.filter fun v => v.1 = addr).map Prod.snd

/-- Nothing is left to do. -/
structure State.Quiescent (s : State) : Prop where
  db : s.db.Quiescent
  handled : s.handled = s.db.events.length

/-- The leader's pending operations come from clients. -/
def Requested (self : Leader Amount) : Prop :=
  ∀ opId p, self.operations.lookup opId = some p → IsRequest p.op

/-- Where a run starts: any leader and any database, with no snapshot under way. -/
structure State.Fresh (s : State) : Prop where
  requested : Requested s.leader
  formed : Formed s.db
  free : ∀ n, s.db.router.pendingDbSnapshots n = none
  flight : ∃ flight, s.db.InFlight flight ∧ (∀ y ∈ flight, y.source? 0 = none) ∧
    ∀ n addr, .router (.execute n (.getDatabase addr)) ∉ flight
  taken : (s.db.events.take s.handled).filterMap Actors.ActorEvent.view? = s.db.views
  handled : s.handled ≤ s.db.events.length
  sent : s.sent = []
  joined : s.joined = []
  asked : s.asked = []

/-! ## A turn of the leader -/

/-- What a turn does: commands for the database, and views. -/
structure Turned (s s' : State) (cs : List (OpId × Operation Amount)) (vs : List Actors.View) : Prop where
  requested : Requested s'.leader
  db : s'.db = commanded s.db cs
  views : s'.views = s.views ++ vs
  handled : s'.handled = s.handled
  joined : s'.joined = s.joined
  asked : s'.asked = s.asked

section Turn

variable [AddrHash] {s s' : State} {event : Event Amount} {now : Nat}
  {t : Task Amount (Leader Amount)}

omit [AddrHash] in
theorem task_reliable (s : State) (now : Nat) : (s.task now).Reliable := ⟨rfl, rfl⟩

theorem Turned.of_runOnce (h : s.turn event now = some s')
    (hturn : Node.runOnce event (s.task now) = .ok .none t) (hreq : Requested t.self) :
    Turned s s' t.commands (t.sent.filterMap clusterView?) := by
  unfold State.turn at h
  rw [hturn] at h
  obtain rfl := Option.some.inj h
  exact ⟨hreq, rfl, List.filterMap_append .., rfl, rfl, rfl⟩

theorem turn_panics {m : String} (h : Node.select event (s.task now) = .error (.panic m) t) :
    s.turn event now = none := by
  unfold State.turn
  rw [runOnce_panics h]

/-- The handler of a message that gives no role change, as a turn. -/
theorem select_then (msg : Message Amount) {x : Handler Amount (Leader Amount) Unit}
    {t' : Task Amount (Leader Amount)}
    (hsel : ∀ t, Node.select (.nodeMsg (.ok msg)) t = (x >>= fun _ => pure RoleChange.none) t)
    (hx : x (s.task now) = .ok () t') :
    Node.select (.nodeMsg (.ok msg)) (s.task now) = .ok .none t' := by
  rw [hsel]
  exact bind_ok hx

omit [AddrHash] in
/-- One message to several addresses, and not a view. -/
theorem no_views_map {β : Type} (xs : List β) (addr : β → SocketAddr) (msg : Message Amount)
    (h : ∀ a, clusterView? (a, msg) = none) :
    (xs.map fun x => (addr x, msg)).filterMap clusterView? = [] := by
  refine List.filterMap_eq_nil_iff.mpr fun x hx => ?_
  obtain ⟨y, -, rfl⟩ := List.mem_map.mp hx
  exact h _

omit [AddrHash] in
omit [Currency Amount] in
/-- One more pending operation from a client. -/
theorem Requested.insert {self : Leader Amount} (h : Requested self) {opId : OpId}
    {p : PendingOperation Amount} (hp : IsRequest p.op) :
    Requested { self with operations := self.operations.insert opId p } := by
  intro opId' p' hp'
  by_cases hn : opId' = opId
  · subst hn
    have hsame : (self.operations.insert opId' p).lookup opId' = some p := AList.lookup_insert _
    obtain rfl : p = p' := Option.some.inj (hsame.symm.trans hp')
    exact hp
  · exact h opId' p' ((AList.lookup_insert_ne hn).symm.trans hp')

omit [AddrHash] in
omit [Currency Amount] in
theorem Requested.erase {self : Leader Amount} (h : Requested self) (opId : OpId) :
    Requested { self with operations := self.operations.erase opId } := by
  intro opId' p' hp'
  by_cases hn : opId' = opId
  · subst hn
    rw [show _ = none from AList.lookup_erase ..] at hp'
    cases hp'
  · exact h opId' p' ((AList.lookup_erase_ne hn).symm.trans hp')

theorem turn_join (hreq : Requested s.leader) {addr : SocketAddr}
    (h : s.turn (.nodeMsg (.ok (.join addr))) 0 = some s') :
    Turned s s' [(0, .getDatabase addr)] [] := by
  have hjoin := select_then (.join addr) (fun _ => rfl)
    (Leader.handleJoin_ok (task_reliable s 0) addr)
  have hturn := Turned.of_runOnce h (runOnce_ok hjoin) hreq
  have hviews := no_views_map ((s.leader.enroll addr).cluster.values.filter
    fun a => ¬ (a = s.leader.address ∨ a = addr)) id (.clusterUpdate (getIdGivenAddr addr, addr))
    fun _ => rfl
  rw [← hviews]
  exact hturn

theorem turn_lost (hreq : Requested s.leader) {addr : SocketAddr}
    (h : s.turn (.nodeMsg (.error (.connectionLostWith addr))) 0 = some s') :
    Turned s s' [] [] :=
  Turned.of_runOnce h (runOnce_lost (Leader.handleConnectionLostWith_ok addr)) hreq

omit [AddrHash] in
theorem elect_views (self : Leader Amount) (now : Nat) :
    (self.elect now).2.filterMap clusterView? = [] := by
  unfold Leader.elect
  split
  · rfl
  · split
    · exact no_views_map _ Prod.snd (.coordinator self.id self.address) fun _ => rfl
    · exact no_views_map _ Prod.snd (.election self.id self.address) fun _ => rfl

omit [AddrHash] in
omit [Currency Amount] in
theorem elect_operations (self : Leader Amount) (now : Nat) :
    (self.elect now).1.operations = self.operations := by
  unfold Leader.elect
  split
  · rfl
  · split <;> rfl

theorem turn_view (hreq : Requested s.leader) {members : List (NodeId × SocketAddr)}
    {leaderAddr : SocketAddr} {snapshot : DatabaseSnapshot Amount}
    (h : s.turn (.nodeMsg (.ok (.clusterView members leaderAddr snapshot))) now = some s') :
    Turned s s' [(0, .replaceDatabase snapshot)] [] := by
  have hview := select_then (.clusterView members leaderAddr snapshot)
    (fun _ => rfl) (Leader.handleClusterView_ok (task_reliable s now) members leaderAddr snapshot)
  have hturn := Turned.of_runOnce h (runOnce_ok hview) (by
    unfold Requested
    rw [elect_operations]
    exact hreq)
  rw [← elect_views { s.leader with cluster := viewed members } now]
  exact hturn

/-- A request of a client goes to the database at once, or waits for acks. -/
theorem turn_request (hreq : Requested s.leader) {reqId : ReqId} {op : Operation Amount}
    {addr : SocketAddr} (hop : IsRequest op)
    (h : s.turn (.nodeMsg (.ok (.request reqId op addr))) 0 = some s') :
    ∃ cs, (∀ c ∈ cs, IsRequest c.2) ∧ Turned s s' cs [] := by
  have hstored : Requested (s.leader.store reqId op addr) := hreq.insert hop
  by_cases hlen : s.leader.cluster.len = 1
  · have hlone := select_then (.request reqId op addr) (fun _ => rfl)
      (Leader.handleRequest_lone (t := s.task 0) hlen reqId op addr)
    refine ⟨_, ?_, Turned.of_runOnce h (runOnce_ok hlone) hstored⟩
    rintro c hc
    obtain rfl := List.mem_singleton.mp hc
    exact hop
  · by_cases hsize : s.leader.currentOpId.toNat + 1 < UInt32.size
    · have hrepl := select_then (.request reqId op addr) (fun _ => rfl)
        (Leader.handleRequest_replicated (task_reliable s 0) hlen hsize reqId op addr)
      have hviews := no_views_map s.leader.peers id (.log s.leader.currentOpId op) fun _ => rfl
      refine ⟨[], nofun, ?_⟩
      rw [← hviews]
      exact Turned.of_runOnce h (runOnce_ok hrepl) hstored
    · have hover := Leader.handleRequest_overflow (task_reliable s 0) hlen hsize reqId op addr
      rw [turn_panics (bind_error hover)] at h
      cases h

theorem turn_ack (hreq : Requested s.leader) {opId : OpId}
    (h : s.turn (.nodeMsg (.ok (.ack opId))) 0 = some s') :
    ∃ cs, (∀ c ∈ cs, IsRequest c.2) ∧ Turned s s' cs [] := by
  cases hp : s.leader.operations.lookup opId with
  | none =>
    have hunknown := select_then (.ack opId) (fun _ => rfl)
      (Leader.handleAck_unknown (t := s.task 0) hp)
    exact ⟨[], nofun, Turned.of_runOnce h (runOnce_ok hunknown) hreq⟩
  | some p =>
    have hop : IsRequest p.op := hreq opId p hp
    have hcounted : Requested (s.leader.count opId p) := hreq.insert hop
    by_cases hq : p.ackCount + 1 = quorum s.leader.cluster.len ∨ s.leader.cluster.len = 2
    · have hexec := select_then (.ack opId) (fun _ => rfl)
        (Leader.handleAck_executes (t := s.task 0) hp hq)
      refine ⟨_, ?_, Turned.of_runOnce h (runOnce_ok hexec) hcounted⟩
      intro c hc
      obtain rfl := List.mem_singleton.mp hc
      exact hop
    · obtain ⟨hne, hlen⟩ := not_or.mp hq
      by_cases hpos : s.leader.cluster.len = 0
      · have hpanic := Leader.handleAck_panics (t := s.task 0) hp hne hpos
        rw [turn_panics (bind_error hpanic)] at h
        cases h
      · have hwait := select_then (.ack opId) (fun _ => rfl)
          (Leader.handleAck_waits (t := s.task 0) hp hne hlen hpos)
        exact ⟨[], nofun, Turned.of_runOnce h (runOnce_ok hwait) hcounted⟩

omit [AddrHash] in
/-- A result is answered with a view exactly when it is a snapshot that was asked for. -/
theorem reply_views (self : Leader Amount) (p : PendingOperation Amount) (opId : OpId)
    (op : Operation Amount) (r : OperationResult Amount) (b : Bool) (e : Option VerifyError) :
    (self.reply p op r).1.filterMap clusterView? =
      (Actors.ActorEvent.view? (.operationResult opId op r b e)).toList := by
  have hother : ∀ m : List (SocketAddr × Message Amount) × List NodeToStationMsg,
      (m.1 = [] ∨ ∃ addr reqId res, m.1 = [(addr, .response reqId res)]) →
      m.1.filterMap clusterView? = [] := by
    rintro m (hm | ⟨addr, reqId, res, hm⟩) <;> rw [hm] <;> rfl
  cases op with
  | getDatabase addr => cases r <;> rfl
  | replaceDatabase snapshot => rfl
  | charge a c amount off =>
    refine hother _ ?_
    unfold Leader.reply
    dsimp only
    split
    · cases r <;> exact Or.inl rfl
    · exact Or.inr ⟨_, _, _, rfl⟩
  | _ =>
    refine hother _ ?_
    unfold Leader.reply
    dsimp only
    split
    · exact Or.inl rfl
    · exact Or.inr ⟨_, _, _, rfl⟩

/-- An event of the database. -/
theorem turn_event (hreq : Requested s.leader) (e : Actors.ActorEvent)
    (h : s.turn (.actorEvent (nodeEvent e)) 0 = some s') :
    Turned s s' [] e.view?.toList := by
  cases e with
  | debug text =>
    have hsel : Node.select (.actorEvent (.debug text)) (s.task 0) = .ok .none (s.task 0) := rfl
    exact Turned.of_runOnce h (runOnce_ok hsel) hreq
  | operationResult opId op r b e =>
    have hdone : ∀ {p : PendingOperation Amount} {t : Task Amount (Leader Amount)},
        Leader.takePending opId op (s.task 0) = .ok p t → t.sent = [] → t.commands = [] →
        t.Reliable → Requested t.self →
        Turned s s' [] (Actors.ActorEvent.view? (.operationResult opId op r b e)).toList := by
      intro p t htake hsent hcommands hrel hself
      have hres := Leader.handleOperationResult_ok htake hrel r
      have hturn := Turned.of_runOnce h (runOnce_ok (select_result hres)) hself
      rw [← reply_views t.self p opId op r b e, ← hcommands]
      dsimp only at hturn
      rw [hsent, List.nil_append] at hturn
      exact hturn
    by_cases hid : opId = 0
    · subst hid
      exact hdone (Leader.takePending_zero op) rfl rfl ⟨rfl, rfl⟩ hreq
    · cases hp : s.leader.operations.lookup opId with
      | none =>
        have hpanic : Leader.handleOperationResult opId op r (s.task 0) = .error _ (s.task 0) :=
          bind_error (Leader.takePending_panics (t := s.task 0) hid hp op)
        have hnone : s.turn (.actorEvent (.operationResult opId op r)) 0 = none :=
          turn_panics (select_result_panics hpanic)
        cases h.symm.trans hnone
      | some p =>
        exact hdone (Leader.takePending_ok (t := s.task 0) hid hp op) rfl rfl ⟨rfl, rfl⟩
          (hreq.erase opId)

end Turn

/-! ## Joins that wait for the router -/

/-- A join's command, as a message to the router. -/
def joinOf? : Actors.Send → Option SocketAddr
  | .router (.execute n (.getDatabase addr)) => if n = 0 then some addr else none
  | _ => none

theorem joinOf_command {n : OpId} {o : Operation Amount} (ho : ∀ addr, o ≠ .getDatabase addr) :
    joinOf? (.router (.execute n o)) = none := by
  cases o with
  | getDatabase addr => exact absurd rfl (ho addr)
  | _ => rfl

/-- The joins whose commands the router has not handled yet. -/
def waiting (db : ActorDb) : List SocketAddr := (db.mailbox .router).filterMap joinOf?

theorem joinOf_ask (r : Actors.ActorRouter) (y : Actors.Send) :
    joinOf? y = (y.ask? 0 r).map Ask.addr := by
  cases y with
  | router m =>
    cases m with
    | execute n o =>
      cases o with
      | getDatabase addr =>
        unfold joinOf? Actors.Send.ask?
        dsimp only
        split <;> rfl
      | _ => rfl
    | _ => rfl
  | _ => rfl

/-- A join leaves the router's mailbox when it is asked for. -/
theorem waiting_step {db db' : ActorDb} {l : Actors.Label} (hl : l.Internal)
    (h : db.step l = some db') :
    waiting db = ((db.next l).bind (Actors.Send.ask? 0 db.router)).toList.map Ask.addr ++
      waiting db' := by
  obtain ⟨x, rest, hx, hdest, hbox, -, -, hmail⟩ := ActorDb.step_mailbox hl h
  have hnext : db.next l = some x := by
    unfold ActorDb.next
    rw [← hdest, hbox]
    rfl
  have hsent : (Actors.mailFor .router (db.states.handle x).2).filterMap joinOf? = [] := by
    refine List.filterMap_eq_nil_iff.mpr fun y hy => ?_
    by_contra hjoin
    rw [joinOf_ask db.router] at hjoin
    have hmem := (List.mem_filter.mp hy).1
    cases y with
    | router m =>
      cases m with
      | execute n o => exact Actors.ActorStates.handle_commands _ x n o hmem
      | _ => exact hjoin rfl
    | _ => exact hjoin rfl
  have hnew := hmail .router (by decide)
  unfold waiting
  rw [hnew, List.filterMap_append, hsent, List.append_nil, hnext, Option.bind_some]
  by_cases hrouter : x.dest = .router
  · rw [if_pos hrouter.symm, ← hrouter, hbox, List.filterMap_cons, joinOf_ask db.router]
    cases x.ask? 0 db.router <;> rfl
  · rw [if_neg (Ne.symm hrouter)]
    have hnone : x.ask? 0 db.router = none := by
      cases x with
      | router m => exact absurd rfl hrouter
      | _ => rfl
    rw [hnone]
    rfl

theorem waiting_commanded (db : ActorDb) (cs : List (OpId × Operation Amount)) :
    waiting (commanded db cs) = waiting db ++
      (cs.map fun c => Actors.Send.router (.execute c.1 c.2)).filterMap joinOf? := by
  induction cs generalizing db with
  | nil => exact (List.append_nil _).symm
  | cons c cs ih =>
    have hone : waiting (db.execute c.1 c.2) = waiting db ++
        [Actors.Send.router (.execute c.1 c.2)].filterMap joinOf? := by
      unfold waiting
      show ((db.routerBox ++ [Actors.RouterMsg.execute c.1 c.2]).map _).filterMap _ = _
      rw [List.map_append, List.filterMap_append]
      rfl
    show waiting (commanded (db.execute c.1 c.2) cs) = _
    rw [ih, hone, List.append_assoc, ← List.filterMap_append]
    rfl

theorem commanded_events (db : ActorDb) (cs : List (OpId × Operation Amount)) :
    (commanded db cs).events = db.events := by
  induction cs generalizing db with
  | nil => rfl
  | cons c cs ih => exact ih (db.execute c.1 c.2)

theorem formed_commanded {db : ActorDb} (h : Formed db) (cs : List (OpId × Operation Amount)) :
    Formed (commanded db cs) := by
  induction cs generalizing db with
  | nil => exact h
  | cons c cs ih => exact ih (h.step (l := .execute c.1 c.2) rfl)

theorem snapshots_commanded {old : List Actors.View} {db : ActorDb} {asked : List Ask}
    {cs : List (OpId × Operation Amount)} (hcs : ∀ c ∈ cs, ∀ addr, c.2 = .getDatabase addr → c.1 = 0)
    (h : ∃ flight, SnapshotBook 0 old db flight asked) :
    ∃ flight, SnapshotBook 0 old (commanded db cs) flight asked := by
  induction cs generalizing db with
  | nil => exact h
  | cons c cs ih =>
    obtain ⟨flight, h⟩ := h
    exact ih (fun d hd => hcs d (List.mem_cons_of_mem _ hd))
      ⟨_, h.command (hcs c List.mem_cons_self)⟩

/-! ## Every join is answered -/

/-- The joins are asked for in order, or wait for it, and the views sent are those the
    leader has taken from its database. -/
structure Book (old : List Actors.View) (s : State) : Prop where
  requested : Requested s.leader
  formed : Formed s.db
  snapshots : ∃ flight, SnapshotBook 0 old s.db flight s.asked
  joins : s.joined = s.asked.map Ask.addr ++ waiting s.db
  views : (s.db.events.take s.handled).filterMap Actors.ActorEvent.view? = old ++ s.views
  handled : s.handled ≤ s.db.events.length

theorem Book.fresh {s : State} (h : s.Fresh) : Book s.db.views s where
  requested := h.requested
  formed := h.formed
  snapshots := by
    obtain ⟨flight, hfl, hsource, hcmd⟩ := h.flight
    exact ⟨flight, h.asked ▸ SnapshotBook.fresh hfl h.free hsource hcmd⟩
  joins := by
    obtain ⟨flight, hfl, -, hcmd⟩ := h.flight
    have hnone : waiting s.db = [] := by
      refine List.filterMap_eq_nil_iff.mpr fun y hy => ?_
      rw [hfl .router (by decide)] at hy
      have hmem := (List.mem_filter.mp hy).1
      by_contra hjoin
      unfold joinOf? at hjoin
      split at hjoin
      · exact hcmd _ _ hmem
      · exact hjoin rfl
    rw [h.joined, h.asked, hnone]
    rfl
  views := by
    rw [h.taken, State.views, h.sent]
    exact (List.append_nil _).symm
  handled := h.handled

section Run

variable [AddrHash] {s s' : State} {old : List Actors.View} {cs : List (OpId × Operation Amount)}
  {vs : List Actors.View}

omit [AddrHash] in
/-- A turn that sends no view and asks the database for no snapshot. -/
theorem Book.turned (h : Book old s) (ht : Turned s s' cs [])
    (hcs : ∀ c ∈ cs, ∀ addr, c.2 ≠ .getDatabase addr) : Book old s' where
  requested := ht.requested
  formed := ht.db ▸ formed_commanded h.formed cs
  snapshots := by
    rw [ht.db, ht.asked]
    exact snapshots_commanded (fun c hc addr he => absurd he (hcs c hc addr)) h.snapshots
  joins := by
    have hnone : (cs.map fun c => Actors.Send.router (.execute c.1 c.2)).filterMap joinOf? = [] := by
      refine List.filterMap_eq_nil_iff.mpr fun y hy => ?_
      obtain ⟨c, hc, rfl⟩ := List.mem_map.mp hy
      exact joinOf_command (hcs c hc)
    rw [ht.joined, ht.asked, ht.db, waiting_commanded, hnone, List.append_nil, h.joins]
  views := by
    rw [ht.db, commanded_events, ht.handled, ht.views, List.append_nil, h.views]
  handled := by
    rw [ht.db, commanded_events, ht.handled]
    exact h.handled

omit [AddrHash] in
theorem Book.join (h : Book old s) {addr : SocketAddr}
    (ht : Turned s s' [(0, .getDatabase addr)] []) :
    Book old { s' with joined := s'.joined ++ [addr] } where
  requested := ht.requested
  formed := ht.db ▸ formed_commanded h.formed _
  snapshots := by
    show ∃ flight, SnapshotBook 0 old s'.db flight s'.asked
    rw [ht.db, ht.asked]
    refine snapshots_commanded (fun c hc addr' _ => ?_) h.snapshots
    rw [List.mem_singleton.mp hc]
  joins := by
    show s'.joined ++ [addr] = s'.asked.map Ask.addr ++ waiting s'.db
    rw [ht.joined, ht.asked, ht.db, waiting_commanded, h.joins, List.append_assoc]
    rfl
  views := by
    show (s'.db.events.take s'.handled).filterMap _ = old ++ s'.views
    rw [ht.db, commanded_events, ht.handled, ht.views, List.append_nil, h.views]
  handled := by
    show s'.handled ≤ s'.db.events.length
    rw [ht.db, commanded_events, ht.handled]
    exact h.handled

omit [AddrHash] in
/-- The leader takes an event, and answers it with a view when it is a snapshot. -/
theorem Book.event (h : Book old s) {e : Actors.ActorEvent} (he : s.db.events[s.handled]? = some e)
    (ht : Turned s s' [] e.view?.toList) : Book old { s' with handled := s'.handled + 1 } where
  requested := ht.requested
  formed := ht.db ▸ h.formed
  snapshots := by
    show ∃ flight, SnapshotBook 0 old s'.db flight s'.asked
    rw [ht.db, ht.asked]
    exact h.snapshots
  joins := by
    show s'.joined = s'.asked.map Ask.addr ++ waiting s'.db
    rw [ht.joined, ht.asked, ht.db, h.joins]
    rfl
  views := by
    show (s'.db.events.take (s'.handled + 1)).filterMap _ = old ++ s'.views
    rw [ht.db, ht.handled, ht.views, ← List.append_assoc, ← h.views]
    show (s.db.events.take (s.handled + 1)).filterMap _ = _
    rw [List.take_add_one, he, List.filterMap_append]
    cases hv : e.view? <;> simp [hv]
  handled := by
    show s'.handled + 1 ≤ s'.db.events.length
    rw [ht.db, ht.handled]
    exact (List.getElem?_eq_some_iff.mp he).1

omit [AddrHash] in
/-- An actor of the database handles a message that overlaps no snapshot. -/
theorem Book.db (h : Book old s) {l : Actors.Label} (hl : l.Internal)
    (hc : s.db.Overlaps 0 l = false) {db' : ActorDb} (hs : s.db.step l = some db') :
    Book old { s with
      db := db'
      asked := s.asked ++ ((s.db.next l).bind (Actors.Send.ask? 0 s.db.router)).toList } where
  requested := h.requested
  formed := h.formed.step hs
  snapshots := by
    obtain ⟨flight, hbook⟩ := h.snapshots
    exact hbook.step h.formed hl hc hs
  joins := by
    rw [h.joins, waiting_step hl hs, List.map_append, List.append_assoc]
  views := by
    obtain ⟨x, rest, -, -, -, -, hev, -⟩ := ActorDb.step_mailbox hl hs
    rw [show ({ s with db := db', asked := _ } : State).db.events = _ from hev,
      List.take_append_of_le_length h.handled]
    exact h.views
  handled := by
    obtain ⟨x, rest, -, -, -, -, hev, -⟩ := ActorDb.step_mailbox hl hs
    show s.handled ≤ db'.events.length
    rw [hev, List.length_append]
    exact Nat.le_add_right_of_le h.handled

/-- **A step** of the leader or of its database keeps the book. -/
theorem Book.step (h : Book old s) {l : Label} (hc : s.Overlaps l = false)
    (hs : s.step l = some s') : Book old s' := by
  cases l with
  | join addr =>
    obtain ⟨t, ht, rfl⟩ := Option.map_eq_some_iff.mp hs
    exact h.join (turn_join h.requested ht)
  | request reqId op addr =>
    by_cases hop : IsRequest op
    · obtain ⟨cs, hcs, ht⟩ := turn_request h.requested hop ((if_pos hop).symm.trans hs)
      exact h.turned ht hcs
    · cases (if_neg hop).symm.trans hs
  | ack opId =>
    obtain ⟨cs, hcs, ht⟩ := turn_ack h.requested hs
    exact h.turned ht hcs
  | lost addr => exact h.turned (turn_lost h.requested hs) nofun
  | view members leaderAddr snapshot now =>
    refine h.turned (turn_view h.requested hs) fun c hc addr => ?_
    rw [List.mem_singleton.mp hc]
    exact nofun
  | result =>
    cases he : s.db.events[s.handled]? with
    | none => simp [State.step, he] at hs
    | some e =>
      simp only [State.step, he] at hs
      obtain ⟨t, ht, rfl⟩ := Option.map_eq_some_iff.mp hs
      exact h.event he (turn_event h.requested e ht)
  | db l =>
    unfold State.step at hs
    by_cases hnode : l.dest = .node
    · cases (if_pos hnode).symm.trans hs
    · obtain ⟨db', hdb, rfl⟩ := Option.map_eq_some_iff.mp ((if_neg hnode).symm.trans hs)
      exact h.db (.of_dest hnode) hc hdb

omit [AddrHash] in
theorem views_addr {asked : List Ask} {views : List Actors.View}
    (hv : List.Forall₂ Ask.Complete asked views) : views.map Prod.fst = asked.map Ask.addr := by
  induction hv with
  | nil => rfl
  | cons hcomplete _ ih => rw [List.map_cons, List.map_cons, hcomplete.addr, ih]

omit [AddrHash] in
/-- The one view of an address that asked once. -/
theorem view_of_ask {asked : List Ask} {views : List Actors.View}
    (hv : List.Forall₂ Ask.Complete asked views) (hn : (asked.map Ask.addr).Nodup) {x : Ask}
    (hx : x ∈ asked) : ∃ v, x.Complete v ∧ (views.filter fun v => v.1 = x.addr) = [v] := by
  induction hv with
  | nil => cases hx
  | @cons y v asked views hcomplete hrest ih =>
    obtain ⟨hnew, hn⟩ := List.nodup_cons.mp hn
    rcases List.mem_cons.mp hx with rfl | hx
    · refine ⟨v, hcomplete, ?_⟩
      rw [List.filter_cons_of_pos (by simpa using hcomplete.addr)]
      have hnone : (views.filter fun v => v.1 = x.addr) = [] := by
        refine List.filter_eq_nil_iff.mpr fun w hw hsame => hnew ?_
        rw [← views_addr hrest]
        exact List.mem_map.mpr ⟨w, hw, of_decide_eq_true hsame⟩
      rw [hnone]
    · have hother : v.1 ≠ x.addr := by
        intro hsame
        refine hnew (List.mem_map.mpr ⟨x, hx, ?_⟩)
        rw [← hsame, hcomplete.addr]
      rw [List.filter_cons_of_neg (by simpa using hother)]
      exact ih hn hx

/-- **Every join is answered with a complete view**, in a run where no command under id 0
    reaches the router while a snapshot is collected under it. -/
theorem joins_answered {s₀ s : State} {ls : List Label} (h₀ : s₀.Fresh)
    (hr : Lib.run State.step s₀ ls = some s)
    (hc : Meets State.step (fun t l => t.Overlaps l = false) s₀ ls) (hdistinct : s.joined.Nodup)
    (hq : s.Quiescent) :
    ∀ addr ∈ s.joined, ∃ x ∈ s.asked, ∃ snapshot, x.addr = addr ∧ s.viewsTo addr = [snapshot] ∧
      (snapshot.accounts.map AccountSnapshot.accountId).Perm x.accounts.toList ∧
      (snapshot.cards.map Actors.CardSnapshot.key).Perm x.cards.toList := by
  have hbook := run_induct_meets (fun _ _ _ hi hc h => hi.step hc h) hr hc (Book.fresh h₀)
  obtain ⟨flight, hsnapshots⟩ := hbook.snapshots
  obtain ⟨views, hreported, hcomplete⟩ := hsnapshots.quiescent hq.db
  have hjoined : s.joined = s.asked.map Ask.addr := by
    rw [hbook.joins, waiting, show s.db.mailbox .router = [] by
      unfold ActorDb.mailbox
      rw [hq.db.router]
      rfl]
    exact List.append_nil _
  -- what the database reported is what the leader has sent
  have hsent : s.views = views := by
    have htaken := hbook.views
    rw [hq.handled, List.take_length] at htaken
    exact List.append_cancel_left (htaken.symm.trans hreported)
  intro addr haddr
  rw [hjoined] at haddr hdistinct
  obtain ⟨x, hx, rfl⟩ := List.mem_map.mp haddr
  obtain ⟨v, hv, hone⟩ := view_of_ask hcomplete hdistinct hx
  refine ⟨x, hx, v.2, rfl, ?_, hv.accounts, hv.cards⟩
  unfold State.viewsTo
  rw [hsent, hone]
  rfl

/-- The database stays well formed in every run. -/
theorem formed_turn {event : Event Amount} {now : Nat} (hf : Formed s.db)
    (h : s.turn event now = some s') : Formed s'.db := by
  unfold State.turn at h
  split at h
  · obtain rfl := Option.some.inj h
    exact formed_commanded hf _
  · cases h

theorem formed_step {l : Label} (hf : Formed s.db) (hs : s.step l = some s') : Formed s'.db := by
  cases l with
  | join addr =>
    obtain ⟨t, ht, rfl⟩ := Option.map_eq_some_iff.mp hs
    exact (formed_turn hf ht : Formed t.db)
  | request reqId op addr =>
    by_cases hop : IsRequest op
    · exact formed_turn hf ((if_pos hop).symm.trans hs)
    · cases (if_neg hop).symm.trans hs
  | ack opId => exact formed_turn hf hs
  | lost addr =>
    have hturn : s.turn (.nodeMsg (.error (.connectionLostWith addr))) 0 = some s' := hs
    exact formed_turn hf hturn
  | view members leaderAddr snapshot now => exact formed_turn hf hs
  | result =>
    cases he : s.db.events[s.handled]? with
    | none => simp [State.step, he] at hs
    | some e =>
      simp only [State.step, he] at hs
      obtain ⟨t, ht, rfl⟩ := Option.map_eq_some_iff.mp hs
      exact (formed_turn hf ht : Formed t.db)
  | db l =>
    by_cases hnode : l.dest = .node
    · cases (if_pos hnode).symm.trans hs
    · obtain ⟨db', hdb, rfl⟩ := Option.map_eq_some_iff.mp ((if_neg hnode).symm.trans hs)
      exact hf.step hdb

end Run

/-! ## A leader with one account -/

end

section Example

local instance joinsHash : AddrHash := localHash

/-- The database after one limit was set. -/
def oneAccount : ActorDb :=
  (Lib.run ActorDb.step ActorDb.init
    [.execute 1 (.limitAccount 7 none), .router, .account 7, .router]).getD ActorDb.init

/-- A leader on its own, with that database. -/
def alone : State where
  leader := .start (localAddr 5000)
  db := oneAccount
  handled := 1
  sent := []
  joined := []
  asked := []

theorem oneAccount_run : Lib.run ActorDb.step ActorDb.init
    [.execute 1 (.limitAccount 7 none), .router, .account 7, .router] = some oneAccount := by
  obtain ⟨s, hs⟩ := Option.isSome_iff_exists.mp (show (Lib.run ActorDb.step ActorDb.init
    [.execute 1 (.limitAccount 7 none), .router, .account 7, .router]).isSome by decide +kernel)
  unfold oneAccount
  rw [hs]
  rfl

theorem alone_fresh : alone.Fresh where
  requested := nofun
  formed := Formed.reaches ⟨_, oneAccount_run⟩
  free _ := rfl
  flight := by
    have hq : oneAccount.Quiescent := Actors.quiescent_of_known
      (Actors.known_reaches ⟨_, oneAccount_run⟩) (by decide +kernel)
    exact ⟨[], ActorDb.quiescent_iff.mp hq, fun y hy => absurd hy List.not_mem_nil,
      fun _ _ => List.not_mem_nil⟩
  taken := by decide +kernel
  handled := by decide +kernel
  sent := rfl
  joined := rfl
  asked := rfl

theorem alone_quiescent {s : State} {ls : List Label} (hr : Lib.run State.step alone ls = some s)
    (hd : s.db.Drained) (hh : s.handled = s.db.events.length) : s.Quiescent where
  db := Actors.quiescent_of_known
    (run_induct (P := fun t : State => Formed t.db) (fun _ _ _ hf h => formed_step hf h) hr
      alone_fresh.formed).known hd
  handled := hh

/-- Two joins, one after the other. -/
theorem joins_answered_example :
    ∃ ls s, Lib.run State.step alone ls = some s ∧
      s.joined = [localAddr 5001, localAddr 5002] ∧
      ∀ addr ∈ s.joined, ∃ x ∈ s.asked, ∃ snapshot, x.addr = addr ∧
        s.viewsTo addr = [snapshot] ∧
        (snapshot.accounts.map AccountSnapshot.accountId).Perm x.accounts.toList ∧
        (snapshot.cards.map Actors.CardSnapshot.key).Perm x.cards.toList := by
  have hrun : (Lib.run State.step alone
      [.join (localAddr 5001), .db .router, .db (.account 7), .db .router,
        .join (localAddr 5002), .result, .db .router, .db (.account 7), .db .router,
        .result]).any (fun s => decide (s.joined = [localAddr 5001, localAddr 5002] ∧
          s.db.Drained ∧ s.handled = s.db.events.length)) = true := by decide +kernel
  obtain ⟨s, hs, hp⟩ := (Option.any_eq_true _ _).mp hrun
  obtain ⟨hjoined, hd, hh⟩ := of_decide_eq_true hp
  have hc : Meets State.step (fun t l => t.Overlaps l = false) alone
      [.join (localAddr 5001), .db .router, .db (.account 7), .db .router,
        .join (localAddr 5002), .result, .db .router, .db (.account 7), .db .router,
        .result] := by decide +kernel
  exact ⟨_, s, hs, hjoined, joins_answered alone_fresh hs hc
    (by rw [hjoined]; decide) (alone_quiescent hs hd hh)⟩

/-- **A join can go unanswered.** The second join's command takes the slot of the first,
    and the database reports one snapshot, for the second joiner. -/
theorem joins_not_answered :
    ¬ ∀ (s₀ s : State) (ls : List Label), s₀.Fresh → Lib.run State.step s₀ ls = some s →
      s.joined.Nodup → s.Quiescent →
      ∀ addr ∈ s.joined, ∃ x ∈ s.asked, ∃ snapshot, x.addr = addr ∧
        s.viewsTo addr = [snapshot] ∧
        (snapshot.accounts.map AccountSnapshot.accountId).Perm x.accounts.toList ∧
        (snapshot.cards.map Actors.CardSnapshot.key).Perm x.cards.toList := by
  intro hall
  have hrun : (Lib.run State.step alone
      [.join (localAddr 5001), .join (localAddr 5002), .db .router, .db .router,
        .db (.account 7), .db (.account 7), .db .router, .db .router, .result,
        .result]).any (fun s => decide (s.joined = [localAddr 5001, localAddr 5002] ∧ s.db.Drained ∧
          s.handled = s.db.events.length ∧ s.viewsTo (localAddr 5001) = [])) = true := by
    decide +kernel
  obtain ⟨s, hs, hp⟩ := (Option.any_eq_true _ _).mp hrun
  obtain ⟨hjoined, hd, hh, hnone⟩ := of_decide_eq_true hp
  obtain ⟨x, -, snapshot, -, hview, -⟩ := hall _ s _ alone_fresh hs (by rw [hjoined]; decide)
    (alone_quiescent hs hd hh) (localAddr 5001) (by rw [hjoined]; exact List.mem_cons_self)
  rw [hnone] at hview
  cases hview

end Example

end YpfRuta.Cluster.Joins
