/-
  Whether a leader issues an op id that some live node has already stored or executed
  an operation under. A promoted replica starts from the highest id it has stored,
  not from the one after it, and knows nothing of what the others stored.
-/
import YpfRuta.Cluster.Requests
import YpfRuta.Cluster.Launch

namespace YpfRuta.Cluster

open Server Lib

variable {α : Type}

/-! ## What is on record -/

/-- The operation a node has stored under an id. -/
def storedOp (node : NodeRuntime α) (m : OpId) : Option (Operation α) :=
  match node with
  | .leader self => (self.operations.lookup m).map fun p => p.op
  | .replica self => self.operations.lookup m

/-- Everything a node ever stored or executed, under the id it had. -/
def NodeState.records (n : NodeState α) : List (OpId × Operation α) :=
  n.logged ++ n.log ++ n.executed

/-- The event brings a request. -/
def bringsRequest : Event α → Bool
  | .nodeMsg (.ok (.request ..)) => true
  | .stationMsg (.chargeRequest ..) => true
  | _ => false

/-- The turn makes a replica leader. -/
def promotes [AddrHash] (node : NodeRuntime α) (event : Event α) (now : Nat) : Bool :=
  match node, event with
  | .replica self, .nodeMsg (.ok (.election candidateId _)) =>
    decide (candidateId < self.id ∧ self.electionInProgress = false ∧
      higher self.id self.cluster = [])
  | .replica self, .nodeMsg (.ok (.coordinator leaderId _)) => decide (leaderId = self.id)
  | .replica self, .nodeMsg (.error (.connectionLostWith addr)) =>
    decide (addr = self.leaderAddr ∧ self.electionInProgress = false ∧
      higher self.id (self.lose addr).cluster = [])
  | .replica self, .electionCheck =>
    decide (Expired self.electionInProgress self.electionStart now)
  | _, _ => false

/-! ## What a turn does to ids -/

section Turns

variable [AddrHash] {node node' : NodeRuntime α} {event : Event α} {fault : Option Fault}
  {now : Nat} {out : List (SocketAddr × Message α)} {commands : List (OpId × Operation α)}

/-- The request a turn stores. -/
def assigning (node : NodeRuntime α) (event : Event α) : List (OpId × Operation α) :=
  (assignment node event).map fun q => (q.1, q.2.op)

/-- The entry a turn logs. -/
def logging : Event α → List (OpId × Operation α)
  | .nodeMsg (.ok m) => logsOf [m]
  | _ => []

omit [AddrHash] in
theorem asks_assigning {self : Leader α} {reqId : ReqId} {op : Operation α} {addr : SocketAddr}
    (h : Asks self.address event reqId op addr) (hon : self.isOffline = false) :
    assigning (.leader self) event = [(self.currentOpId, op)] := by
  unfold assigning
  rw [assignment_asks hon h]
  rfl

omit [AddrHash] in
theorem asks_logging {own : SocketAddr} {reqId : ReqId} {op : Operation α} {addr : SocketAddr}
    (h : Asks own event reqId op addr) : logging event = [] := by
  cases h <;> rfl

omit [AddrHash] in
/-- Only a leader assigns ids, its current one. -/
theorem mem_assigning {e : OpId × Operation α} (h : e ∈ assigning node event) :
    bringsRequest event = true ∧ ∃ self, node = .leader self ∧ e.1 = self.currentOpId := by
  unfold assigning assignment at h
  split at h
  · obtain rfl := List.mem_singleton.mp h
    exact ⟨rfl, _, rfl, rfl⟩
  · split at h
    · cases h
    · obtain rfl := List.mem_singleton.mp h
      exact ⟨rfl, _, rfl, rfl⟩
  · cases h

omit [AddrHash] in
theorem lookup_insert_or {β : Type} {ops : HashMap OpId β} {k m : OpId} {x y : β}
    (h : (ops.insert k x).lookup m = some y) : ops.lookup m = some y ∨ m = k ∧ y = x := by
  by_cases hm : m = k
  · subst hm
    rw [AList.lookup_insert] at h
    exact .inr ⟨rfl, (Option.some.inj h).symm⟩
  · rw [AList.lookup_insert_ne hm] at h
    exact .inl h

omit [AddrHash] in
theorem lookup_erase_some {β : Type} {ops : HashMap OpId β} {k m : OpId} {y : β}
    (h : (ops.erase k).lookup m = some y) : ops.lookup m = some y := by
  by_cases hm : m = k
  · rw [hm, AList.lookup_erase] at h
    cases h
  · rwa [AList.lookup_erase_ne hm] at h

/-- What a turn does to the ids of a node: what it stores and executes was stored
    before or came with the event, and a leader that goes on counts what it
    assigned. -/
structure Counts (node node' : NodeRuntime α) (event : Event α) (fault : Option Fault)
    (out : List (SocketAddr × Message α)) (commands : List (OpId × Operation α)) : Prop where
  held : ∀ m op, storedOp node' m = some op →
    storedOp node m = some op ∨ (m, op) ∈ assigning node event ++ logging event
  executed : ∀ e ∈ commands, storedOp node e.1 = some e.2 ∨
    e ∈ assigning node event ++ logging event
  /-- Log entries carry the id that was assigned. -/
  logs : ∀ p ∈ out, ∀ e, logEntry? p.2 = some e → e ∈ assigning node event ∧
    ∃ self, node = .leader self ∧ 2 ≤ self.cluster.len
  /-- A leader does not survive a log entry. -/
  refuses : node.leads = true → fault = none → logging event = []
  leads : ∀ self', node' = .leader self' → fault = none → node.leads = true →
    ∃ self, node = .leader self ∧ (assigning node event = [] ∧
        self'.currentOpId = self.currentOpId ∨
      self.cluster.len = 1 ∨ self'.currentOpId.toNat = self.currentOpId.toNat + 1)

omit [AddrHash] in
/-- A turn that assigns and logs nothing new, and keeps the current id. -/
theorem Counts.idle (hheld : ∀ m op, storedOp node' m = some op → storedOp node m = some op)
    (hcommands : ∀ e ∈ commands, storedOp node e.1 = some e.2)
    (hout : ∀ p ∈ out, logEntry? p.2 = none)
    (hrefuses : node.leads = true → fault = none → logging event = [])
    (hleads : ∀ self', node' = .leader self' → node.leads = true → ∃ self, node = .leader self ∧
      assigning node event = [] ∧ self'.currentOpId = self.currentOpId) :
    Counts node node' event fault out commands where
  held m op h := .inl (hheld m op h)
  executed e he := .inl (hcommands e he)
  logs p hp e he := by
    rw [hout p hp] at he
    cases he
  refuses := hrefuses
  leads self' hself' _ hwas := by
    obtain ⟨self, hself, hnone, hid⟩ := hleads self' hself' hwas
    exact ⟨self, hself, .inl ⟨hnone, hid⟩⟩

theorem leader_counts {self self' : Leader α} (hon : self.isOffline = false)
    (hev : RoutineEvent event) (hs : self.Serves now event fault self' out commands) :
    Counts (.leader self) (.leader self') event fault out commands := by
  have hsame : ∀ x : Leader α, NodeRuntime.leader self' = .leader x → x = self' := by
    intro x hx
    injection hx with hx
    exact hx.symm
  have hstores : ∀ {reqId : ReqId} {op : Operation α} {addr : SocketAddr} (next : OpId),
      Asks self.address event reqId op addr →
      ∀ m op', storedOp (.leader { self.store reqId op addr with currentOpId := next }) m =
          some op' →
        storedOp (.leader self) m = some op' ∨
          (m, op') ∈ assigning (.leader self) event ++ logging event := by
    intro reqId op addr next hasks m op' h
    obtain ⟨p, hp, rfl⟩ := Option.map_eq_some_iff.mp h
    rcases lookup_insert_or hp with hold | ⟨rfl, rfl⟩
    · exact .inl (Option.map_eq_some_iff.mpr ⟨p, hold, rfl⟩)
    · rw [asks_assigning hasks hon]
      exact .inr (List.mem_append_left _ (List.mem_singleton_self _))
  have hentries : ∀ {reqId : ReqId} {op : Operation α} {addr : SocketAddr},
      Asks self.address event reqId op addr → self.cluster.len ≠ 1 →
      ∀ p ∈ self.peers.map (fun b => (b, Message.log self.currentOpId op)), ∀ e,
        logEntry? p.2 = some e → e ∈ assigning (.leader self) event ∧
          ∃ self', NodeRuntime.leader self = .leader self' ∧ 2 ≤ self'.cluster.len := by
    intro reqId op addr hasks hlen p hp e he
    obtain ⟨b, hb, rfl⟩ := List.mem_map.mp hp
    obtain rfl := Option.some.inj he
    rw [asks_assigning hasks hon]
    refine ⟨List.mem_singleton_self _, self, rfl, ?_⟩
    have hpos : self.cluster.entries ≠ [] := by
      intro hnil
      unfold Leader.peers at hb
      rw [hnil] at hb
      cases hb
    have := List.length_pos_of_ne_nil hpos
    unfold HashMap.len at hlen ⊢
    omega
  have hcounts : ∀ {op : OpId} {pending : PendingOperation α},
      self.operations.lookup op = some pending →
      ∀ m op', storedOp (.leader (self.count op pending)) m = some op' →
        storedOp (.leader self) m = some op' := by
    intro opId pending hstored m op' h
    obtain ⟨p, hp, rfl⟩ := Option.map_eq_some_iff.mp h
    rcases lookup_insert_or hp with hold | ⟨rfl, rfl⟩
    · exact Option.map_eq_some_iff.mpr ⟨p, hold, rfl⟩
    · exact Option.map_eq_some_iff.mpr ⟨pending, hstored, rfl⟩
  have hkeeps : assigning (.leader self) event = [] → self'.currentOpId = self.currentOpId →
      ∀ x, NodeRuntime.leader self' = .leader x → (NodeRuntime.leader self).leads = true →
        ∃ y, NodeRuntime.leader self = .leader y ∧ assigning (.leader self) event = [] ∧
          x.currentOpId = y.currentOpId := by
    intro hnone hid x hx _
    rw [hsame x hx]
    exact ⟨self, rfl, hnone, hid⟩
  have hnone : ∀ e ∈ ([] : List (OpId × Operation α)), storedOp (.leader self) e.1 = some e.2 :=
    fun _ he => absurd he List.not_mem_nil
  cases hs with
  | executes hasks hlen =>
    refine ⟨hstores self.currentOpId hasks, fun e he => ?_, nothing_sent,
      fun _ _ => asks_logging hasks, fun x hx _ _ => ⟨self, rfl, .inr (.inl hlen)⟩⟩
    rw [asks_assigning hasks hon]
    exact .inr (List.mem_append_left _ he)
  | replicates hasks hlen hsize =>
    refine ⟨hstores _ hasks, fun e he => absurd he List.not_mem_nil, hentries hasks hlen,
      fun _ _ => asks_logging hasks, fun x hx _ _ => ⟨self, rfl, .inr (.inr ?_)⟩⟩
    rw [hsame x hx]
    show (self.currentOpId + 1).toNat = _
    rw [UInt32.toNat_add]
    exact Nat.mod_eq_of_lt hsize
  | overflows hasks hlen hsize =>
    exact ⟨hstores self.currentOpId hasks, fun e he => absurd he List.not_mem_nil,
      hentries hasks hlen, fun _ _ => asks_logging hasks, fun _ _ hfault => by cases hfault⟩
  | ackUnknown hunknown =>
    exact .idle (fun _ _ h => h) hnone nothing_sent (fun _ _ => rfl) (hkeeps rfl rfl)
  | ackExecutes hstored hq =>
    refine .idle (hcounts hstored) (fun e he => ?_) nothing_sent (fun _ _ => rfl) (hkeeps rfl rfl)
    rw [List.mem_singleton.mp he]
    exact Option.map_eq_some_iff.mpr ⟨_, hstored, rfl⟩
  | ackWaits hstored hq htwo hpos =>
    exact .idle (hcounts hstored) hnone nothing_sent (fun _ _ => rfl) (hkeeps rfl rfl)
  | ackPanics hstored hq hzero =>
    exact .idle (hcounts hstored) hnone nothing_sent (fun _ _ => rfl) (hkeeps rfl rfl)
  | answers op r hid hp =>
    refine .idle (fun m op' h => ?_) hnone (fun p hmem => ?_) (fun _ _ => rfl) (hkeeps rfl rfl)
    · obtain ⟨p, hp, rfl⟩ := Option.map_eq_some_iff.mp h
      exact Option.map_eq_some_iff.mpr ⟨p, lookup_erase_some hp, rfl⟩
    · obtain ⟨-, reqId, r', hmsg⟩ := reply_responses hev _ r p hmem
      rw [hmsg]
      rfl
  | answersOwn op r =>
    rw [reply_own hev]
    exact .idle (fun _ _ h => h) hnone nothing_sent (fun _ _ => rfl) (hkeeps rfl rfl)
  | unexpected op r hid hunknown =>
    exact .idle (fun _ _ h => h) hnone nothing_sent (fun _ _ => rfl) (hkeeps rfl rfl)
  | refusesResponse reqId r =>
    exact .idle (fun _ _ h => h) hnone nothing_sent (fun _ _ => rfl) (hkeeps rfl rfl)
  | refusesLog opId op =>
    exact .idle (fun _ _ h => h) hnone nothing_sent (fun _ hfault => by cases hfault)
      (hkeeps rfl rfl)
  | admits addr => exact hev.elim
  | views members leaderAddr snapshot => exact hev.elim
  | updated newMember => exact hev.elim
  | queried addr => exact hev.elim
  | refusesRole nodeId role => exact hev.elim

theorem replica_counts {self self' : Replica α} (hev : RoutineEvent event)
    (hs : self.Serves now event fault self' out commands) :
    Counts (.replica self) (.replica self') event fault out commands := by
  have hlogs : ∀ (opId : OpId) (op : Operation α) (m : OpId) (op' : Operation α),
      (self.store opId op).operations.lookup m = some op' →
        self.operations.lookup m = some op' ∨ (m, op') ∈ [(opId, op)] := by
    intro opId op m op' h
    rcases lookup_insert_or h with hold | ⟨rfl, rfl⟩
    · exact .inl hold
    · exact .inr (List.mem_singleton_self _)
  have hrefuses : (NodeRuntime.replica self).leads = true → fault = none →
      logging event = [] := fun h => by cases h
  have hleads : ∀ x, NodeRuntime.replica self' = .leader x → (NodeRuntime.replica self).leads = true →
      ∃ y, NodeRuntime.replica self = .leader y ∧ assigning (.replica self) event = [] ∧
        x.currentOpId = y.currentOpId := fun x hx => by cases hx
  have hnone : ∀ e ∈ ([] : List (OpId × Operation α)), storedOp (.replica self) e.1 = some e.2 :=
    fun _ he => absurd he List.not_mem_nil
  have hsends : ∀ (b : SocketAddr) (m : Message α), logEntry? m = none →
      ∀ p ∈ [(b, m)], logEntry? p.2 = none := by
    intro b m hm p hp
    rw [List.mem_singleton.mp hp]
    exact hm
  cases hs with
  | forwards hasks => exact .idle (fun _ _ h => h) hnone (hsends _ _ rfl) hrefuses hleads
  | responds reqId r => exact .idle (fun _ _ h => h) hnone nothing_sent hrefuses hleads
  | logsFirst op =>
    refine ⟨hlogs 1 op, fun e he => absurd he List.not_mem_nil, fun p hp e he => ?_, hrefuses,
      fun x hx => by cases hx⟩
    rw [hsends _ _ rfl p hp] at he
    cases he
  | logsZero op =>
    exact ⟨hlogs 0 op, fun e he => absurd he List.not_mem_nil, nothing_sent, hrefuses,
      fun x hx => by cases hx⟩
  | commits h0 h1 hprev =>
    rename_i opId op prev
    refine ⟨fun m op' h => hlogs opId op m op' (lookup_erase_some h), fun e he => ?_, nothing_sent,
      hrefuses, fun x hx => by cases hx⟩
    rw [List.mem_singleton.mp he]
    exact hlogs opId op _ _ hprev
  | stores h0 h1 hprev =>
    exact ⟨hlogs _ _, fun e he => absurd he List.not_mem_nil, nothing_sent, hrefuses,
      fun x hx => by cases hx⟩
  | acks r hop hsize => exact .idle (fun _ _ h => h) hnone (hsends _ _ rfl) hrefuses hleads
  | overflows r hop hsize => exact .idle (fun _ _ h => h) hnone nothing_sent hrefuses hleads
  | flushes opId snapshot r =>
    refine .idle (fun _ _ h => h) hnone (fun p hp => ?_) hrefuses hleads
    obtain ⟨op, hop, rfl⟩ := List.mem_map.mp hp
    rfl
  | refusesAck opId => exact .idle (fun _ _ h => h) hnone nothing_sent hrefuses hleads
  | forwardsJoin addr => exact hev.elim
  | viewsElecting members snapshot hlt => exact hev.elim
  | views members snapshot hlt => exact hev.elim
  | updated newMember => exact hev.elim
  | queried addr => exact hev.elim
  | refusesRole nodeId role => exact hev.elim

/-! ### Elections -/

/-- An election keeps or drops what a node has stored, and the current id of a
    leader. -/
structure Sits (node node' : NodeRuntime α) : Prop where
  held : ∀ m op, storedOp node' m = some op → storedOp node m = some op
  leads : ∀ self', node' = .leader self' → node.leads = true →
    ∃ self, node = .leader self ∧ self'.currentOpId = self.currentOpId

omit [AddrHash] in
theorem Sits.refl (node : NodeRuntime α) : Sits node node where
  held _ _ h := h
  leads self' h _ := ⟨self', h, rfl⟩

omit [AddrHash] in
theorem Sits.electing (node : NodeRuntime α) (start : Option Nat) :
    Sits node (node.electing start) := by
  cases node with
  | leader self =>
    refine ⟨fun _ _ h => h, fun x hx _ => ⟨self, rfl, ?_⟩⟩
    injection hx with hx
    exact hx ▸ rfl
  | replica self => exact ⟨fun _ _ h => h, fun x hx => by cases hx⟩

omit [AddrHash] in
theorem Sits.announced (node : NodeRuntime α) : Sits node node.announced := by
  cases node with
  | leader self =>
    refine ⟨fun _ _ h => h, fun x hx _ => ⟨self, rfl, ?_⟩⟩
    injection hx with hx
    exact hx ▸ rfl
  | replica self =>
    refine ⟨fun m op h => ?_, fun x hx hwas => by cases hwas⟩
    have hnone : ((∅ : HashMap OpId (PendingOperation α)).lookup m).map (fun p => p.op) =
        some op := h
    rw [AList.lookup_empty] at hnone
    cases hnone

omit [AddrHash] in
theorem Sits.follow (node : NodeRuntime α) (leaderAddr : SocketAddr) :
    Sits node (node.follow leaderAddr) := by
  cases node with
  | leader self =>
    refine ⟨fun m op h => ?_, fun x hx => by cases hx⟩
    have hnone : (∅ : HashMap OpId (Operation α)).lookup m = some op := h
    rw [AList.lookup_empty] at hnone
    cases hnone
  | replica self => exact ⟨fun _ _ h => h, fun x hx => by cases hx⟩

omit [AddrHash] in
theorem Sits.elect (node : NodeRuntime α) (now : Nat) : Sits node (node.elect now).1 := by
  unfold NodeRuntime.elect
  split
  · exact .refl node
  · split
    · exact .announced node
    · exact .electing node _

theorem Sits.lose (self : Replica α) (addr : SocketAddr) :
    Sits (.replica self) (.replica (self.lose addr)) := by
  refine ⟨fun m op h => ?_, fun x hx => by cases hx⟩
  unfold Replica.lose at h
  split at h <;> exact h

omit [AddrHash] in
theorem elect_sends (node : NodeRuntime α) (now : Nat) :
    ∀ p ∈ (node.elect now).2, logEntry? p.2 = none := by
  intro p hp
  unfold NodeRuntime.elect at hp
  split at hp
  · cases hp
  · split at hp
    · obtain ⟨peer, -, rfl⟩ := List.mem_map.mp hp
      rfl
    · obtain ⟨peer, -, rfl⟩ := List.mem_map.mp hp
      rfl

omit [AddrHash] in
theorem assigning_eq_nil (h : bringsRequest event = false) : assigning node event = [] := by
  rw [List.eq_nil_iff_forall_not_mem]
  intro e he
  rw [(mem_assigning he).1] at h
  cases h

/-- What an election turn leaves, sends, and was woken for. -/
theorem sways_sits (hs : Sways now node event fault node' out) :
    Sits node node' ∧ (∀ p ∈ out, logEntry? p.2 = none) ∧ bringsRequest event = false ∧
      logging event = [] := by
  cases hs with
  | asked candidateAddr hlt =>
    refine ⟨.elect node now, fun p hp => ?_, rfl, rfl⟩
    rcases List.mem_cons.mp hp with rfl | hp
    · rfl
    · exact elect_sends node now p hp
  | outranked candidateAddr hlt => exact ⟨.refl node, nothing_sent, rfl, rfl⟩
  | answered responderId => exact ⟨.electing node _, nothing_sent, rfl, rfl⟩
  | follows leaderAddr hlt => exact ⟨.follow node _, nothing_sent, rfl, rfl⟩
  | demoted leaderAddr => exact ⟨.follow _ _, nothing_sent, rfl, rfl⟩
  | keeps leaderAddr hlt => exact ⟨.electing (.leader _) none, nothing_sent, rfl, rfl⟩
  | promoted leaderAddr => exact ⟨.announced _, nothing_sent, rfl, rfl⟩
  | panics leaderAddr hlt => exact ⟨.electing (.replica _) none, nothing_sent, rfl, rfl⟩
  | expires hexp =>
    refine ⟨.announced node, fun p hp => ?_, rfl, rfl⟩
    obtain ⟨peer, -, rfl⟩ := List.mem_map.mp hp
    rfl
  | waits hexp => exact ⟨.refl node, nothing_sent, rfl, rfl⟩
  | losesPeer addr =>
    refine ⟨⟨fun _ _ h => h, fun x hx _ => ⟨_, rfl, ?_⟩⟩, nothing_sent, rfl, rfl⟩
    injection hx with hx
    exact hx ▸ rfl
  | losesLeader =>
    rename_i self
    have hlose := Sits.lose self self.leaderAddr
    have helect := Sits.elect (.replica (self.lose self.leaderAddr)) now
    exact ⟨⟨fun m op h => hlose.held m op (helect.held m op h), fun x _ h => by cases h⟩,
      elect_sends _ now, rfl, rfl⟩
  | losesOther hne => exact ⟨.lose _ _, nothing_sent, rfl, rfl⟩

theorem outcome_counts (hon : node.isOffline = false) (hev : RoutineEvent event)
    (ho : Outcome now event fault node node' out commands) :
    Counts node node' event fault out commands := by
  cases ho with
  | leader hs => exact leader_counts hon hev hs
  | replica hs => exact replica_counts hev hs
  | sways hs =>
    obtain ⟨hsits, hsent, hbrings, hlogging⟩ := sways_sits hs
    refine .idle hsits.held (fun e he => absurd he List.not_mem_nil) hsent (fun _ _ => hlogging)
      fun x hx hwas => ?_
    obtain ⟨self, hself, hid⟩ := hsits.leads x hx hwas
    exact ⟨self, hself, assigning_eq_nil hbrings, hid⟩

/-- A replica that comes out of a turn as a leader was promoted by it. -/
theorem outcome_promotes (ho : Outcome now event fault node node' out commands)
    (hwas : node.leads = false) (hleads : node'.leads = true) :
    promotes node event now = true ∧ assigning node event = [] ∧ logging event = [] ∧ commands = [] := by
  cases ho with
  | leader hs => cases hwas
  | replica hs => cases hleads
  | sways hs =>
    obtain ⟨-, -, hbrings, hlogging⟩ := sways_sits hs
    refine ⟨?_, assigning_eq_nil hbrings, hlogging, rfl⟩
    have hwins : ∀ {x : NodeRuntime α}, x.leads = false → (x.elect now).1.leads = true →
        x.electionInProgress = false ∧ higher x.id x.cluster = [] := by
      intro x hx hl
      unfold NodeRuntime.elect at hl
      split at hl
      · rw [hx] at hl
        cases hl
      · rename_i hbusy
        split at hl
        · rename_i hnone
          exact ⟨Bool.eq_false_iff.mpr hbusy, hnone⟩
        · rw [NodeRuntime.electing_leads, hx] at hl
          cases hl
    cases hs with
    | asked candidateAddr hlt =>
      have hw := hwins hwas hleads
      cases node with
      | leader self => cases hwas
      | replica self => exact decide_eq_true ⟨hlt, hw⟩
    | outranked candidateAddr hlt =>
      rw [hwas] at hleads
      cases hleads
    | answered responderId =>
      rw [NodeRuntime.electing_leads, hwas] at hleads
      cases hleads
    | follows leaderAddr hlt => cases node <;> cases hleads
    | demoted leaderAddr => cases hwas
    | keeps leaderAddr hlt => cases hwas
    | promoted leaderAddr => exact decide_eq_true rfl
    | panics leaderAddr hlt => cases hleads
    | expires hexp =>
      cases node with
      | leader self => cases hwas
      | replica self => exact decide_eq_true hexp
    | waits hexp =>
      rw [hwas] at hleads
      cases hleads
    | losesPeer addr => cases hwas
    | losesLeader =>
      rename_i self
      have hw := hwins (x := .replica (self.lose self.leaderAddr)) rfl hleads
      refine decide_eq_true ⟨rfl, ?_⟩
      have hid : (self.lose self.leaderAddr).id = self.id ∧
          (self.lose self.leaderAddr).electionInProgress = self.electionInProgress := by
        unfold Replica.lose
        split <;> exact ⟨rfl, rfl⟩
      rw [← hid.1, ← hid.2]
      exact hw
    | losesOther hne => cases hleads

end Turns

/-! ## The condition -/

namespace State

/-- No live node has anything on record, and no log entry is under way to one other
    than `a`. -/
def Unrecorded (s : State α) (nodes : List SocketAddr) (a : SocketAddr) : Prop :=
  ∀ b ∈ nodes, ∀ q ∈ s.up b, q.records = [] ∧ (b ≠ a → ∀ c ∈ nodes, logsOf (s.link c b) = [])

instance (s : State α) (nodes : List SocketAddr) (a : SocketAddr) :
    Decidable (s.Unrecorded nodes a) :=
  inferInstanceAs (Decidable (∀ b ∈ nodes, ∀ q ∈ s.up b, q.records = [] ∧
    (b ≠ a → ∀ c ∈ nodes, logsOf (s.link c b) = [])))

/-- No live node other than `a` leads. -/
def Sole (s : State α) (nodes : List SocketAddr) (a : SocketAddr) : Prop :=
  ∀ b ∈ nodes, b ≠ a → ∀ q ∈ s.up b, q.runtime.leads = false

instance (s : State α) (nodes : List SocketAddr) (a : SocketAddr) : Decidable (s.Sole nodes a) :=
  inferInstanceAs (Decidable (∀ b ∈ nodes, b ≠ a → ∀ q ∈ s.up b, q.runtime.leads = false))

variable [AddrHash]

/-- A node is promoted before anything is on record, and a leader handles a request
    while no other one is left. -/
def Distinct (s : State α) (nodes : List SocketAddr) (l : Label α) : Prop :=
  match l with
  | .promote a => ∀ q ∈ s.up a, q.runtime.leads = false → s.Unrecorded nodes a
  | l => ∀ w ∈ s.wake l,
    (promotes w.node.runtime w.event w.now = true → s.Unrecorded nodes w.a) ∧
    (w.node.runtime.leads = true → bringsRequest w.event = true → s.Sole nodes w.a)

instance (s : State α) (nodes : List SocketAddr) (l : Label α) : Decidable (s.Distinct nodes l) := by
  unfold Distinct
  split <;> infer_instance

/-- What the turn of a step sends. -/
def issues (s : State α) (l : Label α) : List (SocketAddr × Message α) :=
  match s.wake l with
  | some w => (ended (NodeRuntime.turn w.event (w.node.task w.now))).2.sent
  | none => []

end State

/-- Nodes that have stored nothing, in any roles, with nothing under way. -/
structure Starting (s : State α) (nodes : List SocketAddr) : Prop where
  node : ∀ a n, s.node a = some n → ∃ runtime, n = .start runtime ∧ runtime.isOffline = false ∧
    Requests runtime ∧ ∀ m, storedOp runtime m = none
  nobody : ∀ a, a ∉ nodes → s.node a = none
  links : ∀ a b, s.link a b = []

/-! ## The invariant -/

/-- Everything live nodes have on record, and every log entry under way to one other
    than `a`, is below `current`. -/
structure Above (s : State α) (a : SocketAddr) (current : OpId) : Prop where
  records : ∀ b q, s.up b = some q → ∀ e ∈ q.records, e.1.toNat < current.toNat
  links : ∀ b q, s.up b = some q → b ≠ a → ∀ c, ∀ e ∈ logsOf (s.link c b),
    e.1.toNat < current.toNat

/-- A node whose turns are routine. -/
structure Regular (n : NodeState α) : Prop where
  connected : n.connected = true
  online : n.runtime.isOffline = false
  requests : Requests n.runtime
  outstanding : ∀ e ∈ n.outstanding, IsRequest e.2

structure Apart (nodes : List SocketAddr) (s : State α) : Prop where
  node : ∀ a n, s.node a = some n → Regular n
  nobody : ∀ a, a ∉ nodes → s.node a = none
  silent : ∀ a b, a ∉ nodes → s.link a b = []
  routine : ∀ a b, ∀ m ∈ s.link a b, Routine m
  /-- What a live node has stored is on record. -/
  held : ∀ a n, s.up a = some n → ∀ m op, storedOp n.runtime m = some op → (m, op) ∈ n.records
  /-- The current id of a live leader that replicates is above everything on record. -/
  above : ∀ a n self, s.up a = some n → n.runtime = .leader self → 2 ≤ self.cluster.len →
    Above s a self.currentOpId

section Invariant

variable {nodes : List SocketAddr} {s : State α}

theorem Starting.apart (h : Starting s nodes) : Apart nodes s where
  node a n hn := by
    obtain ⟨runtime, rfl, hon, hreq, -⟩ := h.node a n hn
    exact ⟨rfl, hon, hreq, fun e he => absurd he List.not_mem_nil⟩
  nobody := h.nobody
  silent a b _ := h.links a b
  routine a b m hm := by
    rw [h.links] at hm
    cases hm
  held a n hup m op hop := by
    obtain ⟨runtime, rfl, -, -, hnone⟩ := h.node a n (up_eq_some.mp hup).1
    have hop' : storedOp runtime m = some op := hop
    rw [hnone m] at hop'
    cases hop'
  above a n self _ _ _ := by
    refine ⟨fun b q hup e he => ?_, fun b q _ _ c e he => ?_⟩
    · obtain ⟨runtime, rfl, -⟩ := h.node b q (up_eq_some.mp hup).1
      cases he
    · rw [h.links] at he
      cases he

theorem Apart.mem_nodes (h : Apart nodes s) {a : SocketAddr} {n : NodeState α}
    (hn : s.node a = some n) : a ∈ nodes := by
  by_contra hno
  rw [h.nobody a hno] at hn
  cases hn

/-- A state with nothing on record is below any id. -/
theorem Apart.above_of_unrecorded (h : Apart nodes s) {a : SocketAddr}
    (hu : s.Unrecorded nodes a) (current : OpId) : Above s a current where
  records b q hup e he := by
    rw [(hu b (h.mem_nodes (up_eq_some.mp hup).1) q hup).1] at he
    cases he
  links b q hup hne c e he := by
    have hb := hu b (h.mem_nodes (up_eq_some.mp hup).1) q hup
    by_cases hc : c ∈ nodes
    · rw [hb.2 hne c hc] at he
      cases he
    · rw [h.silent c b hc] at he
      cases he

theorem Apart.sole (h : Apart nodes s) {a x : SocketAddr} (hs : s.Sole nodes a) (hne : x ≠ a)
    {q : NodeState α} (hup : s.up x = some q) : q.runtime.leads = false :=
  hs x (h.mem_nodes (up_eq_some.mp hup).1) hne q hup

/-! ## Steps -/

/-- What a turn handles was under way to the node, and is what it logs. -/
theorem wake_logs {l : Label α} {w : Waking α} {n : NodeState α} (hw : s.wake l = some w)
    (hup : s.up w.a = some n) :
    w.node.logged = n.logged ++ logging w.event ∧
      ∀ e ∈ logging w.event, ∃ c, e ∈ logsOf (s.link c w.a) := by
  cases l with
  | request dst reqId op addr =>
    obtain ⟨q, hq, rfl⟩ := Option.map_eq_some_iff.mp hw
    obtain rfl := Option.some.inj (hq.symm.trans hup)
    exact ⟨(List.append_nil _).symm, fun e he => absurd he List.not_mem_nil⟩
  | station dst msg =>
    obtain ⟨q, hq, rfl⟩ := Option.map_eq_some_iff.mp hw
    obtain rfl := Option.some.inj (hq.symm.trans hup)
    exact ⟨(List.append_nil _).symm, fun e he => absurd he List.not_mem_nil⟩
  | deliver src dst =>
    dsimp only [State.wake] at hw
    cases hq : s.up dst with
    | none =>
      rw [hq] at hw
      cases hw
    | some q =>
      cases hlink : s.link src dst with
      | nil =>
        rw [hq, hlink] at hw
        cases hw
      | cons m rest =>
        rw [hq, hlink] at hw
        obtain rfl := (Option.some.inj hw).symm
        obtain rfl := Option.some.inj (hq.symm.trans hup)
        refine ⟨receive_logged, fun e he => ⟨src, ?_⟩⟩
        have he' : e ∈ logsOf [m] := he
        rw [hlink, show m :: rest = [m] ++ rest from rfl, logsOf_append]
        exact List.mem_append_left _ he'
  | result dst k r =>
    dsimp only [State.wake] at hw
    cases hq : s.up dst with
    | none =>
      rw [hq] at hw
      cases hw
    | some q =>
      rw [hq] at hw
      dsimp only at hw
      cases hk : q.outstanding[k]? with
      | none =>
        rw [hk] at hw
        cases hw
      | some e =>
        rw [hk] at hw
        obtain rfl := (Option.some.inj hw).symm
        obtain rfl := Option.some.inj (hq.symm.trans hup)
        exact ⟨(List.append_nil _).symm, fun e he => absurd he List.not_mem_nil⟩
  | lost dst addr =>
    obtain ⟨q, hq, rfl⟩ := Option.map_eq_some_iff.mp hw
    obtain rfl := Option.some.inj (hq.symm.trans hup)
    exact ⟨(List.append_nil _).symm, fun e he => absurd he List.not_mem_nil⟩
  | check dst now =>
    obtain ⟨q, hq, rfl⟩ := Option.map_eq_some_iff.mp hw
    obtain rfl := Option.some.inj (hq.symm.trans hup)
    exact ⟨(List.append_nil _).symm, fun e he => absurd he List.not_mem_nil⟩
  | crash dst => cases hw
  | promote dst => cases hw

/-- The record of a node after a turn. -/
theorem mem_records_after {l : Label α} {w : Waking α} {n : NodeState α} (hw : s.wake l = some w)
    (ht : w.Takes s n) (fault : Option Fault) (t : Task α (NodeRuntime α))
    (e : OpId × Operation α) :
    e ∈ (w.node.after w.event fault t).records ↔ e ∈ n.records ∨
      e ∈ assigning n.runtime w.event ++ logging w.event ∨ e ∈ t.commands := by
  have hlog : (w.node.after w.event fault t).log = n.log ++ assigning n.runtime w.event := by
    unfold NodeState.log assigning
    rw [after_assigned, ht.assigned, ht.runtime, List.map_append]
  unfold NodeState.records
  rw [hlog, after_logged, after_executed, (wake_logs hw ht.up).1, ht.executed]
  simp only [List.mem_append]
  tauto

theorem logsOf_sentTo {b : SocketAddr} {out : List (SocketAddr × Message α)}
    {e : OpId × Operation α} (h : e ∈ logsOf (sentTo b out)) :
    ∃ p ∈ out, logEntry? p.2 = some e := by
  obtain ⟨m, hm, he⟩ := List.mem_filterMap.mp h
  exact ⟨(b, m), mem_sentTo.mp hm, he⟩

theorem logsOf_take {w : Waking α} {n : NodeState α} (ht : w.Takes s n) (c b : SocketAddr) :
    ∀ e ∈ logsOf (w.link c b), e ∈ logsOf (s.link c b) := by
  intro e he
  rcases ht.link c b with heq | ⟨-, m, heq, -⟩
  · rwa [heq] at he
  · rw [heq, show m :: w.link c b = [m] ++ w.link c b from rfl, logsOf_append]
    exact List.mem_append_right _ he

theorem up_update {a b : SocketAddr} {n' q : NodeState α}
    {link : SocketAddr → SocketAddr → List (Message α)}
    (h : State.up { node := Function.update s.node a (some n'), link := link } b = some q) :
    b = a ∧ q = n' ∧ n'.down = false ∨ b ≠ a ∧ s.up b = some q := by
  obtain ⟨hq, hdown⟩ := up_eq_some.mp h
  by_cases hb : b = a
  · have hself : Function.update s.node a (some n') a = some q := hb ▸ hq
    rw [Function.update_self] at hself
    obtain rfl := Option.some.inj hself
    exact .inl ⟨hb, rfl, hdown⟩
  · have hother : Function.update s.node a (some n') b = some q := hq
    rw [Function.update_of_ne hb] at hother
    exact .inr ⟨hb, up_eq_some.mpr ⟨hother, hdown⟩⟩

section Turn

variable [AddrHash] {l : Label α} {w : Waking α} {n : NodeState α} {fault : Option Fault}
  {t : Task α (NodeRuntime α)} {out : List (SocketAddr × Message α)}

/-- The state a turn leaves. -/
def State.turned (s : State α) (w : Waking α) (fault : Option Fault) (t : Task α (NodeRuntime α))
    (out : List (SocketAddr × Message α)) : State α where
  node := Function.update s.node w.a (some (w.node.after w.event fault t))
  link src dst := if src = w.a then w.link src dst ++ sentTo dst out else w.link src dst

omit [AddrHash] in
/-- A log entry under way after a turn was so before, or was sent by it. -/
theorem logsOf_turned (ht : w.Takes s n) (c b : SocketAddr) {e : OpId × Operation α}
    (he : e ∈ logsOf ((s.turned w fault t out).link c b)) :
    e ∈ logsOf (s.link c b) ∨ ∃ p ∈ out, logEntry? p.2 = some e := by
  have he' : e ∈ logsOf (if c = w.a then w.link c b ++ sentTo b out else w.link c b) := he
  split at he'
  · rw [logsOf_append] at he'
    rcases List.mem_append.mp he' with he' | he'
    · exact .inl (logsOf_take ht c b e he')
    · exact .inr (logsOf_sentTo he')
  · exact .inl (logsOf_take ht c b e he')

omit [AddrHash] in
/-- A live leader other than the one that turns stays above what is on record. -/
theorem Apart.above_other (h : Apart nodes s) (hw : s.wake l = some w) (ht : w.Takes s n)
    (hcounts : Counts n.runtime t.self w.event fault out t.commands)
    (hsole : n.runtime.leads = true → bringsRequest w.event = true → s.Sole nodes w.a)
    {x : SocketAddr} (hne : x ≠ w.a) {q : NodeState α} (hup : s.up x = some q) {self : Leader α}
    (hself : q.runtime = .leader self) (hlen : 2 ≤ self.cluster.len) :
    Above (s.turned w fault t out) x self.currentOpId := by
  have habove := h.above x q self hup hself hlen
  have hnone : assigning n.runtime w.event = [] := by
    rw [List.eq_nil_iff_forall_not_mem]
    intro e he
    obtain ⟨hbrings, lead, hlead, -⟩ := mem_assigning he
    have hleads : n.runtime.leads = true := by
      rw [hlead]
      rfl
    have hfalse := h.sole (hsole hleads hbrings) hne hup
    rw [hself] at hfalse
    cases hfalse
  have hlogging : ∀ e ∈ logging w.event, e.1.toNat < self.currentOpId.toNat := by
    intro e he
    obtain ⟨c, hc⟩ := (wake_logs hw ht.up).2 e he
    exact habove.links w.a n ht.up hne.symm c e hc
  refine ⟨fun b p hp e he => ?_, fun b p hp hbx c e he => ?_⟩
  · rcases up_update hp with ⟨-, rfl, -⟩ | ⟨-, hold⟩
    · rcases (mem_records_after hw ht fault t e).mp he with he | he | he
      · exact habove.records w.a n ht.up e he
      · rw [hnone] at he
        exact hlogging e he
      · rcases hcounts.executed e he with he | he
        · exact habove.records w.a n ht.up e (h.held w.a n ht.up e.1 e.2 he)
        · rw [hnone] at he
          exact hlogging e he
    · exact habove.records b p hold e he
  · rcases logsOf_turned ht c b he with he | ⟨m, hm, he⟩
    · rcases up_update hp with ⟨rfl, -, -⟩ | ⟨-, hold⟩
      · exact habove.links w.a n ht.up hbx c e he
      · exact habove.links b p hold hbx c e he
    · have := (hcounts.logs m hm e he).1
      rw [hnone] at this
      cases this

omit [AddrHash] in
/-- A leader that comes out of its turn alive is above what is on record. -/
theorem Apart.above_self (h : Apart nodes s) (hw : s.wake l = some w) (ht : w.Takes s n)
    (hcounts : Counts n.runtime t.self w.event fault out t.commands)
    (hkept : Kept w.event n.runtime t.self)
    (hpromotes : n.runtime.leads = false → t.self.leads = true →
      s.Unrecorded nodes w.a ∧ assigning n.runtime w.event = [] ∧ logging w.event = [] ∧
        t.commands = [])
    (halive : fault = none) {self' : Leader α} (hself' : t.self = .leader self')
    (hlen : 2 ≤ self'.cluster.len) : Above (s.turned w fault t out) w.a self'.currentOpId := by
  have hleads' : t.self.leads = true := by
    rw [hself']
    rfl
  cases hwas : n.runtime.leads with
  | false =>
    obtain ⟨hu, hassign, hlogging, hgave⟩ := hpromotes hwas hleads'
    have habove := h.above_of_unrecorded hu self'.currentOpId
    refine ⟨fun b p hp e he => ?_, fun b p hp hba c e he => ?_⟩
    · rcases up_update hp with ⟨-, rfl, -⟩ | ⟨-, hold⟩
      · rcases (mem_records_after hw ht fault t e).mp he with he | he | he
        · exact habove.records w.a n ht.up e he
        · rw [hassign, hlogging] at he
          cases he
        · rw [hgave] at he
          cases he
      · exact habove.records b p hold e he
    · rcases logsOf_turned ht c b he with he | ⟨m, hm, he⟩
      · rcases up_update hp with ⟨hb, -, -⟩ | ⟨-, hold⟩
        · exact absurd hb hba
        · exact habove.links b p hold hba c e he
      · have hmem := (hcounts.logs m hm e he).1
        rw [hassign] at hmem
        cases hmem
  | true =>
    have hlogging := hcounts.refuses hwas halive
    obtain ⟨self, hself, hnext⟩ := hcounts.leads self' hself' halive hwas
    have hsub := hkept.cluster.length_le
    rw [hself, hself'] at hsub
    have hlen' : 2 ≤ self.cluster.len := Nat.le_trans hlen hsub
    have habove := h.above w.a n self ht.up hself hlen'
    -- what the turn assigns has the current id, and the next one is above it
    have hle : self.currentOpId.toNat ≤ self'.currentOpId.toNat ∧
        ∀ e ∈ assigning n.runtime w.event, e.1.toNat < self'.currentOpId.toNat := by
      rcases hnext with ⟨hnone, hid⟩ | hone | hid
      · rw [hnone, hid]
        exact ⟨Nat.le_refl _, fun e he => absurd he List.not_mem_nil⟩
      · omega
      · refine ⟨by omega, fun e he => ?_⟩
        obtain ⟨-, lead, hlead, hcurrent⟩ := mem_assigning he
        rw [hself] at hlead
        injection hlead with hlead
        rw [hcurrent, ← hlead]
        omega
    refine ⟨fun b p hp e he => ?_, fun b p hp hba c e he => ?_⟩
    · rcases up_update hp with ⟨-, rfl, -⟩ | ⟨-, hold⟩
      · have hassigned : e ∈ assigning n.runtime w.event ++ logging w.event →
            e.1.toNat < self'.currentOpId.toNat := by
          rw [hlogging, List.append_nil]
          exact hle.2 e
        rcases (mem_records_after hw ht fault t e).mp he with he | he | he
        · exact Nat.lt_of_lt_of_le (habove.records w.a n ht.up e he) hle.1
        · exact hassigned he
        · rcases hcounts.executed e he with he | he
          · have hrec := h.held w.a n ht.up e.1 e.2 he
            exact Nat.lt_of_lt_of_le (habove.records w.a n ht.up e hrec) hle.1
          · exact hassigned he
      · exact Nat.lt_of_lt_of_le (habove.records b p hold e he) hle.1
    · rcases logsOf_turned ht c b he with he | ⟨m, hm, he⟩
      · rcases up_update hp with ⟨hb, -, -⟩ | ⟨-, hold⟩
        · exact absurd hb hba
        · exact Nat.lt_of_lt_of_le (habove.links b p hold hba c e he) hle.1
      · exact hle.2 e (hcounts.logs m hm e he).1

theorem Apart.turn (h : Apart nodes s) (hw : s.wake l = some w) (ht : w.Takes s n)
    (hev : RoutineEvent w.event)
    (ho : Outcome w.now w.event fault n.runtime t.self out t.commands)
    (hconn : t.connected = true)
    (hpromotes : promotes n.runtime w.event w.now = true → s.Unrecorded nodes w.a)
    (hsole : n.runtime.leads = true → bringsRequest w.event = true → s.Sole nodes w.a) :
    Apart nodes (s.turned w fault t out) := by
  have hn := (up_eq_some.mp ht.up).1
  have hreg := h.node w.a n hn
  have hkept := outcome_kept hev ho
  have horderly := outcome_orderly hreg.requests hev ho
  have hcounts := outcome_counts hreg.online hev ho
  have hnode : ∀ b q, (s.turned w fault t out).node b = some q →
      b = w.a ∧ q = w.node.after w.event fault t ∨ b ≠ w.a ∧ s.node b = some q := by
    intro b q hq
    have hq' : Function.update s.node w.a (some (w.node.after w.event fault t)) b = some q := hq
    by_cases hb : b = w.a
    · rw [hb, Function.update_self] at hq'
      exact .inl ⟨hb, (Option.some.inj hq').symm⟩
    · rw [Function.update_of_ne hb] at hq'
      exact .inr ⟨hb, hq'⟩
  refine ⟨fun b q hq => ?_, fun b hb => ?_, fun c b hc => ?_, fun c b m hm => ?_,
    fun b q hq m op hop => ?_, fun x q self hq hself hlen => ?_⟩
  · rcases hnode b q hq with ⟨-, rfl⟩ | ⟨-, hold⟩
    · refine ⟨hconn, hkept.isOffline.trans hreg.online, horderly.requests, fun e he => ?_⟩
      rcases List.mem_append.mp he with he | he
      · exact hreg.outstanding e (ht.outstanding e he)
      · exact horderly.commands e he
    · exact h.node b q hold
  · have hne : b ≠ w.a := fun hba => hb (hba ▸ h.mem_nodes hn)
    exact (Function.update_of_ne hne ..).trans (h.nobody b hb)
  · have hne : c ≠ w.a := fun hca => hc (hca ▸ h.mem_nodes hn)
    show (if c = w.a then w.link c b ++ sentTo b out else w.link c b) = []
    rw [if_neg hne]
    rcases ht.link c b with heq | ⟨-, m, heq, -⟩
    · rw [heq, h.silent c b hc]
    · rw [h.silent c b hc] at heq
      cases heq
  · have hold : ∀ m ∈ w.link c b, Routine m := by
      intro m hm
      rcases ht.link c b with heq | ⟨-, m', heq, -⟩
      · exact h.routine c b m (heq ▸ hm)
      · exact h.routine c b m (heq ▸ List.mem_cons_of_mem _ hm)
    have hm' : m ∈ (if c = w.a then w.link c b ++ sentTo b out else w.link c b) := hm
    split at hm'
    · rcases List.mem_append.mp hm' with hm' | hm'
      · exact hold m hm'
      · exact horderly.sent (b, m) (mem_sentTo.mp hm')
    · exact hold m hm'
  · rcases up_update hq with ⟨-, rfl, -⟩ | ⟨-, hold⟩
    · refine (mem_records_after hw ht fault t _).mpr ?_
      rcases hcounts.held m op hop with hold | hnew
      · exact .inl (h.held w.a n ht.up m op hold)
      · exact .inr (.inl hnew)
    · exact h.held b q hold m op hop
  · rcases up_update hq with ⟨rfl, rfl, hdown⟩ | ⟨hne, hold⟩
    · have halive : fault = none := Option.isNone_iff_eq_none.mp (by
        have hsome : fault.isSome = false := hdown
        cases fault <;> first | rfl | cases hsome)
      refine h.above_self hw ht hcounts hkept (fun hwas hleads => ?_) halive hself hlen
      obtain ⟨hp, hassign, hlogging, hgave⟩ := outcome_promotes ho hwas hleads
      exact ⟨hpromotes hp, hassign, hlogging, hgave⟩
    · exact h.above_other hw ht hcounts hsole hne hold hself hlen

end Turn

/-- A node that stops, or takes another role, without a turn. -/
theorem Apart.setNode (h : Apart nodes s) {a : SocketAddr} {n n' : NodeState α}
    (hup : s.up a = some n) (hreg : Regular n') (hrecords : n'.records = n.records)
    (hheld : ∀ m op, storedOp n'.runtime m = some op → storedOp n.runtime m = some op)
    (habove : n'.down = false → ∀ self, n'.runtime = .leader self →
      Above s a self.currentOpId ∨ n.runtime = .leader self) :
    Apart nodes (s.setNode a n') := by
  have hn := (up_eq_some.mp hup).1
  have hlift : ∀ x current, Above s x current → Above (s.setNode a n') x current := by
    intro x current hx
    refine ⟨fun b p hp e he => ?_, fun b p hp hbx c e he => ?_⟩
    · rcases up_update hp with ⟨-, rfl, -⟩ | ⟨-, hold⟩
      · rw [hrecords] at he
        exact hx.records a n hup e he
      · exact hx.records b p hold e he
    · rcases up_update hp with ⟨rfl, -, -⟩ | ⟨-, hold⟩
      · exact hx.links b n hup hbx c e he
      · exact hx.links b p hold hbx c e he
  refine ⟨fun b q hq => ?_, fun b hb => ?_, h.silent, h.routine, fun b q hq m op hop => ?_,
    fun x q self hq hself hlen => ?_⟩
  · have hq' : Function.update s.node a (some n') b = some q := hq
    by_cases hb : b = a
    · rw [hb, Function.update_self] at hq'
      exact Option.some.inj hq' ▸ hreg
    · rw [Function.update_of_ne hb] at hq'
      exact h.node b q hq'
  · have hne : b ≠ a := fun hba => hb (hba ▸ h.mem_nodes hn)
    exact (Function.update_of_ne hne ..).trans (h.nobody b hb)
  · rcases up_update hq with ⟨-, rfl, -⟩ | ⟨-, hold⟩
    · rw [hrecords]
      exact h.held a n hup m op (hheld m op hop)
    · exact h.held b q hold m op hop
  · rcases up_update hq with ⟨rfl, rfl, hdown⟩ | ⟨-, hold⟩
    · rcases habove hdown self hself with hx | hwas
      · exact hlift x _ hx
      · exact hlift x _ (h.above x n self hup hwas hlen)
    · exact hlift x _ (h.above x q self hold hself hlen)

variable [AddrHash] {s' : State α} {l : Label α}

theorem Apart.step (h : Apart nodes s) (hl : l.Routine) (hc : s.Distinct nodes l)
    (hs : s.step l = some s') : Apart nodes s' := by
  have hturn : l.isTurn = true → (∀ w ∈ s.wake l,
      (promotes w.node.runtime w.event w.now = true → s.Unrecorded nodes w.a) ∧
      (w.node.runtime.leads = true → bringsRequest w.event = true → s.Sole nodes w.a)) →
      Apart nodes s' := by
    intro hl' hcond
    obtain ⟨w, hw, rfl⟩ := step_wake hl' hs
    obtain ⟨n, ht⟩ := wake_takes hw
    have hreg := h.node w.a n (up_eq_some.mp ht.up).1
    have hev := wake_routine hl h.routine (fun a q hq => (h.node a q hq).outstanding) hw
    obtain ⟨fault, t, out, commands, ho, hconn, hgave, -, hact⟩ :=
      wake_outcome ht hreg.connected hreg.online hev.online
    obtain ⟨hpromotes, hsole⟩ := hcond w hw
    rw [ht.runtime] at hpromotes hsole
    rw [hact]
    exact h.turn hw ht hev (hgave ▸ ho) hconn hpromotes hsole
  cases l with
  | crash a =>
    obtain ⟨n, hup, rfl⟩ := Option.map_eq_some_iff.mp hs
    have hreg := h.node a n (up_eq_some.mp hup).1
    exact h.setNode hup ⟨hreg.connected, hreg.online, hreg.requests, hreg.outstanding⟩ rfl
      (fun _ _ hop => hop) fun hdown => by cases hdown
  | promote a =>
    obtain ⟨n, hup, rfl⟩ := Option.map_eq_some_iff.mp hs
    have hreg := h.node a n (up_eq_some.mp hup).1
    have hheld := (Sits.announced n.runtime).held
    refine h.setNode hup ⟨hreg.connected, ?_, hreg.requests.changeRole _, hreg.outstanding⟩ rfl
      (fun m op hop => ?_) fun _ self hself => ?_
    · exact (NodeRuntime.changeRole_isOffline _ _).trans hreg.online
    · cases hrt : n.runtime with
      | leader lead =>
        have hop' : storedOp (n.runtime.changeRole .promoteToLeader) m = some op := hop
        rw [hrt] at hop'
        exact hop'
      | replica rep =>
        have hop' : storedOp (n.runtime.changeRole .promoteToLeader) m = some op := hop
        rw [hrt] at hop' hheld
        exact hheld m op hop'
    · have hself' : n.runtime.changeRole .promoteToLeader = .leader self := hself
      cases hrt : n.runtime with
      | leader lead =>
        rw [hrt] at hself'
        exact .inr hself'
      | replica rep =>
        have hleads : n.runtime.leads = false := by
          rw [hrt]
          rfl
        exact .inl (h.above_of_unrecorded (hc n hup hleads) self.currentOpId)
  | _ => exact hturn rfl hc

/-! ### The condition on promotions is exact -/

omit [AddrHash] in
theorem max_mem (ks : List OpId) (k : OpId) :
    ks.foldl (fun a b => if a ≤ b then b else a) k ∈ k :: ks := by
  induction ks generalizing k with
  | nil => exact List.mem_singleton_self k
  | cons x ks ih =>
    have hrest := ih (if k ≤ x then x else k)
    rw [List.foldl_cons]
    rcases List.mem_cons.mp hrest with heq | hmem
    · rw [heq]
      split
      · exact List.mem_cons_of_mem _ List.mem_cons_self
      · exact List.mem_cons_self
    · exact List.mem_cons_of_mem _ (List.mem_cons_of_mem _ hmem)

omit [AddrHash] in
/-- A promoted replica that has stored anything starts from an id it has used: the
    highest one, not the one after it. -/
theorem lastOpId_stored {self : Replica α} {m : OpId} {op : Operation α}
    (h : self.operations.lookup m = some op) :
    ∃ op', self.operations.lookup self.lastOpId = some op' := by
  have hm : m ∈ self.operations.keys :=
    AList.mem_keys.mp (AList.lookup_isSome.mp (by rw [h]; rfl))
  have hlast : self.lastOpId ∈ self.operations.keys := by
    unfold Replica.lastOpId
    cases hkeys : self.operations.keys with
    | nil =>
      rw [hkeys] at hm
      cases hm
    | cons k ks => exact max_mem ks k
  exact Option.isSome_iff_exists.mp (AList.lookup_isSome.mpr (AList.mem_keys.mpr hlast))

omit [AddrHash] in
/-- Where ids start from 1, the id a promoted replica starts from is above everything
    on record exactly when nothing is. -/
theorem Apart.unrecorded_iff (h : Apart nodes s) {a : SocketAddr} {n : NodeState α}
    (hup : s.up a = some n) {self : Replica α} (hself : n.runtime = .replica self)
    (hrecords : ∀ b q, s.up b = some q → ∀ e ∈ q.records, e.1 ≠ 0)
    (hlinks : ∀ b c, ∀ e ∈ logsOf (s.link c b), e.1 ≠ 0) :
    s.Unrecorded nodes a ↔ Above s a self.intoLeader.currentOpId := by
  refine ⟨fun hu => h.above_of_unrecorded hu _, fun habove => ?_⟩
  have hfirst : self.lastOpId = 1 := by
    unfold Replica.lastOpId
    cases hkeys : self.operations.keys with
    | nil => rfl
    | cons k ks =>
      have hk : k ∈ self.operations := AList.mem_keys.mpr (hkeys ▸ List.mem_cons_self)
      obtain ⟨op, hop⟩ := Option.isSome_iff_exists.mp (AList.lookup_isSome.mpr hk)
      obtain ⟨op', hop'⟩ := lastOpId_stored hop
      have hstored : storedOp n.runtime self.lastOpId = some op' := by
        rw [hself]
        exact hop'
      have hlt := habove.records a n hup _ (h.held a n hup _ _ hstored)
      exact absurd hlt (Nat.lt_irrefl _)
  have hzero : ∀ k : OpId, k.toNat < self.lastOpId.toNat → k = 0 := by
    intro k hk
    have hone : self.lastOpId.toNat = 1 := congrArg UInt32.toNat hfirst
    exact UInt32.toNat_inj.mp (show k.toNat = 0 by omega)
  intro b _ q hq
  refine ⟨List.eq_nil_iff_forall_not_mem.mpr fun e he => ?_, fun hba c _ =>
    List.eq_nil_iff_forall_not_mem.mpr fun e he => ?_⟩
  · exact hrecords b q hq e he (hzero _ (habove.records b q hq e he))
  · exact hlinks b c e he (hzero _ (habove.links b q hq hba c e he))

/-- **Op ids stay unique.** In a run whose steps all meet the condition, a leader
    sends a log entry only under an id that no live node has stored or executed a
    different operation under. -/
theorem op_ids_unique (h₀ : Starting s nodes) {ls : List (Label α)} (hls : ∀ l ∈ ls, l.Routine)
    (hc : Meets State.step (fun s l => s.Distinct nodes l) s ls) (hr : run s ls = some s')
    (hl : l.Routine) {b : SocketAddr} {m : OpId} {op : Operation α}
    (hsent : (b, .log m op) ∈ s'.issues l) :
    ∀ a q, s'.up a = some q → ∀ e ∈ q.records, e.1 = m → e.2 = op := by
  have h := run_induct_meets (P := Apart nodes) (fun s l s' h hcl hs => h.step hcl.2 hcl.1 hs) hr
    (hc.and_forall hls) h₀.apart
  unfold State.issues at hsent
  cases hw : s'.wake l with
  | none =>
    rw [hw] at hsent
    cases hsent
  | some w =>
    rw [hw] at hsent
    obtain ⟨n, ht⟩ := wake_takes hw
    have hreg := h.node w.a n (up_eq_some.mp ht.up).1
    have hev := wake_routine hl h.routine (fun a q hq => (h.node a q hq).outstanding) hw
    have hrel : (w.node.task w.now).Reliable := task_reliable (ht.connected.trans hreg.connected)
    have honline : (w.node.task w.now).self.isOffline = false := by
      show w.node.runtime.isOffline = false
      rw [ht.runtime, hreg.online]
    obtain ⟨fault, t, out, commands, hturn, hturned⟩ := turn_outcome hrel honline hev.online
    have hout : (b, Message.log m op) ∈ out := by
      have hended : ended (NodeRuntime.turn w.event (w.node.task w.now)) = (fault, t) := by
        rw [hturn]
        cases fault <;> rfl
      have hmem : (b, Message.log m op) ∈
          (ended (NodeRuntime.turn w.event (w.node.task w.now))).2.sent := hsent
      rw [hended, hturned.sent] at hmem
      exact hmem
    have ho := hturned.outcome
    change Outcome w.now w.event fault w.node.runtime t.self out commands at ho
    rw [ht.runtime] at ho
    obtain ⟨hassigned, self, hself, hlen⟩ :=
      (outcome_counts hreg.online hev ho).logs _ hout (m, op) rfl
    obtain ⟨-, lead, hlead, hid⟩ := mem_assigning hassigned
    have habove := h.above w.a n self ht.up hself hlen
    intro a q hq e he hem
    have hlt := habove.records a q hq e he
    rw [hself] at hlead
    injection hlead with hlead
    rw [hem, show m = lead.currentOpId from hid, hlead] at hlt
    exact absurd hlt (Nat.lt_irrefl _)

end Invariant

/-! ## Three nodes -/

section Example

theorem launch_starting [AddrHash] (leader : SocketAddr) (others : List SocketAddr) :
    Starting (launch (α := α) leader others) (leader :: others) := by
  refine ⟨fun a n hn => ?_, fun a ha => ?_, fun _ _ => rfl⟩
  · have hn' : (if a = leader then _ else if a ∈ others then _ else none) = some n := hn
    split at hn'
    · refine ⟨_, (Option.some.inj hn').symm, rfl, ⟨fun m p hp => ?_, fun _ hop => absurd hop List.not_mem_nil⟩, fun m => rfl⟩
      have hnone : (∅ : HashMap OpId (PendingOperation α)).lookup m = some p := hp
      rw [AList.lookup_empty] at hnone
      cases hnone
    · split at hn'
      · refine ⟨_, (Option.some.inj hn').symm, rfl, ⟨fun m op hop => ?_, fun _ hop => absurd hop List.not_mem_nil⟩, fun m => rfl⟩
        have hnone : (∅ : HashMap OpId (Operation α)).lookup m = some op := hop
        rw [AList.lookup_empty] at hnone
        cases hnone
      · cases hn'
  · rw [List.mem_cons, not_or] at ha
    exact (if_neg ha.1).trans (if_neg ha.2)

local instance opIdsHash : AddrHash := localHash

/-- The leader stops before it has assigned anything, and a replica takes over; the other one
    follows it and stores its first operation. -/
def earlyPromotion : List (Label Nat) :=
  [.crash (localAddr 5000), .lost (localAddr 5002) (localAddr 5000),
    .deliver (localAddr 5002) (localAddr 5001),
    .request (localAddr 5002) 1 (.accountQuery 8) (localAddr 9000),
    .deliver (localAddr 5002) (localAddr 5001)]

/-- The second operation has an id of its own. -/
theorem op_ids_unique_example :
    ∃ (s : State Nat) (q : NodeState Nat),
      run (launch (localAddr 5000) [localAddr 5001, localAddr 5002]) earlyPromotion = some s ∧
      s.up (localAddr 5001) = some q ∧ (1, .accountQuery 8) ∈ q.records ∧
      (localAddr 5001, .log 2 (.accountQuery 9)) ∈
        s.issues (.request (localAddr 5002) 2 (.accountQuery 9) (localAddr 9000)) ∧
      ∀ a q, s.up a = some q → ∀ e ∈ q.records, e.1 = 2 → e.2 = .accountQuery 9 := by
  have hrun : (run (launch (α := Nat) (localAddr 5000) [localAddr 5001, localAddr 5002])
      earlyPromotion).any (fun s => decide ((localAddr 5001, .log 2 (.accountQuery 9)) ∈
        s.issues (.request (localAddr 5002) 2 (.accountQuery 9) (localAddr 9000))) &&
        (s.up (localAddr 5001)).any fun q => decide ((1, .accountQuery 8) ∈ q.records)) = true := by
    decide +kernel
  obtain ⟨s, hs, hvals⟩ := (Option.any_eq_true _ _).mp hrun
  obtain ⟨hsent, hother⟩ := Bool.and_eq_true_iff.mp hvals
  obtain ⟨q, hq, hrec⟩ := (Option.any_eq_true _ _).mp hother
  have hsent' := of_decide_eq_true hsent
  have hmeets : Meets State.step
      (fun s l => s.Distinct [localAddr 5000, localAddr 5001, localAddr 5002] l)
      (launch (α := Nat) (localAddr 5000) [localAddr 5001, localAddr 5002]) earlyPromotion := by
    decide +kernel
  exact ⟨s, q, hs, hq, of_decide_eq_true hrec, hsent', op_ids_unique (launch_starting _ _)
    (by decide) hmeets hs (by decide) hsent'⟩

/-- Both replicas store the leader's first operation, the leader stops, and the
    replica that takes over has stored nothing but that operation. -/
def latePromotion : List (Label Nat) :=
  [.request (localAddr 5000) 1 (.accountQuery 7) (localAddr 9000),
    .deliver (localAddr 5000) (localAddr 5001), .deliver (localAddr 5000) (localAddr 5002),
    .crash (localAddr 5000), .lost (localAddr 5002) (localAddr 5000)]

/-- **An op id is used twice.** The new leader issues its first operation under id 1,
    under which the other replica, and it itself, have stored another one. -/
theorem op_ids_reused :
    ∃ (s : State Nat) (q r : NodeState Nat),
      Starting (launch (α := Nat) (localAddr 5000) [localAddr 5001, localAddr 5002])
        [localAddr 5000, localAddr 5001, localAddr 5002] ∧
      (∀ l ∈ latePromotion, l.Routine) ∧
      run (launch (localAddr 5000) [localAddr 5001, localAddr 5002]) latePromotion = some s ∧
      (localAddr 5001, .log 1 (.accountQuery 8)) ∈
        s.issues (.request (localAddr 5002) 1 (.accountQuery 8) (localAddr 9000)) ∧
      s.up (localAddr 5001) = some q ∧ (1, .accountQuery 7) ∈ q.records ∧
      s.up (localAddr 5002) = some r ∧ (1, .accountQuery 7) ∈ r.records := by
  have hrun : (run (launch (α := Nat) (localAddr 5000) [localAddr 5001, localAddr 5002])
      latePromotion).any (fun s => decide ((localAddr 5001, .log 1 (.accountQuery 8)) ∈
        s.issues (.request (localAddr 5002) 1 (.accountQuery 8) (localAddr 9000))) &&
        ((s.up (localAddr 5001)).any fun q => decide ((1, .accountQuery 7) ∈ q.records)) &&
        ((s.up (localAddr 5002)).any fun q => decide ((1, .accountQuery 7) ∈ q.records))) =
      true := by
    decide +kernel
  obtain ⟨s, hs, hvals⟩ := (Option.any_eq_true _ _).mp hrun
  rw [Bool.and_eq_true, Bool.and_eq_true] at hvals
  obtain ⟨⟨hsent, hother⟩, hown⟩ := hvals
  obtain ⟨q, hq, hrec⟩ := (Option.any_eq_true _ _).mp hother
  obtain ⟨r, hr, hrec'⟩ := (Option.any_eq_true _ _).mp hown
  exact ⟨s, q, r, launch_starting _ _, by decide, hs, of_decide_eq_true hsent, hq,
    of_decide_eq_true hrec, hr, of_decide_eq_true hrec'⟩

end Example

end YpfRuta.Cluster
