/-
  Turns of a leader whose sends may fail: how far a broadcast comes, and what is left of
  the leader when it breaks off.
-/
import YpfRuta.Server.Attempts

namespace YpfRuta.Server

variable {α : Type}

/-- The addresses a broadcast reaches, and the error that ends it. -/
def deliver : List (Option AppError) → List SocketAddr → List SocketAddr × Option AppError
  | _, [] => ([], none)
  | [], dst :: dsts => (dst :: dsts, none)
  | none :: outcomes, dst :: dsts =>
    (dst :: (deliver outcomes dsts).1, (deliver outcomes dsts).2)
  | some e :: _, _ :: _ => ([], some e)

/-- A handler that returned, with an error or without. -/
def returned {σ : Type} (e : Option AppError) (t : Task α σ) :
    EStateM.Result Fault (Task α σ) Unit :=
  match e with
  | none => .ok () t
  | some e => .error (.err e) t

section Loop

variable {σ γ : Type} {t : Task α σ}

theorem deliver_nil (dsts : List SocketAddr) : deliver [] dsts = (dsts, none) := by
  cases dsts <;> rfl

/-- **A loop of sends** reaches what `deliver` says and touches nothing else. -/
theorem forEach_deliver (hc : t.connected = true) (skip : γ → Prop) [DecidablePred skip]
    (msg : Message α) (addr : γ → SocketAddr) (xs : List γ) :
    ∃ outcomes, forEach (fun x => if skip x then pure () else send msg (addr x)) xs t =
      returned (deliver t.outcomes ((xs.filter fun x => ¬ skip x).map addr)).2 { t with
        outcomes := outcomes
        sent := t.sent ++ (deliver t.outcomes ((xs.filter fun x => ¬ skip x).map addr)).1.map
          fun a => (a, msg) } := by
  induction xs generalizing t with
  | nil =>
    refine ⟨t.outcomes, ?_⟩
    rw [List.filter_nil, List.map_nil, deliver, List.map_nil, List.append_nil]
    rfl
  | cons x xs ih =>
    unfold forEach
    by_cases hs : skip x
    · have hfilter : ((x :: xs).filter fun x => ¬ skip x) = xs.filter fun x => ¬ skip x := by
        simp [hs]
      rw [if_pos hs, hfilter, bind_ok (show (pure () : Handler α σ Unit) t = .ok () t from rfl)]
      exact ih hc
    · have hfilter : ((x :: xs).filter fun x => ¬ skip x) =
          x :: xs.filter fun x => ¬ skip x := by simp [hs]
      rw [if_neg hs, hfilter, List.map_cons]
      obtain ⟨self, connected, outcomes, now, sent, told, commands⟩ := t
      obtain rfl : connected = true := hc
      cases outcomes with
      | nil =>
        have hsend : send msg (addr x) (⟨self, true, [], now, sent, told, commands⟩ : Task α σ) =
            .ok () ⟨self, true, [], now, sent ++ [(addr x, msg)], told, commands⟩ := rfl
        obtain ⟨rest, hrest⟩ := ih (t := ⟨self, true, [], now, sent ++ [(addr x, msg)], told,
          commands⟩) rfl
        refine ⟨rest, ?_⟩
        rw [bind_ok hsend, hrest]
        simp only [deliver_nil, List.map_cons, List.append_assoc, List.singleton_append]
      | cons outcome outcomes =>
        cases outcome with
        | none =>
          have hsend : send msg (addr x)
              (⟨self, true, none :: outcomes, now, sent, told, commands⟩ : Task α σ) =
              .ok () ⟨self, true, outcomes, now, sent ++ [(addr x, msg)], told, commands⟩ := rfl
          obtain ⟨rest, hrest⟩ := ih (t := ⟨self, true, outcomes, now, sent ++ [(addr x, msg)], told,
            commands⟩) rfl
          refine ⟨rest, ?_⟩
          rw [bind_ok hsend, hrest]
          simp only [deliver, List.map_cons, List.append_assoc, List.singleton_append]
        | some e =>
          have hsend : send msg (addr x)
              (⟨self, true, some e :: outcomes, now, sent, told, commands⟩ : Task α σ) =
              .error (.err e) ⟨self, true, outcomes, now, sent, told, commands⟩ := rfl
          refine ⟨outcomes, ?_⟩
          rw [bind_error hsend, deliver, List.map_nil, List.append_nil]
          rfl

end Loop

/-- The members once the main loop has seen the error a handler returned. -/
def settle [AddrHash] (cluster : HashMap NodeId SocketAddr) :
    Option AppError → HashMap NodeId SocketAddr
  | some (.connectionLostWith address) => cluster.erase (getIdGivenAddr address)
  | _ => cluster

namespace Leader

variable [AddrHash] {t t' : Task α (Leader α)} {event : Event α} {rc : RoleChange}

/-- A turn whose handler returns an error goes on without the peer it is about. -/
theorem runOnce_err {e : AppError} {t₁ : Task α (Leader α)}
    (h : Node.select event t = .error (.err e) t₁) (hr : Node.runOnce event t = .ok rc t') :
    t' = { t₁ with self := { t₁.self with cluster := settle t₁.self.cluster (some e) } } := by
  unfold Node.runOnce at hr
  rw [h] at hr
  cases e with
  | connectionLostWith address =>
    cases hr
    rfl
  | connectionLost =>
    cases hr
    rfl
  | connectionRefused address =>
    cases hr
    rfl
  | _ => cases hr

/-- What a turn leaves of the leader's tables, what it sends and what it asks the database. -/
structure Leaves (t t' : Task α (Leader α)) (operations : HashMap OpId (PendingOperation α))
    (cluster : HashMap NodeId SocketAddr) (out : List (SocketAddr × Message α))
    (given : List (OpId × Operation α)) : Prop where
  operations : t'.self.operations = operations
  cluster : t'.self.cluster = cluster
  sent : t'.sent = t.sent ++ out
  gave : t'.commands = t.commands ++ given

omit [AddrHash] in
theorem advance_ok {opId : OpId} {t' : Task α (Leader α)} (h : advance opId t = .ok () t') :
    t' = { t with self := { t.self with currentOpId := opId + 1 } } := by
  unfold advance addOne at h
  split at h
  · exact (EStateM.Result.ok.inj h).2.symm
  · cases h

/-- A request of a leader that is not alone: it is stored and logged with the members the
    broadcast reaches. -/
theorem runOnce_request {reqId : ReqId} {op : Operation α} {addr : SocketAddr}
    (hcalls : Calls t.self event reqId op addr) (hc : t.connected = true)
    (hne : t.self.cluster.len ≠ 1) (hr : Node.runOnce event t = .ok rc t') :
    Leaves t t' (t.self.operations.insert t.self.currentOpId (.new op addr reqId))
      (settle t.self.cluster (deliver t.outcomes t.self.peers).2)
      ((deliver t.outcomes t.self.peers).1.map fun a => (a, .log t.self.currentOpId op)) [] := by
  obtain ⟨rest, hloop⟩ := forEach_deliver (t := { t with self := t.self.store reqId op addr }) hc
    (fun peer : NodeId × SocketAddr => peer.1 = t.self.id) (.log t.self.currentOpId op)
    (fun peer => peer.2) (t.self.cluster.entries.map fun e => (e.1, e.2))
  change t.self.replicate op { t with self := t.self.store reqId op addr } =
    returned (deliver t.outcomes t.self.peers).2 { t with
      self := t.self.store reqId op addr
      outcomes := rest
      sent := t.sent ++ (deliver t.outcomes t.self.peers).1.map
        fun a => (a, .log t.self.currentOpId op) } at hloop
  have hselect := select_calls hcalls
  cases he : (deliver t.outcomes t.self.peers).2 with
  | none =>
    rw [he] at hloop
    have hreq := handleRequest_eq hne reqId op addr
    rw [bind_ok hloop] at hreq
    unfold Node.runOnce at hr
    cases hadv : advance (α := α) t.self.currentOpId { t with
        self := t.self.store reqId op addr
        outcomes := rest
        sent := t.sent ++ (deliver t.outcomes t.self.peers).1.map
          fun a => (a, .log t.self.currentOpId op) } with
    | ok u t₁ =>
      rw [hadv] at hreq
      rw [bind_ok hreq] at hselect
      rw [hselect] at hr
      cases hr
      rw [advance_ok hadv]
      exact ⟨rfl, rfl, rfl, (List.append_nil _).symm⟩
    | error fault t₁ =>
      rw [hadv] at hreq
      rw [bind_error hreq] at hselect
      rw [hselect] at hr
      cases fault with
      | err e => exact absurd hadv (advance_no_err _ _ _)
      | panic message => cases hr
  | some e =>
    rw [he] at hloop
    have hreq := handleRequest_eq hne reqId op addr
    rw [bind_error hloop] at hreq
    rw [bind_error hreq] at hselect
    rw [runOnce_err hselect hr]
    exact ⟨rfl, rfl, rfl, (List.append_nil _).symm⟩

/-- A request of a leader that is alone: it is executed, and the op id stays. -/
theorem runOnce_lone {reqId : ReqId} {op : Operation α} {addr : SocketAddr}
    (hcalls : Calls t.self event reqId op addr) (hlen : t.self.cluster.len = 1)
    (hr : Node.runOnce event t = .ok rc t') :
    Leaves t t' (t.self.operations.insert t.self.currentOpId (.new op addr reqId))
      t.self.cluster [] [(t.self.currentOpId, op)] := by
  have hselect := select_calls hcalls
  rw [bind_ok (handleRequest_lone hlen reqId op addr)] at hselect
  unfold Node.runOnce at hr
  rw [hselect] at hr
  cases hr
  exact ⟨rfl, rfl, (List.append_nil _).symm, rfl⟩

/-- The addresses that are told of a member that joins. -/
def informed (self : Leader α) (addr : SocketAddr) : List SocketAddr :=
  (self.enroll addr).cluster.values.filter fun a => ¬ (a = self.address ∨ a = addr)

/-- A join: the own database is asked for a snapshot, and the member is there from then on
    unless its own update finds it gone. -/
theorem runOnce_join {addr : SocketAddr} (hc : t.connected = true)
    (hr : Node.runOnce (.nodeMsg (.ok (.join addr))) t = .ok rc t') :
    Leaves t t' t.self.operations
      (settle (t.self.enroll addr).cluster (deliver t.outcomes (t.self.informed addr)).2)
      ((deliver t.outcomes (t.self.informed addr)).1.map
        fun a => (a, .clusterUpdate (getIdGivenAddr addr, addr)))
      [(0, .getDatabase addr)] := by
  obtain ⟨rest, hloop⟩ := forEach_deliver (t := { t with
      self := t.self.enroll addr
      commands := t.commands ++ [(0, .getDatabase addr)] }) hc
    (fun a => a = t.self.address ∨ a = addr) (.clusterUpdate (getIdGivenAddr addr, addr))
    (fun a => a) (t.self.enroll addr).cluster.values
  rw [List.map_id'' fun _ => rfl] at hloop
  have hjoin : Node.handleJoin addr t =
      returned (deliver t.outcomes (t.self.informed addr)).2 { t with
        self := t.self.enroll addr
        outcomes := rest
        sent := t.sent ++ (deliver t.outcomes (t.self.informed addr)).1.map
          fun a => (a, .clusterUpdate (getIdGivenAddr addr, addr))
        commands := t.commands ++ [(0, .getDatabase addr)] } := by
    show handleJoin addr t = _
    unfold handleJoin
    rw [bind_execute, bind_modifySelf, bind_getSelf]
    exact hloop
  have hselect : Node.select (.nodeMsg (.ok (.join addr))) t =
    ((Node.handleJoin addr : Handler α (Leader α) Unit) >>= fun _ => pure RoleChange.none) t := rfl
  cases he : (deliver t.outcomes (t.self.informed addr)).2 with
  | none =>
    rw [he] at hjoin
    rw [bind_ok hjoin] at hselect
    unfold Node.runOnce at hr
    rw [hselect] at hr
    cases hr
    exact ⟨rfl, rfl, rfl, rfl⟩
  | some e =>
    rw [he] at hjoin
    rw [bind_error hjoin] at hselect
    rw [runOnce_err hselect hr]
    exact ⟨rfl, rfl, rfl, rfl⟩

end Leader

/-! ## Answers -/

def isLog : Message α → Bool
  | .log .. => true
  | _ => false

/-- The handler leaves the role state and the database alone and sends no log entry. -/
def Quiet {σ β : Type} (x : Handler α σ β) : Prop :=
  ∀ t, (left (x t)).self = t.self ∧ (left (x t)).commands = t.commands ∧
    ∃ out, (left (x t)).sent = t.sent ++ out ∧ ∀ m ∈ out, isLog m.2 = false

section Quiet

variable {σ β γ : Type}

theorem quiet_pure (b : β) : Quiet (pure b : Handler α σ β) :=
  fun _ => ⟨rfl, rfl, [], (List.append_nil _).symm, fun _ hm => by cases hm⟩

theorem quiet_bind {x : Handler α σ β} {f : β → Handler α σ γ} (hx : Quiet x)
    (hf : ∀ b, Quiet (f b)) : Quiet (x >>= f) := by
  intro t
  obtain ⟨hself, hcommands, out, hsent, hout⟩ := hx t
  cases hr : x t with
  | ok b t₁ =>
    rw [hr] at hself hcommands hsent
    obtain ⟨hself', hcommands', out', hsent', hout'⟩ := hf b t₁
    rw [bind_ok hr]
    refine ⟨hself'.trans hself, hcommands'.trans hcommands, out ++ out', ?_, fun m hm => ?_⟩
    · rw [hsent', ← List.append_assoc, ← hsent]
      rfl
    · exact (List.mem_append.mp hm).elim (hout m) (hout' m)
  | error e t₁ =>
    rw [hr] at hself hcommands hsent
    rw [bind_error hr]
    exact ⟨hself, hcommands, out, hsent, hout⟩

theorem quiet_send {msg : Message α} (hm : isLog msg = false) (addr : SocketAddr) :
    Quiet (send msg addr : Handler α σ Unit) := by
  intro t
  obtain ⟨self, connected, outcomes, now, sent, told, commands⟩ := t
  have hone : ∀ m ∈ [(addr, msg)], isLog m.2 = false := by
    intro m hin
    rw [List.mem_singleton.mp hin]
    exact hm
  have hnone : ∀ m ∈ ([] : List (SocketAddr × Message α)), isLog m.2 = false := nofun
  match connected, outcomes with
  | false, _ => exact ⟨rfl, rfl, [], (List.append_nil _).symm, hnone⟩
  | true, [] => exact ⟨rfl, rfl, [(addr, msg)], rfl, hone⟩
  | true, none :: rest => exact ⟨rfl, rfl, [(addr, msg)], rfl, hone⟩
  | true, some e :: rest => exact ⟨rfl, rfl, [], (List.append_nil _).symm, hnone⟩

theorem quiet_tell (msg : NodeToStationMsg) : Quiet (tell msg : Handler α σ Unit) :=
  fun _ => ⟨rfl, rfl, [], (List.append_nil _).symm, fun _ hm => by cases hm⟩

theorem quiet_errorOf {x : Handler α σ Unit} (hx : Quiet x) : Quiet (errorOf x) := by
  intro t
  have hx' := hx t
  unfold errorOf
  split <;> rename_i hr <;> rw [hr] at hx' <;> exact hx'

end Quiet

namespace Leader

/-- What follows once the entry of a result has been taken. -/
theorem handleOperationResult_quiet (opId : OpId) (operation : Operation α)
    (result : OperationResult α) :
    ∃ answer : PendingOperation α → Handler α (Leader α) Unit,
      handleOperationResult opId operation result = (takePending opId operation >>= answer) ∧
      ∀ pending, Quiet (answer pending) := by
  refine ⟨_, rfl, fun pending => ?_⟩
  refine quiet_bind (fun t => ⟨rfl, rfl, [], (List.append_nil _).symm, nofun⟩) fun self => ?_
  have hreply : ∀ own : Handler α (Leader α) Unit, Quiet own →
      Quiet (if pending.clientAddr = self.address then own
        else send (.response pending.requestId result) pending.clientAddr) := by
    intro own hown
    split
    · exact hown
    · exact quiet_send rfl _
  cases operation with
  | getDatabase addr =>
    dsimp only
    split
    · refine quiet_bind (quiet_errorOf (quiet_send rfl _)) fun _ => ?_
      split
      · exact quiet_send rfl _
      · exact quiet_pure _
    · exact quiet_pure _
  | replaceDatabase snapshot => exact quiet_pure _
  | charge accountId cardId amount off =>
    cases result with
    | charge chargeRes => exact hreply _ (quiet_tell _)
    | _ => exact hreply _ (quiet_pure _)
  | _ => exact hreply _ (quiet_pure _)

variable [AddrHash] {t t' : Task α (Leader α)} {rc : RoleChange} {opId : OpId}

omit [AddrHash] in
/-- Taking the entry of a result changes the pending operations at most. -/
theorem takePending_cases (opId : OpId) (operation : Operation α) (t : Task α (Leader α)) :
    (∃ pending operations, (operations = t.self.operations ∨
        operations = t.self.operations.erase opId) ∧
      takePending opId operation t =
        .ok pending { t with self := { t.self with operations := operations } }) ∨
    ∃ message t', takePending opId operation t = .error (.panic message) t' := by
  by_cases hid : opId = 0
  · subst hid
    exact .inl ⟨_, _, .inl rfl, takePending_zero operation⟩
  · cases hlook : t.self.operations.lookup opId with
    | some pending => exact .inl ⟨_, _, .inr rfl, takePending_ok hid hlook operation⟩
    | none => exact .inr ⟨_, _, takePending_panics hid hlook operation⟩

/-- A result: its entry goes, and no log entry is sent for it. -/
theorem runOnce_result {operation : Operation α} {result : OperationResult α}
    (hr : Node.runOnce (.actorEvent (.operationResult opId operation result)) t = .ok rc t') :
    ∃ operations out, (operations = t.self.operations ∨
        operations = t.self.operations.erase opId) ∧ (∀ m ∈ out, isLog m.2 = false) ∧
      Leaves t t' operations t.self.cluster out [] := by
  obtain ⟨answer, heq, hquiet⟩ := handleOperationResult_quiet opId operation result
  rcases takePending_cases opId operation t with
    ⟨pending, operations, hops, htake⟩ | ⟨message, t₁, htake⟩
  · have hres : handleOperationResult opId operation result t =
        answer pending { t with self := { t.self with operations := operations } } := by
      rw [heq, bind_ok htake]
    obtain ⟨hself, hcommands, out, hsent, hout⟩ := quiet_errorOf (hquiet pending)
      { t with self := { t.self with operations := operations } }
    have herr : errorOf (handleOperationResult opId operation result) t = errorOf (answer pending)
        { t with self := { t.self with operations := operations } } := by
      unfold errorOf
      rw [hres]
    refine ⟨operations, out, hops, hout, ?_⟩
    cases hans : errorOf (answer pending)
        { t with self := { t.self with operations := operations } } with
    | ok e t₂ =>
      rw [hans] at hself hcommands hsent
      rw [hans] at herr
      have hact : Node.handleActorEvent (.operationResult opId operation result) t =
        .ok () t₂ := bind_ok herr
      rw [runOnce_ok (bind_ok hact)] at hr
      cases hr
      have hops' := congrArg Leader.operations hself
      have hcluster := congrArg Leader.cluster hself
      exact ⟨hops', hcluster, hsent, hcommands.trans (List.append_nil _).symm⟩
    | error fault t₂ =>
      cases fault with
      | panic message =>
        rw [hans] at herr
        have hact : Node.handleActorEvent (.operationResult opId operation result) t =
          .error (.panic message) t₂ := bind_error herr
        rw [runOnce_panics (bind_error hact)] at hr
        cases hr
      | err e =>
        unfold errorOf at hans
        split at hans <;> cases hans
  · have herr : errorOf (handleOperationResult opId operation result) t =
        .error (.panic message) t₁ := by
      unfold errorOf
      rw [heq, bind_error htake]
    have hact : Node.handleActorEvent (.operationResult opId operation result) t =
      .error (.panic message) t₁ := bind_error herr
    rw [runOnce_panics (bind_error hact)] at hr
    cases hr

/-- A peer is lost. -/
theorem runOnce_lost {addr : SocketAddr}
    (hr : Node.runOnce (.nodeMsg (.error (.connectionLostWith addr))) t = .ok rc t') :
    Leaves t t' t.self.operations (t.self.cluster.erase (getIdGivenAddr addr)) [] [] := by
  have hselect : Node.select (.nodeMsg (.error (.connectionLostWith addr))) t =
    .error (.err (.connectionLostWith addr)) t := rfl
  rw [runOnce_err hselect hr]
  exact ⟨rfl, rfl, (List.append_nil _).symm, (List.append_nil _).symm⟩

/-- An ack of an entry that is not pending. -/
theorem runOnce_ack_unknown (h : t.self.operations.lookup opId = none) :
    Node.runOnce (.nodeMsg (.ok (.ack opId))) t = .ok .none t :=
  runOnce_ok (bind_ok (handleAck_unknown h))

/-- An ack is counted, and executes its entry when the count is right. -/
theorem runOnce_ack {stored : PendingOperation α}
    (h : t.self.operations.lookup opId = some stored) (hpos : t.self.cluster.len ≠ 0) :
    ∃ t', Node.runOnce (.nodeMsg (.ok (.ack opId))) t = .ok .none t' ∧
      Leaves t t' (t.self.operations.insert opId { stored with ackCount := stored.ackCount + 1 })
        t.self.cluster []
        (if stored.ackCount + 1 = quorum t.self.cluster.len ∨ t.self.cluster.len = 2 then
          [(opId, stored.op)] else []) := by
  by_cases hq : stored.ackCount + 1 = quorum t.self.cluster.len ∨ t.self.cluster.len = 2
  · refine ⟨_, runOnce_ok (bind_ok (handleAck_executes h hq)), rfl, rfl, ?_, ?_⟩
    · exact (List.append_nil _).symm
    · rw [if_pos hq]
  · rw [not_or] at hq
    refine ⟨_, runOnce_ok (bind_ok (handleAck_waits h hq.1 hq.2 hpos)), rfl, rfl, ?_, ?_⟩
    · exact (List.append_nil _).symm
    · rw [if_neg (not_or.mpr hq), List.append_nil]

/-- Without any member an ack is a panic. -/
theorem runOnce_ack_empty {stored : PendingOperation α}
    (h : t.self.operations.lookup opId = some stored) (hlen : t.self.cluster.len = 0) :
    Node.runOnce (.nodeMsg (.ok (.ack opId))) t ≠ .ok rc t' := by
  have hq : stored.ackCount + 1 ≠ quorum t.self.cluster.len := by
    rw [hlen, show quorum 0 = 0 from by decide]
    exact Nat.succ_ne_zero _
  rw [runOnce_panics (bind_error (handleAck_panics h hq hlen))]
  exact nofun

end Leader

end YpfRuta.Server
