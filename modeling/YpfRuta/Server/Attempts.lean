/-
  A replication attempt that breaks off midway: `handle_request` has sent some log
  entries when a send fails, and returns before it advances the op id. The next
  request gets the same id, whatever happens in between.
-/
import YpfRuta.Server.Membership
import YpfRuta.Server.Granted

namespace YpfRuta.Server

open Lib

variable {α : Type}

/-! ## A loop of sends that may fail -/

section Sends

variable {σ γ : Type} {t : Task α σ}

/-- The first send that fails is the one after `k` successes, with `e`. -/
def FailsAfter (outcomes : List (Option AppError)) (k : Nat) (e : AppError) : Prop :=
  outcomes[k]? = some (some e) ∧ ∀ j < k, outcomes[j]? = some none

theorem FailsAfter.unique {outcomes : List (Option AppError)} {k k' : Nat} {e e' : AppError}
    (h : FailsAfter outcomes k e) (h' : FailsAfter outcomes k' e') : k = k' := by
  rcases Nat.lt_trichotomy k k' with hlt | heq | hgt
  · have hnone := h'.2 k hlt
    rw [h.1] at hnone
    cases hnone
  · exact heq
  · have hnone := h.2 k' hgt
    rw [h'.1] at hnone
    cases hnone

theorem FailsAfter.cons {outcomes : List (Option AppError)} {k : Nat} {e : AppError}
    (h : FailsAfter outcomes k e) : FailsAfter (none :: outcomes) (k + 1) e := by
  refine ⟨h.1, fun j hj => ?_⟩
  cases j with
  | zero => rfl
  | succ j => exact h.2 j (by omega)

/-- How a loop that sends `msg` to each of `dsts` ends: it sent to all of them, or to
    those before the first send that failed. -/
inductive Broadcast (t : Task α σ) (msg : Message α) (dsts : List SocketAddr) :
    EStateM.Result Fault (Task α σ) Unit → Prop where
  | done (t' : Task α σ) (h : ∀ k e, k < dsts.length → ¬ FailsAfter t.outcomes k e) :
      Broadcast t msg dsts (.ok () t')
  | broken (k : Nat) (e : AppError) (t' : Task α σ) (hk : k < dsts.length)
      (hf : FailsAfter t.outcomes k e) (hself : t'.self = t.self)
      (hsent : t'.sent = t.sent ++ (dsts.take k).map fun dst => (dst, msg)) :
      Broadcast t msg dsts (.error (.err e) t')

/-- One send went through before the rest of the loop. -/
theorem Broadcast.cons {t t₁ : Task α σ} {msg : Message α} {dst : SocketAddr}
    {dsts : List SocketAddr} {r : EStateM.Result Fault (Task α σ) Unit}
    (h : Broadcast t₁ msg dsts r) (hself : t₁.self = t.self)
    (hsent : t₁.sent = t.sent ++ [(dst, msg)])
    (hup : ∀ k e, FailsAfter t₁.outcomes k e → FailsAfter t.outcomes (k + 1) e)
    (hdown : ∀ k e, FailsAfter t.outcomes k e → ∃ j, k = j + 1 ∧ FailsAfter t₁.outcomes j e) :
    Broadcast t msg (dst :: dsts) r := by
  cases h with
  | done t' h =>
    refine .done t' fun k e hk hf => ?_
    obtain ⟨j, rfl, hj⟩ := hdown k e hf
    rw [List.length_cons] at hk
    exact h j e (by omega) hj
  | broken k e t' hk hf hs hx =>
    refine .broken (k + 1) e t' (by rw [List.length_cons]; omega) (hup k e hf) (hs.trans hself) ?_
    rw [hx, hsent, List.take_succ_cons, List.map_cons, List.append_assoc]
    rfl

theorem forEach_broadcast (hc : t.connected = true) (skip : γ → Prop) [DecidablePred skip]
    (msg : Message α) (addr : γ → SocketAddr) (xs : List γ) :
    Broadcast t msg ((xs.filter fun x => ¬ skip x).map addr)
      (forEach (fun x => if skip x then pure () else send msg (addr x)) xs t) := by
  induction xs generalizing t with
  | nil => exact .done t fun k e hk => absurd hk (Nat.not_lt_zero k)
  | cons x xs ih =>
    unfold forEach
    by_cases hs : skip x
    · rw [if_pos hs, bind_ok (show (pure () : Handler α σ Unit) t = .ok () t from rfl)]
      have hfilter : ((x :: xs).filter fun x => ¬ skip x) = xs.filter fun x => ¬ skip x := by
        simp [hs]
      rw [hfilter]
      exact ih hc
    · have hfilter : ((x :: xs).filter fun x => ¬ skip x) =
          x :: xs.filter fun x => ¬ skip x := by simp [hs]
      rw [if_neg hs, hfilter, List.map_cons]
      obtain ⟨self, connected, outcomes, now, sent, told, commands⟩ := t
      obtain rfl : connected = true := hc
      cases outcomes with
      | nil =>
        have hsend : send msg (addr x) (⟨self, true, [], now, sent, told, commands⟩ : Task α σ) =
            .ok () ⟨self, true, [], now, sent ++ [(addr x, msg)], told, commands⟩ := rfl
        rw [bind_ok hsend]
        refine (ih rfl).cons rfl rfl (fun k e hf => ?_) fun k e hf => ?_
        · cases hf.1
        · cases hf.1
      | cons o rest =>
        cases o with
        | none =>
          have hsend : send msg (addr x)
              (⟨self, true, none :: rest, now, sent, told, commands⟩ : Task α σ) =
              .ok () ⟨self, true, rest, now, sent ++ [(addr x, msg)], told, commands⟩ := rfl
          rw [bind_ok hsend]
          refine (ih rfl).cons rfl rfl (fun k e hf => hf.cons) fun k e hf => ?_
          cases k with
          | zero => cases hf.1
          | succ k => exact ⟨k, rfl, hf.1, fun j hj => hf.2 (j + 1) (by omega)⟩
        | some e =>
          have hsend : send msg (addr x)
              (⟨self, true, some e :: rest, now, sent, told, commands⟩ : Task α σ) =
              .error (.err e) ⟨self, true, rest, now, sent, told, commands⟩ := rfl
          rw [bind_error hsend]
          refine .broken 0 e _ (by rw [List.length_cons]; omega)
            ⟨rfl, fun j hj => absurd hj (Nat.not_lt_zero j)⟩ rfl ?_
          rw [List.take_zero, List.map_nil, List.append_nil]

end Sends

/-! ## One attempt -/

namespace Leader

/-- A send of the broadcast fails after another one went through. -/
def BreaksOff (self : Leader α) (connected : Bool) (outcomes : List (Option AppError)) : Prop :=
  connected = true ∧ ∃ k e, 0 < k ∧ k < self.peers.length ∧ FailsAfter outcomes k e

/-- The attempt returns an error when a member has been sent its log entry. -/
def Abandoned (reqId : ReqId) (op : Operation α) (addr : SocketAddr) (t : Task α (Leader α)) :
    Prop :=
  ∃ e t', handleRequest reqId op addr t = .error (.err e) t' ∧
    ∃ dst, (dst, .log t.self.currentOpId op) ∈ t'.sent

variable {t : Task α (Leader α)}

/-- The log entries of an attempt. -/
def replicate (self : Leader α) (op : Operation α) : Handler α (Leader α) Unit :=
  forEach (fun peer : NodeId × SocketAddr =>
    if peer.1 = self.id then pure () else send (.log self.currentOpId op) peer.2)
    (self.cluster.entries.map fun e => (e.1, e.2))

/-- Without a connection nothing is sent. -/
theorem replicate_unsent (hc : t.connected = false) (self : Leader α) (op : Operation α) :
    (∃ e, self.replicate op t = .error e t) ∨ self.replicate op t = .ok () t := by
  unfold replicate
  induction self.cluster.entries.map fun e => (e.1, e.2) with
  | nil => exact .inr rfl
  | cons x xs ih =>
    unfold forEach
    by_cases hs : x.1 = self.id
    · rw [if_pos hs, bind_ok (show (pure () : Handler α _ Unit) t = .ok () t from rfl)]
      exact ih
    · rw [if_neg hs]
      have hsend : send (.log self.currentOpId op) x.2 t = .error (.err .connectionLost) t := by
        obtain ⟨s, connected, outcomes, now, sent, told, commands⟩ := t
        obtain rfl : connected = false := hc
        rfl
      exact .inl ⟨_, bind_error hsend⟩

/-- Moving on to the next op id. -/
def advance (opId : OpId) : Handler α (Leader α) Unit :=
  addOne opId >>= fun next => modifySelf fun self => { self with currentOpId := next }

/-- An attempt stores the request, replicates it and only then advances the op id. -/
theorem handleRequest_eq (hne : t.self.cluster.len ≠ 1) (reqId : ReqId) (op : Operation α)
    (addr : SocketAddr) :
    handleRequest reqId op addr t =
      (t.self.replicate op >>= fun _ => advance t.self.currentOpId)
        { t with self := t.self.store reqId op addr } := by
  unfold handleRequest
  rw [bind_modifySelf, bind_getSelf, if_neg hne]
  rfl

theorem advance_no_err (opId : OpId) (e : AppError) (t' : Task α (Leader α)) :
    advance opId t ≠ .error (.err e) t' := by
  unfold advance addOne
  split <;> exact fun h => by cases h

/-- **When an attempt is abandoned**: exactly when a send fails after another one
    went through. The op id is what it was. -/
theorem abandoned_iff (hlen : 2 ≤ t.self.cluster.len) (hsent : t.sent = []) (reqId : ReqId)
    (op : Operation α) (addr : SocketAddr) :
    Abandoned reqId op addr t ↔ t.self.BreaksOff t.connected t.outcomes := by
  have hne : ¬ t.self.cluster.len = 1 := by omega
  let t₀ : Task α (Leader α) := { t with self := t.self.store reqId op addr }
  unfold Abandoned
  rw [handleRequest_eq hne]
  by_cases hc : t.connected = true
  swap
  · refine ⟨fun ⟨e, t', herr, dst, hin⟩ => ?_, fun h => absurd h.1 hc⟩
    rcases replicate_unsent (t := t₀) (Bool.eq_false_iff.mpr hc) t.self op with ⟨e', h⟩ | h
    · rw [bind_error h] at herr
      cases herr
      rw [show t₀.sent = [] from hsent] at hin
      cases hin
    · rw [bind_ok h] at herr
      exact absurd herr (advance_no_err _ _ _)
  · have hloop := forEach_broadcast (t := t₀) hc (fun peer : NodeId × SocketAddr =>
      peer.1 = t.self.id) (.log t.self.currentOpId op) (fun peer => peer.2)
      (t.self.cluster.entries.map fun e => (e.1, e.2))
    change Broadcast t₀ _ t.self.peers (t.self.replicate op t₀) at hloop
    generalize hr : t.self.replicate op t₀ = r at hloop
    cases hloop with
    | done t' hnone =>
      rw [bind_ok hr]
      refine ⟨fun ⟨e, t', herr, _⟩ => absurd herr (advance_no_err _ _ _), fun h => ?_⟩
      obtain ⟨-, k, e, -, hk, hf⟩ := h
      exact absurd hf (hnone k e hk)
    | broken k e t' hk hf hself hsent' =>
      rw [bind_error hr]
      have hsent'' : t'.sent = (t.self.peers.take k).map
          fun dst => (dst, .log t.self.currentOpId op) := by
        rw [hsent', show t₀.sent = [] from hsent, List.nil_append]
      constructor
      · rintro ⟨e', t'', herr, dst, hin⟩
        cases herr
        refine ⟨hc, k, e, Nat.pos_of_ne_zero fun hzero => ?_, hk, hf⟩
        rw [hsent'', hzero] at hin
        cases hin
      · rintro ⟨-, k', e', hpos, -, hf'⟩
        obtain rfl := hf'.unique hf
        refine ⟨e, t', rfl, t.self.peers[0], ?_⟩
        rw [hsent'']
        refine List.mem_map.mpr ⟨_, ?_, rfl⟩
        exact List.mem_take_iff_getElem.mpr ⟨0, by omega, rfl⟩

/-! ## The op id between attempts -/

/-- The op id is `n`. -/
def counting (n : OpId) : Frame α (Leader α) where
  inv self := self.currentOpId = n
  sent _ := True
  cuts := True

theorem counting_lenient (n : OpId) : Lenient (counting (α := α) n) where
  electing _ _ _ h := h
  members _ _ h := h
  pending _ _ h := h
  sent _ _ _ := True.intro

theorem replicate_within {n : OpId} (self : Leader α) (op : Operation α) :
    Within (counting n) (self.replicate op) := by
  refine within_forEach (fun peer => ?_) _
  split
  · exact within_pure _
  · exact within_send True.intro

/-- An attempt that returns an error has not advanced the op id. -/
theorem handleRequest_error_framed {reqId : ReqId} {op : Operation α} {addr : SocketAddr}
    {e : AppError} {t' : Task α (Leader α)}
    (h : handleRequest reqId op addr t = .error (.err e) t') :
    Framed (counting t.self.currentOpId) { t with self := t.self.store reqId op addr } t' := by
  by_cases hlen : t.self.cluster.len = 1
  · rw [handleRequest_lone hlen] at h
    cases h
  · rw [handleRequest_eq hlen] at h
    have hframed := replicate_within (n := t.self.currentOpId) t.self op
      { t with self := t.self.store reqId op addr } rfl
    cases hr : t.self.replicate op { t with self := t.self.store reqId op addr } with
    | ok u t₁ =>
      rw [bind_ok hr] at h
      exact absurd h (advance_no_err _ _ _)
    | error e' t₁ =>
      rw [bind_error hr] at h
      cases h
      rw [hr] at hframed
      exact hframed

/-- The events that make a leader call `handle_request`. -/
inductive Calls (self : Leader α) : Event α → ReqId → Operation α → SocketAddr → Prop where
  | client (reqId : ReqId) (op : Operation α) (addr : SocketAddr) :
      Calls self (.nodeMsg (.ok (.request reqId op addr))) reqId op addr
  | station (hon : self.isOffline = false) (accountId : AccountId) (cardId : CardId) (amount : α)
      (requestId : ReqId) :
      Calls self (.stationMsg (.chargeRequest accountId cardId amount requestId)) requestId
        (.charge accountId cardId amount false) self.address

theorem select_calls [AddrHash] {event : Event α} {reqId : ReqId} {op : Operation α}
    {addr : SocketAddr} (h : Calls t.self event reqId op addr) :
    Node.select event t = (handleRequest reqId op addr >>= fun _ => pure RoleChange.none) t := by
  cases h with
  | client => rfl
  | station hon accountId cardId amount requestId =>
    exact select_asks (.station accountId cardId amount reqId) hon

/-- A turn without an attempt keeps the op id. -/
theorem runOnce_counting [AddrHash] {event : Event α}
    (hno : ¬ ∃ reqId op addr, Calls t.self event reqId op addr) :
    (left (Node.runOnce event t)).self.currentOpId = t.self.currentOpId := by
  by_cases hev : ∃ accountId cardId amount requestId,
      event = .stationMsg (.chargeRequest accountId cardId amount requestId)
  · obtain ⟨accountId, cardId, amount, requestId, rfl⟩ := hev
    have hoff : t.self.isOffline = true := by
      by_contra hon
      exact hno ⟨_, _, _, .station (Bool.eq_false_iff.mpr hon) accountId cardId amount requestId⟩
    rw [runOnce_charge_offline (show Node.isOffline t.self = true from hoff)]
    rfl
  · have hlenient := counting_lenient (α := α) t.self.currentOpId
    have hselect : Within (counting t.self.currentOpId)
        (Node.select (σ := Leader α) event) := by
      refine select_within hlenient (fun reqId op addr he => ?_) (fun a c x r he => ?_)
        (fun _ => ⟨True.intro, fun _ h => h⟩) fun _ h => h
      · exact absurd ⟨reqId, op, addr, he ▸ .client reqId op addr⟩ hno
      · exact absurd ⟨a, c, x, r, he⟩ hev
    exact (runOnce_framed (hselect t rfl) fun address =>
      handleConnectionLostWith_within hlenient address).inv

/-- A turn whose attempt is abandoned keeps the op id. -/
theorem runOnce_abandoned [AddrHash] {event : Event α} {reqId : ReqId} {op : Operation α}
    {addr : SocketAddr} (hc : Calls t.self event reqId op addr) (h : Abandoned reqId op addr t) :
    (left (Node.runOnce event t)).self.currentOpId = t.self.currentOpId := by
  obtain ⟨e, t', herr, -⟩ := h
  have hframed := handleRequest_error_framed herr
  have hselect : Node.select event t = .error (.err e) t' := by
    rw [select_calls hc]
    exact bind_error herr
  rw [← show left (Node.select event t) = t' by rw [hselect]; rfl] at hframed
  exact (runOnce_framed hframed fun address =>
    handleConnectionLostWith_within (counting_lenient _) address).inv

end Leader

namespace Served

variable [AddrHash] {s s' : Served α} {w : Wake α}

/-- One turn of a node that stays leader. -/
def leaderStep (s : Served α) (w : Wake α) : Option (Served α) :=
  if s.runtime.leads then (s.step w).filter fun s' => s'.runtime.leads else none

omit [AddrHash] in
/-- The turn calls `handle_request` of a leader. -/
def Attempts (s : Served α) (w : Wake α) : Prop :=
  ∃ self reqId op addr, s.runtime = .leader self ∧ Leader.Calls self w.event reqId op addr

omit [AddrHash] in
/-- The request that waits under an op id. -/
def pendingEntry (s : Served α) (n : OpId) : Option (PendingOperation α) :=
  match s.runtime with
  | .leader self => self.operations.lookup n
  | .replica _ => none

/-- An attempt gets another id than `n`, and leaves the request that waits under `n`. -/
def Retires (n : OpId) (s : Served α) (w : Wake α) : Prop :=
  s.Attempts w → (∀ self, s.runtime = .leader self → self.currentOpId ≠ n) ∧
    ∀ s', s.step w = some s' → s.pendingEntry n ≠ none → s'.pendingEntry n = s.pendingEntry n

omit [AddrHash] in
theorem left_runAs_leader {self self' : Leader α} {x : Handler α (Leader α) RoleChange}
    {t : Task α (NodeRuntime α)}
    (h : (left (NodeRuntime.runAs .leader self x t)).self = .leader self') :
    self' = (left (x { t with self := self })).self := by
  unfold NodeRuntime.runAs at h
  cases hx : x { t with self := self } with
  | ok rc t' =>
    rw [hx] at h
    cases rc with
    | demoteToReplica newLeaderAddr => cases h
    | _ => exact (NodeRuntime.leader.inj h).symm
  | error e t' =>
    rw [hx] at h
    exact (NodeRuntime.leader.inj h).symm

theorem step_leader {self self' : Leader α} (hrt : s.runtime = .leader self)
    (hs : s.step w = some s') (hrt' : s'.runtime = .leader self') :
    self' = (left (Node.runOnce w.event { s.task w with self := self })).self := by
  unfold step at hs
  split at hs
  · cases hs
  · obtain rfl := (Option.some.inj hs).symm
    refine left_runAs_leader (t := s.task w) ?_
    have hturn : NodeRuntime.turn w.event (s.task w) =
        NodeRuntime.runAs .leader self (Node.runOnce w.event) (s.task w) := by
      unfold NodeRuntime.turn
      rw [show (s.task w).self = .leader self from hrt]
    rw [← hturn]
    exact hrt'

omit [AddrHash] in
theorem leads_eq_true {node : NodeRuntime α} (h : node.leads = true) :
    ∃ self, node = .leader self := by
  cases node with
  | leader self => exact ⟨self, rfl⟩
  | replica self => cases h

theorem leaderStep_eq (h : s.leaderStep w = some s') :
    ∃ self self', s.runtime = .leader self ∧ s'.runtime = .leader self' ∧ s.step w = some s' := by
  unfold leaderStep at h
  split at h
  · rename_i hlead
    obtain ⟨hs, hlead'⟩ := Option.filter_eq_some_iff.mp h
    obtain ⟨self, hrt⟩ := leads_eq_true hlead
    obtain ⟨self', hrt'⟩ := leads_eq_true hlead'
    exact ⟨self, self', hrt, hrt', hs⟩
  · cases h

/-- **The id of an abandoned attempt is given to the next one.** As long as no
    attempt follows, the op id stays what it was. -/
theorem retires_iff {n : OpId} {self : Leader α} (hrt : s.runtime = .leader self)
    (hid : self.currentOpId = n) {ws : List (Wake α)} (hr : run leaderStep s ws = some s') :
    Meets leaderStep (Retires n) s ws ↔ Meets leaderStep (fun t w => ¬ t.Attempts w) s ws := by
  induction ws generalizing s self with
  | nil => exact Iff.rfl
  | cons w ws ih =>
    obtain ⟨t, ht, hr⟩ := run_cons.mp hr
    rw [meets_cons ht, meets_cons ht]
    by_cases hcall : s.Attempts w
    · refine iff_of_false (fun h => ?_) fun h => h.1 hcall
      exact (h.1 hcall).1 self hrt hid
    · obtain ⟨self₀, self', hrt₀, hrt', hs⟩ := leaderStep_eq ht
      obtain rfl : self = self₀ := NodeRuntime.leader.inj (hrt.symm.trans hrt₀)
      have hid' : self'.currentOpId = n := by
        rw [step_leader hrt hs hrt', ← hid]
        refine Leader.runOnce_counting fun ⟨reqId, op, addr, hc⟩ => hcall ?_
        exact ⟨self, reqId, op, addr, hrt, hc⟩
      rw [ih hrt' hid' hr]
      exact and_congr_left fun _ => iff_of_true (fun h => absurd h hcall) hcall

end Served

/-- **When no later request gets the id of an abandoned attempt.** A leader of two or
    more members handles a request; then come any turns as leader. If the attempt is
    abandoned after some member has its log entry, its id is retired exactly when no
    request is ever handled again; and it is abandoned exactly when a send of the
    broadcast fails after another one went through. -/
theorem abandoned_id_retired [AddrHash] {s₀ s₁ s : Served α} {self self₁ : Leader α} {w₀ : Wake α}
    {ws : List (Wake α)} {reqId : ReqId} {op : Operation α} {addr : SocketAddr}
    (hrt : s₀.runtime = .leader self) (hlen : 2 ≤ self.cluster.len)
    (hcall : Leader.Calls self w₀.event reqId op addr) (hs : s₀.step w₀ = some s₁)
    (hrt₁ : s₁.runtime = .leader self₁) (hr : run Served.leaderStep s₁ ws = some s) :
    (Leader.Abandoned reqId op addr { s₀.task w₀ with self := self } →
        Meets Served.leaderStep (Served.Retires self.currentOpId) s₁ ws) ↔
      ¬ self.BreaksOff s₀.connected w₀.outcomes ∨
        Meets Served.leaderStep (fun t w => ¬ t.Attempts w) s₁ ws := by
  have hiff := Leader.abandoned_iff (t := { s₀.task w₀ with self := self }) hlen rfl reqId op addr
  rw [hiff]
  by_cases hb : self.BreaksOff s₀.connected w₀.outcomes
  · have hid : self₁.currentOpId = self.currentOpId := by
      rw [Served.step_leader hrt hs hrt₁]
      exact Leader.runOnce_abandoned hcall (hiff.mpr hb)
    rw [← Served.retires_iff hrt₁ hid hr]
    exact ⟨fun h => .inr (h hb), fun h _ => h.resolve_left (not_not_intro hb)⟩
  · exact iff_of_true (fun h => absurd h hb) (.inl hb)

section Example

local instance attemptsHash : AddrHash := localHash

/-- The leader at port 5000 with two members. -/
def trio : Leader Nat :=
  ((Leader.start (localAddr 5000)).enroll (localAddr 5001)).enroll (localAddr 5002)

/-- A request whose entry reaches one member, and not the other. -/
def firstTry : Wake Nat :=
  ⟨.nodeMsg (.ok (.request 7 (.limitAccount 1 none) (localAddr 9000))),
    [none, some (.connectionLostWith (localAddr 5001))], 0⟩

/-- The next request, from another client. -/
def secondTry : Wake Nat :=
  ⟨.nodeMsg (.ok (.request 8 (.limitAccount 2 none) (localAddr 9001))), [], 0⟩

theorem firstTry_abandoned : Leader.Abandoned 7 (.limitAccount 1 none) (localAddr 9000)
    { (Served.start (.leader trio)).task firstTry with self := trio } := by
  refine (Leader.abandoned_iff (by decide +kernel) rfl _ _ _).mpr
    ⟨rfl, 1, _, by decide, by decide +kernel, rfl, ?_⟩
  intro j hj
  obtain rfl : j = 0 := by omega
  rfl

theorem abandoned_id_retired_example :
    ∃ s₁ self₁ s, (Served.start (.leader trio)).step firstTry = some s₁ ∧
      s₁.runtime = .leader self₁ ∧ run Served.leaderStep s₁ [secondTry] = some s ∧
      ((Leader.Abandoned 7 (.limitAccount 1 none) (localAddr 9000)
          { (Served.start (.leader trio)).task firstTry with self := trio } →
        Meets Served.leaderStep (Served.Retires trio.currentOpId) s₁ [secondTry]) ↔
      ¬ trio.BreaksOff true firstTry.outcomes ∨
        Meets Served.leaderStep (fun t w => ¬ t.Attempts w) s₁ [secondTry]) := by
  have hrun : ((Served.start (.leader trio)).step firstTry).any (fun s₁ =>
      s₁.runtime.leads && (run Served.leaderStep s₁ [secondTry]).isSome) = true := by decide +kernel
  obtain ⟨s₁, hs, hvals⟩ := (Option.any_eq_true _ _).mp hrun
  obtain ⟨hleads, hsome⟩ := Bool.and_eq_true_iff.mp hvals
  obtain ⟨s, hr⟩ := Option.isSome_iff_exists.mp hsome
  obtain ⟨self₁, hrt₁⟩ := Served.leads_eq_true hleads
  exact ⟨s₁, self₁, s, hs, hrt₁, hr,
    abandoned_id_retired rfl (by decide +kernel) (.client _ _ _) hs hrt₁ hr⟩

/-- The second request is stored and broadcast under the id of the first, which a
    member has already logged. -/
theorem abandoned_id_reused :
    ∃ s₁ s₂, (Served.start (.leader trio)).step firstTry = some s₁ ∧
      run Served.leaderStep s₁ [secondTry] = some s₂ ∧
      Leader.Abandoned 7 (.limitAccount 1 none) (localAddr 9000)
        { (Served.start (.leader trio)).task firstTry with self := trio } ∧
      s₁.pendingEntry 1 = some (.new (.limitAccount 1 none) (localAddr 9000) 7) ∧
      s₂.pendingEntry 1 = some (.new (.limitAccount 2 none) (localAddr 9001) 8) ∧
      ¬ Meets Served.leaderStep (Served.Retires trio.currentOpId) s₁ [secondTry] := by
  have hrun : ((Served.start (.leader trio)).step firstTry).any (fun s₁ => s₁.runtime.leads &&
      decide (s₁.pendingEntry 1 = some (.new (.limitAccount 1 none) (localAddr 9000) 7)) &&
      (run Served.leaderStep s₁ [secondTry]).any fun s₂ =>
        decide (s₂.pendingEntry 1 = some (.new (.limitAccount 2 none) (localAddr 9001) 8))) =
      true := by decide +kernel
  obtain ⟨s₁, hs, hvals⟩ := (Option.any_eq_true _ _).mp hrun
  simp only [Bool.and_eq_true, decide_eq_true_eq] at hvals
  obtain ⟨⟨hleads, hfirst⟩, hstep⟩ := hvals
  obtain ⟨s₂, hr, hsecond⟩ := (Option.any_eq_true _ _).mp hstep
  have hentry := of_decide_eq_true hsecond
  obtain ⟨self₁, hrt₁⟩ := Served.leads_eq_true hleads
  refine ⟨s₁, s₂, hs, hr, firstTry_abandoned, hfirst, hentry, ?_⟩
  obtain ⟨t, ht, hr'⟩ := run_cons.mp hr
  rw [meets_cons ht]
  intro h
  -- the turn of the second request overwrites the entry of the first
  obtain ⟨-, -, -, -, hstep'⟩ := Served.leaderStep_eq ht
  have hfirst' : s₁.pendingEntry trio.currentOpId ≠ none := by
    show s₁.pendingEntry 1 ≠ none
    rw [hfirst]
    nofun
  have hkept : t.pendingEntry 1 = s₁.pendingEntry 1 :=
    (h.1 ⟨self₁, 8, _, _, hrt₁, .client _ _ _⟩).2 t hstep' hfirst'
  obtain rfl : t = s₂ := by simpa [run] using hr'
  rw [hfirst, hentry] at hkept
  cases hkept

end Example

end YpfRuta.Server
