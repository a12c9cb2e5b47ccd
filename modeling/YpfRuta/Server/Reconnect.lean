/-
  What a server node that was offline does with its queue once it is back: only a
  replica drains it, when the snapshot its new leader sent is installed.
-/
import YpfRuta.Server.Granted

namespace YpfRuta.Server

open Lib

variable {α : Type}

/-- The leader a node follows, itself if it leads. -/
def NodeRuntime.leaderAddr : NodeRuntime α → SocketAddr
  | .leader self => self.address
  | .replica self => self.leaderAddr

/-- The station asks the node to connect again. -/
def Wake.connectNode (now : Nat) : Wake α := ⟨.stationMsg .connectNode, [], now⟩

namespace Served

/-- The node takes part in the cluster. -/
structure Online (s : Served α) : Prop where
  connected : s.connected = true
  isOffline : s.runtime.isOffline = false

/-- By the end of the run from `s` to `s'` the queue of `s` has left the node, in order
    and each charge once: some turn sent it all to the leader of the time. -/
def HandedOver [AddrHash] (s : Served α) (ws : List (Wake α)) (s' : Served α) : Prop :=
  ∃ pre w post r r', ws = pre ++ w :: post ∧ run step s pre = some r ∧ r.step w = some r' ∧
    r'.queue = [] ∧
    r'.submitted = s.submitted ++ s.queue.map (fun op => (r.runtime.leaderAddr, op)) ∧
    s'.queue = [] ∧ s'.submitted = r'.submitted

theorem Online.not_away {s : Served α} {w : Wake α} (h : s.Online) (hw : w.event ≠ .stationMsg .disconnectNode) :
    ¬ s.Away w := by
  rintro (hoff | hev)
  · rw [h.isOffline] at hoff
    exact Bool.false_ne_true hoff
  · exact hw hev

section Runs

variable [AddrHash] {s s' : Served α} {w : Wake α}

/-- The charges a node grants while it is online: none. -/
theorem Accounts.grants_nil {g lost : List (Operation α)} {d : List (SocketAddr × Operation α)}
    (hs : s.step w = some s') (h : Accounts s s' w g d lost)
    (hoff : s.runtime.isOffline = false ∨ w.event = .stationMsg .connectNode) : g = [] := by
  have hg : s'.granted = s.granted ++ g := h.granted
  have hnone : ∀ told, granting s.runtime told w.event = [] := by
    intro told
    unfold granting
    split
    · rename_i hev
      refine if_neg fun hc => ?_
      rcases hoff with hoff | hoff
      · rw [hoff] at hc
        exact Bool.false_ne_true hc.1
      · rw [hev] at hoff
        cases hoff
    · rfl
  rcases step_cases hs with ⟨self, down, -, rfl⟩ | ⟨self, down, -, rfl⟩ <;>
    exact (List.append_cancel_left ((congrArg (s.granted ++ ·) (hnone _)).symm.trans hg)).symm

theorem leader_connects {t : Task α (Leader α)} (h : t.outcomes = []) :
    (left (Node.runOnce (.stationMsg .connectNode) t)).connected = true ∧
      (left (Node.runOnce (.stationMsg .connectNode) t)).self.isOffline = false := by
  obtain ⟨self, connected, outcomes, now, sent, told, commands⟩ := t
  obtain rfl : outcomes = [] := h
  have hjoin : Within (Leader.offline self.offlineQueue False)
      (getSelf >>= fun self : Leader α => Leader.joinAny self.address self.cluster.values) :=
    within_getSelf fun _ _ => Leader.joinAny_within Leader.offline_lenient _ _
  have hselect : Framed (Leader.offline self.offlineQueue False)
      ⟨{ self with isOffline := false }, true, [], now, sent, told, commands⟩
      (left (Node.select (.stationMsg .connectNode)
        ⟨self, connected, [], now, sent, told, commands⟩)) :=
    within_bind hjoin (fun _ => within_pure RoleChange.none) _ ⟨rfl, fun _ => rfl⟩
  have hx := runOnce_framed hselect fun _ =>
    Leader.handleConnectionLostWith_within Leader.offline_lenient _
  exact ⟨hx.connected not_false rfl, hx.inv.2 not_false⟩

theorem replica_connects {t : Task α (Replica α)} (h : t.outcomes = []) :
    (left (Node.runOnce (.stationMsg .connectNode) t)).connected = true ∧
      (left (Node.runOnce (.stationMsg .connectNode) t)).self.isOffline = false := by
  obtain ⟨self, connected, outcomes, now, sent, told, commands⟩ := t
  obtain rfl : outcomes = [] := h
  have hjoin : Within (Replica.offline self.offlineQueue False)
      (getSelf >>= fun self : Replica α => Replica.joinAny self.address self.cluster.values) :=
    within_getSelf fun _ _ => Replica.joinAny_within _ _
  have hselect : Framed (Replica.offline self.offlineQueue False)
      ⟨{ self with isOffline := false }, true, [], now, sent, told, commands⟩
      (left (Node.select (.stationMsg .connectNode)
        ⟨self, connected, [], now, sent, told, commands⟩)) :=
    within_bind hjoin (fun _ => within_pure RoleChange.none) _ ⟨rfl, fun _ => rfl⟩
  have hx := runOnce_framed hselect fun _ => Replica.handleConnectionLostWith_within _
  exact ⟨hx.connected not_false rfl, hx.inv.2 not_false⟩

omit [AddrHash] in
theorem not_installs_connectNode {now : Nat} : ¬ s.Installs (.connectNode now) := by
  intro hinst
  obtain ⟨_, _, _, _, _, hev⟩ := hinst.exists
  cases hev

/-- `ConnectNode` brings the node back online, in either role, and leaves its queue. -/
theorem step_connectNode {now : Nat} (hs : s.step (.connectNode now) = some s') :
    s'.Online ∧ s'.queue = s.queue ∧ s'.submitted = s.submitted := by
  obtain ⟨g, h⟩ := step_grants hs not_installs_connectNode
  obtain rfl := Accounts.grants_nil hs h (Or.inr rfl)
  have hqueue : s'.queue = s.queue := h.kept.symm.trans (List.append_nil _)
  refine ⟨?_, hqueue, h.submitted.trans (List.append_nil _)⟩
  rcases step_cases hs with ⟨self, down, -, rfl⟩ | ⟨self, down, -, rfl⟩
  · obtain ⟨hconn, hoff⟩ := leader_connects (t := { s.task (.connectNode now) with self := self }) rfl
    exact ⟨(left_runAs_connected ..).trans hconn,
      (left_runAs_self NodeRuntime.changeRole_isOffline NodeRuntime.leader self _ _).trans hoff⟩
  · obtain ⟨hconn, hoff⟩ := replica_connects (t := { s.task (.connectNode now) with self := self }) rfl
    exact ⟨(left_runAs_connected ..).trans hconn,
      (left_runAs_self NodeRuntime.changeRole_isOffline NodeRuntime.replica self _ _).trans hoff⟩

/-- A turn of an online node whose sends succeed: a replica that installs a snapshot
    hands its whole queue to its leader, any other turn leaves the queue. -/
theorem step_online (hs : s.step w = some s') (h : s.Online) (hout : w.outcomes = [])
    (hw : w.event ≠ .stationMsg .disconnectNode) (hcharges : Charges s.queue) :
    s'.Online ∧
      (¬ s.Installs w → s'.queue = s.queue ∧ s'.submitted = s.submitted) ∧
      (s.Installs w → s'.queue = [] ∧
        s'.submitted = s.submitted ++ s.queue.map fun op => (s.runtime.leaderAddr, op)) := by
  have haway := h.not_away hw
  by_cases hinst : s.Installs w
  · obtain ⟨self, done, lost, hrt, hacc, hdrains, hall⟩ := step_installs hs hinst hcharges
    obtain ⟨hconn, hoff⟩ := hacc.online haway h.connected
    have hlost : lost = [] := by
      refine hdrains.mpr fun _ => Or.inr ⟨h.connected, ?_⟩
      rw [hout]
      simp
    refine ⟨⟨hconn, hoff⟩, fun hn => absurd hinst hn, fun _ => ?_⟩
    have hdone := hall hlost
    have hkept := hacc.kept
    have hids : (s.queue.map fun op => (self.leaderAddr, op)).map (fun p => p.2) = s.queue := by
      rw [List.map_map]
      exact List.map_id'' (fun _ => rfl) _
    rw [hlost, hdone, hids, List.append_nil] at hkept
    refine ⟨List.self_eq_append_right.mp hkept, ?_⟩
    rw [hacc.submitted, hdone, hrt]
    rfl
  · obtain ⟨g, hacc⟩ := step_grants hs hinst
    obtain rfl := Accounts.grants_nil hs hacc (Or.inl h.isOffline)
    obtain ⟨hconn, hoff⟩ := hacc.online haway h.connected
    refine ⟨⟨hconn, hoff⟩, fun _ => ⟨?_, ?_⟩, fun hi => absurd hi hinst⟩
    · exact hacc.kept.symm.trans (List.append_nil _)
    · exact hacc.submitted.trans (List.append_nil _)

/-- The turns of a node that is back: its sends succeed, and it is not sent away
    again. -/
def Back (w : Wake α) : Prop := w.outcomes = [] ∧ w.event ≠ .stationMsg .disconnectNode

theorem HandedOver.cons {s₁ : Served α} {ws : List (Wake α)} (hs : s.step w = some s₁)
    (hqueue : s₁.queue = s.queue) (hsub : s₁.submitted = s.submitted)
    (h : HandedOver s₁ ws s') : HandedOver s (w :: ws) s' := by
  obtain ⟨pre, v, post, r, r', rfl, hr, hrs, hempty, hsent, hleft, hlast⟩ := h
  rw [hqueue, hsub] at hsent
  exact ⟨w :: pre, v, post, r, r', rfl, run_cons.mpr ⟨s₁, hs, hr⟩, hrs, hempty, hsent, hleft, hlast⟩

theorem HandedOver.of_nil {ws : List (Wake α)} (h : HandedOver s ws s') (hnil : s.queue = []) :
    s'.queue = s.queue ∧ s'.submitted = s.submitted := by
  obtain ⟨pre, v, post, r, r', -, -, -, -, hsent, hleft, hlast⟩ := h
  rw [hnil, List.map_nil, List.append_nil] at hsent
  exact ⟨hleft.trans hnil.symm, hlast.trans hsent⟩

/-- Over a run of an online node: without an installed snapshot at a replica the queue
    stays, with one it is handed over. -/
theorem run_online {ws : List (Wake α)} (hws : ∀ w ∈ ws, Back w) (h : s.Online)
    (hcharges : Charges s.queue) (hr : run step s ws = some s') :
    (Meets step (fun s w => ¬ s.Installs w) s ws →
      s'.queue = s.queue ∧ s'.submitted = s.submitted) ∧
      (¬ Meets step (fun s w => ¬ s.Installs w) s ws → HandedOver s ws s') := by
  induction ws generalizing s with
  | nil =>
    obtain rfl : s = s' := by simpa [run] using hr
    exact ⟨fun _ => ⟨rfl, rfl⟩, fun hn => absurd True.intro hn⟩
  | cons w ws ih =>
    obtain ⟨s₁, hs, hr₁⟩ := run_cons.mp hr
    obtain ⟨hout, hw⟩ := hws w List.mem_cons_self
    have hws' : ∀ v ∈ ws, Back v := fun v hv => hws v (List.mem_cons_of_mem _ hv)
    obtain ⟨honline, hkeeps, hdrains⟩ := step_online hs h hout hw hcharges
    by_cases hinst : s.Installs w
    · obtain ⟨hnil, hsent⟩ := hdrains hinst
      have hcharges₁ : Charges s₁.queue := by
        rw [hnil]
        exact fun op hop => by cases hop
      have hrest := ih hws' honline hcharges₁ hr₁
      have hlater : s'.queue = s₁.queue ∧ s'.submitted = s₁.submitted := by
        by_cases hm : Meets step (fun s w => ¬ s.Installs w) s₁ ws
        · exact hrest.1 hm
        · exact (hrest.2 hm).of_nil hnil
      refine ⟨fun hm => absurd hinst hm.1, fun _ => ?_⟩
      exact ⟨[], w, ws, s, s₁, rfl, rfl, hs, hnil, hsent, hlater.1.trans hnil, hlater.2⟩
    · obtain ⟨hqueue, hsub⟩ := hkeeps hinst
      have hrest := ih hws' honline (hqueue ▸ hcharges) hr₁
      have hmeets : Meets step (fun s w => ¬ s.Installs w) s (w :: ws) ↔
          Meets step (fun s w => ¬ s.Installs w) s₁ ws := by
        rw [meets_cons hs, and_iff_right hinst]
      rw [hmeets, ← hqueue, ← hsub]
      exact ⟨hrest.1, fun hm => (hrest.2 hm).cons hs hqueue hsub⟩

end Runs

/-- **Reconnection.** A node with charges in its queue is told to connect; from then on
    its sends succeed and it is not sent away. By the end of the run its queue has left
    it, in order, for the leader it then followed exactly when the queue was empty or,
    at some turn, an installed snapshot found the node a replica. -/
theorem reconnection_hands_over [AddrHash] {runtime : NodeRuntime α}
    (hfresh : runtime.offlineQueue = []) {before after : List (Wake α)} {s s' : Served α}
    (hr : run step (start runtime) before = some s) (hback : ∀ w ∈ after, Back w) {now : Nat}
    (hr' : run step s (.connectNode now :: after) = some s') :
    HandedOver s (.connectNode now :: after) s' ↔ s.queue = [] ∨
      ¬ Meets step (fun s w => ¬ s.Installs w) s (.connectNode now :: after) := by
  have hstart : (start runtime).queue = [] := hfresh
  obtain ⟨hgranted, lost, hperm, -⟩ := run_accounts hstart rfl rfl before hr
  have hcharges : Charges s.queue := fun op hop => hgranted op (hperm.mem_iff.mpr (by simp [hop]))
  obtain ⟨s₁, hs, hr₁⟩ := run_cons.mp hr'
  obtain ⟨honline, hqueue, hsub⟩ := step_connectNode hs
  have hrest := run_online hback honline (hqueue ▸ hcharges) hr₁
  have hmeets : Meets step (fun s w => ¬ s.Installs w) s (.connectNode now :: after) ↔
      Meets step (fun s w => ¬ s.Installs w) s₁ after := by
    rw [meets_cons hs, and_iff_right not_installs_connectNode]
  rw [hmeets]
  constructor
  · intro ⟨_, _, _, _, _, _, _, _, _, _, hempty, _⟩
    by_cases hm : Meets step (fun s w => ¬ s.Installs w) s₁ after
    · exact Or.inl ((hqueue.symm.trans (hrest.1 hm).1.symm).trans hempty)
    · exact Or.inr hm
  · by_cases hm : Meets step (fun s w => ¬ s.Installs w) s₁ after
    · rintro (hnil | hn)
      · obtain ⟨hq, hsent⟩ := hrest.1 hm
        refine ⟨[], .connectNode now, after, s, s₁, rfl, rfl, hs, hqueue.trans hnil, ?_,
          hq.trans (hqueue.trans hnil), hsent⟩
        rw [hnil, hsub, List.map_nil, List.append_nil]
      · exact absurd hm hn
    · exact fun _ => (hrest.2 hm).cons hs hqueue hsub

section Example

local instance reconnectHash : AddrHash := localHash

/-- The node goes offline and grants one charge. -/
def wentOffline : List (Wake Nat) :=
  [⟨.stationMsg .disconnectNode, [], 0⟩, ⟨.stationMsg (.chargeRequest 1 10 50 1), [], 0⟩]

/-- The snapshot that came back is installed. -/
def installed : List (Wake Nat) :=
  [⟨.actorEvent (.operationResult 0 (.replaceDatabase ⟨localAddr 5001, [], []⟩)
    .replaceDatabase), [], 0⟩]

theorem reconnection_hands_over_example :
    ∃ s s', run step (start (.replica (.start (localAddr 5001) (localAddr 5000)))) wentOffline =
        some s ∧
      run step s (.connectNode 0 :: installed) = some s' ∧ s.queue = [.charge 1 10 50 true] ∧
      HandedOver s (.connectNode 0 :: installed) s' := by
  have hrun : (run step (start (.replica (.start (localAddr 5001) (localAddr 5000))))
      wentOffline).any (fun s =>
        decide (s.queue = [.charge 1 10 50 true]) &&
        decide (¬ Meets step (fun s w => ¬ s.Installs w) s (.connectNode 0 :: installed)) &&
        (run step s (.connectNode 0 :: installed)).isSome) = true := by decide +kernel
  obtain ⟨s, hs, hvals⟩ := (Option.any_eq_true _ _).mp hrun
  rw [Bool.and_eq_true, Bool.and_eq_true] at hvals
  obtain ⟨⟨hqueue, hmeets⟩, hstep⟩ := hvals
  obtain ⟨s', hs'⟩ := Option.isSome_iff_exists.mp hstep
  have hback : ∀ w ∈ installed, Back w := by
    intro w hw
    obtain rfl := List.mem_singleton.mp hw
    exact ⟨rfl, nofun⟩
  exact ⟨s, s', hs, hs', of_decide_eq_true hqueue,
    (reconnection_hands_over rfl hs hback hs').mpr (Or.inr (of_decide_eq_true hmeets))⟩

/-- A leader without other members has nobody to join: telling it to connect sends
    nothing and starts nothing, and its queue stays. -/
theorem lone_leader_keeps_queue :
    ∃ s s', run step (start (.leader (.start (localAddr 5000)))) wentOffline = some s ∧
      run step s [.connectNode 0] = some s' ∧ s.queue = [.charge 1 10 50 true] ∧
      (left (NodeRuntime.turn (.stationMsg .connectNode) (s.task (.connectNode 0)))).sent = [] ∧
      (left (NodeRuntime.turn (.stationMsg .connectNode) (s.task (.connectNode 0)))).commands =
        [] ∧
      s'.queue = [.charge 1 10 50 true] ∧ ¬ HandedOver s [.connectNode 0] s' := by
  have hrun : (run step (start (.leader (.start (localAddr 5000)))) wentOffline).any (fun s =>
      decide (s.queue = [.charge 1 10 50 true]) &&
      decide ((left (NodeRuntime.turn (.stationMsg .connectNode)
        (s.task (.connectNode 0)))).sent = []) &&
      decide ((left (NodeRuntime.turn (.stationMsg .connectNode)
        (s.task (.connectNode 0)))).commands = []) &&
      (run step s [.connectNode 0]).any fun s' =>
        decide (s'.queue = [.charge 1 10 50 true])) = true := by decide +kernel
  obtain ⟨s, hs, hvals⟩ := (Option.any_eq_true _ _).mp hrun
  simp only [Bool.and_eq_true, decide_eq_true_eq] at hvals
  obtain ⟨⟨⟨hqueue, hsent⟩, hcommands⟩, hstep⟩ := hvals
  obtain ⟨s', hs', hqueue'⟩ := (Option.any_eq_true _ _).mp hstep
  have hkept := of_decide_eq_true hqueue'
  refine ⟨s, s', hs, hs', hqueue, hsent, hcommands, hkept, ?_⟩
  intro ⟨_, _, _, _, _, _, _, _, _, _, hempty, _⟩
  rw [hkept] at hempty
  cases hempty

end Example

end Served

end YpfRuta.Server
