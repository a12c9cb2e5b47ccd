/-
  A replica and the log of its leader: which entries it acks.

  An entry is acked when the database has answered the entry before it, and entry 1 right
  away. A replica that enters the log at entry 1 acks every entry once, in whatever order
  the database answers; one that enters it later never acks its first.
-/
import YpfRuta.Cluster.Steady
import YpfRuta.Server.Membership

namespace YpfRuta.Cluster.Acks

open Server Lib

variable {α : Type}

/-- `entries` are what the leader goes on to log, under `next` and the ids after it.
    `running` are the commands the database has not answered, and `sent` what the replica
    sent. -/
structure State (α : Type) where
  replica : Replica α
  next : OpId
  entries : List (Operation α)
  running : List (OpId × Operation α)
  sent : List (SocketAddr × Message α)

inductive Label (α : Type) where
  /-- The next entry is delivered. -/
  | log
  /-- The database answers a command. -/
  | result (opId : OpId) (op : Operation α) (r : OperationResult α)

namespace State

/-- What a turn starts with: every send succeeds. -/
def task (s : State α) : Task α (Replica α) := .ready s.replica 0

/-- One turn of the replica. It takes none that panics or changes its role. -/
def turn [AddrHash] (s : State α) (event : Event α) : Option (State α) :=
  match Node.runOnce event s.task with
  | .ok .none t => some { s with
      replica := t.self
      running := s.running ++ t.commands
      sent := s.sent ++ t.sent }
  | _ => none

def step [AddrHash] [DecidableEq α] (s : State α) : Label α → Option (State α)
  | .log =>
    match s.entries with
    | op :: rest =>
      { s with next := s.next + 1, entries := rest }.turn (.nodeMsg (.ok (.log s.next op)))
    | [] => none
  | .result opId op r =>
    if (opId, op) ∈ s.running then
      { s with running := s.running.erase (opId, op) }.turn
        (.actorEvent (.operationResult opId op r))
    else none

end State

/-- The entry a message acks. -/
def ack? : SocketAddr × Message α → Option OpId
  | (_, .ack opId) => some opId
  | _ => none

/-- The entries acked so far. -/
def State.acks (s : State α) : List OpId := s.sent.filterMap ack?

/-- Log entries under `first` and the ids after it. -/
def numbered (first : OpId) : List (Operation α) → List (OpId × Operation α)
  | [] => []
  | op :: ops => (first, op) :: numbered (first + 1) ops

/-- Every entry that is to come is acked once, and nothing else is. -/
def State.AcksEach (s₀ s : State α) : Prop :=
  s.acks.Perm ((numbered s₀.next s₀.entries).map Prod.fst)

/-- A replica with an empty log, and entries for it whose ids start at 1 at least and do
    not run out. -/
structure State.Fresh (s : State α) : Prop where
  stored : s.replica.operations = ∅
  first : s.next ≠ 0
  ids : s.next.toNat + s.entries.length ≤ UInt32.size
  entries : s.entries ≠ []
  running : s.running = []
  sent : s.sent = []

/-- The replica acks nothing for an installed snapshot. -/
def installs : Operation α → Bool
  | .replaceDatabase _ => true
  | _ => false

/-! ## Numbered entries -/

theorem numbered_length (first : OpId) (ops : List (Operation α)) :
    (numbered first ops).length = ops.length := by
  induction ops generalizing first with
  | nil => rfl
  | cons op ops ih => rw [numbered, List.length_cons, ih, List.length_cons]

theorem numbered_ops (first : OpId) (ops : List (Operation α)) :
    (numbered first ops).map Prod.snd = ops := by
  induction ops generalizing first with
  | nil => rfl
  | cons op ops ih => rw [numbered, List.map_cons, ih]

/-- The ids after those of all entries but the last. -/
theorem numbered_next (first : OpId) (ops : List (Operation α)) :
    (numbered first ops).dropLast.map (fun e => e.1 + 1) =
      ((numbered first ops).map Prod.fst).tail := by
  induction ops generalizing first with
  | nil => rfl
  | cons op ops ih =>
    cases ops with
    | nil => rfl
    | cons op' ops =>
      have hrest := ih (first + 1)
      rw [numbered] at hrest
      rw [numbered, numbered, List.dropLast_cons_cons, List.map_cons, hrest]
      rfl

/-- The id of an entry, as long as ids do not run out. -/
theorem numbered_id {first : OpId} {ops : List (Operation α)}
    (h : first.toNat + ops.length ≤ UInt32.size) {l l' : List (OpId × Operation α)}
    {e : OpId × Operation α} (he : numbered first ops = l ++ e :: l') :
    e.1.toNat = first.toNat + l.length := by
  induction ops generalizing first l with
  | nil =>
    have hlen := congrArg List.length he
    rw [List.length_append, List.length_cons] at hlen
    exact absurd hlen (by show (0 : Nat) ≠ _; omega)
  | cons op ops ih =>
    rw [List.length_cons] at h
    cases l with
    | nil =>
      obtain ⟨rfl, -⟩ := List.cons.inj he
      rfl
    | cons e₀ l =>
      have hrest : numbered (first + 1) ops = l ++ e :: l' := (List.cons.inj he).2
      have hlen : 0 < ops.length := by
        rw [← numbered_length (first + 1), hrest, List.length_append, List.length_cons]
        omega
      have hnext : (first + 1).toNat = first.toNat + 1 := by
        rw [UInt32.toNat_add]
        exact Nat.mod_eq_of_lt (by show first.toNat + 1 < UInt32.size; omega)
      rw [ih (by rw [hnext]; omega) hrest, hnext, List.length_cons]
      omega

theorem pred_ne (n : OpId) : n - 1 ≠ n := by grind

theorem eq_next {n m : OpId} (h : n.toNat = m.toNat + 1) : n = m + 1 := by
  apply UInt32.toNat_inj.mp
  rw [UInt32.toNat_add, h]
  exact (Nat.mod_eq_of_lt (h ▸ n.toNat_lt)).symm

/-! ## The acks of a run -/

/-- The entry acked when the database has answered this one. -/
def acked (e : OpId × Operation α) : Option OpId :=
  if installs e.2 then none else some (e.1 + 1)

/-- The entry acked right away. -/
def ackedFirst (s₀ : State α) (logged : List (OpId × Operation α)) : List OpId :=
  if s₀.next = 1 ∧ logged ≠ [] then [1] else []

/-- Of the entries logged, the last one is stored and the others are with the database,
    or answered and acked. -/
structure Inv (s₀ s : State α) (logged : List (OpId × Operation α)) : Prop where
  entries : numbered s₀.next s₀.entries = logged ++ numbered s.next s.entries
  stored : ∀ n op, s.replica.operations.lookup n = some op ↔ logged.getLast? = some (n, op)
  running : ∀ e ∈ s.running, e ∈ logged.dropLast
  acks : (s.acks ++ s.running.filterMap acked).Perm
    (ackedFirst s₀ logged ++ logged.dropLast.filterMap acked)

theorem Inv.fresh {s₀ : State α} (h : s₀.Fresh) : Inv s₀ s₀ [] where
  entries := rfl
  stored n op := by
    rw [h.stored]
    exact iff_of_false nofun nofun
  running := by
    rw [h.running]
    nofun
  acks := by
    unfold State.acks ackedFirst
    rw [h.running, h.sent, if_neg fun hc => hc.2 rfl]
    exact .nil

section Step

variable [AddrHash] {s₀ s s' : State α} {logged : List (OpId × Operation α)}

theorem turn_ok {event : Event α} {t : Task α (Replica α)}
    (h : Node.select event s.task = .ok .none t) :
    s.turn event = some { s with
      replica := t.self
      running := s.running ++ t.commands
      sent := s.sent ++ t.sent } := by
  unfold State.turn
  rw [runOnce_ok h]

/-- The turn of a log entry, from what its handler does. -/
theorem turn_log {opId : OpId} {op : Operation α} {t : Task α (Replica α)}
    (h : Replica.handleLog opId op s.task = .ok () t) :
    s.turn (.nodeMsg (.ok (.log opId op))) = some { s with
      replica := t.self
      running := s.running ++ t.commands
      sent := s.sent ++ t.sent } := by
  have hlog : (Node.handleLog opId op : Handler α (Replica α) Unit) s.task = .ok () t := h
  exact turn_ok (bind_ok hlog)

omit [AddrHash] in
theorem task_reliable (s : State α) : s.task.Reliable := Task.ready_reliable s.replica 0

omit [AddrHash] in
/-- Entries follow each other. -/
theorem Inv.next_id (h : Inv s₀ s logged) (h₀ : s₀.Fresh) {op : Operation α}
    {rest : List (Operation α)} (he : s.entries = op :: rest) :
    s.next.toNat = s₀.next.toNat + logged.length ∧ s.next.toNat < UInt32.size := by
  have hentries := h.entries
  rw [he] at hentries
  exact ⟨numbered_id h₀.ids hentries, s.next.toNat_lt⟩

omit [AddrHash] in
theorem ackedFirst_concat {e e' : OpId × Operation α} (l : List (OpId × Operation α)) :
    ackedFirst s₀ ((l ++ [e]) ++ [e']) = ackedFirst s₀ (l ++ [e]) := by
  unfold ackedFirst
  simp

omit [AddrHash] in
/-- Only the entry just inserted is stored. -/
theorem lookup_insert_iff {operations : HashMap OpId (Operation α)}
    (h : ∀ n, operations.lookup n = none) (opId : OpId) (op : Operation α) (n : OpId)
    (op' : Operation α) :
    (operations.insert opId op).lookup n = some op' ↔ some (opId, op) = some (n, op') := by
  by_cases hn : n = opId
  · subst hn
    rw [show (operations.insert n op).lookup n = some op from AList.lookup_insert _]
    constructor
    · intro h
      rw [Option.some.inj h]
    · intro h
      rw [(Prod.mk.inj (Option.some.inj h)).2]
  · rw [show (operations.insert opId op).lookup n = none from
      (AList.lookup_insert_ne hn).trans (h n)]
    exact iff_of_false nofun fun h => hn (Prod.mk.inj (Option.some.inj h)).1.symm

/-- The first entry of all: acked if it is entry 1. -/
theorem Inv.log_first (h : Inv s₀ s []) (h₀ : s₀.Fresh) {op : Operation α}
    {rest : List (Operation α)} (he : s.entries = op :: rest) :
    ∃ s', { s with next := s.next + 1, entries := rest }.turn
        (.nodeMsg (.ok (.log s.next op))) = some s' ∧ Inv s₀ s' [(s.next, op)] := by
  have hentries := h.entries
  rw [he] at hentries
  have hid : s.next = s₀.next := by
    have hnext := (h.next_id h₀ he).1
    exact UInt32.toNat_inj.mp (by simpa using hnext)
  have hnone : ∀ n, s.replica.operations.lookup n = none := by
    intro n
    cases hn : s.replica.operations.lookup n with
    | none => rfl
    | some op' => cases (h.stored n op').mp hn
  have hrunning : s.running = [] := List.eq_nil_iff_forall_not_mem.mpr fun e hmem =>
    List.not_mem_nil (h.running e hmem)
  have hacks : s.acks = [] := by
    have hperm := h.acks
    rw [hrunning, show ackedFirst s₀ [] = [] from if_neg fun hc => hc.2 rfl] at hperm
    simpa using hperm.eq_nil
  let t : State α := { s with next := s.next + 1, entries := rest }
  by_cases hone : s.next = 1
  · have hlog := Replica.handleLog_first (t := t.task) (task_reliable t) op
    rw [← hone] at hlog
    refine ⟨_, turn_log hlog, hentries, lookup_insert_iff hnone s.next op, ?_, ?_⟩
    · rw [hrunning]
      nofun
    · have hsent : (s.sent ++ [(s.replica.leaderAddr, Message.ack 1)]).filterMap ack? =
          s.acks ++ [1] := List.filterMap_append ..
      show ((s.sent ++ [(s.replica.leaderAddr, Message.ack s.next)]).filterMap ack? ++
        (s.running ++ []).filterMap acked).Perm _
      rw [hone, hsent, hacks, hrunning, ackedFirst, if_pos ⟨hid ▸ hone, List.cons_ne_nil _ _⟩]
      exact .rfl
  · have hzero : s.next ≠ 0 := hid ▸ h₀.first
    have hprev : (t.task.self.store s.next op).operations.lookup (s.next - 1) = none :=
      (AList.lookup_insert_ne (pred_ne s.next)).trans (hnone _)
    refine ⟨_, turn_log (Replica.handleLog_stores hzero hone hprev), hentries,
      lookup_insert_iff hnone s.next op, ?_, ?_⟩
    · rw [hrunning]
      nofun
    · show ((s.sent ++ []).filterMap ack? ++ (s.running ++ []).filterMap acked).Perm _
      rw [List.append_nil, show s.sent.filterMap ack? = s.acks from rfl, hacks, hrunning,
        ackedFirst, if_neg fun hc => hone (hid.trans hc.1)]
      exact .rfl

/-- The last entry but one goes to the database. -/
theorem Inv.log_next {l : List (OpId × Operation α)} {prev : OpId × Operation α}
    (h : Inv s₀ s (l ++ [prev])) (h₀ : s₀.Fresh) {op : Operation α} {rest : List (Operation α)}
    (he : s.entries = op :: rest) :
    ∃ s', { s with next := s.next + 1, entries := rest }.turn
        (.nodeMsg (.ok (.log s.next op))) = some s' ∧
      Inv s₀ s' ((l ++ [prev]) ++ [(s.next, op)]) := by
  have hentries := h.entries
  have hid := (h.next_id h₀ he).1
  have hprevId : prev.1.toNat = s₀.next.toNat + l.length := by
    rw [List.append_assoc] at hentries
    exact numbered_id h₀.ids hentries
  have hpos : 0 < s₀.next.toNat := by
    have hne : s₀.next.toNat ≠ 0 := fun h => h₀.first (UInt32.toNat_inj.mp h)
    omega
  rw [List.length_append, List.length_singleton] at hid
  have hnext : s.next = prev.1 + 1 := eq_next (by omega)
  have hpred : s.next - 1 = prev.1 := by
    rw [hnext]
    exact UInt32.add_sub_cancel _ _
  have hzero : s.next ≠ 0 := fun h => by
    rw [h] at hid
    exact absurd hid (by show (0 : Nat) ≠ _; omega)
  have hone : s.next ≠ 1 := fun h => by
    rw [h] at hid
    exact absurd hid (by show (1 : Nat) ≠ _; omega)
  have hstored : ∀ n op', s.replica.operations.lookup n = some op' ↔ prev = (n, op') := by
    intro n op'
    rw [h.stored, List.getLast?_concat, Option.some.injEq]
  let t : State α := { s with next := s.next + 1, entries := rest }
  have hprev : (t.task.self.store s.next op).operations.lookup (s.next - 1) = some prev.2 :=
    (AList.lookup_insert_ne (pred_ne s.next)).trans ((hstored _ _).mpr (by rw [hpred]))
  have hlog := Replica.handleLog_commits hzero hone hprev
  rw [he] at hentries
  refine ⟨_, turn_log hlog, ?_, ?_, ?_, ?_⟩
  · rw [List.append_assoc]
    exact hentries
  · intro n op'
    show ((s.replica.operations.insert s.next op).erase (s.next - 1)).lookup n = some op' ↔ _
    rw [List.getLast?_concat]
    by_cases hn : n = s.next - 1
    · subst hn
      rw [show ((s.replica.operations.insert s.next op).erase (s.next - 1)).lookup (s.next - 1) =
        none from AList.lookup_erase ..]
      exact iff_of_false nofun fun h => pred_ne s.next (Prod.mk.inj (Option.some.inj h)).1.symm
    · rw [show ((s.replica.operations.insert s.next op).erase (s.next - 1)).lookup n =
        (s.replica.operations.insert s.next op).lookup n from AList.lookup_erase_ne hn]
      by_cases hsame : n = s.next
      · subst hsame
        rw [show (s.replica.operations.insert s.next op).lookup s.next = some op from
          AList.lookup_insert _]
        constructor
        · intro h
          rw [Option.some.inj h]
        · intro h
          rw [(Prod.mk.inj (Option.some.inj h)).2]
      · rw [show (s.replica.operations.insert s.next op).lookup n = s.replica.operations.lookup n
          from AList.lookup_insert_ne hsame, hstored]
        refine iff_of_false (fun h => hn ?_) fun h => hsame (Prod.mk.inj (Option.some.inj h)).1.symm
        rw [hpred, h]
  · show ∀ e ∈ s.running ++ [(s.next - 1, prev.2)], e ∈ ((l ++ [prev]) ++ [(s.next, op)]).dropLast
    rw [List.dropLast_concat, hpred]
    intro e hmem
    rcases List.mem_append.mp hmem with hmem | hmem
    · exact List.dropLast_subset _ (h.running e hmem)
    · exact List.mem_append_right l hmem
  · show ((s.sent ++ []).filterMap ack? ++
      (s.running ++ [(s.next - 1, prev.2)]).filterMap acked).Perm _
    have hperm := h.acks
    rw [List.dropLast_concat] at hperm
    rw [List.append_nil, show s.sent.filterMap ack? = s.acks from rfl, hpred, ackedFirst_concat,
      List.dropLast_concat, List.filterMap_append, List.filterMap_append, ← List.append_assoc,
      ← List.append_assoc]
    exact hperm.append_right _

/-- A log entry. -/
theorem Inv.log (h : Inv s₀ s logged) (h₀ : s₀.Fresh) {op : Operation α}
    {rest : List (Operation α)} (he : s.entries = op :: rest) :
    ∃ s', { s with next := s.next + 1, entries := rest }.turn
        (.nodeMsg (.ok (.log s.next op))) = some s' ∧ Inv s₀ s' (logged ++ [(s.next, op)]) := by
  rcases List.eq_nil_or_concat' logged with rfl | ⟨l, prev, rfl⟩
  · exact h.log_first h₀ he
  · exact h.log_next h₀ he

/-- What the answer to a command sends: one ack, or the queued charges. -/
theorem result_sends [DecidableEq α] (h : Inv s₀ s logged) (h₀ : s₀.Fresh) {opId : OpId}
    {op : Operation α} (hrun : (opId, op) ∈ s.running) (r : OperationResult α) :
    ∃ (t : Task α (Replica α)), Node.select (.actorEvent (.operationResult opId op r)) s.task =
      .ok .none t ∧ t.self.operations = s.replica.operations ∧ t.commands = [] ∧
      t.sent.filterMap ack? = (acked (opId, op)).toList := by
  cases hop : installs op with
  | true =>
    obtain ⟨snapshot, rfl⟩ : ∃ snapshot, op = .replaceDatabase snapshot := by
      cases op with
      | replaceDatabase snapshot => exact ⟨snapshot, rfl⟩
      | _ => cases hop
    have hflush := Replica.handleOperationResult_flushes (task_reliable s) opId snapshot r
    refine ⟨_, select_result hflush, rfl, rfl, ?_⟩
    have hnone : acked (opId, .replaceDatabase snapshot) = none := if_pos rfl
    rw [hnone]
    refine List.filterMap_eq_nil_iff.mpr fun p hp => ?_
    obtain ⟨charge, -, rfl⟩ := List.mem_map.mp hp
    rfl
  | false =>
    have hnot : ∀ snapshot, op ≠ .replaceDatabase snapshot := by
      rintro snapshot rfl
      cases hop
    -- an entry after this one has been logged, so its id is not the last there is
    have hsize : opId.toNat + 1 < UInt32.size := by
      have hmem := h.running _ hrun
      have hentries := h.entries
      rcases List.eq_nil_or_concat' logged with rfl | ⟨l, last, rfl⟩
      · cases hmem
      · rw [List.dropLast_concat] at hmem
        obtain ⟨l₁, l₂, rfl⟩ := List.append_of_mem hmem
        have hthis := hentries
        rw [List.append_assoc, List.append_assoc, List.cons_append] at hthis
        rw [List.append_assoc] at hentries
        have hid : opId.toNat = _ := numbered_id h₀.ids hthis
        have hlast := numbered_id h₀.ids hentries
        have hlt := last.1.toNat_lt
        rw [List.length_append, List.length_cons] at hlast
        show opId.toNat + 1 < 2 ^ 32
        omega
    have hack := Replica.handleOperationResult_ack (task_reliable s) hnot hsize r
    refine ⟨_, select_result hack, rfl, rfl, ?_⟩
    have hsome : acked (opId, op) = some (opId + 1) := if_neg (by rw [hop]; decide)
    rw [hsome]
    rfl

/-- An answer of the database. -/
theorem Inv.result [DecidableEq α] (h : Inv s₀ s logged) (h₀ : s₀.Fresh) {opId : OpId}
    {op : Operation α} (hrun : (opId, op) ∈ s.running) (r : OperationResult α) :
    ∃ s', { s with running := s.running.erase (opId, op) }.turn
        (.actorEvent (.operationResult opId op r)) = some s' ∧ Inv s₀ s' logged := by
  obtain ⟨t, hsel, hoperations, hcommands, hsent⟩ := result_sends h h₀ hrun r
  let rest : State α := { s with running := s.running.erase (opId, op) }
  have hturn := turn_ok (s := rest) hsel
  refine ⟨_, hturn, h.entries, ?_, ?_, ?_⟩
  · rw [hoperations]
    exact h.stored
  · rw [hcommands, List.append_nil]
    exact fun e hmem => h.running e (List.mem_of_mem_erase hmem)
  · have hperm := h.acks
    have hsplit : (s.running.filterMap acked).Perm
        ((acked (opId, op)).toList ++ (s.running.erase (opId, op)).filterMap acked) := by
      have hcons := (List.perm_cons_erase hrun).filterMap acked
      rw [List.filterMap_cons] at hcons
      cases hacked : acked (opId, op) <;> rw [hacked] at hcons <;> exact hcons
    show ((s.sent ++ t.sent).filterMap ack? ++
      (s.running.erase (opId, op) ++ t.commands).filterMap acked).Perm _
    rw [List.filterMap_append, hsent, hcommands, List.append_nil, List.append_assoc]
    exact (hsplit.symm.append_left s.acks).trans hperm

/-- **A step** of the replica or of its database, which none of them refuses. -/
theorem Inv.step [DecidableEq α] (h : Inv s₀ s logged) (h₀ : s₀.Fresh) {l : Label α}
    (hs : s.step l = some s') : ∃ logged', Inv s₀ s' logged' := by
  cases l with
  | log =>
    cases he : s.entries with
    | nil => simp [State.step, he] at hs
    | cons op rest =>
      simp only [State.step, he] at hs
      obtain ⟨t, ht, hinv⟩ := h.log h₀ he
      obtain rfl := Option.some.inj (ht.symm.trans hs)
      exact ⟨_, hinv⟩
  | result opId op r =>
    by_cases hrun : (opId, op) ∈ s.running
    · obtain ⟨t, ht, hinv⟩ := h.result h₀ hrun r
      obtain rfl := Option.some.inj (ht.symm.trans ((if_pos hrun).symm.trans hs))
      exact ⟨_, hinv⟩
    · cases (if_neg hrun).symm.trans hs

end Step

section Run

variable [AddrHash] [DecidableEq α] {s₀ s : State α} {ls : List (Label α)}

theorem inv_run (h₀ : s₀.Fresh) (hr : Lib.run State.step s₀ ls = some s) :
    ∃ logged, Inv s₀ s logged := by
  refine run_induct (P := fun t => ∃ logged, Inv s₀ t logged) (fun t l t' hinv hs => ?_) hr
    ⟨[], Inv.fresh h₀⟩
  obtain ⟨logged, hinv⟩ := hinv
  exact hinv.step h₀ hs

/-- The replica takes every entry and every answer. -/
theorem never_stuck (h₀ : s₀.Fresh) (hr : Lib.run State.step s₀ ls = some s) :
    (s.entries ≠ [] → (s.step .log).isSome) ∧
      ∀ opId op r, (opId, op) ∈ s.running → (s.step (.result opId op r)).isSome := by
  obtain ⟨logged, hinv⟩ := inv_run h₀ hr
  constructor
  · intro hne
    obtain ⟨op, rest, he⟩ := List.exists_cons_of_ne_nil hne
    obtain ⟨t, ht, -⟩ := hinv.log h₀ he
    simp only [State.step, he]
    rw [ht]
    rfl
  · intro opId op r hrun
    obtain ⟨t, ht, -⟩ := hinv.result h₀ hrun r
    rw [State.step, if_pos hrun, ht]
    rfl

omit [AddrHash] [DecidableEq α] in
/-- The acks of a whole log. -/
theorem acked_all (h : s₀.next = 1)
    (hops : ∀ op ∈ s₀.entries.dropLast, installs op = false) (hne : s₀.entries ≠ []) :
    ackedFirst s₀ (numbered s₀.next s₀.entries) ++
        (numbered s₀.next s₀.entries).dropLast.filterMap acked =
      (numbered s₀.next s₀.entries).map Prod.fst := by
  have hsome : ∀ e ∈ (numbered s₀.next s₀.entries).dropLast, acked e = some (e.1 + 1) := by
    intro e he
    refine if_neg ?_
    rw [hops e.2 ?_]
    · decide
    · rw [← numbered_ops s₀.next s₀.entries, ← List.map_dropLast]
      exact List.mem_map_of_mem he
  obtain ⟨op, ops, hentries⟩ := List.exists_cons_of_ne_nil hne
  have hfirst : ackedFirst s₀ (numbered s₀.next s₀.entries) = [1] := by
    refine if_pos ⟨h, ?_⟩
    rw [hentries]
    exact List.cons_ne_nil _ _
  rw [hfirst, List.filterMap_congr hsome, List.filterMap_eq_map', numbered_next, hentries, h]
  rfl

omit [AddrHash] [DecidableEq α] in
/-- A whole log with as many acks as entries. -/
theorem acked_all_inv
    (h : (ackedFirst s₀ (numbered s₀.next s₀.entries) ++
      (numbered s₀.next s₀.entries).dropLast.filterMap acked).length = s₀.entries.length)
    (hne : s₀.entries ≠ []) :
    s₀.next = 1 ∧ ∀ op ∈ s₀.entries.dropLast, installs op = false := by
  have hpos := List.length_pos_iff.mpr hne
  have hrest := List.length_filterMap_le acked (numbered s₀.next s₀.entries).dropLast
  rw [List.length_dropLast, numbered_length] at hrest
  rw [List.length_append] at h
  unfold ackedFirst at h
  by_cases hfirst : s₀.next = 1 ∧ numbered s₀.next s₀.entries ≠ []
  · rw [if_pos hfirst, List.length_singleton] at h
    refine ⟨hfirst.1, fun op hop => ?_⟩
    have hall : ((numbered s₀.next s₀.entries).dropLast.filterMap acked).length =
        (numbered s₀.next s₀.entries).dropLast.length := by
      rw [List.length_dropLast, numbered_length]
      omega
    rw [← numbered_ops s₀.next s₀.entries, ← List.map_dropLast] at hop
    obtain ⟨e, he, rfl⟩ := List.mem_map.mp hop
    have hsome := List.filterMap_length_eq_length.mp hall e he
    unfold acked at hsome
    cases hinstalls : installs e.2 with
    | false => rfl
    | true =>
      rw [hinstalls, if_pos rfl] at hsome
      cases hsome
  · rw [if_neg hfirst, List.length_nil] at h
    omega

/-- **Every entry is acked once**, when the database has answered all, exactly if the log
    starts at entry 1 and only its last entry may replace the database. -/
theorem acks_each (h₀ : s₀.Fresh) (hr : Lib.run State.step s₀ ls = some s)
    (hentries : s.entries = []) (hrunning : s.running = []) :
    s₀.AcksEach s ↔ s₀.next = 1 ∧ ∀ op ∈ s₀.entries.dropLast, installs op = false := by
  obtain ⟨logged, hinv⟩ := inv_run h₀ hr
  have hlogged := hinv.entries
  rw [hentries, numbered, List.append_nil] at hlogged
  have hperm := hinv.acks
  rw [hrunning, List.filterMap_nil, List.append_nil, ← hlogged] at hperm
  constructor
  · intro h
    refine acked_all_inv ?_ h₀.entries
    rw [← hperm.length_eq, h.length_eq, List.length_map, numbered_length]
  · rintro ⟨hfirst, hops⟩
    rw [acked_all hfirst hops h₀.entries] at hperm
    exact hperm

end Run

/-! ## Three charges -/

section Example

local instance acksHash : AddrHash := localHash

/-- A replica on its own, with three charges to come under `first` and the ids after it. -/
def threeCharges (first : OpId) : State Nat where
  replica := .start (localAddr 5001) (localAddr 5000)
  next := first
  entries := [.charge 7 1 10 false, .charge 7 2 20 false, .charge 7 3 30 false]
  running := []
  sent := []

theorem threeCharges_fresh {first : OpId} (h : first ≠ 0) (hids : first.toNat + 3 ≤ UInt32.size) :
    (threeCharges first).Fresh where
  stored := rfl
  first := h
  ids := hids
  entries := List.cons_ne_nil _ _
  running := rfl
  sent := rfl

/-- The deliveries, and the answers in the other order. -/
def threeAnswers (first : OpId) : List (Label Nat) :=
  [.log, .log, .log, .result (first + 1) (.charge 7 2 20 false) (.charge .ok),
    .result first (.charge 7 1 10 false) (.charge .ok)]

theorem acks_each_example : ∃ s, Lib.run State.step (threeCharges 1) (threeAnswers 1) = some s ∧
    (threeCharges 1).AcksEach s := by
  have hrun : (Lib.run State.step (threeCharges 1) (threeAnswers 1)).any
      (fun s => decide (s.entries = [] ∧ s.running = [])) = true := by decide +kernel
  obtain ⟨s, hs, hp⟩ := (Option.any_eq_true _ _).mp hrun
  obtain ⟨hentries, hrunning⟩ := of_decide_eq_true hp
  exact ⟨s, hs, (acks_each (threeCharges_fresh (by decide) (by decide)) hs hentries
    hrunning).mpr ⟨rfl, by decide⟩⟩

/-- **An entry can go without an ack**: the first of a replica that enters the log at
    entry 2. -/
theorem not_acks_each :
    ¬ ∀ (s₀ s : State Nat) (ls : List (Label Nat)), s₀.Fresh →
      Lib.run State.step s₀ ls = some s → s.entries = [] → s.running = [] → s₀.AcksEach s := by
  intro hall
  have hrun : (Lib.run State.step (threeCharges 2) (threeAnswers 2)).any
      (fun s => decide (s.entries = [] ∧ s.running = [] ∧ s.acks.length = 2)) = true := by
    decide +kernel
  obtain ⟨s, hs, hp⟩ := (Option.any_eq_true _ _).mp hrun
  obtain ⟨hentries, hrunning, hacks⟩ := of_decide_eq_true hp
  have hperm := hall _ s _ (threeCharges_fresh (by decide) (by decide)) hs hentries hrunning
  have hlen := hperm.length_eq
  rw [hacks] at hlen
  exact absurd hlen (by decide)

end Example

end YpfRuta.Cluster.Acks
