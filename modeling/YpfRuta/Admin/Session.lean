/-
  What a session of the administrator does over any run of lines and messages: it only
  asks for operations on its own account, each under an id of its own, and what it prints
  for a request is a result that came under the id of this request.

  The ids are 1, 2, 3, …, so they stay apart as long as fewer than 2 ^ 32 lines are typed.
-/
import YpfRuta.Lib.Transition
import YpfRuta.Admin.Administrator
import YpfRuta.Station.Commands

namespace YpfRuta.Admin

open Lib
open Station (FromStr isWhitespace splitWhitespace splitWhitespace_words)

/-- An operation of an administrator of `accountId`: a limit is positive, and the period of
    a bill is one word. -/
def Own {α : Type} [Zero α] [LT α] (accountId : AccountId) : Operation α → Prop
  | .limitAccount a newLimit => a = accountId ∧ ∀ limit ∈ newLimit, 0 < limit
  | .limitCard a _ newLimit => a = accountId ∧ ∀ limit ∈ newLimit, 0 < limit
  | .accountQuery a => a = accountId
  | .bill a period => a = accountId ∧ ∀ text ∈ period, IsWord isWhitespace text.toList
  | _ => False

variable {α : Type}

/-! ## Commands -/

theorem isWord_of_mem_splitWhitespace {text w : String} (h : w ∈ splitWhitespace text) :
    IsWord isWhitespace w.toList := by
  rw [splitWhitespace_words] at h
  obtain ⟨v, hv, rfl⟩ := List.mem_map.mp h
  rw [String.toList_ofList]
  exact isWord_of_mem hv

theorem bind_ok {β γ : Type} {x : Except String β} {f : β → Except String γ} {c : γ} :
    x >>= f = .ok c ↔ ∃ b, x = .ok b ∧ f b = .ok c := by
  cases x with
  | error e => simp [bind, Except.bind]
  | ok b => simp [bind, Except.bind]

/-- **What a line can ask for.** -/
theorem parse_cases [FromStr α] {line : String} {accountId : AccountId} {cmd : AdminCommand α}
    (h : parseLineToCommand line accountId = .ok cmd) :
    (∃ amount, cmd = .limitAccount accountId amount) ∨
    (∃ cardId amount, cmd = .limitCard accountId cardId amount) ∨
    cmd = .accountQuery accountId ∨ cmd = .bill accountId none ∨
    ∃ period ∈ splitWhitespace line, cmd = .bill accountId (some period) := by
  unfold parseLineToCommand at h
  split at h
  · cases h
  · split at h
    · obtain ⟨amount, -, h⟩ := bind_ok.mp h
      exact .inl ⟨amount, (Except.ok.inj h).symm⟩
    · cases h
  · split at h
    · obtain ⟨cardId, -, h⟩ := bind_ok.mp h
      obtain ⟨amount, -, h⟩ := bind_ok.mp h
      exact .inr (.inl ⟨cardId, amount, (Except.ok.inj h).symm⟩)
    · cases h
  · split at h
    · exact .inr (.inr (.inl (Except.ok.inj h).symm))
    · cases h
  · rename_i args hwords
    split at h
    · exact .inr (.inr (.inr (.inl (Except.ok.inj h).symm)))
    · rename_i period
      exact .inr (.inr (.inr (.inr ⟨period, by rw [hwords]; simp, (Except.ok.inj h).symm⟩)))
    · cases h
  · cases h

theorem limitOf_pos [Zero α] [LT α] [DecidableLT α] {amount limit : α}
    (h : limit ∈ Administrator.limitOf amount) : 0 < limit := by
  unfold Administrator.limitOf at h
  split at h
  · rename_i hpos
    obtain rfl := Option.some.inj h
    exact hpos
  · cases h

/-- **A line never fails the assertion**, and the operation is one on the account. -/
theorem build_own [FromStr α] [Zero α] [LT α] [DecidableLT α] {admin : Administrator}
    {line : String} {cmd : AdminCommand α}
    (h : parseLineToCommand line admin.accountId = .ok cmd) :
    ∃ op, admin.buildOperation cmd = some op ∧ Own admin.accountId op := by
  rcases parse_cases h with ⟨amount, rfl⟩ | ⟨cardId, amount, rfl⟩ | rfl | rfl | ⟨period, hp, rfl⟩
  · exact ⟨_, if_pos rfl, rfl, fun limit => limitOf_pos⟩
  · exact ⟨_, if_pos rfl, rfl, fun limit => limitOf_pos⟩
  · exact ⟨_, rfl, rfl⟩
  · exact ⟨_, rfl, rfl, fun text ht => by cases ht⟩
  · refine ⟨_, rfl, rfl, fun text ht => ?_⟩
    obtain rfl := Option.some.inj ht
    exact isWord_of_mem_splitWhitespace hp

/-! ## Steps -/

/-- A request on its way to a node. -/
def request? : SocketAddr × Message α → Option (ReqId × Operation α)
  | (_, .request reqId op _) => some (reqId, op)
  | _ => none

def Event.isLine : Event α → Bool
  | .line .. => true
  | _ => false

/-- The result is one the administrator cannot print. -/
def Unprintable : OperationResult α → Prop
  | .databaseSnapshot _ => True
  | .replaceDatabase => True
  | _ => False

theorem handleOpResult_eq_none [FixedFmt α] {res : OperationResult α} :
    handleOpResult res = none ↔ Unprintable res := by
  cases res with
  | charge r => cases r <;> simp [handleOpResult, Unprintable]
  | _ => simp [handleOpResult, Unprintable]

namespace Session

/-- The requests of a session, in order. -/
def requests (s : Session α) : List (ReqId × Operation α) := s.sent.filterMap request?

/-- The request sent under the next id. -/
def ask (s : Session α) (op : Operation α) : Session α :=
  { s with
    admin := { s.admin with nextReqId := s.admin.nextReqId + 1 }
    phase := .waiting s.admin.nextReqId
    sent := s.sent ++
      [(s.admin.targetNode, .request s.admin.nextReqId op s.admin.bindAddr)] }

/-- The id of a request that was not sent is spent. -/
def skip (s : Session α) : Session α :=
  { s with admin := { s.admin with nextReqId := s.admin.nextReqId + 1 } }

def answer [FixedFmt α] (s : Session α) (reqId : ReqId) (res : OperationResult α)
    (lines : List String) : Session α :=
  { s with
    phase := .prompt
    received := s.received ++ [.response reqId res]
    shown := s.shown ++ [(reqId, res)]
    stdout := s.stdout ++ lines }

/-- **What a step can do.** -/
inductive Step [FixedFmt α] [Zero α] [LT α] (s : Session α) : Event α → Session α → Prop where
  | idle (text : String) (sent : Bool) (h : s.phase = .prompt) : Step s (.line text sent) s
  | exits {event : Event α} (h : s.phase = .prompt) : Step s event { s with phase := .exited }
  | asks {text : String} {op : Operation α} (h : s.phase = .prompt)
      (hown : Own s.admin.accountId op) : Step s (.line text true) (s.ask op)
  | skips {text : String} (h : s.phase = .prompt) : Step s (.line text false) s.skip
  | answers {reqId : ReqId} {res : OperationResult α} {lines : List String}
      (h : s.phase = .waiting reqId) (hlines : handleOpResult res = some lines) :
      Step s (.received (.ok (.response reqId res))) (s.answer reqId res lines)
  | panics {reqId : ReqId} {res : OperationResult α} (h : s.phase = .waiting reqId)
      (hres : Unprintable res) :
      Step s (.received (.ok (.response reqId res)))
        { s with phase := .panicked, received := s.received ++ [.response reqId res] }
  | ignores {reqId : ReqId} {msg : Message α} (h : s.phase = .waiting reqId)
      (hother : ∀ res, msg ≠ .response reqId res) :
      Step s (.received (.ok msg)) { s with received := s.received ++ [msg] }
  | fails {reqId : ReqId} {e : AppError} (h : s.phase = .waiting reqId) :
      Step s (.received (.error e)) { s with phase := .prompt }

section Cases

variable [FixedFmt α] [Zero α] [LT α] {s s' : Session α} {event : Event α}

theorem handleReceived_cases {reqId : ReqId} (h : s.phase = .waiting reqId) (msg : Message α) :
    Step s (.received (.ok msg))
      ({ s with received := s.received ++ [msg] }.handleReceived reqId msg) := by
  cases msg with
  | response r res =>
    simp only [handleReceived]
    by_cases hr : r = reqId
    · subst hr
      rw [if_pos rfl]
      cases hres : handleOpResult res with
      | some lines => exact .answers h hres
      | none => exact .panics h (handleOpResult_eq_none.mp hres)
    · rw [if_neg hr]
      exact .ignores h fun res' he => hr (Message.response.inj he).1
  | _ => exact .ignores h fun res he => by cases he

variable [FromStr α] [DecidableLT α]

theorem handleLine_cases (h : s.phase = .prompt) (text : String) (sent : Bool) :
    Step s (.line text sent) (s.handleLine text sent) := by
  unfold handleLine
  dsimp only
  split
  · exact .idle text sent h
  · split
    · exact .exits h
    · split
      · exact .idle text sent h
      · cases hparse : parseLineToCommand (Station.trim text) s.admin.accountId (α := α) with
        | error e => exact .idle text sent h
        | ok cmd =>
          obtain ⟨op, hop, hown⟩ := build_own hparse
          simp only [handleCommand, hop]
          cases sent with
          | true => exact .asks h hown
          | false => exact .skips h

theorem step_cases (h : s.step event = some s') : Step s event s' := by
  unfold step at h
  split at h
  · rename_i hphase
    obtain rfl := Option.some.inj h
    exact handleLine_cases hphase _ _
  · rename_i hphase
    obtain rfl := Option.some.inj h
    exact .exits hphase
  · rename_i hphase
    obtain rfl := Option.some.inj h
    exact handleReceived_cases hphase _
  · rename_i hphase
    obtain rfl := Option.some.inj h
    exact .fails hphase
  · cases h

end Cases

/-! ## Whole sessions -/

theorem requests_ask (s : Session α) (op : Operation α) :
    (s.ask op).requests = s.requests ++ [(s.admin.nextReqId, op)] := by
  simp [requests, ask, request?]

section Sound

variable [Zero α] [LT α] {s s' : Session α} {event : Event α}

/-- **Who the requests are from and what they are for.** -/
structure Sound (admin : Administrator) (s : Session α) : Prop where
  bindAddr : s.admin.bindAddr = admin.bindAddr
  targetNode : s.admin.targetNode = admin.targetNode
  accountId : s.admin.accountId = admin.accountId
  sent : ∀ x ∈ s.sent, ∃ reqId op,
    x = (admin.targetNode, .request reqId op admin.bindAddr) ∧ Own admin.accountId op
  waiting : ∀ r, s.phase = .waiting r → r ∈ s.requests.map Prod.fst
  panicked : s.phase = .panicked → ∃ q ∈ s.requests, ∃ res,
    .response q.1 res ∈ s.received ∧ Unprintable res

theorem Sound.start (admin : Administrator) : Sound admin (.start admin : Session α) where
  bindAddr := rfl
  targetNode := rfl
  accountId := rfl
  sent := by simp [Session.start]
  waiting r h := by cases h
  panicked h := by cases h

theorem Sound.step [FixedFmt α] {admin : Administrator} (hi : Sound admin s) (h : Step s event s') :
    Sound admin s' := by
  cases h with
  | idle text sent h => exact hi
  | exits h =>
    exact { hi with
      waiting := by
        intro r hr
        cases hr
      panicked := by
        intro hp
        cases hp }
  | @asks text op h hown =>
    refine { hi with sent := ?_, waiting := ?_, panicked := ?_ }
    · intro x hx
      rcases List.mem_append.mp hx with hx | hx
      · exact hi.sent x hx
      · obtain rfl := List.mem_singleton.mp hx
        exact ⟨_, op, by rw [hi.targetNode, hi.bindAddr], hi.accountId ▸ hown⟩
    · intro r hr
      obtain rfl := Phase.waiting.inj hr
      rw [requests_ask]
      simp
    · intro hp
      cases hp
  | skips h => exact { hi with }
  | answers h hlines =>
    exact { hi with
      waiting := by
        intro r hr
        cases hr
      panicked := by
        intro hp
        cases hp }
  | @panics reqId res h hres =>
    refine { hi with waiting := ?_, panicked := fun _ => ?_ }
    · intro r hr
      cases hr
    · obtain ⟨q, hq, rfl⟩ := List.mem_map.mp (hi.waiting reqId h)
      exact ⟨q, hq, res, by simp, hres⟩
  | ignores h hother =>
    refine { hi with panicked := fun hp => ?_ }
    rw [show s.phase = .panicked from hp] at h
    cases h
  | fails h =>
    exact { hi with
      waiting := by
        intro r hr
        cases hr
      panicked := by
        intro hp
        cases hp }

end Sound

section Ordered

variable [FixedFmt α] {s s' : Session α} {event : Event α}

/-- What is printed are results that came under the ids they were waited for. -/
structure Printed (s : Session α) : Prop where
  arrived : ∀ p ∈ s.shown, .response p.1 p.2 ∈ s.received
  stdout : s.stdout = s.shown.flatMap fun p => (handleOpResult p.2).getD []

theorem Printed.start (admin : Administrator) : (.start admin : Session α).Printed where
  arrived p hp := by cases hp
  stdout := rfl

/-- **Ids.** So far `issued` ids have been given out: the requests have them in order, and each
    result shown is of a request before the one waited for. -/
structure Ordered (issued : Nat) (s : Session α) : Prop where
  next : s.admin.nextReqId = UInt32.ofNat (issued + 1)
  ids : (s.requests.map fun q => q.1.toNat).Pairwise (· < ·)
  below : ∀ q ∈ s.requests, q.1.toNat ≤ issued
  shown : ∃ done, done <+: s.requests.map Prod.fst ∧ (s.shown.map Prod.fst).Sublist done ∧
    ∀ r, s.phase = .waiting r → s.requests.map Prod.fst = done ++ [r]

omit [FixedFmt α] in
theorem Ordered.start (bindAddr targetNode : SocketAddr) (accountId : AccountId) :
    Ordered 0 (.start (.new bindAddr targetNode accountId) : Session α) where
  next := rfl
  ids := List.Pairwise.nil
  below := by simp [Session.start, requests]
  shown := ⟨[], List.nil_prefix, List.nil_sublist _, fun r h => by cases h⟩

omit [FixedFmt α] in
/-- Outside a wait, everything shown so far is of the requests so far. -/
theorem Ordered.settle {issued : Nat} (hi : Ordered issued s) :
    (s.shown.map Prod.fst).Sublist (s.requests.map Prod.fst) := by
  obtain ⟨done, hdone, hshown, -⟩ := hi.shown
  exact hshown.trans hdone.sublist

variable [Zero α] [LT α]

theorem Step.sent (h : Step s event s') {p : SocketAddr × Message α} (hp : p ∈ s.sent) :
    p ∈ s'.sent := by
  cases h with
  | asks h hown => exact List.mem_append_left _ hp
  | _ => exact hp

/-- A message a session has received it has received before, or receives now. -/
theorem Step.heard (h : Step s event s') {msg : Message α} (hmsg : msg ∈ s'.received) :
    msg ∈ s.received ∨ event = .received (.ok msg) := by
  have hnew : ∀ {m : Message α}, msg ∈ s.received ++ [m] →
      msg ∈ s.received ∨ Event.received (.ok m) = .received (.ok msg) := by
    intro m hm
    rcases List.mem_append.mp hm with hm | hm
    · exact .inl hm
    · rw [List.mem_singleton.mp hm]
      exact .inr rfl
  cases h with
  | answers h hlines => exact hnew hmsg
  | panics h hres => exact hnew hmsg
  | ignores h hother => exact hnew hmsg
  | _ => exact .inl hmsg

theorem Printed.step (hi : s.Printed) (h : Step s event s') : s'.Printed := by
  cases h with
  | @answers reqId res lines h hlines =>
    constructor
    · intro p hp
      rcases List.mem_append.mp hp with hp | hp
      · exact List.mem_append_left _ (hi.arrived p hp)
      · obtain rfl := List.mem_singleton.mp hp
        exact List.mem_append_right _ List.mem_cons_self
    · show s.stdout ++ lines = (s.shown ++ [(reqId, res)]).flatMap _
      rw [List.flatMap_append, ← hi.stdout]
      simp [hlines]
  | panics h hres => exact ⟨fun p hp => List.mem_append_left _ (hi.arrived p hp), hi.stdout⟩
  | ignores h hother => exact ⟨fun p hp => List.mem_append_left _ (hi.arrived p hp), hi.stdout⟩
  | _ => exact ⟨hi.arrived, hi.stdout⟩

theorem Ordered.step {issued : Nat} (hi : Ordered issued s) (hfew : issued + 1 < 2 ^ 32)
    (h : Step s event s') :
    ∃ issued', issued' ≤ issued + (if event.isLine then 1 else 0) ∧ Ordered issued' s' := by
  have hprompt : ∀ {t : Session α}, t.admin = s.admin → t.sent = s.sent → t.shown = s.shown →
      (∀ r, t.phase ≠ .waiting r) → Ordered issued t := by
    intro t hadmin hsent hshown hphase
    have hreq : t.requests = s.requests := by
      unfold requests
      rw [hsent]
    refine ⟨hadmin ▸ hi.next, hreq ▸ hi.ids, hreq ▸ hi.below, _, List.prefix_refl _, ?_,
      fun r hr => absurd hr (hphase r)⟩
    rw [hshown, hreq]
    exact hi.settle
  cases h with
  | idle text sent h => exact ⟨issued, Nat.le_add_right _ _, hi⟩
  | exits h =>
    exact ⟨issued, Nat.le_add_right _ _, hprompt rfl rfl rfl fun r hr => by cases hr⟩
  | @asks text op h hown =>
    have hnext : s.admin.nextReqId.toNat = issued + 1 := by
      rw [hi.next, UInt32.toNat_ofNat_of_lt' hfew]
    refine ⟨issued + 1, Nat.le_refl _, ?_, ?_, ?_, ?_⟩
    · show s.admin.nextReqId + 1 = _
      rw [hi.next]
      exact (UInt32.ofNat_add _ _).symm
    · rw [requests_ask, List.map_append, List.pairwise_append]
      refine ⟨hi.ids, List.pairwise_singleton _ _, ?_⟩
      intro m hm m' hm'
      obtain ⟨q, hq, rfl⟩ := List.mem_map.mp hm
      obtain rfl : m' = s.admin.nextReqId.toNat := by simpa using hm'
      have hle := hi.below q hq
      omega
    · intro q hq
      rw [requests_ask] at hq
      rcases List.mem_append.mp hq with hq | hq
      · have hle := hi.below q hq
        omega
      · obtain rfl := List.mem_singleton.mp hq
        exact Nat.le_of_eq hnext
    · rw [requests_ask, List.map_append]
      refine ⟨s.requests.map Prod.fst, List.prefix_append _ _, hi.settle, ?_⟩
      intro r hr
      obtain rfl := Phase.waiting.inj hr
      rfl
  | skips h =>
    refine ⟨issued + 1, Nat.le_refl _, ?_, hi.ids, ?_, hi.shown⟩
    · show s.admin.nextReqId + 1 = _
      rw [hi.next]
      exact (UInt32.ofNat_add _ _).symm
    · intro q hq
      have hle := hi.below q hq
      omega
  | @answers reqId res lines h hlines =>
    obtain ⟨done, -, hshown, hlast⟩ := hi.shown
    refine ⟨issued, Nat.le_add_right _ _, hi.next, hi.ids, hi.below, s.requests.map Prod.fst,
      List.prefix_refl _, ?_, fun r hr => by cases hr⟩
    show ((s.shown ++ [(reqId, res)]).map Prod.fst).Sublist (s.requests.map Prod.fst)
    rw [List.map_append, hlast reqId h]
    exact hshown.append (List.Sublist.refl _)
  | panics h hres =>
    exact ⟨issued, Nat.le_add_right _ _, hprompt rfl rfl rfl fun r hr => by cases hr⟩
  | ignores h hother =>
    exact ⟨issued, Nat.le_add_right _ _, hi.next, hi.ids, hi.below, hi.shown⟩
  | fails h =>
    exact ⟨issued, Nat.le_add_right _ _, hprompt rfl rfl rfl fun r hr => by cases hr⟩

theorem Ordered.run [FromStr α] [DecidableLT α] {issued : Nat} {events : List (Event α)}
    (hi : Ordered issued s) (hr : Lib.run Session.step s events = some s')
    (hfew : issued + events.countP Event.isLine < 2 ^ 32 - 1) :
    ∃ issued', Ordered issued' s' := by
  induction events generalizing issued s with
  | nil =>
    obtain rfl : s = s' := by simpa [Lib.run] using hr
    exact ⟨issued, hi⟩
  | cons event events ih =>
    obtain ⟨t, ht, hr⟩ := run_cons.mp hr
    rw [List.countP_cons] at hfew
    obtain ⟨issued', hle, hi'⟩ := hi.step (by omega) (step_cases ht)
    exact ih hi' hr (by omega)

end Ordered

end Session

variable [FromStr α] [FixedFmt α] [Zero α] [LT α] [DecidableLT α]

/-- **The administrator only speaks for its account.** In every session each request goes
    to the target node, names the administrator's own address, and is a limit change, a
    query or a bill of its own account; the assertion on the account never fails, so the
    session panics only on a result it cannot print, under the id of one of its requests. -/
theorem requests_own {admin : Administrator} {events : List (Event α)} {s : Session α}
    (hr : Lib.run Session.step (.start admin) events = some s) :
    (∀ x ∈ s.sent, ∃ reqId op,
      x = (admin.targetNode, .request reqId op admin.bindAddr) ∧ Own admin.accountId op) ∧
    (s.phase = .panicked → ∃ q ∈ s.requests, ∃ res,
      .response q.1 res ∈ s.received ∧ Unprintable res) := by
  have hi : Session.Sound admin s :=
    run_induct (P := Session.Sound admin)
      (fun _ _ _ hi h => hi.step (Session.step_cases h)) hr (.start admin)
  exact ⟨hi.sent, hi.panicked⟩

local instance sessionFromStr : FromStr Amount := Station.amountFromStr

local instance sessionFixedFmt : FixedFmt Amount := amountFixedFmt

/-- A limit change, answered by a database. -/
theorem requests_own_example :
    ∃ s : Session Amount,
      Lib.run Session.step (.start (.new (.v4 2130706433 9000) (.v4 2130706433 5000) 100))
        [.line " limit-card 55 500.0" true, .received (.ok (.response 1 .replaceDatabase))] =
          some s ∧
      (∀ x ∈ s.sent, ∃ reqId op, x = (.v4 2130706433 5000,
        .request reqId op (.v4 2130706433 9000)) ∧ Own 100 op) ∧
      (s.phase = .panicked → ∃ q ∈ s.requests, ∃ res,
        .response q.1 res ∈ s.received ∧ Unprintable res) := by
  have hrun : ((Lib.run Session.step
      (.start (.new (.v4 2130706433 9000) (.v4 2130706433 5000) 100))
      [.line " limit-card 55 500.0" true, .received (.ok (.response 1 .replaceDatabase))]) :
        Option (Session Amount)).isSome = true := by
    decide +kernel
  obtain ⟨s, hs⟩ := Option.isSome_iff_exists.mp hrun
  exact ⟨s, hs, requests_own hs⟩

/-- **Each request is answered by its own response, once.** In every session of fewer than
    2 ^ 32 - 1 lines the requests have different ids, what is printed are results that came
    under the ids of requests, one at most for each and in the order of the requests, and
    while a request is waited for nothing has been printed for it. A response that comes
    after its command has ended is never taken for that of a later one. -/
theorem answers_own {bindAddr targetNode : SocketAddr} {accountId : AccountId}
    {events : List (Event α)} {s : Session α}
    (hr : Lib.run Session.step (.start (.new bindAddr targetNode accountId)) events = some s)
    (hfew : events.countP Event.isLine < 2 ^ 32 - 1) :
    (s.requests.map Prod.fst).Nodup ∧
    (s.shown.map Prod.fst).Sublist (s.requests.map Prod.fst) ∧
    (∀ p ∈ s.shown, .response p.1 p.2 ∈ s.received) ∧
    s.stdout = s.shown.flatMap (fun p => (handleOpResult p.2).getD []) ∧
    ∀ r, s.phase = .waiting r → (s.requests.map Prod.fst).getLast? = some r ∧
      r ∉ s.shown.map Prod.fst := by
  obtain ⟨issued, hi⟩ := (Session.Ordered.start bindAddr targetNode accountId).run hr (by omega)
  have hnodup : (s.requests.map Prod.fst).Nodup := by
    refine List.Nodup.of_map UInt32.toNat ?_
    rw [List.map_map]
    exact hi.ids.imp Nat.ne_of_lt
  have hprinted : s.Printed :=
    run_induct (P := Session.Printed) (fun _ _ _ hi h => hi.step (Session.step_cases h)) hr
      (.start _)
  refine ⟨hnodup, hi.settle, hprinted.arrived, hprinted.stdout, fun r hphase => ?_⟩
  obtain ⟨done, -, hshown, hlast⟩ := hi.shown
  rw [hlast r hphase] at hnodup ⊢
  refine ⟨by simp, fun hmem => ?_⟩
  rw [List.nodup_append] at hnodup
  exact hnodup.2.2 r (hshown.subset hmem) r List.mem_cons_self rfl

/-- The wait for the first response fails, and that response comes while the session waits
    for the second one. -/
def lateResponse : List (Event Amount) :=
  [.line "limit-card 55 500.0" true, .received (.error .connectionLost),
    .line "limit-account 900" true, .received (.ok (.response 1 (.limitCard .ok))),
    .received (.ok (.response 2 (.limitAccount .ok)))]

theorem answers_own_example :
    ∃ s : Session Amount,
      Lib.run Session.step (.start (.new (.v4 2130706433 9000) (.v4 2130706433 5000) 100))
        lateResponse = some s ∧
      s.requests = [(1, .limitCard 100 55 (some 500)), (2, .limitAccount 100 (some 900))] ∧
      s.shown = [(2, .limitAccount .ok)] ∧ s.stdout = ["LIMIT_ACCOUNT: OK"] ∧
      (s.requests.map Prod.fst).Nodup ∧
      (s.shown.map Prod.fst).Sublist (s.requests.map Prod.fst) := by
  have hrun : (Lib.run Session.step
      (.start (.new (.v4 2130706433 9000) (.v4 2130706433 5000) 100) : Session Amount)
      lateResponse).any
      (fun s => s.requests =
          [(1, .limitCard 100 55 (some 500)), (2, .limitAccount 100 (some 900))] ∧
        s.shown = [(2, .limitAccount .ok)] ∧ s.stdout = ["LIMIT_ACCOUNT: OK"]) = true := by
    decide +kernel
  obtain ⟨s, hs, hp⟩ := (Option.any_eq_true _ _).mp hrun
  obtain ⟨hrequests, hshown, hout⟩ := of_decide_eq_true hp
  have h := answers_own hs (by decide)
  exact ⟨s, hs, hrequests, hshown, hout, h.1, h.2.1⟩

end YpfRuta.Admin
