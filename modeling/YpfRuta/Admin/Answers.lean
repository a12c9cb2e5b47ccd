/-
  The administrator and the database: what a database answers to an operation of an
  administrator can be printed, and what is printed only depends on the ledger. In which
  order the cards of the account were asked, and are kept, does not show.
-/
import YpfRuta.Actors.Gathering
import YpfRuta.Actors.Results
import YpfRuta.Actors.Serial
import YpfRuta.Admin.Session

namespace YpfRuta.Admin

open Lib Actors

/-! ## The order of the cards -/

section Cards

variable {α : Type} {xs ys : List (CardId × α)}

theorem eq_of_fst_eq (hn : (xs.map Prod.fst).Nodup) {p q : CardId × α} (hp : p ∈ xs)
    (hq : q ∈ xs) (h : p.1 = q.1) : p = q :=
  List.inj_on_of_nodup_map hn hp hq h

/-- Sorted by card id, a list of different cards has lost its order. -/
theorem sorted_perm (h : xs.Perm ys) (hn : (xs.map Prod.fst).Nodup) :
    (xs.mergeSort fun p q => p.1 ≤ q.1) = ys.mergeSort fun p q => p.1 ≤ q.1 := by
  have hsorted : ∀ zs : List (CardId × α),
      (zs.mergeSort fun p q => p.1 ≤ q.1).Pairwise fun p q => p.1 ≤ q.1 := by
    intro zs
    have htrans : ∀ p q r : CardId × α, decide (p.1 ≤ q.1) = true → decide (q.1 ≤ r.1) = true →
        decide (p.1 ≤ r.1) = true := fun p q r hpq hqr =>
      decide_eq_true (UInt64.le_trans (of_decide_eq_true hpq) (of_decide_eq_true hqr))
    have htotal : ∀ p q : CardId × α, (decide (p.1 ≤ q.1) || decide (q.1 ≤ p.1)) = true :=
      fun p q => by simpa using UInt64.le_total p.1 q.1
    exact (List.pairwise_mergeSort htrans htotal zs).imp of_decide_eq_true
  have hxs := List.mergeSort_perm xs fun p q => decide (p.1 ≤ q.1)
  have hys := List.mergeSort_perm ys fun p q => decide (p.1 ≤ q.1)
  refine List.Perm.eq_of_pairwise (fun p q hp hq hpq hqp => ?_) (hsorted xs) (hsorted ys)
    (hxs.trans (h.trans hys.symm))
  exact eq_of_fst_eq hn (hxs.mem_iff.mp hp) (h.mem_iff.mpr (hys.mem_iff.mp hq))
    (UInt64.le_antisymm hpq hqp)

theorem describeCards_perm [FixedFmt α] (h : xs.Perm ys) (hn : (xs.map Prod.fst).Nodup) :
    describeCards xs = describeCards ys := by
  unfold describeCards
  rw [sorted_perm h hn]

end Cards

/-! ## Results of an administrator's operations -/

section Panics

variable {Amount : Type} [Currency Amount]

section Own

variable {a : AccountId} {o : Operation Amount} {res : OperationResult Amount}

theorem not_unprintable (ho : Own a o) (hres : ResultOf o res) : ¬ Unprintable res := by
  intro hun
  cases res with
  | databaseSnapshot snapshot => cases o <;> first | exact ho | exact hres
  | replaceDatabase => cases o <;> first | exact ho | exact hres
  | _ => exact hun

theorem Own.account (ho : Own a o) : (accountOf? o).isSome := by
  cases o with
  | getDatabase addr => exact ho.elim
  | replaceDatabase snapshot => exact ho.elim
  | _ => rfl

/-- An operation of an administrator is a limit change, a query or a bill. -/
theorem Own.cases (ho : Own a o) :
    (∃ limit, o = .limitAccount a limit) ∨ (∃ cd limit, o = .limitCard a cd limit) ∨
    ∃ billing, Queries a billing o := by
  cases o with
  | limitAccount b limit =>
    obtain ⟨rfl, -⟩ := ho
    exact .inl ⟨limit, rfl⟩
  | limitCard b cd limit =>
    obtain ⟨rfl, -⟩ := ho
    exact .inr (.inl ⟨cd, limit, rfl⟩)
  | accountQuery b =>
    obtain rfl : b = a := ho
    exact .inr (.inr ⟨false, rfl⟩)
  | bill b period =>
    obtain ⟨rfl, -⟩ := ho
    exact .inr (.inr ⟨true, period, rfl⟩)
  | _ => exact ho.elim

end Own

/-- **The administrator never panics**: not as long as what it receives for a request is
    a result some database sent for the operation it had asked for. -/
theorem never_panics [Station.FromStr Amount] [FixedFmt Amount] {admin : Administrator}
    {events : List (Event Amount)}
    {s : Session Amount} (hr : Lib.run Session.step (.start admin) events = some s)
    (hgenuine : ∀ q ∈ s.requests, ∀ res, .response q.1 res ∈ s.received →
      ∃ db n b e, Reaches ActorDb.step ActorDb.init db ∧ (db.commands.map Prod.fst).Nodup ∧
        .operationResult n q.2 res b e ∈ db.events) :
    s.phase ≠ .panicked := by
  intro hp
  have hi : Session.Sound admin s :=
    run_induct (P := Session.Sound admin)
      (fun _ _ _ hi h => hi.step (Session.step_cases h)) hr (.start admin)
  obtain ⟨q, hq, res, hres, hun⟩ := hi.panicked hp
  obtain ⟨db, n, b, e, hdb, hid, he⟩ := hgenuine q hq res hres
  have hown : Own admin.accountId q.2 := by
    obtain ⟨x, hx, hxq⟩ := List.mem_filterMap.mp hq
    obtain ⟨reqId, op, rfl, hown⟩ := hi.sent x hx
    obtain rfl := Option.some.inj hxq
    exact hown
  exact not_unprintable hown (reaches_fits hdb hid he).2 hun

end Panics

section Example

local instance answersFromStr : Station.FromStr Amount := Station.amountFromStr

local instance answersFixedFmt : FixedFmt Amount := amountFixedFmt

/-- The limit of a card is changed, and the database says so. -/
theorem never_panics_example :
    ∃ s : Session Amount,
      Lib.run Session.step (.start (.new (.v4 2130706433 9000) (.v4 2130706433 5000) 100))
        [.line "limit-card 55 500.0" true, .received (.ok (.response 1 (.limitCard .ok)))] =
          some s ∧
      s.phase ≠ .panicked := by
  have hrun : (Lib.run Session.step
      (.start (.new (.v4 2130706433 9000) (.v4 2130706433 5000) 100) : Session Amount)
      [.line "limit-card 55 500.0" true, .received (.ok (.response 1 (.limitCard .ok)))]).any
      (fun s => s.requests = [(1, .limitCard 100 55 (some 500))] ∧
        s.received = [.response 1 (.limitCard .ok)]) = true := by
    decide +kernel
  obtain ⟨s, hs, hp⟩ := (Option.any_eq_true _ _).mp hrun
  obtain ⟨hreq, hrec⟩ := of_decide_eq_true hp
  refine ⟨s, hs, never_panics hs fun q hq res hres => ?_⟩
  rw [hreq, List.mem_singleton] at hq
  rw [hrec, List.mem_singleton] at hres
  subst hq
  obtain rfl := (Message.response.inj hres).2
  have hdb : (run ActorDb.step ActorDb.init
      [.execute 3 (.limitCard 100 55 (some 500)), .router, .card (100, 55), .router]).any
      (fun db => db.commands.map Prod.fst = [3] ∧
        .operationResult 3 (.limitCard 100 55 (some 500)) (.limitCard .ok) true none ∈
          db.events) = true := by
    decide +kernel
  obtain ⟨db, hdb, hp⟩ := (Option.any_eq_true _ _).mp hdb
  obtain ⟨hid, he⟩ := of_decide_eq_true hp
  exact ⟨db, 3, true, none, ⟨_, hdb⟩, by rw [hid]; decide, he⟩

end Example

/-! ## What is printed -/

section Printed

variable [FixedFmt Amount]

/-- From `s` on the database came to rest, with the ledger of the specification, and what
    the administrator prints of its one new result are `lines`. -/
structure Prints (s : ActorDb) (n : OpId) (o : Operation Amount) (lines : List String)
    (s' : ActorDb) : Prop where
  atRest : s'.AtRest
  ledger : s'.ledger = s.ledger.serve o
  result : ∃ res b e, s'.events = s.events ++ [.operationResult n o res b e] ∧
    handleOpResult res = some lines

section Prints

variable {a : AccountId} {o : Operation Amount} {s t : ActorDb} {L L' L'' : Ledger}

omit [FixedFmt Amount] in
theorem Serves.different {q : AccountQueryResult Amount} {e : Option VerifyError}
    (h : L.Serves o (.accountQuery q) e L') : (q.perCardSpent.map Prod.fst).Nodup := by
  cases h with
  | queried a spent h => exact h.nodup
  | billed a period spent h => exact h.nodup

/-- Results of the same operation on the same ledger look the same. -/
theorem Serves.look {res res' : OperationResult Amount} {e e' : Option VerifyError}
    (ha : (accountOf? o).isSome) (h : L.Serves o res e L') (h' : L.Serves o res' e' L'') :
    handleOpResult res = handleOpResult res' := by
  obtain ⟨rfl | ⟨a, total, spent, spent', rfl, rfl, hperm⟩, -, -⟩ := h.agree ha h'
  · rfl
  · simp only [handleOpResult]
    rw [describeCards_perm hperm (Serves.different h)]

/-- Every operation of an administrator can be served, with a result to print. -/
theorem Own.served (ho : Own a o) (s : ActorDb) :
    ∃ res e lines, s.ledger.Serves o res e (s.ledger.serve o) ∧
      handleOpResult res = some lines := by
  have hprints : ∀ res : OperationResult Amount, ¬ Unprintable res → ∃ lines, handleOpResult res = some lines :=
    fun res hun => Option.ne_none_iff_exists'.mp (mt handleOpResult_eq_none.mp hun)
  obtain ⟨limit, rfl⟩ | ⟨cd, limit, rfl⟩ | ⟨billing, hq⟩ := ho.cases
  · obtain ⟨res, hres, hserve⟩ := Ledger.serves_task s.ledger (o := .limitAccount a limit) trivial
    obtain ⟨lines, hlines⟩ := hprints res
      (not_unprintable ho (.of_task (o := .limitAccount a limit) trivial hres))
    exact ⟨res, _, lines, hserve, hlines⟩
  · obtain ⟨res, hres, hserve⟩ := Ledger.serves_task s.ledger (o := .limitCard a cd limit) trivial
    obtain ⟨lines, hlines⟩ := hprints res
      (not_unprintable ho (.of_task (o := .limitCard a cd limit) trivial hres))
    exact ⟨res, _, lines, hserve, hlines⟩
  · obtain ⟨lines, hlines⟩ := hprints _ (not_unprintable ho (.of_query hq))
    exact ⟨_, none, lines, Ledger.serves_query s.ledger hq
      (lists_spent (c := s.states) (List.Perm.refl (s.states.router.cardIds a))), hlines⟩

omit [FixedFmt Amount] in
theorem Own.ends (ho : Own a o) (hf : Formed s) (hrest : s.AtRest) (n : OpId) :
    ∃ m, Ends ActorDb.step Label.Internal (s.Serves n o) m (s.execute n o) := by
  have hserved : ∀ m c', s.states.ServedBy n o m c' →
      Ends ActorDb.step Label.Internal (s.Serves n o) m (s.execute n o) := by
    intro m c' hchain
    obtain ⟨res, err, hchain, hidle, hserve⟩ := hchain
    have hfl := ActorDb.InFlight.execute hrest.quiescent n o
    refine (hchain.ends (hf.step (l := .execute n o) rfl) rfl hfl).imp fun s' hdone => ?_
    refine ⟨⟨hdone.quiescent, by rw [hdone.states]; exact hidle⟩, res, err, ?_, hdone.events⟩
    show s.ledger.Serves o res err s'.states.ledger
    rw [hdone.states]
    exact hserve
  obtain ⟨limit, rfl⟩ | ⟨cd, limit, rfl⟩ | ⟨billing, hq⟩ := ho.cases
  · obtain ⟨m, c', h⟩ := ActorStates.limitAccount_served hf.named hrest.idle n a limit
    exact ⟨m, hserved m c' h⟩
  · obtain ⟨m, c', h⟩ := ActorStates.limitCard_served hf.named hrest.idle n a cd limit
    exact ⟨m, hserved m c' h⟩
  · exact query_ends hf hrest hq n

/-- Whatever the database does, it prints what the specification does. -/
theorem Own.settles (ho : Own a o) (hf : Formed s) (hrest : s.AtRest) {L' : Ledger}
    {res : OperationResult Amount} {e : Option VerifyError} {lines : List String}
    (hserve : s.ledger.Serves o res e L') (hlines : handleOpResult res = some lines) (n : OpId) :
    (s.execute n o).Settles (Prints s n o lines) := by
  obtain ⟨m, hends⟩ := ho.ends hf hrest n
  refine ActorDb.settles_of_ends (hf.step (l := .execute n o) rfl) (hends.imp fun s' hs' => ?_)
  obtain ⟨res', err, hserve', hev⟩ := hs'.result
  exact ⟨hs'.atRest, hserve'.serve.2, res', _, _, hev,
    (Serves.look ho.account hserve' hserve).trans hlines⟩

/-- Once its messages are handled, an operation of an administrator has left the database at
    rest. -/
theorem Own.rests (ho : Own a o) (hf : Formed s) (hrest : s.AtRest) {n : OpId}
    {ls : List Label} (hls : ∀ l ∈ ls, Label.Internal l)
    (hr : run ActorDb.step (s.execute n o) ls = some t) (hq : t.Quiescent) :
    Formed t ∧ t.AtRest ∧ t.ledger = s.ledger.serve o := by
  obtain ⟨res, e, lines, hserve, hlines⟩ := ho.served s
  obtain ⟨bound, hsettles⟩ := ho.settles hf hrest hserve hlines n
  have hprints := (hsettles ls t hls hr).2.2 hq
  refine ⟨?_, hprints.atRest, hprints.ledger⟩
  exact run_induct (P := Formed) (fun _ _ _ hf hstep => hf.step hstep) hr
    (hf.step (l := .execute n o) rfl)

end Prints

/-- **What is printed is a matter of the ledger**, with exact amounts. Two databases at rest
    with the same ledger, such as two replicas of one log, whose hash maps may list the same
    cards in different orders, take the same operation of an administrator: whatever their
    actors do then, both come to rest, and the administrator prints the same lines for both.
    An account adds up its cards in the order they reply in, so sums that are rounded, as
    those of `f32` are, may differ. -/
theorem prints_same {a : AccountId} {o : Operation Amount} (ho : Own a o) {s t : ActorDb}
    (hs : Formed s) (ht : Formed t) (hsrest : s.AtRest) (htrest : t.AtRest)
    (hledger : s.ledger = t.ledger) (n m : OpId) :
    ∃ lines, (s.execute n o).Settles (Prints s n o lines) ∧
      (t.execute m o).Settles (Prints t m o lines) := by
  obtain ⟨res, e, lines, hserve, hlines⟩ := ho.served s
  exact ⟨lines, ho.settles hs hsrest hserve hlines n,
    ho.settles ht htrest (hledger ▸ hserve) hlines m⟩

end Printed

local instance printsFixedFmt : FixedFmt Amount := amountFixedFmt

/-- Two databases whose hash maps list the cards 7 and 8 in different orders. -/
theorem prints_same_example :
    ∃ s t : ActorDb, s.router.cardIds 4 = [7, 8] ∧ t.router.cardIds 4 = [8, 7] ∧
      s.ledger = t.ledger ∧
      ∃ lines, (s.execute 3 (.accountQuery 4)).Settles (Prints s 3 (.accountQuery 4) lines) ∧
        (t.execute 3 (.accountQuery 4)).Settles (Prints t 3 (.accountQuery 4) lines) := by
  let limit (c : CardId) : Operation Amount := .limitCard 4 c (some 9)
  let turns (c : CardId) : List Label := [.router, .card (4, c), .router]
  have hown : ∀ c, Own 4 (limit c) := fun c => ⟨rfl, fun x hx => by
    obtain rfl := Option.some.inj hx
    decide⟩
  have hturns : ∀ c, ∀ l ∈ turns c, Label.Internal l := by simp [turns, Label.Internal]
  have hrest : ActorDb.init.AtRest :=
    ⟨⟨rfl, fun _ => rfl, fun _ => rfl⟩, ⟨fun _ => rfl, fun _ => rfl, fun _ => rfl⟩⟩
  have htwo : ∀ c d, ∀ cards : List CardId,
      (run ActorDb.step (ActorDb.init.execute 1 (limit c)) (turns c)).any (fun s =>
        s.Drained ∧ (run ActorDb.step (s.execute 2 (limit d)) (turns d)).any (fun t =>
          t.Drained ∧ t.router.cardIds 4 = cards) = true) = true →
      ∃ t, Formed t ∧ t.AtRest ∧ t.router.cardIds 4 = cards ∧
        t.ledger = (ActorDb.init.ledger.serve (limit c)).serve (limit d) := by
    intro c d cards h
    obtain ⟨s, hs, hp⟩ := (Option.any_eq_true _ _).mp h
    obtain ⟨hds, h⟩ := of_decide_eq_true hp
    obtain ⟨t, ht, hp⟩ := (Option.any_eq_true _ _).mp h
    obtain ⟨hdt, hcards⟩ := of_decide_eq_true hp
    have hks : Known s := known_reaches ⟨.execute 1 (limit c) :: turns c, hs⟩
    obtain ⟨hfs, hrs, hls⟩ := (hown c).rests Formed.init hrest (hturns c) hs
      (quiescent_of_known hks hds)
    have hkt : Known t := known_reaches ⟨.execute 1 (limit c) :: turns c ++
      .execute 2 (limit d) :: turns d, run_append.mpr ⟨s, hs, ht⟩⟩
    obtain ⟨hft, hrt, hlt⟩ := (hown d).rests hfs hrs (hturns d) ht (quiescent_of_known hkt hdt)
    exact ⟨t, hft, hrt, hcards, by rw [hlt, hls]⟩
  obtain ⟨s, hfs, hrs, hcs, hls⟩ := htwo 7 8 [7, 8] (by decide +kernel)
  obtain ⟨t, hft, hrt, hct, hlt⟩ := htwo 8 7 [8, 7] (by decide +kernel)
  have hledger : s.ledger = t.ledger := by
    have hserve : ∀ (L : Ledger) (c : CardId), L.cardEntry (4, c) = .fresh →
        L.serve (limit c) = (L.openAccount 4).setCard (4, c) ⟨some 9, 0⟩ := by
      intro L c hfresh
      have hbears : Entry.fresh.Bears (some 9) := by
        intro l hl
        obtain rfl := Option.some.inj hl
        decide
      rw [Ledger.serve_limitCard, Ledger.verdict, hfresh, if_pos hbears, if_pos rfl]
      rfl
    have h7 := hserve ActorDb.init.ledger 7 rfl
    have h8 := hserve ActorDb.init.ledger 8 rfl
    rw [hls, hlt, h7, h8, hserve _ 8 rfl, hserve _ 7 rfl]
    refine Ledger.ext ?_ ?_
    · simp [Ledger.openAccount, Ledger.setAccount, Ledger.setCard, Ledger.accountEntry]
    · exact Function.update_comm (by decide) _ _ _
  exact ⟨s, t, hcs, hct, hledger, prints_same (a := 4) (o := .accountQuery 4) rfl hfs hft hrs hrt hledger 3 3⟩

end YpfRuta.Admin
