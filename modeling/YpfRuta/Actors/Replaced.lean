/-
  A snapshot installed in a database at rest, while more commands come in. Whatever they set
  off reaches an actor behind the entry that is written over it, so the database does what one
  does that starts out with all entries written.
-/
import YpfRuta.Actors.Agreement
import YpfRuta.Actors.Transfer

namespace YpfRuta.Actors

open Lib

variable {Amount : Type} [Currency Amount]

/-! ## The entries on their way -/

/-- An entry of a snapshot on its way to its actor. -/
def IsInstall (y : Send) : Prop :=
  (∃ x, y = AccountSnapshot.install x) ∨ ∃ x, y = CardSnapshot.install x

/-- The entries of a snapshot, as the router sends them. -/
def installs (snapshot : DatabaseSnapshot Amount) : List Send :=
  snapshot.accounts.map AccountSnapshot.install ++ snapshot.cards.map CardSnapshot.install

/-- The actors when they have handled some messages. -/
def ActorStates.after (c : ActorStates) (xs : List Send) : ActorStates :=
  xs.foldl (fun c y => (c.handle y).1) c

/-- The actors with the entries of a snapshot written over them. -/
def installed (c : ActorStates) (n : OpId) (snapshot : DatabaseSnapshot Amount) : ActorStates :=
  ActorStates.after { c with router := (c.router.execute n (.replaceDatabase snapshot)).1 }
    (installs snapshot)

section After

variable {c : ActorStates} {x y : Send} {xs pre post : List Send}

theorem mem_installs {snapshot : DatabaseSnapshot Amount} (hy : y ∈ installs snapshot) :
    IsInstall y := by
  rcases List.mem_append.mp hy with hy | hy
  · obtain ⟨x, -, rfl⟩ := List.mem_map.mp hy
    exact .inl ⟨x, rfl⟩
  · obtain ⟨x, -, rfl⟩ := List.mem_map.mp hy
    exact .inr ⟨x, rfl⟩

/-- Nothing comes of an entry but the state it writes. -/
theorem IsInstall.quiet (hy : IsInstall y) (c : ActorStates) :
    (c.handle y).2 = [] ∧ (c.handle y).1.router = c.router ∧ y.dest ≠ .router ∧ y.dest ≠ .node := by
  obtain ⟨x, rfl⟩ | ⟨x, rfl⟩ := hy <;> exact ⟨rfl, rfl, nofun, nofun⟩

/-- An entry and a message for another actor can be handled in either order. -/
theorem handle_install_comm (hy : IsInstall y) (hd : y.dest ≠ x.dest) :
    (c.handle y).1.handle x = (((c.handle x).1.handle y).1, (c.handle x).2) := by
  obtain ⟨e, rfl⟩ | ⟨e, rfl⟩ := hy
  · cases x with
    | account b m =>
      have hb : b ≠ e.accountId := fun he => hd (by rw [he]; rfl)
      simp only [ActorStates.handle, AccountSnapshot.install, Function.update_of_ne hb,
        Function.update_of_ne (Ne.symm hb), Function.update_comm hb]
    | _ => rfl
  · cases x with
    | card j m =>
      have hj : j ≠ (e.accountId, e.cardId) := fun he => hd (by rw [he]; rfl)
      simp only [ActorStates.handle, CardSnapshot.install, Function.update_of_ne hj,
        Function.update_of_ne (Ne.symm hj), Function.update_comm hj]
    | _ => rfl

theorem after_append (c : ActorStates) (xs ys : List Send) :
    c.after (xs ++ ys) = (c.after xs).after ys :=
  List.foldl_append

/-- Entries and a message for an actor without one. -/
theorem handle_after_comm (hxs : ∀ y ∈ xs, IsInstall y) (hd : ∀ y ∈ xs, y.dest ≠ x.dest) :
    (c.after xs).handle x = ((c.handle x).1.after xs, (c.handle x).2) := by
  induction xs generalizing c with
  | nil => rfl
  | cons y xs ih =>
    obtain ⟨hy, hxs⟩ := List.forall_mem_cons.mp hxs
    obtain ⟨hyd, hd⟩ := List.forall_mem_cons.mp hd
    show ((c.handle y).1.after xs).handle x = (((c.handle x).1.handle y).1.after xs, _)
    rw [ih hxs hd, handle_install_comm hy hyd]

/-- The first entry for an actor may as well be handled first of all. -/
theorem after_middle (hxs : ∀ z ∈ pre ++ y :: post, IsInstall z) (hd : ∀ z ∈ pre, z.dest ≠ y.dest) :
    c.after (pre ++ y :: post) = (c.handle y).1.after (pre ++ post) := by
  rw [after_append, after_append]
  show ((c.after pre).handle y).1.after post = _
  rw [handle_after_comm (fun z hz => hxs z (List.mem_append_left _ hz)) hd]

theorem after_router (hxs : ∀ y ∈ xs, IsInstall y) : (c.after xs).router = c.router := by
  induction xs generalizing c with
  | nil => rfl
  | cons y xs ih =>
    obtain ⟨hy, hxs⟩ := List.forall_mem_cons.mp hxs
    exact (ih hxs).trans (hy.quiet c).2.1

/-- An account without an entry stays as it is. -/
theorem after_account {a : AccountId} (hxs : ∀ y ∈ xs, IsInstall y)
    (hd : ∀ y ∈ xs, y.dest ≠ .account a) : (c.after xs).account a = c.account a := by
  induction xs generalizing c with
  | nil => rfl
  | cons y xs ih =>
    obtain ⟨hy, hxs⟩ := List.forall_mem_cons.mp hxs
    obtain ⟨hyd, hd⟩ := List.forall_mem_cons.mp hd
    refine (ih hxs hd).trans ?_
    obtain ⟨e, rfl⟩ | ⟨e, rfl⟩ := hy
    · exact Function.update_of_ne (fun he => hyd (by rw [he]; rfl)) ..
    · rfl

theorem after_card {k : CardKey} (hxs : ∀ y ∈ xs, IsInstall y)
    (hd : ∀ y ∈ xs, y.dest ≠ .card k) : (c.after xs).card k = c.card k := by
  induction xs generalizing c with
  | nil => rfl
  | cons y xs ih =>
    obtain ⟨hy, hxs⟩ := List.forall_mem_cons.mp hxs
    obtain ⟨hyd, hd⟩ := List.forall_mem_cons.mp hd
    refine (ih hxs hd).trans ?_
    obtain ⟨e, rfl⟩ | ⟨e, rfl⟩ := hy
    · rfl
    · exact Function.update_of_ne (fun he => hyd (by rw [he]; rfl)) ..

/-- Nothing waits at a card that has its entry. -/
theorem after_queue (hxs : ∀ y ∈ xs, IsInstall y) (k : CardKey) :
    ((c.after xs).card k).queue = [] ∨ (c.after xs).card k = c.card k := by
  induction xs generalizing c with
  | nil => exact .inr rfl
  | cons y xs ih =>
    obtain ⟨hy, hxs⟩ := List.forall_mem_cons.mp hxs
    rcases ih (c := (c.handle y).1) hxs with hnil | hkeep
    · exact .inl hnil
    · show ((((c.handle y).1).after xs).card k).queue = [] ∨ ((c.handle y).1.after xs).card k = _
      rw [hkeep]
      obtain ⟨e, rfl⟩ | ⟨e, rfl⟩ := hy
      · exact .inr rfl
      · by_cases hk : k = (e.accountId, e.cardId)
        · subst hk
          refine .inl ?_
          show (Function.update c.card (e.accountId, e.cardId) _ _).queue = []
          rw [Function.update_self]
          rfl
        · exact .inr (Function.update_of_ne hk ..)

end After

/-! ## One database behind another -/

/-- `u` has handled the entries `pending`, which come first in their mailboxes in `t`. -/
structure Lags (pending : List Send) (t u : ActorDb) : Prop where
  installs : ∀ y ∈ pending, IsInstall y
  mailbox : ∀ d, d ≠ .node → t.mailbox d = mailFor d pending ++ u.mailbox d
  states : u.states = t.states.after pending

/-- `u` has the snapshot written over `c`. In `t` its command is the router's next one and
    nobody has handled anything since `c`, or some of its entries are on their way. -/
inductive Behind (n : OpId) (snapshot : DatabaseSnapshot Amount) (c : ActorStates)
    (t u : ActorDb) : Prop where
  | waits (hrouter : t.routerBox = .execute n (.replaceDatabase snapshot) :: u.routerBox)
      (hempty : ∀ d, d ≠ .router → t.mailbox d = [] ∧ u.mailbox d = [])
      (ht : t.states = c) (hu : u.states = installed c n snapshot)
  | lags (pending : List Send) (h : Lags pending t u)

section Behind

variable {n : OpId} {snapshot : DatabaseSnapshot Amount} {c : ActorStates} {pending : List Send}
  {t t' u : ActorDb} {l : Label}

theorem step_of_mailbox {y : Send} {rest : List Send} (hl : l.Internal)
    (hbox : u.mailbox l.dest = y :: rest) (hp : u.router.panicked = false) :
    ∃ u', u.step l = some u' := by
  cases l with
  | execute n o => exact hl.elim
  | router =>
    cases hr : u.routerBox with
    | nil => simp [ActorDb.mailbox, Label.dest, hr] at hbox
    | cons m rest => exact ⟨u.routerStep m rest, by simp [ActorDb.step, hr, hp]⟩
  | account a =>
    cases ha : u.accountBox a with
    | nil => simp [ActorDb.mailbox, Label.dest, ha] at hbox
    | cons m rest => exact ⟨u.accountStep a m rest, by simp [ActorDb.step, ha]⟩
  | card k =>
    cases hk : u.cardBox k with
    | nil => simp [ActorDb.mailbox, Label.dest, hk] at hbox
    | cons m rest => exact ⟨u.cardStep k m rest, by simp [ActorDb.step, hk]⟩

/-- **A step of the one behind** is one of an entry, or the other one takes it, too. -/
theorem Lags.step (h : Lags pending t u) (hp : t.router.panicked = false) (hl : l.Internal)
    (hs : t.step l = some t') :
    (∃ pending', Lags pending' t' u) ∨
      mailFor l.dest pending = [] ∧ ∃ u', u.step l = some u' ∧ Lags pending t' u' := by
  obtain ⟨y, rest, hdest, hlabel, hbox, hst, -, hmail⟩ := ActorDb.step_mailbox hl hs
  rw [h.mailbox _ hdest] at hbox
  cases hfirst : mailFor y.dest pending with
  | nil =>
    -- the addressee has no entry coming
    have hne : ∀ z ∈ pending, z.dest ≠ y.dest := by
      simpa [mailFor, List.filter_eq_nil_iff] using hfirst
    rw [hfirst, List.nil_append] at hbox
    have hrouter : u.router = t.router :=
      (congrArg ActorStates.router h.states).trans (after_router h.installs)
    obtain ⟨u', hu⟩ := step_of_mailbox hl (hlabel ▸ hbox) (hrouter ▸ hp)
    refine .inr ⟨hlabel ▸ hfirst, u', hu, ?_⟩
    obtain ⟨y', rest', -, hlabel', hbox', hst', -, hmail'⟩ := ActorDb.step_mailbox hl hu
    rw [hlabel', ← hlabel, hbox] at hbox'
    obtain ⟨rfl, rfl⟩ := List.cons.inj hbox'
    have hhandle := handle_after_comm (c := t.states) h.installs hne
    rw [h.states, hhandle] at hst' hmail'
    refine ⟨h.installs, fun d hd => ?_, by rw [hst', hst]⟩
    rw [hmail d hd, hmail' d hd]
    by_cases hdy : d = y.dest
    · rw [if_pos hdy, if_pos hdy, hdy, hfirst]
      rfl
    · rw [if_neg hdy, if_neg hdy, h.mailbox d hd, List.append_assoc]
  | cons z zs =>
    rw [hfirst] at hbox
    obtain ⟨rfl, rfl⟩ := List.cons.inj hbox
    obtain ⟨pre, post, rfl, hpre, -, rfl⟩ := List.filter_eq_cons_iff.mp hfirst
    have hne : ∀ w ∈ pre, w.dest ≠ z.dest := by simpa using hpre
    have hz : z ∈ pre ++ z :: post := by simp
    obtain ⟨hquiet, -⟩ := (h.installs z hz).quiet t.states
    refine .inl ⟨pre ++ post, fun w hw => h.installs w ?_, fun d hd => ?_, ?_⟩
    · rw [List.mem_append] at hw
      rw [List.mem_append, List.mem_cons]
      exact hw.imp id Or.inr
    · rw [hmail d hd, hquiet, mailFor_nil, List.append_nil, mailFor_append]
      by_cases hdz : d = z.dest
      · rw [if_pos hdz, hdz, mailFor_eq_nil hne]
        rfl
      · rw [if_neg hdz, h.mailbox d hd, mailFor_append, mailFor_cons_of_ne (Ne.symm hdz)]
    · rw [h.states, after_middle h.installs hne, hst]

/-- The same with the router's part of the installation. -/
theorem Behind.step (h : Behind n snapshot c t u) (hp : t.router.panicked = false)
    (hl : l.Internal) (hs : t.step l = some t') :
    Behind n snapshot c t' u ∨ ∃ pending u', Lags pending t u ∧ mailFor l.dest pending = [] ∧
      u.step l = some u' ∧ Lags pending t' u' := by
  cases h with
  | lags pending h =>
    obtain ⟨pending', h'⟩ | ⟨hnone, u', hu, h'⟩ := h.step hp hl hs
    · exact .inl (.lags pending' h')
    · exact .inr ⟨pending, u', h, hnone, hu, h'⟩
  | waits hrouter hempty ht hu =>
    obtain ⟨y, rest, hdest, -, hbox, hst, -, hmail⟩ := ActorDb.step_mailbox hl hs
    have hy : y.dest = .router := by
      by_contra hne
      rw [(hempty _ hne).1] at hbox
      cases hbox
    rw [hy] at hbox
    have hfirst : t.routerBox.map Send.router = y :: rest := hbox
    rw [hrouter] at hfirst
    obtain ⟨rfl, rfl⟩ := List.cons.inj hfirst
    -- the router sends the entries, and reports
    have hsent : (t.states.handle (.router (.execute n (.replaceDatabase snapshot)))).2 =
        installs snapshot ++
          [.event (.operationResult n (.replaceDatabase snapshot) .replaceDatabase true none)] := rfl
    rw [ht] at hst hsent
    refine .inl (.lags (installs snapshot) ⟨fun z hz => mem_installs hz, fun d hd => ?_, ?_⟩)
    · rw [hmail d hd, hy, ht, hsent, mailFor_append, mailFor_event hd, List.append_nil]
      by_cases hdr : d = .router
      · subst hdr
        have hnone : mailFor .router (installs snapshot) = [] :=
          mailFor_eq_nil fun z hz => ((mem_installs hz).quiet c).2.2.1
        rw [if_pos rfl, hnone, List.append_nil]
        rfl
      · rw [if_neg hdr, (hempty d hdr).1, (hempty d hdr).2,
          List.append_nil]
        rfl
    · rw [hu, hst]
      rfl

/-- A database at rest is given the snapshot. -/
theorem Behind.begin (hq : t.Quiescent) :
    Behind n snapshot t.states (t.execute n (.replaceDatabase snapshot))
      (ActorDb.rest (installed t.states n snapshot)) := by
  refine .waits ?_ (fun d hd => ?_) rfl rfl
  · show t.routerBox ++ _ = _
    rw [hq.router]
    rfl
  · have hempty := ActorDb.quiescent_iff.mp hq
    cases d with
    | router => exact absurd rfl hd
    | node => exact ⟨rfl, rfl⟩
    | account a => exact ⟨hempty (.account a) (by nofun), rfl⟩
    | card k => exact ⟨hempty (.card k) (by nofun), rfl⟩

/-- The node sends both one more command. -/
theorem Behind.command (h : Behind n snapshot c t u) (m : OpId) (o : Operation Amount) :
    Behind n snapshot c (t.execute m o) (u.execute m o) := by
  cases h with
  | waits hrouter hempty ht hu =>
    refine .waits ?_ (fun d hd => ?_) ht hu
    · show t.routerBox ++ _ = _ :: (u.routerBox ++ _)
      rw [hrouter]
      rfl
    · cases d with
      | router => exact absurd rfl hd
      | _ => exact hempty _ hd
  | lags pending h =>
    refine .lags pending ⟨h.installs, fun d hd => ?_, h.states⟩
    have hold := h.mailbox d hd
    cases d with
    | router =>
      show (t.routerBox ++ [RouterMsg.execute m o]).map Send.router =
        mailFor .router pending ++ (u.routerBox ++ [RouterMsg.execute m o]).map Send.router
      rw [List.map_append, List.map_append, ← List.append_assoc]
      exact congrArg (· ++ _) hold
    | _ => exact hold

/-- At rest there is no difference left. -/
theorem Behind.quiescent (h : Behind n snapshot c t u) (hq : t.Quiescent) :
    u.Quiescent ∧ u.states = t.states := by
  cases h with
  | waits hrouter =>
    rw [hq.router] at hrouter
    cases hrouter
  | lags pending h =>
    have hempty := ActorDb.quiescent_iff.mp hq
    have hnone : ∀ d, d ≠ .node → mailFor d pending = [] ∧ u.mailbox d = [] := fun d hd =>
      List.append_eq_nil_iff.mp ((h.mailbox d hd).symm.trans (hempty d hd))
    have hnil : pending = [] := by
      apply List.eq_nil_iff_forall_not_mem.mpr
      intro y hy
      have hin : y ∈ mailFor y.dest pending := List.mem_filter.mpr ⟨hy, decide_eq_true rfl⟩
      rw [(hnone y.dest ((h.installs y hy).quiet c).2.2.2).1] at hin
      cases hin
    refine ⟨ActorDb.quiescent_iff.mpr fun d hd => (hnone d hd).2, ?_⟩
    rw [h.states, hnil]
    rfl

/-! ## Operations in order -/

theorem Lags.mem_accountBox (h : Lags pending t u) {a : AccountId} {m : AccountMsg}
    (hm : m ∈ u.accountBox a) : m ∈ t.accountBox a := by
  have hin : Send.account a m ∈ t.mailbox (.account a) := by
    rw [h.mailbox (.account a) (fun hne => by cases hne)]
    exact List.mem_append_right _ (List.mem_map_of_mem hm)
  obtain ⟨m', hm', he⟩ := List.mem_map.mp hin
  exact (Send.account.inj he).2 ▸ hm'

theorem Lags.mem_cardBox (h : Lags pending t u) {k : CardKey} {m : CardMsg}
    (hm : m ∈ u.cardBox k) : m ∈ t.cardBox k := by
  have hin : Send.card k m ∈ t.mailbox (.card k) := by
    rw [h.mailbox (.card k) (fun hne => by cases hne)]
    exact List.mem_append_right _ (List.mem_map_of_mem hm)
  obtain ⟨m', hm', he⟩ := List.mem_map.mp hin
  exact (Send.card.inj he).2 ▸ hm'

/-- An operation on its way to an account of `u` is on its way in `t`. -/
theorem Lags.approaches (h : Lags pending t u) {a : AccountId} {i : OpId}
    (ha : u.Approaches a i) : t.Approaches a i := by
  have hrouter : u.router = t.router :=
    (congrArg ActorStates.router h.states).trans (after_router h.installs)
  rcases ha with ⟨m, hm, hi⟩ | ⟨cd, hcd, ⟨m, hm, hi⟩ | ⟨task, htask, hi⟩⟩
  · exact .inl ⟨m, h.mem_accountBox hm, hi⟩
  · exact .inr ⟨cd, hrouter ▸ hcd, .inl ⟨m, h.mem_cardBox hm, hi⟩⟩
  · refine .inr ⟨cd, hrouter ▸ hcd, .inr ⟨task, ?_, hi⟩⟩
    have hcard : u.card (a, cd) = (t.states.after pending).card (a, cd) := by
      rw [← h.states]
      rfl
    rw [hcard] at htask
    obtain hnil | hkeep := after_queue (c := t.states) h.installs (a, cd)
    · rw [hnil] at htask
      cases htask
    · rw [hkeep] at htask
      exact htask

/-- The state with the first `k` commands forgotten. -/
def ActorDb.since (s : ActorDb) (k : Nat) : ActorDb :=
  { s with commands := s.commands.drop k }

/-- **A step in order** of the one behind is one of the other. -/
theorem Lags.inOrder {k : Nat} (h : Lags pending t u) (hcmd : t.commands.drop k = u.commands)
    (hd : mailFor l.dest pending = []) (hi : (t.since k).InOrder l) : u.InOrder l := by
  have hne : ∀ y ∈ pending, y.dest ≠ l.dest := by
    simpa [mailFor, List.filter_eq_nil_iff] using hd
  cases l with
  | execute m o => exact True.intro
  | router => exact True.intro
  | account a =>
    have hbox : t.accountBox a = u.accountBox a := by
      have hmail := h.mailbox (.account a) (fun hne => by cases hne)
      rw [show mailFor (.account a) pending = [] from hd, List.nil_append] at hmail
      exact List.map_injective_iff.mpr (fun _ _ he => (Send.account.inj he).2) hmail
    have hstate : u.account a = t.account a :=
      (congrFun (congrArg ActorStates.account h.states) a).trans (after_account h.installs hne)
    intro m hm i hmi
    rw [← hbox] at hm
    obtain ⟨hbefore, hslot⟩ := hi m hm i hmi
    refine ⟨fun j hj hja => hbefore j ?_ (h.approaches hja), by rw [hstate]; exact hslot⟩
    unfold ActorDb.sentBefore ActorDb.since
    rw [hcmd]
    exact hj
  | card k =>
    have hbox : t.cardBox k = u.cardBox k := by
      have hmail := h.mailbox (.card k) (fun hne => by cases hne)
      rw [show mailFor (.card k) pending = [] from hd, List.nil_append] at hmail
      exact List.map_injective_iff.mpr (fun _ _ he => (Send.card.inj he).2) hmail
    have hstate : u.card k = t.card k :=
      (congrFun (congrArg ActorStates.card h.states) k).trans (after_card h.installs hne)
    intro m hm hq
    rw [← hbox] at hm
    rw [hstate]
    exact hi m hm hq

end Behind

/-! ## The database with the snapshot -/

section Installed

variable {n : OpId} {snapshot : DatabaseSnapshot Amount} {s t t' : ActorDb}

/-- Where an installation in a database at rest comes to. -/
theorem installed_ends (hs : Formed s) (hshows : s.ledger.Shows snapshot) (ht : Formed t)
    (hrest : t.AtRest) (n : OpId) :
    (installed t.states n snapshot).Named ∧ (installed t.states n snapshot).Idle ∧
      (installed t.states n snapshot).ledger = s.ledger.over t.ledger := by
  let u := ActorDb.rest (installed t.states n snapshot)
  have hf : Formed (t.execute n (.replaceDatabase snapshot)) :=
    ht.step (l := .execute n (.replaceDatabase snapshot)) rfl
  have hbegin : Behind n snapshot t.states (t.execute n (.replaceDatabase snapshot)) u :=
    .begin hrest.quiescent
  have hu : ∀ {l : Label} {u' : ActorDb}, l.Internal → u.step l ≠ some u' := by
    intro l u' hl hstep
    rw [(⟨rfl, fun _ => rfl, fun _ => rfl⟩ : u.Quiescent).stuck l hl] at hstep
    cases hstep
  have hkept : ∀ (v : ActorDb) (l : Label) (v' : ActorDb),
      Formed v ∧ Behind n snapshot t.states v u → l.Internal → v.step l = some v' →
        Formed v' ∧ Behind n snapshot t.states v' u := by
    rintro v l v' ⟨hfv, hv⟩ hl hstep
    refine ⟨hfv.step hstep, (hv.step hfv.alive hl hstep).resolve_right ?_⟩
    rintro ⟨pending, u', -, -, hu', -⟩
    exact hu hl hu'
  obtain ⟨r, hends⟩ := install_ends hs hshows ht hrest n
  obtain ⟨ls, t', -, -, hstuck, ⟨hidle, hledger, -⟩, hf', hbehind⟩ :=
    (hends.and_kept hkept ⟨hf, hbegin⟩).exists_run
  have hstates : installed t.states n snapshot = t'.states :=
    (hbehind.quiescent (ActorDb.quiescent_of_stuck hf'.alive hstuck)).2
  rw [hstates]
  exact ⟨hf'.named, hidle, hledger⟩

/-- The snapshot names every account and card the router knows. -/
def Covers (snapshot : DatabaseSnapshot Amount) (r : ActorRouter) : Prop :=
  (∀ a ∈ r.accounts.toList, a ∈ snapshot.accounts.map AccountSnapshot.accountId) ∧
    ∀ k ∈ r.cards.toList, k ∈ snapshot.cards.map CardSnapshot.key

instance (snapshot : DatabaseSnapshot Amount) (r : ActorRouter) : Decidable (Covers snapshot r) :=
  have : Decidable (∀ a ∈ r.accounts.toList,
      a ∈ snapshot.accounts.map AccountSnapshot.accountId) := List.decidableBAll _ _
  have : Decidable (∀ k ∈ r.cards.toList, k ∈ snapshot.cards.map CardSnapshot.key) :=
    List.decidableBAll _ _
  inferInstanceAs (Decidable (_ ∧ _))

/-- Such a snapshot leaves nothing of what the database had. -/
theorem Covers.over {L : Ledger} (hshows : L.Shows snapshot) (h : Covers snapshot t.router) :
    L.over t.ledger = L := by
  refine Ledger.ext (funext fun a => ?_) (funext fun k => ?_)
  · show (L.account a).or (t.ledger.account a) = _
    cases ha : L.account a with
    | some e => rfl
    | none =>
      refine Option.none_or.trans (if_neg fun hknown => ?_)
      obtain ⟨x, hx, rfl⟩ := List.mem_map.mp (h.1 a hknown)
      obtain ⟨e, he, -⟩ := Option.map_eq_some_iff.mp ((hshows.accounts.mem x).mp hx)
      rw [ha] at he
      cases he
  · show (L.card k).or (t.ledger.card k) = _
    cases hk : L.card k with
    | some e => rfl
    | none =>
      refine Option.none_or.trans (if_neg fun hknown => ?_)
      obtain ⟨x, hx, rfl⟩ := List.mem_map.mp (h.2 k hknown)
      obtain ⟨e, he, -⟩ := Option.map_eq_some_iff.mp ((hshows.cards.mem x).mp hx)
      rw [hk] at he
      cases he

/-- A database that was given a snapshot over the actors `c`, and had been given `k` commands
    by then: it does what one does that starts with the snapshot. -/
structure Replaced (n : OpId) (snapshot : DatabaseSnapshot Amount) (c : ActorStates) (k : Nat)
    (t : ActorDb) : Prop where
  formed : Formed t
  given : k ≤ t.commands.length
  follows : ∃ ls u, run ActorDb.step (ActorDb.rest (installed c n snapshot)) ls = some u ∧
    Meets ActorDb.step ActorDb.InOrder (ActorDb.rest (installed c n snapshot)) ls ∧
    Behind n snapshot c t u ∧ t.commands.drop k = u.commands

variable {c : ActorStates} {k : Nat} {l : Label}

theorem Replaced.begin (ht : Formed t) (hq : t.Quiescent) :
    Replaced n snapshot t.states (t.commands.length + 1)
      (t.execute n (.replaceDatabase snapshot)) where
  formed := ht.step (l := .execute n (.replaceDatabase snapshot)) rfl
  given := by simp [ActorDb.execute]
  follows := ⟨[], _, rfl, True.intro, .begin hq, by simp [ActorDb.execute, ActorDb.rest, ActorDb.init]⟩

/-- The node sends one more command. -/
theorem Replaced.command (h : Replaced n snapshot c k t) (m : OpId) (o : Operation Amount) :
    Replaced n snapshot c k (t.execute m o) where
  formed := h.formed.step (l := .execute m o) rfl
  given := by
    have hlen := h.given
    simp only [ActorDb.execute, List.length_append]
    omega
  follows := by
    obtain ⟨ls, u, hr, hm, hb, hcmd⟩ := h.follows
    have hfree : u.InOrder (.execute m o) := True.intro
    refine ⟨ls ++ [.execute m o], u.execute m o, run_concat.mpr ⟨u, hr, rfl⟩,
      (meets_concat hr).mpr ⟨hm, hfree⟩, hb.command m o, ?_⟩
    show (t.commands ++ _).drop k = u.commands ++ _
    rw [List.drop_append_of_le_length h.given, hcmd]

/-- **A step of an actor** in the order of the commands behind the snapshot. -/
theorem Replaced.step (h : Replaced n snapshot c k t) (hl : l.Internal)
    (hi : (t.since k).InOrder l) (hs : t.step l = some t') : Replaced n snapshot c k t' := by
  obtain ⟨ls, u, hr, hm, hb, hcmd⟩ := h.follows
  have hsame : t'.commands = t.commands := ActorDb.step_commands_internal hl hs
  refine ⟨h.formed.step hs, hsame ▸ h.given, ?_⟩
  obtain hb' | ⟨pending, u', hlags, hnone, hu, hlags'⟩ := hb.step h.formed.alive hl hs
  · exact ⟨ls, u, hr, hm, hb', hsame ▸ hcmd⟩
  · refine ⟨ls ++ [l], u', run_concat.mpr ⟨u, hr, hu⟩,
      (meets_concat hr).mpr ⟨hm, hlags.inOrder hcmd hnone hi⟩, .lags _ hlags', ?_⟩
    rw [hsame, hcmd, ActorDb.step_commands_internal hl hu]

/-- **At rest** the commands behind the snapshot have been executed one at a time on what it
    shows. -/
theorem Replaced.ledger (h : Replaced n snapshot c k t) (hn : (installed c n snapshot).Named)
    (hi : (installed c n snapshot).Idle) (hq : t.Quiescent)
    (hids : ((t.commands.drop k).map Prod.fst).Nodup)
    (hops : ∀ x ∈ t.commands.drop k, (accountOf? x.2).isSome) :
    t.ledger = (t.commands.drop k).foldl (fun L x => L.serve x.2)
      (installed c n snapshot).ledger := by
  obtain ⟨ls, u, hr, hm, hb, hcmd⟩ := h.follows
  obtain ⟨huq, hstates⟩ := hb.quiescent hq
  obtain ⟨⟨events, hserial, -⟩, -⟩ :=
    executes_of_run hn hi hr hm huq (hcmd ▸ hids) (hcmd ▸ hops)
  have hledger : t.ledger = u.ledger := congrArg ActorStates.ledger hstates.symm
  rw [hledger, hcmd]
  exact hserial.ledger_eq

end Installed

end YpfRuta.Actors
