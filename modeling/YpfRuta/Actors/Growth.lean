/-
  Consumption between bills. Neither the parser of a station nor the wire decoder looks at
  the sign of an amount, and a check of a limit passes a negative one; a consumption only
  grows as long as no account takes such a charge.
-/
import Mathlib.Algebra.Order.BigOperators.Group.List
import YpfRuta.Actors.Completion
import YpfRuta.Actors.Limits
import YpfRuta.Lib.Float32
import YpfRuta.Network.Deserialization
import YpfRuta.Station.Amount

namespace YpfRuta.Actors

open Lib

/-! ## Where charges come from -/

local instance growthFromStr : Station.FromStr Amount := Station.amountFromStr

/-- A charge that enters the system: a command line of a station, which may be replayed from
    an offline queue, or a charge read off the wire. -/
inductive Enters : Operation Amount → Prop where
  | line (text : String) (numPumps : Nat) (parsed : Station.ParsedCommand Amount numPumps)
      (offline : Bool) (h : Station.parseCommand text numPumps = .ok parsed) :
      Enters (.charge parsed.accountId parsed.cardId parsed.amount offline)
  | wire (payload : List UInt8) (a : AccountId) (c : CardId) (bits : UInt32) (offline : Bool)
      (amount : Amount)
      (h : Network.deserializeChargeOperation payload = .ok (.charge a c bits offline))
      (hamount : f32Value bits = some amount) : Enters (.charge a c amount offline)

/-! ## What a step may do to a consumption -/

/-- After the step no consumption is negative, and one that is lower than before belongs to
    an actor that handled a bill or a snapshot. -/
structure Grows (s s' : ActorDb) (l : Label) : Prop where
  accounts : ∀ a, 0 ≤ (s'.account a).accountConsumed
  cards : ∀ k, 0 ≤ (s'.card k).consumed
  account : ∀ a, (s'.account a).accountConsumed < (s.account a).accountConsumed →
    l = .account a ∧ ∃ m rest, s.accountBox a = m :: rest ∧
      ((s.account a).resets m = true ∨ ∃ lim con, m = .replaceState lim con)
  card : ∀ k, (s'.card k).consumed < (s.card k).consumed →
    l = .card k ∧ ∃ m rest, s.cardBox k = m :: rest ∧
      ((s.card k).resets m = true ∨ ∃ lim con, m = .replaceState lim con)

/-- A charge is not negative or is refused, and a snapshot installs no negative
    consumption. -/
def AccountActor.Sound (self : AccountActor) : AccountMsg → Prop
  | .applyChargeFromCard _ amount _ fromOfflineStation _ =>
    0 ≤ amount ∨ (fromOfflineStation = false ∧ self.checkAccountLimit amount ≠ .ok ())
  | .replaceState _ newConsumed => 0 ≤ newConsumed
  | _ => True

def CardMsg.Sound : CardMsg → Prop
  | .replaceState _ newConsumed => 0 ≤ newConsumed
  | _ => True

/-- The message that is handled next is sound. -/
def ActorDb.Sound (s : ActorDb) : Label → Prop
  | .account a => ∀ m ∈ (s.accountBox a).head?, (s.account a).Sound m
  | .card k => ∀ m ∈ (s.cardBox k).head?, m.Sound
  | _ => True

instance (x : AccountActor) (m : AccountMsg) : Decidable (x.Sound m) :=
  match m with
  | .applyChargeFromCard .. => inferInstanceAs (Decidable (_ ∨ _))
  | .replaceState .. => inferInstanceAs (Decidable (_ ≤ _))
  | .applyAccountLimit .. => isTrue True.intro
  | .startAccountQuery .. => isTrue True.intro
  | .startAccountBill .. => isTrue True.intro
  | .cardQueryReply .. => isTrue True.intro
  | .getSnapshot .. => isTrue True.intro

instance (m : CardMsg) : Decidable m.Sound :=
  match m with
  | .replaceState .. => inferInstanceAs (Decidable (_ ≤ _))
  | .executeCharge .. => isTrue True.intro
  | .executeLimitChange .. => isTrue True.intro
  | .queryCardState .. => isTrue True.intro
  | .getSnapshot .. => isTrue True.intro
  | .debug .. => isTrue True.intro
  | .chargeReply .. => isTrue True.intro

instance (s : ActorDb) (l : Label) : Decidable (s.Sound l) :=
  match l with
  | .account _ => inferInstanceAs (Decidable (∀ m ∈ _, _))
  | .card _ => inferInstanceAs (Decidable (∀ m ∈ _, _))
  | .execute .. => isTrue True.intro
  | .router => isTrue True.intro

/-! ## One message -/

/-- An account keeps its consumption from shrinking exactly on sound messages. -/
theorem AccountActor.handle_grows (x : AccountActor) (m : AccountMsg)
    (hx : 0 ≤ x.accountConsumed) :
    x.Sound m ↔ 0 ≤ (x.handle m).1.accountConsumed ∧
      ((x.handle m).1.accountConsumed < x.accountConsumed →
        x.resets m = true ∨ ∃ lim con, m = .replaceState lim con) := by
  have hkept : x.added m = [] → (∀ lim con, m ≠ .replaceState lim con) →
      0 ≤ (x.handle m).1.accountConsumed ∧
        ((x.handle m).1.accountConsumed < x.accountConsumed →
          x.resets m = true ∨ ∃ lim con, m = .replaceState lim con) := by
    intro hadd hm
    rw [x.handle_consumed m hm, hadd, List.map_nil, List.sum_nil, add_zero]
    cases hres : x.resets m with
    | true => exact ⟨le_refl 0, fun _ => .inl rfl⟩
    | false => exact ⟨hx, fun hlt => absurd hlt (lt_irrefl _)⟩
  cases m with
  | applyChargeFromCard n amount c off k =>
    have hm : ∀ lim con, AccountMsg.applyChargeFromCard n amount c off k ≠
        .replaceState lim con := fun _ _ h => by cases h
    by_cases hok : off = true ∨ x.checkAccountLimit amount = .ok ()
    · have hadd : x.added (.applyChargeFromCard n amount c off k) = [(n, amount)] := if_pos hok
      have hsound : x.Sound (.applyChargeFromCard n amount c off k) ↔ 0 ≤ amount := by
        refine or_iff_left fun ⟨hon, hchk⟩ => ?_
        rcases hok with hoff | hok
        · rw [hoff] at hon
          cases hon
        · exact hchk hok
      rw [hsound, x.handle_consumed _ hm, hadd]
      simp only [resets, Bool.false_eq_true, if_false, List.map_cons, List.map_nil,
        List.sum_singleton, add_lt_iff_neg_left, false_or]
      constructor
      · intro hamount
        exact ⟨add_nonneg hx hamount, fun hlt => absurd hlt (not_lt.mpr hamount)⟩
      · rintro ⟨-, hlt⟩
        by_contra hneg
        obtain ⟨lim, con, he⟩ := hlt (not_le.mp hneg)
        exact hm lim con he
    · refine iff_of_true (.inr ?_) (hkept (if_neg hok) hm)
      rw [not_or, Bool.not_eq_true] at hok
      exact hok
  | replaceState lim con => exact ⟨fun h => ⟨h, fun _ => .inr ⟨lim, con, rfl⟩⟩, fun h => h.1⟩
  | _ => exact iff_of_true True.intro (hkept rfl fun _ _ h => by cases h)

/-- So does a card whose charge in flight is not negative. -/
theorem CardActor.handle_grows (c : CardActor) (m : CardMsg) (hc : 0 ≤ c.consumed)
    (hadd : ∀ p ∈ c.added m, 0 ≤ p.2) :
    m.Sound ↔ 0 ≤ (c.handle m).1.consumed ∧ ((c.handle m).1.consumed < c.consumed →
      c.resets m = true ∨ ∃ lim con, m = .replaceState lim con) := by
  by_cases hm : ∃ lim con, m = .replaceState lim con
  · obtain ⟨lim, con, rfl⟩ := hm
    exact ⟨fun h => ⟨h, fun _ => .inr ⟨lim, con, rfl⟩⟩, fun h => h.1⟩
  · have hsound : m.Sound := by
      cases m with
      | replaceState lim con => exact absurd ⟨lim, con, rfl⟩ hm
      | _ => exact True.intro
    have hsum : 0 ≤ ((c.added m).map Prod.snd).sum := by
      refine List.sum_nonneg fun amount hmem => ?_
      obtain ⟨p, hp, rfl⟩ := List.mem_map.mp hmem
      exact hadd p hp
    refine iff_of_true hsound ?_
    rw [c.handle_consumed m fun lim con he => hm ⟨lim, con, he⟩]
    cases hres : c.resets m with
    | true =>
      rw [if_pos rfl, zero_add]
      exact ⟨hsum, fun _ => .inl rfl⟩
    | false =>
      rw [if_neg Bool.false_ne_true]
      exact ⟨add_nonneg hc hsum, fun hlt => absurd hlt (not_lt.mpr (le_add_of_nonneg_right hsum))⟩

/-! ## The invariant -/

/-- No consumption is negative, and an approval on its way to a card is for a charge that is
    not negative either. -/
def grownInv (K : OpId → Operation Amount → Prop) : LocalInv :=
  { LocalInv.trivial with
    account := fun _ x => 0 ≤ x.accountConsumed
    card := fun _ c => 0 ≤ c.consumed
    cardMsg := fun k m => ∀ r, m = .chargeReply r → r.success = true →
      ∃ amount off, K r.opId (.charge k.1 k.2 amount off) ∧ 0 ≤ amount }

variable {K : OpId → Operation Amount → Prop} {s s' : ActorDb} {l : Label}

/-- What is no answer to a charge meets the invariant. -/
theorem grown_sent {y : Send} (h : ∀ k r, y ≠ .card k (.chargeReply r)) :
    (grownInv K).Sent y := by
  cases y with
  | card k m =>
    rintro r rfl
    exact absurd rfl (h k r)
  | _ => exact True.intro

/-- An account that approves a charge adds it. -/
theorem account_approves {x : AccountActor} {a : AccountId} {m : AccountMsg} {y : Send}
    (hm : accountMsgOrigin K a m) (hs : x.Sound m) (hy : y ∈ (x.handle m).2) :
    (grownInv K).Sent y := by
  by_cases hreply : ∃ k r, y = .card k (.chargeReply r)
  swap
  · exact grown_sent fun k r he => hreply ⟨k, r, he⟩
  obtain ⟨k, r, rfl⟩ := hreply
  obtain ⟨n, amount, c, off, rfl⟩ := AccountActor.handle_toCard hy
  rintro r' he hsucc
  obtain rfl := CardMsg.chargeReply.inj he
  rw [AccountActor.handle] at hy
  obtain ⟨hadd, heq⟩ | ⟨-, -, err, heq⟩ := AccountActor.applyChargeFromCard_cases x n amount c off k
  · rw [heq] at hy
    obtain ⟨-, he⟩ := Send.card.inj (List.mem_singleton.mp hy)
    obtain rfl := CardMsg.chargeReply.inj he
    obtain ⟨rfl, horig⟩ := hm
    obtain ⟨_, _, _, he, hok⟩ := account_added (x := x) (hadd ▸ List.mem_singleton_self (n, amount))
    obtain ⟨-, -, -, rfl, -⟩ := AccountMsg.applyChargeFromCard.inj he
    refine ⟨amount, off, horig, hs.resolve_right ?_⟩
    rintro ⟨rfl, hchk⟩
    exact hchk (hok.resolve_left Bool.false_ne_true)
  · rw [heq] at hy
    obtain ⟨-, he⟩ := Send.card.inj (List.mem_singleton.mp hy)
    obtain rfl := CardMsg.chargeReply.inj he
    cases hsucc

/-- The charge a card adds is the one that was approved. -/
theorem card_adds (huniq : ∀ n o o', K n o → K n o' → o = o') {k : CardKey} {c : CardActor}
    {m : CardMsg} (hc : CardOrigin K k c) (hm : (grownInv K).cardMsg k m) :
    ∀ p ∈ c.added m, 0 ≤ p.2 := by
  rintro ⟨n, amount⟩ hp
  obtain ⟨r, op, rfl, hcur, hid, hsucc, -, rfl⟩ := card_added hp
  obtain ⟨approved, off, happ, hnonneg⟩ := hm r rfl hsucc
  have htask : K r.opId (.charge k.1 k.2 op.amount op.fromOfflineStation) :=
    hid ▸ hc.current _ hcur
  obtain ⟨-, -, rfl, -⟩ := Operation.charge.inj (huniq _ _ _ htask happ)
  exact hnonneg

/-! ## One step -/

theorem grows_same (hi : (grownInv K).Holds s) (hacc : s'.account = s.account)
    (hcard : s'.card = s.card) : Grows s s' l where
  accounts a := hacc ▸ hi.account a
  cards k := hcard ▸ hi.card k
  account a hlt := by
    rw [hacc] at hlt
    exact absurd hlt (lt_irrefl _)
  card k hlt := by
    rw [hcard] at hlt
    exact absurd hlt (lt_irrefl _)

theorem grows_account (hi : (grownInv K).Holds s) {a : AccountId} {m : AccountMsg}
    {rest : List AccountMsg} (hbox : s.accountBox a = m :: rest) :
    Grows s (s.accountStep a m rest) (.account a) ↔ (s.account a).Sound m := by
  rw [(s.account a).handle_grows m (hi.account a)]
  constructor
  · intro h
    have hpos := h.accounts a
    have hlt := h.account a
    rw [ActorDb.accountStep_account, Function.update_self] at hpos hlt
    refine ⟨hpos, fun hless => ?_⟩
    obtain ⟨-, m', rest', hbox', hm'⟩ := hlt hless
    obtain ⟨rfl, -⟩ := List.cons.inj (hbox.symm.trans hbox')
    exact hm'
  · rintro ⟨hpos, hlt⟩
    refine ⟨fun b => ?_, hi.card, fun b hless => ?_, fun k hless => absurd hless (lt_irrefl _)⟩
    · rw [ActorDb.accountStep_account]
      by_cases hb : b = a
      · rw [hb, Function.update_self]
        exact hpos
      · rw [Function.update_of_ne hb]
        exact hi.account b
    · rw [ActorDb.accountStep_account] at hless
      by_cases hb : b = a
      · rw [hb, Function.update_self] at hless
        rw [hb]
        exact ⟨rfl, m, rest, hbox, hlt hless⟩
      · rw [Function.update_of_ne hb] at hless
        exact absurd hless (lt_irrefl _)

theorem grows_card (hi : (grownInv K).Holds s) {k : CardKey} {m : CardMsg} {rest : List CardMsg}
    (hbox : s.cardBox k = m :: rest) (hadd : ∀ p ∈ (s.card k).added m, 0 ≤ p.2) :
    Grows s (s.cardStep k m rest) (.card k) ↔ m.Sound := by
  rw [(s.card k).handle_grows m (hi.card k) hadd]
  constructor
  · intro h
    have hpos := h.cards k
    have hlt := h.card k
    rw [ActorDb.cardStep_card, Function.update_self] at hpos hlt
    refine ⟨hpos, fun hless => ?_⟩
    obtain ⟨-, m', rest', hbox', hm'⟩ := hlt hless
    obtain ⟨rfl, -⟩ := List.cons.inj (hbox.symm.trans hbox')
    exact hm'
  · rintro ⟨hpos, hlt⟩
    refine ⟨hi.account, fun j => ?_, fun a hless => absurd hless (lt_irrefl _), fun j hless => ?_⟩
    · rw [ActorDb.cardStep_card]
      by_cases hj : j = k
      · rw [hj, Function.update_self]
        exact hpos
      · rw [Function.update_of_ne hj]
        exact hi.card j
    · rw [ActorDb.cardStep_card] at hless
      by_cases hj : j = k
      · rw [hj, Function.update_self] at hless
        rw [hj]
        exact ⟨rfl, m, rest, hbox, hlt hless⟩
      · rw [Function.update_of_ne hj] at hless
        exact absurd hless (lt_irrefl _)

theorem sound_account {a : AccountId} {m : AccountMsg} {rest : List AccountMsg}
    (hbox : s.accountBox a = m :: rest) : s.Sound (.account a) ↔ (s.account a).Sound m := by
  simp [ActorDb.Sound, hbox]

theorem sound_card {k : CardKey} {m : CardMsg} {rest : List CardMsg}
    (hbox : s.cardBox k = m :: rest) : s.Sound (.card k) ↔ m.Sound := by
  simp [ActorDb.Sound, hbox]

/-- **A step keeps consumption growing** exactly when its message is sound, and then keeps
    the invariant. -/
theorem grown_step (huniq : ∀ n o o', K n o → K n o' → o = o') (ho : (originInv K).Holds s)
    (hi : (grownInv K).Holds s) (hstep : s.step l = some s') :
    (Grows s s' l ↔ s.Sound l) ∧ (s.Sound l → (grownInv K).Holds s') := by
  obtain ⟨n, o, rfl, rfl⟩ | ⟨m, rest, rfl, hbox, -, rfl⟩ | ⟨a, m, rest, rfl, hbox, rfl⟩ |
    ⟨k, m, rest, rfl, hbox, rfl⟩ := ActorDb.step_cases hstep
  · exact ⟨iff_of_true (grows_same hi rfl rfl) True.intro,
      fun _ => { hi with routerBox := fun _ _ => True.intro }⟩
  · refine ⟨iff_of_true (grows_same hi rfl rfl) True.intro, fun _ => ?_⟩
    refine hi.routerStep hbox True.intro fun y hy => grown_sent ?_
    rintro k r rfl
    have hnone := ActorRouter.handle_replies s.router m k r.opId
    simpa [Send.onCard, CardMsg.replies] using List.countP_eq_zero.mp hnone _ hy
  · have hm : m ∈ s.accountBox a := by rw [hbox]; exact List.mem_cons_self
    rw [grows_account hi hbox, sound_account hbox]
    refine ⟨Iff.rfl, fun hs => hi.accountStep hbox ?_ fun y hy => ?_⟩
    · exact ((AccountActor.handle_grows _ m (hi.account a)).mp hs).1
    · exact account_approves (ho.accountBox a m hm) hs hy
  · have hm : m ∈ s.cardBox k := by rw [hbox]; exact List.mem_cons_self
    have hadd := card_adds huniq (ho.card k) (hi.cardBox k m hm)
    rw [grows_card hi hbox hadd, sound_card hbox]
    refine ⟨Iff.rfl, fun hs => hi.cardStep hbox ?_ fun y hy => grown_sent ?_⟩
    · exact ((CardActor.handle_grows _ m (hi.card k) hadd).mp hs).1
    · rintro k' r rfl
      cases CardActor.handle_emits _ m _ hy

/-! ## Runs -/

/-- **Consumption only grows between bills**, and is never negative, along the runs in which
    every account and every card handles sound messages only. -/
theorem consumption_grows {ls : List Label} (hr : run ActorDb.step ActorDb.init ls = some s)
    (hid : (s.commands.map Prod.fst).Nodup) :
    Meets ActorDb.step (fun t l => ∀ t', t.step l = some t' → Grows t t' l) ActorDb.init ls ↔
      Meets ActorDb.step ActorDb.Sound ActorDb.init ls := by
  refine meets_iff (I := fun t => (originInv fun n o => (n, o) ∈ s.commands).Holds t ∧
    (grownInv fun n o => (n, o) ∈ s.commands).Holds t) ?_ hr ⟨origin_init, ?_⟩
  · rintro t l t' ⟨ho, hi⟩ hstep ⟨ms, hms⟩
    have hsub : t'.commands <+: s.commands := run_commands hms
    obtain ⟨hiff, hkeep⟩ := grown_step (K := fun n o => (n, o) ∈ s.commands)
      (fun _ _ _ h h' => command_unique hid h h') ho hi hstep
    constructor
    · rw [← hiff]
      constructor
      · exact fun h => h t' hstep
      · intro h u hu
        obtain rfl := Option.some.inj (hstep.symm.trans hu)
        exact h
    · intro hs
      refine ⟨origin_preserved.step (LocalInv.trivial_holds t) ho ?_ hstep, hkeep hs⟩
      rintro n o rfl
      obtain rfl : t.execute n o = t' := Option.some.inj hstep
      exact hsub.subset (List.mem_append_right _ (List.mem_singleton_self _))
  · exact LocalInv.holds_init True.intro (fun _ => le_refl 0) fun _ => le_refl 0

/-- A charge and the bill that resets it. -/
def chargeAndBill : List Label :=
  [.execute 1 (.charge 1 10 60 false), .execute 2 (.bill 1 none), .router, .card (1, 10),
    .account 1, .card (1, 10), .router, .router, .account 1, .card (1, 10), .account 1]

theorem consumption_grows_example :
    ∃ s, run ActorDb.step ActorDb.init chargeAndBill = some s ∧
      (s.account 1).accountConsumed = 0 ∧
      Meets ActorDb.step (fun t l => ∀ t', t.step l = some t' → Grows t t' l) ActorDb.init
        chargeAndBill := by
  have hrun : (run ActorDb.step ActorDb.init chargeAndBill).any (fun s =>
      decide ((s.commands.map Prod.fst).Nodup) &&
        decide ((s.account 1).accountConsumed = 0)) = true := by
    decide +kernel
  have hsound : Meets ActorDb.step ActorDb.Sound ActorDb.init chargeAndBill := by decide +kernel
  obtain ⟨s, hs, hp⟩ := (Option.any_eq_true _ _).mp hrun
  obtain ⟨hid, hreset⟩ := Bool.and_eq_true_iff.mp hp
  exact ⟨s, hs, of_decide_eq_true hreset,
    (consumption_grows hs (of_decide_eq_true hid)).mpr hsound⟩

/-- A charge of -5, up to where its account decides on it. -/
def negativeCharge : List Label :=
  [.execute 1 (.charge 1 10 (-5) false), .router, .card (1, 10)]

/-- **A negative amount** that a station accepts makes a consumption negative. -/
theorem consumption_shrinks :
    ¬ ∀ (ls : List Label) (s : ActorDb), run ActorDb.step ActorDb.init ls = some s →
      (s.commands.map Prod.fst).Nodup →
      (∀ n a c amount off, (n, .charge a c amount off) ∈ s.commands →
        Enters (.charge a c amount off)) →
      Meets ActorDb.step (fun t l => ∀ t', t.step l = some t' → Grows t t' l) ActorDb.init
        ls := by
  intro hall
  have hparse : Station.parseCommand "0 1 10 -5" 1 =
      .ok (⟨0, 1, 10, -5⟩ : Station.ParsedCommand Amount 1) := by decide +kernel
  have henters : Enters (.charge 1 10 (-5) false) := .line "0 1 10 -5" 1 _ false hparse
  have hrun : (run ActorDb.step ActorDb.init negativeCharge).any (fun t =>
      (t.step (.account 1)).any fun s =>
        decide (s.commands = [(1, .charge 1 10 (-5) false)]) &&
          decide ((s.account 1).accountConsumed = -5)) = true := by
    decide +kernel
  obtain ⟨t, ht, hp⟩ := (Option.any_eq_true _ _).mp hrun
  obtain ⟨s, hs, hp⟩ := (Option.any_eq_true _ _).mp hp
  obtain ⟨hcmd, hneg⟩ := Bool.and_eq_true_iff.mp hp
  replace hcmd := of_decide_eq_true hcmd
  have hmeets := hall (negativeCharge ++ [.account 1]) s (run_concat.mpr ⟨t, ht, hs⟩)
    (by rw [hcmd]; decide) (by
      intro n a c amount off hmem
      rw [hcmd, List.mem_singleton] at hmem
      obtain ⟨-, ho⟩ := Prod.mk.inj hmem
      rw [ho]
      exact henters)
  have hgrows := ((meets_concat ht).mp hmeets).2 s hs
  have hpos := hgrows.accounts 1
  rw [of_decide_eq_true hneg] at hpos
  exact absurd hpos (by decide +kernel)

end YpfRuta.Actors
