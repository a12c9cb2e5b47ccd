/-
  Labelled transition systems with a partial step function: runs, reachability,
  the two induction rules every invariant of a run goes through, and what every run
  must end in.
-/
import Mathlib.Data.List.Forall2

namespace YpfRuta.Lib

variable {σ ℓ : Type} (step : σ → ℓ → Option σ)

/-- Run a sequence of labels. `none` when some label is not enabled. -/
def run : σ → List ℓ → Option σ
  | s, [] => some s
  | s, l :: ls => (step s l).bind fun s' => run s' ls

/-- Some sequence of labels leads from `s` to `s'`. -/
def Reaches (s s' : σ) : Prop := ∃ ls, run step s ls = some s'

/-- Every step the run takes starts from a state and a label that meet `C`. -/
def Meets (C : σ → ℓ → Prop) : σ → List ℓ → Prop
  | _, [] => True
  | s, l :: ls => C s l ∧ ∀ s', step s l = some s' → Meets C s' ls

variable {step}

instance Meets.decidable {C : σ → ℓ → Prop} [∀ s l, Decidable (C s l)] :
    ∀ (s : σ) (ls : List ℓ), Decidable (Meets step C s ls)
  | _, [] => isTrue True.intro
  | s, l :: ls =>
    have : Decidable (∀ s', step s l = some s' → Meets step C s' ls) :=
      match h : step s l with
      | none => isTrue (by simp)
      | some s' =>
        have : Decidable (Meets step C s' ls) := Meets.decidable s' ls
        decidable_of_iff (Meets step C s' ls) (by simp)
    inferInstanceAs (Decidable (_ ∧ _))

theorem run_cons {s s'' : σ} {l : ℓ} {ls : List ℓ} :
    run step s (l :: ls) = some s'' ↔ ∃ s', step s l = some s' ∧ run step s' ls = some s'' := by
  simp [run, Option.bind_eq_some_iff]

theorem meets_cons {C : σ → ℓ → Prop} {s s' : σ} {l : ℓ} {ls : List ℓ} (hs : step s l = some s') :
    Meets step C s (l :: ls) ↔ C s l ∧ Meets step C s' ls := by
  simp [Meets, hs]

theorem run_append {s s'' : σ} {ls ms : List ℓ} :
    run step s (ls ++ ms) = some s'' ↔
      ∃ s', run step s ls = some s' ∧ run step s' ms = some s'' := by
  induction ls generalizing s with
  | nil => simp [run]
  | cons l ls ih =>
    simp only [List.cons_append, run_cons, ih]
    constructor
    · rintro ⟨t, ht, s', hs', h⟩
      exact ⟨s', ⟨t, ht, hs'⟩, h⟩
    · rintro ⟨s', ⟨t, ht, hs'⟩, h⟩
      exact ⟨t, ht, s', hs', h⟩

theorem run_concat {s s'' : σ} {ls : List ℓ} {l : ℓ} :
    run step s (ls ++ [l]) = some s'' ↔
      ∃ s', run step s ls = some s' ∧ step s' l = some s'' := by
  rw [run_append]
  simp [run]

theorem meets_append {C : σ → ℓ → Prop} {s s' : σ} {ls ms : List ℓ}
    (hr : run step s ls = some s') :
    Meets step C s (ls ++ ms) ↔ Meets step C s ls ∧ Meets step C s' ms := by
  induction ls generalizing s with
  | nil =>
    obtain rfl : s = s' := by simpa [run] using hr
    simp [Meets]
  | cons l ls ih =>
    obtain ⟨t, ht, hr⟩ := run_cons.mp hr
    simp only [List.cons_append, Meets, ht, Option.some.injEq, forall_eq', ih hr, and_assoc]

theorem meets_concat {C : σ → ℓ → Prop} {s s' : σ} {ls : List ℓ} {l : ℓ}
    (hr : run step s ls = some s') :
    Meets step C s (ls ++ [l]) ↔ Meets step C s ls ∧ C s' l := by
  rw [meets_append hr]
  simp [Meets]

theorem meets_true (s : σ) (ls : List ℓ) : Meets step (fun _ _ => True) s ls := by
  induction ls generalizing s with
  | nil => exact True.intro
  | cons l ls ih => exact ⟨True.intro, fun s' _ => ih s'⟩

/-- Labels that meet a condition in every state. -/
theorem meets_of_always {C : σ → ℓ → Prop} {ls : List ℓ} (h : ∀ l ∈ ls, ∀ s, C s l) (s : σ) :
    Meets step C s ls := by
  induction ls generalizing s with
  | nil => exact True.intro
  | cons l ls ih =>
    exact ⟨h l List.mem_cons_self s,
      fun s' _ => ih (fun m hm => h m (List.mem_cons_of_mem _ hm)) s'⟩

theorem meets_of_forall {C : ℓ → Prop} {ls : List ℓ} (h : ∀ l ∈ ls, C l) (s : σ) :
    Meets step (fun _ l => C l) s ls :=
  meets_of_always (fun l hl _ => h l hl) s

/-- A condition on labels alone is met by the run as a whole or not at all. -/
theorem meets_labels {C : ℓ → Prop} {s s' : σ} {ls : List ℓ} (hr : run step s ls = some s') :
    Meets step (fun _ l => C l) s ls ↔ ∀ l ∈ ls, C l := by
  induction ls generalizing s with
  | nil => exact iff_of_true True.intro fun l hl => by cases hl
  | cons l ls ih =>
    obtain ⟨t, ht, hr⟩ := run_cons.mp hr
    rw [meets_cons ht, ih hr, List.forall_mem_cons]

/-- A run that meets a condition, with labels that all meet another. -/
theorem Meets.and_forall {C : σ → ℓ → Prop} {P : ℓ → Prop} {s : σ} {ls : List ℓ}
    (h : Meets step C s ls) (hls : ∀ l ∈ ls, P l) :
    Meets step (fun s l => C s l ∧ P l) s ls := by
  induction ls generalizing s with
  | nil => exact True.intro
  | cons l ls ih =>
    exact ⟨⟨h.1, hls l List.mem_cons_self⟩,
      fun s' hs => ih (h.2 s' hs) fun m hm => hls m (List.mem_cons_of_mem _ hm)⟩

/-- A condition that follows from one the run meets. -/
theorem Meets.imp {C D : σ → ℓ → Prop} {s : σ} {ls : List ℓ} (h : Meets step C s ls)
    (hls : ∀ l ∈ ls, ∀ s, C s l → D s l) : Meets step D s ls := by
  induction ls generalizing s with
  | nil => exact True.intro
  | cons l ls ih =>
    exact ⟨hls l List.mem_cons_self s h.1,
      fun s' hs => ih (h.2 s' hs) fun m hm => hls m (List.mem_cons_of_mem _ hm)⟩

/-- Induction over the steps of a run, from its start. -/
theorem run_induct {P : σ → Prop} (hstep : ∀ s l s', P s → step s l = some s' → P s')
    {s s' : σ} {ls : List ℓ} (hr : run step s ls = some s') (h : P s) : P s' := by
  induction ls generalizing s with
  | nil =>
    obtain rfl : s = s' := by simpa [run] using hr
    exact h
  | cons l ls ih =>
    obtain ⟨t, ht, hr⟩ := run_cons.mp hr
    exact ih hr (hstep s l t h ht)

/-- Induction over the steps of a run all of whose steps meet `C`. -/
theorem run_induct_meets {C : σ → ℓ → Prop} {P : σ → Prop}
    (hstep : ∀ s l s', P s → C s l → step s l = some s' → P s')
    {s s' : σ} {ls : List ℓ} (hr : run step s ls = some s') (hc : Meets step C s ls)
    (h : P s) : P s' := by
  induction ls generalizing s with
  | nil =>
    obtain rfl : s = s' := by simpa [run] using hr
    exact h
  | cons l ls ih =>
    obtain ⟨t, ht, hr⟩ := run_cons.mp hr
    exact ih hr (hc.2 t ht) (hstep s l t h hc.1 ht)

/-- What does not hold where a run starts but holds where it ends begins to hold at one
    of its steps. -/
theorem exists_change {P : σ → Prop} {s s' : σ} {ls : List ℓ} (hr : run step s ls = some s')
    (h0 : ¬ P s) (h1 : P s') :
    ∃ ks t l t' ms, ls = ks ++ l :: ms ∧ run step s ks = some t ∧ ¬ P t ∧ step t l = some t' ∧
      P t' ∧ run step t' ms = some s' := by
  induction ls generalizing s with
  | nil =>
    obtain rfl : s = s' := by simpa [run] using hr
    exact absurd h1 h0
  | cons l ls ih =>
    obtain ⟨t, ht, hr⟩ := run_cons.mp hr
    by_cases hP : P t
    · exact ⟨[], s, l, t, ls, rfl, rfl, h0, ht, hP, hr⟩
    · obtain ⟨ks, u, m, u', ms, rfl, hks, hu⟩ := ih hr hP
      exact ⟨l :: ks, u, m, u', ms, rfl, run_cons.mpr ⟨t, ht, hks⟩, hu⟩

/-- **Simulation with stuttering.** A step on the way to `s'` is followed by the same step
    or by none: the run is then followed by some of its own steps. -/
theorem run_stutter {τ : Type} {step' : τ → ℓ → Option τ} {R : σ → τ → Prop}
    {s s' : σ} {t : τ} {ls : List ℓ}
    (hstep : ∀ u l u' t, R u t → step u l = some u' → Reaches step u' s' →
      R u' t ∨ ∃ t', step' t l = some t' ∧ R u' t')
    (hr : run step s ls = some s') (h : R s t) :
    ∃ ms t', ms.Sublist ls ∧ run step' t ms = some t' ∧ R s' t' := by
  induction ls generalizing s t with
  | nil =>
    obtain rfl : s = s' := by simpa [run] using hr
    exact ⟨[], t, .slnil, rfl, h⟩
  | cons l ls ih =>
    obtain ⟨u, hu, hr⟩ := run_cons.mp hr
    obtain h' | ⟨t', ht', h'⟩ := hstep s l u t h hu ⟨ls, hr⟩
    · obtain ⟨ms, v, hsub, hms, hv⟩ := ih hr h'
      exact ⟨ms, v, hsub.cons l, hms, hv⟩
    · obtain ⟨ms, v, hsub, hms, hv⟩ := ih hr h'
      exact ⟨l :: ms, v, hsub.cons_cons l, run_cons.mpr ⟨t', ht', hms⟩, hv⟩

/-- **Simulation of another system.** Each step on the way to `s'` is followed by a list of
    steps that matches it, and so is the run. -/
theorem run_simulates {τ μ : Type} {step' : τ → μ → Option τ} {R : σ → τ → Prop}
    {Matches : ℓ → List μ → Prop} {s s' : σ} {t : τ} {ls : List ℓ}
    (hstep : ∀ u l u' t, R u t → step u l = some u' → Reaches step u' s' →
      ∃ ms t', Matches l ms ∧ run step' t ms = some t' ∧ R u' t')
    (hr : run step s ls = some s') (h : R s t) :
    ∃ mss t', List.Forall₂ Matches ls mss ∧ run step' t mss.flatten = some t' ∧ R s' t' := by
  induction ls generalizing s t with
  | nil =>
    obtain rfl : s = s' := by simpa [run] using hr
    exact ⟨[], t, .nil, rfl, h⟩
  | cons l ls ih =>
    obtain ⟨u, hu, hr⟩ := run_cons.mp hr
    obtain ⟨ms, t', hm, hms, h'⟩ := hstep s l u t h hu ⟨ls, hr⟩
    obtain ⟨mss, v, hall, hmss, hv⟩ := ih hr h'
    exact ⟨ms :: mss, v, .cons hm hall, run_append.mpr ⟨t', hms, hmss⟩, hv⟩

/-- An invariant of every step holds of every reachable state. -/
theorem Reaches.induct {P : σ → Prop} (hstep : ∀ s l s', P s → step s l = some s' → P s')
    {s s' : σ} (hr : Reaches step s s') (h : P s) : P s' := by
  obtain ⟨ls, hr⟩ := hr
  exact run_induct hstep hr h

/-- A property that every step keeps exactly when it meets `C` holds all along a run
    exactly when every step of the run meets `C`. -/
theorem holds_along_iff {I P : σ → Prop} {C : σ → ℓ → Prop} {D : ℓ → Prop}
    (hI : ∀ s l s', I s → D l → step s l = some s' → I s')
    (hiff : ∀ s l s', I s → P s → D l → step s l = some s' → (P s' ↔ C s l))
    {s s' : σ} {ls : List ℓ} (hr : run step s ls = some s') (hd : ∀ l ∈ ls, D l) (hi : I s)
    (hp : P s) :
    (∀ ks t, ks <+: ls → run step s ks = some t → P t) ↔ Meets step C s ls := by
  induction ls generalizing s with
  | nil =>
    refine iff_of_true (fun ks t hks ht => ?_) True.intro
    obtain rfl := List.prefix_nil.mp hks
    obtain rfl : s = t := by simpa [run] using ht
    exact hp
  | cons l ls ih =>
    obtain ⟨t, ht, hr⟩ := run_cons.mp hr
    have hdl := hd l List.mem_cons_self
    have hih := fun hpt => ih hr (fun m hm => hd m (List.mem_cons_of_mem _ hm)) (hI s l t hi hdl ht) hpt
    have hstep := hiff s l t hi hp hdl ht
    rw [meets_cons ht]
    constructor
    · intro h
      have hpt : P t := h [l] t (by simp) (by simp [run, ht])
      refine ⟨hstep.mp hpt, (hih hpt).mp fun ks u hks hu => ?_⟩
      exact h (l :: ks) u (List.cons_prefix_cons.mpr ⟨rfl, hks⟩) (run_cons.mpr ⟨t, ht, hu⟩)
    · rintro ⟨hc, hm⟩ ks u hks hu
      cases ks with
      | nil =>
        obtain rfl : s = u := by simpa [run] using hu
        exact hp
      | cons k ks =>
        obtain ⟨rfl, hks'⟩ := List.cons_prefix_cons.mp hks
        obtain ⟨t', ht', hu⟩ := run_cons.mp hu
        obtain rfl : t = t' := Option.some.inj (ht.symm.trans ht')
        exact (hih (hstep.mpr hc)).mpr hm ks u hks' hu

/-- A property that a step loses exactly when it does not meet `C`, and that is never
    regained, holds at the end of a run exactly when every step of the run meets `C`. -/
theorem holds_iff {I P : σ → Prop} {C : σ → ℓ → Prop}
    (hI : ∀ s l s', I s → step s l = some s' → I s')
    (hiff : ∀ s l s', I s → step s l = some s' → (P s' ↔ P s ∧ C s l))
    {s s' : σ} {ls : List ℓ} (hr : run step s ls = some s') (hi : I s) :
    P s' ↔ P s ∧ Meets step C s ls := by
  induction ls generalizing s with
  | nil =>
    obtain rfl : s = s' := by simpa [run] using hr
    exact (and_iff_left True.intro).symm
  | cons l ls ih =>
    obtain ⟨t, ht, hr⟩ := run_cons.mp hr
    rw [ih hr (hI s l t hi ht), hiff s l t hi ht, meets_cons ht, and_assoc]

/-- Two conditions that agree on every step from a state with `I`, which holds as long as
    they are met, are met by the same runs to `s'`. -/
theorem meets_iff {I : σ → Prop} {C D : σ → ℓ → Prop} {s s' : σ} {ls : List ℓ}
    (h : ∀ t l t', I t → step t l = some t' → Reaches step t' s' →
      (C t l ↔ D t l) ∧ (D t l → I t'))
    (hr : run step s ls = some s') (hi : I s) : Meets step C s ls ↔ Meets step D s ls := by
  induction ls generalizing s with
  | nil => exact Iff.rfl
  | cons l ls ih =>
    obtain ⟨t, ht, hr⟩ := run_cons.mp hr
    obtain ⟨hiff, hkeep⟩ := h s l t hi ht ⟨ls, hr⟩
    rw [meets_cons ht, meets_cons ht, hiff]
    exact and_congr_right fun hd => ih hr (hkeep hd)

/-! ## What every run ends in -/

/-- No label of `C` is enabled. -/
def Stuck (step : σ → ℓ → Option σ) (C : ℓ → Prop) (s : σ) : Prop := ∀ l, C l → step s l = none

/-- Whatever labels of `C` are picked, no more than `r` steps are taken before none is
    enabled, and then `Q` holds. -/
inductive Ends (step : σ → ℓ → Option σ) (C : ℓ → Prop) (Q : σ → Prop) : Nat → σ → Prop where
  | here {r : Nat} {s : σ} (hs : Stuck step C s) (hq : Q s) : Ends step C Q r s
  | next {r : Nat} {s : σ} (hl : ∃ l, C l ∧ (step s l).isSome)
      (hs : ∀ l s', C l → step s l = some s' → Ends step C Q r s') : Ends step C Q (r + 1) s

section Ends

variable {C : ℓ → Prop} {Q : σ → Prop}

theorem Ends.mono {r r' : Nat} {s : σ} (h : Ends step C Q r s) (hle : r ≤ r') :
    Ends step C Q r' s := by
  induction h generalizing r' with
  | here hs hq => exact .here hs hq
  | @next r s hl hs ih =>
    obtain ⟨k, rfl⟩ : ∃ k, r' = k + 1 := ⟨r' - 1, by omega⟩
    exact .next hl fun l s' hc hstep => ih l s' hc hstep (by omega)

theorem Ends.imp {Q' : σ → Prop} {r : Nat} {s : σ} (h : Ends step C Q r s)
    (hq : ∀ s', Q s' → Q' s') : Ends step C Q' r s := by
  induction h with
  | here hs h => exact .here hs (hq _ h)
  | next hl hs ih => exact .next hl ih

/-- What every step keeps holds in the end as well. -/
theorem Ends.and_kept {P : σ → Prop} (hP : ∀ s l s', P s → C l → step s l = some s' → P s')
    {r : Nat} {s : σ} (h : Ends step C Q r s) (hp : P s) :
    Ends step C (fun s => Q s ∧ P s) r s := by
  induction h with
  | here hs hq => exact .here hs ⟨hq, hp⟩
  | next hl hs ih => exact .next hl fun l s' hc hstep => ih l s' hc hstep (hP _ l s' hp hc hstep)

/-- **Termination by a measure.** When every step takes the measure down and what is kept
    leads to `Q` where nothing is enabled, every run ends in `Q`. -/
theorem ends_of_measure {P : σ → Prop} {μ : σ → Nat}
    (hstep : ∀ s l s', P s → C l → step s l = some s' → P s' ∧ μ s' + 1 ≤ μ s)
    (hstuck : ∀ s, P s → Stuck step C s → Q s) {s : σ} (h : P s) :
    Ends step C Q (μ s) s := by
  suffices hr : ∀ r s, P s → μ s ≤ r → Ends step C Q r s from hr _ s h (Nat.le_refl _)
  intro r
  induction r with
  | zero =>
    intro s h hle
    have hs : Stuck step C s := fun l hl => by
      cases ht : step s l with
      | none => rfl
      | some t => exact absurd (hstep s l t h hl ht).2 (by omega)
    exact .here hs (hstuck s h hs)
  | succ r ih =>
    intro s h hle
    by_cases hs : Stuck step C s
    · exact .here hs (hstuck s h hs)
    · obtain ⟨l, hl⟩ := not_forall.mp hs
      obtain ⟨hl, hsome⟩ := Classical.not_imp.mp hl
      refine .next ⟨l, hl, Option.isSome_iff_ne_none.mpr hsome⟩ fun m t hm ht => ?_
      obtain ⟨ht', hlt⟩ := hstep s m t h hm ht
      exact ih t ht' (by omega)

/-- A run is no longer than the bound, and what it leads to still ends. -/
theorem Ends.run {r : Nat} {s s' : σ} (h : Ends step C Q r s) {ls : List ℓ} (hls : ∀ l ∈ ls, C l)
    (hr : Lib.run step s ls = some s') : ∃ r', r' + ls.length ≤ r ∧ Ends step C Q r' s' := by
  induction ls generalizing r s with
  | nil =>
    obtain rfl : s = s' := by simpa [Lib.run] using hr
    exact ⟨r, Nat.le_refl r, h⟩
  | cons l ls ih =>
    obtain ⟨t, ht, hr⟩ := run_cons.mp hr
    have hc := hls l List.mem_cons_self
    cases h with
    | here hs hq =>
      rw [hs l hc] at ht
      cases ht
    | next hl hs =>
      obtain ⟨r', hle, h'⟩ := ih (hs l t hc ht) (fun m hm => hls m (List.mem_cons_of_mem _ hm)) hr
      rw [List.length_cons]
      exact ⟨r', by omega, h'⟩

theorem Ends.stuck {r : Nat} {s : σ} (h : Ends step C Q r s) (hs : Stuck step C s) : Q s := by
  cases h with
  | here _ hq => exact hq
  | next hl _ =>
    obtain ⟨l, hc, hsome⟩ := hl
    rw [hs l hc] at hsome
    cases hsome

/-- Some run gets there. -/
theorem Ends.exists_run {r : Nat} {s : σ} (h : Ends step C Q r s) :
    ∃ ls s', (∀ l ∈ ls, C l) ∧ Lib.run step s ls = some s' ∧ Stuck step C s' ∧ Q s' := by
  induction h with
  | @here r s hs hq => exact ⟨[], s, List.forall_mem_nil _, rfl, hs, hq⟩
  | @next r s hl hs ih =>
    obtain ⟨l, hc, hsome⟩ := hl
    obtain ⟨t, ht⟩ := Option.isSome_iff_exists.mp hsome
    obtain ⟨ls, s', hls, hr, hend⟩ := ih l t hc ht
    exact ⟨l :: ls, s', List.forall_mem_cons.mpr ⟨hc, hls⟩, run_cons.mpr ⟨t, ht, hr⟩, hend⟩

/-- A run can go on until none of its labels is enabled. -/
theorem Ends.enabled {r : Nat} {s : σ} (h : Ends step C Q r s) :
    Stuck step C s ∨ ∃ l, C l ∧ (step s l).isSome := by
  cases h with
  | here hs _ => exact .inl hs
  | next hl _ => exact .inr hl

end Ends

end YpfRuta.Lib
