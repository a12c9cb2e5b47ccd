/-
  The words of a text: the longest runs without a separator. Taking a text apart is the
  inverse of spacing words out.
-/
import Mathlib.Data.List.Basic

namespace YpfRuta.Lib

variable {α : Type} {sep : α → Bool}

/-- A word has letters, and no separator. -/
structure IsWord (sep : α → Bool) (w : List α) : Prop where
  nonempty : w ≠ []
  letters : ∀ x ∈ w, sep x = false

/-- The words of a text, in order. -/
def words [DecidableEq α] (sep : α → Bool) (text : List α) : List (List α) :=
  (text.splitOnP sep).filter fun w => w ≠ []

theorem splitOnP_letters (text : List α) : ∀ w ∈ text.splitOnP sep, ∀ x ∈ w, sep x = false := by
  induction text with
  | nil =>
    intro w hw x hx
    rw [List.splitOnP_nil, List.mem_singleton] at hw
    rw [hw] at hx
    cases hx
  | cons c text ih =>
    intro w hw x hx
    rw [List.splitOnP_cons_eq_if_modifyHead] at hw
    cases hc : sep c with
    | true =>
      rw [hc, if_pos rfl] at hw
      rcases List.mem_cons.mp hw with rfl | hw
      · cases hx
      · exact ih w hw x hx
    | false =>
      rw [hc, if_neg Bool.false_ne_true] at hw
      cases hsplit : text.splitOnP sep with
      | nil => exact absurd hsplit (List.splitOnP_ne_nil sep text)
      | cons v vs =>
        rw [hsplit] at hw ih
        rcases List.mem_cons.mp hw with rfl | hw
        · rcases List.mem_cons.mp hx with rfl | hx
          · exact hc
          · exact ih v List.mem_cons_self x hx
        · exact ih w (List.mem_cons_of_mem _ hw) x hx

variable [DecidableEq α] {w : List α}

theorem isWord_of_mem {text : List α} (h : w ∈ words sep text) : IsWord sep w := by
  obtain ⟨hmem, hne⟩ := List.mem_filter.mp h
  exact ⟨of_decide_eq_true hne, splitOnP_letters text w hmem⟩

@[simp] theorem words_nil : words sep ([] : List α) = [] := by
  simp [words]

/-- Separators in front of a text do not show. -/
theorem words_sep {c : α} (hc : sep c = true) (text : List α) :
    words sep (c :: text) = words sep text := by
  unfold words
  rw [List.splitOnP_cons_eq_if_modifyHead, hc, if_pos rfl]
  rfl

theorem words_pad {pad : List α} (hpad : ∀ c ∈ pad, sep c = true) (text : List α) :
    words sep (pad ++ text) = words sep text := by
  induction pad with
  | nil => rfl
  | cons c pad ih =>
    rw [List.cons_append, words_sep (hpad c List.mem_cons_self),
      ih fun d hd => hpad d (List.mem_cons_of_mem _ hd)]

/-- A word up to the end of the text. -/
theorem words_last (hw : IsWord sep w) : words sep w = [w] := by
  unfold words
  rw [List.splitOnP_eq_singleton hw.letters]
  simp [hw.nonempty]

/-- A word up to a separator. -/
theorem words_word (hw : IsWord sep w) {c : α} (hc : sep c = true) (text : List α) :
    words sep (w ++ c :: text) = w :: words sep text := by
  unfold words
  rw [List.splitOnP_append_cons_of_forall_mem hw.letters c hc]
  simp [hw.nonempty]

/-! ## Texts of given words -/

/-- A text of these words, with separators between them and around them. -/
inductive Spaced (sep : α → Bool) : List (List α) → List α → Prop where
  | blank {pad : List α} (hpad : ∀ c ∈ pad, sep c = true) : Spaced sep [] pad
  | last {pad w : List α} (hpad : ∀ c ∈ pad, sep c = true) (hw : IsWord sep w) :
      Spaced sep [w] (pad ++ w)
  | word {pad w text : List α} {c : α} {ws : List (List α)} (hpad : ∀ c ∈ pad, sep c = true)
      (hw : IsWord sep w) (hc : sep c = true) (hrest : Spaced sep ws text) :
      Spaced sep (w :: ws) (pad ++ (w ++ c :: text))

theorem Spaced.words_eq {ws : List (List α)} {text : List α} (h : Spaced sep ws text) :
    words sep text = ws := by
  induction h with
  | @blank pad hpad => rw [← List.append_nil pad, words_pad hpad, words_nil]
  | last hpad hw => rw [words_pad hpad, words_last hw]
  | word hpad hw hc hrest ih => rw [words_pad hpad, words_word hw hc, ih]

omit [DecidableEq α] in
theorem Spaced.separator {ws : List (List α)} {text : List α} (h : Spaced sep ws text) {c : α}
    (hc : sep c = true) : Spaced sep ws (c :: text) := by
  have hcons : ∀ {pad : List α}, (∀ d ∈ pad, sep d = true) → ∀ d ∈ c :: pad, sep d = true :=
    fun hpad => List.forall_mem_cons.mpr ⟨hc, hpad⟩
  cases h with
  | blank hpad => exact .blank (hcons hpad)
  | last hpad hw => exact .last (hcons hpad) hw
  | word hpad hw hd hrest => exact .word (hcons hpad) hw hd hrest

omit [DecidableEq α] in
/-- A letter in front of a text starts a word, or is put before the first one. -/
theorem Spaced.letter {ws : List (List α)} {text : List α} (h : Spaced sep ws text) {c : α}
    (hc : sep c = false) : ∃ ws, Spaced sep ws (c :: text) := by
  have hnil : ∀ d ∈ ([] : List α), sep d = true := fun _ hd => absurd hd List.not_mem_nil
  have hone : IsWord sep [c] := ⟨List.cons_ne_nil c [], fun x hx => List.mem_singleton.mp hx ▸ hc⟩
  have hcons : ∀ {w : List α}, IsWord sep w → IsWord sep (c :: w) := fun hw =>
    ⟨List.cons_ne_nil c _, List.forall_mem_cons.mpr ⟨hc, hw.letters⟩⟩
  cases h with
  | blank hpad =>
    cases text with
    | nil => exact ⟨_, .last hnil hone⟩
    | cons d pad =>
      obtain ⟨hd, hpad⟩ := List.forall_mem_cons.mp hpad
      exact ⟨_, .word hnil hone hd (.blank hpad)⟩
  | @last pad w hpad hw =>
    cases pad with
    | nil => exact ⟨_, .last hnil (hcons hw)⟩
    | cons d pad =>
      obtain ⟨hd, hpad⟩ := List.forall_mem_cons.mp hpad
      exact ⟨_, .word hnil hone hd (.last hpad hw)⟩
  | @word pad w text e ws hpad hw he hrest =>
    cases pad with
    | nil => exact ⟨_, .word hnil (hcons hw) he hrest⟩
    | cons d pad =>
      obtain ⟨hd, hpad⟩ := List.forall_mem_cons.mp hpad
      exact ⟨_, .word hnil hone hd (.word hpad hw he hrest)⟩

omit [DecidableEq α] in
/-- Separators behind a text do not show either. -/
theorem Spaced.append {ws : List (List α)} {text pad : List α} (h : Spaced sep ws text)
    (hpad : ∀ c ∈ pad, sep c = true) : Spaced sep ws (text ++ pad) := by
  induction h with
  | blank hblank => exact .blank (List.forall_mem_append.mpr ⟨hblank, hpad⟩)
  | last hfront hw =>
    cases pad with
    | nil =>
      rw [List.append_nil]
      exact .last hfront hw
    | cons c pad =>
      obtain ⟨hc, hpad⟩ := List.forall_mem_cons.mp hpad
      rw [List.append_assoc]
      exact .word hfront hw hc (.blank hpad)
  | word hfront hw hc hrest ih =>
    rw [List.append_assoc, List.append_assoc, List.cons_append]
    exact .word hfront hw hc ih

omit [DecidableEq α] in
theorem exists_spaced (text : List α) : ∃ ws, Spaced sep ws text := by
  induction text with
  | nil => exact ⟨[], .blank fun _ hd => absurd hd List.not_mem_nil⟩
  | cons c text ih =>
    obtain ⟨ws, h⟩ := ih
    cases hc : sep c with
    | true => exact ⟨ws, h.separator hc⟩
    | false => exact h.letter hc

/-- **Taking a text apart** is the inverse of spacing words out. -/
theorem words_eq_iff {ws : List (List α)} {text : List α} :
    words sep text = ws ↔ Spaced sep ws text := by
  refine ⟨fun h => ?_, Spaced.words_eq⟩
  obtain ⟨vs, hvs⟩ := exists_spaced  text
  rw [← h, hvs.words_eq]
  exact hvs

theorem words_append {pad : List α} (hpad : ∀ c ∈ pad, sep c = true) (text : List α) :
    words sep (text ++ pad) = words sep text :=
  ((words_eq_iff.mp rfl).append hpad).words_eq

end YpfRuta.Lib
