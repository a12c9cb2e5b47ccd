/-
  What the command parser of a station accepts: exactly the lines of four words of which the
  first three are numerals and the first of these names a pump. Every other line is turned
  down with the first thing that is wrong with it.
-/
import YpfRuta.Lib.Words
import YpfRuta.Station.Amount

namespace YpfRuta.Station

open Lib

variable {α : Type} {numPumps : Nat}

theorem splitWhitespace_words (text : String) :
    splitWhitespace text = (words isWhitespace text.toList).map String.ofList := rfl

/-- A text has the words it has when it is trimmed. -/
theorem splitWhitespace_trim (text : String) :
    splitWhitespace (trim text) = splitWhitespace text := by
  have hfront := List.takeWhile_append_dropWhile (p := isWhitespace) (l := text.toList)
  have hback := List.rdropWhile_append_rtakeWhile (p := isWhitespace)
    (l := text.toList.dropWhile isWhitespace)
  have hbefore : ∀ c ∈ text.toList.takeWhile isWhitespace, isWhitespace c = true :=
    fun _ => List.mem_takeWhile_imp
  have hbehind : ∀ c ∈ (text.toList.dropWhile isWhitespace).rtakeWhile isWhitespace,
      isWhitespace c = true := fun _ => List.mem_rtakeWhile_imp
  have htrim : words isWhitespace (trim text).toList = words isWhitespace text.toList := by
    unfold trim
    rw [String.toList_ofList, ← words_append hbehind, hback, ← words_pad hbefore, hfront]
  rw [splitWhitespace_words, htrim, splitWhitespace_words]

/-! ## Numerals -/

/-- What a numeral of 64 bits denotes: digits, behind a plus sign or not. -/
def Numeral (text : List Char) (value : Nat) : Prop :=
  ∃ digits, (text = digits ∨ text = '+' :: digits) ∧ digits ≠ [] ∧
    (∀ c ∈ digits, c.isDigit = true) ∧ digitsValue digits = value ∧ value < 2 ^ 64

/-- The digits of a number, read on from the value of those before them. -/
def readOn (value : Nat) (digits : List Char) : Nat :=
  digits.foldl (fun value c => value * 10 + (c.toNat - '0'.toNat)) value

theorem readOn_cons (value : Nat) (c : Char) (digits : List Char) :
    readOn value (c :: digits) = readOn (value * 10 + (c.toNat - '0'.toNat)) digits := by
  unfold readOn
  rw [List.foldl_cons]

theorem le_readOn (value : Nat) (digits : List Char) : value ≤ readOn value digits := by
  induction digits generalizing value with
  | nil => exact Nat.le_refl value
  | cons c digits ih =>
    rw [readOn_cons]
    have hstep : value ≤ value * 10 + (c.toNat - '0'.toNat) := by omega
    exact Nat.le_trans hstep (ih _)

theorem pushDigit_some {bound value : Nat} {c : Char} (hc : c.isDigit = true)
    (hnext : value * 10 + (c.toNat - '0'.toNat) < bound) :
    pushDigit bound value c = some (value * 10 + (c.toNat - '0'.toNat)) := by
  unfold pushDigit
  rw [if_pos hc]
  exact if_pos hnext

theorem pushDigit_none {bound value : Nat} {c : Char}
    (h : c.isDigit = true → bound ≤ value * 10 + (c.toNat - '0'.toNat)) :
    pushDigit bound value c = none := by
  unfold pushDigit
  by_cases hc : c.isDigit = true
  · rw [if_pos hc]
    exact if_neg (Nat.not_lt.mpr (h hc))
  · exact if_neg hc

/-- Checking every digit on the way is checking the whole number. -/
theorem pushDigits_iff {bound value n : Nat} {digits : List Char} (hvalue : value < bound) :
    digits.foldlM (pushDigit bound) value = some n ↔
      (∀ c ∈ digits, c.isDigit = true) ∧ readOn value digits = n ∧ n < bound := by
  induction digits generalizing value with
  | nil =>
    rw [List.foldlM_nil]
    constructor
    · intro h
      obtain rfl := Option.some.inj h
      exact ⟨fun _ hc => absurd hc List.not_mem_nil, rfl, hvalue⟩
    · rintro ⟨-, rfl, -⟩
      rfl
  | cons c digits ih =>
    rw [List.foldlM_cons, readOn_cons, List.forall_mem_cons, and_assoc]
    by_cases hread : c.isDigit = true ∧ value * 10 + (c.toNat - '0'.toNat) < bound
    · rw [pushDigit_some hread.1 hread.2, Option.bind_eq_bind, Option.bind_some, ih hread.2]
      exact (and_iff_right hread.1).symm
    · rw [pushDigit_none fun hc => Nat.not_lt.mp fun hlt => hread ⟨hc, hlt⟩]
      refine iff_of_false (fun h => by cases h) fun ⟨hc, _, hn, hlt⟩ => hread ⟨hc, ?_⟩
      exact Nat.lt_of_le_of_lt (hn ▸ le_readOn _ digits) hlt

theorem parseUnsigned_iff {text : List Char} {n : Nat} :
    parseUnsigned (String.ofList text) = some n ↔ Numeral text n := by
  have hdigits : ∀ digits : List Char,
      ((if digits = [] then none else digits.foldlM (pushDigit (2 ^ 64)) 0) = some n ↔
        digits ≠ [] ∧ (∀ c ∈ digits, c.isDigit = true) ∧ digitsValue digits = n ∧ n < 2 ^ 64) := by
    intro digits
    rw [Option.ite_none_left_eq_some, pushDigits_iff (by decide)]
    rfl
  unfold parseUnsigned
  rw [String.toList_ofList]
  split
  · next digits =>
    rw [hdigits]
    constructor
    · exact fun h => ⟨digits, .inr rfl, h⟩
    · rintro ⟨digits', rfl | heq, h⟩
      · -- a plus sign is no digit
        exact absurd (h.2.1 '+' List.mem_cons_self) (by decide)
      · rw [(List.cons.inj heq).2]
        exact h
  · next hplus =>
    rw [hdigits]
    constructor
    · exact fun h => ⟨text, .inl rfl, h⟩
    · rintro ⟨digits, rfl | rfl, h⟩
      · exact h
      · exact absurd rfl (hplus digits)

theorem parseUnsigned_none {text : List Char} :
    parseUnsigned (String.ofList text) = none ↔ ∀ n, ¬ Numeral text n := by
  rw [Option.eq_none_iff_forall_ne_some]
  exact forall_congr' fun n => not_congr parseUnsigned_iff

theorem Numeral.toNat {text : List Char} {n : Nat} (h : Numeral text n) :
    Numeral text (UInt64.ofNat n).toNat := by
  obtain ⟨digits, hplus, hne, hdigits, hvalue, hlt⟩ := h
  have hn : (UInt64.ofNat n).toNat = n := UInt64.toNat_ofNat_of_lt' hlt
  exact ⟨digits, hplus, hne, hdigits, hvalue.trans hn.symm, hn.symm ▸ hlt⟩

/-! ## Commands -/

/-- The words of a line denote the parts of a command. -/
structure Denotes [FromStr α] (pump account card amount : List Char)
    (cmd : ParsedCommand α numPumps) : Prop where
  pump : Numeral pump cmd.pumpId
  account : Numeral account cmd.accountId.toNat
  card : Numeral card cmd.cardId.toNat
  amount : FromStr.fromStr (String.ofList amount) = some cmd.amount

def invalid (name : String) (part : List Char) : String :=
  s!"Invalid {name}: '{String.ofList part}'"

/-- The first thing that is wrong with the words of a line, and what the operator is told. -/
inductive Rejected (α : Type) [FromStr α] (numPumps : Nat) : List (List Char) → String → Prop where
  | format {parts : List (List Char)} (hlen : parts.length ≠ 4) :
      Rejected α numPumps parts s!"Invalid command format. Expected: <pump_id> <account_id> <card_id> <amount>, got {parts.length} tokens"
  | pump {pump account card amount : List Char} (hpump : ∀ n, ¬ Numeral pump n) :
      Rejected α numPumps [pump, account, card, amount] (invalid "pump_id" pump)
  | range {pump account card amount : List Char} {n : Nat} (hpump : Numeral pump n)
      (hn : numPumps ≤ n) : Rejected α numPumps [pump, account, card, amount]
        s!"pump_id {n} out of range. Valid range: 0..={numPumps - 1}"
  | account {pump account card amount : List Char} {n : Nat} (hpump : Numeral pump n)
      (hn : n < numPumps) (haccount : ∀ n, ¬ Numeral account n) :
      Rejected α numPumps [pump, account, card, amount] (invalid "account_id" account)
  | card {pump account card amount : List Char} {n a : Nat} (hpump : Numeral pump n)
      (hn : n < numPumps) (haccount : Numeral account a) (hcard : ∀ n, ¬ Numeral card n) :
      Rejected α numPumps [pump, account, card, amount] (invalid "card_id" card)
  | amount {pump account card amount : List Char} {n a c : Nat} (hpump : Numeral pump n)
      (hn : n < numPumps) (haccount : Numeral account a) (hcard : Numeral card c)
      (hamount : FromStr.fromStr (α := α) (String.ofList amount) = none) :
      Rejected α numPumps [pump, account, card, amount] (invalid "amount" amount)

section Parser

variable [FromStr α] {line : String}

omit [FromStr α] in
theorem parsePart_some {β : Type} {parse : String → Option β} {name part : String} {value : β}
    (h : parse part = some value) : parsePart parse name part = .ok value := by
  unfold parsePart
  rw [h]

omit [FromStr α] in
theorem parsePart_none {β : Type} {parse : String → Option β} {name : String} {part : List Char}
    (h : parse (String.ofList part) = none) :
    parsePart parse name (String.ofList part) = .error (invalid name part) := by
  unfold parsePart
  rw [h]
  rfl

theorem parse_trim (text : String) :
    (parseCommand (trim text) numPumps : Except String (ParsedCommand α numPumps)) =
      parseCommand text numPumps := by
  unfold parseCommand
  rw [splitWhitespace_trim]

theorem parse_four {pump account card amount : List Char}
    (h : Spaced isWhitespace [pump, account, card, amount] line.toList) :
    (parseCommand line numPumps : Except String (ParsedCommand α numPumps)) = (do
      let pumpId ← parsePart parseUnsigned "pump_id" (String.ofList pump)
      if h : pumpId < numPumps then
        let accountId ← parsePart parseUnsigned "account_id" (String.ofList account)
        let cardId ← parsePart parseUnsigned "card_id" (String.ofList card)
        let amount ← parsePart FromStr.fromStr "amount" (String.ofList amount)
        .ok {
          pumpId := ⟨pumpId, h⟩
          accountId := UInt64.ofNat accountId
          cardId := UInt64.ofNat cardId
          amount := amount }
      else .error s!"pump_id {pumpId} out of range. Valid range: 0..={numPumps - 1}") := by
  unfold parseCommand
  rw [splitWhitespace_words, h.words_eq]
  rfl

theorem Rejected.parse {parts : List (List Char)} {text : String}
    (h : Spaced isWhitespace parts line.toList) (hr : Rejected α numPumps parts text) :
    (parseCommand line numPumps : Except String (ParsedCommand α numPumps)) = .error text := by
  cases hr with
  | format hlen =>
    unfold parseCommand
    rw [splitWhitespace_words, h.words_eq]
    split
    · next hfour =>
      have hlength := congrArg List.length hfour
      rw [List.length_map] at hlength
      exact absurd hlength hlen
    · rw [List.length_map]
  | pump hpump =>
    rw [parse_four h, parsePart_none (parseUnsigned_none.mpr hpump)]
    rfl
  | range hpump hn =>
    rw [parse_four h, parsePart_some (parseUnsigned_iff.mpr hpump)]
    exact dif_neg (Nat.not_lt.mpr hn)
  | account hpump hn haccount =>
    rw [parse_four h, parsePart_some (parseUnsigned_iff.mpr hpump)]
    refine (dif_pos hn).trans ?_
    rw [parsePart_none (parseUnsigned_none.mpr haccount)]
    rfl
  | card hpump hn haccount hcard =>
    rw [parse_four h, parsePart_some (parseUnsigned_iff.mpr hpump)]
    refine (dif_pos hn).trans ?_
    rw [parsePart_some (parseUnsigned_iff.mpr haccount),
      parsePart_none (parseUnsigned_none.mpr hcard)]
    rfl
  | amount hpump hn haccount hcard hamount =>
    rw [parse_four h, parsePart_some (parseUnsigned_iff.mpr hpump)]
    refine (dif_pos hn).trans ?_
    rw [parsePart_some (parseUnsigned_iff.mpr haccount),
      parsePart_some (parseUnsigned_iff.mpr hcard), parsePart_none hamount]
    rfl

theorem Denotes.parse {pump account card amount : List Char} {cmd : ParsedCommand α numPumps}
    (h : Spaced isWhitespace [pump, account, card, amount] line.toList)
    (hd : Denotes pump account card amount cmd) : parseCommand line numPumps = .ok cmd := by
  rw [parse_four h, parsePart_some (parseUnsigned_iff.mpr hd.pump)]
  refine (dif_pos cmd.pumpId.isLt).trans ?_
  rw [parsePart_some (parseUnsigned_iff.mpr hd.account),
    parsePart_some (parseUnsigned_iff.mpr hd.card), parsePart_some hd.amount]
  show Except.ok (⟨cmd.pumpId, _, _, _⟩ : ParsedCommand α numPumps) = .ok cmd
  rw [UInt64.ofNat_toNat, UInt64.ofNat_toNat]

/-- One of the two is the case. -/
theorem denotes_or_rejected (numPumps : Nat) (parts : List (List Char)) :
    (∃ pump account card amount, parts = [pump, account, card, amount] ∧
      ∃ cmd : ParsedCommand α numPumps, Denotes pump account card amount cmd) ∨
    ∃ text, Rejected α numPumps parts text := by
  by_cases hlen : parts.length = 4
  · obtain ⟨pump, account, card, amount, rfl⟩ := List.length_eq_four.mp hlen
    cases hpump : parseUnsigned (String.ofList pump) with
    | none => exact .inr ⟨_, .pump (parseUnsigned_none.mp hpump)⟩
    | some n =>
      have hpump := parseUnsigned_iff.mp hpump
      by_cases hn : n < numPumps
      · cases haccount : parseUnsigned (String.ofList account) with
        | none => exact .inr ⟨_, .account hpump hn (parseUnsigned_none.mp haccount)⟩
        | some a =>
          have haccount := parseUnsigned_iff.mp haccount
          cases hcard : parseUnsigned (String.ofList card) with
          | none => exact .inr ⟨_, .card hpump hn haccount (parseUnsigned_none.mp hcard)⟩
          | some c =>
            have hcard := parseUnsigned_iff.mp hcard
            cases hamount : FromStr.fromStr (α := α) (String.ofList amount) with
            | none => exact .inr ⟨_, .amount hpump hn haccount hcard hamount⟩
            | some m =>
              refine .inl ⟨pump, account, card, amount, rfl,
                ⟨⟨n, hn⟩, UInt64.ofNat a, UInt64.ofNat c, m⟩, hpump, ?_, ?_, hamount⟩
              · exact haccount.toNat
              · exact hcard.toNat
      · exact .inr ⟨_, .range hpump (Nat.not_lt.mp hn)⟩
  · exact .inr ⟨_, .format hlen⟩

theorem denotes_of_parse {cmd : ParsedCommand α numPumps}
    (h : parseCommand line numPumps = .ok cmd) : ∃ pump account card amount,
      Spaced isWhitespace [pump, account, card, amount] line.toList ∧
      Denotes pump account card amount cmd := by
  have hspaced := words_eq_iff.mp (rfl : words isWhitespace line.toList = _)
  obtain ⟨pump, account, card, amount, hfour, cmd', hd⟩ | ⟨text, hr⟩ :=
    denotes_or_rejected (α := α) numPumps (words isWhitespace line.toList)
  · rw [hfour] at hspaced
    obtain rfl := Except.ok.inj ((hd.parse hspaced).symm.trans h)
    exact ⟨pump, account, card, amount, hspaced, hd⟩
  · rw [hr.parse hspaced] at h
    cases h

theorem rejected_of_parse {text : String}
    (h : (parseCommand line numPumps : Except String (ParsedCommand α numPumps)) = .error text) :
    ∃ parts, Spaced isWhitespace parts line.toList ∧ Rejected α numPumps parts text := by
  have hspaced := words_eq_iff.mp (rfl : words isWhitespace line.toList = _)
  obtain ⟨pump, account, card, amount, hfour, cmd, hd⟩ | ⟨text', hr⟩ :=
    denotes_or_rejected (α := α) numPumps (words isWhitespace line.toList)
  · rw [hfour] at hspaced
    rw [hd.parse hspaced] at h
    cases h
  · obtain rfl := Except.error.inj ((hr.parse hspaced).symm.trans h)
    exact ⟨_, hspaced, hr⟩

/-- **What the command parser accepts.** A line is a command exactly when it consists of four
    words, with white space between and around them, that denote its parts: three unsigned
    numerals of 64 bits, the first the number of a pump, and an amount. Every other line is
    turned down, with the first thing that is wrong with it. -/
theorem parse_exact (line : String) (numPumps : Nat) :
    (∀ cmd : ParsedCommand α numPumps, parseCommand line numPumps = .ok cmd ↔
      ∃ pump account card amount,
        Spaced isWhitespace [pump, account, card, amount] line.toList ∧
        Denotes pump account card amount cmd) ∧
    ∀ text, (parseCommand line numPumps : Except String (ParsedCommand α numPumps)) =
        .error text ↔
      ∃ parts, Spaced isWhitespace parts line.toList ∧ Rejected α numPumps parts text := by
  constructor
  · refine fun cmd => ⟨denotes_of_parse, ?_⟩
    rintro ⟨_, _, _, _, hspaced, hd⟩
    exact hd.parse hspaced
  · refine fun text => ⟨rejected_of_parse, ?_⟩
    rintro ⟨parts, hspaced, hr⟩
    exact hr.parse hspaced

end Parser

end YpfRuta.Station
