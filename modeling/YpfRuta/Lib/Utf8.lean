/-
  Text out of UTF-8 bytes, and what a byte put in front of a text makes of it.
-/
import Mathlib.Data.List.Basic

namespace YpfRuta.Lib

/-- Where a decoder of UTF-8 stops: how many bytes were valid, and how many the
    sequence after them has, unless the input ends inside it. -/
structure Utf8Error where
  validUpTo : Nat
  errorLen : Option Nat
  deriving DecidableEq, Repr

def Utf8Error.text (e : Utf8Error) : String :=
  match e.errorLen with
  | some errorLen =>
    s!"invalid utf-8 sequence of {errorLen} bytes from index {e.validUpTo}"
  | none => s!"incomplete utf-8 byte sequence from index {e.validUpTo}"

/-- Is this byte one of those after a character's first? -/
def isContinuation (b : UInt8) : Bool := 0x80 ≤ b && b ≤ 0xBF

/-- The second bytes a character of three or four bytes may have after its first. -/
def allowedSecond (first second : UInt8) : Bool :=
  if first = 0xE0 then 0xA0 ≤ second && second ≤ 0xBF
  else if first = 0xED then 0x80 ≤ second && second ≤ 0x9F
  else if first = 0xF0 then 0x90 ≤ second && second ≤ 0xBF
  else if first = 0xF4 then 0x80 ≤ second && second ≤ 0x8F
  else isContinuation second

/-- The length of the sequence that starts some bytes, none of whose prefixes is a
    character: none when they end inside it. -/
def invalidLen : List UInt8 → Option Nat
  | [] => none
  | first :: rest =>
    if 0xC2 ≤ first && first ≤ 0xDF then
      match rest with
      | [] => none
      | _ => some 1
    else if 0xE0 ≤ first && first ≤ 0xF4 then
      match rest with
      | [] => none
      | [second] => if allowedSecond first second then none else some 1
      | second :: [third] =>
        if !allowedSecond first second then some 1
        else if !isContinuation third then some 2
        else none
      | second :: third :: _ =>
        if !allowedSecond first second then some 1
        else if !isContinuation third then some 2
        else some 3
    else some 1

/-- The most bytes at the front that are valid. -/
def validUpTo (bytes : List UInt8) : Nat :=
  ((List.range (bytes.length + 1)).reverse.find? fun n =>
    (bytes.take n).toByteArray.validateUTF8).getD 0

def utf8Error (bytes : List UInt8) : Utf8Error :=
  ⟨validUpTo bytes, invalidLen (bytes.drop (validUpTo bytes))⟩

/-- The text some bytes encode. -/
def fromUtf8 (bytes : List UInt8) : Except Utf8Error String :=
  match String.fromUTF8? bytes.toByteArray with
  | some text => .ok text
  | none => .error (utf8Error bytes)

/-- The bytes a text is encoded as. -/
def utf8Bytes (text : String) : List UInt8 := text.toUTF8.data.toList

@[simp] theorem utf8Bytes_toByteArray (text : String) :
    (utf8Bytes text).toByteArray = text.toByteArray := by
  apply ByteArray.ext
  rw [List.data_toByteArray]
  rfl

theorem utf8Bytes_eq_nil {text : String} : utf8Bytes text = [] ↔ text = "" := by
  rw [← List.toByteArray_inj, utf8Bytes_toByteArray, ← String.toByteArray_inj]
  rfl

theorem fromUtf8_of_toByteArray {bytes : List UInt8} {text : String}
    (h : bytes.toByteArray = text.toByteArray) : fromUtf8 bytes = .ok text := by
  unfold fromUtf8 String.fromUTF8?
  rw [h, dif_pos text.isValidUTF8]
  rfl

/-- Reading back a text's bytes gives the text. -/
theorem fromUtf8_utf8Bytes (text : String) : fromUtf8 (utf8Bytes text) = .ok text :=
  fromUtf8_of_toByteArray (utf8Bytes_toByteArray text)

theorem fromUtf8_of_not_valid {bytes : List UInt8} (h : ¬ bytes.toByteArray.IsValidUTF8) :
    fromUtf8 bytes = .error (utf8Error bytes) := by
  unfold fromUtf8 String.fromUTF8?
  rw [dif_neg h]

/-- The one-byte character with a byte's value. -/
def asciiChar (b : UInt8) : Char := Char.ofNat b.toNat

theorem asciiChar_val {b : UInt8} (h : b.toNat < 128) : (asciiChar b).val = b.toUInt32 := by
  have hvalid : b.toNat.isValidChar := Or.inl (by omega)
  unfold asciiChar Char.ofNat
  rw [dif_pos hvalid]
  apply UInt32.toNat_inj.mp
  rfl

theorem asciiChar_bytes {b : UInt8} (h : b.toNat < 128) :
    (String.singleton (asciiChar b)).toByteArray = [b].toByteArray := by
  have hsize : (asciiChar b).utf8Size = 1 := by
    rw [Char.utf8Size_eq_one_iff, asciiChar_val h, UInt32.le_iff_toNat_le, UInt8.toNat_toUInt32]
    exact Nat.le_of_lt_succ h
  have hbyte : (asciiChar b).val.toUInt8 = b := by
    rw [asciiChar_val h, UInt8.toUInt8_toUInt32]
  rw [String.toByteArray_singleton, List.utf8Encode_singleton,
    String.utf8EncodeChar_eq_singleton hsize, hbyte]

/-- A byte below 128 in front of a text is one more character of it. -/
theorem toByteArray_ascii_cons {b : UInt8} (h : b.toNat < 128) (text : String) :
    (b :: utf8Bytes text).toByteArray =
      (String.singleton (asciiChar b) ++ text).toByteArray := by
  rw [String.toByteArray_append, asciiChar_bytes h, ← utf8Bytes_toByteArray text,
    ← List.toByteArray_append]
  rfl

theorem fromUtf8_ascii_cons {b : UInt8} (h : b.toNat < 128) (text : String) :
    fromUtf8 (b :: utf8Bytes text) = .ok (String.singleton (asciiChar b) ++ text) :=
  fromUtf8_of_toByteArray (toByteArray_ascii_cons h text)

theorem utf8Bytes_ascii_append {b : UInt8} (h : b.toNat < 128) (text : String) :
    utf8Bytes (String.singleton (asciiChar b) ++ text) = b :: utf8Bytes text := by
  apply List.toByteArray_inj.mp
  rw [utf8Bytes_toByteArray, toByteArray_ascii_cons h]

/-- The bytes of a character are one below 128, or several of which only the first can
    start a character. -/
theorem utf8EncodeChar_cases (c : Char) :
    (∃ b : UInt8, String.utf8EncodeChar c = [b] ∧ b.toNat < 128) ∨
      ∃ b₀ b₁ rest, String.utf8EncodeChar c = b₀ :: b₁ :: rest ∧ ¬ b₁.IsUTF8FirstByte := by
  by_cases hone : c.utf8Size = 1
  · refine .inl ⟨c.val.toUInt8, String.utf8EncodeChar_eq_singleton hone, ?_⟩
    have hval : c.val.toNat ≤ 127 := UInt32.le_iff_toNat_le.mp (Char.utf8Size_eq_one_iff.mp hone)
    rw [UInt32.toNat_toUInt8]
    omega
  · right
    have hlen := String.length_utf8EncodeChar c
    have hpos := c.utf8Size_pos
    have hsecond : 1 < (String.utf8EncodeChar c).length := by omega
    have hnot : ¬ (String.utf8EncodeChar c)[1].IsUTF8FirstByte := by
      rw [UInt8.isUTF8FirstByte_getElem_utf8EncodeChar]
      exact Nat.one_ne_zero
    match hbytes : String.utf8EncodeChar c with
    | [] => rw [hbytes] at hsecond; cases hsecond
    | [b₀] => rw [hbytes] at hsecond; exact absurd hsecond (Nat.lt_irrefl 1)
    | b₀ :: b₁ :: rest =>
      refine ⟨b₀, b₁, rest, rfl, ?_⟩
      simpa only [hbytes, List.getElem_cons_succ, List.getElem_cons_zero] using hnot

/-- No byte from 128 on can stand in front of a text: the character it would start
    goes on with a byte that no text starts with. -/
theorem fromUtf8_high_cons {b : UInt8} (h : 128 ≤ b.toNat) (text : String) :
    fromUtf8 (b :: utf8Bytes text) = .error (utf8Error (b :: utf8Bytes text)) := by
  apply fromUtf8_of_not_valid
  rintro ⟨chars, hchars⟩
  have hbytes : b :: utf8Bytes text = chars.flatMap String.utf8EncodeChar := by
    rw [← List.toByteArray_inj, hchars]
    rfl
  match chars with
  | [] => cases hbytes
  | c :: chars =>
    rw [List.flatMap_cons] at hbytes
    obtain ⟨b', hc, hlow⟩ | ⟨b₀, b₁, rest, hc, hnot⟩ := utf8EncodeChar_cases c
    · rw [hc] at hbytes
      rw [(List.cons.inj hbytes).1] at h
      omega
    · rw [hc] at hbytes
      have htail : utf8Bytes text = b₁ :: (rest ++ chars.flatMap String.utf8EncodeChar) := by
        simpa using (List.cons.inj hbytes).2
      have hsize : 0 < text.toByteArray.size := by
        rw [← utf8Bytes_toByteArray, htail]
        simp
      have hfirst := text.isValidUTF8.isUTF8FirstByte_getElem_zero hsize
      simp only [← utf8Bytes_toByteArray, htail] at hfirst
      exact hnot (by simpa using hfirst)

end YpfRuta.Lib
