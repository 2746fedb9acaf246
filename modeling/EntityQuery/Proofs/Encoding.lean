import EntityQuery.Text.Utf8
import Mathlib.Data.List.Basic

/-!
# Encodings of texts

The bytes of a text are those of its characters, one after the other. What the bytes of a
character may be is said by ranges (`Utf8.Encoding`), as they are read: the lead byte says
how many there are, it may narrow the range of the second, and all others only continue.
These are the encodings of characters (`Utf8.encoding_utf8EncodeChar`) and no others
(`Utf8.Encoding.exists_char`): there is none that is cut off, longer than it has to be, of a
surrogate or beyond the last character.

So bytes without a fault are the bytes of a text, and bytes with one are the bytes of none
(`Utf8.firstFault_eq_none_iff`).
-/

namespace EntityQuery.Text.Utf8

/-- The bytes of a character, by the ranges that they are read by. -/
inductive Encoding : List UInt8 → Prop
  | one {lead : UInt8} : width lead = some 1 → Encoding [lead]
  | two {lead b : UInt8} : width lead = some 2 → fitsSecond lead b = true → Encoding [lead, b]
  | three {lead b₁ b₂ : UInt8} : width lead = some 3 → fitsSecond lead b₁ = true →
    isContinuation b₂ = true → Encoding [lead, b₁, b₂]
  | four {lead b₁ b₂ b₃ : UInt8} : width lead = some 4 → fitsSecond lead b₁ = true →
    isContinuation b₂ = true → isContinuation b₃ = true → Encoding [lead, b₁, b₂, b₃]

variable {lead b : UInt8} {index : Nat}

/-! ## Ranges -/

theorem isContinuation_iff : isContinuation b = true ↔ 0x80 ≤ b.toNat ∧ b.toNat ≤ 0xBF := by
  simp [isContinuation, UInt8.le_iff_toNat_le]

theorem fitsSecond_iff : fitsSecond lead b = true ↔
    0x80 ≤ b.toNat ∧ b.toNat ≤ 0xBF ∧ (lead.toNat = 0xE0 → 0xA0 ≤ b.toNat) ∧
      (lead.toNat = 0xED → b.toNat ≤ 0x9F) ∧ (lead.toNat = 0xF0 → 0x90 ≤ b.toNat) ∧
      (lead.toNat = 0xF4 → b.toNat ≤ 0x8F) := by
  simp only [fitsSecond, beq_iff_eq, ← UInt8.toNat_inj, UInt8.reduceToNat]
  split_ifs <;>
    simp only [isContinuation, Bool.and_eq_true, decide_eq_true_eq, UInt8.le_iff_toNat_le,
      UInt8.reduceToNat] <;>
    omega

theorem width_iff {n : Nat} : width lead = some n ↔
    n = 1 ∧ lead.toNat ≤ 0x7F ∨ n = 2 ∧ 0xC2 ≤ lead.toNat ∧ lead.toNat ≤ 0xDF ∨
      n = 3 ∧ 0xE0 ≤ lead.toNat ∧ lead.toNat ≤ 0xEF ∨
      n = 4 ∧ 0xF0 ≤ lead.toNat ∧ lead.toNat ≤ 0xF4 := by
  simp only [width, Bool.and_eq_true, decide_eq_true_eq, UInt8.le_iff_toNat_le,
    UInt8.reduceToNat]
  split_ifs <;> grind

theorem width_one : width lead = some 1 ↔ lead.toNat ≤ 0x7F := by simp [width_iff]

theorem width_two : width lead = some 2 ↔ 0xC2 ≤ lead.toNat ∧ lead.toNat ≤ 0xDF := by
  simp [width_iff]

theorem width_three : width lead = some 3 ↔ 0xE0 ≤ lead.toNat ∧ lead.toNat ≤ 0xEF := by
  simp [width_iff]

theorem width_four : width lead = some 4 ↔ 0xF0 ≤ lead.toNat ∧ lead.toNat ≤ 0xF4 := by
  simp [width_iff]

/-! ## Characters -/

theorem ofNat_eq_iff {n : Nat} : UInt8.ofNat n = b ↔ n % 256 = b.toNat := by
  rw [← UInt8.toNat_inj, UInt8.toNat_ofNat']

/-- There is a character for each number that is none of a surrogate and not too large. -/
theorem exists_val_eq {n : Nat} (h : n < 0xD800 ∨ 0xDFFF < n ∧ n < 0x110000) :
    ∃ c : Char, c.val.toNat = n :=
  ⟨.ofNatAux n h, rfl⟩

/-- The bytes in the ranges are the encodings of characters. -/
theorem Encoding.exists_char {bytes : List UInt8} (h : Encoding bytes) :
    ∃ c, String.utf8EncodeChar c = bytes := by
  -- The number of the character is what the bytes say beyond the least of their ranges.
  cases h with
  | @one a ha =>
    rw [width_one] at ha
    obtain ⟨c, hc⟩ := exists_val_eq (n := a.toNat) (by omega)
    refine ⟨c, ?_⟩
    rw [String.utf8EncodeChar, hc, if_pos ha, List.cons.injEq, ofNat_eq_iff]
    exact ⟨by omega, rfl⟩
  | @two a b ha hb =>
    rw [width_two] at ha
    rw [fitsSecond_iff] at hb
    obtain ⟨c, hc⟩ := exists_val_eq (n := (a.toNat - 0xC0) * 64 + (b.toNat - 0x80)) (by omega)
    refine ⟨c, ?_⟩
    rw [String.utf8EncodeChar, hc, if_neg (by omega), if_pos (by omega)]
    simp only [List.cons.injEq, ofNat_eq_iff, and_true]
    exact ⟨by omega, by omega⟩
  | @three a b₁ b₂ ha hb₁ hb₂ =>
    rw [width_three] at ha
    rw [fitsSecond_iff] at hb₁
    rw [isContinuation_iff] at hb₂
    obtain ⟨c, hc⟩ := exists_val_eq
      (n := (a.toNat - 0xE0) * 4096 + (b₁.toNat - 0x80) * 64 + (b₂.toNat - 0x80)) (by omega)
    refine ⟨c, ?_⟩
    rw [String.utf8EncodeChar, hc, if_neg (by omega), if_neg (by omega), if_pos (by omega)]
    simp only [List.cons.injEq, ofNat_eq_iff, and_true]
    exact ⟨by omega, by omega, by omega⟩
  | @four a b₁ b₂ b₃ ha hb₁ hb₂ hb₃ =>
    rw [width_four] at ha
    rw [fitsSecond_iff] at hb₁
    rw [isContinuation_iff] at hb₂ hb₃
    obtain ⟨c, hc⟩ := exists_val_eq (n := (a.toNat - 0xF0) * 262144 + (b₁.toNat - 0x80) * 4096 +
      (b₂.toNat - 0x80) * 64 + (b₃.toNat - 0x80)) (by omega)
    refine ⟨c, ?_⟩
    rw [String.utf8EncodeChar, hc, if_neg (by omega), if_neg (by omega), if_neg (by omega)]
    simp only [List.cons.injEq, ofNat_eq_iff, and_true]
    exact ⟨by omega, by omega, by omega, by omega⟩

/-- The encodings of characters are in the ranges. -/
theorem encoding_utf8EncodeChar (c : Char) : Encoding (String.utf8EncodeChar c) := by
  have hc : c.val.toNat < 0xD800 ∨ 0xDFFF < c.val.toNat ∧ c.val.toNat < 0x110000 := c.valid
  fun_cases String.utf8EncodeChar c with
  | case1 v h =>
    refine .one (width_one.2 ?_)
    rw [UInt8.toNat_ofNat']
    omega
  | case2 v h =>
    refine .two (width_two.2 ?_) (fitsSecond_iff.2 ?_) <;> simp only [UInt8.toNat_ofNat'] <;> omega
  | case3 =>
    refine .three (width_three.2 ?_) (fitsSecond_iff.2 ?_) (isContinuation_iff.2 ?_) <;>
      simp only [UInt8.toNat_ofNat'] <;> omega
  | case4 =>
    refine .four (width_four.2 ?_) (fitsSecond_iff.2 ?_) (isContinuation_iff.2 ?_)
      (isContinuation_iff.2 ?_) <;> simp only [UInt8.toNat_ofNat'] <;> omega

/-! ## Faults -/

theorem encoding_one_iff : Encoding [lead] ↔ width lead = some 1 :=
  ⟨fun | .one h => h, .one⟩

theorem encoding_two_iff : Encoding [lead, b] ↔ width lead = some 2 ∧ fitsSecond lead b = true :=
  ⟨fun | .two h h₁ => ⟨h, h₁⟩, fun ⟨h, h₁⟩ => .two h h₁⟩

theorem encoding_three_iff {b₁ b₂ : UInt8} : Encoding [lead, b₁, b₂] ↔
    width lead = some 3 ∧ fitsSecond lead b₁ = true ∧ isContinuation b₂ = true :=
  ⟨fun | .three h h₁ h₂ => ⟨h, h₁, h₂⟩, fun ⟨h, h₁, h₂⟩ => .three h h₁ h₂⟩

theorem encoding_four_iff {b₁ b₂ b₃ : UInt8} : Encoding [lead, b₁, b₂, b₃] ↔
    width lead = some 4 ∧ fitsSecond lead b₁ = true ∧ isContinuation b₂ = true ∧
      isContinuation b₃ = true :=
  ⟨fun | .four h h₁ h₂ h₃ => ⟨h, h₁, h₂, h₃⟩, fun ⟨h, h₁, h₂, h₃⟩ => .four h h₁ h₂ h₃⟩

/-- The lead byte says how many bytes a character has. -/
theorem Encoding.width_eq {tail : List UInt8} (h : Encoding (lead :: tail)) :
    width lead = some (tail.length + 1) := by
  cases h with
  | one h | two h | three h | four h => exact h

theorem ite_some_eq_none_iff {p : Prop} [Decidable p] {fault : Option Utf8Fault}
    {other : Utf8Fault} : (if p then fault else some other) = none ↔ p ∧ fault = none := by
  split <;> simp [*]

/-- A character has no fault exactly if as many bytes as it has are in the ranges. -/
theorem faultAt_eq_none_iff {rest : List UInt8} : faultAt index lead rest = none ↔
    Encoding (lead :: rest.take ((width lead).getD 1 - 1)) := by
  cases hwidth : width lead with
  | none => simp [faultAt, hwidth, encoding_one_iff]
  | some n =>
    obtain ⟨rfl, -⟩ | ⟨rfl, -⟩ | ⟨rfl, -⟩ | ⟨rfl, -⟩ := width_iff.1 hwidth
    · simp [faultAt, hwidth, encoding_one_iff]
    · rcases rest with _ | ⟨b, rest⟩
      · simp [faultAt, hwidth, encoding_one_iff]
      · simp [faultAt, hwidth, encoding_two_iff, faultWithin]
    · rcases rest with _ | ⟨b₁, _ | ⟨b₂, rest⟩⟩
      · simp [faultAt, hwidth, encoding_one_iff]
      · simp [faultAt, hwidth, encoding_two_iff, faultWithin, ite_some_eq_none_iff]
      · simp [faultAt, hwidth, encoding_three_iff, faultWithin, ite_some_eq_none_iff]
    · rcases rest with _ | ⟨b₁, _ | ⟨b₂, _ | ⟨b₃, rest⟩⟩⟩
      · simp [faultAt, hwidth, encoding_one_iff]
      · simp [faultAt, hwidth, encoding_two_iff, faultWithin, ite_some_eq_none_iff]
      · simp [faultAt, hwidth, encoding_three_iff, faultWithin, ite_some_eq_none_iff]
      · simp [faultAt, hwidth, encoding_four_iff, faultWithin, ite_some_eq_none_iff]

/-- Bytes without a fault are those of characters, one after the other. -/
theorem firstFaultFrom_eq_none_iff {bytes : List UInt8} : firstFaultFrom index bytes = none ↔
    ∃ cs : List Char, bytes = cs.flatMap String.utf8EncodeChar := by
  constructor
  · intro h
    -- Each step takes a character off, with as many bytes as its lead byte says.
    fun_induction firstFaultFrom index bytes with
    | case1 => exact ⟨[], rfl⟩
    | case2 => cases h
    | case3 index lead rest hfault n ih =>
      obtain ⟨cs, hcs⟩ := ih h
      obtain ⟨c, hc⟩ := (faultAt_eq_none_iff.1 hfault).exists_char
      refine ⟨c :: cs, ?_⟩
      rw [List.flatMap_cons, hc, ← hcs, List.cons_append, List.take_append_drop]
  · rintro ⟨cs, rfl⟩
    induction cs generalizing index with
    | nil => simp [firstFaultFrom]
    | cons c cs ih =>
      have hc := encoding_utf8EncodeChar c
      have hne : String.utf8EncodeChar c ≠ [] := String.utf8EncodeChar_ne_nil
      obtain ⟨lead, tail, htail⟩ := List.exists_cons_of_ne_nil hne
      rw [htail] at hc
      have htake : (tail ++ cs.flatMap String.utf8EncodeChar).take
          ((width lead).getD 1 - 1) = tail := by
        rw [hc.width_eq, Option.getD_some, Nat.add_sub_cancel, List.take_left]
      have hfault : faultAt index lead (tail ++ cs.flatMap String.utf8EncodeChar) = none := by
        rw [faultAt_eq_none_iff, htake]
        exact hc
      rw [List.flatMap_cons, htail, List.cons_append, firstFaultFrom, hfault]
      simp only [hc.width_eq, Option.getD_some, Nat.add_sub_cancel, List.drop_left]
      exact ih

/-! ## Arrays of bytes -/

theorem toList_loop (bytes : ByteArray) (i : Nat) (read : List UInt8) :
    ByteArray.toList.loop bytes i read = read.reverse ++ bytes.data.toList.drop i := by
  fun_induction ByteArray.toList.loop bytes i read with
  | case1 i read h ih =>
    have hi : i < bytes.data.toList.length := h
    have hget : bytes.get! i = bytes.data.toList[i] := getElem!_pos bytes.data i h
    rw [ih, List.drop_eq_getElem_cons hi, List.reverse_cons, List.append_assoc, hget,
      List.singleton_append]
  | case2 i read h =>
    rw [List.drop_eq_nil_of_le (Nat.le_of_not_lt h), List.append_nil]

/-- An array is made of its bytes. -/
theorem toList_eq_iff {bytes : ByteArray} {l : List UInt8} :
    bytes.toList = l ↔ bytes = l.toByteArray := by
  rw [show bytes.toList = bytes.data.toList from toList_loop bytes 0 []]
  constructor
  · rintro rfl
    exact ByteArray.ext (Array.toList_inj.1 List.toList_data_toByteArray.symm)
  · rintro rfl
    exact List.toList_data_toByteArray

/-- The bytes without a fault are those of the texts. -/
theorem firstFault_eq_none_iff {bytes : ByteArray} :
    firstFault bytes = none ↔ ∃ s : String, s.toUTF8 = bytes := by
  simp only [firstFault, firstFaultFrom_eq_none_iff, toList_eq_iff]
  constructor
  · rintro ⟨cs, rfl⟩
    exact ⟨.ofList cs, rfl⟩
  · rintro ⟨s, rfl⟩
    obtain ⟨cs, hcs⟩ := s.isValidUTF8
    exact ⟨cs, hcs⟩

/-- The bytes of no text: cut off, longer than they have to be, of a surrogate, and beyond the
    last character. -/
example : [[0xE2, 0x82], [0xC0, 0x80], [0xED, 0xA0, 0x80], [0xF4, 0x90, 0x80, 0x80]].map
    (firstFaultFrom 0) = [some (.incomplete 0), some (.invalid 1 0), some (.invalid 1 0),
      some (.invalid 1 0)] := by
  decide +kernel

end EntityQuery.Text.Utf8
