import EntityQuery.Proofs.ExactValue
import EntityQuery.Value.Coercion

/-!
# What values denote

A value of any type may denote an integer (`Value.Denotes`): a truth value, an integer of
either width, a number by its exact value, and a text that spells one in decimal, between
blanks. A value denotes at most one integer (`Value.Denotes.unique`).

Coercion to an integer type is exact (`Value.coerce_exact`): it gives the integer that is
denoted, where there is one and the type has it, and nothing otherwise. The text of an
integer denotes it, so that the way to a text and back changes nothing.
-/

namespace EntityQuery

/-! ## Blanks -/

namespace Text

/-- All characters are blanks. -/
def Blank (cs : List Char) : Prop := ∀ c ∈ cs, isBlank c = true

/-- A text has no blank at either end. -/
def Trimmed (cs : List Char) : Prop :=
  (∀ c ∈ cs.head?, isBlank c = false) ∧ ∀ c ∈ cs.getLast?, isBlank c = false

/-- What a text has between blanks is left of it, if that neither starts nor ends with one. -/
theorem trimChars_of_trimmed {before core after : List Char} (hbefore : Blank before)
    (hafter : Blank after) (hne : core ≠ []) (hcore : Trimmed core) :
    trimChars (before ++ (core ++ after)) = core := by
  have hstart : trimStart (before ++ (core ++ after)) = core ++ after := by
    obtain ⟨c, cs, rfl⟩ := List.exists_cons_of_ne_nil hne
    rw [trimStart, List.dropWhile_append_of_pos hbefore]
    exact trimStart_of_head (hcore.1 c rfl)
  have hend : trimStart (core ++ after).reverse = core.reverse := by
    obtain ⟨c, cs, hc⟩ := List.exists_cons_of_ne_nil (mt List.reverse_eq_nil_iff.1 hne)
    have hlast : c ∈ core.getLast? := by rw [← List.head?_reverse, hc]; rfl
    rw [trimStart, List.reverse_append,
      List.dropWhile_append_of_pos fun a ha => hafter a (List.mem_reverse.1 ha), hc]
    exact trimStart_of_head (hcore.2 c hlast)
  rw [trimChars, hstart, hend, List.reverse_reverse]

/-- So it is if that has no blank at all. -/
theorem trimChars_of_blank {before core after : List Char} (hbefore : Blank before)
    (hafter : Blank after) (hne : core ≠ []) (hcore : ∀ c ∈ core, isBlank c = false) :
    trimChars (before ++ (core ++ after)) = core :=
  trimChars_of_trimmed hbefore hafter hne
    ⟨fun c hc => hcore c (List.mem_of_mem_head? hc),
      fun c hc => hcore c (List.mem_of_mem_getLast? hc)⟩

theorem blank_takeWhile (cs : List Char) : Blank (cs.takeWhile isBlank) :=
  List.all_eq_true.1 List.all_takeWhile

/-- What is trimmed off a text are blanks. -/
theorem exists_blank_trimChars (cs : List Char) :
    ∃ before after, Blank before ∧ Blank after ∧ cs = before ++ (trimChars cs ++ after) := by
  refine ⟨cs.takeWhile isBlank, ((trimStart cs).reverse.takeWhile isBlank).reverse,
    blank_takeWhile _, fun c hc => blank_takeWhile _ c (List.mem_reverse.1 hc), ?_⟩
  rw [trimChars, ← List.reverse_append, trimStart, trimStart, List.takeWhile_append_dropWhile,
    List.reverse_reverse, List.takeWhile_append_dropWhile]

/-! ## Decimal texts -/

/-- Decimal digits, at least one. -/
def Digits (cs : List Char) : Prop := cs ≠ [] ∧ ∀ c ∈ cs, c.isDigit = true

/-- A text spells an integer: in decimal, after at most one sign. -/
inductive Spells : List Char → ℤ → Prop
  | bare {cs : List Char} (h : Digits cs) : Spells cs (Nat.ofDigitChars 10 cs 0)
  | plus {cs : List Char} (h : Digits cs) : Spells ('+' :: cs) (Nat.ofDigitChars 10 cs 0)
  | minus {cs : List Char} (h : Digits cs) : Spells ('-' :: cs) (-Nat.ofDigitChars 10 cs 0)

variable {cs : List Char} {n : ℤ}

theorem isBlank_of_isDigit {c : Char} (h : c.isDigit = true) : isBlank c = false := by
  simp only [Char.isDigit, Bool.and_eq_true, decide_eq_true_eq, ge_iff_le, UInt32.le_iff_toNat_le]
    at h
  simp only [isBlank, Char.toNat]
  grind

theorem Spells.ne_nil (h : Spells cs n) : cs ≠ [] := by
  rcases h with h | - | -
  · exact h.1
  · exact List.cons_ne_nil _ _
  · exact List.cons_ne_nil _ _

theorem Spells.isBlank_eq_false (h : Spells cs n) : ∀ c ∈ cs, isBlank c = false := by
  have hdigits {ds : List Char} (hds : Digits ds) (c : Char) (hc : c ∈ ds) :=
    isBlank_of_isDigit (hds.2 c hc)
  rcases h with h | h | h
  · exact hdigits h
  · exact List.forall_mem_cons.2 ⟨by decide, hdigits h⟩
  · exact List.forall_mem_cons.2 ⟨by decide, hdigits h⟩

theorem readDigits?_of_digits (h : Digits cs) :
    readDigits? cs = some (Nat.ofDigitChars 10 cs 0) :=
  readDigits?_eq_some_iff.2 ⟨h.1, h.2, rfl⟩

theorem digits_of_readDigits? {k : ℕ} (h : readDigits? cs = some k) :
    Digits cs ∧ Nat.ofDigitChars 10 cs 0 = k := by
  obtain ⟨hne, hdigits, hvalue⟩ := readDigits?_eq_some_iff.1 h
  exact ⟨⟨hne, hdigits⟩, hvalue⟩

theorem takeSign_of_digits (h : Digits cs) : takeSign cs = (false, cs) := by
  obtain ⟨hne, hdigits⟩ := h
  obtain ⟨c, cs, rfl⟩ := List.exists_cons_of_ne_nil hne
  have hc := hdigits c List.mem_cons_self
  rw [takeSign]
  · rintro _ ⟨⟩
    cases hc
  · rintro _ ⟨⟩
    cases hc

/-- What a text is after its sign. -/
theorem takeSign_cases (cs : List Char) :
    (∃ rest, cs = '-' :: rest ∧ takeSign cs = (true, rest)) ∨
      (∃ rest, cs = '+' :: rest ∧ takeSign cs = (false, rest)) ∨ takeSign cs = (false, cs) := by
  unfold takeSign
  split
  · exact .inl ⟨_, rfl, rfl⟩
  · exact .inr (.inl ⟨_, rfl, rfl⟩)
  · exact .inr (.inr rfl)

/-- The texts that are read are those that spell an integer. -/
theorem readInteger?_eq_some_iff_spells : readInteger? cs = some n ↔ Spells cs n := by
  rw [readInteger?_eq_some_iff]
  constructor
  · rintro ⟨k, hk, rfl⟩
    obtain ⟨rest, rfl, hsign⟩ | ⟨rest, rfl, hsign⟩ | hsign := takeSign_cases cs <;>
      rw [hsign] at hk ⊢ <;> obtain ⟨hdigits, rfl⟩ := digits_of_readDigits? hk
    · exact .minus hdigits
    · exact .plus hdigits
    · exact .bare hdigits
  · rintro (h | h | h)
    · rw [takeSign_of_digits h]
      exact ⟨_, readDigits?_of_digits h, rfl⟩
    · exact ⟨_, readDigits?_of_digits h, rfl⟩
    · exact ⟨_, readDigits?_of_digits h, rfl⟩

/-- The text of an integer spells it. -/
theorem spells_toString (n : ℤ) : Spells (toString n).toList n := by
  have hdigits (k : ℕ) : Digits k.repr.toList ∧ Nat.ofDigitChars 10 k.repr.toList 0 = k := by
    rw [Nat.toList_repr]
    exact ⟨⟨Nat.toDigits_ne_nil,
      fun c hc => Nat.isDigit_of_mem_toDigits (by decide) (by decide) hc⟩,
      Nat.ofDigitChars_ten_toDigits⟩
  rcases n with k | k
  · have hspells := Spells.bare (hdigits k).1
    rwa [(hdigits k).2] at hspells
  · have hspells := Spells.minus (hdigits (k + 1)).1
    rw [(hdigits (k + 1)).2] at hspells
    rw [show (toString (Int.negSucc k)).toList = '-' :: (k + 1).repr.toList from
      String.toList_append]
    exact hspells

end Text

/-! ## The integer that a value denotes -/

/-- A value denotes an integer. -/
inductive Value.Denotes : Value → ℤ → Prop
  | no : Denotes (.bool false) 0
  | yes : Denotes (.bool true) 1
  | int32 (n : Int32) : Denotes (.int32 n) n.toInt
  | int64 (n : Int64) : Denotes (.int64 n) n.toInt
  | float64 {x : Binary64} {n : ℤ} (hfinite : x.isFinite = true) (hvalue : x.value = n) :
      Denotes (.float64 x) n
  | string {s : String} {before core after : List Char} {n : ℤ}
      (hs : s.toList = before ++ (core ++ after)) (hbefore : Text.Blank before)
      (hafter : Text.Blank after) (hcore : Text.Spells core n) : Denotes (.string s) n

namespace Value

variable {v w : Value} {n : ℤ} {s : String}

theorem readInt?_eq_some_iff : readInt? s = some n ↔ (string s).Denotes n := by
  rw [readInt?, Text.trim, String.toList_ofList, Text.readInteger?_eq_some_iff_spells]
  constructor
  · intro h
    obtain ⟨before, after, hbefore, hafter, hs⟩ := Text.exists_blank_trimChars s.toList
    exact .string hs hbefore hafter h
  · rintro (- | - | - | - | - | ⟨hs, hbefore, hafter, hcore⟩)
    rwa [hs, Text.trimChars_of_blank hbefore hafter hcore.ne_nil hcore.isBlank_eq_false]

theorem denoted?_eq_some_iff : v.denoted? = some n ↔ v.Denotes n := by
  rcases v with - | b | k | k | x | s | b
  · exact ⟨nofun, nofun⟩
  · rcases b with - | -
    · exact ⟨by rintro ⟨⟩; exact .no, by rintro ⟨⟩; rfl⟩
    · exact ⟨by rintro ⟨⟩; exact .yes, by rintro ⟨⟩; rfl⟩
  · exact ⟨by rintro ⟨⟩; exact .int32 k, by rintro ⟨⟩; rfl⟩
  · exact ⟨by rintro ⟨⟩; exact .int64 k, by rintro ⟨⟩; rfl⟩
  · rw [denoted?, Binary64.toInt?_eq_some_iff]
    exact ⟨fun h => .float64 h.1 h.2,
      by rintro (- | - | - | - | ⟨hfinite, hvalue⟩); exact ⟨hfinite, hvalue⟩⟩
  · exact readInt?_eq_some_iff
  · exact ⟨nofun, nofun⟩

/-- A value denotes at most one integer. -/
theorem Denotes.unique {m : ℤ} (hm : v.Denotes m) (hn : v.Denotes n) : m = n := by
  rw [← denoted?_eq_some_iff] at hm hn
  exact Option.some.inj (hm.symm.trans hn)

theorem denotes_toString (n : ℤ) : (string (toString n)).Denotes n := by
  have hs : (toString n).toList = [] ++ ((toString n).toList ++ []) := by simp
  exact .string hs nofun nofun (Text.spells_toString n)

/-! ## Coercion to integers -/

theorem int32?_eq_some_iff :
    int32? n = some w ↔ -2 ^ 31 ≤ n ∧ n < 2 ^ 31 ∧ w = .int32 (.ofInt n) := by
  have hmin : Int32.minValue.toInt = -2 ^ 31 := rfl
  have hmax : Int32.maxValue.toInt = 2 ^ 31 - 1 := rfl
  rw [int32?, Option.ite_none_right_eq_some, hmin, hmax, Int.le_sub_one_iff, and_assoc,
    Option.some.injEq, eq_comm (a := w)]

theorem int64?_eq_some_iff :
    int64? n = some w ↔ -2 ^ 63 ≤ n ∧ n < 2 ^ 63 ∧ w = .int64 (.ofInt n) := by
  have hmin : Int64.minValue.toInt = -2 ^ 63 := rfl
  have hmax : Int64.maxValue.toInt = 2 ^ 63 - 1 := rfl
  rw [int64?, Option.ite_none_right_eq_some, hmin, hmax, Int.le_sub_one_iff, and_assoc,
    Option.some.injEq, eq_comm (a := w)]

theorem toInt32_eq_ok_iff :
    v.toInt32 = .ok w ↔ ∃ n, v.Denotes n ∧ -2 ^ 31 ≤ n ∧ n < 2 ^ 31 ∧ w = .int32 (.ofInt n) := by
  simp only [toInt32, orReason_eq_ok_iff, Option.bind_eq_some_iff, denoted?_eq_some_iff,
    int32?_eq_some_iff]

theorem toInt64_eq_ok_iff :
    v.toInt64 = .ok w ↔ ∃ n, v.Denotes n ∧ -2 ^ 63 ≤ n ∧ n < 2 ^ 63 ∧ w = .int64 (.ofInt n) := by
  simp only [toInt64, orReason_eq_ok_iff, Option.bind_eq_some_iff, denoted?_eq_some_iff,
    int64?_eq_some_iff]

/-- An integer that has the width already is what it is converted to. -/
theorem toInt32_int32 (k : Int32) : (int32 k).toInt32 = .ok (int32 k) :=
  toInt32_eq_ok_iff.2 ⟨k.toInt, .int32 k, k.le_toInt, k.toInt_lt, by rw [Int32.ofInt_toInt]⟩

theorem toInt64_int64 (k : Int64) : (int64 k).toInt64 = .ok (int64 k) :=
  toInt64_eq_ok_iff.2 ⟨k.toInt, .int64 k, k.le_toInt, k.toInt_lt, by rw [Int64.ofInt_toInt]⟩

/-- A value other than null is converted by the conversion to the type, which leaves the
    values of the type alone. -/
theorem convert_of_ne_null (hv : v ≠ null) (t : ScalarType) : v.convert t =
    match t with
    | .bool => v.toBool
    | .int32 => v.toInt32
    | .int64 => v.toInt64
    | .float64 => v.toFloat64
    | .string => v.toText
    | .bytes => v.toBytes := by
  by_cases ht : v.scalarType? = some t
  · rw [convert_of_scalarType? ht]
    rcases v with - | b | k | k | x | s | b <;> cases ht
    · rfl
    · exact (toInt32_int32 k).symm
    · exact (toInt64_int64 k).symm
    all_goals rfl
  · have hnull : v.isNull = false := Bool.eq_false_iff.2 (mt isNull_eq_true_iff.1 hv)
    exact if_neg (by simp [hnull, ht])

theorem Denotes.ne_null (h : v.Denotes n) : v ≠ null := by
  rintro rfl
  cases h

/-- Null stays null, and what is made of any other value is its conversion. -/
theorem coerce_eq_ok_iff_or {t : ScalarType} :
    v.coerce t = .ok w ↔ v = null ∧ w = null ∨ v ≠ null ∧ v.convert t = .ok w := by
  rw [coerce_eq_ok_iff]
  by_cases hv : v = null
  · rw [hv, convert_null, Except.ok.injEq, eq_comm (a := null)]
    simp
  · simp [hv]

theorem coerce_int32_eq_ok_iff : v.coerce .int32 = .ok w ↔ v = null ∧ w = null ∨
    ∃ n, v.Denotes n ∧ -2 ^ 31 ≤ n ∧ n < 2 ^ 31 ∧ w = .int32 (.ofInt n) := by
  rw [coerce_eq_ok_iff_or, ← toInt32_eq_ok_iff]
  refine or_congr_right ⟨fun ⟨hv, h⟩ => (convert_of_ne_null hv .int32).symm.trans h, fun h => ?_⟩
  obtain ⟨n, hn, -⟩ := toInt32_eq_ok_iff.1 h
  exact ⟨hn.ne_null, (convert_of_ne_null hn.ne_null .int32).trans h⟩

theorem coerce_int64_eq_ok_iff : v.coerce .int64 = .ok w ↔ v = null ∧ w = null ∨
    ∃ n, v.Denotes n ∧ -2 ^ 63 ≤ n ∧ n < 2 ^ 63 ∧ w = .int64 (.ofInt n) := by
  rw [coerce_eq_ok_iff_or, ← toInt64_eq_ok_iff]
  refine or_congr_right ⟨fun ⟨hv, h⟩ => (convert_of_ne_null hv .int64).symm.trans h, fun h => ?_⟩
  obtain ⟨n, hn, -⟩ := toInt64_eq_ok_iff.1 h
  exact ⟨hn.ne_null, (convert_of_ne_null hn.ne_null .int64).trans h⟩

theorem coerce_string_int32 (k : Int32) :
    (int32 k).coerce .string = .ok (string (toString k.toInt)) := rfl

theorem coerce_string_int64 (k : Int64) :
    (int64 k).coerce .string = .ok (string (toString k.toInt)) := rfl

theorem coerce_int32_toString (k : Int32) :
    (string (toString k.toInt)).coerce .int32 = .ok (int32 k) :=
  coerce_int32_eq_ok_iff.2 (.inr ⟨k.toInt, denotes_toString _, k.le_toInt, k.toInt_lt,
    by rw [Int32.ofInt_toInt]⟩)

theorem coerce_int64_toString (k : Int64) :
    (string (toString k.toInt)).coerce .int64 = .ok (int64 k) :=
  coerce_int64_eq_ok_iff.2 (.inr ⟨k.toInt, denotes_toString _, k.le_toInt, k.toInt_lt,
    by rw [Int64.ofInt_toInt]⟩)

/-- An integer is narrowed by a check of its range. -/
theorem coerce_int32_iff_int64 :
    v.coerce .int32 = .ok w ↔ ∃ u, v.coerce .int64 = .ok u ∧ u.coerce .int32 = .ok w := by
  simp only [coerce_int32_eq_ok_iff, coerce_int64_eq_ok_iff]
  constructor
  · rintro (⟨rfl, rfl⟩ | ⟨n, hn, hlow, hhigh, rfl⟩)
    · exact ⟨null, .inl ⟨rfl, rfl⟩, .inl ⟨rfl, rfl⟩⟩
    · have hwide : -2 ^ 63 ≤ n ∧ n < 2 ^ 63 := by omega
      have hsame : (int64 (.ofInt n)).Denotes n := by
        have h := Denotes.int64 (.ofInt n)
        rwa [Int64.toInt_ofInt_of_le hwide.1 hwide.2] at h
      exact ⟨_, .inr ⟨n, hn, hwide.1, hwide.2, rfl⟩, .inr ⟨n, hsame, hlow, hhigh, rfl⟩⟩
  · rintro ⟨u, ⟨rfl, rfl⟩ | ⟨n, hn, hlow, hhigh, rfl⟩, hw⟩
    · exact hw
    · obtain ⟨⟨⟩, -⟩ | ⟨k, hk, hnarrow⟩ := hw
      have hkn := hk.unique (.int64 (.ofInt n))
      rw [Int64.toInt_ofInt_of_le hlow hhigh] at hkn
      exact .inr ⟨k, hkn ▸ hn, hnarrow⟩

/-- Coercion to an integer type gives the integer that a value denotes, if the type has it;
    to the narrow type it is coercion to the wide one and a check of the range; and an
    integer comes back from its text. -/
theorem coerce_exact (v w : Value) :
    (v.coerce .int64 = .ok w ↔ v = null ∧ w = null ∨
      ∃ n, v.Denotes n ∧ -2 ^ 63 ≤ n ∧ n < 2 ^ 63 ∧ w = .int64 (.ofInt n)) ∧
    (v.coerce .int32 = .ok w ↔ v = null ∧ w = null ∨
      ∃ n, v.Denotes n ∧ -2 ^ 31 ≤ n ∧ n < 2 ^ 31 ∧ w = .int32 (.ofInt n)) ∧
    (v.coerce .int32 = .ok w ↔ ∃ u, v.coerce .int64 = .ok u ∧ u.coerce .int32 = .ok w) ∧
    (∀ k : Int32, ∃ u, (int32 k).coerce .string = .ok u ∧ u.coerce .int32 = .ok (int32 k)) ∧
    ∀ k : Int64, ∃ u, (int64 k).coerce .string = .ok u ∧ u.coerce .int64 = .ok (int64 k) :=
  ⟨coerce_int64_eq_ok_iff, coerce_int32_eq_ok_iff, coerce_int32_iff_int64,
    fun k => ⟨_, coerce_string_int32 k, coerce_int32_toString k⟩,
    fun k => ⟨_, coerce_string_int64 k, coerce_int64_toString k⟩⟩

example : (string " +007\n").coerce .int32 = .ok (int32 7) := by decide

end Value

end EntityQuery
