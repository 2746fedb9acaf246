import EntityQuery.Proofs.Encoding
import EntityQuery.Store.Pattern
import Mathlib.Data.List.Forall2
import Mathlib.Data.List.TakeWhile

/-!
# Patterns and their forms

What a pattern is matched by: the texts of its form (`matchesPattern_eq_true_iff`), where a
mark has a stretch or a character of its own, and any other character stands for those that
are the same but for the case of a letter. A pattern without marks has the form of what reads
like it; one with marks has also the form of what it stands for with the marks filled in
(`hasForm_fill`), which does not read like it.

Patterns and texts are matched by the numbers of their characters, which are read from bytes
that need not be a text. For the bytes of a text they are those of its characters
(`Datum.patternText_toUTF8`), up to a NUL, but that the last two characters of the first plane
are seen as the replacement character.
-/

namespace EntityQuery

namespace Store

/-! ## Forms -/

/-- Whether two characters are the same but for the case of an ASCII letter. -/
def sameButCase (a b : Char) : Bool := a.toLower == b.toLower

/-- Two texts are the same but for the case of ASCII letters. -/
def Alike (s t : List Char) : Prop := List.Forall₂ (fun a b => sameButCase a b = true) s t

/-- A text, the second one, has the form of a pattern. -/
inductive HasForm : List Char → List Char → Prop
  | nil : HasForm [] []
  | run (u : List Char) {p t : List Char} : HasForm p t → HasForm ('%' :: p) (u ++ t)
  | any (c : Char) {p t : List Char} : HasForm p t → HasForm ('_' :: p) (c :: t)
  | char {a c : Char} {p t : List Char} : a ≠ '%' → a ≠ '_' → sameButCase a c = true →
    HasForm p t → HasForm (a :: p) (c :: t)

/-- Whether a character stands for others in a pattern. -/
def isMark (c : Char) : Bool := c == '%' || c == '_'

/-- A character as patterns see it. -/
def settled (c : Char) : Char := if c.toNat / 2 = 0xFFFE / 2 then '\uFFFD' else c

/-- What patterns see of a text: it ends at a NUL. -/
def visible (s : String) : List Char := (s.toList.takeWhile (· != '\x00')).map settled

namespace HasForm

variable {p q s t : List Char}

theorem append (hp : HasForm p s) (hq : HasForm q t) : HasForm (p ++ q) (s ++ t) := by
  induction hp with
  | nil => exact hq
  | run u _ ih =>
    rw [List.append_assoc]
    exact ih.run u
  | any c _ ih => exact ih.any c
  | char hrun hany hc _ ih => exact ih.char hrun hany hc

/-- A text of the form of a pattern in two parts has a part for each of them. -/
theorem append_iff : HasForm (p ++ q) t ↔ ∃ u v, t = u ++ v ∧ HasForm p u ∧ HasForm q v := by
  constructor
  · intro h
    induction p generalizing t with
    | nil => exact ⟨[], t, rfl, .nil, h⟩
    | cons a p ih =>
      cases h with
      | run w h =>
        obtain ⟨u, v, rfl, hu, hv⟩ := ih h
        exact ⟨w ++ u, v, (List.append_assoc ..).symm, hu.run w, hv⟩
      | any c h =>
        obtain ⟨u, v, rfl, hu, hv⟩ := ih h
        exact ⟨c :: u, v, rfl, hu.any c, hv⟩
      | @char _ c _ _ hrun hany hc h =>
        obtain ⟨u, v, rfl, hu, hv⟩ := ih h
        exact ⟨c :: u, v, rfl, hu.char hrun hany hc, hv⟩
  · rintro ⟨u, v, rfl, hu, hv⟩
    exact hu.append hv

theorem run_iff : HasForm ('%' :: p) t ↔ ∃ u v, t = u ++ v ∧ HasForm p v := by
  constructor
  · intro h
    cases h with
    | run u h => exact ⟨u, _, rfl, h⟩
    | char hrun => exact absurd rfl hrun
  · rintro ⟨u, v, rfl, h⟩
    exact h.run u

theorem run_nil_iff : HasForm ('%' :: p) [] ↔ HasForm p [] := by
  rw [run_iff]
  constructor
  · rintro ⟨u, v, hsplit, h⟩
    rwa [(List.append_eq_nil_iff.1 hsplit.symm).2] at h
  · exact fun h => ⟨[], [], rfl, h⟩

/-- A run is empty, or it starts with the first character. -/
theorem run_cons_iff {c : Char} :
    HasForm ('%' :: p) (c :: t) ↔ HasForm p (c :: t) ∨ HasForm ('%' :: p) t := by
  rw [run_iff, run_iff]
  constructor
  · rintro ⟨u, v, hsplit, h⟩
    rcases List.cons_eq_append_iff.1 hsplit with ⟨rfl, rfl⟩ | ⟨u, rfl, rfl⟩
    · exact .inl h
    · exact .inr ⟨u, v, rfl, h⟩
  · rintro (h | ⟨u, v, rfl, h⟩)
    · exact ⟨[], c :: t, rfl, h⟩
    · exact ⟨c :: u, v, rfl, h⟩

theorem any_cons_iff {c : Char} : HasForm ('_' :: p) (c :: t) ↔ HasForm p t := by
  refine ⟨fun h => ?_, any c⟩
  cases h with
  | any c h => exact h
  | char _ hany => exact absurd rfl hany

theorem char_cons_iff {a c : Char} (hrun : a ≠ '%') (hany : a ≠ '_') :
    HasForm (a :: p) (c :: t) ↔ sameButCase a c = true ∧ HasForm p t := by
  constructor
  · generalize hp : a :: p = p'
    generalize ht : c :: t = t'
    intro h
    cases h with
    | nil => cases hp
    | run => exact absurd (List.cons.inj hp).1 hrun
    | any => exact absurd (List.cons.inj hp).1 hany
    | char _ _ hc h =>
      cases hp
      cases ht
      exact ⟨hc, h⟩
  · rintro ⟨hc, h⟩
    exact h.char hrun hany hc

/-- Only a pattern of marks for any text has the form of the empty text. -/
theorem not_nil {a : Char} (hrun : a ≠ '%') : ¬HasForm (a :: p) [] := by
  generalize hp : a :: p = p'
  generalize ht : [] = t'
  intro h
  cases h with
  | nil => cases hp
  | run => exact hrun (List.cons.inj hp).1
  | any => cases ht
  | char => cases ht

/-- Every text has the form of the mark for any text. -/
theorem percent (t : List Char) : HasForm ['%'] t := by
  have h := nil.run t
  rwa [List.append_nil] at h

end HasForm

theorem toNat_toLower (c : Char) : c.toLower.toNat = lowerCode c.toNat := by
  have hrange : (c.val ≥ 'A'.val ∧ c.val ≤ 'Z'.val) ↔ 'A'.toNat ≤ c.toNat ∧ c.toNat ≤ 'Z'.toNat :=
    Iff.rfl
  have hZ : 'Z'.toNat = 90 := rfl
  rw [lowerCode]
  simp only [← hrange]
  split
  · next h =>
    have hle := (hrange.1 h).2
    rw [show c.toLower = ⟨c.val + 32, _⟩ from dif_pos h]
    change (c.val + 32).toNat = c.val.toNat + 32
    have hlt : c.val.toNat + 32 < 2 ^ 32 := by
      change c.toNat + 32 < _
      omega
    rw [UInt32.toNat_add, UInt32.toNat_ofNat, Nat.mod_eq_of_lt hlt]
  · next h => rw [show c.toLower = c from dif_neg h]

theorem lowerCode_eq_iff {a c : Char} :
    (lowerCode a.toNat == lowerCode c.toNat) = sameButCase a c := by
  rw [Bool.eq_iff_iff, sameButCase, beq_iff_eq, beq_iff_eq, ← toNat_toLower, ← toNat_toLower,
    Char.toNat_inj]

/-- A pattern is matched by the texts of its form. -/
theorem matchesPattern_eq_true_iff {p t : List Char} :
    matchesPattern (p.map Char.toNat) (t.map Char.toNat) = true ↔ HasForm p t := by
  generalize hP : p.map Char.toNat = P
  generalize hT : t.map Char.toNat = T
  fun_induction matchesPattern P T generalizing p t with
  | case1 T =>
    obtain rfl := List.map_eq_nil_iff.1 hP
    rw [← hT, List.isEmpty_iff, List.map_eq_nil_iff]
    refine ⟨fun h => h ▸ .nil, fun h => ?_⟩
    cases h
    rfl
  | case2 A P ih =>
    obtain ⟨a, p, rfl, rfl, hp⟩ := List.map_eq_cons_iff.1 hP
    obtain rfl := List.map_eq_nil_iff.1 hT
    rw [Bool.and_eq_true, beq_iff_eq, Char.toNat_inj, @ih p [] hp rfl]
    constructor
    · rintro ⟨rfl, h⟩
      exact HasForm.run_nil_iff.2 h
    · intro h
      obtain rfl := not_not.1 fun hrun => HasForm.not_nil hrun h
      exact ⟨rfl, HasForm.run_nil_iff.1 h⟩
  | case3 A P C T hrun ih ih' =>
    obtain ⟨a, p, rfl, rfl, hp⟩ := List.map_eq_cons_iff.1 hP
    obtain ⟨c, t, rfl, hc, ht⟩ := List.map_eq_cons_iff.1 hT
    obtain rfl := Char.toNat_inj.1 (beq_iff_eq.1 hrun)
    rw [Bool.or_eq_true, ih hp hT, ih' hP ht, HasForm.run_cons_iff]
  | case4 A P C T hrun ih =>
    obtain ⟨a, p, rfl, rfl, hp⟩ := List.map_eq_cons_iff.1 hP
    obtain ⟨c, t, rfl, rfl, ht⟩ := List.map_eq_cons_iff.1 hT
    rw [beq_iff_eq, Char.toNat_inj] at hrun
    rw [Bool.and_eq_true, Bool.or_eq_true, beq_iff_eq, Char.toNat_inj, lowerCode_eq_iff, ih hp ht]
    by_cases hany : a = '_'
    · subst hany
      simp [HasForm.any_cons_iff]
    · simp [hany, HasForm.char_cons_iff hrun hany]

/-! ## Marks -/

/-- A pattern without marks has the form of what reads like it. -/
theorem hasForm_iff_alike {p t : List Char} (h : ∀ a ∈ p, isMark a = false) :
    HasForm p t ↔ Alike p t := by
  induction p generalizing t with
  | nil =>
    rw [Alike, List.forall₂_nil_left_iff]
    refine ⟨fun ht => ?_, fun ht => ht ▸ .nil⟩
    cases ht
    rfl
  | cons a p ih =>
    obtain ⟨ha, hp⟩ := List.forall_mem_cons.1 h
    obtain ⟨hrun, hany⟩ : a ≠ '%' ∧ a ≠ '_' := by simpa [isMark] using ha
    rw [Alike, List.forall₂_cons_left_iff]
    rcases t with _ | ⟨c, t⟩
    · exact ⟨fun ht => absurd ht (HasForm.not_nil hrun), fun ⟨_, _, _, _, ht⟩ => nomatch ht⟩
    · rw [HasForm.char_cons_iff hrun hany, ih hp]
      constructor
      · exact fun ⟨hc, ht⟩ => ⟨c, t, hc, ht, rfl⟩
      · rintro ⟨_, _, hc, ht, heq⟩
        cases heq
        exact ⟨hc, ht⟩

/-- A character that a mark stands for, and every other one for itself. -/
def fill (c : Char) : Char := if isMark c then 'x' else c

/-- What a pattern stands for, it stands for in place of its marks. -/
theorem hasForm_fill (p : List Char) : HasForm p (p.map fill) := by
  induction p with
  | nil => exact .nil
  | cons a p ih =>
    by_cases hrun : a = '%'
    · subst hrun
      exact ih.run ['x']
    · by_cases hany : a = '_'
      · subst hany
        exact ih.any 'x'
      · have hfill : fill a = a := by simp [fill, isMark, hrun, hany]
        rw [List.map_cons, hfill]
        exact ih.char hrun hany (beq_self_eq_true _)

/-- No mark reads like what it stands for. -/
theorem not_alike_fill {p : List Char} (h : ∃ a ∈ p, isMark a = true) : ¬Alike p (p.map fill) := by
  rintro halike
  obtain ⟨a, ha, hmark⟩ := h
  rw [Alike, List.forall₂_map_right_iff, List.forall₂_same] at halike
  have hsame := halike a ha
  rw [fill, if_pos hmark] at hsame
  rw [isMark, Bool.or_eq_true, beq_iff_eq, beq_iff_eq] at hmark
  rcases hmark with rfl | rfl <;> cases hsame

/-! ## What is visible -/

theorem settled_settled (c : Char) : settled (settled c) = settled c := by
  by_cases h : c.toNat / 2 = 0xFFFE / 2 <;> simp [settled, h]

theorem settled_eq_nul_iff {c : Char} : settled c = '\x00' ↔ c = '\x00' := by
  rw [settled]
  split
  · next h =>
    refine ⟨nofun, ?_⟩
    rintro rfl
    cases h
  · rfl

/-- What is visible has no NUL. -/
theorem not_mem_visible (s : String) : '\x00' ∉ visible s := by
  intro h
  obtain ⟨c, hc, hnul⟩ := List.mem_map.1 h
  have hne := List.mem_takeWhile_imp (p := (· != '\x00')) hc
  exact bne_iff_ne.1 hne (settled_eq_nul_iff.1 hnul)

/-- What is visible is seen as it is. -/
theorem settled_of_mem_visible {s : String} {c : Char} (h : c ∈ visible s) : settled c = c := by
  obtain ⟨c, -, rfl⟩ := List.mem_map.1 h
  exact settled_settled c

/-- What is visible of a text is visible on its own. -/
theorem visible_ofList {l : List Char} (h : '\x00' ∉ l) (hsettled : ∀ c ∈ l, settled c = c) :
    visible (.ofList l) = l := by
  have hall : ∀ c ∈ l, (c != '\x00') = true := fun c hc => bne_iff_ne.2 fun heq => h (heq ▸ hc)
  rw [visible, String.toList_ofList, List.takeWhile_eq_self_iff.2 hall]
  exact (List.map_congr_left hsettled).trans (List.map_id l)

/-- A mark that is put after a text is visible unless there is a NUL before it. -/
theorem visible_append_percent (s : String) :
    visible (s ++ "%") = visible s ++ if '\x00' ∈ s.toList then [] else ['%'] := by
  rw [visible, String.toList_append]
  split
  · next hnul =>
    rw [List.takeWhile_append, if_neg, List.append_nil, visible]
    intro hlength
    have hall := (List.takeWhile_prefix _).eq_of_length hlength
    rw [← hall] at hnul
    exact bne_iff_ne.1 (List.mem_takeWhile_imp (p := (· != '\x00')) hnul) rfl
  · next hnul =>
    have hall : ∀ c ∈ s.toList, (c != '\x00') = true :=
      fun c hc => bne_iff_ne.2 fun heq => hnul (heq ▸ hc)
    rw [List.takeWhile_append_of_pos hall, visible, List.takeWhile_eq_self_iff.2 hall,
      List.map_append]
    rfl

/-- A mark that is put before a text is visible. -/
theorem visible_percent_append (s : String) : visible ("%" ++ s) = '%' :: visible s := by
  rw [visible, String.toList_append]
  exact congrArg (List.map settled) (List.takeWhile_cons_of_pos rfl)

/-! ## Bytes of a text -/

section Reading

variable {bs : List UInt8} {n : Nat}

/-- A byte that leads no others is a character. -/
theorem codesFrom_plain (h : n < 0xC0) :
    codesFrom none (.ofNat n :: bs) = n :: codesFrom none bs := by
  have hn : (UInt8.ofNat n).toNat = n := by
    rw [UInt8.toNat_ofNat', Nat.mod_eq_of_lt (by omega)]
  have hb : UInt8.ofNat n < 0xC0 := by
    rw [UInt8.lt_iff_toNat_lt, hn]
    exact h
  simp [codesFrom, hb, hn]

theorem codesFrom_lead (h : 0xC0 ≤ n) (hlt : n < 256) :
    codesFrom none (.ofNat n :: bs) = codesFrom (some (leadBits n)) bs := by
  have hn : (UInt8.ofNat n).toNat = n := by rw [UInt8.toNat_ofNat', Nat.mod_eq_of_lt hlt]
  have hb : ¬UInt8.ofNat n < 0xC0 := by
    rw [UInt8.lt_iff_toNat_lt, hn]
    exact Nat.not_lt.2 h
  simp [codesFrom, hb, hn]

/-- A byte that continues a character has six bits of it. -/
theorem codesFrom_continuation {bits : Nat} (h : bits < 64) (hn : n < 0x200000) :
    codesFrom (some n) (.ofNat (bits + 128) :: bs) = codesFrom (some (64 * n + bits)) bs := by
  have hbits : (UInt8.ofNat (bits + 128)).toNat = bits + 128 := by
    rw [UInt8.toNat_ofNat', Nat.mod_eq_of_lt (by omega)]
  have hb : Text.Utf8.isContinuation (.ofNat (bits + 128)) = true := by
    rw [Text.Utf8.isContinuation_iff, hbits]
    omega
  have hcode : (64 * n + (bits + 128) % 64) % 0x100000000 = 64 * n + bits := by omega
  simp only [codesFrom, Option.isSome_some, hb, Bool.and_self, if_true, Option.map_some, hbits,
    hcode]

/-- A character that nothing continues is settled. -/
theorem codesFrom_some
    (h : ∀ b ∈ bs.head?, Text.Utf8.isContinuation b = false) :
    codesFrom (some n) bs = settledCode n :: codesFrom none bs := by
  cases bs with
  | nil => rfl
  | cons b bs => simp [codesFrom, h b rfl]

/-- The bytes of a character start with none that continues another. -/
theorem isContinuation_head {c : Char} :
    ∀ b ∈ (String.utf8EncodeChar c ++ bs).head?, Text.Utf8.isContinuation b = false := by
  fun_cases String.utf8EncodeChar c <;>
    · simp only [List.cons_append, List.nil_append, List.head?_cons, Option.mem_some_iff,
        forall_eq', ← Bool.not_eq_true, Text.Utf8.isContinuation_iff, UInt8.toNat_ofNat']
      omega

/-- A number of several bytes is that of the character that patterns see. -/
theorem settledCode_toNat {c : Char} (h : 0x80 ≤ c.toNat) :
    settledCode c.toNat = (settled c).toNat := by
  have hc : c.toNat < 0xD800 ∨ 0xDFFF < c.toNat ∧ c.toNat < 0x110000 := c.valid
  rw [settledCode, settled]
  split
  · next hnone =>
    rw [if_pos (by omega)]
    rfl
  · next hnone => rw [if_neg (by omega)]

/-- A text is read by its characters. -/
theorem codesFrom_utf8EncodeChar {c : Char}
    (h : ∀ b ∈ bs.head?, Text.Utf8.isContinuation b = false) :
    codesFrom none (String.utf8EncodeChar c ++ bs) = (settled c).toNat :: codesFrom none bs := by
  -- Each case is a number of bytes; what the lead byte says of the number is left of it.
  fun_cases String.utf8EncodeChar c with
  | case1 v hv =>
    have hsettled : settled c = c := if_neg (by change ¬v / 2 = _; omega)
    rw [List.singleton_append, codesFrom_plain (by omega), hsettled]
    rfl
  | case2 v h1 h2 =>
    have hlead : leadBits (v / 64 % 32 + 192) = v / 64 := by
      simp only [leadBits]
      split_ifs <;> omega
    have hv : 64 * (v / 64) + v % 64 = v := by omega
    simp only [List.cons_append, List.nil_append]
    rw [codesFrom_lead (by omega) (by omega), hlead, codesFrom_continuation (by omega) (by omega),
      codesFrom_some h, hv]
    exact congrArg (· :: _) (settledCode_toNat (Nat.lt_of_not_le h1))
  | case3 v h1 h2 h3 =>
    have hlead : leadBits (v / 4096 % 16 + 224) = v / 4096 := by
      simp only [leadBits]
      split_ifs <;> omega
    have hv : 64 * (64 * (v / 4096) + v / 64 % 64) + v % 64 = v := by omega
    simp only [List.cons_append, List.nil_append]
    rw [codesFrom_lead (by omega) (by omega), hlead, codesFrom_continuation (by omega) (by omega),
      codesFrom_continuation (by omega) (by omega), codesFrom_some h, hv]
    exact congrArg (· :: _) (settledCode_toNat (Nat.lt_of_not_le h1))
  | case4 v h1 h2 h3 =>
    have hlt : v < 0x110000 := by
      rcases c.valid with hc | hc <;> omega
    have hlead : leadBits (v / 262144 % 8 + 240) = v / 262144 := by
      simp only [leadBits]
      split_ifs <;> omega
    have hv : 64 * (64 * (64 * (v / 262144) + v / 4096 % 64) + v / 64 % 64) + v % 64 = v := by
      omega
    simp only [List.cons_append, List.nil_append]
    rw [codesFrom_lead (by omega) (by omega), hlead, codesFrom_continuation (by omega) (by omega),
      codesFrom_continuation (by omega) (by omega), codesFrom_continuation (by omega) (by omega),
      codesFrom_some h, hv]
    exact congrArg (· :: _) (settledCode_toNat (Nat.lt_of_not_le h1))

end Reading

theorem codesFrom_flatMap (cs : List Char) :
    codesFrom none (cs.flatMap String.utf8EncodeChar) = (cs.map settled).map Char.toNat := by
  induction cs with
  | nil => rfl
  | cons c cs ih =>
    have hhead : ∀ b ∈ (cs.flatMap String.utf8EncodeChar).head?,
        Text.Utf8.isContinuation b = false := by
      cases cs with
      | nil => nofun
      | cons d cs => exact isContinuation_head
    rw [List.flatMap_cons, codesFrom_utf8EncodeChar hhead, ih]
    rfl

theorem Datum.patternText_toUTF8 (s : String) :
    patternText (.text s.toUTF8) = (visible s).map Char.toNat := by
  have hbytes : s.toUTF8.toList = s.toList.flatMap String.utf8EncodeChar := by
    rw [Text.Utf8.toList_eq_iff]
    conv_lhs => rw [← String.ofList_toList (s := s)]
    rfl
  have hnul : (fun c : Char => (settled c).toNat != 0) = fun c => c != '\x00' := by
    funext c
    rw [Bool.eq_iff_iff, bne_iff_ne, bne_iff_ne, not_iff_not, ← settled_eq_nul_iff,
      ← Char.toNat_inj]
    rfl
  rw [patternText, hbytes, codesFrom_flatMap, visible, List.takeWhile_map, List.takeWhile_map]
  exact congrArg (fun q => ((s.toList.takeWhile q).map settled).map Char.toNat) hnul

end Store

end EntityQuery
