import EntityQuery.Proofs.Validity
import EntityQuery.Store.Connection

/-!
# Paths in connection strings

A connection string writes pairs of a key and a value (`Connection.Written`): each with
blanks around its key and its value and with any letter case in its key, with semicolons in
between, other segments without an equals sign among them, and blanks around the whole. How
it is written does not count. Of the pairs the first one whose key is that of the path
decides, whatever stands before and after it (`Connection.path_reads`).

Blanks around the whole are blanks around the first and the last segment
(`forall₂_padded_splitOn`), and blanks around a segment are blanks around a key or a value or
stand in a segment that is no pair (`pathValue?_of_padded`).
-/

namespace EntityQuery

/-! ## Trimming -/

namespace Text

instance decidableBlank (cs : List Char) : Decidable (Blank cs) :=
  decidable_of_iff (cs.all isBlank = true) List.all_eq_true

theorem Blank.append {cs ds : List Char} (hcs : Blank cs) (hds : Blank ds) : Blank (cs ++ ds) :=
  fun c hc => (List.mem_append.1 hc).elim (hcs c) (hds c)

theorem Blank.not_mem {cs : List Char} (h : Blank cs) {c : Char} (hc : isBlank c = false) :
    c ∉ cs := fun hmem => Bool.eq_false_iff.1 hc (h c hmem)

/-- What trimming leaves has no blank at either end. -/
theorem trimmed_trimChars (cs : List Char) : Trimmed (trimChars cs) := by
  have hhead (cs : List Char) : ∀ c ∈ (trimStart cs).head?, isBlank c = false := by
    intro c hc
    have hnot := List.head?_dropWhile_not isBlank cs
    rw [trimStart, Option.mem_def] at hc
    rwa [hc] at hnot
  -- What is trimmed off the end leaves the start as it is.
  have hprefix : trimChars cs <+: trimStart cs := by
    rw [trimChars, ← List.reverse_suffix, List.reverse_reverse]
    exact List.dropWhile_suffix isBlank
  constructor
  · intro c hc
    obtain ⟨rest, hrest⟩ := hprefix
    refine hhead cs c ?_
    rw [← hrest, List.head?_append, Option.mem_def.1 hc]
    rfl
  · intro c hc
    rw [trimChars, List.getLast?_reverse] at hc
    exact hhead _ c hc

/-- Blanks around a text are trimmed off. -/
theorem trimChars_append {before after : List Char} (hbefore : Blank before)
    (hafter : Blank after) (cs : List Char) :
    trimChars (before ++ (cs ++ after)) = trimChars cs := by
  obtain ⟨before', after', hbefore', hafter', hcs⟩ := exists_blank_trimChars cs
  by_cases hne : trimChars cs = []
  · rw [hne, trimChars_eq_nil_iff]
    exact hbefore.append ((trimChars_eq_nil_iff.1 hne).append hafter)
  · have hpadded : before ++ (cs ++ after) =
        (before ++ before') ++ (trimChars cs ++ (after' ++ after)) := by
      conv_lhs => rw [hcs]
      simp only [List.append_assoc]
    rw [hpadded]
    exact trimChars_of_trimmed (hbefore.append hbefore') (hafter'.append hafter) hne
      (trimmed_trimChars cs)

theorem trimChars_append_left {before : List Char} (h : Blank before) (cs : List Char) :
    trimChars (before ++ cs) = trimChars cs := by
  have hnone : Blank [] := nofun
  rw [← trimChars_append h hnone cs, List.append_nil]

theorem trimChars_append_right {after : List Char} (h : Blank after) (cs : List Char) :
    trimChars (cs ++ after) = trimChars cs := by
  have hnone : Blank [] := nofun
  rw [← trimChars_append hnone h cs, List.nil_append]

theorem mem_trimChars_iff {c : Char} (hc : isBlank c = false) {cs : List Char} :
    c ∈ trimChars cs ↔ c ∈ cs := by
  obtain ⟨before, after, hbefore, hafter, hcs⟩ := exists_blank_trimChars cs
  conv_rhs => rw [hcs]
  simp [hbefore.not_mem hc, hafter.not_mem hc]

theorem infix_trimChars (cs : List Char) : trimChars cs <:+: cs := by
  obtain ⟨before, after, -, -, hcs⟩ := exists_blank_trimChars cs
  exact ⟨before, after, by rw [List.append_assoc, ← hcs]⟩

/-- A character stands for itself in lower case, or it is a capital. -/
theorem toLower_cases (c : Char) : c.toLower = c ∨
    65 ≤ c.toNat ∧ c.toNat ≤ 90 ∧ c.toLower.toNat = c.toNat + 32 := by
  by_cases h : c.val ≥ 'A'.val ∧ c.val ≤ 'Z'.val
  · have hlower : c.toLower.val = c.val + ('a'.val - 'A'.val) :=
      congrArg Char.val (dif_pos h : c.toLower = _)
    obtain ⟨hge, hle⟩ := h
    rw [ge_iff_le, UInt32.le_iff_toNat_le] at hge
    rw [UInt32.le_iff_toNat_le] at hle
    have hA : 'A'.val.toNat = 65 := rfl
    have hZ : 'Z'.val.toNat = 90 := rfl
    have hdiff : ('a'.val - 'A'.val).toNat = 32 := rfl
    refine .inr ⟨hge, hle, ?_⟩
    simp only [Char.toNat, hlower, UInt32.toNat_add, hdiff]
    omega
  · exact .inl (dif_neg h)

theorem isBlank_toLower (c : Char) : isBlank c.toLower = isBlank c := by
  obtain h | ⟨hge, hle, h⟩ := toLower_cases c
  · rw [h]
  · have hletter {d : Char} (hd : 65 ≤ d.toNat) (hd' : d.toNat ≤ 122) : isBlank d = false := by
      simp only [isBlank]
      grind
    rw [hletter hge (by omega), hletter (by omega) (by omega)]

/-- A text is trimmed in lower case as it is in any other. -/
theorem trimChars_map_toLower (cs : List Char) :
    trimChars (cs.map Char.toLower) = (trimChars cs).map Char.toLower := by
  have hstart (cs : List Char) :
      trimStart (cs.map Char.toLower) = (trimStart cs).map Char.toLower := by
    rw [trimStart, List.dropWhile_map]
    simp only [Function.comp_def, isBlank_toLower]
    rfl
  simp only [trimChars, hstart, ← List.map_reverse]

end Text

namespace Store.Connection

open Text (Blank trimChars)

/-! ## How pairs are written -/

/-- A key and a value. -/
structure Pair where
  key : String
  value : String
  key_plain : '=' ∉ key.toList ∧ ';' ∉ key.toList
  value_plain : ';' ∉ value.toList

namespace Pair

/-- The key is one of the path, blanks around it and letter case apart. -/
def GivesPath (p : Pair) : Prop :=
  Text.lower (Text.trim p.key) ∈ ["data source", "datasource", "filename"]

instance : DecidablePred GivesPath := fun p => inferInstanceAs
  (Decidable (Text.lower (Text.trim p.key) ∈ ["data source", "datasource", "filename"]))

/-- A text writes a pair: the key in any letter case, an equals sign and the value, with blanks
    around both. -/
inductive Writes (p : Pair) : List Char → Prop
  | mk {key before between between' after : List Char} :
    key.map Char.toLower = p.key.toList.map Char.toLower →
    Blank before → Blank between → Blank between' → Blank after →
    Writes p (before ++ (key ++ between) ++ '=' :: (between' ++ (p.value.toList ++ after)))

end Pair

/-- Segments write pairs one after the other; segments in which there is no equals sign may
    stand anywhere among them. -/
inductive Segments : List Pair → List (List Char) → Prop
  | nil : Segments [] []
  | pair {p : Pair} {ps : List Pair} {cs : List Char} {css : List (List Char)} :
    p.Writes cs → Segments ps css → Segments (p :: ps) (cs :: css)
  | other {ps : List Pair} {cs : List Char} {css : List (List Char)} :
    '=' ∉ cs → ';' ∉ cs → Segments ps css → Segments ps (cs :: css)

/-- A connection string writes pairs: segments that write them, with semicolons in between and
    blanks around the whole. -/
def Written (ps : List Pair) (connection : String) : Prop :=
  ∃ before css after, Blank before ∧ Segments ps css ∧ Blank after ∧
    connection.toList = before ++ ([';'].intercalate css ++ after)

/-! ## Segments -/

theorem pair?_of_not_mem {cs : List Char} (h : '=' ∉ cs) : pair? cs = none := by
  have hnil : cs.dropWhile (· != '=') = [] := by
    rw [List.dropWhile_eq_nil_iff]
    intro c hc
    rw [bne_iff_ne]
    rintro rfl
    exact h hc
  rw [pair?, hnil]

theorem pair?_append {key : List Char} (h : '=' ∉ key) (value : List Char) :
    pair? (key ++ '=' :: value) = some (key, value) := by
  have hkey : ∀ c ∈ key, (c != '=') = true := by
    intro c hc
    rw [bne_iff_ne]
    rintro rfl
    exact h hc
  have hstops : Sql.Stops (· != '=') ('=' :: value) := Sql.stops_cons.2 rfl
  rw [pair?, Sql.dropWhile_append_of_stops hkey hstops, Sql.takeWhile_append_of_stops hkey hstops]

/-- A segment is no pair, or it is split at its first equals sign. -/
theorem pair?_cases (cs : List Char) : '=' ∉ cs ∧ pair? cs = none ∨
    ∃ key value, cs = key ++ '=' :: value ∧ '=' ∉ key ∧ pair? cs = some (key, value) := by
  by_cases h : '=' ∈ cs
  · obtain ⟨key, value, rfl, hkey⟩ := List.eq_append_cons_of_mem h
    exact .inr ⟨key, value, rfl, hkey, pair?_append hkey value⟩
  · exact .inl ⟨h, pair?_of_not_mem h⟩

/-- A segment with blanks around it. -/
def Padded (cs ds : List Char) : Prop :=
  ∃ before after, Blank before ∧ Blank after ∧ ds = before ++ (cs ++ after)

/-- The path that the first segment with such a key gives, without blanks at either end. -/
def pathValue? : List (List Char) → Option (List Char)
  | [] => none
  | cs :: css =>
    match pair? cs with
    | none => pathValue? css
    | some (key, value) => if isSourceKey key then some (trimChars value) else pathValue? css

theorem map_sourceValue? (cs : List Char) :
    (sourceValue? cs).map trimChars = pathValue? (cs.splitOn ';') := by
  rw [sourceValue?]
  induction cs.splitOn ';' with
  | nil => rfl
  | cons cs css ih =>
    rw [pathValue?]
    cases hpair : pair? cs with
    | none => rw [List.filterMap_cons_none hpair, ih]
    | some pair =>
      obtain ⟨key, value⟩ := pair
      rw [List.filterMap_cons_some hpair, List.findSome?_cons]
      by_cases hkey : isSourceKey key = true
      · simp only [if_pos hkey, Option.map_some]
      · simp only [if_neg hkey]
        exact ih

/-- A key is one of the path by its letters in lower case, blanks around it apart. -/
theorem isSourceKey_congr {key key' : List Char}
    (h : (trimChars key).map Char.toLower = (trimChars key').map Char.toLower) :
    isSourceKey key = isSourceKey key' := by
  rw [isSourceKey, isSourceKey, h]

/-- Blanks around segments change nothing. -/
theorem pathValue?_of_padded {css dss : List (List Char)} (h : List.Forall₂ Padded css dss) :
    pathValue? dss = pathValue? css := by
  induction h with
  | nil => rfl
  | @cons cs ds css dss hpadded _ ih =>
    obtain ⟨before, after, hbefore, hafter, rfl⟩ := hpadded
    have hb : '=' ∉ before := hbefore.not_mem rfl
    have ha : '=' ∉ after := hafter.not_mem rfl
    obtain ⟨hcs, hnone⟩ | ⟨key, value, rfl, hkey, hsome⟩ := pair?_cases cs
    · have hds : '=' ∉ before ++ (cs ++ after) := by simp [hb, hcs, ha]
      rw [pathValue?, pathValue?, hnone, pair?_of_not_mem hds]
      exact ih
    · have hds : before ++ (key ++ '=' :: value ++ after) =
          (before ++ key) ++ '=' :: (value ++ after) := by simp
      have hvalue : trimChars (value ++ after) = trimChars value :=
        Text.trimChars_append_right hafter value
      have hsource : isSourceKey (before ++ key) = isSourceKey key :=
        isSourceKey_congr (by rw [Text.trimChars_append_left hbefore])
      rw [hds, pathValue?, pathValue?, hsome, pair?_append (by simp [hb, hkey])]
      simp only [hsource, hvalue, ih]

/-- Blanks around segments with semicolons in between are blanks around segments. -/
theorem exists_padded {css : List (List Char)} (hne : css ≠ []) {before after : List Char}
    (hbefore : Blank before) (hafter : Blank after) :
    ∃ dss, List.Forall₂ Padded css dss ∧
      before ++ ([';'].intercalate css ++ after) = [';'].intercalate dss := by
  induction css generalizing before with
  | nil => exact absurd rfl hne
  | cons cs css ih =>
    cases css with
    | nil =>
      refine ⟨[before ++ (cs ++ after)], .cons ⟨before, after, hbefore, hafter, rfl⟩ .nil, ?_⟩
      simp only [List.intercalate_singleton]
    | cons cs' css =>
      -- The blanks before stand around the first segment, those after around a later one.
      have hnone : Blank [] := nofun
      obtain ⟨dss, hpadded, hdss⟩ := ih (List.cons_ne_nil _ _) hnone
      refine ⟨(before ++ cs) :: dss, .cons ⟨before, [], hbefore, hnone, by simp⟩ hpadded, ?_⟩
      cases hpadded with
      | cons _ _ =>
        rw [List.intercalate_cons_cons, List.intercalate_cons_cons, ← hdss]
        simp

theorem forall₂_padded_splitOn {css : List (List Char)} (hne : css ≠ [])
    (hcss : ∀ cs ∈ css, ';' ∉ cs) {before after : List Char} (hbefore : Blank before)
    (hafter : Blank after) :
    List.Forall₂ Padded css ((before ++ ([';'].intercalate css ++ after)).splitOn ';') := by
  obtain ⟨dss, hpadded, hdss⟩ := exists_padded hne hbefore hafter
  have hplain : ∀ ds ∈ dss, ';' ∉ ds := by
    clear hdss hne
    induction hpadded with
    | nil => exact nofun
    | cons h _ ih =>
      obtain ⟨hcs, hcss⟩ := List.forall_mem_cons.1 hcss
      obtain ⟨b, a, hb, ha, rfl⟩ := h
      refine List.forall_mem_cons.2 ⟨?_, ih hcss⟩
      simp [hb.not_mem (c := ';') rfl, hcs, ha.not_mem (c := ';') rfl]
  have hdne : dss ≠ [] := by
    rintro rfl
    cases hpadded
    exact hne rfl
  rwa [hdss, List.splitOn_intercalate _ hplain hdne]

theorem not_mem_of_mem_splitOn {c : Char} {cs ds : List Char} (h : ds ∈ cs.splitOn c) :
    c ∉ ds := by
  induction cs generalizing ds with
  | nil =>
    rw [List.splitOn_nil, List.mem_singleton] at h
    simp [h]
  | cons d cs ih =>
    rw [List.splitOn_cons_eq_if_modifyHead] at h
    split at h
    · obtain rfl | h := List.mem_cons.1 h
      · exact List.not_mem_nil
      · exact ih h
    · next hne =>
      obtain ⟨first, rest, hsplit⟩ := List.exists_cons_of_ne_nil (List.splitOn_ne_nil c cs)
      rw [hsplit, List.modifyHead_cons] at h
      rw [hsplit] at ih
      obtain rfl | h := List.mem_cons.1 h
      · have hfirst := ih List.mem_cons_self
        grind
      · exact ih (List.mem_cons_of_mem _ h)

/-- Blanks around the whole change nothing. -/
theorem pathValue?_trimChars (cs : List Char) :
    pathValue? ((trimChars cs).splitOn ';') = pathValue? (cs.splitOn ';') := by
  obtain ⟨before, after, hbefore, hafter, hcs⟩ := Text.exists_blank_trimChars cs
  have hpadded := forall₂_padded_splitOn (List.splitOn_ne_nil ';' (trimChars cs))
    (fun _ h => not_mem_of_mem_splitOn h) hbefore hafter
  rw [List.intercalate_splitOn, ← hcs] at hpadded
  exact (pathValue?_of_padded hpadded).symm

/-! ## Pairs -/

/-- A text that writes a pair is read as one with the same key and value. -/
theorem Pair.Writes.exists_pair {p : Pair} {cs : List Char} (h : p.Writes cs) :
    ';' ∉ cs ∧ ∃ key value, pair? cs = some (key, value) ∧
      (isSourceKey key = true ↔ p.GivesPath) ∧ trimChars value = trimChars p.value.toList := by
  obtain ⟨hspelled, hbefore, hbetween, hbetween', hafter⟩ := h
  rename_i key before between between' after
  -- Only letters differ between a key and how it is spelled.
  have hplain {c : Char} (hc : c.toNat < 65) (hkey : c ∉ p.key.toList) : c ∉ key := by
    have hlower : c.toLower = c := by
      obtain h | ⟨hge, -, -⟩ := Text.toLower_cases c
      · exact h
      · omega
    intro hmem
    have hmem : c.toLower ∈ p.key.toList.map Char.toLower :=
      hspelled ▸ List.mem_map_of_mem hmem
    obtain ⟨d, hd, hdc⟩ := List.mem_map.1 hmem
    rw [hlower] at hdc
    obtain h | ⟨hge, -, h⟩ := Text.toLower_cases d
    · rw [h] at hdc
      exact hkey (hdc ▸ hd)
    · rw [hdc] at h
      omega
  have hequals := hplain (by decide) p.key_plain.1
  have hsemicolon := hplain (by decide) p.key_plain.2
  refine ⟨?_, before ++ (key ++ between), between' ++ (p.value.toList ++ after),
    pair?_append ?_ _, ?_, Text.trimChars_append hbetween' hafter _⟩
  · simp [hbefore.not_mem (c := ';') rfl, hbetween.not_mem (c := ';') rfl,
      hbetween'.not_mem (c := ';') rfl, hafter.not_mem (c := ';') rfl, hsemicolon, p.value_plain]
  · simp [hbefore.not_mem (c := '=') rfl, hbetween.not_mem (c := '=') rfl, hequals]
  · have hsame : isSourceKey (before ++ (key ++ between)) = isSourceKey p.key.toList := by
      apply isSourceKey_congr
      rw [Text.trimChars_append hbefore hbetween, ← Text.trimChars_map_toLower, hspelled,
        Text.trimChars_map_toLower]
    rw [hsame, isSourceKey, List.contains_iff_mem, GivesPath, Text.lower, Text.trim,
      String.toList_ofList]
    rfl

/-- Segments that write pairs give the path that the first pair with such a key gives. -/
theorem Segments.pathValue?_eq {ps : List Pair} {css : List (List Char)} (h : Segments ps css) :
    (∀ cs ∈ css, ';' ∉ cs) ∧
      pathValue? css = (ps.find? (·.GivesPath)).map fun p => trimChars p.value.toList := by
  induction h with
  | nil => exact ⟨nofun, rfl⟩
  | @pair p ps cs css hwrites _ ih =>
    obtain ⟨hcss, hvalue⟩ := ih
    obtain ⟨hcs, key, value, hpair, hkey, htrim⟩ := hwrites.exists_pair
    refine ⟨List.forall_mem_cons.2 ⟨hcs, hcss⟩, ?_⟩
    rw [pathValue?, hpair, List.find?_cons]
    by_cases hgives : p.GivesPath
    · simp [hkey.2 hgives, hgives, htrim]
    · simp [mt hkey.1 hgives, hgives, hvalue]
  | @other ps cs css hequals hsemicolon _ ih =>
    obtain ⟨hcss, hvalue⟩ := ih
    refine ⟨List.forall_mem_cons.2 ⟨hsemicolon, hcss⟩, ?_⟩
    rw [pathValue?, pair?_of_not_mem hequals]
    exact hvalue

theorem Segments.exists_mem {ps : List Pair} {css : List (List Char)} (h : Segments ps css)
    (hne : ps ≠ []) : ∃ cs ∈ css, '=' ∈ cs := by
  induction h with
  | nil => exact absurd rfl hne
  | pair hwrites _ _ =>
    refine ⟨_, List.mem_cons_self, ?_⟩
    obtain ⟨-, -, -, -, -⟩ := hwrites
    simp
  | other _ _ _ ih =>
    obtain ⟨cs, hcs, hmem⟩ := ih hne
    exact ⟨cs, List.mem_cons_of_mem _ hcs, hmem⟩

/-- A path is the value of a segment, blanks around it apart. -/
theorem exists_of_pathValue?_eq {css : List (List Char)} {cs : List Char}
    (h : pathValue? css = some cs) : ∃ ds ∈ css, ∃ value, value <:+: ds ∧ cs = trimChars value := by
  induction css with
  | nil => cases h
  | cons ds css ih =>
    have hlater (h : pathValue? css = some cs) :
        ∃ es ∈ ds :: css, ∃ value, value <:+: es ∧ cs = trimChars value := by
      obtain ⟨es, hes, hvalue⟩ := ih h
      exact ⟨es, List.mem_cons_of_mem _ hes, hvalue⟩
    rw [pathValue?] at h
    obtain ⟨-, hnone⟩ | ⟨key, value, rfl, -, hsome⟩ := pair?_cases ds
    · rw [hnone] at h
      exact hlater h
    · rw [hsome] at h
      dsimp only at h
      split at h
      · have hsuffix : value <:+ key ++ '=' :: value := ⟨key ++ ['='], by simp⟩
        exact ⟨_, List.mem_cons_self, value, hsuffix.isInfix, (Option.some.inj h).symm⟩
      · exact hlater h

theorem infix_intercalate (sep : List Char) {cs : List Char} {css : List (List Char)}
    (h : cs ∈ css) : cs <:+: sep.intercalate css := by
  induction css with
  | nil => cases h
  | cons ds css ih =>
    cases css with
    | nil =>
      obtain rfl := List.mem_singleton.1 h
      rw [List.intercalate_singleton]
    | cons es css =>
      rw [List.intercalate_cons_cons]
      obtain rfl | h := List.mem_cons.1 h
      · exact ⟨[], sep ++ sep.intercalate (es :: css), by simp⟩
      · exact (ih h).trans (List.suffix_append _ _).isInfix

/-! ## Paths -/

/-- The path of a text with an equals sign is the one its segments give. -/
theorem path_of_mem {connection : String} (h : '=' ∈ connection.toList) :
    path connection = match pathValue? (connection.toList.splitOn ';') with
      | none => .error (.connection connection .noSource)
      | some cs =>
        if cs = [] then .error (.connection connection .emptySource)
        else .ok (String.ofList cs) := by
  have hmem : '=' ∈ trimChars connection.toList := (Text.mem_trimChars_iff rfl).2 h
  have hne : trimChars connection.toList ≠ [] := List.ne_nil_of_mem hmem
  have hcontains : (trimChars connection.toList).contains '=' = true := List.contains_iff_mem.2 hmem
  rw [← pathValue?_trimChars, ← map_sourceValue?, path, source]
  simp only [List.isEmpty_iff, if_neg hne, hcontains]
  cases sourceValue? (trimChars connection.toList) with
  | none => simp
  | some value => by_cases hvalue : trimChars value = [] <;> simp [hvalue]

/-- The path of a text without an equals sign is the text. -/
theorem path_of_not_mem {connection : String} (h : '=' ∉ connection.toList) :
    path connection =
      if Blank connection.toList then .error (.connection connection .empty)
      else .ok (Text.trim connection) := by
  have hmem : '=' ∉ trimChars connection.toList := mt (Text.mem_trimChars_iff rfl).1 h
  have hcontains : (trimChars connection.toList).contains '=' = false :=
    Bool.eq_false_iff.2 (mt List.contains_iff_mem.1 hmem)
  rw [path, source]
  simp only [List.isEmpty_iff, Text.trimChars_eq_nil_iff, hcontains]
  by_cases hblank : Blank connection.toList <;> simp [hblank, Text.trim]

/-- The first pair whose key is that of the path gives it, blanks around its value apart,
    whatever stands before and after the pair; without such a pair, and with a blank as its value,
    there is no path. A text without an equals sign is the path, blanks around it apart. A path is
    a part of the text, never empty and with no blank at either end. -/
theorem path_reads (connection : String) :
    (∀ ps, ps ≠ [] → Written ps connection →
      path connection = match ps.find? (·.GivesPath) with
        | none => .error (.connection connection .noSource)
        | some p =>
          if Blank p.value.toList then .error (.connection connection .emptySource)
          else .ok (Text.trim p.value)) ∧
    ('=' ∉ connection.toList →
      path connection =
        if Blank connection.toList then .error (.connection connection .empty)
        else .ok (Text.trim connection)) ∧
    ∀ p, path connection = .ok p →
      p ≠ "" ∧ Text.Trimmed p.toList ∧ p.toList <:+: connection.toList := by
  refine ⟨fun ps hne hwritten => ?_, path_of_not_mem, fun p hp => ?_⟩
  · obtain ⟨before, css, after, hbefore, hsegments, hafter, hconnection⟩ := hwritten
    obtain ⟨hplain, hvalue⟩ := hsegments.pathValue?_eq
    obtain ⟨cs, hcs, hequals⟩ := hsegments.exists_mem hne
    have hpadded := forall₂_padded_splitOn (List.ne_nil_of_mem hcs) hplain hbefore hafter
    rw [← hconnection] at hpadded
    have hmem : '=' ∈ connection.toList := by
      rw [hconnection, List.mem_append, List.mem_append]
      exact .inr (.inl ((infix_intercalate _ hcs).subset hequals))
    rw [path_of_mem hmem, pathValue?_of_padded hpadded, hvalue]
    cases ps.find? (·.GivesPath) with
    | none => rfl
    | some p => simp only [Option.map_some, Text.trimChars_eq_nil_iff, Text.trim]
  · have hmeets {cs : List Char} (hne : cs ≠ []) (htrimmed : Text.Trimmed cs)
        (hpart : cs <:+: connection.toList) (hcs : p = String.ofList cs) :
        p ≠ "" ∧ Text.Trimmed p.toList ∧ p.toList <:+: connection.toList := by
      subst hcs
      rw [String.toList_ofList]
      exact ⟨fun h => hne (by simpa using congrArg String.toList h), htrimmed, hpart⟩
    by_cases hmem : '=' ∈ connection.toList
    · rw [path_of_mem hmem] at hp
      cases hvalue : pathValue? (connection.toList.splitOn ';') with
      | none =>
        rw [hvalue] at hp
        cases hp
      | some cs =>
        obtain ⟨ds, hds, value, hvalue', rfl⟩ := exists_of_pathValue?_eq hvalue
        rw [hvalue] at hp
        dsimp only at hp
        split at hp
        · cases hp
        · next hne =>
          have hsegment : ds <:+: connection.toList := by
            simpa only [List.intercalate_splitOn] using infix_intercalate [';'] hds
          exact hmeets hne (Text.trimmed_trimChars _)
            (((Text.infix_trimChars value).trans hvalue').trans hsegment) (Except.ok.inj hp).symm
    · rw [path_of_not_mem hmem] at hp
      split at hp
      · cases hp
      · next hblank =>
        exact hmeets (mt Text.trimChars_eq_nil_iff.1 hblank) (Text.trimmed_trimChars _)
          (Text.infix_trimChars _) (Except.ok.inj hp).symm

/-- A pair that gives a path, with an equals sign in its value. -/
def mixedSource : Pair := ⟨"Data Source", "my=file.db", by decide, by decide⟩

/-- Pairs of which the second and the third give a path. -/
def mixedPairs : List Pair :=
  [⟨"Mode", "rwc", by decide, by decide⟩, mixedSource,
    ⟨"Filename", "other.db", by decide, by decide⟩]

theorem written_mixedPairs :
    Written mixedPairs "\t Mode=rwc ;junk;; dATA sOURCE = my=file.db;FileName=other.db \u2003" := by
  have hnone : Blank [] := nofun
  have hspace : Blank [' '] := by decide
  refine ⟨['\t', ' '], ["Mode=rwc ".toList, "junk".toList, [], " dATA sOURCE = my=file.db".toList,
    "FileName=other.db".toList], [' ', '\u2003'], by decide, ?_, by decide, by decide⟩
  refine .pair (@Pair.Writes.mk _ "Mode".toList _ _ _ _ (by decide) hnone hnone hnone hspace) ?_
  refine .other (by decide) (by decide) (.other (by decide) (by decide) ?_)
  refine .pair (@Pair.Writes.mk _ "dATA sOURCE".toList _ _ _ _ (by decide) hspace hspace hspace
    hnone) ?_
  exact .pair (@Pair.Writes.mk _ "FileName".toList _ _ _ _ (by decide) hnone hnone hnone hnone)
    .nil

theorem path_reads_mixed :
    path "\t Mode=rwc ;junk;; dATA sOURCE = my=file.db;FileName=other.db \u2003" =
        .ok "my=file.db" ∧
      Text.Trimmed "my=file.db".toList ∧
      path " my.db\t" = .ok "my.db" := by
  have hfind : mixedPairs.find? (·.GivesPath) = some mixedSource := by
    rw [mixedPairs, List.find?_cons_of_neg (by decide), List.find?_cons_of_pos (by decide)]
  have hpath := (path_reads _).1 mixedPairs (List.cons_ne_nil _ _) written_mixedPairs
  simp only [hfind] at hpath
  rw [if_neg (by decide)] at hpath
  have hbare := (path_reads " my.db\t").2.1 (by decide)
  rw [if_neg (by decide)] at hbare
  exact ⟨hpath, ((path_reads _).2.2 _ hpath).2.1, hbare⟩

end Store.Connection

end EntityQuery
