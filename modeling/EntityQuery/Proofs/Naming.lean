import EntityQuery.Proofs.Reading

/-!
# Texts that are names

A text that is read as a name (`readName?`) may have comments before it and spaces
after it, and the name may stand in quotes. Where such a text is put into a
statement, it keeps to itself: the comments before the name are closed, since the name
comes after them, and so are the quotes.

* `whole_of_readName?`: what is read as a name is whole;
* `exists_token_of_readName?`: it has a single token, which is the name;
* `readName?_of_isColumnName`: a plain name is read as itself.
-/

namespace EntityQuery.Sql

/-- The name that a text is, if it is a name and nothing else but spaces around it. -/
def readName? (s : String) : Option String :=
  match scanLexemes s.toList with
  | [l] => if s.contains '\x00' || !l.rest.all Token.isSpace then none else l.token.name?
  | _ => none

namespace Token

/-! ## Blanks before a name -/

theorem dropWhile_append_of_ne_nil {p : Char → Bool} {cs : List Char} (h : cs.dropWhile p ≠ [])
    (rest : List Char) : (cs ++ rest).dropWhile p = cs.dropWhile p ++ rest := by
  rw [List.dropWhile_append, if_neg (by simpa using h)]

/-- A comment that is closed goes no further. -/
theorem afterComment_append {cs : List Char} (h : afterComment cs ≠ []) (rest : List Char) :
    afterComment (cs ++ rest) = afterComment cs ++ rest := by
  induction cs with
  | nil => exact absurd rfl h
  | cons c cs ih =>
    cases cs with
    | nil =>
      rw [show afterComment [c] = [] by simp only [afterComment]] at h
      exact absurd rfl h
    | cons d ds =>
      simp only [List.cons_append, afterComment] at h ⊢
      split
      · next heq =>
        cases heq
        rfl
      · next hne =>
        split at h
        · next heq =>
          cases heq
          exact absurd rfl (hne _ rfl)
        · exact ih h

/-- A blank with something after it goes no further. -/
theorem afterBlank?_append {c : Char} {cs after : List Char} (h : afterBlank? c cs = some after)
    (hne : after ≠ []) (rest : List Char) :
    afterBlank? c (cs ++ rest) = some (after ++ rest) := by
  unfold afterBlank? at h ⊢
  split at h
  · next hspace =>
    cases h
    rw [if_pos hspace, dropWhile_append_of_ne_nil hne]
  next hspace =>
  rw [if_neg hspace]
  split at h
  · next hmark =>
    cases h
    rw [if_pos hmark]
  next hmark =>
  rw [if_neg hmark]
  split at h
  · cases h
    simp only [List.cons_append]
    rw [dropWhile_append_of_ne_nil hne]
  · cases h
    simp only [List.cons_append]
    rw [← List.cons_append, afterComment_append hne]
  · cases h

/-- What starts a name starts no blank, whatever follows. -/
theorem afterBlank?_eq_none {c : Char} {cs : List Char} (h : afterBlank? c cs = none)
    {name : String} (hn : (read c cs).1.name? = some name) (rest : List Char) :
    afterBlank? c (cs ++ rest) = none := by
  have hsign {c : Char} {cs : List Char} : (readSign c cs).1.name? = none := by
    unfold readSign
    split <;> rfl
  unfold afterBlank? at h ⊢
  split at h
  · cases h
  next hspace =>
  rw [if_neg hspace]
  split at h
  · cases h
  next hmark =>
  rw [if_neg hmark]
  split
  · have : (readSign '-' cs).1.name? = some name := hn
    rw [hsign] at this
    cases this
  · have : (readSign '/' cs).1.name? = some name := hn
    rw [hsign] at this
    cases this
  · rfl

/-! ## Names -/

theorem untilMark_append {mark : Char} {cs s after rest : List Char}
    (h : untilMark mark cs = some (s, after)) (hr : Stops (· == mark) rest) :
    untilMark mark (cs ++ rest) = some (s, after ++ rest) := by
  fun_induction untilMark mark cs generalizing s after with
  | case1 => cases h
  | case2 c cs hc ih =>
    obtain ⟨⟨s', after'⟩, h', he⟩ := Option.map_eq_some_iff.1 h
    cases he
    rw [List.cons_append, untilMark.eq_def]
    simp only [hc, if_true, ih h', Option.map_some]
  | case3 c hc d rest' hd ih =>
    obtain ⟨⟨s', after'⟩, h', he⟩ := Option.map_eq_some_iff.1 h
    cases he
    simp only [List.cons_append, untilMark, hc, hd, Bool.false_eq_true, if_false, if_true, ih h',
      Option.map_some]
  | case4 c hc d rest' hd =>
    cases h
    simp only [List.cons_append, untilMark, hc, hd, Bool.false_eq_true, if_false]
  | case5 c hc =>
    cases h
    -- The mark is the last character: what follows must not double it.
    cases rest with
    | nil => simp only [List.append_nil, untilMark, hc, Bool.false_eq_true, if_false]
    | cons e es =>
      have he : (e == mark) = false := hr e rfl
      simp only [List.cons_append, List.nil_append, untilMark, hc, he, Bool.false_eq_true, if_false]

theorem untilBracket_append {cs s after : List Char} (h : untilBracket cs = some (s, after))
    (rest : List Char) : untilBracket (cs ++ rest) = some (s, after ++ rest) := by
  unfold untilBracket at h
  split at h
  · next d ds hd =>
    cases h
    have hne : cs.dropWhile (· != ']') ≠ [] := by
      rw [hd]
      exact nofun
    have hdrop := dropWhile_append_of_ne_nil hne rest
    have htake : (cs ++ rest).takeWhile (· != ']') = cs.takeWhile (· != ']') := by
      have hlength : (cs.takeWhile (· != ']') ++ cs.dropWhile (· != ']')).length = cs.length :=
        congrArg List.length List.takeWhile_append_dropWhile
      rw [List.takeWhile_append, if_neg]
      rw [hd, List.length_append, List.length_cons] at hlength
      omega
    rw [untilBracket, hdrop, hd, htake]
    rfl
  · cases h

/-- A name starts with a character of a name, or with a mark. -/
theorem startsName_or_opensQuotes {c : Char} {cs : List Char} {name : String}
    (hn : (read c cs).1.name? = some name) :
    startsBlob c cs = false ∧ (startsName c = true ∨ opensQuotes c = true) := by
  have hblob : startsBlob c cs = false := by
    rw [Bool.eq_false_iff]
    intro hb
    simp only [read, hb, if_true, readBlob] at hn
    repeat' split at hn
    all_goals cases hn
  refine ⟨hblob, ?_⟩
  rw [or_iff_not_imp_left, Bool.not_eq_true]
  intro hword
  rw [← Bool.not_eq_false]
  intro hquotes
  -- What is left are numbers, parameters and signs, none of which is a name.
  simp only [read, hblob, hword, hquotes, Bool.false_eq_true, if_false] at hn
  split at hn
  · simp only [readNumber, ofNumber] at hn
    repeat' split at hn
    all_goals cases hn
  split at hn
  · simp only [readParameter] at hn
    repeat' split at hn
    all_goals cases hn
  simp only [readSign] at hn
  split at hn <;> cases hn

/-- A word with spaces after it is read so wherever it ends: at the spaces, or else where
    what follows keeps it apart. -/
theorem read_append_word {c : Char} {cs : List Char} (hword : startsName c = true)
    (hblob : startsBlob c cs = false) (hs : ∀ d ∈ (read c cs).2, isSpace d = true)
    {rest : List Char} (hr : Separated rest) :
    read c (cs ++ rest) = ((read c cs).1, (read c cs).2 ++ rest) := by
  have hblob' : startsBlob c (cs ++ rest) = false := by
    cases cs with
    | cons d ds => exact hblob
    | nil =>
      have hmark : (rest.head? == some '\'') = false := by
        cases rest with
        | nil => rfl
        | cons d ds =>
          have hd : (d == '\'') = false := hr.stops (p := (· == '\'')) (by decide) d rfl
          simpa using hd
      rw [List.nil_append, startsBlob, hmark, Bool.and_false]
  -- What the word leaves is empty or starts with a space, which no name goes on with.
  simp only [read, hblob, hblob', hword, Bool.false_eq_true, if_false, if_true] at hs ⊢
  have hstops : Stops continuesName (cs.dropWhile continuesName ++ rest) := by
    cases hd : cs.dropWhile continuesName with
    | nil => exact hr.stops (by decide)
    | cons d ds =>
      rw [hd] at hs
      have := hs d List.mem_cons_self
      simp only [isSpace, Bool.or_eq_true, beq_iff_eq] at this
      rw [List.cons_append, stops_cons]
      obtain (((rfl | rfl) | rfl) | rfl) | rfl := this <;> rfl
  have hall : ∀ d ∈ cs.takeWhile continuesName, continuesName d = true :=
    List.all_eq_true.1 List.all_takeWhile
  have hcs : cs ++ rest =
      cs.takeWhile continuesName ++ (cs.dropWhile continuesName ++ rest) := by
    rw [← List.append_assoc, List.takeWhile_append_dropWhile]
  rw [hcs, takeWhile_append_of_stops hall hstops, dropWhile_append_of_stops hall hstops]

/-- Quotes that are closed are read so whatever follows. -/
theorem read_append_quoted {c : Char} {cs : List Char} (hquotes : opensQuotes c = true)
    {name : String} (hn : (read c cs).1.name? = some name) {rest : List Char}
    (hr : Separated rest) : read c (cs ++ rest) = ((read c cs).1, (read c cs).2 ++ rest) := by
  have hread (cs : List Char) : read c cs = readQuoted c cs := by
    simp only [opensQuotes, Bool.or_eq_true, beq_iff_eq] at hquotes
    obtain ((rfl | rfl) | rfl) | rfl := hquotes <;> rfl
  simp only [hread, readQuoted] at hn ⊢
  split at hn
  · next s after hafter =>
    have hmark : (if c == '[' then untilBracket (cs ++ rest) else untilMark c (cs ++ rest)) =
        some (s, after ++ rest) := by
      split
      · next hbracket =>
        rw [if_pos hbracket] at hafter
        exact untilBracket_append hafter rest
      · next hbracket =>
        rw [if_neg hbracket] at hafter
        refine untilMark_append hafter (hr.stops ?_)
        simp only [opensQuotes, Bool.or_eq_true, beq_iff_eq] at hquotes
        obtain ((rfl | rfl) | rfl) | rfl := hquotes <;> decide
    rw [hmark]
  · cases hn

/-- What is read as a name with spaces after it is read so wherever it ends. -/
theorem read_append {c : Char} {cs : List Char} {name : String}
    (hn : (read c cs).1.name? = some name) (hs : ∀ d ∈ (read c cs).2, isSpace d = true)
    {rest : List Char} (hr : Separated rest) :
    read c (cs ++ rest) = ((read c cs).1, (read c cs).2 ++ rest) := by
  obtain ⟨hblob, hword | hquotes⟩ := startsName_or_opensQuotes hn
  · exact read_append_word hword hblob hs hr
  · exact read_append_quoted hquotes hn hr

end Token

/-! ## Texts that are names -/

/-- Spaces before what keeps a name apart mean nothing. -/
theorem scan_spaces {cs : List Char} (hs : ∀ c ∈ cs, Token.isSpace c = true) {rest : List Char}
    (hr : Separated rest) : scan (cs ++ rest) = scan rest := by
  cases cs with
  | nil => rfl
  | cons c cs =>
    have hcs : ∀ d ∈ cs, (Token.isSpace d || d == '\x0b') = true := fun d hd => by
      rw [hs d (List.mem_cons_of_mem _ hd), Bool.true_or]
    rw [List.cons_append, scan_space (hs c List.mem_cons_self), List.dropWhile_append_of_pos hcs]
    cases rest with
    | nil => rfl
    | cons d ds =>
      rcases separates_eq_true_iff.1 (separated_cons.1 hr) with rfl | rfl | rfl
      · exact (scan_space rfl ds).symm
      · rfl
      · rfl

/-- A text with a single token, which is a name, keeps to itself. -/
theorem scan_append_of_name? {cs : List Char} {l : Lexeme} {name : String}
    (h : scanLexemes cs = [l]) (hn : l.token.name? = some name)
    (hs : ∀ d ∈ l.rest, Token.isSpace d = true) {rest : List Char} (hr : Separated rest) :
    scan (cs ++ rest) = l.token :: scan rest := by
  fun_induction scanLexemes cs with
  | case1 => cases h
  | case2 c cs after hafter ih =>
    -- The blank does not reach to the end, since the name comes after it.
    have hne : after ≠ [] := by
      rintro rfl
      rw [scanLexemes] at h
      cases h
    rw [List.cons_append, scan_of_afterBlank? (Token.afterBlank?_append hafter hne rest), ih h]
  | case3 c cs hafter ih =>
    obtain ⟨rfl, -⟩ := List.cons.inj h
    rw [List.cons_append, scan_of_read (Token.afterBlank?_eq_none hafter hn rest)
      (Token.read_append hn hs hr), scan_spaces hs hr]

variable {s name : String}

/-- What a text is that is read as a name: a single lexeme. -/
theorem exists_lexeme_of_readName? (h : readName? s = some name) :
    ∃ l, scanLexemes s.toList = [l] ∧ l.token.name? = some name ∧ '\x00' ∉ s.toList ∧
      ∀ d ∈ l.rest, Token.isSpace d = true := by
  unfold readName? at h
  split at h
  · next l hl =>
    split at h
    · cases h
    · next hplain =>
      simp only [String.contains_char_eq, Bool.or_eq_true, decide_eq_true_eq, not_or,
        Bool.not_eq_true, Bool.not_eq_false', List.all_eq_true] at hplain
      exact ⟨l, hl, h, hplain.1, hplain.2⟩
  · cases h

/-- What is read as a name has a single token, which is the name. -/
theorem exists_token_of_readName? (h : readName? s = some name) :
    ∃ t, scan s.toList = [t] ∧ t.name? = some name := by
  obtain ⟨l, hl, hn, -, -⟩ := exists_lexeme_of_readName? h
  exact ⟨l.token, by rw [← map_token_scanLexemes, hl]; rfl, hn⟩

/-- What is read as a name keeps to itself. -/
theorem whole_of_readName? (h : readName? s = some name) : Whole s := by
  obtain ⟨l, hl, hn, hnul, hs⟩ := exists_lexeme_of_readName? h
  have hscan : scan s.toList = [l.token] := by rw [← map_token_scanLexemes, hl]; rfl
  refine ⟨hnul, fun hr => ?_, ?_⟩
  · rw [hscan, scan_append_of_name? hl hn hs hr]
    rfl
  · intro t ht
    rw [hscan, List.mem_singleton] at ht
    subst ht
    cases htoken : l.token with
    | word | quoted => rfl
    | _ => rw [htoken] at hn; cases hn

/-- A plain name is read as itself. -/
theorem readName?_of_isColumnName (h : isColumnName s = true) : readName? s = some s := by
  have hscan : scan s.toList = [.word s] := tokens_column h
  obtain ⟨hidentifier, hplain⟩ := isColumnName_iff.1 h
  obtain ⟨c, cs, hl, hc, hall⟩ := exists_of_isIdentifier hidentifier
  rw [hl] at hall
  have hcs : ∀ d ∈ cs, Token.continuesName d = true := fun d hd =>
    continuesName_of_continuesIdentifier (hall d (List.mem_cons_of_mem _ hd))
  have hread : Token.read c cs = (.word (String.ofList (c :: cs)), []) := by
    have := read_word (startsName_of_startsIdentifier hc) hcs (stops_nil _) (stops_nil _)
    rwa [List.append_nil] at this
  have hlexemes : scanLexemes s.toList = [⟨.word s, s.toList, []⟩] := by
    rw [hl, scanLexemes]
    split
    · next hafter =>
      rw [afterBlank?_of_startsIdentifier hc] at hafter
      cases hafter
    · rw [hread, ← hl, String.ofList_toList]
      rw [scanLexemes]
  have hnul : '\x00' ∉ s.toList := (whole_of_isIdentifier hidentifier).nul_not_mem
  have hends : (s.contains '\x00' || !([] : List Char).all Token.isSpace) = false := by
    rw [String.contains_char_eq, decide_eq_false hnul]
    rfl
  rw [readName?, hlexemes]
  simp only [hends, Bool.false_eq_true, if_false, Token.name?, (isReserved_eq_false hplain).1]

end EntityQuery.Sql
