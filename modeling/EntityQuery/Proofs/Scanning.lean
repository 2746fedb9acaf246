import EntityQuery.Proofs.Sentence
import EntityQuery.Sql.Token
import Mathlib.Tactic.Common

/-!
# The tokens of a rendered statement

Names are put into a statement as they are, so that its tokens are known only if
every name keeps to itself: what stands after it is read as if the name were not
there, and the name itself is read as it would be alone. Such a name is `Whole`; a
plain identifier is (`whole_of_isIdentifier`), but not a name in which a comment or a
quote is left open.

Of a rendered statement over whole names the tokens are those that the text shows
(`Term.tokens`, `Sentence.tokens`), whatever the names are:

* `scan_term`: the tokens of a term that a condition was lowered to;
* `tokens_text`: the tokens of a sentence.
-/

namespace EntityQuery.Sql

/-! ## Where a text stops -/

/-- A text does not go on with a character of the kind `p`. -/
def Stops (p : Char → Bool) (rest : List Char) : Prop := ∀ c ∈ rest.head?, p c = false

theorem stops_nil (p : Char → Bool) : Stops p [] := nofun

theorem stops_cons {p : Char → Bool} {c : Char} {cs : List Char} :
    Stops p (c :: cs) ↔ p c = false := by
  simp [Stops]

theorem takeWhile_append_of_stops {p : Char → Bool} {cs rest : List Char}
    (hc : ∀ c ∈ cs, p c = true) (hr : Stops p rest) : (cs ++ rest).takeWhile p = cs := by
  rw [List.takeWhile_append_of_pos hc]
  cases rest with
  | nil => exact List.append_nil _
  | cons c rest => simp [stops_cons.1 hr]

theorem dropWhile_append_of_stops {p : Char → Bool} {cs rest : List Char}
    (hc : ∀ c ∈ cs, p c = true) (hr : Stops p rest) : (cs ++ rest).dropWhile p = rest := by
  rw [List.dropWhile_append_of_pos hc]
  cases rest with
  | nil => rfl
  | cons c rest => simp [stops_cons.1 hr]

/-- A text that goes on after characters of a kind determines where they end. -/
theorem append_inj_of_stops {p : Char → Bool} {cs ds rest rest' : List Char}
    (hc : ∀ c ∈ cs, p c = true) (hd : ∀ c ∈ ds, p c = true) (hr : Stops p rest)
    (hr' : Stops p rest') (h : cs ++ rest = ds ++ rest') : cs = ds ∧ rest = rest' := by
  have hcs : cs = ds := by
    rw [← takeWhile_append_of_stops hc hr, h, takeWhile_append_of_stops hd hr']
  exact ⟨hcs, List.append_cancel_left (hcs ▸ h)⟩

/-- Lists that are joined are the first and then the others, each after the separator. -/
theorem intercalate_cons_eq_flatMap {α : Type} (separator part : List α) (parts : List (List α)) :
    separator.intercalate (part :: parts) = part ++ parts.flatMap (separator ++ ·) := by
  induction parts generalizing part with
  | nil => rw [List.intercalate_singleton, List.flatMap_nil, List.append_nil]
  | cons part' parts ih =>
    rw [List.intercalate_cons_cons, ih, List.flatMap_cons, List.append_assoc, List.append_assoc]

/-- Whether a character ends what stands before it in a rendered statement. -/
def separates (c : Char) : Bool := c == ' ' || c == ',' || c == ')'

/-- Nothing follows, or a character that ends what stands before it. -/
def Separated (rest : List Char) : Prop := ∀ c ∈ rest.head?, separates c = true

theorem separated_nil : Separated [] := nofun

theorem separated_cons {c : Char} {cs : List Char} : Separated (c :: cs) ↔ separates c = true := by
  simp [Separated]

theorem separates_eq_true_iff {c : Char} : separates c = true ↔ c = ' ' ∨ c = ',' ∨ c = ')' := by
  simp [separates, or_assoc]

/-- What none of the separating characters is of, a separated text does not go on
    with. -/
theorem Separated.stops {rest : List Char} (h : Separated rest) {p : Char → Bool}
    (hp : p ' ' = false ∧ p ',' = false ∧ p ')' = false) : Stops p rest := by
  intro c hc
  rcases separates_eq_true_iff.1 (h c hc) with rfl | rfl | rfl
  exacts [hp.1, hp.2.1, hp.2.2]

/-! ## Blanks, words, signs and parameters -/

theorem scan_nil : scan [] = [] := by
  rw [scan]

/-- A blank means nothing. -/
theorem scan_of_afterBlank? {c : Char} {cs rest : List Char}
    (h : Token.afterBlank? c cs = some rest) : scan (c :: cs) = scan rest := by
  rw [scan]
  split
  · next hr => rw [Option.some.inj (h.symm.trans hr)]
  · next hr =>
    rw [h] at hr
    cases hr

/-- With a space, the spaces and vertical tabs after it are passed over. -/
theorem scan_space {c : Char} (hc : Token.isSpace c = true) (cs : List Char) :
    scan (c :: cs) = scan (cs.dropWhile fun d => Token.isSpace d || d == '\x0b') := by
  refine scan_of_afterBlank? ?_
  simp only [Token.afterBlank?, hc, if_true]

/-- A blank means nothing, unless a vertical tab follows. -/
theorem scan_blank {cs : List Char} (h : Stops (· == '\x0b') cs) : scan (' ' :: cs) = scan cs := by
  rw [scan_space rfl]
  cases cs with
  | nil => rfl
  | cons d ds =>
    -- Further spaces are passed over by either of the two.
    by_cases hd : Token.isSpace d = true
    · rw [List.dropWhile_cons_of_pos (by simp [hd]), scan_space hd]
    · rw [List.dropWhile_cons_of_neg (by simpa [hd] using stops_cons.1 h)]

/-- What starts no blank is read as a token. -/
theorem scan_of_read {c : Char} {cs rest : List Char} {t : Token}
    (hb : Token.afterBlank? c cs = none) (hr : Token.read c cs = (t, rest)) :
    scan (c :: cs) = t :: scan rest := by
  rw [scan]
  split
  · next rest hr => rw [hb] at hr; cases hr
  · rw [hr]

theorem scan_open (cs : List Char) : scan ('(' :: cs) = .sign "(" :: scan cs :=
  scan_of_read rfl rfl

theorem scan_close (cs : List Char) : scan (')' :: cs) = .sign ")" :: scan cs :=
  scan_of_read rfl rfl

theorem scan_comma (cs : List Char) : scan (',' :: cs) = .sign "," :: scan cs :=
  scan_of_read rfl rfl

end EntityQuery.Sql

/-- The token of an operator. -/
def EntityQuery.BinaryOp.token : BinaryOp → Sql.Token
  | eq => .sign "="
  | ne => .sign "<>"
  | lt => .sign "<"
  | le => .sign "<="
  | gt => .sign ">"
  | ge => .sign ">="
  | and => .word "AND"
  | or => .word "OR"

namespace EntityQuery.Sql

theorem scan_operator (op : BinaryOp) (cs : List Char) :
    scan (op.symbol.toList ++ ' ' :: cs) = op.token :: scan (' ' :: cs) := by
  cases op <;> exact scan_of_read rfl rfl

theorem scan_like (cs : List Char) :
    scan ("LIKE".toList ++ ' ' :: cs) = .word "LIKE" :: scan (' ' :: cs) :=
  scan_of_read rfl rfl

theorem isDigit_of_mem_toDigits {n : Nat} {c : Char} (h : c ∈ Nat.toDigits 10 n) :
    c.isDigit = true :=
  Nat.isDigit_of_mem_toDigits (by decide) (by decide) h

/-- The digits of a number determine it. -/
theorem toDigits_injective : Function.Injective (Nat.toDigits 10) := by
  intro k n h
  rw [← Nat.ofDigitChars_ten_toDigits (n := k), h, Nat.ofDigitChars_ten_toDigits]

/-- The digits of a number go on in a name. -/
theorem continuesName_of_mem_toDigits {n : Nat} {c : Char} (h : c ∈ Nat.toDigits 10 n) :
    Token.continuesName c = true := by
  simp [Token.continuesName, isDigit_of_mem_toDigits h]

theorem toList_placeholder (n : Nat) :
    (Predicate.placeholder n).toList = '@' :: 'p' :: Nat.toDigits 10 n := by
  simp [Predicate.placeholder]

/-- The names of placeholders differ as their numbers do. -/
theorem placeholder_injective : Function.Injective Predicate.placeholder := by
  intro k n h
  have hd := congrArg String.toList h
  rw [toList_placeholder, toList_placeholder] at hd
  exact toDigits_injective (List.tail_eq_of_cons_eq (List.tail_eq_of_cons_eq hd))

theorem afterParameter_cons {c : Char} (hc : Token.continuesName c = true) (named : Bool)
    (cs : List Char) : Token.afterParameter named (c :: cs) = Token.afterParameter true cs := by
  conv_lhs => unfold Token.afterParameter
  simp only [hc, if_true]

/-- A parameter ends where its name does. -/
theorem afterParameter_append {cs rest : List Char} (hc : ∀ c ∈ cs, Token.continuesName c = true)
    (hr : Separated rest) : Token.afterParameter true (cs ++ rest) = (rest, true) := by
  induction cs with
  | nil =>
    cases rest with
    | nil => rfl
    | cons c rest =>
      rcases separates_eq_true_iff.1 (separated_cons.1 hr) with rfl | rfl | rfl <;> rfl
  | cons c cs ih =>
    rw [List.cons_append, afterParameter_cons (hc c List.mem_cons_self)]
    exact ih fun d hd => hc d (List.mem_cons_of_mem _ hd)

theorem scan_placeholder (n : Nat) {rest : List Char} (h : Separated rest) :
    scan ((Predicate.placeholder n).toList ++ rest) =
      .parameter (Predicate.placeholder n) :: scan rest := by
  have ha : Token.afterParameter false ('p' :: (Nat.toDigits 10 n ++ rest)) = (rest, true) := by
    rw [afterParameter_cons rfl]
    exact afterParameter_append (fun _ => continuesName_of_mem_toDigits) h
  have hn : String.ofList ('@' :: 'p' :: Nat.toDigits 10 n) = Predicate.placeholder n := by
    rw [← toList_placeholder, String.ofList_toList]
  rw [toList_placeholder]
  refine scan_of_read rfl ?_
  show Token.readParameter '@' ('p' :: (Nat.toDigits 10 n ++ rest)) = _
  have hb : Token.before ('p' :: (Nat.toDigits 10 n ++ rest)) rest = 'p' :: Nat.toDigits 10 n := by
    rw [← List.cons_append, Token.before, List.length_append, Nat.add_sub_cancel]
    exact List.take_left
  simp only [Token.readParameter, ha, hb, hn, if_true]
  rfl

/-! ## Whole names -/

/-- Whether a token may stand in a name: it is none that has a meaning beyond it. -/
def Token.isInner : Token → Bool
  | .parameter _ | .illegal _ => false
  | .sign s => s != ";"
  | _ => true

/-- A name that keeps to itself where it stands in a statement: its tokens are its
    own, whatever follows it, and none of them is a parameter, ends the statement or
    is no token at all. -/
structure Whole (name : String) : Prop where
  nul_not_mem : '\x00' ∉ name.toList
  scan_append : ∀ {rest}, Separated rest →
    scan (name.toList ++ rest) = scan name.toList ++ scan rest
  isInner : ∀ t ∈ scan name.toList, t.isInner = true

/-- After a blank, a whole name is read as it would be alone. -/
theorem Whole.scan_blank_append {name : String} (h : Whole name) {rest : List Char}
    (hr : Separated rest) :
    scan (' ' :: (name.toList ++ rest)) = scan name.toList ++ scan rest := by
  have hs : Stops (· == '\x0b') (name.toList ++ rest) := by
    have hi := h.isInner
    cases hn : name.toList with
    | nil => exact hr.stops (by decide)
    | cons c cs =>
      rw [List.cons_append, stops_cons, Bool.eq_false_iff, ne_eq, beq_iff_eq]
      rintro rfl
      -- A vertical tab is no token, so no whole name starts with one.
      have htab : scan ('\x0b' :: cs) = .illegal "\x0b" :: scan cs := scan_of_read rfl rfl
      rw [hn, htab] at hi
      have := hi _ List.mem_cons_self
      cases this
  rw [scan_blank hs, h.scan_append hr]

/-- Whether a text is a plain identifier: ASCII letters, digits and underscores, of
    which a digit is not the first. -/
def isIdentifier (s : String) : Bool :=
  match s.toList with
  | [] => false
  | c :: cs => (c.isAlpha || c == '_') && cs.all fun c => c.isAlphanum || c == '_'

/-- What a name that starts with a character of a name is read as. -/
theorem read_word {c : Char} {cs rest : List Char} (hc : Token.startsName c = true)
    (hcs : ∀ c ∈ cs, Token.continuesName c = true) (hr : Stops Token.continuesName rest)
    (hq : Stops (· == '\'') rest) :
    Token.read c (cs ++ rest) = (.word (String.ofList (c :: cs)), rest) := by
  -- The letter of a blob, before a quote, is the one start of a name that starts none.
  have hb : Token.startsBlob c (cs ++ rest) = false := by
    have : ((cs ++ rest).head? == some '\'') = false := by
      cases cs with
      | nil =>
        cases rest with
        | nil => rfl
        | cons d ds => simpa using stops_cons.1 hq
      | cons d ds =>
        have := hcs d List.mem_cons_self
        rw [List.cons_append, List.head?_cons, Bool.eq_false_iff, ne_eq, beq_iff_eq]
        rintro hd
        cases hd
        cases this
    rw [Token.startsBlob, this, Bool.and_false]
  simp only [Token.read, hb, hc, if_true, Bool.false_eq_true, if_false,
    takeWhile_append_of_stops hcs hr, dropWhile_append_of_stops hcs hr]

/-- Whether a character starts a plain identifier. -/
def startsIdentifier (c : Char) : Bool := c.isAlpha || c == '_'

/-- What starts a plain identifier is no blank. -/
theorem afterBlank?_of_startsIdentifier {c : Char} (hc : startsIdentifier c = true)
    (cs : List Char) : Token.afterBlank? c cs = none := by
  have ne {d : Char} (hd : startsIdentifier d = false) : c ≠ d := by
    rintro rfl
    rw [hc] at hd
    cases hd
  have hs : Token.isSpace c = false := by
    simp [Token.isSpace, ne (d := ' ') rfl, ne (d := '\t') rfl, ne (d := '\n') rfl,
      ne (d := '\x0c') rfl, ne (d := '\r') rfl]
  have hm : (c == '\ufeff') = false := by simp [ne (d := '\ufeff') rfl]
  simp only [Token.afterBlank?, hs, hm, Bool.false_eq_true, if_false]
  split
  · exact absurd rfl (ne rfl)
  · exact absurd rfl (ne rfl)
  · rfl

theorem startsName_of_startsIdentifier {c : Char} (hc : startsIdentifier c = true) :
    Token.startsName c = true := by
  rw [startsIdentifier] at hc
  rw [Token.startsName, hc, Bool.true_or]

/-- Whether a character goes on in a plain identifier. -/
def continuesIdentifier (c : Char) : Bool := c.isAlphanum || c == '_'

/-- A plain identifier starts with a character other than a digit. -/
theorem exists_of_isIdentifier {s : String} (h : isIdentifier s = true) :
    ∃ c cs, s.toList = c :: cs ∧ startsIdentifier c = true ∧
      ∀ d ∈ s.toList, continuesIdentifier d = true := by
  simp only [isIdentifier] at h
  split at h
  · cases h
  · next c cs hl =>
    rw [Bool.and_eq_true, List.all_eq_true] at h
    refine ⟨c, cs, hl, h.1, ?_⟩
    rw [hl]
    intro d hd
    rcases List.mem_cons.1 hd with rfl | hd
    · have hd := h.1
      simp only [continuesIdentifier, Char.isAlphanum, Bool.or_eq_true] at hd ⊢
      tauto
    · exact h.2 d hd

theorem continuesName_of_continuesIdentifier {c : Char} (hc : continuesIdentifier c = true) :
    Token.continuesName c = true := by
  simp only [continuesIdentifier, Char.isAlphanum, Bool.or_eq_true] at hc
  simp only [Token.continuesName, Token.startsName, Bool.or_eq_true]
  tauto

/-- A plain identifier is read as a word, wherever no character of a name follows. -/
theorem scan_identifier {s : String} (hs : isIdentifier s = true) {rest : List Char}
    (hr : Stops Token.continuesName rest) (hq : Stops (· == '\'') rest) :
    scan (s.toList ++ rest) = .word s :: scan rest := by
  obtain ⟨c, cs, hl, hc, hall⟩ := exists_of_isIdentifier hs
  rw [hl] at hall
  have hcs : ∀ d ∈ cs, Token.continuesName d = true := fun d hd =>
    continuesName_of_continuesIdentifier (hall d (List.mem_cons_of_mem _ hd))
  rw [hl, List.cons_append, scan_of_read (afterBlank?_of_startsIdentifier hc _)
    (read_word (startsName_of_startsIdentifier hc) hcs hr hq), ← hl, String.ofList_toList]

/-- A plain identifier is a word. -/
theorem scan_of_isIdentifier {s : String} (hs : isIdentifier s = true) :
    scan s.toList = [.word s] := by
  have := scan_identifier hs (stops_nil _) (stops_nil _)
  rwa [List.append_nil, scan_nil] at this

/-- A plain identifier keeps to itself. -/
theorem whole_of_isIdentifier {s : String} (hs : isIdentifier s = true) : Whole s := by
  have hone := scan_of_isIdentifier hs
  refine ⟨?_, fun hr => ?_, ?_⟩
  · intro hn
    simp only [isIdentifier] at hs
    split at hs
    · next hl => rw [hl] at hn; cases hn
    · next c cs hl =>
      rw [hl] at hn
      rw [Bool.and_eq_true, List.all_eq_true] at hs
      rcases List.mem_cons.1 hn with rfl | hn
      · cases hs.1
      · cases hs.2 _ hn
  · rw [hone, scan_identifier hs (hr.stops (by decide)) (hr.stops (by decide))]
    rfl
  · intro t ht
    rw [hone, List.mem_singleton] at ht
    rw [ht]
    rfl

/-! ## Terms -/

namespace Term

/-- The tokens of a rendered term. -/
def tokens : Term → List Token
  | column name => scan name.toList
  | parameter name => [.parameter name]
  | binary op l r => .sign "(" :: (l.tokens ++ op.token :: (r.tokens ++ [.sign ")"]))
  | like t p => .sign "(" :: (t.tokens ++ .word "LIKE" :: (p.tokens ++ [.sign ")"]))
  | _ => []

end Term

theorem toList_binary_append (op : BinaryOp) (l r : Term) (rest : List Char) :
    (Term.binary op l r).sql.toList ++ rest =
      '(' :: (l.sql.toList ++ ' ' ::
        (op.symbol.toList ++ ' ' :: (r.sql.toList ++ ')' :: rest))) := by
  simp [Term.sql]

theorem toList_like_append (t : Term) (name : String) (rest : List Char) :
    (Term.like t (.parameter name)).sql.toList ++ rest =
      '(' :: (t.sql.toList ++ ' ' :: ("LIKE".toList ++ ' ' :: (name.toList ++ ')' :: rest))) := by
  simp [Term.sql]

/-- The tokens of a rendered term are those that its text shows, whatever stands
    before it: a blank or nothing. -/
theorem scan_term {t : Term} (ht : t.Rendered Whole) {rest : List Char} (hr : Separated rest) :
    scan (t.sql.toList ++ rest) = t.tokens ++ scan rest ∧
      scan (' ' :: (t.sql.toList ++ rest)) = t.tokens ++ scan rest := by
  -- Both claims are needed of the parts: a left side stands after a parenthesis, a right
  -- one after a blank.
  induction ht generalizing rest with
  | column hn => exact ⟨hn.scan_append hr, hn.scan_blank_append hr⟩
  | @parameter n =>
    have h := scan_placeholder n hr
    refine ⟨h, ?_⟩
    rw [scan_blank, Term.sql, h]
    · rfl
    · rw [Term.sql, toList_placeholder]
      exact stops_cons.2 rfl
  | @binary op l r _ _ ihl ihr =>
    have h : scan ((Term.binary op l r).sql.toList ++ rest) =
        (Term.binary op l r).tokens ++ scan rest := by
      have hb : Stops (· == '\x0b') (op.symbol.toList ++ ' ' :: (r.sql.toList ++ ')' :: rest)) := by
        cases op <;> exact stops_cons.2 rfl
      rw [toList_binary_append, scan_open, (ihl (separated_cons.2 rfl)).1, scan_blank hb,
        scan_operator, (ihr (separated_cons.2 rfl)).2, scan_close]
      simp [Term.tokens]
    refine ⟨h, ?_⟩
    rw [scan_blank, h]
    rw [toList_binary_append]
    exact stops_cons.2 rfl
  | @like t n _ ih =>
    have h : scan ((Term.like t (.parameter (Predicate.placeholder n))).sql.toList ++ rest) =
        (Term.like t (.parameter (Predicate.placeholder n))).tokens ++ scan rest := by
      have hp : scan (' ' :: ((Predicate.placeholder n).toList ++ ')' :: rest)) =
          .parameter (Predicate.placeholder n) :: scan (')' :: rest) := by
        rw [scan_blank, scan_placeholder n (separated_cons.2 rfl)]
        rw [toList_placeholder]
        exact stops_cons.2 rfl
      have hb : Stops (· == '\x0b') ("LIKE".toList ++
          ' ' :: ((Predicate.placeholder n).toList ++ ')' :: rest)) := stops_cons.2 rfl
      rw [toList_like_append, scan_open, (ih (separated_cons.2 rfl)).1, scan_blank hb,
        scan_like, hp, scan_close]
      simp [Term.tokens]
    refine ⟨h, ?_⟩
    rw [scan_blank, h]
    rw [toList_like_append]
    exact stops_cons.2 rfl

/-! ## Numbers -/

/-- The decimal digits. -/
def decimalDigits : List Char := ['0', '1', '2', '3', '4', '5', '6', '7', '8', '9']

theorem mem_decimalDigits {c : Char} (h : c.isDigit = true) : c ∈ decimalDigits := by
  have hall : ∀ n < 10, Char.ofNat (48 + n) ∈ decimalDigits := by decide
  have hc : 48 ≤ c.toNat ∧ c.toNat ≤ 57 := by
    simpa [Char.isDigit, UInt32.le_iff_toNat_le] using h
  have := hall (c.toNat - 48) (by omega)
  rwa [Nat.add_sub_cancel' hc.1, Char.ofNat_toNat] at this

/-- A digit starts a number, whatever follows. -/
theorem read_of_isDigit {c : Char} (h : c.isDigit = true) (cs : List Char) :
    Token.afterBlank? c cs = none ∧ Token.read c cs = Token.readNumber c cs := by
  have hc := mem_decimalDigits h
  simp only [decimalDigits, List.mem_cons, List.not_mem_nil, or_false] at hc
  obtain rfl | rfl | rfl | rfl | rfl | rfl | rfl | rfl | rfl | rfl := hc <;> exact ⟨rfl, rfl⟩

theorem marksDigits_of_isDigit {cs : List Char} (hd : ∀ d ∈ cs, d.isDigit = true) :
    Token.marksDigits cs = true := by
  have ne {d : Char} (h : d.isDigit = true) : (d != '_') = true := by
    rw [bne_iff_ne]
    rintro rfl
    cases h
  fun_induction Token.marksDigits cs with
  | case1 => rfl
  | case2 c => exact ne (hd c List.mem_cons_self)
  | case3 c d rest ih =>
    have hr : Token.marksDigits (d :: rest) = true :=
      ih fun e he => hd e (List.mem_cons_of_mem _ he)
    simp [ne (hd c List.mem_cons_self), ne (hd d (List.mem_cons_of_mem _ List.mem_cons_self)), hr]

/-- Digits are the number that they spell. -/
theorem ofNumber_of_isDigit {cs : List Char} (hd : ∀ d ∈ cs, d.isDigit = true) :
    Token.ofNumber cs = .number (Token.numberOf cs) := by
  have hf : cs.filter (· != '_') = cs := by
    rw [List.filter_eq_self]
    intro d h
    rw [bne_iff_ne]
    rintro rfl
    cases hd _ h
  simp only [Token.ofNumber, hf, marksDigits_of_isDigit hd, List.all_eq_true.2 hd, Bool.not_true,
    Bool.false_eq_true, if_false, if_true]

/-- A number of digits alone goes on to the end of the text. -/
theorem afterNumber_of_isDigit {c : Char} {cs : List Char} (hc : c.isDigit = true)
    (hd : ∀ d ∈ cs, d.isDigit = true) : Token.afterNumber c cs = [] := by
  have hm : cs.dropWhile Token.isDigitOrMark = [] := by
    have hall : ∀ d ∈ cs, Token.isDigitOrMark d = true := fun d h => by
      rw [Token.isDigitOrMark, hd d h, Bool.true_or]
    simpa using dropWhile_append_of_stops hall (stops_nil _)
  simp only [Token.afterNumber]
  split
  · next x h rest =>
    have hx : (x == 'x' || x == 'X') = false := by
      have := hd x List.mem_cons_self
      rw [Bool.or_eq_false_iff, beq_eq_false_iff_ne, beq_eq_false_iff_ne]
      constructor <;> rintro rfl <;> cases this
    rw [hx, Bool.false_and, if_neg Bool.false_ne_true, hm]
    rfl
  · cases hc
  · rw [hm]
    rfl

/-- Digits at the end of a text are read as the number that they spell. -/
theorem scan_digits {cs : List Char} (hd : ∀ d ∈ cs, d.isDigit = true) (hn : cs ≠ []) :
    scan cs = [.number (Token.numberOf cs)] := by
  cases cs with
  | nil => exact absurd rfl hn
  | cons c cs =>
    have hc := hd c List.mem_cons_self
    obtain ⟨hb, hr⟩ := read_of_isDigit hc cs
    have ha : Token.afterNumber c cs = [] :=
      afterNumber_of_isDigit hc fun d h => hd d (List.mem_cons_of_mem _ h)
    have hbefore : Token.before cs [] = cs := List.take_length
    rw [scan_of_read hb (hr.trans (?_ : _ = (.number (Token.numberOf (c :: cs)), []))), scan]
    simp only [Token.readNumber, ha, List.dropWhile_nil, if_true, hbefore, ofNumber_of_isDigit hd]

theorem scan_toString (n : Nat) : scan (toString n).toList = [.number n] := by
  have hs : (toString n).toList = Nat.toDigits 10 n := by simp
  have hn : Token.numberOf (Nat.toDigits 10 n) = n := Nat.ofDigitChars_ten_toDigits
  rw [hs, scan_digits (fun _ => isDigit_of_mem_toDigits) Nat.toDigits_ne_nil, hn]

/-! ## Sentences -/

namespace Sentence

/-- The tokens of names with commas between them. -/
def nameTokens (names : List String) : List Token :=
  [.sign ","].intercalate (names.map fun name => scan name.toList)

/-- The tokens of the condition of a sentence. -/
def conditionTokens (s : Sentence) : List Token :=
  match s.condition with
  | some t => .word "WHERE" :: t.tokens
  | none => []

/-- The tokens of the limit of a sentence. -/
def limitTokens (s : Sentence) : List Token :=
  match s.limit with
  | some n => [.word "LIMIT", .number n]
  | none => []

/-- The tokens of a sentence. -/
def tokens (s : Sentence) : List Token :=
  .word "SELECT" :: (nameTokens s.columns ++ .word "FROM" :: (scan s.table.toList ++
    (s.conditionTokens ++ s.limitTokens)))

end Sentence

/-- A word of a sentence keeps to itself. -/
theorem scan_keyword {w : String} (hw : isIdentifier w = true) (cs : List Char) :
    scan (w.toList ++ ' ' :: cs) = .word w :: scan (' ' :: cs) :=
  scan_identifier hw (stops_cons.2 rfl) (stops_cons.2 rfl)

/-- After a blank, a plain identifier is read as a word. -/
theorem scan_blank_word {w : String} (hw : isIdentifier w = true) {rest : List Char}
    (hr : Separated rest) : scan (' ' :: (w.toList ++ rest)) = .word w :: scan rest := by
  rw [(whole_of_isIdentifier hw).scan_blank_append hr, scan_of_isIdentifier hw]
  rfl

theorem scan_blank_keyword {w : String} (hw : isIdentifier w = true) (cs : List Char) :
    scan (' ' :: (w.toList ++ ' ' :: cs)) = .word w :: scan (' ' :: cs) :=
  scan_blank_word hw (separated_cons.2 rfl)

/-- After a blank, names with commas between them are read one after the other. -/
theorem scan_names {names : List String} (hn : ∀ name ∈ names, Whole name) {rest : List Char}
    (hr : Separated rest) :
    scan (' ' :: ([',', ' '].intercalate (names.map String.toList) ++ rest)) =
      Sentence.nameTokens names ++ scan rest := by
  induction names with
  | nil => exact scan_blank (hr.stops (by decide))
  | cons name names ih =>
    have hw := hn name List.mem_cons_self
    cases names with
    | nil =>
      simp only [Sentence.nameTokens, List.map_cons, List.map_nil, List.intercalate_singleton]
      exact hw.scan_blank_append hr
    | cons name' names =>
      have ih := ih fun n h => hn n (List.mem_cons_of_mem _ h)
      simp only [Sentence.nameTokens, List.map_cons, List.intercalate_cons_cons] at ih ⊢
      simp only [List.append_assoc, List.cons_append, List.nil_append] at ih ⊢
      -- The comma ends the name, and the others come after it and a blank.
      rw [hw.scan_blank_append (separated_cons.2 rfl), scan_comma, ih]

/-- The limit of a sentence, at the end of its text. -/
theorem scan_limitText (s : Sentence) :
    Separated s.limitText.toList ∧ scan s.limitText.toList = s.limitTokens := by
  simp only [Sentence.limitText, Sentence.limitTokens]
  cases s.limit with
  | none => exact ⟨separated_nil, scan_nil⟩
  | some n =>
    have ht : (" LIMIT " ++ toString n).toList =
        ' ' :: ("LIMIT".toList ++ ' ' :: (toString n).toList) := by
      simp
    have hd : Stops (· == '\x0b') (toString n).toList := by
      intro c hc
      have hc : c ∈ Nat.toDigits 10 n := by
        simpa using List.mem_of_mem_head? hc
      rw [beq_eq_false_iff_ne]
      rintro rfl
      cases isDigit_of_mem_toDigits hc
    rw [ht]
    refine ⟨separated_cons.2 rfl, ?_⟩
    rw [scan_blank_keyword rfl, scan_blank hd, scan_toString]

/-- The condition of a sentence, and what follows it. -/
theorem scan_conditionText {s : Sentence} (ht : ∀ t ∈ s.condition, t.Rendered Whole)
    {rest : List Char} (hr : Separated rest) :
    Separated (s.conditionText.toList ++ rest) ∧
      scan (s.conditionText.toList ++ rest) = s.conditionTokens ++ scan rest := by
  simp only [Sentence.conditionText, Sentence.conditionTokens]
  cases hc : s.condition with
  | none => exact ⟨hr, rfl⟩
  | some t =>
    have hw : (" WHERE " ++ t.sql).toList ++ rest =
        ' ' :: ("WHERE".toList ++ ' ' :: (t.sql.toList ++ rest)) := by
      simp
    rw [hw]
    refine ⟨separated_cons.2 rfl, ?_⟩
    rw [scan_blank_keyword rfl, (scan_term (ht t hc) hr).2]
    rfl

/-- The text of a sentence over whole names has the tokens that it shows. -/
theorem scan_text {s : Sentence} (hn : ∀ name ∈ s.names, Whole name)
    (ht : ∀ t ∈ s.condition, t.Rendered Whole) :
    scan s.text.toList = s.tokens := by
  obtain ⟨hl, hlimit⟩ := scan_limitText s
  obtain ⟨hc, hcondition⟩ := scan_conditionText ht hl
  have htable := hn s.table List.mem_cons_self
  have hcolumns : ∀ name ∈ s.columns, Whole name := fun name h => hn name (List.mem_cons_of_mem _ h)
  rw [Sentence.toList_text, scan_keyword rfl, scan_names hcolumns (separated_cons.2 rfl),
    scan_blank_keyword rfl, htable.scan_blank_append hc, hcondition, hlimit]
  rfl

/-! ## No NUL -/

/-- What is in a joined list is in the separator or in one of the parts. -/
theorem mem_of_mem_intercalate {α : Type} {a : α} {separator : List α} {parts : List (List α)}
    (h : a ∈ separator.intercalate parts) : a ∈ separator ∨ ∃ part ∈ parts, a ∈ part := by
  cases parts with
  | nil => cases h
  | cons part parts =>
    rw [intercalate_cons_eq_flatMap, List.mem_append, List.mem_flatMap] at h
    obtain h | ⟨part', hpart, h⟩ := h
    · exact .inr ⟨part, List.mem_cons_self, h⟩
    · obtain h | h := List.mem_append.1 h
      · exact .inl h
      · exact .inr ⟨part', List.mem_cons_of_mem _ hpart, h⟩

/-- What is in none of the texts, nor in the commas between them, is not in the joined text. -/
theorem not_mem_intercalate_map {α : Type} {c : Char} (hc : c ∉ [',', ' ']) {f : α → List Char}
    {l : List α} (h : ∀ a ∈ l, c ∉ f a) : c ∉ [',', ' '].intercalate (l.map f) := by
  intro hmem
  obtain hmem | ⟨part, hpart, hmem⟩ := mem_of_mem_intercalate hmem
  · exact hc hmem
  · obtain ⟨a, ha, rfl⟩ := List.mem_map.1 hpart
    exact h a ha hmem

/-- There is no NUL in a number. -/
theorem nul_not_mem_toDigits (n : Nat) : '\x00' ∉ Nat.toDigits 10 n := by
  intro h
  cases isDigit_of_mem_toDigits h

theorem nul_not_mem_placeholder (n : Nat) : '\x00' ∉ (Predicate.placeholder n).toList := by
  simp [toList_placeholder, nul_not_mem_toDigits n]

theorem nul_not_mem_sql {t : Term} (ht : t.Rendered Whole) : '\x00' ∉ t.sql.toList := by
  induction ht with
  | column hn => exact hn.nul_not_mem
  | @parameter n => exact nul_not_mem_placeholder n
  | @binary op l r _ _ ihl ihr =>
    have hs : '\x00' ∉ op.symbol.toList := by cases op <;> decide
    simp [Term.sql, ihl, ihr, hs]
  | @like t n _ ih => simp [Term.sql, ih, nul_not_mem_placeholder n]

/-- There is no NUL in the text of a sentence over whole names. -/
theorem nul_not_mem_text {s : Sentence} (hn : ∀ name ∈ s.names, Whole name)
    (ht : ∀ t ∈ s.condition, t.Rendered Whole) : '\x00' ∉ s.text.toList := by
  have hcolumns : '\x00' ∉ [',', ' '].intercalate (s.columns.map String.toList) :=
    not_mem_intercalate_map (by decide) fun name hname =>
      (hn name (List.mem_cons_of_mem _ hname)).nul_not_mem
  have htable := (hn s.table List.mem_cons_self).nul_not_mem
  have hcondition : '\x00' ∉ s.conditionText.toList := by
    simp only [Sentence.conditionText]
    cases hc : s.condition with
    | none => exact List.not_mem_nil
    | some t => simp [nul_not_mem_sql (ht t hc)]
  have hlimit : '\x00' ∉ s.limitText.toList := by
    simp only [Sentence.limitText]
    cases s.limit with
    | none => exact List.not_mem_nil
    | some n => simp [nul_not_mem_toDigits n]
  rw [Sentence.toList_text]
  simp [hcolumns, htable, hcondition, hlimit]

/-- The tokens of a statement are those of its text, which starts with no semicolon. -/
theorem tokens_of_scan {sql : String} {t : Token} {ts : List Token} (hnul : '\x00' ∉ sql.toList)
    (hscan : scan sql.toList = t :: ts) (ht : t ≠ .sign ";") : Sql.tokens sql = t :: ts := by
  have hchars : chars sql = sql.toList := by
    have hall : ∀ c ∈ sql.toList, (c != '\x00') = true := by
      intro c hc
      rw [bne_iff_ne]
      rintro rfl
      exact hnul hc
    simpa [chars] using takeWhile_append_of_stops hall (stops_nil _)
  have hmap := map_token_scanLexemes sql.toList
  rw [hscan] at hmap
  rw [Sql.tokens, lexemes, hchars]
  cases hls : scanLexemes sql.toList with
  | nil =>
    rw [hls] at hmap
    cases hmap
  | cons l ls =>
    rw [hls] at hmap
    have hl : l.token = t := (List.cons.inj hmap).1
    rw [List.dropWhile_cons_of_neg (by rwa [hl, beq_iff_eq]), hmap]

/-- The lexemes of a sentence over whole names have the tokens that its text shows. -/
theorem tokens_text {s : Sentence} (hn : ∀ name ∈ s.names, Whole name)
    (ht : ∀ t ∈ s.condition, t.Rendered Whole) :
    Sql.tokens s.text = s.tokens :=
  tokens_of_scan (nul_not_mem_text hn ht) (scan_text hn ht) (by decide)

end EntityQuery.Sql
