import EntityQuery.Json
import EntityQuery.Binary64.Reading
import EntityQuery.Proofs.Denotation
import EntityQuery.Proofs.Scanning

/-!
# Texts of documents

What a text in the format of documents stands for, whoever wrote it. A text is read token by
token, with blanks before, between and after them (`Json.Reads`). A document has the tokens
that its grammar gives it (`Json.tokens`), and a text is one of the document if it is read as
them (`Json.IsText`). A string may spell a character in more than one way and a number may have
a fraction or an exponent, so that a document has many texts; but a text is that of at most one
document (`Json.IsText.unique`).

The text over several lines of a document without numbers other than integers is one of its
texts (`Json.isText_pretty`).
-/

namespace EntityQuery.Json

open Sql (Stops stops_cons stops_nil takeWhile_append_of_stops dropWhile_append_of_stops
  intercalate_cons_eq_flatMap)

/-! ## Tokens -/

/-- A token of a text: a bracket, a colon or a comma, or a document without parts. -/
inductive Token where
  | mark (c : Char)
  | null
  | bool (b : Bool)
  | integer (n : Int)
  | float (x : Binary64)
  | string (s : String)

/-- A blank may stand before and after every token. -/
def isBlank (c : Char) : Bool := c == ' ' || c == '\t' || c == '\n' || c == '\r'

/-- A character that is a token. -/
def isMark (c : Char) : Bool :=
  c == '[' || c == ']' || c == '\x7b' || c == '\x7d' || c == ':' || c == ','

/-- A character that may stand in a number. -/
def isNumeric (c : Char) : Bool :=
  c.isDigit || c == '-' || c == '+' || c == '.' || c == 'e' || c == 'E'

/-! ### Numbers -/

/-- Digits before a point: a zero starts no others. -/
def isWhole (ds : List Char) : Bool := ds == ['0'] || !(ds.isEmpty || ds.head? == some '0')

/-- An exponent, or nothing. -/
def isExponent : List Char → Bool
  | [] => true
  | e :: cs => (e == 'e' || e == 'E') && (Text.readDigits? (Text.takeSign cs).2).isSome

/-- A fraction, an exponent, or both. -/
def isFraction : List Char → Bool
  | '.' :: cs => !(cs.takeWhile Char.isDigit).isEmpty && isExponent (cs.dropWhile Char.isDigit)
  | cs => isExponent cs

/-- A number without a fraction and an exponent is an integer. -/
def unsigned? (negative : Bool) (cs : List Char) : Option Token :=
  let whole := cs.takeWhile Char.isDigit
  match cs.dropWhile Char.isDigit with
  | [] =>
    let n := Nat.ofDigitChars 10 whole 0
    if isWhole whole then some (.integer (if negative then -n else n)) else none
  | rest =>
    if isWhole whole && isFraction rest then
      (Binary64.read? (if negative then '-' :: cs else cs)).map .float
    else none

/-- The number that a text spells. -/
def number? : List Char → Option Token
  | '-' :: cs => unsigned? true cs
  | cs => unsigned? false cs

/-! ### Strings -/

/-- The value of a hexadecimal digit. -/
def hexDigit? (c : Char) : Option Nat :=
  if c.isDigit then some (c.toNat - 48)
  else if 'a'.toNat ≤ c.toNat ∧ c.toNat ≤ 'f'.toNat then some (c.toNat - 87)
  else if 'A'.toNat ≤ c.toNat ∧ c.toNat ≤ 'F'.toNat then some (c.toNat - 55)
  else none

/-- The number that four hexadecimal digits after the letter spell, and the rest. -/
def unit? : List Char → Option (Nat × List Char)
  | 'u' :: a :: b :: c :: d :: cs => do
    let a ← hexDigit? a
    let b ← hexDigit? b
    let c ← hexDigit? c
    let d ← hexDigit? d
    some (((a * 16 + b) * 16 + c) * 16 + d, cs)
  | _ => none

/-- The character that two halves of a pair stand for together. -/
def paired (high low : Nat) : Char :=
  Char.ofNat (0x10000 + (high - 0xd800) * 0x400 + (low - 0xdc00))

/-- The character that one or two escaped numbers stand for, and the rest. The first half of
    a pair must be followed by the second, and the second half must not stand alone. -/
def coded? (cs : List Char) : Option (Char × List Char) :=
  match unit? cs with
  | none => none
  | some (n, rest) =>
    if n < 0xd800 ∨ 0xdfff < n then some (Char.ofNat n, rest)
    else if n < 0xdc00 then
      match rest with
      | '\\' :: rest =>
        match unit? rest with
        | some (m, rest) =>
          if 0xdc00 ≤ m ∧ m ≤ 0xdfff then some (paired n m, rest) else none
        | none => none
      | _ => none
    else none

/-- The character that an escaped one stands for. -/
def unescaped? (c : Char) : Option Char :=
  match c with
  | '"' => some '"'
  | '\\' => some '\\'
  | '/' => some '/'
  | 'b' => some '\x08'
  | 'f' => some '\x0c'
  | 'n' => some '\n'
  | 'r' => some '\r'
  | 't' => some '\t'
  | _ => none

/-- The character that a text within a string starts with, and the rest. -/
def character? : List Char → Option (Char × List Char)
  | [] => none
  | '"' :: _ => none
  | ['\\'] => none
  | '\\' :: 'u' :: cs => coded? ('u' :: cs)
  | '\\' :: c :: cs => (unescaped? c).map (·, cs)
  | c :: cs => if c.toNat < 0x20 then none else some (c, cs)

/-- The characters of a string up to its end, and the rest. -/
inductive Quoted : List Char → List Char → List Char → Prop
  | close {rest : List Char} : Quoted ('"' :: rest) [] rest
  | character {cs cs' s rest : List Char} {c : Char} :
    character? cs = some (c, cs') → Quoted cs' s rest → Quoted cs (c :: s) rest

/-! ### Texts -/

/-- The token that a text starts with, a string apart, and the rest. -/
def next? : List Char → Option (Token × List Char)
  | 'n' :: 'u' :: 'l' :: 'l' :: cs => some (.null, cs)
  | 't' :: 'r' :: 'u' :: 'e' :: cs => some (.bool true, cs)
  | 'f' :: 'a' :: 'l' :: 's' :: 'e' :: cs => some (.bool false, cs)
  | [] => none
  | c :: cs =>
    if isMark c then some (.mark c, cs)
    else (number? ((c :: cs).takeWhile isNumeric)).map (·, (c :: cs).dropWhile isNumeric)

/-- A text is read as tokens. -/
inductive Reads : List Char → List Token → Prop
  | done : Reads [] []
  | blank {c : Char} {cs : List Char} {ts : List Token} :
    isBlank c = true → Reads cs ts → Reads (c :: cs) ts
  | token {cs cs' : List Char} {t : Token} {ts : List Token} :
    next? cs = some (t, cs') → Reads cs' ts → Reads cs (t :: ts)
  | string {cs cs' s : List Char} {ts : List Token} :
    Quoted cs s cs' → Reads cs' ts → Reads ('"' :: cs) (.string (String.ofList s) :: ts)

mutual

/-- The tokens of a document. -/
def tokens : Json → List Token
  | null => [.null]
  | bool b => [.bool b]
  | integer n => [.integer n]
  | float x => [.float x]
  | string s => [.string s]
  | array es => .mark '[' :: ([.mark ','].intercalate (elementTokens es) ++ [.mark ']'])
  | object ms => .mark '\x7b' :: ([.mark ','].intercalate (memberTokens ms) ++ [.mark '\x7d'])

/-- The tokens of each element of an array. -/
def elementTokens : List Json → List (List Token)
  | [] => []
  | e :: es => e.tokens :: elementTokens es

/-- The tokens of each member of an object. -/
def memberTokens : List (String × Json) → List (List Token)
  | [] => []
  | (name, e) :: ms => (.string name :: .mark ':' :: e.tokens) :: memberTokens ms

end

/-- A text is one of a document. -/
def IsText (document : Json) (text : String) : Prop := Reads text.toList document.tokens

/-! ## A text is read in one way -/

theorem Quoted.unique {cs s s' rest rest' : List Char} (h : Quoted cs s rest)
    (h' : Quoted cs s' rest') : s = s' ∧ rest = rest' := by
  induction h generalizing s' with
  | close =>
    cases h' with
    | close => exact ⟨rfl, rfl⟩
    | character hc => cases hc
  | character hc _ ih =>
    cases h' with
    | close => cases hc
    | character hc' h' =>
      obtain ⟨rfl, rfl⟩ := Prod.mk.inj (Option.some.inj (hc.symm.trans hc'))
      obtain ⟨rfl, hrest⟩ := ih h'
      exact ⟨rfl, hrest⟩

/-- No token starts with a blank. -/
theorem next?_of_isBlank {c : Char} (h : isBlank c = true) (cs : List Char) :
    next? (c :: cs) = none := by
  simp only [isBlank, Bool.or_eq_true, beq_iff_eq] at h
  rcases h with ((rfl | rfl) | rfl) | rfl <;> rfl

theorem Reads.unique {cs : List Char} {ts ts' : List Token} (h : Reads cs ts)
    (h' : Reads cs ts') : ts = ts' := by
  induction h generalizing ts' with
  | done =>
    cases h' with
    | done => rfl
    | token ht => cases ht
  | blank hc _ ih =>
    cases h' with
    | blank _ h' => exact ih h'
    | token ht => cases (next?_of_isBlank hc _).symm.trans ht
    | string => cases hc
  | token ht _ ih =>
    cases h' with
    | done => cases ht
    | blank hc => cases (next?_of_isBlank hc _).symm.trans ht
    | token ht' h' =>
      obtain ⟨rfl, rfl⟩ := Prod.mk.inj (Option.some.inj (ht.symm.trans ht'))
      rw [ih h']
    | string => cases ht
  | string hs _ ih =>
    cases h' with
    | blank hc => cases hc
    | token ht => cases ht
    | string hs' h' =>
      obtain ⟨rfl, rfl⟩ := hs.unique hs'
      rw [ih h']

/-! ## Tokens determine a document -/

theorem elementTokens_eq_map (es : List Json) : elementTokens es = es.map tokens := by
  induction es with
  | nil => rfl
  | cons e es ih => rw [elementTokens, List.map_cons, ih]

/-- The tokens of a member. -/
def tokensOfMember (m : String × Json) : List Token := .string m.1 :: .mark ':' :: m.2.tokens

theorem memberTokens_eq_map (ms : List (String × Json)) :
    memberTokens ms = ms.map tokensOfMember := by
  induction ms with
  | nil => rfl
  | cons m ms ih => rw [memberTokens, List.map_cons, ih, tokensOfMember]

/-- What holds for a document if it holds for its parts holds for every document. -/
theorem induct {P : Json → Prop} (null : P null) (bool : ∀ b, P (bool b))
    (integer : ∀ n, P (integer n)) (float : ∀ x, P (float x)) (string : ∀ s, P (string s))
    (array : ∀ es, (∀ e ∈ es, P e) → P (array es))
    (object : ∀ ms, (∀ m ∈ ms, P m.2) → P (object ms)) : ∀ d, P d
  | .null => null
  | .bool b => bool b
  | .integer n => integer n
  | .float x => float x
  | .string s => string s
  | .array es => array es fun e _ => induct null bool integer float string array object e
  | .object ms => object ms fun m _ => induct null bool integer float string array object m.2
termination_by d => sizeOf d
decreasing_by
  · have := List.sizeOf_lt_of_mem ‹e ∈ es›
    simp only [Json.array.sizeOf_spec]
    omega
  · have := List.sizeOf_lt_of_mem ‹m ∈ ms›
    obtain ⟨name, e⟩ := m
    simp only [Json.object.sizeOf_spec, Prod.mk.sizeOf_spec] at *
    omega

section Separated

variable {α : Type} {f : α → List Token} {as bs : List α} {t : Token} {rest rest' : List Token}

/-- The tokens of a part determine it, and where it ends. -/
def Determines (f : α → List Token) (a : α) : Prop :=
  ∀ b rest rest', f a ++ rest = f b ++ rest' → a = b ∧ rest = rest'

/-- What may follow a document. -/
def Follows (t : Token) : Prop := t = .mark ',' ∨ t = .mark ']' ∨ t = .mark '\x7d'

/-- The tokens of parts with a comma before each determine the parts, if no comma follows. -/
theorem flatMap_inj (hf : ∀ a ∈ as, Determines f a) (ht : t ≠ .mark ',')
    (h : as.flatMap (.mark ',' :: f ·) ++ t :: rest =
      bs.flatMap (.mark ',' :: f ·) ++ t :: rest') : as = bs ∧ rest = rest' := by
  induction as generalizing bs with
  | nil =>
    cases bs with
    | nil => exact ⟨rfl, (List.cons.inj h).2⟩
    | cons b bs => exact absurd (List.cons.inj h).1 ht
  | cons a as ih =>
    obtain ⟨ha, has⟩ := List.forall_mem_cons.1 hf
    cases bs with
    | nil => exact absurd (List.cons.inj h).1.symm ht
    | cons b bs =>
      simp only [List.flatMap_cons, List.cons_append, List.append_assoc, List.cons.injEq,
        true_and] at h
      obtain ⟨rfl, hmore⟩ := ha b _ _ h
      obtain ⟨rfl, hrest⟩ := ih has hmore
      exact ⟨rfl, hrest⟩

/-- The tokens of parts with commas in between determine the parts, if none starts with what
    follows the last. -/
theorem intercalate_inj (hf : ∀ a ∈ as, Determines f a)
    (hstarts : ∀ a, ∃ t ts, f a = t :: ts ∧ ¬Follows t) (hfollows : Follows t)
    (ht : t ≠ .mark ',') (h : [.mark ','].intercalate (as.map f) ++ t :: rest =
      [.mark ','].intercalate (bs.map f) ++ t :: rest') : as = bs ∧ rest = rest' := by
  have hother {a : α} {ts rest rest' : List Token} : t :: rest ≠ (f a ++ ts) ++ rest' := by
    obtain ⟨t', ts', hcons, hnot⟩ := hstarts a
    rw [hcons]
    intro h
    obtain ⟨rfl, -⟩ := List.cons.inj h
    exact hnot hfollows
  cases as with
  | nil =>
    cases bs with
    | nil => exact ⟨rfl, (List.cons.inj h).2⟩
    | cons b bs =>
      rw [List.map_cons, intercalate_cons_eq_flatMap] at h
      exact absurd h hother
  | cons a as =>
    obtain ⟨ha, has⟩ := List.forall_mem_cons.1 hf
    rw [List.map_cons, intercalate_cons_eq_flatMap] at h
    cases bs with
    | nil => exact absurd h.symm hother
    | cons b bs =>
      rw [List.map_cons, intercalate_cons_eq_flatMap, List.append_assoc, List.append_assoc] at h
      obtain ⟨rfl, hmore⟩ := ha b _ _ h
      rw [List.flatMap_map, List.flatMap_map] at hmore
      obtain ⟨rfl, hrest⟩ := flatMap_inj has ht hmore
      exact ⟨rfl, hrest⟩

end Separated

theorem tokens_eq_cons (d : Json) : ∃ t ts, d.tokens = t :: ts ∧ ¬Follows t := by
  cases d <;> exact ⟨_, _, rfl, by simp [Follows]⟩

/-- The tokens of a document determine it, and where it ends. -/
theorem determines_tokens (d : Json) : Determines tokens d := by
  induction d using induct with
  | null | bool | integer | float | string =>
    intro d' rest rest' h
    cases d' <;> simp_all [tokens]
  | array es ih =>
    intro d' rest rest' h
    cases d' with
    | array es' =>
      simp only [tokens, elementTokens_eq_map, List.cons_append, List.append_assoc,
        List.cons.injEq, true_and, List.nil_append] at h
      obtain ⟨rfl, hrest⟩ := intercalate_inj ih tokens_eq_cons (.inr (.inl rfl)) nofun h
      exact ⟨rfl, hrest⟩
    | null | bool | integer | float | string | object => simp [tokens] at h
  | object ms ih =>
    intro d' rest rest' h
    cases d' with
    | object ms' =>
      simp only [tokens, memberTokens_eq_map, List.cons_append, List.append_assoc,
        List.cons.injEq, true_and, List.nil_append] at h
      have hmember : ∀ m ∈ ms, Determines tokensOfMember m := by
        rintro ⟨name, e⟩ hm ⟨name', e'⟩ rest rest' h
        simp only [tokensOfMember, List.cons_append, List.cons.injEq, Token.string.injEq,
          true_and] at h
        obtain ⟨rfl, h⟩ := h
        obtain ⟨rfl, hrest⟩ := ih _ hm e' rest rest' h
        exact ⟨rfl, hrest⟩
      have hstarts (m : String × Json) : ∃ t ts, tokensOfMember m = t :: ts ∧ ¬Follows t :=
        ⟨_, _, rfl, by simp [Follows]⟩
      obtain ⟨rfl, hrest⟩ := intercalate_inj hmember hstarts (.inr (.inr rfl)) (by simp) h
      exact ⟨rfl, hrest⟩
    | null | bool | integer | float | string | array => simp [tokens] at h

/-- A text is that of one document at most. -/
theorem IsText.unique {d d' : Json} {text : String} (h : d.IsText text) (h' : d'.IsText text) :
    d = d' := by
  have htokens := congrArg (· ++ []) (Reads.unique h h')
  exact (determines_tokens d d' [] [] htokens).1

/-! ## The text that is written -/

/-- A character of a string is read as it is written. -/
theorem character?_escaped (c : Char) (cs : List Char) :
    character? (escaped c ++ cs) = some (c, cs) := by
  unfold escaped
  split
  case h_8 hquote hbackslash _ _ _ _ _ =>
    split
    · next hcontrol =>
      -- A control has the number that the two digits spell.
      have hdigits : ∀ n < 0x20, hexDigit? (Nat.digitChar (n / 16)) = some (n / 16) ∧
          hexDigit? (Nat.digitChar (n % 16)) = some (n % 16) := by decide
      obtain ⟨hhigh, hlow⟩ := hdigits c.toNat hcontrol
      have hunit : unit? ('u' :: '0' :: '0' :: (hexByte c.toNat ++ cs)) = some (c.toNat, cs) := by
        have hzero : hexDigit? '0' = some 0 := rfl
        simp only [hexByte, List.cons_append, List.nil_append, unit?, hzero, hhigh, hlow,
          Option.bind_eq_bind, Option.bind_some, Option.some.injEq, Prod.mk.injEq, and_true]
        omega
      have hplain : c.toNat < 0xd800 ∨ 0xdfff < c.toNat := .inl (by omega)
      have hcoded : character? (['\\', 'u', '0', '0'] ++ hexByte c.toNat ++ cs) =
          coded? ('u' :: '0' :: '0' :: (hexByte c.toNat ++ cs)) := by simp [character?]
      simp only [hcoded, coded?, hunit, if_pos hplain, Char.ofNat_toNat]
    · next hcontrol =>
      rw [List.singleton_append, character?, if_neg hcontrol]
      · exact hquote
      · exact fun hc _ => hbackslash hc
      · exact fun _ hc _ => hbackslash hc
      · exact fun _ _ hc _ => hbackslash hc
  all_goals rfl

/-- A string is read as it is written. -/
theorem quoted_escaped (s rest : List Char) :
    Quoted (s.flatMap escaped ++ '"' :: rest) s rest := by
  induction s with
  | nil => exact .close
  | cons c s ih =>
    rw [List.flatMap_cons, List.append_assoc]
    exact .character (character?_escaped c _) ih

/-- A text that starts with a character of a number starts with a number or with nothing. -/
theorem next?_of_isNumeric {c : Char} (hc : isNumeric c = true) (cs : List Char) :
    next? (c :: cs) = (number? ((c :: cs).takeWhile isNumeric)).map
      (·, (c :: cs).dropWhile isNumeric) := by
  have hmark : isMark c = false := by
    simp only [isNumeric, Bool.or_eq_true, beq_iff_eq] at hc
    rcases hc with ((((hc | rfl) | rfl) | rfl) | rfl) | rfl
    · rw [Bool.eq_false_iff]
      intro hmark
      simp only [isMark, Bool.or_eq_true, beq_iff_eq] at hmark
      rcases hmark with ((((rfl | rfl) | rfl) | rfl) | rfl) | rfl <;> cases hc
    all_goals rfl
  rw [next?, hmark]
  · rfl
  all_goals
    rintro _ rfl
    cases hc

/-- No digits of a number start with a zero, unless they are no more than that. -/
theorem isWhole_toDigits (n : Nat) : isWhole (Nat.toDigits 10 n) = true := by
  induction n using Nat.strongRecOn with
  | ind n ih =>
    by_cases hn : n < 10
    · have hdigit : ∀ n < 10, isWhole [Nat.digitChar n] = true := by decide
      rw [Nat.toDigits_of_lt_base hn]
      exact hdigit n hn
    · rw [Nat.toDigits_of_base_le (by decide) (by omega)]
      have hwhole := ih (n / 10) (by omega)
      have hne : Nat.toDigits 10 (n / 10) ≠ ['0'] := by
        intro h
        have hzero : n / 10 = 0 := Sql.toDigits_injective h
        omega
      obtain ⟨d, ds, hds⟩ := List.exists_cons_of_ne_nil
        (Nat.toDigits_ne_nil (n := n / 10) (b := 10))
      rw [hds] at hwhole hne ⊢
      have hd : d ≠ '0' := by
        simp only [isWhole, Bool.or_eq_true, beq_iff_eq, hne, false_or] at hwhole
        simpa using hwhole
      simp [isWhole, hd]

/-- The text of an integer is that of its digits, after a minus if it is negative. -/
theorem toList_toString (n : Int) : ∃ k : Nat,
    (n = k ∧ (toString n).toList = Nat.toDigits 10 k) ∨
      n = -k ∧ (toString n).toList = '-' :: Nat.toDigits 10 k := by
  rcases n with k | k
  · exact ⟨k, .inl ⟨rfl, Nat.toList_repr⟩⟩
  · exact ⟨k + 1, .inr ⟨rfl, String.toList_append.trans (congrArg _ Nat.toList_repr)⟩⟩

theorem number?_toString (n : Int) : number? (toString n).toList = some (.integer n) := by
  have hunsigned (negative : Bool) (k : Nat) : unsigned? negative (Nat.toDigits 10 k) =
      some (.integer (if negative then -k else k)) := by
    have hdigits : ∀ c ∈ Nat.toDigits 10 k, c.isDigit = true := fun _ => Sql.isDigit_of_mem_toDigits
    have htake := takeWhile_append_of_stops hdigits (stops_nil _)
    have hdrop := dropWhile_append_of_stops hdigits (stops_nil _)
    rw [List.append_nil] at htake hdrop
    simp only [unsigned?, htake, hdrop, isWhole_toDigits, Nat.ofDigitChars_ten_toDigits, if_true]
  obtain ⟨k, ⟨rfl, htext⟩ | ⟨rfl, htext⟩⟩ := toList_toString n
  · rw [htext, number?, hunsigned]
    · rfl
    · intro cs hcs
      cases Sql.isDigit_of_mem_toDigits (n := k) (hcs ▸ List.mem_cons_self : '-' ∈ _)
  · rw [htext, number?, hunsigned]
    rfl

/-- An integer is read as it is written, if nothing follows that could go on with it. -/
theorem next?_toString (n : Int) {rest : List Char} (hrest : Stops isNumeric rest) :
    next? ((toString n).toList ++ rest) = some (.integer n, rest) := by
  have hnumeric : ∀ c ∈ (toString n).toList, isNumeric c = true := by
    have hdigits (k : Nat) : ∀ c ∈ Nat.toDigits 10 k, isNumeric c = true := by
      intro c hc
      simp [isNumeric, Sql.isDigit_of_mem_toDigits hc]
    obtain ⟨k, ⟨-, htext⟩ | ⟨-, htext⟩⟩ := toList_toString n <;> rw [htext]
    · exact hdigits k
    · exact List.forall_mem_cons.2 ⟨rfl, hdigits k⟩
  have htake := takeWhile_append_of_stops hnumeric hrest
  have hdrop := dropWhile_append_of_stops hnumeric hrest
  have hnumber := number?_toString n
  obtain ⟨c, cs, hcs⟩ := List.exists_cons_of_ne_nil (Text.spells_toString n).ne_nil
  rw [hcs] at hnumeric htake hdrop hnumber ⊢
  rw [List.cons_append] at htake hdrop ⊢
  rw [next?_of_isNumeric (hnumeric c List.mem_cons_self), htake, hdrop, hnumber]
  rfl

/-- A text is written for tokens: whatever follows, they are read first. -/
def Writes (text : List Char) (ts : List Token) : Prop :=
  ∀ rest ts', Stops isNumeric rest → Reads rest ts' → Reads (text ++ rest) (ts ++ ts')

theorem Reads.blanks {cs bs : List Char} {ts : List Token} (hbs : ∀ c ∈ bs, isBlank c = true)
    (h : Reads cs ts) : Reads (bs ++ cs) ts := by
  induction bs with
  | nil => exact h
  | cons c bs ih =>
    obtain ⟨hc, hbs⟩ := List.forall_mem_cons.1 hbs
    exact .blank hc (ih hbs)

theorem Reads.mark {c : Char} {cs : List Char} {ts : List Token} (hc : isMark c = true)
    (h : Reads cs ts) : Reads (c :: cs) (.mark c :: ts) := by
  refine .token ?_ h
  simp only [isMark, Bool.or_eq_true, beq_iff_eq] at hc
  rcases hc with ((((rfl | rfl) | rfl) | rfl) | rfl) | rfl <;> rfl

theorem writes_string (s : String) : Writes (stringText s).toList [.string s] := by
  intro rest ts _ h
  have hread := Reads.string (quoted_escaped s.toList rest) h
  rw [String.ofList_toList] at hread
  simpa [stringText] using hread

theorem writes_integer (n : Int) : Writes (toString n).toList [.integer n] :=
  fun _ _ hrest h => .token (next?_toString n hrest) h

theorem isBlank_of_mem_indentation {level : Nat} {c : Char}
    (hc : c ∈ (indentation level).toList) : isBlank c = true := by
  rw [indentation, String.toList_ofList] at hc
  obtain rfl | hc := List.mem_cons.1 hc
  · rfl
  · rw [List.eq_of_mem_replicate hc]
    rfl

theorem Reads.indented (level : Nat) {cs : List Char} {ts : List Token} (h : Reads cs ts) :
    Reads ((indentation level).toList ++ cs) ts :=
  .blanks (fun _ => isBlank_of_mem_indentation) h

theorem stops_indentation (level : Nat) (cs : List Char) :
    Stops isNumeric ((indentation level).toList ++ cs) := by
  rw [indentation, String.toList_ofList]
  exact stops_cons.2 rfl

/-- Items on lines of their own, with commas in between, are read with commas in between. -/
theorem writes_intercalate (level : Nat) {items : List String} {tss : List (List Token)}
    (hitems : List.Forall₂ (fun item ts => Writes item.toList ts) items tss) (hne : items ≠ []) :
    Writes (("," ++ indentation level).intercalate items).toList
      ([.mark ','].intercalate tss) := by
  rw [String.toList_intercalate, String.toList_append]
  induction hitems with
  | nil => exact absurd rfl hne
  | @cons item ts items tss hitem hitems ih =>
    cases hitems with
    | nil => simpa using hitem
    | @cons item' ts' items tss _ _ =>
      have hmore := ih (List.cons_ne_nil _ _)
      intro rest ts'' hrest h
      have hread := hitem _ _ (stops_cons.2 rfl)
        (.mark (c := ',') rfl ((hmore rest ts'' hrest h).indented level))
      simpa [List.intercalate_cons_cons] using hread

/-- Items between brackets are read between the brackets. -/
theorem writes_enclosed {level : Nat} {opening closing : String} {o c : Char}
    (hopening : opening.toList = [o]) (hclosing : closing.toList = [c]) (ho : isMark o = true)
    (hc : isMark c = true) {items : List String} {tss : List (List Token)}
    (hitems : List.Forall₂ (fun item ts => Writes item.toList ts) items tss) :
    Writes (enclosed level opening closing items).toList
      (.mark o :: ([.mark ','].intercalate tss ++ [.mark c])) := by
  intro rest ts hrest h
  have hclose : Reads (c :: rest) (.mark c :: ts) := .mark hc h
  by_cases hne : items = []
  · subst hne
    cases hitems
    simpa [enclosed, hopening, hclosing] using Reads.mark ho hclose
  · have hlines := writes_intercalate (level + 1) hitems hne _ _
      (stops_indentation level (c :: rest)) (hclose.indented level)
    have hopened := (hlines.indented (level + 1)).mark ho
    simpa [enclosed, hne, hopening, hclosing] using hopened

/-! ## Documents of integers -/

/-- A document without numbers other than integers. -/
inductive Exact : Json → Prop
  | null : Exact .null
  | bool (b : Bool) : Exact (.bool b)
  | integer (n : Int) : Exact (.integer n)
  | string (s : String) : Exact (.string s)
  | array {es : List Json} : (∀ e ∈ es, Exact e) → Exact (.array es)
  | object {ms : List (String × Json)} : (∀ m ∈ ms, Exact m.2) → Exact (.object ms)

theorem forall₂_prettyElements {level : Nat} {es : List Json}
    (h : ∀ e ∈ es, Writes (e.prettyAt level).toList e.tokens) :
    List.Forall₂ (fun item ts => Writes item.toList ts) (prettyElements level es)
      (elementTokens es) := by
  induction es with
  | nil => exact .nil
  | cons e es ih =>
    obtain ⟨he, hes⟩ := List.forall_mem_cons.1 h
    exact .cons he (ih hes)

theorem forall₂_prettyMembers {level : Nat} {ms : List (String × Json)}
    (h : ∀ m ∈ ms, Writes (m.2.prettyAt level).toList m.2.tokens) :
    List.Forall₂ (fun item ts => Writes item.toList ts) (prettyMembers level ms)
      (memberTokens ms) := by
  induction ms with
  | nil => exact .nil
  | cons m ms ih =>
    obtain ⟨name, e⟩ := m
    obtain ⟨he, hms⟩ := List.forall_mem_cons.1 h
    refine .cons (fun rest ts hrest h => ?_) (ih hms)
    have hread := writes_string name _ _ (stops_cons.2 rfl)
      (.mark (c := ':') rfl (.blank (c := ' ') rfl (he rest ts hrest h)))
    simpa using hread

/-- The text at a level is read as the tokens of the document. -/
theorem Exact.writes {d : Json} (h : d.Exact) (level : Nat) :
    Writes (d.prettyAt level).toList d.tokens := by
  induction h generalizing level with
  | null =>
    rw [prettyAt]
    exact fun rest ts _ h => .token rfl h
  | bool b =>
    rw [prettyAt]
    cases b <;> exact fun rest ts _ h => .token rfl h
  | integer n => exact writes_integer n
  | string s => exact writes_string s
  | array _ ih =>
    exact writes_enclosed rfl rfl rfl rfl (forall₂_prettyElements fun e he => ih e he (level + 1))
  | object _ ih =>
    exact writes_enclosed rfl rfl rfl rfl (forall₂_prettyMembers fun m hm => ih m hm (level + 1))

/-- The text over several lines is one of the document, and of no other. -/
theorem Exact.isText_pretty_iff {d d' : Json} (h : d.Exact) : d'.IsText d.pretty ↔ d' = d := by
  have htext : d.IsText d.pretty := by
    have hread := h.writes 0 [] [] (stops_nil _) .done
    rwa [List.append_nil, List.append_nil] at hread
  exact ⟨fun h' => h'.unique htext, fun h => h ▸ htext⟩

end EntityQuery.Json
