import EntityQuery.Proofs.Databases
import EntityQuery.Proofs.Recognizing
import Mathlib.Data.List.Forall2

/-!
# Definitions are carried out

A definition of a table (`Sql.MakesTable`) is read part by part: each part between commas is a
column, whose clauses say its name, its type and its key. They are accepted one after the other
exactly if the columns are apart (`extendAll_eq`).

* `Database.refuses_or_makes`: a definition is refused for one reason, or makes its table
  where no table has its name;
* `Database.makes_or_refuses_of_columns`: it makes its table if it has a column, its columns
  are apart and its name may be kept.
-/

namespace EntityQuery

namespace Sql

/-! ## Words -/

/-- What is read as a word is a name as long as it goes on. -/
theorem Token.read_eq_word {c : Char} {cs : List Char} {s : String}
    (h : (Token.read c cs).1 = .word s) :
    String.ofList (c :: cs.takeWhile continuesName) = s ∧
      (Token.read c cs).2 = cs.dropWhile continuesName := by
  have hnumber (digits : List Char) : ofNumber digits ≠ .word s := by
    simp only [ofNumber]
    repeat' split
    all_goals
      intro h
      cases h
  rw [Token.read] at h ⊢
  split at h
  · simp only [readBlob] at h
    split at h
    · split at h <;> cases h
    · cases h
  · split at h
    · rw [if_neg ‹_›, if_pos ‹_›]
      cases h
      exact ⟨rfl, rfl⟩
    · split at h
      · simp only [readNumber] at h
        split at h
        · exact absurd h (hnumber _)
        · cases h
      · split at h
        · simp only [readParameter] at h
          split at h
          · cases h
          · split at h <;> cases h
        · split at h
          · simp only [readQuoted] at h
            split at h
            · split at h <;> cases h
            · cases h
          · simp only [readSign] at h
            split at h <;> cases h

/-- The text of a word is the word. -/
theorem text_of_word {cs : List Char} {l : Lexeme} {s : String} (hl : l ∈ scanLexemes cs)
    (hs : l.token = .word s) : l.text = s := by
  fun_induction scanLexemes cs with
  | case1 => cases hl
  | case2 _ _ _ _ ih => exact ih hl
  | case3 c cs _ ih =>
    obtain rfl | hl := List.mem_cons.1 hl
    · obtain ⟨htext, hrest⟩ := Token.read_eq_word hs
      have hlength := congrArg List.length
        (List.takeWhile_append_dropWhile (p := Token.continuesName) (l := cs))
      rw [List.length_append] at hlength
      rw [Lexeme.text, ← htext, hrest, Token.before]
      have htake : (c :: cs).length - (cs.dropWhile Token.continuesName).length =
          (cs.takeWhile Token.continuesName).length + 1 := by
        rw [List.length_cons]
        omega
      rw [htake, List.take_succ_cons]
      congr 2
      exact List.prefix_iff_eq_take.1 (List.takeWhile_prefix _) |>.symm
    · exact ih hl

end Sql

namespace Store

open Sql (DeclaresColumn DeclaresKey DeclaresType Listed)

/-! ## Parts -/

namespace Definition

/-- The tokens of numbered lexemes. -/
def tokensOf (ls : List Numbered) : List Sql.Token := ls.map (·.1.token)

/-- The words among numbered lexemes are their texts. -/
def Spelled (ls : List Numbered) : Prop := ∀ l ∈ ls, ∀ s, l.1.token = .word s → l.1.text = s

theorem Spelled.mono {ls ls' : List Numbered} (h : Spelled ls) (hsub : ls' ⊆ ls) : Spelled ls' :=
  fun l hl => h l (hsub hl)

variable {p ls : List Numbered} {us : List Sql.Token} {columns : List ColumnDefinition}

/-- What has no sign is put into one part. -/
theorem parts_append (hp : ∀ s, .sign s ∉ tokensOf p) (part ls : List Numbered) :
    parts 0 part (p ++ ls) = parts 0 (p.reverse ++ part) ls := by
  induction p generalizing part with
  | nil => rfl
  | cons l p ih =>
    have hl (s : String) : (l.1.token == .sign s) = false :=
      beq_eq_false_iff_ne.2 fun h => hp s (h ▸ List.mem_cons_self)
    have ih := ih (fun s hs => hp s (List.mem_cons_of_mem _ hs)) (l :: part)
    rw [List.cons_append, parts]
    simp only [hl, Bool.false_and, Bool.false_eq_true, if_false]
    rw [ih, List.reverse_cons, List.append_assoc]
    rfl

/-- The parts up to the parenthesis that closes columns are the columns. -/
theorem parts_columns (hcolumns : Listed DeclaresColumn us columns) (hne : columns ≠ [])
    (hls : tokensOf ls = us ++ [.sign ")"]) :
    List.Forall₂ (fun part c => DeclaresColumn (tokensOf part.1) c ∧ part.1 ⊆ ls)
      (parts 0 [] ls) columns := by
  induction hcolumns generalizing ls with
  | nil => exact absurd rfl hne
  | single hc =>
    obtain ⟨p, rest, rfl, rfl, hrest⟩ := List.map_eq_append_iff.1 hls
    obtain ⟨⟨l, i⟩, rest, rfl, hl, hrest⟩ := List.map_eq_cons_iff.1 hrest
    have hl : l.token = .sign ")" := hl
    rw [parts_append (hc.sign_not_mem), parts, hl]
    simp only [List.append_nil, List.reverse_reverse]
    exact .cons ⟨hc, List.subset_append_left _ _⟩ .nil
  | cons hc hrest ih =>
    rw [List.append_assoc, List.cons_append] at hls
    obtain ⟨p, rest, rfl, rfl, hrest'⟩ := List.map_eq_append_iff.1 hls
    obtain ⟨⟨l, i⟩, rest, rfl, hl, hrest'⟩ := List.map_eq_cons_iff.1 hrest'
    have hl : l.token = .sign "," := hl
    have ih := ih (List.cons_ne_nil _ _) hrest'
    rw [parts_append (hc.sign_not_mem), parts, hl]
    simp only [List.append_nil, List.reverse_reverse]
    refine .cons ⟨hc, List.subset_append_left _ _⟩ (ih.imp fun part c h => ⟨h.1, ?_⟩)
    exact List.Subset.trans h.2 (List.Subset.trans (List.subset_cons_self _ _)
      (List.subset_append_right _ _))

/-- Nothing comes after the parenthesis that closes tokens without further ones. -/
theorem afterParentheses_close (hopen : .sign "(" ∉ us) (hclose : .sign ")" ∉ us)
    (hls : tokensOf ls = us ++ [.sign ")"]) : afterParentheses 1 ls = [] := by
  induction us generalizing ls with
  | nil =>
    obtain ⟨⟨l, i⟩, ls, rfl, hl, hls⟩ := List.map_eq_cons_iff.1 hls
    have hl : l.token = .sign ")" := hl
    rw [List.map_eq_nil_iff.1 hls, afterParentheses, hl]
    rfl
  | cons u us ih =>
    obtain ⟨⟨l, i⟩, ls, rfl, hl, hls⟩ := List.map_eq_cons_iff.1 hls
    have hl : l.token = u := hl
    have hu : (u == .sign "(") = false ∧ (u == .sign ")") = false :=
      ⟨beq_eq_false_iff_ne.2 fun h => hopen (h ▸ List.mem_cons_self),
        beq_eq_false_iff_ne.2 fun h => hclose (h ▸ List.mem_cons_self)⟩
    have ih := ih (fun h => hopen (List.mem_cons_of_mem _ h))
      (fun h => hclose (List.mem_cons_of_mem _ h)) hls
    rw [afterParentheses, hl]
    simp only [hu, Bool.false_eq_true, if_false, Nat.one_ne_zero]
    exact ih

/-! ## Clauses -/

/-- What the clause on a key says, if there is one. -/
def keyKinds : KeyRole → List ClauseKind
  | .plain => []
  | .unique => [.key false false]
  | .numbering => [.key true false]

/-- What the clauses of a column say. -/
def kindsOf (c : ColumnDefinition) : List ClauseKind :=
  .column c.name c.type.sql :: keyKinds c.key

/-- The words for a key are read as a clause, if there are any. -/
theorem columnClauses_key {rest : List Numbered} {type : ColumnType} {key : KeyRole}
    (hts : tokensOf rest = us) (hkey : DeclaresKey us type key) (stop : Nat) :
    (columnClauses stop 0 rest).map (·.kind) = keyKinds key := by
  have hprimary : (Sql.Token.word "PRIMARY").isWord "primary" = true := by decide
  have hkeyWord : ∀ w ∈ ["primary", "unique", "collate"],
      (Sql.Token.word "KEY").isWord w = false := by decide
  have hcounting : ∀ w ∈ ["primary", "unique", "collate", "asc", "desc", "on"],
      (Sql.Token.word "AUTOINCREMENT").isWord w = false := by decide
  have hcounts : (Sql.Token.word "AUTOINCREMENT").isWord "autoincrement" = true := by
    decide
  simp only [List.forall_mem_cons] at hkeyWord hcounting
  cases hkey with
  | plain =>
    rw [List.map_eq_nil_iff.1 hts]
    rfl
  | unique =>
    obtain ⟨⟨a, i⟩, rest, rfl, ha, hts⟩ := List.map_eq_cons_iff.1 hts
    obtain ⟨⟨b, j⟩, rest, rfl, hb, hts⟩ := List.map_eq_cons_iff.1 hts
    rw [List.map_eq_nil_iff.1 hts]
    have ha : a.token = .word "PRIMARY" := ha
    have hb : b.token = .word "KEY" := hb
    simp [columnClauses, keyClause, afterWord?, passWord, keyKinds, ha, hb, hprimary, hkeyWord]
  | numbering =>
    obtain ⟨⟨a, i⟩, rest, rfl, ha, hts⟩ := List.map_eq_cons_iff.1 hts
    obtain ⟨⟨b, j⟩, rest, rfl, hb, hts⟩ := List.map_eq_cons_iff.1 hts
    obtain ⟨⟨c, k⟩, rest, rfl, hc, hts⟩ := List.map_eq_cons_iff.1 hts
    rw [List.map_eq_nil_iff.1 hts]
    have ha : a.token = .word "PRIMARY" := ha
    have hb : b.token = .word "KEY" := hb
    have hc : c.token = .word "AUTOINCREMENT" := hc
    simp [columnClauses, keyClause, afterWord?, passWord, keyKinds, ha, hb, hc, hprimary,
      hkeyWord, hcounting, hcounts]

/-- No word for a key goes on with the type before it, or opens a parenthesis. -/
theorem head?_key {rest : List Numbered} {type : ColumnType} {key : KeyRole}
    (hts : tokensOf rest = us) (hkey : DeclaresKey us type key) :
    rest.takeWhile (fun w => isTypeWord w.1.token) = [] ∧ afterParentheses 0 rest = rest := by
  have hprimary : isTypeWord (.word "PRIMARY") = false := by decide
  cases rest with
  | nil => exact ⟨rfl, rfl⟩
  | cons l rest =>
    obtain ⟨l, i⟩ := l
    have hl : l.token = .word "PRIMARY" := by
      cases hkey with
      | plain => cases hts
      | unique | numbering => exact (List.cons.inj hts).1
    exact ⟨by simp [hl, hprimary], by simp [afterParentheses, hl]⟩

/-- A column is read as its clauses. -/
theorem clausesOf_column {part : List Numbered} {c : ColumnDefinition}
    (hpart : DeclaresColumn (tokensOf part) c) (hwords : Spelled part) (stop : Nat) :
    (clausesOf part stop).map (·.kind) = kindsOf c := by
  generalize hts : tokensOf part = ts at hpart
  obtain @⟨t, u, vs, name, type, key, hname, htype, hkey⟩ := hpart
  obtain ⟨⟨l, i⟩, rest, rfl, hl, hrest⟩ := List.map_eq_cons_iff.1 hts
  obtain ⟨⟨k, j⟩, rest, rfl, hk, hvs⟩ := List.map_eq_cons_iff.1 hrest
  have hl : l.token = t := hl
  have hk : k.token = u := hk
  have hprimary := Sql.isWord_eq_false_of_anyName? hname (w := "primary") (by decide)
  have hunique := Sql.isWord_eq_false_of_anyName? hname (w := "unique") (by decide)
  have htypeWord : isTypeWord k.token = true ∧ k.text = type.sql := by
    have htext := hwords (k, j) (List.mem_cons_of_mem _ List.mem_cons_self)
    cases htype <;> exact ⟨by rw [hk]; decide, htext _ hk⟩
  obtain ⟨htake, hafter⟩ := head?_key hvs hkey
  have hclauses := columnClauses_key hvs hkey stop
  simp only [clausesOf, afterWord?, hl, hprimary, hunique, hname, Bool.false_eq_true, if_false,
    List.takeWhile_cons, htypeWord.1, if_true, htake, List.length_cons, List.length_nil,
    List.drop_succ_cons, List.drop_zero, List.isEmpty_cons, hafter, List.map_cons, hclauses]
  rw [kindsOf, List.map_nil, String.intercalate_singleton, htypeWord.2]

/-! ## Drafts -/

variable {table : String} {D : Draft} {seen : List ColumnDefinition}

/-- What a draft has so far. -/
structure Has (D : Draft) (seen : List ColumnDefinition) : Prop where
  columns : D.columns.map (·.1) = seen
  hasKey : D.hasKey = seen.any (·.isKey)
  apart : seen.Pairwise ColumnDefinition.Apart

/-- Whether the type and the key of a column may be declared together. -/
def Declarable (c : ColumnDefinition) : Prop :=
  c.type ≠ .untyped ∧ (c.key = .numbering → c.type = .integer) ∧
    (c.key = .unique → c.type ≠ .integer)

theorem declarable_of_declaresColumn {ts : List Sql.Token} {c : ColumnDefinition}
    (h : DeclaresColumn ts c) : Declarable c := by
  obtain ⟨-, htype, hkey⟩ := h
  refine ⟨by cases htype <;> exact nofun, ?_, ?_⟩
  · rintro rfl
    cases hkey
    rfl
  · rintro rfl
    cases hkey with
    | unique h => exact h

/-- The role of the last column is given to no other. -/
theorem giveRole_append {cs : List (ColumnDefinition × Bool)} {c : ColumnDefinition} {whole : Bool}
    (hc : TableDefinition.hasColumn (cs.map (·.1)) c.name = false) (b : Bool) (key : KeyRole) :
    giveRole ⟨cs ++ [(c, whole)], b⟩ c.name key = ⟨cs ++ [({ c with key }, whole)], b⟩ := by
  have hothers : (cs.map fun d => if Sql.sameName d.1.name c.name then withRole key d else d) =
      cs := by
    refine (List.map_congr_left fun d hd => ?_).trans (List.map_id cs)
    have hd := List.any_eq_false.1 hc d.1 (List.mem_map_of_mem hd)
    rw [if_neg hd]
    rfl
  have hlast : Sql.sameName c.name c.name = true := beq_self_eq_true _
  simp only [giveRole, List.map_append, hothers, List.map_cons, List.map_nil, hlast, if_true]
  rfl

/-- A type is read from its word. -/
theorem ofDeclared_sql {type : ColumnType} (h : type ≠ .untyped) :
    ColumnType.ofDeclared type.sql = type ∧
      Sql.sameName type.sql "integer" = decide (type = .integer) := by
  cases type with
  | untyped => exact absurd rfl h
  | _ => decide

/-- One more column is apart from those before. -/
theorem apart_append_iff {c : ColumnDefinition} (h : seen.Pairwise ColumnDefinition.Apart) :
    (seen ++ [c]).Pairwise ColumnDefinition.Apart ↔
      TableDefinition.hasColumn seen c.name = false ∧ (c.isKey && seen.any (·.isKey)) = false := by
  rw [← TableDefinition.forall_apart_iff, List.pairwise_append]
  simp [h]

/-- A clause on a key makes the last column one, unless there is a key already. -/
theorem extend_key (table : String) {cs : List (ColumnDefinition × Bool)} {c : ColumnDefinition}
    (hc : Declarable c) (hname : TableDefinition.hasColumn (cs.map (·.1)) c.name = false)
    {kind : ClauseKind} (hkind : keyKinds c.key = [kind]) (hasKey : Bool) :
    extend table ⟨cs ++ [({ c with key := .plain }, decide (c.type = .integer))], hasKey⟩ kind =
      if hasKey then .error (.severalKeys table)
      else .ok ⟨cs ++ [(c, decide (c.type = .integer))], true⟩ := by
  obtain ⟨name, type, key⟩ := c
  obtain ⟨-, hnumbering, hunique⟩ := hc
  have hrole (whole b : Bool) (key : KeyRole) :
      giveRole ⟨cs ++ [(⟨name, type, .plain⟩, whole)], b⟩ name key =
        ⟨cs ++ [(⟨name, type, key⟩, whole)], b⟩ :=
    giveRole_append (c := ⟨name, type, .plain⟩) hname b key
  cases key with
  | plain => cases hkind
  | unique =>
    obtain rfl := (List.cons.inj hkind).1
    have hne : decide (type = .integer) = false := decide_eq_false (hunique rfl)
    simp only [extend, List.getLast?_append, List.getLast?_singleton, Option.some_or, hrole, hne,
      Bool.false_eq_true, if_false, Bool.false_and]
  | numbering =>
    obtain rfl := (List.cons.inj hkind).1
    have heq : decide (type = .integer) = true := decide_eq_true (hnumbering rfl)
    simp only [extend, List.getLast?_append, List.getLast?_singleton, Option.some_or, hrole, heq,
      if_true, Bool.not_false, Bool.and_self]

/-- A column that is a key has a single clause that says so. -/
theorem plain_or_exists_keyKinds (c : ColumnDefinition) :
    c.key = .plain ∨ c.isKey = true ∧ ∃ kind, keyKinds c.key = [kind] := by
  obtain ⟨name, type, key⟩ := c
  cases key with
  | plain => exact .inl rfl
  | unique | numbering => exact .inr ⟨rfl, _, rfl⟩

/-- The clauses of a column add it to a draft exactly if it is apart from those before. -/
theorem extendAll_column {c : ColumnDefinition} (hD : Has D seen) (hc : Declarable c)
    {cs : List Clause} (hcs : cs.map (·.kind) = kindsOf c) (table : String) (rest : List Clause) :
    (∃ D', Has D' (seen ++ [c]) ∧
      extendAll table D (cs ++ rest) = extendAll table D' rest) ∨
    ¬(seen ++ [c]).Pairwise ColumnDefinition.Apart ∧
      ∃ f, extendAll table D (cs ++ rest) = .error f := by
  obtain ⟨hof, hinteger⟩ := ofDeclared_sql hc.1
  obtain ⟨clause, cs, rfl, hclause, hcs⟩ := List.map_eq_cons_iff.1 hcs
  have hclause : clause.kind = .column c.name c.type.sql := hclause
  have happend := apart_append_iff (c := c) hD.apart
  rw [← hD.hasKey] at happend
  by_cases hname : TableDefinition.hasColumn seen c.name = true
  · refine .inr ⟨fun h => by simp [happend, hname] at h, .repeatedColumn c.name, ?_⟩
    simp only [List.cons_append, extendAll, hclause, extend, hD.columns, hname, if_true]
  rw [Bool.not_eq_true] at hname
  -- The column is added first as one that is no key.
  have hadd : extendAll table D (clause :: cs ++ rest) = extendAll table
      ⟨D.columns ++ [({ c with key := .plain }, decide (c.type = .integer))], D.hasKey⟩
      (cs ++ rest) := by
    simp only [List.cons_append, extendAll, hclause, extend, hD.columns, hname, hof, hinteger,
      Bool.false_eq_true, if_false]
  have hhas (hkey : (c.isKey && D.hasKey) = false) :
      Has ⟨D.columns ++ [(c, decide (c.type = .integer))], D.hasKey || c.isKey⟩ (seen ++ [c]) :=
    ⟨by rw [List.map_append, hD.columns]; rfl, by simp [hD.hasKey], happend.2 ⟨hname, hkey⟩⟩
  rw [hadd]
  -- Then it is a key, unless there is one.
  obtain hplain | ⟨hisKey, kind, hkind⟩ := plain_or_exists_keyKinds c
  · have hisKey : c.isKey = false := by
      rw [ColumnDefinition.isKey, hplain]
      rfl
    have hcolumn : ({ c with key := .plain } : ColumnDefinition) = c := by rw [← hplain]
    rw [hplain] at hcs
    rw [List.map_eq_nil_iff.1 hcs, hcolumn]
    refine .inl ⟨_, hhas (by rw [hisKey, Bool.false_and]), ?_⟩
    rw [hisKey, Bool.or_false]
    rfl
  · rw [hkind] at hcs
    obtain ⟨clause', cs, rfl, hclause', hcs⟩ := List.map_eq_cons_iff.1 hcs
    have hextend := extend_key table hc (hD.columns ▸ hname) hkind D.hasKey
    rw [List.map_eq_nil_iff.1 hcs, List.cons_append, List.nil_append, extendAll, hclause', hextend]
    cases hkey : D.hasKey with
    | true =>
      refine .inr ⟨fun h => ?_, .severalKeys table, rfl⟩
      rw [happend, hkey, hisKey] at h
      cases h.2
    | false =>
      refine .inl ⟨_, hhas (by rw [hkey, Bool.and_false]), ?_⟩
      rw [hkey, hisKey]
      rfl

/-- The clauses of columns are accepted exactly if the columns are apart. -/
theorem extendAll_columns {ps : List (List Numbered × Nat)} (hD : Has D seen) (table : String)
    (hps : List.Forall₂ (fun part c => DeclaresColumn (tokensOf part.1) c ∧ Spelled part.1)
      ps columns) :
    (∃ D', Has D' (seen ++ columns) ∧
      extendAll table D (ps.flatMap fun (part, stop) => clausesOf part stop) = .ok D') ∨
    ¬(seen ++ columns).Pairwise ColumnDefinition.Apart ∧
      ∃ f, extendAll table D (ps.flatMap fun (part, stop) => clausesOf part stop) = .error f := by
  induction hps generalizing D seen with
  | nil => exact .inl ⟨D, by rwa [List.append_nil], rfl⟩
  | @cons part c ps columns hc _ ih =>
    obtain ⟨hpart, hwords⟩ := hc
    have hkinds := clausesOf_column hpart hwords part.2
    rw [List.flatMap_cons, List.append_cons]
    obtain ⟨D', hD', heq⟩ | ⟨hapart, hf⟩ :=
      extendAll_column hD (declarable_of_declaresColumn hpart) hkinds table
        (ps.flatMap fun (part, stop) => clausesOf part stop)
    · rw [heq]
      exact ih hD'
    · exact .inr ⟨fun h => hapart (List.pairwise_append.1 h).1, hf⟩

/-! ## Definitions -/

variable {sql : String} {ts : List Sql.Token} {d : TableDefinition} {db : Database}

/-- The lexemes of a definition: its head, and the columns in parentheses. -/
structure Reads (ls : List Sql.Lexeme) (ts : List Sql.Token) (d : TableDefinition)
    (head : DefinitionHead) (l : Numbered) (p : List Numbered) : Prop where
  reads : readHead? (ls.map (·.token)) = some head
  ifAbsent : head.ifAbsent = true
  name : head.name.name = d.name
  main : Database.isMain head.name.database = true
  body : ls.zipIdx.drop head.after = l :: p
  opens : l.1.token = .sign "("
  spelled : Spelled p
  columns : ∃ us, Listed DeclaresColumn us d.columns ∧ tokensOf p = us ++ [.sign ")"]
  kept : Sql.endsIf ts = false → checkKept ls head = .ok ()

theorem tokensOf_drop_zipIdx (ls : List Sql.Lexeme) (n : Nat) :
    tokensOf (ls.zipIdx.drop n) = (ls.map (·.token)).drop n := by
  have hmap : ls.zipIdx.map (·.1.token) = ls.map (·.token) := by
    rw [← Function.comp_def (fun l : Sql.Lexeme => l.token) Prod.fst, ← List.map_map,
      List.zipIdx_map_fst]
  rw [tokensOf, List.map_drop, hmap]

/-- A definition is kept if the name of its table does not end in `IF`. -/
theorem checkKept_eq_ok {ls : List Sql.Lexeme} {head : DefinitionHead} {n : Sql.TableName}
    {before us : List Sql.Token} (hnames : Sql.NamesTable ts n)
    (hls : ls.map (·.token) = before ++ (ts ++ .sign "(" :: us))
    (hafter : head.after = before.length + ts.length) (hif : Sql.endsIf ts = false) :
    checkKept ls head = .ok () := by
  obtain ⟨t, ts', rfl⟩ : ∃ t ts', ts = ts' ++ [t] := by
    cases hnames with
    | plain => exact ⟨_, [], rfl⟩
    | within => exact ⟨_, [_, _], rfl⟩
  have hlast : (ls.drop (head.after - 1)).map (·.token) = t :: .sign "(" :: us := by
    have hlength : head.after - 1 = (before ++ ts').length := by
      simp only [hafter, List.length_append, List.length_singleton]
      omega
    rw [List.map_drop, hls, hlength, List.append_assoc, ← List.append_assoc, List.drop_left]
    rfl
  have ht : t.isWord "if" = false := by simpa [Sql.endsIf] using hif
  obtain ⟨l, ls', hls', hl, hrest⟩ := List.map_eq_cons_iff.1 hlast
  obtain ⟨l', ls', rfl, -, -⟩ := List.map_eq_cons_iff.1 hrest
  rw [checkKept]
  simp only [hls', hl, ht, Bool.false_eq_true, if_false]

/-- The lexemes of a text with the form of a definition. -/
theorem exists_reads (h : Sql.MakesTable sql ts d) :
    ∃ head l p, Reads (Sql.lexemes sql) ts d head l p := by
  obtain ⟨⟨database, hnames, hmain⟩, us, hcolumns, hsql⟩ := h
  have hwords : ∀ w ∈ [("create", "CREATE"), ("table", "TABLE"), ("if", "IF"), ("not", "NOT"),
      ("exists", "EXISTS")], (Sql.Token.word w.2).isWord w.1 = true := by decide
  simp only [List.forall_mem_cons] at hwords
  have hname : Sql.Select.readTableName (ts ++ .sign "(" :: (us ++ [.sign ")"])) =
      some (⟨database, d.name⟩, .sign "(" :: (us ++ [.sign ")"])) :=
    Sql.Select.readTableName_append hnames (by simp)
  have hhead : readHead? (Sql.tokens sql) =
      some ⟨true, ⟨database, d.name⟩, 5, 5 + ts.length⟩ := by
    simp only [hsql, readHead?, startsWith]
    simp [hwords, hname]
    omega
  have hbody : tokensOf ((Sql.lexemes sql).zipIdx.drop (5 + ts.length)) =
      .sign "(" :: (us ++ [.sign ")"]) := by
    have htokens : (Sql.lexemes sql).map (·.token) = Sql.tokens sql := rfl
    rw [tokensOf_drop_zipIdx, htokens, hsql, Nat.add_comm]
    simp only [List.drop_succ_cons, List.drop_left]
  obtain ⟨l, p, hlp, hl, hp⟩ := List.map_eq_cons_iff.1 hbody
  refine ⟨_, l, p, hhead, rfl, rfl, hmain, hlp, hl, ?_, ⟨us, hcolumns, hp⟩, ?_⟩
  · intro k hk s hs
    have hmem : k ∈ (Sql.lexemes sql).zipIdx :=
      List.mem_of_mem_drop (hlp ▸ List.mem_cons_of_mem _ hk)
    have hlexeme : k.1 ∈ Sql.lexemes sql := (List.mem_zipIdx' hmem).2 ▸ List.getElem_mem _
    exact Sql.text_of_word ((List.dropWhile_sublist _).subset hlexeme) hs
  · have hlexemes : (Sql.lexemes sql).map (·.token) = [.word "CREATE", .word "TABLE", .word "IF",
        .word "NOT", .word "EXISTS"] ++ (ts ++ .sign "(" :: (us ++ [.sign ")"])) := hsql
    exact checkKept_eq_ok hnames hlexemes rfl

variable {ls : List Sql.Lexeme} {head : DefinitionHead} {l : Numbered} {p : List Numbered}

theorem Reads.table? (h : Reads ls ts d head l p) (hreserved : Database.isReserved d.name = false)
    (db : Database) : db.table? head.name = Database.named? db d.name := by
  rw [← h.name] at hreserved ⊢
  exact Database.table?_eq h.main hreserved db

/-- Of a name of the main database, only that it is reserved is wrong. -/
theorem Reads.checkName (h : Reads ls ts d head l p) (sql : String) (db : Database) :
    checkName sql ls head db =
      if Database.isReserved d.name then .error (.reservedName d.name) else .ok () := by
  have hmain := h.main
  have hif := h.ifAbsent
  have hname := h.name
  obtain ⟨ifAbsent, ⟨database, name⟩, nameAt, after⟩ := head
  dsimp only at hmain hif hname
  subst hif hname
  cases database with
  | none =>
    simp only [Definition.checkName]
    split <;> rfl
  | some database =>
    have hcontains : ["main", "temp"].contains (Sql.folded database) = true := by
      have hfolded : Sql.folded "main" = Sql.folded database := beq_iff_eq.1 hmain
      rw [← hfolded]
      decide
    simp only [Definition.checkName, hcontains, if_true]
    split <;> rfl

/-- No words come after the columns. -/
theorem Reads.options (h : Reads ls ts d head l p) : afterParentheses 0 (l :: p) = [] := by
  obtain ⟨us, hcolumns, hp⟩ := h.columns
  have hsigns {s : String} (hs : s ≠ ",") : .sign s ∉ us :=
    hcolumns.sign_not_mem hs fun _ _ hc => hc.sign_not_mem s
  obtain ⟨l, i⟩ := l
  have hl : l.token = .sign "(" := h.opens
  rw [afterParentheses, hl]
  exact afterParentheses_close (hsigns (by decide)) (hsigns (by decide)) hp

/-- A definition without a fault is carried out, if its name is not reserved. -/
theorem Reads.make_none (h : Reads ls ts d head l p) (sql : String) (db : Database) :
    make sql ls none db =
      if Database.isReserved d.name then .error (.reservedName d.name)
      else if (Database.named? db d.name).isSome then .ok db
      else
        match extendAll d.name ⟨[], false⟩ (clauses (l :: p)) with
        | .error f => .error f
        | .ok D =>
          match checkKept ls head with
          | .error f => .error f
          | .ok () => .ok (db.add ⟨d.name, D.columns.map (·.1)⟩) := by
  have hprecedes (n : Nat) : precedes n none = true := rfl
  have hopens : (l.1.token == .sign "(") = true := beq_iff_eq.2 h.opens
  simp only [make, h.reads, h.checkName, h.body, List.head?_cons, Option.any_some, hopens, if_true,
    h.options, hprecedes]
  cases hreserved : Database.isReserved d.name with
  | true => rfl
  | false =>
    simp only [h.table? hreserved, h.name, h.main, List.filter_true, if_true]
    cases (Database.named? db d.name).isSome with
    | true => rfl
    | false =>
      cases extendAll d.name ⟨[], false⟩ (clauses (l :: p)) with
      | error f => rfl
      | ok D => cases checkKept ls head <;> rfl

/-- A definition with a fault is refused for one reason, if it has no column, wherever its
    name is free or reserved. -/
theorem Reads.make_some (h : Reads ls ts d head l p) (hd : d.columns = []) (sql : String)
    (n : Nat) : ∃ f, ∀ db : Database,
      db.entry d.name = .absent ∨ Database.isReserved d.name = true →
        make sql ls (some n) db = .error f := by
  have hopens : (l.1.token == .sign "(") = true := beq_iff_eq.2 h.opens
  obtain ⟨us, hcolumns, hp⟩ := h.columns
  have hclauses : clauses (l :: p) = [] := by
    rw [hd] at hcolumns
    cases hcolumns
    obtain ⟨⟨k, i⟩, p, rfl, hk, hp⟩ := List.map_eq_cons_iff.1 hp
    obtain ⟨l, j⟩ := l
    have hk : k.token = .sign ")" := hk
    have hopens : (l.token == .sign "(") = true := hopens
    simp [clauses, hopens, parts, hk, clausesOf]
  cases hprecedes : precedes head.after (some n) with
  | false =>
    refine ⟨syntaxFault sql n, fun db _ => ?_⟩
    simp only [make, h.reads, hprecedes]
    rfl
  | true =>
    cases hreserved : Database.isReserved d.name with
    | true =>
      refine ⟨.reservedName d.name, fun db _ => ?_⟩
      simp only [make, h.reads, hprecedes, h.checkName, hreserved]
      rfl
    | false =>
      refine ⟨syntaxFault sql n, fun db hdb => ?_⟩
      have habsent : Database.named? db d.name = none :=
        (Database.entry_eq_absent_iff hreserved).1 (hdb.resolve_right Bool.false_ne_true)
      simp only [make, h.reads, hprecedes, h.checkName, hreserved, h.body, List.head?_cons,
        Option.any_some, hopens, if_true, h.options, h.table? hreserved, habsent, hclauses]
      rfl

/-- Columns that are accepted are those of the definition. -/
theorem Reads.extendAll (h : Reads ls ts d head l p) (hne : d.columns ≠ []) (table : String) :
    (d.columns.Pairwise ColumnDefinition.Apart ∧ ∃ D, D.columns.map (·.1) = d.columns ∧
      extendAll table ⟨[], false⟩ (clauses (l :: p)) = .ok D) ∨
    ¬d.columns.Pairwise ColumnDefinition.Apart ∧
      ∃ f, extendAll table ⟨[], false⟩ (clauses (l :: p)) = .error f := by
  obtain ⟨us, hcolumns, hp⟩ := h.columns
  have hopens : (l.1.token == .sign "(") = true := beq_iff_eq.2 h.opens
  have hparts : List.Forall₂ (fun part c => DeclaresColumn (tokensOf part.1) c ∧ Spelled part.1)
      (parts 0 [] p) d.columns :=
    (parts_columns hcolumns hne hp).imp fun _ _ hc => ⟨hc.1, h.spelled.mono hc.2⟩
  have hempty : Has ⟨[], false⟩ [] := ⟨rfl, rfl, .nil⟩
  obtain ⟨l, i⟩ := l
  have hclauses : clauses ((l, i) :: p) =
      (parts 0 [] p).flatMap fun (part, stop) => clausesOf part stop := if_pos hopens
  rw [hclauses]
  obtain ⟨D, hD, heq⟩ | h := extendAll_columns hempty table hparts
  · exact .inl ⟨hD.apart, D, hD.columns, heq⟩
  · exact .inr h

end Definition

/-! ## Statements -/

namespace Database

variable {sql : String} {ts : List Sql.Token} {d : TableDefinition}

/-- The text of a definition has one statement. -/
theorem execute_makesTable (h : Sql.MakesTable sql ts d) (db : Database) :
    db.execute sql =
      match db.executeOne sql (Sql.lexemes sql) [] with
      | .error f => (.error f, db)
      | .ok after => (.ok (), after) := by
  obtain ⟨hname, us, hcolumns, hsql⟩ := h
  refine execute_eq (by rw [hsql]; exact List.cons_ne_nil _ _) ?_ db
  have hts : .sign ";" ∉ ts := hname.sign_not_mem (by decide)
  have hus : .sign ";" ∉ us := hcolumns.sign_not_mem (by decide) fun _ _ hc => hc.sign_not_mem ";"
  simp [hsql, hts, hus]

/-- A definition is made without a fault exactly if it has a column. -/
theorem exists_executeOne_eq (h : Sql.MakesTable sql ts d) : ∃ faultAt : Option Nat,
    (d.columns = [] ↔ faultAt ≠ none) ∧ ∀ db : Database,
      db.executeOne sql (Sql.lexemes sql) [] =
        Definition.make sql (Sql.lexemes sql) faultAt db := by
  have hrecognised := Sql.recognise_makesTable h
  have hcreate : Definition.startsWith ["create"] (Sql.tokens sql) = true := by
    obtain ⟨-, us, -, hsql⟩ := h
    have hword : (Sql.Token.word "CREATE").isWord "create" = true := by decide
    simp [Definition.startsWith, hsql, hword]
  have htokens : (Sql.lexemes sql).map (·.token) = Sql.tokens sql := rfl
  by_cases hd : d.columns = []
  · rw [if_pos hd] at hrecognised
    obtain ⟨n, hn⟩ := hrecognised
    refine ⟨some n, ⟨fun _ => nofun, fun _ => hd⟩, fun db => ?_⟩
    simp only [executeOne, htokens, hn, hcreate, if_true]
  · rw [if_neg hd] at hrecognised
    obtain ⟨n, hn⟩ := hrecognised
    refine ⟨none, ⟨fun h => absurd h hd, fun h => absurd rfl h⟩, fun db => ?_⟩
    simp only [executeOne, htokens, hn, hcreate, if_true]

/-- What a definition with a column does. -/
theorem exists_execute_eq (h : Sql.MakesTable sql ts d) (hne : d.columns ≠ []) :
    ∃ head l p, Definition.Reads (Sql.lexemes sql) ts d head l p ∧ ∀ db : Database,
      db.execute sql =
        match Definition.make sql (Sql.lexemes sql) none db with
        | .error f => (.error f, db)
        | .ok after => (.ok (), after) := by
  obtain ⟨faultAt, hfault, hexecute⟩ := exists_executeOne_eq h
  cases faultAt with
  | some n => exact absurd (hfault.2 nofun) hne
  | none =>
    obtain ⟨head, l, p, hreads⟩ := Definition.exists_reads h
    exact ⟨head, l, p, hreads, fun db => by rw [execute_makesTable h, hexecute]⟩

/-- A definition makes its table or is refused, if it has a column. -/
theorem makes_or_refuses_of_columns (h : Sql.MakesTable sql ts d) (hne : d.columns ≠ []) :
    view.Makes sql d ∨ view.Refuses sql d.name ∧
      ¬(d.columns.Pairwise ColumnDefinition.Apart ∧ isReserved d.name = false ∧
        Sql.endsIf ts = false) := by
  obtain ⟨head, l, p, hreads, hexecute⟩ := exists_execute_eq h hne
  simp only [hreads.make_none] at hexecute
  cases hreserved : isReserved d.name with
  | true =>
    refine .inr ⟨⟨.reservedName d.name, fun db _ => ?_⟩, by simp⟩
    show db.execute sql = _
    rw [hexecute, if_pos hreserved]
  | false =>
    simp only [hreserved, Bool.false_eq_true, if_false] at hexecute
    have hnamed (db : Database) (hdb : db.entry d.name = .absent ∨ isReserved d.name = true) :
        (named? db d.name).isSome = false := by
      rw [hreserved] at hdb
      rw [(entry_eq_absent_iff hreserved).1 (hdb.resolve_right Bool.false_ne_true)]
      rfl
    obtain ⟨hapart, D, hcolumns, hextend⟩ | ⟨hapart, f, hextend⟩ := hreads.extendAll hne d.name
    · cases hkept : Definition.checkKept (Sql.lexemes sql) head with
      | error f =>
        refine .inr ⟨⟨f, fun db hdb => ?_⟩, fun h => ?_⟩
        · show db.execute sql = _
          simp only [hexecute, hnamed db hdb, Bool.false_eq_true, if_false, hextend, hkept]
        · rw [hreads.kept h.2.2] at hkept
          cases hkept
      | ok =>
        refine .inl ⟨hne, hapart, hreserved, fun db hdb => ⟨db.add d, ?_, puts_add hreserved hdb⟩,
          fun db t hdb => ?_⟩
        · show db.execute sql = _
          simp only [hexecute, hnamed db (.inl hdb), Bool.false_eq_true, if_false, hextend, hkept,
            hcolumns]
        · show db.execute sql = _
          simp only [hexecute, (entry_eq_table_iff.1 hdb).2, Option.isSome_some, if_true]
    · refine .inr ⟨⟨f, fun db hdb => ?_⟩, fun h => hapart h.1⟩
      show db.execute sql = _
      simp only [hexecute, hnamed db hdb, Bool.false_eq_true, if_false, hextend]

/-- A definition is refused for one reason, or makes its table. -/
theorem refuses_or_makes (h : Sql.MakesTable sql ts d) :
    view.Refuses sql d.name ∨ view.Makes sql d := by
  by_cases hd : d.columns = []
  · obtain ⟨faultAt, hfault, hexecute⟩ := exists_executeOne_eq h
    obtain ⟨head, l, p, hreads⟩ := Definition.exists_reads h
    cases faultAt with
    | none => exact absurd rfl (hfault.1 hd)
    | some n =>
      obtain ⟨f, hf⟩ := hreads.make_some hd sql n
      refine .inl ⟨f, fun db hdb => ?_⟩
      show db.execute sql = _
      rw [execute_makesTable h, hexecute, hf db hdb]
  · exact (makes_or_refuses_of_columns h hd).symm.imp_left And.left

end Database

end Store

end EntityQuery
