import EntityQuery.Proofs.Encoding
import EntityQuery.Proofs.Injectivity
import EntityQuery.Proofs.Interleaving
import EntityQuery.Proofs.Refusal
import EntityQuery.Proofs.Storing

/-!
# Texts given as bytes

A text and its bytes are coerced to one another (`Value.coerce_string_bytes_iff`): every
text has bytes, and the bytes that are refused are those of no text, which are the ones
with a fault.

So it makes no difference whether the argument of a method that compares texts is given as
a text or as its bytes. Conditions and chains that differ in this way alone (`Respelled`)
are translated to the same or refused for the same, and one whose argument is bytes of no
text is refused (`Value.bytes_stand_for_text`).
-/

namespace EntityQuery

namespace Value

/-- The bytes are those of no text. -/
def Textless (b : ByteArray) : Prop := ∀ s : String, s.toUTF8 ≠ b

variable {b : ByteArray} {s : String}

/-- Bytes are read as the text that they are the bytes of. -/
theorem fromUTF8?_eq_some_iff : String.fromUTF8? b = some s ↔ s.toUTF8 = b := by
  constructor
  · exact toByteArray_of_fromUTF8?
  · rintro rfl
    exact Text.fromUTF8?_toUTF8 s

theorem coerce_bytes_eq (b : ByteArray) : (bytes b).coerce .string =
    match String.fromUTF8? b with
    | some s => .ok (string s)
    | none => .error ⟨bytesText b, .string, .invalidUtf8⟩ := by
  have hconvert : (bytes b).convert .string =
      orReason .invalidUtf8 ((String.fromUTF8? b).map string) := rfl
  rw [coerce, hconvert]
  cases String.fromUTF8? b <;> rfl

theorem coerce_string_eq (s : String) : (string s).coerce .bytes = .ok (bytes s.toUTF8) := rfl

/-- A text and its bytes are coerced to one another. -/
theorem coerce_string_bytes_iff : (bytes b).coerce .string = .ok (string s) ↔
    (string s).coerce .bytes = .ok (bytes b) := by
  rw [coerce_string_eq, Except.ok.injEq, bytes.injEq, ← fromUTF8?_eq_some_iff, coerce_bytes_eq]
  cases String.fromUTF8? b <;> simp

/-- Bytes are refused exactly if they are those of no text. -/
theorem coerce_bytes_eq_error_iff {e : CoercionError} : (bytes b).coerce .string = .error e ↔
    Textless b ∧ e = ⟨bytesText b, .string, .invalidUtf8⟩ := by
  rw [coerce_bytes_eq]
  cases hb : String.fromUTF8? b with
  | some s => exact iff_of_false nofun fun h => h.1 s (fromUTF8?_eq_some_iff.1 hb)
  | none =>
    have hnone : Textless b := fun s hs => by
      cases hb.symm.trans (fromUTF8?_eq_some_iff.2 hs)
    rw [Except.error.injEq, and_iff_right hnone]
    exact eq_comm

/-- Bytes are those of no text exactly if they have a fault. -/
theorem textless_iff : Textless b ↔ ∃ fault, Text.Utf8.firstFault b = some fault := by
  rw [← Option.isSome_iff_exists, ← Option.ne_none_iff_isSome, ne_eq,
    Text.Utf8.firstFault_eq_none_iff, not_exists]
  rfl

theorem unreadable_bytes_iff : (bytes b).Unreadable ↔ Textless b := by
  rw [← not_iff_not, ← coerce_string_eq_ok_iff, Textless]
  simp only [coerce_string_bytes_iff, coerce_string_eq, Except.ok.injEq, bytes.injEq, ne_eq,
    not_forall, not_not]

end Value

/-- A condition with another one in which arguments that were given as bytes are given as
    the texts that they are the bytes of. -/
inductive Expr.Respelled : Expr → Expr → Prop
  | refl (e : Expr) : Respelled e e
  | binary {op : BinaryOp} {left left' right right' : Expr} : Respelled left left' →
    Respelled right right' → Respelled (binary op left right) (binary op left' right')
  | receiver {method : String} {receiver receiver' : Expr} {args : List Expr} :
    Respelled receiver receiver' →
    Respelled (call method receiver args) (call method receiver' args)
  | argument {method s : String} {receiver receiver' arg arg' : Expr} :
    arg.value? = some (.bytes s.toUTF8) → arg'.value? = some (.string s) →
    Respelled receiver receiver' →
    Respelled (call method receiver [arg]) (call method receiver' [arg'])

/-- Somewhere in a condition, a method is called with an argument. -/
inductive Expr.HasCall (method : String) (arg : Expr) : Expr → Prop
  | here {receiver : Expr} : HasCall method arg (call method receiver [arg])
  | receiver {method' : String} {receiver : Expr} {args : List Expr} :
    HasCall method arg receiver → HasCall method arg (call method' receiver args)
  | left {op : BinaryOp} {left right : Expr} :
    HasCall method arg left → HasCall method arg (binary op left right)
  | right {op : BinaryOp} {left right : Expr} :
    HasCall method arg right → HasCall method arg (binary op left right)

/-- An operator with another one whose condition is given as texts. -/
inductive Operator.Respelled : Operator → Operator → Prop
  | refl (op : Operator) : Respelled op op
  | filter {e e' : Expr} : e.Respelled e' → Respelled (filter e) (filter e')

/-- A chain with another one whose conditions are given as texts. -/
structure Chain.Respelled (c c' : Chain) : Prop where
  root : c.root = c'.root
  applied : List.Forall₂ Operator.Respelled c.applied c'.applied

namespace Predicate

variable {m : Metadata}

/-- An argument has the same text, as a text or as its bytes. -/
theorem argumentText_eq {method s : String} {arg arg' : Expr}
    (harg : arg.value? = some (.bytes s.toUTF8)) (harg' : arg'.value? = some (.string s)) :
    argumentText method arg = argumentText method arg' := by
  have hbytes : (Value.bytes s.toUTF8).coerce .string = .ok (.string s) :=
    Value.coerce_string_bytes_iff.2 rfl
  have hstring : (Value.string s).coerce .string = .ok (.string s) := rfl
  cases arg with
  | captured _ v | literal v =>
    obtain rfl := Option.some.inj harg
    cases arg' with
    | captured _ v' | literal v' =>
      obtain rfl := Option.some.inj harg'
      simp only [argumentText, hbytes, hstring]
    | field | binary | call | record => cases harg'
  | field | binary | call | record => cases harg

theorem pattern_singleton (method : String) (arg : Expr) : pattern method [arg] =
    if method = "starts_with" then (argumentText method arg).map (· ++ "%")
    else if method = "contains" then (argumentText method arg).map ("%" ++ · ++ "%")
    else .error (.method method 1) := by
  split_ifs with hstart hcontain
  · subst hstart
    rfl
  · subst hcontain
    rfl
  · unfold pattern
    split
    · exact absurd rfl hstart
    · exact absurd rfl hcontain
    · rfl

/-- A condition is taken apart in the same way, whatever its arguments are given as. -/
theorem term_respelled {e e' : Expr} (h : e.Respelled e') (ps : List Parameter) :
    term m e ps = term m e' ps := by
  induction h generalizing ps with
  | refl => rfl
  | binary _ _ ihl ihr => simp only [term, ihl, ihr]
  | receiver _ ih => simp only [term, ih]
  | argument harg harg' _ ih =>
    simp only [term, pattern_singleton, argumentText_eq harg harg', ih]

/-- A condition is compiled to the same, whatever its arguments are given as. -/
theorem compile_respelled {e e' : Expr} (h : e.Respelled e') : compile m e = compile m e' := by
  simp only [compile, fragment, term_respelled h]

/-- Conditions are conjoined to the same, whatever their arguments are given as. -/
theorem conjoin_respelled {es es' : List Expr} (h : List.Forall₂ Expr.Respelled es es') :
    conjoin m es = conjoin m es' := by
  have hwith {es es' : List Expr} (h : List.Forall₂ Expr.Respelled es es') (p : Predicate) :
      conjoinWith m p es = conjoinWith m p es' := by
    induction h generalizing p with
    | nil => rfl
    | cons he _ ih => simp only [conjoinWith, fragment, term_respelled he, ih]
  cases h with
  | nil => rfl
  | cons he hes => simp only [conjoin, compile_respelled he, hwith hes]

end Predicate

/-! ## Chains -/

/-- The conditions of operators are respelled with them. -/
theorem Operator.Respelled.condition? {op op' : Operator} (h : op.Respelled op') :
    Option.Rel Expr.Respelled op.condition? op'.condition? := by
  cases h with
  | refl =>
    cases op with
    | filter e => exact .some (.refl e)
    | source | project | limit => exact .none
  | filter he => exact .some he

/-- What is read off operators other than filters is the same. -/
theorem Operator.findSome?_respelled {α : Type} {part? : Operator → Option α}
    {ops ops' : List Operator} (hpart : ∀ e e', part? (.filter e) = part? (.filter e'))
    (h : List.Forall₂ Operator.Respelled ops ops') :
    ops.findSome? part? = ops'.findSome? part? := by
  induction h with
  | nil => rfl
  | cons hop _ ih =>
    rw [List.findSome?_cons, List.findSome?_cons, ih]
    cases hop with
    | refl => rfl
    | filter => rw [hpart]

namespace Chain

variable {c c' : Chain}

theorem Respelled.filters (h : c.Respelled c') :
    List.Forall₂ Expr.Respelled c.filters c'.filters := by
  rw [filters_eq, filters_eq]
  exact List.rel_filterMap (fun _ _ hop => hop.condition?) (List.forall₂_reverse_iff.2 h.applied)

/-- Chains are planned in the same way, whatever the arguments of their conditions are given
    as. -/
theorem Respelled.ofChain_eq (h : c.Respelled c') (m : Metadata) :
    Plan.ofChain m c = Plan.ofChain m c' := by
  refine Plan.ofChain_congr h.root (Predicate.conjoin_respelled h.filters) ?_ ?_
  · rw [projection?_eq, projection?_eq]
    exact Operator.findSome?_respelled (fun _ _ => rfl) h.applied
  · rw [limit?_eq, limit?_eq]
    exact Operator.findSome?_respelled (fun _ _ => rfl) h.applied

end Chain

/-- A condition with a call whose argument has no text cannot be asked for. -/
theorem Expr.HasCall.not_supported {m : Metadata} {method : String} {arg e : Expr} {v : Value}
    (h : HasCall method arg e) (harg : arg.value? = some v) (hv : v.Unreadable) :
    ¬e.Supported m := by
  intro hsupported
  induction h with
  | here =>
    cases hsupported with
    | call _ hvalue hreadable _ => exact hreadable (Option.some.inj (harg.symm.trans hvalue) ▸ hv)
  | receiver _ ih =>
    cases hsupported with
    | call _ _ _ hreceiver => exact ih hreceiver
  | left _ ih =>
    cases hsupported with
    | binary hleft _ => exact ih hleft
  | right _ ih =>
    cases hsupported with
    | binary _ hright => exact ih hright

namespace World

variable {σ : Type} {w : World σ} {c c' : Chain}

theorem translate_respelled (h : c.Respelled c') (w : World σ) :
    w.translate c = w.translate c' := by
  simp only [translate, h.root, h.ofChain_eq]

/-- A chain with a condition that cannot be asked for is refused. -/
theorem translate_of_not_supported {e : Expr} (he : e ∈ c.filters)
    (h : ∀ m, ¬e.Supported m) (w : World σ) : ∃ err, (w.translate c).1 = .error err := by
  -- Only the fault that is found first is reported, which need not be that of `e`.
  cases htranslate : (w.translate c).1 with
  | error err => exact ⟨err, rfl⟩
  | ok p =>
    have hnone := fault?_eq_none_iff.2 ⟨p, htranslate⟩
    rw [fault?_translate c.madeOf] at hnone
    cases hresolve : (w.resolve c.root).1 with
    | error err =>
      rw [hresolve] at hnone
      cases hnone
    | ok m =>
      rw [hresolve] at hnone
      exact absurd ((Expr.faultsOf_eq_nil_iff.1 (List.head?_eq_none_iff.1 hnone)).1 e he) (h m)

end World

/-- A call whose argument has no text is refused for it, before anything else. -/
theorem Predicate.compile_of_unreadable {m : Metadata} {method : String} {receiver arg : Expr}
    {v : Value} (hmethod : Expr.isTextMethod method = true) (harg : arg.value? = some v)
    (hv : v.Unreadable) : compile m (.call method receiver [arg]) =
      .error (.unsupportedExpression m.entity.name (.argumentText method)) := by
  rw [← fault?_eq_some_iff, fault?_compile, Expr.faults, Expr.callFaults, if_pos hmethod,
    Expr.argumentFaults, harg]
  simp only [if_pos hv]
  rfl

/-- A text and its bytes are coerced to one another, every text to its bytes, and the bytes
    that are refused are those of no text, the ones with a fault. So conditions and chains
    are compiled and translated to the same, whether they are given texts or their bytes to
    compare with, and refused if they are given bytes of no text. -/
theorem Value.bytes_stand_for_text (b : ByteArray) :
    (∀ s, (bytes b).coerce .string = .ok (string s) ↔
      (string s).coerce .bytes = .ok (bytes b)) ∧
    (∀ s, (string s).coerce .bytes = .ok (bytes s.toUTF8)) ∧
    ((∃ e, (bytes b).coerce .string = .error e) ↔ Textless b) ∧
    (Textless b ↔ ∃ fault, Text.Utf8.firstFault b = some fault) ∧
    (∀ (m : Metadata) (e e' : Expr), e.Respelled e' →
      Predicate.compile m e = Predicate.compile m e') ∧
    (∀ {σ : Type} (w : World σ) (c c' : Chain), c.Respelled c' →
      w.translate c = w.translate c') ∧
    (Textless b → ∀ (method : String) (arg : Expr), Expr.isTextMethod method = true →
      arg.value? = some (bytes b) →
      (∀ (m : Metadata) (receiver : Expr), Predicate.compile m (.call method receiver [arg]) =
        .error (.unsupportedExpression m.entity.name (.argumentText method))) ∧
      ∀ {σ : Type} (w : World σ) (c : Chain) (e : Expr), e ∈ c.filters →
        Expr.HasCall method arg e → ∃ err, (w.translate c).1 = .error err) := by
  refine ⟨fun s => coerce_string_bytes_iff, coerce_string_eq, ?_, textless_iff,
    fun m e e' h => Predicate.compile_respelled h, fun w c c' h => World.translate_respelled h w,
    fun hb method arg hmethod harg => ⟨fun m receiver => ?_, fun w c e he hcall => ?_⟩⟩
  · simp only [coerce_bytes_eq_error_iff, exists_and_left, exists_eq, and_true]
  · exact Predicate.compile_of_unreadable hmethod harg (unreadable_bytes_iff.2 hb)
  · exact World.translate_of_not_supported he
      (fun m => hcall.not_supported harg (unreadable_bytes_iff.2 hb)) w

namespace Demo.Search

/-- The search for an ordinary name, which is given as bytes. -/
def spelled : Chain := sought (.literal (.bytes "A".toUTF8)) (.literal (.int32 18))

/-- A search for a name that is given as the first byte of a longer character. -/
def broken : Chain := sought (.captured "start" (.bytes ⟨#[0xC3]⟩)) (.literal (.int32 18))

/-- The search that is given bytes is the one that is given the text, and a byte that needs
    another one after it is the text of no name. -/
theorem bytes_stand_for_text_search :
    spelled.Respelled quiet ∧ world.translate spelled = world.translate quiet ∧
      Value.Textless ⟨#[0xC3]⟩ ∧ ∃ err, (world.translate broken).1 = .error err := by
  have hspelled : spelled.Respelled quiet :=
    ⟨rfl, .cons (.refl _) (.cons (.filter (.argument rfl rfl (.refl _))) .nil)⟩
  obtain ⟨-, -, -, -, -, htranslate, -⟩ := Value.bytes_stand_for_text "A".toUTF8
  obtain ⟨-, -, -, htextless, -, -, hrefused⟩ := Value.bytes_stand_for_text ⟨#[0xC3]⟩
  have hbroken : Value.Textless ⟨#[0xC3]⟩ := htextless.2 ⟨.incomplete 0, by decide +kernel⟩
  refine ⟨hspelled, htranslate world _ _ hspelled, hbroken, ?_⟩
  obtain ⟨-, hchain⟩ := hrefused hbroken "starts_with"
    (.captured "start" (.bytes ⟨#[0xC3]⟩)) (by decide) rfl
  exact hchain world broken _ (List.mem_cons_self) .here

end Demo.Search

end EntityQuery
