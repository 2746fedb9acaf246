import EntityQuery.Session.World
import Mathlib.Algebra.GroupWithZero.Nat
import Mathlib.Data.Finset.Card

/-!
# Resolutions

A catalogue over its whole life: entity types declare themselves, again and again, and
are asked for their metadata in between (`Request`). Each question has a `Reply`: what was
answered, and how many mappings were read for it.

The replies for one type have a *course* (`Course`): it is refused for a while, each time
after a reading of its mapping; the first answer takes one reading more; and from then on
the very same answer is given, without any. `accounts_replies` says so for every sequence
of requests, and what the catalogue keeps is what these courses have come to: one answer
for each type that was ever answered, under that type, and nothing of what was refused.
-/

namespace EntityQuery

/-- What the metadata of a mapping that is accepted are. -/
theorem Metadata.ofMapping_eq_ok {entity : EntityType} {mapping : Mapping} {m : Metadata}
    (h : ofMapping entity mapping = .ok m) :
    m.entity = entity ∧ (mapping.fields.map (·.field)).Nodup ∧
      m.columns = mapping.fields.filterMap (·.binding?) := by
  simp only [ofMapping] at h
  split at h
  · cases h
  split at h
  · cases h
  · next hrepeated =>
    split at h
    · cases h
    · cases h
      exact ⟨rfl, firstRepeated?_eq_none_iff.1 hrepeated, rfl⟩

namespace Catalogue

/-- Something that happens to a catalogue. -/
inductive Request where
  | declare (d : EntityDeclaration)
  | resolve (t : EntityType)

/-- What a type declares in a request. -/
def Request.declaration? : Request → Option EntityDeclaration
  | declare d => some d
  | resolve _ => none

/-- The answer to the question for the metadata of a type, and the number of mappings read
    for it. -/
structure Reply where
  type : EntityType
  result : Except Error Resolved
  readings : Nat

/-- The catalogue after a request. -/
def after (c : Catalogue) : Request → Catalogue
  | .declare d => c.declare d
  | .resolve t => (c.resolve t).2

/-- The catalogue after requests. -/
def afterAll (c : Catalogue) (requests : List Request) : Catalogue := requests.foldl after c

/-- The reply to a request, if it is a question. -/
def reply? (c : Catalogue) : Request → Option Reply
  | .declare _ => none
  | .resolve t => some ⟨t, (c.resolve t).1, (c.resolve t).2.builds - c.builds⟩

/-- The replies to requests, in their order. -/
def replies (c : Catalogue) : List Request → List Reply
  | [] => []
  | q :: qs => (c.reply? q).toList ++ (c.after q).replies qs

/-- The course of the replies for a type, and what is kept for it in the end. -/
inductive Course (t : EntityType) : List Reply → Option Resolved → Prop
  | pending {refused : List Reply} :
    (∀ p ∈ refused, ∃ e, p = ⟨t, .error e, 1⟩) → Course t refused none
  | settled {refused : List Reply} {r : Resolved} (n : Nat) :
    (∀ p ∈ refused, ∃ e, p = ⟨t, .error e, 1⟩) → r.metadata.entity = t →
    Course t (refused ++ ⟨t, .ok r, 1⟩ :: List.replicate n ⟨t, .ok r, 0⟩) (some r)

/-- The metadata that a type is given for a declaration, by the build of a number. -/
def made (t : EntityType) (d : EntityDeclaration) (build : Nat) : Except Error Resolved :=
  match Metadata.ofMapping t d.mapping with
  | .error fault => .error (.mapping t.name fault)
  | .ok metadata => .ok ⟨build, metadata⟩

/-- The latest declaration of a type among requests. -/
def latest (t : EntityType) (requests : List Request) : EntityDeclaration :=
  ((requests.filterMap Request.declaration?).reverse.find? (·.type = t)).getD (.none t)

/-- The types that were answered. -/
def answered (log : List Reply) : Finset EntityType :=
  ((log.filter (·.result.isOk)).map (·.type)).toFinset

/-- The catalogue `c` is what requests with the replies `log` leave. -/
structure Accounts (requests : List Request) (log : List Reply) (c : Catalogue) : Prop where
  course : ∀ t, Course t (log.filter (·.type = t)) (c.kept? t)
  /-- What is kept is given again whatever the types declare. -/
  again : ∀ t r, c.kept? t = some r → ∀ declared : List EntityDeclaration,
    ({ c with declared } : Catalogue).resolve t = (.ok r, { c with declared })
  /-- What is not kept is made of what the type declared last. -/
  anew : ∀ t, c.kept? t = none → (c.resolve t).1 = made t (latest t requests) (c.builds + 1)
  /-- A refusal leaves everything as it was, but for the mapping that was read. -/
  refused : ∀ t e, (c.resolve t).1 = .error e →
    (c.resolve t).2 = { c with builds := c.builds + 1 }
  readings : (log.map (·.readings)).sum = c.builds
  size : c.size = (answered log).card
  /-- What is kept is found under its own type. -/
  own : ∀ r ∈ c.kept, c.kept? r.metadata.entity = some r
  /-- No two builds have one number. -/
  builds : c.kept.Pairwise fun r s => r.build < s.build

/-! ## One question -/

/-- What a question for the metadata of a type leads to. -/
inductive Outcome (c : Catalogue) (t : EntityType) : Except Error Resolved × Catalogue → Prop
  | again {r : Resolved} : c.kept? t = some r → Outcome c t (.ok r, c)
  | refused {e : Error} :
    c.kept? t = none → made t (c.declarationOf t) (c.builds + 1) = .error e →
    Outcome c t (.error e, { c with builds := c.builds + 1 })
  | first {r : Resolved} :
    c.kept? t = none → made t (c.declarationOf t) (c.builds + 1) = .ok r →
    r.metadata.entity = t → r.build = c.builds + 1 →
    Outcome c t (.ok r, { c with builds := c.builds + 1, kept := c.kept ++ [r] })

theorem outcome_resolve (c : Catalogue) (t : EntityType) : Outcome c t (c.resolve t) := by
  cases hkept : c.kept? t with
  | some r =>
    rw [resolve_of_kept hkept]
    exact .again hkept
  | none =>
    cases hm : Metadata.ofMapping t (c.declarationOf t).mapping with
    | error fault =>
      have hmade : made t (c.declarationOf t) (c.builds + 1) = .error (.mapping t.name fault) := by
        simp only [made, hm]
      simpa only [resolve, hkept, hm] using Outcome.refused hkept hmade
    | ok m =>
      have hmade : made t (c.declarationOf t) (c.builds + 1) = .ok ⟨c.builds + 1, m⟩ := by
        simp only [made, hm]
      simpa only [resolve, hkept, hm] using
        Outcome.first hkept hmade (Metadata.ofMapping_eq_ok hm).1 rfl

variable {c : Catalogue} {t t' : EntityType} {r : Resolved}

/-- One answer more is found for its own type only, if there was none before. -/
theorem kept?_append (kept : List Resolved) (declared : List EntityDeclaration) (builds : Nat)
    (r : Resolved) (t : EntityType) :
    kept? ⟨declared, kept ++ [r], builds⟩ t =
      (kept? ⟨declared, kept, builds⟩ t).or (if r.metadata.entity = t then some r else none) := by
  simp only [kept?, List.find?_append, List.find?_singleton, decide_eq_true_eq]

/-- A question does not change what is kept for other types. -/
theorem kept?_resolve_of_ne (h : t' ≠ t) : (c.resolve t).2.kept? t' = c.kept? t' := by
  have hout := outcome_resolve c t
  generalize c.resolve t = p at hout ⊢
  cases hout with
  | again => rfl
  | refused => rfl
  | first _ _ hentity _ =>
    rw [kept?_append, hentity, if_neg (Ne.symm h), Option.or_none]
    rfl

/-- A question does not change what the types declare. -/
theorem declared_resolve (c : Catalogue) (t : EntityType) :
    (c.resolve t).2.declared = c.declared := by
  have hout := outcome_resolve c t
  generalize c.resolve t = p at hout ⊢
  cases hout <;> rfl

/-- A question for a type goes on with the course of its replies. -/
theorem Course.step {log : List Reply} (h : Course t log (c.kept? t)) :
    Course t (log ++ [⟨t, (c.resolve t).1, (c.resolve t).2.builds - c.builds⟩])
      ((c.resolve t).2.kept? t) := by
  have hout := outcome_resolve c t
  generalize c.resolve t = p at hout ⊢
  cases hout with
  | @again r hkept =>
    rw [hkept] at h ⊢
    -- What is kept is given once more, and nothing is built for it.
    obtain - | ⟨n, hrefused, hentity⟩ := h
    simp only [Nat.sub_self, List.append_assoc, List.cons_append]
    rw [← List.replicate_succ']
    exact .settled (n + 1) hrefused hentity
  | @refused e hkept _ =>
    have hkept' : kept? { c with builds := c.builds + 1 } t = none := hkept
    rw [hkept] at h
    rw [hkept']
    -- A refusal is not kept: the next question builds again.
    obtain hrefused | - := h
    simp only [Nat.add_sub_cancel_left]
    refine .pending fun p hp => ?_
    rcases List.mem_append.1 hp with hp | hp
    · exact hrefused p hp
    · exact ⟨e, List.mem_singleton.1 hp⟩
  | @first r hkept _ hentity _ =>
    have hkept' : kept? { c with builds := c.builds + 1 } t = none := hkept
    rw [hkept] at h
    rw [kept?_append, hkept', Option.none_or, if_pos hentity]
    obtain hrefused | - := h
    simp only [Nat.add_sub_cancel_left]
    exact .settled 0 hrefused hentity

/-- The metadata of a type depend on what is kept for it and on what it declares. -/
theorem resolve_congr {d : Catalogue} (hkept : c.kept? t = d.kept? t)
    (hdeclared : c.declarationOf t = d.declarationOf t) :
    (c.resolve t).1.map (·.metadata) = (d.resolve t).1.map (·.metadata) := by
  simp only [resolve, hkept, hdeclared]
  split
  · rfl
  · split <;> rfl

/-- No question changes the answer to another, or to itself. -/
theorem resolve_resolve (c : Catalogue) (t t' : EntityType) :
    ((c.resolve t').2.resolve t).1.map (·.metadata) = (c.resolve t).1.map (·.metadata) := by
  have hdeclared : (c.resolve t').2.declarationOf t = c.declarationOf t := by
    rw [declarationOf, declarationOf, declared_resolve]
  by_cases ht : t = t'
  · subst ht
    have hout := outcome_resolve c t
    generalize hp : c.resolve t = p at hout hdeclared ⊢
    cases hout with
    | again hkept => rw [resolve_of_kept hkept]
    | refused =>
      -- Only the count of readings has changed.
      have hsame := resolve_congr (c := { c with builds := c.builds + 1 }) (d := c) (t := t) rfl rfl
      rw [hsame, hp]
    | @first r hkept _ hentity _ =>
      have hkept' : kept? { c with builds := c.builds + 1 } t = none := hkept
      rw [resolve_of_kept (r := r) (by rw [kept?_append, hkept', if_pos hentity, Option.none_or])]
  · exact resolve_congr (kept?_resolve_of_ne ht) hdeclared

end Catalogue

namespace World

variable {σ τ : Type}

/-- Asking for metadata changes neither the store nor what the types declare. -/
theorem resolve_snd (t : EntityType) (w : World σ) :
    (w.resolve t).2.store = w.store ∧
      (w.resolve t).2.catalogue.declared = w.catalogue.declared := by
  have hdeclared : (w.catalogue.resolve t).2.declared = w.catalogue.declared := by
    simp only [Catalogue.resolve]
    split
    · rfl
    · split <;> rfl
  simp only [resolve]
  split
  · next e catalogue he =>
    rw [he] at hdeclared
    exact ⟨rfl, hdeclared⟩
  · next resolved catalogue he =>
    rw [he] at hdeclared
    split
    · exact ⟨rfl, hdeclared⟩
    · exact ⟨rfl, hdeclared⟩

/-- A world asks its catalogue. -/
theorem resolve_eq (w : World σ) (t : EntityType) :
    (w.resolve t).1 = (w.catalogue.resolve t).1.map (·.metadata) ∧
      (w.resolve t).2.catalogue = (w.catalogue.resolve t).2 := by
  simp only [resolve]
  split
  · next he => exact ⟨by rw [he]; rfl, by rw [he]⟩
  · next he =>
    refine ⟨by rw [he]; rfl, ?_⟩
    rw [he]
    dsimp only
    split <;> rfl

/-- After a question, every question is answered as before. -/
theorem resolve_again {w : World σ} {w' : World τ} {s : EntityType}
    (hw' : w'.catalogue = (w.resolve s).2.catalogue) (t : EntityType) :
    (w'.resolve t).1 = (w.resolve t).1 := by
  rw [(w'.resolve_eq t).1, (w.resolve_eq t).1, hw', (w.resolve_eq s).2,
    Catalogue.resolve_resolve]

end World

namespace Catalogue

variable {c : Catalogue} {t : EntityType} {r : Resolved}

/-- What answers a catalogue keeps: one for each type, numbered by their builds. -/
structure Orderly (c : Catalogue) : Prop where
  nodup : (c.kept.map (·.metadata.entity)).Nodup
  builds : c.kept.Pairwise fun r s => r.build < s.build
  counted : ∀ r ∈ c.kept, r.build ≤ c.builds

theorem Orderly.resolve (h : c.Orderly) (t : EntityType) : (c.resolve t).2.Orderly := by
  have hout := outcome_resolve c t
  generalize c.resolve t = p at hout ⊢
  cases hout with
  | again => exact h
  | refused => exact ⟨h.nodup, h.builds, fun r hr => Nat.le_succ_of_le (h.counted r hr)⟩
  | @first r hkept _ hentity hbuild =>
    have hnew : r.metadata.entity ∉ c.kept.map (·.metadata.entity) := by
      intro hr
      obtain ⟨s, hs, heq⟩ := List.mem_map.1 hr
      rw [kept?, List.find?_eq_none] at hkept
      exact hkept s hs (decide_eq_true (heq.trans hentity))
    refine ⟨?_, ?_, ?_⟩
    · rw [List.map_append, List.nodup_append_comm]
      exact List.nodup_cons.2 ⟨hnew, h.nodup⟩
    · refine List.pairwise_append.2 ⟨h.builds, List.pairwise_singleton _ _, fun s hs r' hr' => ?_⟩
      rw [List.mem_singleton.1 hr', hbuild]
      exact Nat.lt_succ_of_le (h.counted s hs)
    · intro s hs
      rcases List.mem_append.1 hs with hs | hs
      · exact Nat.le_succ_of_le (h.counted s hs)
      · rw [List.mem_singleton.1 hs, hbuild]

/-- In an orderly catalogue, what is kept is found under its own type. -/
theorem Orderly.kept?_eq_some (h : c.Orderly) (hr : r ∈ c.kept) :
    c.kept? r.metadata.entity = some r := by
  rw [kept?, List.find?_eq_some_iff_append]
  obtain ⟨before, later, hsplit⟩ := List.append_of_mem hr
  refine ⟨decide_eq_true rfl, before, later, hsplit, fun s hs => ?_⟩
  have hnodup := h.nodup
  rw [hsplit, List.map_append, List.map_cons] at hnodup
  have hne := (List.nodup_append.1 hnodup).2.2 _ (List.mem_map_of_mem hs) _ List.mem_cons_self
  simpa using hne

/-! ## All questions -/

variable {requests : List Request} {q : Request}

theorem afterAll_snoc : c.afterAll (requests ++ [q]) = (c.afterAll requests).after q :=
  List.foldl_concat ..

theorem replies_snoc : c.replies (requests ++ [q]) =
    c.replies requests ++ ((c.afterAll requests).reply? q).toList := by
  induction requests generalizing c with
  | nil => simp [replies, afterAll]
  | cons p requests ih =>
    rw [List.cons_append, replies, ih, replies, List.append_assoc]
    rfl

/-- The types declare what they declared last. -/
theorem declarationOf_afterAll (requests : List Request) (t : EntityType) :
    (empty.afterAll requests).declarationOf t = latest t requests := by
  have hdeclared : (empty.afterAll requests).declared =
      (requests.filterMap Request.declaration?).reverse := by
    induction requests using List.reverseRecOn with
    | nil => rfl
    | append_singleton requests q ih =>
      rw [afterAll_snoc, List.filterMap_append, List.reverse_append, ← ih]
      cases q with
      | declare d => rfl
      | resolve t => exact declared_resolve _ t
  rw [declarationOf, hdeclared]
  rfl

theorem orderly_afterAll (requests : List Request) : (empty.afterAll requests).Orderly := by
  induction requests using List.reverseRecOn with
  | nil => exact ⟨List.nodup_nil, .nil, nofun⟩
  | append_singleton requests q ih =>
    rw [afterAll_snoc]
    cases q with
    | declare d => exact ⟨ih.nodup, ih.builds, ih.counted⟩
    | resolve t => exact ih.resolve t

/-- The replies for every type take their course. -/
theorem course_replies (requests : List Request) (t : EntityType) :
    Course t ((empty.replies requests).filter (·.type = t))
      ((empty.afterAll requests).kept? t) := by
  induction requests using List.reverseRecOn with
  | nil => exact .pending nofun
  | append_singleton requests q ih =>
    rw [replies_snoc, afterAll_snoc, List.filter_append]
    cases q with
    | declare d =>
      have hkept : ((empty.afterAll requests).after (.declare d)).kept? t =
          (empty.afterAll requests).kept? t := rfl
      rw [hkept]
      simpa only [reply?, Option.toList_none, List.filter_nil, List.append_nil] using ih
    | resolve t' =>
      by_cases ht : t' = t
      · subst ht
        simpa only [reply?, after, Option.toList_some, List.filter_singleton, decide_true,
          cond_true] using ih.step
      · have hkept : ((empty.afterAll requests).after (.resolve t')).kept? t =
            (empty.afterAll requests).kept? t := kept?_resolve_of_ne (Ne.symm ht)
        rw [hkept]
        simpa [reply?, ht] using ih

/-- Every mapping that was read was read for a reply. -/
theorem sum_readings (requests : List Request) :
    ((empty.replies requests).map (·.readings)).sum = (empty.afterAll requests).builds := by
  induction requests using List.reverseRecOn with
  | nil => rfl
  | append_singleton requests q ih =>
    rw [replies_snoc, afterAll_snoc, List.map_append, List.sum_append, ih]
    cases q with
    | declare d => rfl
    | resolve t =>
      have hout := outcome_resolve (empty.afterAll requests) t
      simp only [reply?, after, Option.toList_some, List.map_singleton, List.sum_singleton]
      generalize (empty.afterAll requests).resolve t = p at hout ⊢
      cases hout <;> simp

/-- An answer is kept for the types that were answered. -/
theorem Course.isSome_iff {log : List Reply} {k : Option Resolved}
    (h : Course t (log.filter (·.type = t)) k) : k.isSome = true ↔ t ∈ answered log := by
  have hmem : t ∈ answered log ↔ ∃ p ∈ log.filter (·.type = t), p.result.isOk = true := by
    simp only [answered, List.mem_toFinset, List.mem_map, List.mem_filter, decide_eq_true_eq]
    exact ⟨fun ⟨p, ⟨hp, hok⟩, ht⟩ => ⟨p, ⟨hp, ht⟩, hok⟩,
      fun ⟨p, ⟨hp, ht⟩, hok⟩ => ⟨p, ⟨hp, hok⟩, ht⟩⟩
  rw [hmem]
  generalize log.filter (·.type = t) = ps at h
  cases h with
  | pending hrefused =>
    refine iff_of_false nofun ?_
    rintro ⟨p, hp, hok⟩
    obtain ⟨e, rfl⟩ := hrefused p hp
    cases hok
  | settled n => exact iff_of_true rfl ⟨_, List.mem_append_right _ List.mem_cons_self, rfl⟩

/-- What is kept is one answer for each type that was answered. -/
theorem size_afterAll (requests : List Request) :
    (empty.afterAll requests).size = (answered (empty.replies requests)).card := by
  have htypes : ((empty.afterAll requests).kept.map (·.metadata.entity)).toFinset =
      answered (empty.replies requests) := by
    ext t
    rw [← (course_replies requests t).isSome_iff, kept?, List.find?_isSome]
    simp
  rw [← htypes, List.toFinset_card_of_nodup (orderly_afterAll requests).nodup, List.length_map]
  rfl

/-- A catalogue keeps the account of every sequence of requests: each type is asked for its
    mapping until it is answered for the first time, and what was answered then is all that
    is kept. -/
theorem accounts_replies (requests : List Request) :
    Accounts requests (empty.replies requests) (empty.afterAll requests) where
  course := course_replies requests
  again t r hkept declared :=
    resolve_of_kept (c := { empty.afterAll requests with declared }) hkept
  anew t hkept := by
    have hout := outcome_resolve (empty.afterAll requests) t
    rw [← declarationOf_afterAll]
    generalize (empty.afterAll requests).resolve t = p at hout ⊢
    cases hout with
    | again hkept' => rw [hkept] at hkept'; cases hkept'
    | refused _ hmade => exact hmade.symm
    | first _ hmade => exact hmade.symm
  refused t e he := by
    have hout := outcome_resolve (empty.afterAll requests) t
    generalize (empty.afterAll requests).resolve t = p at hout he ⊢
    cases hout with
    | again => cases he
    | refused => rfl
    | first => cases he
  readings := sum_readings requests
  size := size_afterAll requests
  own r hr := (orderly_afterAll requests).kept?_eq_some hr
  builds := (orderly_afterAll requests).builds

end Catalogue

end EntityQuery
