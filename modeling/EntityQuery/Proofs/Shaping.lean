import EntityQuery.Proofs.Refusal
import EntityQuery.Proofs.Sending
import EntityQuery.Session.Script

/-!
# Shapes

What a handle reads its rows into is settled when the handle is made; the shape of its plan
is read off the chain each time that its query is put to a store. Both depend on the same
thing, whether there is a projection in the chain (`Handle.Shaped`), and every operator
keeps it so (`Handle.Built.shaped`). A handle therefore never reads a plan of the other
shape, whatever the executor answers and however the world has changed since the handle was
made (`Handle.Built.reads_own_shape`).

All handles of a session are built in this way (`Session.built_run`).
-/

namespace EntityQuery

variable {σ : Type}

/-- A plan that is not of the shape that it is read for, by the wording. -/
def Error.IsMismatch : Error → Prop
  | .materialization _ fault =>
    fault.text = "plan does not produce entities" ∨
      fault.text = "plan produces entities, not projections"
  | _ => False

namespace Handle

/-- The handles that come of the query for every entity of a type, whatever is applied to
    it; a clone is the handle itself. -/
inductive Built (context : Context) (entity : EntityType) : Handle → Prop
  | set : Built context entity (.set context entity)
  | filter {h : Handle} (condition : Expr) :
    Built context entity h → Built context entity (h.filter condition)
  | project {h : Handle} (selector : Expr) (o : Output) :
    Built context entity h → Built context entity (h.project selector o)
  | limit {h : Handle} (count : UInt32) :
    Built context entity h → Built context entity (h.limit count)

/-- The query of a handle fails, as a whole or in one of its items. -/
inductive Fails (x : Executor σ) (h : Handle) (w : World σ) (e : Error) : Prop
  | whole : (h.items x w).1 = .error e → Fails x h w e
  | item {items : List (Except Error Item)} :
    (h.items x w).1 = .ok items → .error e ∈ items → Fails x h w e

/-- What may be reported when the query of a handle is put to a store. -/
inductive Reports (x : Executor σ) (h : Handle) (w : World σ) (e : Error) : Prop
  | items : h.Fails x w e → Reports x h w e
  | collect : (h.collect x w).1 = .error e → Reports x h w e
  | firstOrNone : (h.firstOrNone x w).1 = .error e → Reports x h w e
  | first : (h.first x w).1 = .error e → Reports x h w e

/-- Rows are read into entities exactly if there is no projection in the chain. -/
def Shaped (h : Handle) : Prop :=
  h.target = .entity ↔ ∀ selector, .project selector ∉ h.chain.walk

end Handle

/-! ## Projections in chains -/

/-- The latest projection is missing exactly if there is none. -/
theorem Chain.projection?_eq_none_iff {c : Chain} :
    c.projection? = none ↔ ∀ selector, .project selector ∉ c.walk := by
  simp only [projection?, walk, List.findSome?_eq_none_iff, List.mem_append, List.mem_singleton,
    reduceCtorEq, or_false]
  constructor
  · intro h selector hmem
    cases h _ hmem
  · intro h op hop
    cases op with
    | project selector => exact absurd hop (h selector)
    | source | filter | limit => rfl

/-- No operator comes between the chain of a handle and what its rows are read into. -/
theorem Handle.Built.shaped {context : Context} {entity : EntityType} {h : Handle}
    (hh : h.Built context entity) : h.Shaped := by
  induction hh with
  | set =>
    refine iff_of_true rfl fun selector hmem => ?_
    cases List.mem_singleton.1 hmem
  | @filter h condition _ ih | @limit h count _ ih =>
    -- What is put on the chain is no projection, and the target stays.
    refine Iff.trans (b := h.target = .entity) Iff.rfl (ih.trans (forall_congr' fun selector => ?_))
    refine not_congr (Iff.symm (List.mem_cons.trans (or_iff_right nofun)))
  | project selector o =>
    exact iff_of_false nofun fun hnone => hnone selector List.mem_cons_self

namespace Plan

variable {m : Metadata} {c : Chain} {p : Plan}

/-- What is projected is no entity. -/
theorem project_ne_entity {selector : Expr} {ss : List Selection} {shape : Shape}
    (h : project m selector = .ok (ss, shape)) : shape ≠ .entity := by
  rintro rfl
  unfold project at h
  split at h
  · split at h <;> cases h
  · cases h
  · split at h <;> cases h
  · cases h

/-- A plan is for entities exactly if nothing was projected. -/
theorem IsOf.shape_eq_entity_iff (h : IsOf m c p) :
    p.shape = .entity ↔ ∀ selector, .project selector ∉ c.walk := by
  have houtput := h.output
  rw [← Chain.projection?_eq_none_iff]
  cases hprojection : c.projection? with
  | none =>
    rw [hprojection] at houtput
    exact iff_of_true (congrArg Prod.snd (Except.ok.inj houtput)).symm rfl
  | some selector =>
    rw [hprojection] at houtput
    exact iff_of_false (project_ne_entity houtput) nofun

end Plan

/-! ## What is not reported -/

/-- A fault that the values of a row may have. -/
inductive MaterializationFault.OfRow : MaterializationFault → Prop
  | missingColumn (column : String) : OfRow (.missingColumn column)
  | field (name : String) (cause : CoercionError) : OfRow (.field name cause)
  | noSetter (field : String) : OfRow (.noSetter field)
  | noConstructor (output : String) (values : Nat) : OfRow (.noConstructor output values)
  | member (cause : CoercionError) : OfRow (.member cause)

theorem head?_toList_append {s t : String} {c : Char} (h : s.toList.head? = some c) :
    (s ++ t).toList.head? = some c := by
  rw [String.toList_append, List.head?_append, h, Option.some_or]

/-- A fault of the values of a row is worded otherwise than one of the shape, by the very
    first letter. -/
theorem MaterializationFault.OfRow.not_isMismatch {fault : MaterializationFault}
    (h : fault.OfRow) (entity : String) : ¬(Error.materialization entity fault).IsMismatch := by
  -- A text is joined of pieces from the left: there is a step for each of the others.
  have hhead : ∃ c, fault.text.toList.head? = some c ∧ c ≠ 'p' := by
    cases h with
    | missingColumn =>
      refine ⟨'r', ?_, by decide⟩
      iterate 2 refine head?_toList_append ?_
      rfl
    | field =>
      refine ⟨'f', ?_, by decide⟩
      iterate 3 refine head?_toList_append ?_
      rfl
    | noSetter =>
      refine ⟨'n', ?_, by decide⟩
      iterate 2 refine head?_toList_append ?_
      rfl
    | noConstructor =>
      refine ⟨'n', ?_, by decide⟩
      iterate 4 refine head?_toList_append ?_
      rfl
    | member =>
      refine ⟨'c', ?_, by decide⟩
      iterate 5 refine head?_toList_append ?_
      rfl
  obtain ⟨c, hc, hne⟩ := hhead
  have hplan : "plan does not produce entities".toList.head? = some 'p' ∧
      "plan produces entities, not projections".toList.head? = some 'p' := ⟨rfl, rfl⟩
  rintro (h | h) <;> rw [h] at hc
  · exact hne (Option.some.inj (hc.symm.trans hplan.1))
  · exact hne (Option.some.inj (hc.symm.trans hplan.2))

namespace Selection

variable {entity : String} {row : Row} {e : Error}

theorem read_eq_error {s : Selection} (h : s.read entity row = .error e) :
    ∃ fault, fault.OfRow ∧ e = .materialization entity fault := by
  rw [read] at h
  split at h
  · cases h
    exact ⟨_, .missingColumn _, rfl⟩
  · split at h
    · cases h
      exact ⟨_, .field _ _, rfl⟩
    · cases h

theorem readAll_eq_error {ss : List Selection} (h : readAll entity row ss = .error e) :
    ∃ fault, fault.OfRow ∧ e = .materialization entity fault := by
  fun_induction readAll entity row ss with
  | case1 | case4 => cases h
  | case2 s ss err hread =>
    cases h
    exact read_eq_error hread
  | case3 s ss v hread err hrest ih =>
    cases h
    exact ih hrest

theorem assign_eq_error {ss : List Selection} {i : Instance}
    (h : assign entity row ss i = .error e) :
    ∃ fault, fault.OfRow ∧ e = .materialization entity fault := by
  fun_induction assign entity row ss i with
  | case1 => cases h
  | case2 i s ss err hread =>
    cases h
    exact read_eq_error hread
  | case3 i s ss v hread hnull ih => exact ih h
  | case4 i s ss v hread hnull err hset =>
    cases h
    exact ⟨_, .field _ _, rfl⟩
  | case5 =>
    cases h
    exact ⟨_, .noSetter _, rfl⟩
  | case6 i s ss v hread hnull i' hset ih => exact ih h

end Selection

namespace Plan

variable {p : Plan} {row : Row} {e : Error}

theorem readEntity_eq_error {d : EntityDeclaration} (hshape : p.shape = .entity)
    (h : p.readEntity d row = .error e) :
    ∃ fault, fault.OfRow ∧ e = .materialization p.entity.name fault := by
  rw [readEntity, if_pos hshape] at h
  exact Selection.assign_eq_error h

theorem readRecord_eq_error {output : Output} (hshape : p.shape ≠ .entity)
    (h : p.readRecord output row = .error e) :
    ∃ fault, fault.OfRow ∧ e = .materialization p.entity.name fault := by
  rw [readRecord, if_neg hshape] at h
  split at h
  · cases h
    exact ⟨_, .noConstructor _ _, rfl⟩
  · split at h
    · next hall =>
      cases h
      exact Selection.readAll_eq_error hall
    · split at h
      · cases h
        exact ⟨_, .member _, rfl⟩
      · cases h

end Plan

/-- A plan of the shape that it is read for is not said to be of another one. -/
theorem Handle.not_isMismatch_of_read {h : Handle} {c : Catalogue} {p : Plan} {row : Row}
    {e : Error} (hshape : p.shape = .entity ↔ h.target = .entity)
    (hread : h.read c p row = .error e) : ¬e.IsMismatch := by
  have hfault : ∃ fault, fault.OfRow ∧ e = .materialization p.entity.name fault := by
    rw [read] at hread
    split at hread
    · next htarget =>
      rw [← fault?_eq_some_iff, Predicate.fault?_map, fault?_eq_some_iff] at hread
      exact Plan.readEntity_eq_error (hshape.2 htarget) hread
    · next o htarget =>
      rw [← fault?_eq_some_iff, Predicate.fault?_map, fault?_eq_some_iff] at hread
      refine Plan.readRecord_eq_error (fun hentity => ?_) hread
      cases htarget.symm.trans (hshape.1 hentity)
  obtain ⟨fault, hrow, rfl⟩ := hfault
  exact hrow.not_isMismatch _

section Faults

variable {m : Metadata} {e : Error}

/-- A type without metadata is refused for its mapping. -/
theorem World.resolve_eq_error {w : World σ} {t : EntityType} (h : (w.resolve t).1 = .error e) :
    ∃ fault, e = .mapping t.name fault := by
  rw [resolve] at h
  split at h
  · next hresolve =>
    obtain rfl := Except.error.inj h
    rw [Catalogue.resolve] at hresolve
    split at hresolve
    · cases hresolve
    · split at hresolve
      · cases hresolve
        exact ⟨_, rfl⟩
      · cases hresolve
  · cases h

/-- The faults of a condition are none of reading. -/
theorem Expr.not_isMismatch_of_mem_faults {condition : Expr} (h : e ∈ condition.faults m) :
    ¬e.IsMismatch := by
  fun_induction Expr.faults m condition with
  | case1 | case3 | case4 => cases h
  | case2 | case7 =>
    obtain rfl := List.mem_singleton.1 h
    exact not_false
  | case5 op left right ihl ihr => exact (List.mem_append.1 h).elim ihl ihr
  | case6 method receiver args ih =>
    refine (List.mem_append.1 h).elim (fun hcall => ?_) ih
    obtain ⟨_, -, rfl⟩ := List.mem_map.1 hcall
    exact not_false

theorem Expr.not_isMismatch_of_mem_selectorFaults {selector : Expr}
    (h : e ∈ selector.selectorFaults m) : ¬e.IsMismatch := by
  unfold selectorFaults at h
  split at h
  · exact not_isMismatch_of_mem_faults h
  · obtain rfl := List.mem_singleton.1 h
    exact not_false
  · obtain ⟨member, -, hmember⟩ := List.mem_flatMap.1 h
    unfold memberFaults at hmember
    split at hmember
    · exact not_isMismatch_of_mem_faults hmember
    · obtain rfl := List.mem_singleton.1 hmember
      exact not_false
  · obtain rfl := List.mem_singleton.1 h
    exact not_false

/-- A chain that is not translated is not refused for a shape. -/
theorem World.not_isMismatch_of_translate {w : World σ} {c : Chain}
    (h : (w.translate c).1 = .error e) : ¬e.IsMismatch := by
  rw [← fault?_eq_some_iff, fault?_translate c.madeOf] at h
  cases hresolve : (w.resolve c.root).1 with
  | error e' =>
    rw [hresolve] at h
    obtain rfl := Option.some.inj h
    obtain ⟨fault, rfl⟩ := resolve_eq_error hresolve
    exact not_false
  | ok m =>
    rw [hresolve] at h
    obtain hfilter | hselector := List.mem_append.1 (List.mem_of_head? h)
    · obtain ⟨condition, -, hcondition⟩ := List.mem_flatMap.1 hfilter
      exact Expr.not_isMismatch_of_mem_faults hcondition
    · obtain ⟨selector, -, hselector⟩ := List.mem_flatMap.1 hselector
      exact Expr.not_isMismatch_of_mem_selectorFaults hselector

end Faults

/-! ## What is reported -/

namespace Handle

variable {x : Executor σ} {h : Handle} {w : World σ} {e : Error}

/-- The plan of a handle is of the shape that its rows are read into. -/
theorem Shaped.shape_iff (hh : h.Shaped) {p : Plan} (hp : (h.plan w).1 = .ok p) :
    p.shape = .entity ↔ h.target = .entity := by
  obtain ⟨m, -, hof⟩ := World.translate_eq_ok_iff.1 hp
  exact hof.shape_eq_entity_iff.trans hh.symm

/-- A mismatch is only reported if the executor answers with it. -/
theorem Shaped.executed_of_fails (hh : h.Shaped) (hfails : h.Fails x w e) (he : e.IsMismatch) :
    ∃ p, (h.plan w).1 = .ok p ∧ (x.execute h.context.connection p.render w.store).1 = .error e := by
  -- Neither the translation nor a row is refused for a shape, so the executor is left.
  cases hp : (h.plan w).1 with
  | error e' =>
    have hitems : (h.items x w).1 = .error e' := items_of_plan_error hp
    cases hfails with
    | whole herror =>
      obtain rfl := Except.error.inj (hitems.symm.trans herror)
      exact absurd he (World.not_isMismatch_of_translate hp)
    | item hok => cases hitems.symm.trans hok
  | ok p =>
    refine ⟨p, rfl, ?_⟩
    have hitems := items_fst (x := x) hp
    cases hrows : (x.execute h.context.connection p.render w.store).1 with
    | error e' =>
      rw [hrows] at hitems
      cases hfails with
      | whole herror =>
        obtain rfl := Except.error.inj (hitems.symm.trans herror)
        rfl
      | item hok => cases hitems.symm.trans hok
    | ok rows =>
      rw [hrows] at hitems
      cases hfails with
      | whole herror => cases hitems.symm.trans herror
      | item hok hitem =>
        obtain rfl := Except.ok.inj (hitems.symm.trans hok)
        obtain ⟨row, -, hread⟩ := List.mem_map.1 hitem
        exact absurd he (not_isMismatch_of_read (hh.shape_iff hp) hread)

theorem bind_eq_error {α β : Type} {r : Except Error α} {f : α → Except Error β}
    (h : r.bind f = .error e) : r = .error e ∨ ∃ a, r = .ok a ∧ f a = .error e := by
  cases r with
  | error e' => exact .inl (congrArg _ (Except.error.inj h))
  | ok a => exact .inr ⟨a, rfl, h⟩

/-- The query for a single row fails where its item is missed. -/
theorem fails_of_firstOrNone (herror : (h.firstOrNone x w).1 = .error e) :
    (h.limit 1).Fails x w e := by
  rw [firstOrNone_eq] at herror
  obtain hwhole | ⟨items, hitems, hfirst⟩ := bind_eq_error herror
  · exact .whole hwhole
  · match items with
    | [] | .ok _ :: _ => cases hfirst
    | .error e' :: _ =>
      obtain rfl := Except.error.inj hfirst
      exact .item hitems List.mem_cons_self

/-- What is reported is a failure of the query or of the query for a single row, or that
    there is no row. -/
theorem Reports.fails (hreports : h.Reports x w e) :
    h.Fails x w e ∨ (h.limit 1).Fails x w e ∨ e = .noRows h.chain.root.name := by
  cases hreports with
  | items hfails => exact .inl hfails
  | collect herror =>
    rw [collect_eq] at herror
    obtain hwhole | ⟨_, hok, hall⟩ := bind_eq_error herror
    · exact .inl (.whole hwhole)
    · exact .inl (.item hok (mem_of_allItems_eq_error hall))
  | firstOrNone herror => exact .inr (.inl (fails_of_firstOrNone herror))
  | first herror =>
    rw [first_eq] at herror
    obtain hnone | ⟨_ | _, -, hrow⟩ := bind_eq_error herror
    · exact .inr (.inl (fails_of_firstOrNone hnone))
    · exact .inr (.inr (Except.error.inj hrow).symm)
    · cases hrow

/-- The rows of a handle are read into entities exactly if there is no projection in its
    chain, and then, in whatever world, its plan is for entities. So no mismatch of the two
    is reported, unless the executor itself answers the statement with one. -/
theorem Built.reads_own_shape {context : Context} {entity : EntityType}
    (hh : h.Built context entity) :
    (h.target = .entity ↔ ∀ selector, .project selector ∉ h.chain.walk) ∧
      ∀ {τ : Type} (x : Executor τ) (w : World τ),
        (∀ p, (h.plan w).1 = .ok p →
          (p.shape = .entity ↔ ∀ selector, .project selector ∉ h.chain.walk)) ∧
        ∀ e, h.Reports x w e → e.IsMismatch → ∃ p, (h.plan w).1 = .ok p ∧
          ∃ s ∈ [p.render, p.single.render],
            (x.execute h.context.connection s w.store).1 = .error e := by
  have hshaped := hh.shaped
  refine ⟨hshaped, fun x w => ⟨fun p hp => (hshaped.shape_iff hp).trans hshaped,
    fun e hreports he => ?_⟩⟩
  obtain hfails | hfails | rfl := hreports.fails
  · obtain ⟨p, hp, herror⟩ := hshaped.executed_of_fails hfails he
    exact ⟨p, hp, _, List.mem_cons_self, herror⟩
  · obtain ⟨p', hp', herror⟩ := (hh.limit 1).shaped.executed_of_fails hfails he
    rw [plan_limit] at hp'
    cases hp : (h.plan w).1 with
    | error e' =>
      rw [hp] at hp'
      cases hp'
    | ok p =>
      rw [hp] at hp'
      obtain rfl := Except.ok.inj hp'
      exact ⟨p, rfl, _, List.mem_cons_of_mem _ List.mem_cons_self, herror⟩
  · exact he.elim

end Handle

namespace Session

/-- The handles of a session come of queries for every entity of some type. -/
def AllBuilt (s : Session σ) : Prop :=
  ∀ h ∈ s.handles, ∃ entity, Handle.Built s.context entity h

/-- A step adds at most a handle that comes of the others. -/
theorem AllBuilt.step {s : Session σ} (hs : s.AllBuilt) (x : Executor σ) (step : Step) :
    (s.step x step).2.AllBuilt := by
  have add {h : Handle} (hh : ∃ entity, Handle.Built s.context entity h) :
      (s.add h).2.AllBuilt := by
    intro h' hh'
    obtain hold | hnew := List.mem_append.1 hh'
    · exact hs h' hold
    · obtain rfl := List.mem_singleton.1 hnew
      exact hh
  have derive (q : Nat) (f : Handle → Handle) (hf : ∀ {t h}, Handle.Built s.context t h →
      Handle.Built s.context t (f h)) : (s.withHandle q fun h => s.add (f h)).2.AllBuilt := by
    rw [withHandle]
    cases hq : s.handles[q]? with
    | none => exact hs
    | some h =>
      obtain ⟨t, ht⟩ := hs h (List.mem_of_getElem? hq)
      exact add ⟨t, hf ht⟩
  cases step with
  | declare | metadata => exact hs
  | set t => exact add ⟨t, .set⟩
  | filter q condition => exact derive q _ fun ht => ht.filter condition
  | project q selector o => exact derive q _ fun ht => ht.project selector o
  | limit q count => exact derive q _ fun ht => ht.limit count
  | clone q => exact derive q _ id
  | collect q | items q | first q | firstOrNone q | statement q | plan q | operators q
  | detail q =>
    simp only [Session.step, withHandle]
    cases s.handles[q]? <;> exact hs

/-- All handles of a session come of queries for every entity of some type, whatever its
    steps are. -/
theorem built_run (x : Executor σ) (context : Context) (store : σ) (steps : List Step) :
    ((start context store).run x steps).AllBuilt := by
  have hrun {s : Session σ} (hs : s.AllBuilt) : (s.run x steps).AllBuilt := by
    induction steps generalizing s with
    | nil => exact hs
    | cons step steps ih => exact ih (hs.step x step)
  exact hrun nofun

end Session

namespace Demo.Search

/-- The query for the ages of the first two users of age. -/
def ages : Handle := adults.project (.field "age") ⟨"i32", [.scalar .int32]⟩

/-- A world in which users are declared, and every statement is answered with a row that has
    only a number. -/
def numbered : World (List Response) :=
  (World.ofStore [.rows [⟨["id"], [.int64 1]⟩]]).declare Users.declaration

/-- The ages are read from a plan for values: of a row without an age the column is missed,
    and no mismatch is reported. -/
theorem reads_own_shape_ages :
    ages.Built (.ofConnection "users.db") Users.type ∧ ages.target ≠ .entity ∧
      ages.Reports .scripted numbered (.materialization "User" (.missingColumn "age")) ∧
      ∀ e, ages.Reports .scripted numbered e → ¬e.IsMismatch := by
  have hbuilt : ages.Built (.ofConnection "users.db") Users.type :=
    .project _ _ (.limit _ (.filter _ .set))
  obtain ⟨htarget, hreads⟩ := hbuilt.reads_own_shape
  refine ⟨hbuilt, fun hentity => htarget.1 hentity _ List.mem_cons_self, .collect (by rfl),
    fun e hreports he => ?_⟩
  obtain ⟨-, -, s, -, herror⟩ := (hreads .scripted numbered).2 e hreports he
  cases herror

end Demo.Search

end EntityQuery
