import EntityQuery.Proofs.Collection
import EntityQuery.Session.Steps

/-!
# What a session sends

An executor gets the statements of a session one by one. To say which, it is given a log
(`Executor.logged`); what is expected in the log is said step by step (`Session.sends`): a
step that puts a query to the store sends the statement of its plan, if there is one at
that moment, with the connection string of the session, and every other step sends
nothing. `Session.run_sends` says that the log of every run is what its steps send, and
what the steps that send answer (`Session.Consumed`).
-/

namespace EntityQuery

variable {σ : Type}

/-- The executor that also writes down what it gets. -/
def Executor.logged (x : Executor σ) : Executor (σ × List (String × Statement)) where
  execute connection s store :=
    let (answer, after) := x.execute connection s store.1
    (answer, after, store.2 ++ [(connection, s)])

/-- The plan for a single row. -/
def Plan.single (p : Plan) : Plan := { p with limit := some 1 }

namespace Session

/-- The session after steps. -/
def run (x : Executor σ) (s : Session σ) : List Step → Session σ
  | [] => s
  | step :: steps => (s.step x step).2.run x steps

/-- What the query of a handle sends, if there is such a handle and it can be translated. -/
def request (s : Session σ) (q : Nat) (ofPlan : Plan → Plan) : List (String × Statement) :=
  match s.handles[q]? with
  | none => []
  | some h =>
    match (h.plan s.world).1 with
    | .error _ => []
    | .ok p => [(s.context.connection, (ofPlan p).render)]

/-- What a step sends. -/
def sends (s : Session σ) : Step → List (String × Statement)
  | .collect q | .items q => s.request q id
  | .first q | .firstOrNone q => s.request q Plan.single
  | _ => []

/-- What steps send, in their order. -/
def sendsAll (x : Executor σ) (s : Session σ) : List Step → List (String × Statement)
  | [] => []
  | step :: steps => s.sends step ++ (s.step x step).2.sendsAll x steps

/-- The answers to the steps that put a query for entities of a type to the store, where
    `rows` are the rows that answer its statement, `single` those that answer the statement
    for a single row, and `read` is how a row is read. -/
structure Consumed (entity : EntityType) (read : Row → Except Error Item)
    (rows single : Except Error (List Row)) (items collected firstOrNone first : Answer) :
    Prop where
  rows_failed : ∀ e, rows = .error e → items = .failed e ∧ collected = .failed e
  items_eq : ∀ rs, rows = .ok rs → items = .items (rs.map read)
  /-- All rows are read. -/
  collected_eq : ∀ rs (as : List Item), rows = .ok rs → rs.map read = as.map .ok →
    collected = .collected as
  /-- The first row that is not read decides. -/
  collected_failed : ∀ rs (as : List Item) e later, rows = .ok rs →
    rs.map read = as.map .ok ++ .error e :: later → collected = .failed e
  single_failed : ∀ e, single = .error e → firstOrNone = .failed e ∧ first = .failed e
  no_row : single = .ok [] →
    firstOrNone = .firstOrNone none ∧ first = .failed (.noRows entity.name)
  /-- Only the first row is read. -/
  row : ∀ r later, single = .ok (r :: later) →
    (∀ i, read r = .ok i → firstOrNone = .firstOrNone (some i) ∧ first = .first i) ∧
    ∀ e, read r = .error e → firstOrNone = .failed e ∧ first = .failed e

end Session

/-! ## The plan for a single row -/

/-- A limit more in a chain is another limit in the plan. -/
theorem Plan.ofChain_push_limit (m : Metadata) (c : Chain) (n : UInt32) :
    ofChain m (c.push (.limit n)) = (ofChain m c).map fun p => { p with limit := some n } := by
  simp only [ofChain, Chain.filters_push_limit, Chain.projection?_push_limit,
    Chain.limit?_push_limit]
  cases Predicate.conjoin m c.filters with
  | error e => rfl
  | ok predicate => cases output m c.projection? <;> rfl

namespace Handle

variable {h : Handle} {w : World σ} {x : Executor σ} {p : Plan} {e : Error}

theorem plan_limit (h : Handle) (w : World σ) :
    ((h.limit 1).plan w).1 = (h.plan w).1.map Plan.single := by
  have hroot : (h.limit 1).chain.root = h.chain.root := rfl
  simp only [plan, World.translate, hroot]
  rcases w.resolve h.chain.root with ⟨_ | m, w'⟩
  · rfl
  · have hchain : (h.limit 1).chain = h.chain.push (.limit 1) := rfl
    simp only [hchain, Plan.ofChain_push_limit]
    cases Plan.ofChain m h.chain <;> rfl

/-! ## Answers -/

/-- A query that has no plan is not answered. -/
theorem items_of_plan_error (hp : (h.plan w).1 = .error e) : (h.items x w).1 = .error e := by
  rw [items]
  generalize h.plan w = r at hp ⊢
  obtain ⟨_ | p, w'⟩ := r <;> cases hp
  rfl

/-- The failure of the first item that is one is that of all items. -/
theorem allItems_append_error {α : Type} (as : List α) (e : Error)
    (later : List (Except Error α)) : allItems (as.map .ok ++ .error e :: later) = .error e := by
  induction as with
  | nil => rfl
  | cons a as ih => rw [List.map_cons, List.cons_append, allItems, ih]

/-- The first item, or none, of a query for a single row. -/
theorem firstOrNone_eq (x : Executor σ) (h : Handle) (w : World σ) :
    h.firstOrNone x w = ((((h.limit 1).items x w).1.bind fun
      | [] => .ok none
      | item :: _ => item.map some), ((h.limit 1).items x w).2) := by
  rw [firstOrNone]
  rcases (h.limit 1).items x w with ⟨_ | _ | ⟨_ | item, _⟩, w'⟩ <;> rfl

/-- To `first` it is an error that there is no item. -/
theorem first_eq (x : Executor σ) (h : Handle) (w : World σ) :
    h.first x w = (((h.firstOrNone x w).1.bind fun
      | none => .error (.noRows h.chain.root.name)
      | some item => .ok item), (h.firstOrNone x w).2) := by
  rw [first]
  rcases h.firstOrNone x w with ⟨_ | _ | item, w'⟩ <;> rfl

theorem collect_snd (x : Executor σ) (h : Handle) (w : World σ) :
    (h.collect x w).2 = (h.items x w).2 := by
  rw [collect]
  rcases h.items x w with ⟨_ | items, w'⟩ <;> rfl

theorem statement_snd (h : Handle) (w : World σ) : (h.statement w).2 = (h.plan w).2 := by
  rw [statement]
  rcases h.plan w with ⟨_ | p, w'⟩ <;> rfl

/-! ## The log -/

/-- A query sends its statement if it can be translated. -/
theorem log_items {w : World (σ × List (String × Statement))} :
    (h.items x.logged w).2.store.2 = w.store.2 ++
      match (h.plan w).1 with
      | .error _ => []
      | .ok p => [(h.context.connection, p.render)] := by
  obtain ⟨hstore, -⟩ := w.translate_snd h.chain
  have hplan : h.plan w = w.translate h.chain := rfl
  rw [items, hplan]
  generalize w.translate h.chain = r at hstore ⊢
  obtain ⟨_ | p, w'⟩ := r
  · rw [← hstore, List.append_nil]
  · rw [← hstore]
    simp only [World.execute, Executor.logged, World.report]
    cases (x.execute h.context.connection p.render w'.store.1).1 <;> rfl

end Handle

namespace Session

variable {x : Executor σ} {s : Session (σ × List (String × Statement))}

/-- All handles of a session have its context. -/
def Uniform {τ : Type} (s : Session τ) : Prop := ∀ h ∈ s.handles, h.context = s.context

/-- What a query that is put to the store adds to the log. -/
theorem log_request {q : Nat} {h : Handle} (hs : s.Uniform) (hq : s.handles[q]? = some h) :
    (h.items x.logged s.world).2.store.2 = s.world.store.2 ++ s.request q id ∧
      ((h.limit 1).items x.logged s.world).2.store.2 =
        s.world.store.2 ++ s.request q Plan.single := by
  have hcontext := hs h (List.mem_of_getElem? hq)
  have hlimit : (h.limit 1).context = h.context := rfl
  rw [Handle.log_items, Handle.log_items, Handle.plan_limit, hlimit, hcontext]
  simp only [request, hq]
  cases (h.plan s.world).1 <;> exact ⟨rfl, rfl⟩

/-- What a step adds to the log is what it sends. -/
theorem log_step (hs : s.Uniform) (step : Step) :
    (s.step x.logged step).2.world.store.2 = s.world.store.2 ++ s.sends step := by
  have hnone : s.world.store.2 = s.world.store.2 ++ [] := (List.append_nil _).symm
  have hplan (h : Handle) : (h.plan s.world).2.store = s.world.store :=
    (s.world.translate_snd h.chain).1
  cases step with
  | declare d => exact hnone
  | metadata t =>
    have hstore : (s.world.resolve t).2.store = s.world.store := (s.world.resolve_snd t).1
    exact (congrArg Prod.snd hstore).trans hnone
  | set t => exact hnone
  | filter q | project q | limit q | clone q | operators q | detail q =>
    -- What only makes a handle or looks at one sends nothing.
    simp only [step, withHandle, sends]
    cases s.handles[q]? <;> exact hnone
  | collect q =>
    simp only [step, withHandle, sends]
    cases hq : s.handles[q]? with
    | none => simp only [request, hq, List.append_nil]
    | some h =>
      simp only [asked, Handle.collect_snd]
      exact (log_request hs hq).1
  | items q =>
    simp only [step, withHandle, sends]
    cases hq : s.handles[q]? with
    | none => simp only [request, hq, List.append_nil]
    | some h => exact (log_request hs hq).1
  | first q | firstOrNone q =>
    -- The first item is asked for with the limit one.
    simp only [step, withHandle, sends]
    cases hq : s.handles[q]? with
    | none => simp only [request, hq, List.append_nil]
    | some h =>
      simp only [asked, Handle.first_eq, Handle.firstOrNone_eq]
      exact (log_request hs hq).2
  | statement q =>
    simp only [step, withHandle, sends]
    cases s.handles[q]? with
    | none => exact hnone
    | some h =>
      simp only [asked, Handle.statement_snd]
      exact (congrArg Prod.snd (hplan h)).trans hnone
  | plan q =>
    simp only [step, withHandle, sends]
    cases s.handles[q]? with
    | none => exact hnone
    | some h => exact (congrArg Prod.snd (hplan h)).trans hnone

/-! ## Handles -/

/-- What a step makes of the handles: they stay, and one with the same context may come
    to them. -/
theorem handles_step {τ : Type} {s : Session τ} (hs : s.Uniform) (x : Executor τ)
    (step : Step) : (s.step x step).2.context = s.context ∧
      ∃ made, (s.step x step).2.handles = s.handles ++ made ∧
        ∀ h ∈ made, h.context = s.context := by
  have hnone : ∃ made, s.handles = s.handles ++ made ∧
      ∀ h ∈ made, h.context = s.context := ⟨[], by simp⟩
  have hsome (h : Handle) (hh : h.context = s.context) :
      ∃ made, s.handles ++ [h] = s.handles ++ made ∧ ∀ h ∈ made, h.context = s.context :=
    ⟨[h], rfl, by simpa using hh⟩
  cases step with
  | declare d => exact ⟨rfl, hnone⟩
  | metadata t => exact ⟨rfl, hnone⟩
  | set t => exact ⟨rfl, hsome (.set s.context t) rfl⟩
  | filter q | project q | limit q | clone q =>
    simp only [step, withHandle]
    cases hq : s.handles[q]? with
    | none => exact ⟨rfl, hnone⟩
    | some h => exact ⟨rfl, hsome _ (hs h (List.mem_of_getElem? hq))⟩
  | collect q | items q | first q | firstOrNone q | statement q | plan q | operators q
  | detail q =>
    simp only [step, withHandle]
    cases s.handles[q]? <;> exact ⟨rfl, hnone⟩

/-- No step changes a handle that was made. -/
theorem handles_prefix_step {τ : Type} {s : Session τ} (hs : s.Uniform) (x : Executor τ)
    (step : Step) : s.handles <+: (s.step x step).2.handles := by
  obtain ⟨-, made, hmade, -⟩ := handles_step hs x step
  exact ⟨made, hmade.symm⟩

theorem Uniform.step {τ : Type} {s : Session τ} (hs : s.Uniform) (x : Executor τ)
    (step : Step) : (s.step x step).2.Uniform := by
  obtain ⟨hcontext, made, hmade, hall⟩ := handles_step hs x step
  intro h hh
  rw [hcontext]
  rw [hmade, List.mem_append] at hh
  exact hh.elim (hs h) (hall h)

theorem uniform_start {τ : Type} (context : Context) (store : τ) :
    (start context store).Uniform := nofun

/-! ## Runs -/

theorem context_run {τ : Type} {s : Session τ} (hs : s.Uniform) (x : Executor τ)
    (steps : List Step) : (s.run x steps).context = s.context ∧ (s.run x steps).Uniform := by
  induction steps generalizing s with
  | nil => exact ⟨rfl, hs⟩
  | cons step steps ih =>
    obtain ⟨hcontext, huniform⟩ := ih (hs.step x step)
    exact ⟨hcontext.trans (handles_step hs x step).1, huniform⟩

/-- What a run adds to the log is what its steps send. -/
theorem log_run (hs : s.Uniform) (steps : List Step) :
    (s.run x.logged steps).world.store.2 =
      s.world.store.2 ++ s.sendsAll x.logged steps := by
  induction steps generalizing s with
  | nil => exact (List.append_nil _).symm
  | cons step steps ih =>
    rw [run, ih (hs.step x.logged step), log_step hs step, sendsAll, List.append_assoc]

/-! ## What is answered -/

section Answers

variable {q : Nat} {h : Handle} {p : Plan}

/-- The answers of a handle to the steps that put its query to the store. -/
theorem answers_eq (x : Executor σ) {s : Session σ} (hq : s.handles[q]? = some h) :
    (s.step x (.items q)).1 = answer .items (h.items x s.world).1 ∧
    (s.step x (.collect q)).1 =
      answer .collected ((h.items x s.world).1.bind Handle.allItems) ∧
    (s.step x (.firstOrNone q)).1 = answer .firstOrNone (h.firstOrNone x s.world).1 ∧
    (s.step x (.first q)).1 =
      answer .first ((h.firstOrNone x s.world).1.bind fun
        | none => .error (.noRows h.chain.root.name)
        | some item => .ok item) := by
  simp only [step, withHandle, hq, asked, Handle.collect_eq, Handle.first_eq, and_self]

/-- A query that has no plan is answered by its failure. -/
theorem failed_of_plan_error {x : Executor σ} {s : Session σ} {e : Error}
    (hq : s.handles[q]? = some h) (hp : (h.plan s.world).1 = .error e) {step : Step}
    (hstep : step ∈ [Step.items q, .collect q, .firstOrNone q, .first q]) :
    (s.step x step).1 = .failed e := by
  obtain ⟨hitems, hcollect, hnone, hfirst⟩ := answers_eq x hq
  have hlimit : ((h.limit 1).plan s.world).1 = .error e := by
    rw [Handle.plan_limit, hp]
    rfl
  rw [Handle.items_of_plan_error hp] at hitems hcollect
  rw [Handle.firstOrNone_eq, Handle.items_of_plan_error hlimit] at hnone hfirst
  simp only [List.mem_cons, List.not_mem_nil, or_false] at hstep
  obtain rfl | rfl | rfl | rfl := hstep
  · exact hitems
  · exact hcollect
  · exact hnone
  · exact hfirst

/-- What a query that has a plan is answered. -/
theorem consumed (hs : s.Uniform) (hq : s.handles[q]? = some h)
    (hp : (h.plan s.world).1 = .ok p) :
    Consumed h.chain.root (h.read s.world.catalogue p)
      (x.execute s.context.connection p.render s.world.store.1).1
      (x.execute s.context.connection p.single.render s.world.store.1).1
      (s.step x.logged (.items q)).1 (s.step x.logged (.collect q)).1
      (s.step x.logged (.firstOrNone q)).1 (s.step x.logged (.first q)).1 := by
  obtain ⟨hitems, hcollect, hnone, hfirst⟩ := answers_eq x.logged hq
  have hcontext := hs h (List.mem_of_getElem? hq)
  have hsingle : ((h.limit 1).plan s.world).1 = .ok p.single := by
    rw [Handle.plan_limit, hp]
    rfl
  have hlogged (text : Statement) : (x.logged.execute h.context.connection text s.world.store).1 =
      (x.execute s.context.connection text s.world.store.1).1 := by rw [hcontext]; rfl
  have hread : (h.limit 1).read s.world.catalogue p.single = h.read s.world.catalogue p := rfl
  have hlimit : (h.limit 1).context = h.context := rfl
  rw [Handle.items_fst hp, hlogged] at hitems hcollect
  rw [Handle.firstOrNone_eq, Handle.items_fst hsingle, hlimit, hlogged, hread] at hnone hfirst
  rw [hitems, hcollect, hnone, hfirst]
  -- How the answers were come by does not matter any more.
  generalize (x.execute s.context.connection p.render s.world.store.1).1 = rows
  generalize (x.execute s.context.connection p.single.render s.world.store.1).1 = single
  generalize h.read s.world.catalogue p = read
  refine ⟨?_, ?_, ?_, ?_, ?_, ?_, ?_⟩
  · rintro e rfl
    exact ⟨rfl, rfl⟩
  · rintro rs rfl
    rfl
  · rintro rs as rfl hall
    simp only [Except.map, Except.bind, Handle.allItems_eq_ok_iff.2 hall, answer]
  · rintro rs as e later rfl hall
    simp only [Except.map, Except.bind, hall, Handle.allItems_append_error, answer]
  · rintro e rfl
    exact ⟨rfl, rfl⟩
  · rintro rfl
    exact ⟨rfl, rfl⟩
  · rintro r later rfl
    simp only [Except.map, List.map_cons, Except.bind]
    constructor
    · intro i hi
      simp only [hi, answer, and_self]
    · intro e he
      simp only [he, answer, and_self]

end Answers

/-- In every run of a session, whatever is declared in between, the executor gets the
    statements of the steps that put a query to the store which has a plan at that moment,
    and no others. After it every handle that was made is answered by what the executor
    answers to its plan, and no further step changes a handle. -/
theorem run_sends (x : Executor σ) (context : Context) (store : σ) (steps : List Step) :
    let s := (start context (store, [])).run x.logged steps
    s.world.store.2 = (start context (store, [])).sendsAll x.logged steps ∧
    (∀ q h, s.handles[q]? = some h →
      (∀ e, (h.plan s.world).1 = .error e →
        ∀ step ∈ [Step.items q, .collect q, .firstOrNone q, .first q],
          (s.step x.logged step).1 = .failed e) ∧
      ∀ p, (h.plan s.world).1 = .ok p →
        Consumed h.chain.root (h.read s.world.catalogue p)
          (x.execute context.connection p.render s.world.store.1).1
          (x.execute context.connection p.single.render s.world.store.1).1
          (s.step x.logged (.items q)).1 (s.step x.logged (.collect q)).1
          (s.step x.logged (.firstOrNone q)).1 (s.step x.logged (.first q)).1) ∧
    ∀ step, s.handles <+: (s.step x.logged step).2.handles := by
  intro s
  obtain ⟨hcontext, hs⟩ : s.context = context ∧ s.Uniform :=
    context_run (uniform_start context (store, [])) x.logged steps
  refine ⟨log_run (uniform_start context (store, [])) steps, fun q h hq => ⟨?_, ?_⟩,
    handles_prefix_step hs x.logged⟩
  · exact fun e he step hstep => failed_of_plan_error hq he hstep
  · intro p hp
    rw [← hcontext]
    exact consumed hs hq hp

end Session

end EntityQuery
