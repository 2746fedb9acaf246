import EntityQuery.Demo.Tour
import EntityQuery.Proofs.Projection
import EntityQuery.Proofs.Shaping

/-!
# What a tour comes to

A tour puts a statement to the executor for each of its questions, and takes what the executor
answers (`Tour.Exchanged`). An exchange fails if the answer is an error or if one of the rows
that are wanted is not read (`Exchange.Fails`); if it does not, a section shows what the rows
were read into (`Exchange.Shown`). The tour comes to the sections of its exchanges, up to the
first that fails (`Tour.Known.exists_exchanged`).

To one of the questions it is no failure that there is no row. An executor that would itself
answer with such an error is the only one that could hide a failure behind it.
-/

namespace EntityQuery

variable {σ : Type}

/-! ## What a query leaves -/

namespace World

theorem sent_resolve (t : EntityType) (w : World σ) : (w.resolve t).2.sent = w.sent := by
  rw [resolve]
  split
  · rfl
  · dsimp only
    split <;> rfl

theorem sent_translate (c : Chain) (w : World σ) : (w.translate c).2.sent = w.sent := by
  have hsent := w.sent_resolve c.root
  rw [translate]
  generalize w.resolve c.root = r at hsent ⊢
  obtain ⟨_ | m, w'⟩ := r
  · exact hsent
  · dsimp only
    split <;> exact hsent

theorem catalogue_translate (c : Chain) (w : World σ) :
    (w.translate c).2.catalogue = (w.resolve c.root).2.catalogue := by
  rw [translate]
  generalize w.resolve c.root = r
  obtain ⟨_ | m, w'⟩ := r
  · rfl
  · dsimp only
    split <;> rfl

/-- A statement that was answered was sent, and the executor is as it was after its answer. -/
theorem execute_snd (x : Executor σ) (c : Context) (s : Statement) (w : World σ) :
    (w.execute x c s).2.sent = w.sent ++ [(c.connection, s)] ∧
      (w.execute x c s).2.store = (x.execute c.connection s w.store).2 := by
  simp only [execute, report]
  cases (x.execute c.connection s w.store).1 <;> exact ⟨rfl, rfl⟩

end World

/-- A query that has a plan sends its statement. -/
theorem Handle.items_snd {x : Executor σ} {h : Handle} {w : World σ} {p : Plan}
    (hp : (h.plan w).1 = .ok p) :
    (h.items x w).2.sent = w.sent ++ [(h.context.connection, p.render)] ∧
      (h.items x w).2.store = (x.execute h.context.connection p.render w.store).2 ∧
      (h.items x w).2.catalogue = (w.resolve h.chain.root).2.catalogue := by
  have hsent := w.sent_translate h.chain
  have hcatalogue := w.catalogue_translate h.chain
  have hstore := (w.translate_snd h.chain).1
  obtain ⟨w', hplan⟩ : ∃ w', h.plan w = (.ok p, w') := ⟨(h.plan w).2, Prod.ext hp rfl⟩
  have htranslate : w.translate h.chain = (.ok p, w') := hplan
  rw [htranslate] at hsent hcatalogue hstore
  dsimp only at hsent hcatalogue hstore
  obtain ⟨hsent', hstore'⟩ := w'.execute_snd x h.context p.render
  have hcatalogue' := (w'.execute_eq x h.context p.render).2
  rw [items, hplan]
  dsimp only
  generalize w'.execute x h.context p.render = r at hsent' hstore' hcatalogue' ⊢
  rw [hsent] at hsent'
  rw [hstore] at hstore'
  obtain ⟨_ | rows, w''⟩ := r <;> exact ⟨hsent', hstore', hcatalogue'.trans hcatalogue⟩

theorem Handle.allItems_eq_mapM {α β : Type} (f : α → Except Error β) (l : List α) :
    allItems (l.map f) = l.mapM f := by
  induction l with
  | nil => rfl
  | cons a l ih =>
    rw [List.map_cons, List.mapM_cons, ← ih]
    cases f a with
    | error e => rfl
    | ok b =>
      rw [allItems]
      cases allItems (l.map f) <;> rfl

namespace Plan

variable {p : Plan} {row : Row}

/-- What a row is read into is an entity of the type. -/
theorem isOf_of_readEntity {d : EntityDeclaration} {i : Instance}
    (h : p.readEntity d row = .ok i) : i.IsOf d := by
  rw [readEntity] at h
  split at h
  · exact Instance.IsOf.assign rfl h
  · cases h

/-- A record has as many values as the output has members. -/
theorem length_readRecord {o : Output} {ws : List Value} (h : p.readRecord o row = .ok ws) :
    ws.length = o.members.length := by
  by_cases hshape : p.shape = .entity
  · rw [readRecord, if_pos hshape] at h
    cases h
  · obtain ⟨hwidth, vs, hvs, hws⟩ := (readRecord_eq_ok_iff hshape).1 h
    rw [← hws.length_eq, List.length_zip, ← hvs.length_eq, hwidth, Nat.min_self]

end Plan

namespace Demo

/-- Users have the metadata of their declaration, unless others were kept before. -/
theorem Users.resolve_declare_of_kept {w : World σ}
    (h : ∀ r, w.catalogue.kept? type = some r → r.metadata = Search.metadata) :
    ((w.declare declaration).resolve type).1 = .ok Search.metadata := by
  rw [(World.resolve_eq _ type).1]
  have hkept : (w.declare declaration).catalogue.kept? type = w.catalogue.kept? type := rfl
  cases hr : w.catalogue.kept? type with
  | some r =>
    rw [Catalogue.resolve_of_kept (hkept.trans hr)]
    exact congrArg Except.ok (h r hr)
  | none =>
    rw [Catalogue.resolve, hkept, hr]
    rfl

/-! ## Questions -/

namespace Question

/-- A question is a query for users, whatever the context. -/
structure Plain (q : Question) : Prop where
  root : (q.query (.set .default Users.type)).chain.root = Users.type
  query : ∀ c, q.query (.set c Users.type) =
    { q.query (.set .default Users.type) with context := c }

/-- At most one item: that there is none is no failure. -/
def atMostOne : Except Error Item → Except Error (List Item)
  | .error (.noRows _) => .ok []
  | .error e => .error e
  | .ok item => .ok [item]

/-- The items of a question are those of its query, or of the query for a single row. -/
theorem items_eq (x : Executor σ) (users : Handle) (q : Question) (w : World σ) :
    q.items x users w =
      if q.single then
        (atMostOne ((q.query users).first x w).1, (((q.query users).limit 1).items x w).2)
      else (((q.query users).items x w).1.bind Handle.allItems, ((q.query users).items x w).2) := by
  rw [items]
  split
  · have hsnd : ((q.query users).first x w).2 = (((q.query users).limit 1).items x w).2 := by
      rw [Handle.first_eq, Handle.firstOrNone_eq]
    rw [← hsnd]
    rcases (q.query users).first x w with ⟨(_ | _ | _ | _ | _ | _ | _ | _) | _, w'⟩ <;> rfl
  · rw [← Handle.collect_eq, ← Handle.collect_snd]

theorem ask_eq (x : Executor σ) (users : Handle) (q : Question) (w : World σ) :
    q.ask x users w = ((q.items x users w).1.map fun items =>
      ⟨q.title, q.columns, items.map (row q.columns)⟩, (q.items x users w).2) := by
  rw [ask]
  rcases q.items x users w with ⟨_ | items, w'⟩ <;> rfl

end Question

/-! ## Exchanges -/

namespace Question

/-- The query that is put to a store for a question. -/
def handle (q : Question) (users : Handle) : Handle :=
  if q.single then (q.query users).limit 1 else q.query users

/-- The rows of an answer that are wanted. -/
def wanted {α : Type} (q : Question) (rows : List α) : List α :=
  if q.single then rows.take 1 else rows

/-- The chain of the query. -/
def chain (q : Question) : Chain := (q.handle (.set .default Users.type)).chain

/-- What a row is read into, by the plan of the query. -/
def read (q : Question) (p : Plan) (row : Row) : Except Error Item :=
  match (q.handle (.set .default Users.type)).target with
  | .entity => (p.readEntity Users.declaration row).map .entity
  | .output o => (p.readRecord o row).map .record

end Question

/-- A question was put to an executor by its plan, and was answered. -/
structure Exchange (σ : Type) where
  question : Question
  plan : Plan
  answer : Except Error (List Row)
  /-- The state of the executor then. -/
  after : σ

namespace Exchange

/-- The statement was answered by an error, or a row that is wanted is not read while those
    before it are. -/
inductive Fails (ex : Exchange σ) (e : Error) : Prop
  | statement : ex.answer = .error e → Fails ex e
  | row {rows before after : List Row} {row : Row} : ex.answer = .ok rows →
    ex.question.wanted rows = before ++ row :: after →
    (∀ r ∈ before, ∃ item, ex.question.read ex.plan r = .ok item) →
    ex.question.read ex.plan row = .error e → Fails ex e

end Exchange

/-- The values of an item under the columns of a section. -/
inductive Fills (columns : List String) : Item → List Value → Prop
  | entity {i : Instance} {vs : List Value} :
    List.Forall₂ (fun c v => i.get? c = some v) columns vs → Fills columns (.entity i) vs
  | record {vs : List Value} : vs.length = columns.length → Fills columns (.record vs) vs

/-- A section holds what the wanted rows of an answer are read into, one for one, and a value
    for each of its columns. -/
structure Exchange.Shown (ex : Exchange σ) (s : Report.Section) : Prop where
  title : s.title = ex.question.title
  columns : s.columns = ex.question.columns
  rows : ∃ rows items, ex.answer = .ok rows ∧
    List.Forall₂ (fun r item => ex.question.read ex.plan r = .ok item)
      (ex.question.wanted rows) items ∧
    List.Forall₂ (Fills s.columns) items s.rows

namespace Question

variable {q : Question} {p : Plan} {x : Executor σ} {c : Context} {w : World σ}

theorem wanted_map {α β : Type} (q : Question) (f : α → β) (rows : List α) :
    q.wanted (rows.map f) = (q.wanted rows).map f := by
  rw [wanted, wanted]
  split
  · rw [List.map_take]
  · rfl

/-- That there are no rows is not said of a row. -/
theorem read_ne_noRows (q : Question) (p : Plan) (row : Row) (entity : String) :
    q.read p row ≠ .error (.noRows entity) := by
  intro h
  rw [read, ← fault?_eq_some_iff] at h
  split at h <;> rw [Predicate.fault?_map, fault?_eq_some_iff] at h
  · by_cases hshape : p.shape = .entity
    · obtain ⟨fault, -, he⟩ := Plan.readEntity_eq_error hshape h
      cases he
    · rw [Plan.readEntity, if_neg hshape] at h
      cases h
  · by_cases hshape : p.shape = .entity
    · rw [Plan.readRecord, if_pos hshape] at h
      cases h
    · obtain ⟨fault, -, he⟩ := Plan.readRecord_eq_error hshape h
      cases he

theorem items_snd (x : Executor σ) (users : Handle) (q : Question) (w : World σ) :
    (q.items x users w).2 = ((q.handle users).items x w).2 := by
  rw [items_eq, handle]
  split <;> rfl

/-- Unless something says that there are no rows, a question comes to the wanted items of its
    query. -/
theorem items_fst (x : Executor σ) (users : Handle) (q : Question) (w : World σ)
    (hwhole : ∀ t, ((q.handle users).items x w).1 ≠ .error (.noRows t))
    (hitem : ∀ items t, ((q.handle users).items x w).1 = .ok items → .error (.noRows t) ∉ items) :
    (q.items x users w).1 =
      ((q.handle users).items x w).1.bind fun items => Handle.allItems (q.wanted items) := by
  rw [items_eq]
  unfold handle at hwhole hitem ⊢
  unfold wanted
  by_cases hsingle : q.single = true
  · simp only [hsingle, if_true] at hwhole hitem ⊢
    rw [Handle.first_eq, Handle.firstOrNone_eq]
    generalize (((q.query users).limit 1).items x w).1 = r at hwhole hitem ⊢
    have hother {e : Error} (he : ∀ t, e ≠ .noRows t) : atMostOne (.error e) = .error e := by
      cases e with
      | noRows t => exact absurd rfl (he t)
      | _ => rfl
    match r with
    | .error e => exact hother fun t he => hwhole t (congrArg _ he)
    | .ok (.error e :: _) => exact hother fun t he => hitem _ t rfl (he ▸ List.mem_cons_self)
    | .ok [] | .ok (.ok item :: _) => rfl
  · simp only [hsingle]
    rfl

/-- The query of a question, whatever the context. -/
theorem Plain.handle_set (hq : q.Plain) (c : Context) : q.handle (.set c Users.type) =
    { q.handle (.set .default Users.type) with context := c } := by
  rw [handle, handle, hq.query c]
  split <;> rfl

theorem Plain.root_chain (hq : q.Plain) : q.chain.root = Users.type := by
  rw [chain, handle]
  split <;> exact hq.root

end Question

namespace Tour

/-- Questions are put to an executor one after the other, each by its plan, and answered. -/
inductive Exchanged (x : Executor σ) (connection : String) :
    List Question → σ → List (Exchange σ) → Prop
  | nil {store : σ} : Exchanged x connection [] store []
  | cons {q : Question} {qs : List Question} {store store' : σ} {p : Plan}
    {answer : Except Error (List Row)} {exs : List (Exchange σ)} :
    Plan.ofChain Search.metadata q.chain = .ok p →
    x.execute connection p.render store = (answer, store') →
    Exchanged x connection qs store' exs →
    Exchanged x connection (q :: qs) store (⟨q, p, answer, store'⟩ :: exs)

/-- Exactly the statements of some exchanges were sent between two worlds. -/
structure Sent (c : Context) (exs : List (Exchange σ)) (w w' : World σ) : Prop where
  sent : w'.sent = w.sent ++ exs.map fun ex => (c.connection, ex.plan.render)
  store : w'.store = (exs.getLast?.map (·.after)).getD w.store

/-- If metadata of users were made before, then by their declaration. -/
def Known (w : World σ) : Prop :=
  ∀ r, w.catalogue.kept? Users.type = some r → r.metadata = Search.metadata

/-- A world in which users are declared, and their metadata are those of the declaration. -/
structure Ready (w : World σ) : Prop where
  resolve : (w.resolve Users.type).1 = .ok Search.metadata
  declaration : w.catalogue.declarationOf Users.type = Users.declaration

theorem Known.ready {w : World σ} (h : Known w) : Ready (w.declare Users.declaration) :=
  ⟨Users.resolve_declare_of_kept h, rfl⟩

variable {q : Question} {p : Plan} {x : Executor σ} {c : Context} {w : World σ}

theorem Ready.plan (hw : Ready w) (hq : q.Plain)
    (hp : Plan.ofChain Search.metadata q.chain = .ok p) :
    ((q.handle (.set c Users.type)).plan w).1 = .ok p := by
  rw [hq.handle_set, Handle.plan, World.translate_eq_ok_iff]
  refine ⟨Search.metadata, ?_, Plan.ofChain_eq_ok_iff.1 hp⟩
  rw [← hw.resolve]
  exact congrArg (fun t => (w.resolve t).1) hq.root_chain

/-- A question comes to what the wanted rows of the answer to its statement are read into, up
    to the first that is not read. -/
theorem Ready.items_fst (hw : Ready w) (hq : q.Plain)
    (hp : Plan.ofChain Search.metadata q.chain = .ok p)
    (hx : ∀ t, (x.execute c.connection p.render w.store).1 ≠ .error (.noRows t)) :
    (q.items x (.set c Users.type) w).1 =
      (x.execute c.connection p.render w.store).1.bind fun rows =>
        (q.wanted rows).mapM (q.read p) := by
  -- Rows are read by what the type declares, which a ready world has, and not by the context.
  have hread : (q.handle (.set c Users.type)).read w.catalogue p = q.read p := by
    funext row
    have hroot : (q.handle (.set .default Users.type)).chain.root = Users.type := hq.root_chain
    have hchain : (q.handle (.set c Users.type)).chain.root = Users.type := by
      rw [hq.handle_set]
      exact hroot
    have htarget : (q.handle (.set c Users.type)).target =
        (q.handle (.set .default Users.type)).target := by rw [hq.handle_set]
    cases hkind : (q.handle (.set .default Users.type)).target <;>
      simp only [Handle.read, Question.read, hchain, hw.declaration, htarget, hkind]
  have hcontext : (q.handle (.set c Users.type)).context = c := by rw [hq.handle_set]
  have hitems := Handle.items_fst (x := x) (hw.plan (c := c) hq hp)
  rw [hread, hcontext] at hitems
  generalize (x.execute c.connection p.render w.store).1 = answer at hx hitems ⊢
  rw [Question.items_fst, hitems]
  · cases answer with
    | error e => rfl
    | ok rows => exact (congrArg _ (q.wanted_map _ rows)).trans (Handle.allItems_eq_mapM _ _)
  · intro t
    rw [hitems]
    intro h
    cases answer with
    | error e => exact hx t (congrArg _ (Except.error.inj h))
    | ok rows => cases h
  · intro items t h
    rw [hitems] at h
    cases answer with
    | error e => cases h
    | ok rows =>
      obtain rfl := Except.ok.inj h
      intro hmem
      obtain ⟨row, -, hrow⟩ := List.mem_map.1 hmem
      exact q.read_ne_noRows p row t hrow

/-- The next question finds what this one found, but for what the executor made of its
    statement. -/
theorem Ready.items_snd (hw : Ready w) (hq : q.Plain)
    (hp : Plan.ofChain Search.metadata q.chain = .ok p) :
    Ready (q.items x (.set c Users.type) w).2 ∧
      (q.items x (.set c Users.type) w).2.sent = w.sent ++ [(c.connection, p.render)] ∧
      (q.items x (.set c Users.type) w).2.store = (x.execute c.connection p.render w.store).2 := by
  have hcontext : (q.handle (.set c Users.type)).context = c := by rw [hq.handle_set]
  have hroot : (q.handle (.set c Users.type)).chain.root = Users.type := by
    rw [hq.handle_set]
    exact hq.root_chain
  obtain ⟨hsent, hstore, hcatalogue⟩ := Handle.items_snd (x := x) (hw.plan (c := c) hq hp)
  rw [hcontext] at hsent hstore
  rw [hroot] at hcatalogue
  rw [Question.items_snd]
  refine ⟨⟨(World.resolve_again hcatalogue _).trans hw.resolve, ?_⟩, hsent, hstore⟩
  rw [hcatalogue, Catalogue.declarationOf, (w.resolve_snd Users.type).2, ← Catalogue.declarationOf]
  exact hw.declaration

end Tour

/-! ## What an exchange comes to -/

namespace Exchange

variable {ex : Exchange σ} {e : Error} {items : List Item}

/-- What the wanted rows of an answer are read into. -/
def outcome (ex : Exchange σ) : Except Error (List Item) :=
  ex.answer.bind fun rows => (ex.question.wanted rows).mapM (ex.question.read ex.plan)

theorem fails_iff : ex.Fails e ↔ ex.outcome = .error e := by
  constructor
  · rintro (hanswer | ⟨hanswer, hrows, hbefore, hrow⟩)
    · rw [outcome, hanswer]
      rfl
    · rw [outcome, hanswer]
      exact mapM_eq_error_iff.2 ⟨_, _, _, hrows, hbefore, hrow⟩
  · intro h
    rw [outcome] at h
    cases hanswer : ex.answer with
    | error e' =>
      rw [hanswer] at h
      obtain rfl := Except.error.inj h
      exact .statement hanswer
    | ok rows =>
      rw [hanswer] at h
      obtain ⟨before, row, after, hrows, hbefore, hrow⟩ := mapM_eq_error_iff.1 h
      exact .row hanswer hrows hbefore hrow

/-- The section that shows an exchange. -/
def section? (ex : Exchange σ) : Except Error Report.Section :=
  ex.outcome.map fun items =>
    ⟨ex.question.title, ex.question.columns, items.map (Question.row ex.question.columns)⟩

theorem section?_eq_error_iff : ex.section? = .error e ↔ ex.Fails e := by
  rw [fails_iff, section?]
  cases ex.outcome <;> simp [Except.map]

/-- The exchanges up to the first that fails. -/
def held : List (Exchange σ) → List (Exchange σ)
  | [] => []
  | ex :: exs =>
    match ex.outcome with
    | .error _ => [ex]
    | .ok _ => ex :: held exs

theorem mem_of_mem_held {exs : List (Exchange σ)} (h : ex ∈ held exs) : ex ∈ exs := by
  induction exs with
  | nil => exact h
  | cons ex' exs ih =>
    rw [held] at h
    split at h
    · exact List.mem_singleton.1 h ▸ List.mem_cons_self
    · exact List.mem_cons.2 ((List.mem_cons.1 h).imp_right ih)

theorem held_of_fails {before after : List (Exchange σ)}
    (hbefore : ∀ ex' ∈ before, ∀ e, ¬ex'.Fails e) (hex : ex.Fails e) :
    held (before ++ ex :: after) = before ++ [ex] := by
  induction before with
  | nil => rw [List.nil_append, held, fails_iff.1 hex, List.nil_append]
  | cons ex' before ih =>
    obtain ⟨hex', hbefore⟩ := List.forall_mem_cons.1 hbefore
    rw [List.cons_append, held]
    split
    · next e' h => exact absurd (fails_iff.2 h) (hex' e')
    · rw [ih hbefore, List.cons_append]

theorem held_of_not_fails {exs : List (Exchange σ)} (h : ∀ ex ∈ exs, ∀ e, ¬ex.Fails e) :
    held exs = exs := by
  induction exs with
  | nil => rfl
  | cons ex exs ih =>
    obtain ⟨hex, hexs⟩ := List.forall_mem_cons.1 h
    rw [held]
    split
    · next e h => exact absurd (fails_iff.2 h) (hex e)
    · rw [ih hexs]

end Exchange

namespace Question

variable {q : Question} {p : Plan} {row : Row} {item : Item}

/-- The columns of a question are fields of users, or there are as many as members. -/
def Fits (q : Question) : Prop :=
  match (q.handle (.set .default Users.type)).target with
  | .entity => ∀ c ∈ q.columns, (Users.new.find? (·.field = c)).isSome = true
  | .output o => o.members.length = q.columns.length

/-- What a row is read into has a value for each column. -/
theorem Fits.fills (hq : q.Fits) (h : q.read p row = .ok item) :
    Fills q.columns item (Question.row q.columns item) := by
  unfold Fits at hq
  unfold read at h
  cases htarget : (q.handle (.set .default Users.type)).target with
  | entity =>
    simp only [htarget] at hq h
    cases hi : p.readEntity Users.declaration row with
    | error e =>
      rw [hi] at h
      cases h
    | ok i =>
      rw [hi] at h
      cases h
      have hof := Plan.isOf_of_readEntity hi
      refine .entity (List.forall₂_map_right_iff.2 (List.forall₂_same.2 fun c hc => ?_))
      obtain ⟨cell, hcell⟩ := Option.isSome_iff_exists.1 (hq c hc)
      obtain ⟨cell', hcell', -⟩ := hof.find?_of_new hcell
      rw [Instance.get?, hcell']
      rfl
  | output o =>
    simp only [htarget] at hq h
    cases hvs : p.readRecord o row with
    | error e =>
      rw [hvs] at h
      cases h
    | ok vs =>
      rw [hvs] at h
      cases h
      exact .record ((Plan.length_readRecord hvs).trans hq)

end Question

namespace Tour

variable {x : Executor σ} {c : Context} {w w' w'' : World σ} {qs : List Question}

theorem Sent.cons {ex : Exchange σ} {exs : List (Exchange σ)} (h : Sent c [ex] w w')
    (h' : Sent c exs w' w'') : Sent c (ex :: exs) w w'' := by
  refine ⟨?_, ?_⟩
  · rw [h'.sent, h.sent, List.append_assoc]
    rfl
  · rw [h'.store]
    cases exs with
    | nil => exact h.store
    | cons ex' exs =>
      rw [List.getLast?_cons_cons, List.getLast?_cons]
      rfl

/-- A question of the tour: a query for users that has a plan, and columns that its items
    fill. -/
structure Sound (q : Question) : Prop where
  plain : q.Plain
  plan : ∃ p, Plan.ofChain Search.metadata q.chain = .ok p
  fits : q.Fits

/-- Questions that are asked one after the other come to the sections of their exchanges, and
    the first that fails is the last that is asked. -/
theorem Ready.askAll (hqs : ∀ q ∈ qs, Sound q) (hw : Ready w)
    (hx : ∀ s store t, (x.execute c.connection s store).1 ≠ .error (.noRows t)) :
    ∃ exs, Exchanged x c.connection qs w.store exs ∧
      (Tour.askAll x (.set c Users.type) qs w).1 = exs.mapM Exchange.section? ∧
      Sent c (Exchange.held exs) w (Tour.askAll x (.set c Users.type) qs w).2 := by
  -- The world after a question is ready for the next, with what the executor made of the store.
  induction qs generalizing w with
  | nil => exact ⟨[], .nil, rfl, ⟨(List.append_nil _).symm, rfl⟩⟩
  | cons q qs ih =>
    obtain ⟨hq, hqs⟩ := List.forall_mem_cons.1 hqs
    obtain ⟨p, hp⟩ := hq.plan
    obtain ⟨hready, hsent, hstore⟩ := hw.items_snd (x := x) (c := c) hq.plain hp
    have hitems := hw.items_fst hq.plain hp (hx p.render w.store)
    have hask := Question.ask_eq x (.set c Users.type) q w
    obtain ⟨exs, hexchanged, hsections, hheld⟩ := ih hqs hready
    rcases hexecute : x.execute c.connection p.render w.store with ⟨answer, store⟩
    rw [hexecute] at hitems hstore
    rw [hstore] at hexchanged
    let ex : Exchange σ := ⟨q, p, answer, store⟩
    have houtcome : (q.items x (.set c Users.type) w).1 = ex.outcome := hitems
    have hone : Sent c [ex] w (q.items x (.set c Users.type) w).2 := ⟨hsent, hstore⟩
    refine ⟨ex :: exs, .cons hp hexecute hexchanged, ?_⟩
    rw [Tour.askAll, hask, houtcome, List.mapM_cons, Exchange.held, Exchange.section?]
    cases ex.outcome with
    | error e => exact ⟨rfl, hone⟩
    | ok items =>
      rw [← hsections]
      dsimp only [Except.map]
      generalize Tour.askAll x (.set c Users.type) qs (q.items x (.set c Users.type) w).2 = r
        at hheld ⊢
      obtain ⟨_ | sections, w'⟩ := r <;> exact ⟨rfl, hone.cons hheld⟩

/-- Every question of the tour is a query for users. -/
theorem plain_questions : ∀ q ∈ questions, q.Plain := by
  intro q hq
  simp only [questions, List.mem_cons, List.not_mem_nil, or_false] at hq
  rcases hq with rfl | rfl | rfl | rfl | rfl | rfl <;> exact ⟨rfl, fun _ => rfl⟩

/-- Every question of the tour has a plan, and columns that its items fill. -/
theorem sound_questions : ∀ q ∈ questions, Sound q := by
  intro q hq
  have hplain := plain_questions q hq
  have hcolumns : ∀ c ∈ userColumns, (Users.new.find? (·.field = c)).isSome = true := by decide
  have hplan : (Plan.ofChain Search.metadata q.chain).toOption.isSome = true ∧ q.Fits := by
    simp only [questions, List.mem_cons, List.not_mem_nil, or_false] at hq
    rcases hq with rfl | rfl | rfl | rfl | rfl | rfl
    · exact ⟨by decide, hcolumns⟩
    · exact ⟨by decide, rfl⟩
    · exact ⟨by decide, hcolumns⟩
    · exact ⟨by decide, rfl⟩
    · exact ⟨by decide, hcolumns⟩
    · exact ⟨by decide, hcolumns⟩
  obtain ⟨hsome, hfits⟩ := hplan
  refine ⟨hplain, ?_, hfits⟩
  cases h : Plan.ofChain Search.metadata q.chain with
  | error e =>
    rw [h] at hsome
    cases hsome
  | ok p => exact ⟨p, rfl⟩

/-- The section that an exchange comes to shows it. -/
theorem Sound.shown {ex : Exchange σ} {s : Report.Section} (hq : Sound ex.question)
    (h : ex.section? = .ok s) : ex.Shown s := by
  rw [Exchange.section?, Exchange.outcome] at h
  cases hanswer : ex.answer with
  | error e =>
    rw [hanswer] at h
    cases h
  | ok rows =>
    rw [hanswer] at h
    cases hitems : (ex.question.wanted rows).mapM (ex.question.read ex.plan) with
    | error e => simp [Except.bind, Except.map, hitems] at h
    | ok items =>
      simp only [Except.bind, Except.map, hitems, Except.ok.injEq] at h
      subst h
      have hread := mapM_eq_ok_iff.1 hitems
      refine ⟨rfl, rfl, rows, items, hanswer, hread, List.forall₂_map_right_iff.2 ?_⟩
      refine List.forall₂_same.2 fun item hitem => ?_
      obtain ⟨row, -, hrow⟩ := exists_of_forall₂ hread item hitem
      exact hq.fits.fills hrow

theorem Exchanged.sound {exs : List (Exchange σ)} {store : σ} {connection : String}
    (h : Exchanged x connection qs store exs) (hqs : ∀ q ∈ qs, Sound q) :
    ∀ ex ∈ exs, Sound ex.question := by
  induction h with
  | nil => exact fun _ hex => absurd hex List.not_mem_nil
  | cons _ _ _ ih =>
    obtain ⟨hq, hqs⟩ := List.forall_mem_cons.1 hqs
    exact List.forall_mem_cons.2 ⟨hq, ih hqs⟩

/-- A tour comes to the sections of its exchanges, and to the error of the first that fails,
    which is the last. -/
theorem Known.exists_exchanged (hw : Known w)
    (hx : ∀ s store t, (x.execute c.connection s store).1 ≠ .error (.noRows t)) :
    ∃ exs, Exchanged x c.connection questions w.store exs ∧
      (run x c w).1 = exs.mapM Exchange.section? ∧ Sent c (Exchange.held exs) w (run x c w).2 := by
  obtain ⟨exs, hexchanged, hsections, hsent⟩ := hw.ready.askAll sound_questions hx
  exact ⟨exs, hexchanged, hsections, hsent.sent, hsent.store⟩

/-- The sections of exchanges show them. -/
theorem Exchanged.shown {exs : List (Exchange σ)} {store : σ} {connection : String}
    {sections : List Report.Section} (h : Exchanged x connection questions store exs)
    (hsections : exs.mapM Exchange.section? = .ok sections) :
    List.Forall₂ Exchange.Shown exs sections := by
  have hboth := (List.forall₂_and_left _ _).2
    ⟨h.sound sound_questions, mapM_eq_ok_iff.1 hsections⟩
  exact hboth.imp fun _ _ h => h.1.shown h.2

/-- Without sections one of the exchanges fails. -/
theorem exists_fails {exs : List (Exchange σ)} {e : Error}
    (h : exs.mapM Exchange.section? = .error e) : ∃ ex ∈ exs, ex.Fails e := by
  obtain ⟨before, ex, after, rfl, -, hex⟩ := mapM_eq_error_iff.1 h
  exact ⟨ex, List.mem_append_right _ List.mem_cons_self, Exchange.section?_eq_error_iff.1 hex⟩

end Tour

end Demo

end EntityQuery
