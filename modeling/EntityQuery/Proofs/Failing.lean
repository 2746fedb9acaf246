import EntityQuery.Proofs.Disks
import EntityQuery.Proofs.Touring

/-!
# How a tour fails

The first exchange of a tour that fails ends it, with its error and with no statement after
it; if none fails, then every section holds what the rows of its answer were read into
(`Tour.run_hides_nothing`).
-/

namespace EntityQuery

namespace Demo.Tour

/-- The first exchange that fails ends the tour with its error and with no statement after it;
    if none fails, then each is shown by its section. This excepts executors that themselves
    answer that there are no rows, and a store on disks is none of them. -/
theorem run_hides_nothing :
    (∀ {E : Store.Engine} connection s (d : Store.Disk E) t,
      (Store.Disk.executor.execute connection s d).1 ≠ .error (.noRows t)) ∧
    ∀ {σ : Type} (x : Executor σ) (c : Context) (w : World σ), Known w →
      (∀ connection s store t, (x.execute connection s store).1 ≠ .error (.noRows t)) →
      ∃ exs, Exchanged x c.connection questions w.store exs ∧
        ((∃ e, (run x c w).1 = .error e) ↔ ∃ ex ∈ exs, ∃ e, ex.Fails e) ∧
        (∀ (before : List (Exchange σ)) ex after e, exs = before ++ ex :: after →
          (∀ ex' ∈ before, ∀ e', ¬ex'.Fails e') → ex.Fails e →
            (run x c w).1 = .error e ∧ Sent c (before ++ [ex]) w (run x c w).2) ∧
        ((∀ ex ∈ exs, ∀ e, ¬ex.Fails e) →
          ∃ sections, (run x c w).1 = .ok sections ∧ List.Forall₂ Exchange.Shown exs sections ∧
            Sent c exs w (run x c w).2) := by
  refine ⟨Store.Disk.execute_ne_noRows, fun {σ} x c w hw hx => ?_⟩
  obtain ⟨exs, hexchanged, hrun, hsent⟩ := hw.exists_exchanged (x := x) (c := c) (hx c.connection)
  have hfails {ex : Exchange σ} {e : Error} : ex.section? = .error e ↔ ex.Fails e :=
    Exchange.section?_eq_error_iff
  have hok {ex : Exchange σ} (h : ∀ e, ¬ex.Fails e) : ∃ s, ex.section? = .ok s := by
    cases hs : ex.section? with
    | error e => exact absurd (hfails.1 hs) (h e)
    | ok s => exact ⟨s, rfl⟩
  refine ⟨exs, hexchanged, ⟨?_, ?_⟩, fun before ex after e hexs hbefore hex => ?_, fun hnone => ?_⟩
  · rintro ⟨e, he⟩
    obtain ⟨ex, hex, h⟩ := exists_fails (hrun.symm.trans he)
    exact ⟨ex, hex, e, h⟩
  · rintro ⟨ex, hmem, e, hex⟩
    cases hresult : (run x c w).1 with
    | error e' => exact ⟨e', rfl⟩
    | ok sections =>
      have hall := mapM_eq_ok_iff.1 (hrun.symm.trans hresult)
      obtain ⟨s, -, hs⟩ := exists_of_forall₂ hall.flip ex hmem
      cases hs.symm.trans (hfails.2 hex)
  · subst hexs
    rw [Exchange.held_of_fails hbefore hex] at hsent
    refine ⟨hrun.trans (mapM_eq_error_iff.2 ⟨before, ex, after, rfl, ?_, hfails.2 hex⟩), hsent⟩
    exact fun ex' hex' => hok (hbefore ex' hex')
  · rw [Exchange.held_of_not_fails hnone] at hsent
    cases hresult : (run x c w).1 with
    | error e =>
      obtain ⟨ex, hex, h⟩ := exists_fails (hrun.symm.trans hresult)
      exact absurd h (hnone ex hex e)
    | ok sections => exact ⟨sections, rfl, hexchanged.shown (hrun.symm.trans hresult), hsent⟩

theorem execute_scripted_ne_noRows (connection : String) (s : Statement) (store : List Response)
    (t : String) : (Executor.scripted.execute connection s store).1 ≠ .error (.noRows t) := by
  have hresult (r : Response) : r.result ≠ .error (.noRows t) := by cases r <;> exact nofun
  match store with
  | [] => exact nofun
  | [last] => exact hresult last
  | next :: _ :: _ => exact hresult next

/-- Three answers without rows, and then a failure. -/
def broken : World (List Response) :=
  .ofStore [.rows [], .rows [], .rows [], .fail "disk I/O error"]

/-- The failure of the fourth statement is reported, and there is no fifth; without a failure
    every section is shown, if only without rows. -/
theorem run_hides_nothing_scripted :
    ((run .scripted .default broken).1 = .error (.execution "disk I/O error") ∧
      (run .scripted .default broken).2.sent.length = 4 ∧
      ∃ exs, Exchanged .scripted Context.default.connection questions broken.store exs ∧
        ∃ ex ∈ exs, ∃ e, ex.Fails e) ∧
    ∃ exs sections, (run .scripted .default (.ofStore [])).1 = .ok sections ∧
      List.Forall₂ Exchange.Shown exs sections ∧
      Sent .default exs (.ofStore []) (run .scripted .default (.ofStore [])).2 := by
  have hbroken : (run .scripted .default broken).1 = .error (.execution "disk I/O error") := rfl
  obtain ⟨exs, hexchanged, hfails, -⟩ :=
    run_hides_nothing.2 .scripted .default broken nofun execute_scripted_ne_noRows
  refine ⟨⟨hbroken, rfl, exs, hexchanged, hfails.1 ⟨_, hbroken⟩⟩, ?_⟩
  obtain ⟨exs, -, hfails, -, hshown⟩ :=
    run_hides_nothing.2 .scripted .default (.ofStore []) nofun execute_scripted_ne_noRows
  obtain ⟨sections, hrun⟩ : ∃ sections, (run .scripted .default (.ofStore [])).1 = .ok sections :=
    ⟨_, rfl⟩
  refine ⟨exs, hshown fun ex hex e he => ?_⟩
  obtain ⟨e', he'⟩ := hfails.2 ⟨ex, hex, e, he⟩
  cases hrun.symm.trans he'

end Demo.Tour

end EntityQuery
