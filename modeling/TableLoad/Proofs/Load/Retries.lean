import TableLoad.Proofs.Load.Stages

/-!
# Loads that are tried again

A load that fails leaves the catalogs and what is current as they were.  It leaves the
views as they were too, unless it fails when it comes to its output: there is no way back
from the view that it registered before, and the view is in the way of the next attempt.
-/

set_option autoImplicit false

namespace TableLoad.Session

section Failed

variable {batchSize : Nat} {request : LoadRequest} {disk after : Disk} {engine next : Engine}
  {failure : LoadError}

theorem Viewed.places {table : TableId} {text : Option String} {view : Option ObjectPath}
    (viewed : Viewed engine table text view next) :
    next.catalogs = engine.catalogs ∧ next.currentCatalog = engine.currentCatalog ∧
      next.currentDatabase = engine.currentDatabase := by
  cases viewed with
  | unasked => exact ⟨rfl, rfl, rfl⟩
  | registered text path stands free => exact ⟨rfl, rfl, rfl⟩

theorem places_of_failed
    (run : runWith Engine.call (load batchSize request) disk engine =
      ((.error failure, after), next)) :
    next.catalogs = engine.catalogs ∧ next.currentCatalog = engine.currentCatalog ∧
      next.currentDatabase = engine.currentDatabase := by
  cases ending_of_load run with
  | untabled => exact ⟨rfl, rfl, rfl⟩
  | unviewed => exact ⟨rfl, rfl, rfl⟩
  | unwritten _ _ _ _ _ _ viewed => exact viewed.places

theorem views_of_failed (kept : failure.ofOutput = false ∨ request.view = none)
    (run : runWith Engine.call (load batchSize request) disk engine =
      ((.error failure, after), next)) : next.views = engine.views := by
  cases ending_of_load run with
  | untabled => rfl
  | unviewed => rfl
  | unwritten schema rows view _ _ _ viewed late =>
    generalize request.view = asked at kept viewed
    cases viewed with
    | unasked => rfl
    | registered text path stands free =>
      rcases kept with early | unasked
      · rw [late] at early
        cases early
      · cases unasked

theorem view_of_failed (late : failure.ofOutput = true) {text : String}
    (asked : request.view = some text)
    (run : runWith Engine.call (load batchSize request) disk engine =
      ((.error failure, after), next)) :
    ∃ path table, engine.StandsFor text path ∧ engine.views.lookup path = none ∧
      next.views = (path, table) :: engine.views := by
  cases ending_of_load run with
  | untabled _ _ early =>
    rw [late] at early
    cases early
  | unviewed => cases late
  | unwritten schema rows view _ _ _ viewed =>
    rw [asked] at viewed
    cases viewed with
    | registered _ path stands free => exact ⟨path, engine.nextId, stands, free, rfl⟩

theorem retry_refused (late : failure.ofOutput = true) {text : String}
    (asked : request.view = some text)
    (run : runWith Engine.call (load batchSize request) disk engine =
      ((.error failure, after), next))
    (size : Nat) (again : LoadRequest) (same : again.view = some text) (someDisk : Disk) :
    ∃ refusal, (runWith Engine.call (load size again) someDisk next).1.1 = .error refusal := by
  obtain ⟨path, table, stands, _, views⟩ := view_of_failed late asked run
  obtain ⟨_, catalog, database⟩ := places_of_failed run
  cases outcome : runWith Engine.call (load size again) someDisk next with
  | mk answered last =>
    obtain ⟨result, left⟩ := answered
    cases ending_of_load outcome with
    | untabled refusal => exact ⟨refusal, rfl⟩
    | unviewed _ _ refusal => exact ⟨.session refusal, rfl⟩
    | unwritten _ _ _ refusal => exact ⟨refusal, rfl⟩
    | done data converter records rows view swept folder _ tabled viewed =>
      rw [same] at viewed
      cases viewed with
      | registered _ place there free =>
        -- The session has not gone elsewhere, so the text stands for the same path.
        have reached : next.StandsFor text place := there
        rw [Engine.StandsFor, catalog, database, stands] at reached
        cases reached
        have taken : next.views.lookup path = none := free
        rw [views, List.lookup_cons_self] at taken
        cases taken

end Failed

/-- A load that fails leaves the catalogs of the engine, what is current and the views as
they were, unless it fails when it comes to its output after it has registered a view.
In that case the views are those from before and this one, whose path was free. -/
theorem failed_file_load_keeps_session (batchSize : Nat) (request : LoadRequest)
    (disk after : Disk) (engine next : Engine) (failure : LoadError)
    (run : runWith Engine.call (load batchSize request) disk engine =
      ((.error failure, after), next)) :
    next.catalogs = engine.catalogs ∧ next.currentCatalog = engine.currentCatalog ∧
      next.currentDatabase = engine.currentDatabase ∧
      (failure.ofOutput = false ∨ request.view = none → next.views = engine.views) ∧
      (failure.ofOutput = true → ∀ text, request.view = some text →
        ∃ path table, engine.StandsFor text path ∧ engine.views.lookup path = none ∧
          next.views = (path, table) :: engine.views) := by
  obtain ⟨catalogs, catalog, database⟩ := places_of_failed run
  refine ⟨catalogs, catalog, database, ?_, ?_⟩
  · intro kept
    exact views_of_failed kept run
  · intro late text asked
    exact view_of_failed late asked run

def misplacedLoad : LoadRequest :=
  { LoadRequest.ofSource "s.csv" with view := some "v", output := some "no/such/o.tbrb" }

def numberDisk : Disk where
  folder := ⟨[({ rooted := false, names := ["s.csv"] }, .file (.bytes [97, 10, 49, 10]))]⟩
  scratch := .empty

theorem misplacedLoad_fails :
    ∃ failure after next, failure.ofOutput = true ∧
      runWith Engine.call (load Batch.defaultBatchSize misplacedLoad) numberDisk .fresh =
        ((.error failure, after), next) := by
  have late : (match (runWith Engine.call (load Batch.defaultBatchSize misplacedLoad) numberDisk
      .fresh).1.1 with
    | .error failure => failure.ofOutput
    | .ok _ => false) = true := by decide +kernel
  cases run : runWith Engine.call (load Batch.defaultBatchSize misplacedLoad) numberDisk .fresh with
  | mk answered next =>
    obtain ⟨outcome, after⟩ := answered
    rw [run] at late
    cases outcome with
    | error failure => exact ⟨failure, after, next, late, rfl⟩
    | ok summary => cases late

theorem misplaced_output_keeps_session :
    ∃ failure after next, failure.ofOutput = true ∧
      runWith Engine.call (load Batch.defaultBatchSize misplacedLoad) numberDisk .fresh =
        ((.error failure, after), next) ∧
      next.catalogs = Engine.fresh.catalogs ∧
      ∃ path table, Engine.fresh.StandsFor "v" path ∧ next.views = [(path, table)] := by
  obtain ⟨failure, after, next, late, run⟩ := misplacedLoad_fails
  obtain ⟨catalogs, _, _, _, registered⟩ := failed_file_load_keeps_session
    Batch.defaultBatchSize misplacedLoad numberDisk after .fresh next failure run
  obtain ⟨path, table, stands, _, views⟩ := registered late "v" rfl
  exact ⟨failure, after, next, late, run, catalogs, path, table, stands, views⟩

/-- The view of a load whose output cannot be created is there afterwards, and it stops the
load from being tried again, even with an output that can be created. -/
theorem misplaced_output_leaves_view :
    let first := runWith Engine.call (load Batch.defaultBatchSize misplacedLoad) numberDisk .fresh
    (∃ failure, first.1.1 = .error failure) ∧ first.2.views ≠ Engine.fresh.views ∧
      ∃ refusal, (runWith Engine.call
        (load Batch.defaultBatchSize { misplacedLoad with output := some "o.tbrb" }) first.1.2
          first.2).1.1 = .error refusal := by
  intro first
  obtain ⟨failure, after, next, late, run⟩ := misplacedLoad_fails
  obtain ⟨path, table, _, _, views⟩ := view_of_failed late rfl run
  have refused := retry_refused late rfl run Batch.defaultBatchSize
    { misplacedLoad with output := some "o.tbrb" } rfl after
  have same : first = ((.error failure, after), next) := run
  rw [same]
  refine ⟨⟨failure, rfl⟩, ?_, refused⟩
  intro unchanged
  rw [views] at unchanged
  exact List.cons_ne_nil _ _ unchanged

end TableLoad.Session
