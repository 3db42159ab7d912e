import TableLoad.Proofs.Engine.Effects
import TableLoad.Proofs.Session.Running
import TableLoad.Session.Catalog

/-!
# Calls that resolve a path

With an engine of their own, the calls of a session that name an object do at once what
the engine does at the path that the text stands for.
-/

set_option autoImplicit false

namespace TableLoad

namespace Session

section Engines

variable {α : Type}

theorem runWith_listTables (disk : Disk) (engine : Engine) :
    runWith Engine.call listTables disk engine = ((.ok engine.tableNames, disk), engine) := by
  rw [listTables, requestNames, runWith_request]
  rfl

theorem runWith_listTemporaryViews (disk : Disk) (engine : Engine) :
    runWith Engine.call listTemporaryViews disk engine = ((.ok engine.viewNames, disk), engine) := by
  rw [listTemporaryViews, requestNames, runWith_request]
  rfl

theorem runWith_resolvePath (text : String) (act : ObjectPath → Session Failure α) (disk : Disk)
    (engine : Engine) :
    runWith Engine.call (resolvePath text >>= act) disk engine =
      match ObjectPath.ofText text engine.currentCatalog engine.currentDatabase with
      | .ok path => runWith Engine.call (act path) disk engine
      | .error cause => ((.error (.path cause), disk), engine) := by
  have asked : runWith Engine.call (resolvePath text >>= act) disk engine =
      runWith Engine.call
        (ofExcept .path (ObjectPath.ofText text engine.currentCatalog engine.currentDatabase) >>=
          act) disk engine := by
    simp only [resolvePath, bind_assoc]
    rfl
  rw [asked, runWith_ofExcept]
  cases ObjectPath.ofText text engine.currentCatalog engine.currentDatabase <;> rfl

def foundAt (engine : Engine) (path : ObjectPath) : Except Failure Table :=
  match (engine.find? path).bind engine.table? with
  | some table => .ok table
  | none => .error (.refused .lookupTable (.tableNotFound path))

theorem call_lookupTable (engine : Engine) (path : ObjectPath) :
    engine.call (.lookupTable path) = ((foundAt engine path).map .table, engine) := by
  simp only [Engine.call, foundAt]
  cases (engine.find? path).bind engine.table? <;> rfl

variable {text : String} {path : ObjectPath} {engine : Engine}

theorem runWith_fromPath (disk : Disk)
    (resolved : ObjectPath.ofText text engine.currentCatalog engine.currentDatabase = .ok path) :
    runWith Engine.call (fromPath text) disk engine = ((foundAt engine path, disk), engine) := by
  unfold fromPath
  rw [runWith_resolvePath, resolved]
  dsimp only
  rw [requestTable, runWith_request, call_lookupTable]
  cases foundAt engine path <;> rfl

theorem runWith_createTemporaryView (table : TableId) (disk : Disk)
    (resolved : ObjectPath.ofText text engine.currentCatalog engine.currentDatabase = .ok path) :
    runWith Engine.call (createTemporaryView text table) disk engine =
      (((engine.createView path table).1.map fun _ => path, disk),
        (engine.createView path table).2) := by
  unfold createTemporaryView
  rw [runWith_resolvePath, resolved]
  dsimp only
  rw [requestDone, runWith_bind, runWith_request]
  rw [Engine.call]
  rcases engine.createView_cases path table with ⟨_, _, _, made⟩ | ⟨_, refusal, kept⟩
  · rw [made]
    rfl
  · rw [kept]
    rfl

theorem runWith_dropTemporaryView (disk : Disk)
    (resolved : ObjectPath.ofText text engine.currentCatalog engine.currentDatabase = .ok path) :
    runWith Engine.call (dropTemporaryView text) disk engine =
      ((.ok (engine.views.lookup path).isSome, disk), (engine.dropView path).2) := by
  unfold dropTemporaryView
  rw [runWith_resolvePath, resolved]
  dsimp only
  rw [runWith_request]
  rfl

end Engines

end Session

end TableLoad
