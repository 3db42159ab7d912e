import TableLoad.Batch.Error
import TableLoad.Engine.Request
import TableLoad.Frame.Mapping
import TableLoad.Inference

/-!
# Failures of a session

Everything that can end an operation of a session, from a path that cannot be
read to an engine that refuses a request.
-/

set_option autoImplicit false

namespace TableLoad

inductive Refusal
  | unknownCatalog (name : String)
  | unknownDatabase (catalog database : String)
  | unknownDatabaseIn (catalog database : String)
  | unknownTable (table : TableId)
  | tableNotFound (path : ObjectPath)
  | tableExists (path : ObjectPath)
  | viewExists (path : ObjectPath)
  | other (message : String)
deriving DecidableEq, Repr

def Refusal.message : Refusal → String
  | .unknownCatalog name => s!"Catalog {name} does not exist"
  | .unknownDatabase catalog database => s!"Database {catalog}.{database} does not exist"
  | .unknownDatabaseIn catalog database =>
    s!"Database {database} does not exist in catalog {catalog}"
  | .unknownTable table => s!"Unknown table {table.text}"
  | .tableNotFound path => s!"Table {path.text} was not found"
  | .tableExists path => s!"Table {path.text} already exists"
  | .viewExists path => s!"Temporary view {path.text} already exists"
  | .other message => message

inductive Failure
  | path (error : Path.Error)
  | inference (error : InferenceError)
  | frame (error : Frame.Error)
  | validation (error : ValidationError)
  | batch (error : Batch.Error)
  | refused (operation : Operation) (refusal : Refusal)
  | unexpectedResponse (operation : Operation) (response : String)

def Failure.message : Failure → String
  | .path error => error.message
  | .inference error => error.message
  | .frame error => error.message
  | .validation error => error.message
  | .batch error => error.message
  | .refused operation refusal =>
    s!"Remote call '{operation.text}' failed: {refusal.message}"
  | .unexpectedResponse operation response =>
    s!"Unexpected response to '{operation.text}': {response}"

end TableLoad
