import FleetControl.Text.Quoted

namespace FleetControl.Store

inductive CellProblem where
  /-- The column is of a type that is not read as what is wanted. -/
  | mismatch (wanted wantedColumn found : String)
  | unexpectedNull
  | malformed (message : String)
deriving DecidableEq

def CellProblem.message : CellProblem → String
  | .mismatch wanted wantedColumn found =>
    "mismatched types; Rust type `" ++ wanted ++ "` (as SQL type `" ++ wantedColumn
      ++ "`) is not compatible with SQL type `" ++ found ++ "`"
  | .unexpectedNull => "unexpected null; try decoding as an `Option`"
  | .malformed m => m

inductive Error where
  | poolTimedOut
  | poolClosed
  | connection (message : String)
  | workerCrashed
  | columnNotFound (name : String)
  | rowNotFound
  | configuration (message : String)
  | unknownEncryption (name : String)
  | refused (message : String)
  | cell (index : Nat) (problem : CellProblem)
  | columnOutOfBounds (length index : Nat)
deriving DecidableEq

namespace Error

def unknownEncryptionText (name : String) : String :=
  "unknown value " ++ Text.quoted name ++ " for \x60ssl_mode\x60"

def message : Error → String
  | .poolTimedOut => "pool timed out while waiting for an open connection"
  | .poolClosed => "attempted to acquire a connection on a closed pool"
  | .connection m => "error communicating with database: " ++ m
  | .workerCrashed => "attempted to communicate with a crashed background worker"
  | .columnNotFound name => "no column found for name: " ++ name
  | .rowNotFound => "no rows returned by a query that expected to return at least one row"
  | .configuration m => "error with configuration: " ++ m
  | .unknownEncryption name =>
    "error with configuration: error with configuration: " ++ unknownEncryptionText name
  | .refused m => "error returned from database: " ++ m
  | .cell index problem =>
    "error occurred while decoding column " ++ toString index ++ ": " ++ problem.message
  | .columnOutOfBounds length index =>
    "column index out of bounds: the len is " ++ toString length ++ ", but the index is "
      ++ toString index

def sentences (e : Error) : List String :=
  e.message ::
    match e with
    | .configuration m => [m]
    | .unknownEncryption name =>
      ["error with configuration: " ++ unknownEncryptionText name, unknownEncryptionText name]
    | .connection m => [m]
    | .cell _ problem => [problem.message]
    | _ => []

def isRetryable : Error → Bool
  | .poolTimedOut => true
  | .poolClosed => true
  | .connection _ => true
  | _ => false

end Error

end FleetControl.Store
