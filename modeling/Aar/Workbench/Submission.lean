import Aar.Registry.Lifecycle
import Aar.Workbench.Admission

/-! The submission of a workbench request: its acceptance, its admission, and its dispatch request. -/

namespace Aar.Workbench

open Guarded Table Registry

section Submission

/-- A workbench request that has passed the host's checks of its envelope and its budgets. -/
structure Submission where
  envelope : RequestEnvelope
  payloadJson : String
  spec : RlmWorkbenchJobSpec
  context : AdmissionContext

/-- What the workspace backend answers when a workspace is attached or created. -/
structure BackendAnswers where
  attach : BoundWorkspace → Except Err Unit
  create : Except Err ProgrammableWorkspaceHandle

variable {α β : Type}

/-- Go on from what a transaction left; one that raises leaves the database as it was. -/
def following (db : Db) (ran : Except Err (Db × α)) (next : Db → α → Db × Except Err β) :
    Db × Except Err β :=
  match ran with
  | .ok (db', value) => next db' value
  | .error raised => (db, .error raised)

/-- A transaction that answers nothing. -/
def withoutAnswer (ran : Except Err Db) : Except Err (Db × Unit) := (·, ()) <$> ran

/-- `_prepare_workspace`: attach the bound workspace, or create one and bind it. -/
def prepareWorkspace (answers : BackendAnswers) (operation : String) (db : Db) :
    Db × Except Err Unit :=
  following db (db.transact operation (.keyError operation) prepareWorkspaceStart)
    fun db bound =>
      match bound with
      | some workspace => (db, answers.attach workspace)
      | none =>
        -- The backend is called between the two transactions.
        match answers.create with
        | .error raised => (db, .error raised)
        | .ok handle =>
          following db (withoutAnswer (db.update operation (.keyError operation)
            (prepareWorkspaceBind handle))) fun db _ => (db, .ok ())

/-- `admit`: store the job once, and prepare its workspace. -/
def admitSubmission (H : Hashing) (submission : Submission) (answers : BackendAnswers) (operation : String)
    (db : Db) : Db × Except Err Unit :=
  following db (withoutAnswer (db.update operation (.keyError operation)
    (admitJob H submission.spec submission.context)))
    fun db _ => prepareWorkspace answers operation db

/-- `_submit_rlm_workbench_open`: accept the request, and admit and dispatch it while it is
accepted. The answer names the operation. -/
def submitRlmWorkbenchOpen (H : Hashing) (submission : Submission) (answers : BackendAnswers)
    (acceptClock dispatchClock : Clock) (db : Db) : Db × Except Err String :=
  following db (accept H acceptClock submission.envelope submission.payloadJson none db)
    fun db (operation, _) =>
      -- The state is the one that acceptance answers with.
      if (db.lookup operation).any fun record => record.row.state = .accepted then
        let (admitted, answer) := admitSubmission H submission answers operation db
        match answer with
        | .error raised => (admitted, .error raised)
        | .ok () =>
          following admitted (withoutAnswer (admitted.update operation (.keyError operation)
            (requestDispatch .rlmWorkbenchExecute dispatchClock)))
            fun db _ => (db, .ok operation)
      else (db, .ok operation)

end Submission

end Aar.Workbench
