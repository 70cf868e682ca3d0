import Mathlib.Data.List.Basic

/-
  The worker tasks that a lab session queues, and the task
  contract they are checked against (task_contracts.py,
  celery_client.py).

  Key definitions include:
    * `TaskContract`
    * `validateArgs`
    * `LabTask`
-/

--------
-- Contracts
--------

namespace TrueNorth

namespace LabSessions

inductive ArgType where
| string
| array
| object
deriving DecidableEq

def ArgType.value : ArgType → String
| string => "string"
| array => "array"
| object => "object"

/- A value as JSON brings it back. -/
inductive Value where
| str (s : String)
| list (items : List String)
deriving DecidableEq

/- `_PY_TYPES`. -/
def Value.isOf : Value → ArgType → Bool
| .str _, .string => true
| .list _, .array => true
| _, _ => false

def Value.typeName : Value → String
| .str _ => "str"
| .list _ => "list"

structure Arg where
  name : String
  type : ArgType
  required : Bool
deriving DecidableEq

structure TaskContract where
  name : String
  args : List Arg
deriving DecidableEq

def rangeArg : Arg := ⟨"range_id", .string, true⟩

def snapshotArg : Arg := ⟨"snapshot_id", .string, true⟩

/- `TASKS`, of the tasks that a lab session queues. -/
def tasks : List TaskContract :=
  [⟨"provision_range",
      [rangeArg, ⟨"noise_mgmt", .object, false⟩]⟩,
    ⟨"destroy_range", [rangeArg]⟩,
    ⟨"snapshot_range", [rangeArg, snapshotArg]⟩,
    ⟨"restore_snapshot", [rangeArg, snapshotArg]⟩,
    ⟨"reconcile_lab_vms",
      [⟨"range_ids", .array, true⟩,
        ⟨"backend", .string, true⟩]⟩]

/- A queued call: the task's name and its arguments. -/
structure Call where
  task : String
  args : List Value
deriving DecidableEq

/- `TaskContractError` of each argument in its turn. -/
def checkArgs
    (name : String) :
    List Arg → List Value → Except String Unit
| arg :: args, value :: values =>
    if value.isOf arg.type then
      checkArgs name args values
    else
      .error (name ++ "." ++ arg.name ++ " must be " ++
        arg.type.value ++ ", got " ++ value.typeName)
| _, _ => .ok ()

/- `validate_args`. -/
def validateArgs (call : Call) : Except String Unit :=
  match tasks.find? (fun c => c.name = call.task) with
  | none =>
      .error ("no contract for task '" ++ call.task ++
        "'; add it to worker/worker/contracts.py")
  | some contract =>
      let required := (contract.args.filter Arg.required).length
      if required ≤ call.args.length &&
          call.args.length ≤ contract.args.length then
        checkArgs call.task contract.args call.args
      else
        .error (call.task ++ " takes " ++ toString required ++
          ".." ++ toString contract.args.length ++ " args (" ++
          String.intercalate ", " (contract.args.map Arg.name) ++
          "), got " ++ toString call.args.length)

--------
-- Lab Tasks
--------

/- What the lab session's operations pass to `_send`. -/
inductive LabTask where
| provisionRange (rangeId : String)
| snapshotRange (rangeId snapshotId : String)
| restoreSnapshot (rangeId snapshotId : String)
| destroyRange (rangeId : String)
| reconcileLabVms (rangeIds : List String) (backend : String)
deriving DecidableEq

def LabTask.call : LabTask → Call
| provisionRange rangeId => ⟨"provision_range", [.str rangeId]⟩
| snapshotRange rangeId snapshotId =>
    ⟨"snapshot_range", [.str rangeId, .str snapshotId]⟩
| restoreSnapshot rangeId snapshotId =>
    ⟨"restore_snapshot", [.str rangeId, .str snapshotId]⟩
| destroyRange rangeId => ⟨"destroy_range", [.str rangeId]⟩
| reconcileLabVms rangeIds backend =>
    ⟨"reconcile_lab_vms", [.list rangeIds, .str backend]⟩

/- The task contract refuses none of them. -/
theorem validateArgs_call
    (task : LabTask) :
    validateArgs task.call = .ok () := by
  cases task with
  | provisionRange rangeId => rfl
  | snapshotRange rangeId snapshotId => rfl
  | restoreSnapshot rangeId snapshotId => rfl
  | destroyRange rangeId => rfl
  | reconcileLabVms rangeIds backend => rfl

end LabSessions

end TrueNorth
