import Sentinel.Native.IncidentStore

/-! # The status workflow of incidents

`transitionStatus` (`modules/incidents/incidents.service.ts`), the compare-and-swap of the
repository under it, and the two reads around that.  The update outbox and the publisher are
left out. -/

namespace Sentinel.IncidentStatus

open Incidents (SiteScope)

inductive Status
  | opened | contained | closed
deriving DecidableEq

def Status.text : Status → String
  | .opened => "open"
  | .contained => "contained"
  | .closed => "closed"

def allowed : Status → List Status
  | .opened => [.contained]
  | .contained => [.closed]
  | .closed => []

structure IncidentRow where
  id : String
  organisationId : String
  siteId : String
  status : Status
  closureReason : Option String
  closedAt : Option Int

/-- An entry of the kind `INCIDENT_{STATUS}`. -/
structure TimelineEntry where
  incidentId : String
  actorUserId : Option String
  fromStatus : Status
  toStatus : Status

structure Db where
  incidents : List IncidentRow
  timeline : List TimelineEntry
  incidents_id : (incidents.map (·.id)).Nodup

structure IncidentTransitionInput where
  status : Status
  closureReason : Option String
  actorUserId : Option String

structure Call where
  organisationId : String
  incidentId : String
  siteScope : SiteScope
  input : IncidentTransitionInput

/-- The `where` of its reads. -/
def Call.sees (call : Call) (row : IncidentRow) : Prop :=
  row.id = call.incidentId ∧ row.organisationId = call.organisationId ∧
    call.siteScope.covers row.siteId

instance (call : Call) : DecidablePred call.sees := fun _ => inferInstanceAs (Decidable (_ ∧ _ ∧ _))

def getDetail (db : Db) (call : Call) : Except String (IncidentRow × List TimelineEntry) :=
  match db.incidents.find? fun row => decide (call.sees row) with
  | none => .error "Incident not found"
  | some row => .ok (row, db.timeline.filter fun entry => entry.incidentId = row.id)

/-- What stands between the first read and the write, with the reason to store. -/
def check (source : Status) (input : IncidentTransitionInput) : Except String (Option String) :=
  let reason := JsText.trim (input.closureReason.getD "")
  if !(allowed source).contains input.status then
    .error ("Illegal incident status transition " ++ source.text ++ " -> " ++ input.status.text)
  else if input.status ≠ .closed then .ok none
  else if reason = "" then .error "closure_reason is required when closing an incident"
  else .ok (some reason)

/-- The row the swap is for: one the call sees, in the status it read. -/
def Call.expects (call : Call) (source : Status) (row : IncidentRow) : Prop :=
  call.sees row ∧ row.status = source

instance (call : Call) (source : Status) : DecidablePred (call.expects source) :=
  fun _ => inferInstanceAs (Decidable (_ ∧ _))

def transitionIncidentStatus (db : Db) (call : Call) (source : Status)
    (closureReason : Option String) (now : Int) : Option Db :=
  let status := call.input.status
  if (db.incidents.countP fun row => decide (call.expects source row)) ≠ 1 then none
  else some {
    incidents := Table.rewrite (fun row => decide (call.expects source row)) (fun row =>
      { row with status, closureReason,
                 closedAt := if status = .closed then some now else row.closedAt }) db.incidents
    timeline := db.timeline ++ [⟨call.incidentId, call.input.actorUserId, source, status⟩]
    incidents_id := Table.nodup_map_rewrite db.incidents_id fun _ => rfl }

/-- `transitionStatus`.  `before` is what its first read saw and other calls may have left
    behind; the answer is `getDetail` again, over what is there by then. -/
def transitionStatus (before : Db) (call : Call) (now : Int) (db : Db) : Except String Db := do
  let detail ← getDetail before call
  let reason ← check detail.1.status call.input
  match transitionIncidentStatus db call detail.1.status reason now with
  | none => .error "Incident changed concurrently; retry the transition"
  | some db' => .ok db'

/-- What the tables are asked: the insert of an incident, or a transition. -/
inductive Request
  | opening (id organisationId siteId : String)
  | transition (before : Db) (call : Call) (now : Int)

def Request.run (db : Db) : Request → Db
  | .opening id organisationId siteId =>
    if h : ∀ row ∈ db.incidents, row.id ≠ id then
      { db with
        incidents := db.incidents ++ [⟨id, organisationId, siteId, .opened, none, none⟩]
        incidents_id := Table.nodup_map_concat db.incidents_id h }
    else db
  | .transition before call now =>
    match transitionStatus before call now db with
    | .error _ => db
    | .ok db' => db'

def runAll (requests : List Request) (db : Db) : Db := requests.foldl Request.run db

end Sentinel.IncidentStatus
