import Sentinel.ForStd.JsText

/-! # The access guard

`AccessGuard.canActivate` (`modules/identity/access.guard.ts`) with the role
table of `roles.ts`: which requests a route that requires an action admits, and how it denies the
others. -/

namespace Sentinel.AccessGuard

/-! ## Roles -/

def roleActions : List (String × List String) := [
  ("site.commander", ["incident.view", "incident.close", "incident.silent.approve",
    "field.acknowledge", "field.assignment.manage", "field.state.read", "evidence.read",
    "event.read", "hypothesis.read", "field.message.send", "field.message.read",
    "field.message.acknowledge", "incident.field-message.oversight.read", "patrol.route.read",
    "patrol.route.manage", "patrol.run.read", "patrol.run.manage", "whisper.signal.read",
    "whisper.signal.manage", "whisper.signal.approve", "device.registry.read",
    "device.enrollment.issue", "device.enrollment.approve", "device.trust.manage",
    "device.key.rotate", "device.revoke", "device.trust.restore", "edge.enrolment.authorise",
    "edge.revoke"]),
  ("operator", ["incident.view", "presence.view", "field.state.read", "event.ingest", "event.read",
    "hypothesis.read", "device.registry.read"]),
  ("dispatcher", ["incident.view", "presence.view", "field.assignment.manage", "field.state.read",
    "event.read", "hypothesis.read", "field.message.send", "field.message.read",
    "field.message.acknowledge", "patrol.route.read", "patrol.run.read", "patrol.run.manage"]),
  ("field.operative", ["field.acknowledge", "field.assignment.act", "field.state.write",
    "incident.view", "field.message.send", "field.message.read", "field.message.acknowledge",
    "patrol.run.read", "patrol.run.act", "patrol.checkpoint.verify", "whisper.device-action.invoke"]),
  ("investigator", ["evidence.read", "evidence.verify", "ledger.read", "ledger.verify",
    "incident.view", "event.read", "hypothesis.read"]),
  ("evidence.custodian", ["evidence.read", "evidence.ingest", "evidence.verify"]),
  ("admin", ["org.admin", "site.admin", "user.admin", "incident.view", "constitution.policy.read",
    "ledger.verify"])]

def roleHasAction (role action : String) : Bool :=
  roleActions.any fun entry => entry.1 = role && entry.2.contains action

/-! ## Requests -/

structure RoleAssignment where
  role : String
  siteId : Option String

structure Principal where
  clearance : Int
  organisationId : String
  roles : List RoleAssignment

/-- A member of a query or a body: a string, an array with its strings, or anything else. -/
inductive Value
  | text (value : String)
  | array (strings : List String)
  | other

/-- The members of an object by name. -/
abbrev Source := String → Option Value

/-- A request; a source that is no object is none, and a header can be repeated. -/
structure Request where
  params : Option Source
  query : Option Source
  body : Option Source
  purposeHeader : List String

structure RequiredActionMetadata where
  action : String
  classification : Int

def organisationParamKeys : List String := ["organisationId", "organisation_id"]

def siteParamKeys : List String := ["siteId", "site_id"]

/-- `CLASSIFICATION_LEVELS.SENSITIVE`. -/
def purposeRequiredFrom : Int := 2

def Value.string : Value → Option String
  | .text value => if value.length > 0 then some value else none
  | _ => none

/-- The sources in the order they are searched. -/
def Request.sources (request : Request) : List Source :=
  [request.params, request.query, request.body].reduceOption

def findRequestValue (request : Request) (keys : List String) : Option String :=
  request.sources.findSome? fun source => keys.findSome? fun key => (source key).bind Value.string

/-! ## The guard -/

inductive FailedConjunct
  | principalMissing | rolePermitsAction | organisationMatches | siteScopeMatches | clearance
  | purposeRequired
deriving DecidableEq

/-- What a denial throws, with the conjunct that is logged. -/
inductive Denial
  | notFound (conjunct : FailedConjunct)
  | forbidden (conjunct : FailedConjunct) (message : String)
deriving DecidableEq

/-- The check of a route that is not public, for the action it requires if it requires one. -/
def canActivate (principal : Option Principal) (request : Request) :
    Option RequiredActionMetadata → Except Denial Unit
  | none => .ok ()
  | some required =>
    let deny (conjunct : FailedConjunct) : Except Denial Unit :=
      .error (.forbidden conjunct ("Not permitted: " ++ required.action))
    match principal with
    | none => deny .principalMissing
    | some principal =>
      let granting := principal.roles.filter fun assignment =>
        roleHasAction assignment.role required.action
      if granting.isEmpty then deny .rolePermitsAction
      else if (findRequestValue request organisationParamKeys).any (· ≠ principal.organisationId) then
        .error (.notFound .organisationMatches)
      else if (findRequestValue request siteParamKeys).any fun siteId =>
          !granting.any fun assignment => assignment.siteId.all (· = siteId) then
        deny .siteScopeMatches
      else if principal.clearance < required.classification then deny .clearance
      else if purposeRequiredFrom ≤ required.classification ∧
          request.purposeHeader.head?.all (fun purpose => (JsText.trim purpose).length = 0) then
        deny .purposeRequired
      else .ok ()

end Sentinel.AccessGuard
