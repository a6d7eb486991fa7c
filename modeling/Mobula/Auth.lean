import Mobula.Core

/-!
# Roles, scopes and identities

Roles are sets of permissions over an action and a target. An identity holds
roles everywhere, and assignments that hold within a scope. Assignments only
ever add permissions.
-/

namespace Mobula

inductive PermissionType where
  | read
  | write
  | delete
  | admin
  deriving DecidableEq, Repr

inductive Target where
  | job
  | cluster
  | service
  | pool
  | audit
  deriving DecidableEq, Repr

inductive Role where
  | viewer
  | developer
  | operator
  | admin
  | auditor
  deriving DecidableEq, Repr

def PermissionType.asStr : PermissionType → String
  | .read => "read"
  | .write => "write"
  | .delete => "delete"
  | .admin => "admin"

def Target.asStr : Target → String
  | .job => "job"
  | .cluster => "cluster"
  | .service => "service"
  | .pool => "pool"
  | .audit => "audit"

namespace Role

def grants : Role → PermissionType → Target → Bool
  | .admin, _, _ => true
  | .viewer, _, .audit => false
  | .viewer, action, _ => action = .read
  | .auditor, action, .audit => action = .read
  | .auditor, _, _ => false
  | .developer, action, .job => action = .read ∨ action = .write ∨ action = .delete
  | .developer, action, .service => action = .read ∨ action = .write ∨ action = .delete
  | .developer, action, .cluster => action = .read
  | .developer, action, .pool => action = .read
  | .developer, _, .audit => false
  | .operator, action, .cluster => action = .read ∨ action = .write ∨ action = .delete
  | .operator, action, .job => action = .read
  | .operator, action, .service => action = .read
  | .operator, action, .pool => action = .read
  | .operator, _, .audit => false

def asStr : Role → String
  | .viewer => "viewer"
  | .developer => "developer"
  | .operator => "operator"
  | .admin => "admin"
  | .auditor => "auditor"

def parse (text : String) : Option Role :=
  if text = "viewer" then some .viewer
  else if text = "developer" then some .developer
  else if text = "operator" then some .operator
  else if text = "admin" then some .admin
  else if text = "auditor" then some .auditor
  else none

end Role

def stripPrefix (start text : String) : Option String :=
  if start.toList.isPrefixOf text.toList then
    some (String.ofList (text.toList.drop start.toList.length))
  else none

theorem stripPrefix_append {start : String} {rest : List Char} :
    stripPrefix start (String.ofList (start.toList ++ rest)) = some (String.ofList rest) := by
  simp [stripPrefix]

theorem toList_of_stripPrefix {start text rest : String}
    (stripped : stripPrefix start text = some rest) :
    text.toList = start.toList ++ rest.toList := by
  unfold stripPrefix at stripped
  split at stripped
  case isTrue starts =>
    cases stripped
    rcases List.isPrefixOf_iff_prefix.mp starts with ⟨tail, split⟩
    rw [← split]
    simp
  case isFalse => cases stripped

def trimEndSlashes (text : String) : String :=
  String.ofList (text.toList.reverse.dropWhile (· = '/')).reverse

def appendNew {α : Type} [DecidableEq α] (held added : List α) : List α :=
  added.foldl (fun held item => if item ∈ held then held else held ++ [item]) held

def GLOBAL_SCOPE : String := "*"

/-- Whether a text is a scope: the global one, or a project with a name of the right grammar. -/
def validScope (scope : String) : Bool :=
  scope = GLOBAL_SCOPE ||
    (stripPrefix "project:" scope).any fun name =>
      !name.isEmpty &&
        name.toList.all fun c => c.isAlphanum || c = '-' || c = '_' || c = '.' || c = '/'

/-- Global scopes cover every project. -/
def scopeCovers (scope project : String) : Bool :=
  scope = GLOBAL_SCOPE || scope = "project:" ++ project

structure Identity where
  subject : String
  username : Option String
  roles : List Role
  projectRoles : List (Role × String)
  deriving DecidableEq, Repr

/-- Who makes a request; nobody where authentication is off. -/
abbrev Caller := Option Identity

namespace Identity

def owner (identity : Identity) : String :=
  identity.username.getD identity.subject

def permits (identity : Identity) (action : PermissionType) (target : Target) : Bool :=
  identity.roles.any (·.grants action target)

def permitsScoped (identity : Identity) (action : PermissionType) (target : Target)
    (assignments : List (Role × String)) (project : String) : Bool :=
  identity.permits action target ||
    assignments.any fun held => scopeCovers held.2 project && held.1.grants action target

end Identity

end Mobula
