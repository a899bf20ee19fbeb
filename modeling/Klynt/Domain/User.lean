import Klynt.Domain.Tenant

set_option relaxedAutoImplicit false
set_option autoImplicit false

/-!
# Users

The user aggregate with its three enumerations.

## Main definitions

* `UserRole`, `UserStatus`, `GlobalRole` — enumerations with their texts and parsers.
* `User`, `User.isActive` — the aggregate, and whether the account may log in.
* `User.delete`, `User.updateProfile` — the operations of the user service on it.
* `TokenKind` — what a one-time token is for.
* `PaginationRequest`, `PaginatedResponse` — pages of a list.
-/

namespace Klynt

/-- Which kind of one-time token. -/
inductive TokenKind where
  /-- A token that verifies an address. -/
  | emailVerification
  /-- A token that authorises a password reset. -/
  | passwordReset
  deriving DecidableEq

/-- A text that names no role. -/
inductive RoleError where
  /-- The text is not a role. -/
  | unknown
  deriving DecidableEq

/-- Role stored on the user aggregate. -/
inductive UserRole where
  /-- An administrator. -/
  | admin
  /-- An instructor. -/
  | instructor
  /-- A student. -/
  | student
  deriving DecidableEq

/-- Parse a user role, ignoring case. -/
def UserRole.parse [Unicode] (raw : String) : Except RoleError UserRole :=
  match toLowercase raw with
  | "student" => .ok student
  | "teacher" => .ok instructor
  | "instructor" => .ok instructor
  | "admin" => .ok admin
  | _ => .error .unknown

/-- The canonical text of a user role. -/
def UserRole.asStr : UserRole → String
  | student => "student"
  | instructor => "instructor"
  | admin => "admin"

/-- Whether a role requires an institution. -/
def UserRole.requiresInstitution : UserRole → Bool
  | instructor | admin => true
  | student => false

/-- Account status. -/
inductive UserStatus where
  /-- In use. -/
  | active
  /-- Not in use. -/
  | inactive
  /-- Suspended. -/
  | suspended
  /-- Not yet verified. -/
  | pending
  deriving DecidableEq

/-- Platform-wide role. -/
inductive GlobalRole where
  /-- The owner of the platform. -/
  | owner
  /-- An administrator of the platform. -/
  | admin
  /-- A user. -/
  | user
  deriving DecidableEq

/-- The canonical text of a global role. -/
def GlobalRole.asStr : GlobalRole → String
  | owner => "owner"
  | admin => "admin"
  | user => "user"

/-- Parse a global role, ignoring case. -/
def GlobalRole.parse [Unicode] (raw : String) : Except RoleError GlobalRole :=
  match toLowercase raw with
  | "owner" => .ok owner
  | "admin" => .ok admin
  | "user" => .ok user
  | _ => .error .unknown

/-- A user. -/
structure User where
  /-- Identifier. -/
  id : UserId
  /-- Address. -/
  email : Email
  /-- Login name. -/
  username : String
  /-- Full name. -/
  fullName : Option String
  /-- Hash of the password. -/
  passwordHash : String
  /-- Account status. -/
  status : UserStatus
  /-- Role. -/
  role : UserRole
  /-- Platform-wide role. -/
  globalRole : Option GlobalRole
  /-- When the address was verified. -/
  emailVerifiedAt : Option Time
  /-- Institution. -/
  institutionId : Option Uuid
  /-- When the terms were accepted. -/
  termsAcceptedAt : Time
  /-- Which terms were accepted. -/
  termsVersion : String
  /-- Creation time. -/
  createdAt : Time
  /-- Time of the last change. -/
  updatedAt : Time
  /-- When the account was deleted. -/
  deletedAt : Option Time

/-- Whether the user is active: not suspended, pending or deleted. -/
def User.isActive (user : User) : Bool := user.status == .active && user.deletedAt.isNone

/-- Whether the user has been deleted. -/
def User.isDeleted (user : User) : Bool := user.deletedAt.isSome

/-- Whether the user can be deleted. -/
def User.canDelete (user : User) : Bool := !user.isDeleted && user.role != .admin

/-- Mark the user as deleted. -/
def User.delete (user : User) (now : Time) : Except UserError User :=
  if user.canDelete = false then .error .cannotDeleteAdmin
  else .ok { user with deletedAt := some now }

/-- Change the profile of the user. -/
def User.updateProfile (user : User) (fullName : Option String) (now : Time) :
    Except UserError User :=
  if user.isDeleted then .error .userDeleted else .ok { user with fullName, updatedAt := now }

/-! ## Pages of users -/

/-- A request for a page of a list. -/
structure PaginationRequest where
  /-- The number of the page, from one. -/
  page : Nat
  /-- The number of entries of a page. -/
  pageSize : Nat

/-- A request with values in range. -/
def PaginationRequest.new (page pageSize : Nat) : PaginationRequest :=
  { page := max page 1, pageSize := min (max pageSize 1) 100 }

/-- How many entries come before the page, in 32-bit arithmetic. -/
def PaginationRequest.offset (pagination : PaginationRequest) : Nat :=
  (pagination.page - 1) * pagination.pageSize % 2 ^ 32

/-- A page of a list. -/
structure PaginatedResponse (α : Type) where
  /-- The entries. -/
  items : List α
  /-- The length of the whole list. -/
  totalCount : Nat
  /-- The number of the page. -/
  page : Nat
  /-- The number of entries of a page. -/
  pageSize : Nat

end Klynt
