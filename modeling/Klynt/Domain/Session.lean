import Klynt.Domain.Tenant
import Klynt.Lib.Keyed

set_option relaxedAutoImplicit false
set_option autoImplicit false

/-!
# Sessions

Session tokens and kinds, and the membership snapshots a session carries, which are stored as
a JSON array.

## Main definitions

* `SessionToken`, `SessionKind`, `Session`, `SessionSummary`.
* `MembershipSnapshot.encode`, `MembershipSnapshot.decode` — the stored form of snapshots.

## Main results

* `MembershipSnapshot.decode_encode` — what is stored is read back.
-/

namespace Klynt

/-- Bearer token of a session. -/
structure SessionToken where
  /-- The UUID. -/
  inner : Uuid
  deriving DecidableEq

/-- Classification of a session. -/
inductive SessionKind where
  /-- A short-lived token that authorises requests. -/
  | access
  /-- An access token with an extended lifetime. -/
  | longLived
  /-- A token that obtains new access tokens. -/
  | refresh
  deriving DecidableEq

namespace SessionKind

/-- Whether tokens of this kind authorise requests. -/
def isAccess : SessionKind → Bool
  | access | longLived => true
  | refresh => false

/-- The database representation. -/
def asStr : SessionKind → String
  | access => "access"
  | longLived => "long_lived"
  | refresh => "refresh"

/-- `TryFrom<&str> for SessionKind`. -/
def tryFrom : String → Except String SessionKind
  | "access" => .ok access
  | "long_lived" => .ok longLived
  | "refresh" => .ok refresh
  | value => .error ("unknown session kind: " ++ value)

/-- A kind is read back from its database representation. -/
@[simp] theorem tryFrom_asStr (kind : SessionKind) : tryFrom kind.asStr = .ok kind := by
  cases kind <;> rfl

end SessionKind

/-- An authenticated session. -/
structure Session where
  /-- The user. -/
  userId : UserId
  /-- When the session expires. -/
  expiresAt : Time
  /-- Classification. -/
  kind : SessionKind
  /-- What the tokens of one login share. -/
  pairId : Option Uuid
  /-- The user's memberships. -/
  tenantMemberships : List MembershipSnapshot
  deriving DecidableEq

/-- What a user is shown of a session. -/
structure SessionSummary where
  /-- Public identifier. -/
  id : Uuid
  /-- The user. -/
  userId : UserId
  /-- Classification. -/
  kind : String
  /-- Creation time. -/
  createdAt : Time
  /-- When the session expires. -/
  expiresAt : Time

/-! ## Stored snapshots -/

namespace MembershipSnapshot

/-- The serialised form of a snapshot. -/
def toJson (s : MembershipSnapshot) : Json :=
  .obj [("role", .str s.role.asStr), ("tenant_id", .str s.tenantId.render)]

/-- Deserialise a snapshot. -/
def ofJson (j : Json) : Option MembershipSnapshot :=
  match j.member? "tenant_id", j.member? "role" with
  | some (.str t), some (.str r) => do
    let tenantId ← Uuid.parse? t
    let role ← TenantRole.ofStr? r
    return { tenantId, role }
  | _, _ => none

/-- The stored form of a list of snapshots. -/
def encode (l : List MembershipSnapshot) : Json := .arr (l.map toJson)

/-- Read a stored list of snapshots. -/
def decode : Json → Option (List MembershipSnapshot)
  | .arr items => items.mapM ofJson
  | _ => none

/-- A snapshot is read back. -/
@[simp] theorem ofJson_toJson (s : MembershipSnapshot) : ofJson s.toJson = some s := by
  simp [ofJson, toJson, Json.member?, List.lookup_cons]

/-- **What is stored is read back.** -/
@[simp] theorem decode_encode (l : List MembershipSnapshot) : decode (encode l) = some l := by
  simp only [decode, encode]
  induction l with
  | nil => rfl
  | cons s l ih => simp [ih]

/-- The tenant of a stored snapshot, as a database expression reads it. -/
@[simp] theorem uuidAt_toJson (s : MembershipSnapshot) :
    s.toJson.uuidAt "tenant_id" = .ok (some s.tenantId) := by
  simp [toJson, Json.uuidAt, Json.member?, Json.uuidAt.parse, List.lookup_cons]

/-- Replacing the role of a stored snapshot. -/
@[simp] theorem setMember_toJson (s : MembershipSnapshot) (role : TenantRole) :
    s.toJson.setMember "role" (.str role.asStr) = .ok (toJson { s with role }) := by
  simp [toJson, Json.setMember]

end MembershipSnapshot

end Klynt
