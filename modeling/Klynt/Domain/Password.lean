import Klynt.Domain.Text

set_option relaxedAutoImplicit false
set_option autoImplicit false

/-!
# Passwords

The rules a new password has to satisfy.

## Main definitions

* `PasswordPolicy`, `PasswordPolicy.validate` — the rules, and the first one a password violates.
-/

namespace Klynt

/-- Why a password is refused. -/
inductive PasswordPolicyError where
  /-- The password is too short. -/
  | tooShort (minLength : Nat)
  /-- The password is too long. -/
  | tooLong (maxLength : Nat)
  /-- There is no uppercase letter. -/
  | missingUppercase
  /-- There is no lowercase letter. -/
  | missingLowercase
  /-- There is no digit. -/
  | missingDigit
  /-- There is no special character. -/
  | missingSpecial
  /-- A character is forbidden. -/
  | forbiddenCharacter (char : Char)
  /-- The password is a common one. -/
  | tooCommon
  deriving DecidableEq

/-- The displayed text of a password policy error. -/
def PasswordPolicyError.text : PasswordPolicyError → String
  | tooShort n => "password is too short: must be at least " ++ toString n ++ " characters"
  | tooLong n => "password is too long: must be at most " ++ toString n ++ " characters"
  | missingUppercase => "password must contain at least one uppercase letter"
  | missingLowercase => "password must contain at least one lowercase letter"
  | missingDigit => "password must contain at least one digit"
  | missingSpecial => "password must contain at least one special character"
  | forbiddenCharacter c => "password contains forbidden character: '" ++ c.toString ++ "'"
  | tooCommon => "password is too common: easily guessable passwords are not allowed"

/-- The rules for passwords. -/
structure PasswordPolicy where
  /-- The least length in bytes. -/
  minLength : Nat := 8
  /-- The greatest length in bytes. -/
  maxLength : Nat := 128
  /-- Whether an uppercase letter is required. -/
  requireUppercase : Bool := true
  /-- Whether a lowercase letter is required. -/
  requireLowercase : Bool := true
  /-- Whether a digit is required. -/
  requireDigit : Bool := true
  /-- Whether a special character is required. -/
  requireSpecial : Bool := false
  /-- Characters that may not occur. -/
  forbiddenChars : List Char := [' ', '\t', '\n', '\r']

namespace PasswordPolicy

/-- Passwords that are easily guessed. -/
def commonPasswords : List String :=
  ["password", "password123", "password1234!", "12345678", "qwerty123", "admin123", "letmein",
   "welcome123", "monkey123"]

/-- The special characters. -/
def specialChars : List Char := "!@#$%^&*()_+-=[]\x7b\x7d|;:,.<>?/".toList

variable [Unicode]

/-- `check_not_common`. -/
def checkNotCommon (password : String) : Except PasswordPolicyError Unit :=
  if toLowercase password ∈ commonPasswords then .error .tooCommon else .ok ()

/-- Validate a password; the error is the first violation. -/
def validate (policy : PasswordPolicy) (password : String) : Except PasswordPolicyError Unit := do
  if password.utf8ByteSize < policy.minLength then .error (.tooShort policy.minLength)
  if password.utf8ByteSize > policy.maxLength then .error (.tooLong policy.maxLength)
  match password.toList.find? (· ∈ policy.forbiddenChars) with
  | some c => .error (.forbiddenCharacter c)
  | none => .ok ()
  if policy.requireUppercase && !password.toList.any Char.isUpper then .error .missingUppercase
  if policy.requireLowercase && !password.toList.any Char.isLower then .error .missingLowercase
  if policy.requireDigit && !password.toList.any Char.isDigit then .error .missingDigit
  if policy.requireSpecial && !password.toList.any (· ∈ specialChars) then .error .missingSpecial
  checkNotCommon password

end PasswordPolicy

end Klynt
