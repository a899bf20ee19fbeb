import Klynt.Domain.Password

set_option relaxedAutoImplicit false
set_option autoImplicit false

/-!
# What the password policy promises

The messages of the policy count characters, and the code counts bytes.  The rules as the messages
state them are compared with what is checked.

## Main definitions

* `PasswordPolicyBuilder` — how policies are made.
* `PasswordPolicy.violations`, `PasswordPolicy.Satisfied` — the rules that a password violates, in
  their order, and the passwords that violate none.
* `PasswordPolicy.AsPromised` — the check does what the rules say.
* `PasswordPolicy.SameLength` — bytes are within the bounds where characters are.

## Main results

* `PasswordPolicy.validate_eq` — the rules that are checked, with the lengths in bytes.
* `PasswordPolicy.violations_eq_nil_iff` — a password violates no rule iff it satisfies the policy.
* `PasswordPolicy.asPromised_iff` — the check does what the rules say iff the bounds do not tell
  bytes from characters.
* `PasswordPolicy.sameLength_of_ascii` — as they do for ASCII.
-/

namespace Klynt

/-! ## The builder -/

/-- The rules that are being put together, with the ones that are taken without a word. -/
structure PasswordPolicyBuilder where
  /-- The least length. -/
  minLength : ℕ := 8
  /-- The greatest length. -/
  maxLength : ℕ := 128
  /-- Whether an uppercase letter is required. -/
  requireUppercase : Bool := true
  /-- Whether a lowercase letter is required. -/
  requireLowercase : Bool := true
  /-- Whether a digit is required. -/
  requireDigit : Bool := true
  /-- Whether a special character is required. -/
  requireSpecial : Bool := false
  /-- Characters that may not occur. -/
  forbiddenChars : List Char := [' ', '\t', '\n', '\r']

/-- `build`. -/
def PasswordPolicyBuilder.build (builder : PasswordPolicyBuilder) : PasswordPolicy where
  minLength := builder.minLength
  maxLength := builder.maxLength
  requireUppercase := builder.requireUppercase
  requireLowercase := builder.requireLowercase
  requireDigit := builder.requireDigit
  requireSpecial := builder.requireSpecial
  forbiddenChars := builder.forbiddenChars

/-! ## The rules -/

namespace PasswordPolicy

section Rules

variable [Unicode] (policy : PasswordPolicy) (password : String)

/-- A rule that is violated, or not. -/
def rule (violated : Bool) (error : PasswordPolicyError) : List PasswordPolicyError :=
  if violated then [error] else []

/-- The violated rules after those about the length. -/
def otherViolations : List PasswordPolicyError :=
  (password.toList.filter (· ∈ policy.forbiddenChars)).map .forbiddenCharacter ++
  rule (policy.requireUppercase && !password.toList.any Char.isUpper) .missingUppercase ++
  rule (policy.requireLowercase && !password.toList.any Char.isLower) .missingLowercase ++
  rule (policy.requireDigit && !password.toList.any Char.isDigit) .missingDigit ++
  rule (policy.requireSpecial && !password.toList.any (· ∈ specialChars)) .missingSpecial ++
  rule (commonPasswords.any fun common => toLowercase password = toLowercase common) .tooCommon

/-- The violated rules, in their order: lengths are numbers of characters. -/
def violations : List PasswordPolicyError :=
  rule (password.length < policy.minLength) (.tooShort policy.minLength) ++
  rule (policy.maxLength < password.length) (.tooLong policy.maxLength) ++
  policy.otherViolations password

/-- The passwords that satisfy a policy. -/
structure Satisfied : Prop where
  /-- There are enough characters. -/
  long : policy.minLength ≤ password.length
  /-- There are not too many characters. -/
  short : password.length ≤ policy.maxLength
  /-- No character is forbidden. -/
  allowed : ∀ c ∈ password.toList, c ∉ policy.forbiddenChars
  /-- There is an uppercase letter, if one is required. -/
  uppercase : policy.requireUppercase = true → ∃ c ∈ password.toList, c.isUpper = true
  /-- There is a lowercase letter, if one is required. -/
  lowercase : policy.requireLowercase = true → ∃ c ∈ password.toList, c.isLower = true
  /-- There is a digit, if one is required. -/
  digit : policy.requireDigit = true → ∃ c ∈ password.toList, c.isDigit = true
  /-- There is a special character, if one is required. -/
  special : policy.requireSpecial = true → ∃ c ∈ password.toList, c ∈ specialChars
  /-- The password is not a common one, whatever its case. -/
  uncommon : ∀ common ∈ commonPasswords, toLowercase password ≠ toLowercase common

/-- **The check does what the rules say**: it accepts the passwords that satisfy the policy, and
refuses other ones with the first rule that they violate. -/
def AsPromised : Prop :=
  (policy.validate password = .ok () ↔ policy.Satisfied password) ∧
    ∀ error, policy.validate password = .error error ↔
      (policy.violations password).head? = some error

omit [Unicode] in
/-- Bytes are within the bounds where characters are, and too few where characters are. -/
def SameLength : Prop :=
  (password.length < policy.minLength → password.utf8ByteSize < policy.minLength) ∧
    (policy.minLength ≤ password.length → password.length ≤ policy.maxLength →
      password.utf8ByteSize ≤ policy.maxLength)

omit [Unicode] in
/-- A text has at most as many characters as bytes.

**Proof sketch.** By induction on the characters: each of them takes at least one byte. -/
lemma length_le_utf8ByteSize : password.length ≤ password.utf8ByteSize := by
  have hchars : ∀ chars : List Char, chars.length ≤ (String.ofList chars).utf8ByteSize := by
    intro chars
    induction chars with
    | nil => exact Nat.zero_le _
    | cons c chars ih =>
      have hc : 0 < c.utf8Size := c.utf8Size_pos
      rw [List.length_cons, String.ofList_cons, String.utf8ByteSize_append,
        String.utf8ByteSize_singleton]
      omega
  have h := hchars password.toList
  rwa [String.ofList_toList, String.length_toList] at h

/-! ## Refusals -/

omit [Unicode] in
/-- A password that violates the rules is refused with the first of them. -/
def refuse (violated : List PasswordPolicyError) : Except PasswordPolicyError Unit :=
  match violated.head? with
  | some error => .error error
  | none => .ok ()

omit [Unicode] in
/-- A password is accepted if it violates no rule. -/
@[simp] lemma refuse_eq_ok (violated : List PasswordPolicyError) :
    refuse violated = .ok () ↔ violated = [] := by
  cases violated <;> simp [refuse]

omit [Unicode] in
/-- The error is the first violated rule. -/
@[simp] lemma refuse_eq_error (violated : List PasswordPolicyError) (error : PasswordPolicyError) :
    refuse violated = .error error ↔ violated.head? = some error := by
  cases violated <;> simp [refuse]

omit [Unicode] in
/-- The check of a rule, and of those after it. -/
lemma refuse_rule (violated : Bool) (error : PasswordPolicyError) (others : List PasswordPolicyError) :
    refuse (rule violated error ++ others) =
      if violated = true then Except.error error >>= fun _ : PUnit => refuse others
      else refuse others := by
  cases violated <;> rfl

omit [Unicode] in
/-- The check of the characters, and of the rules after it. -/
lemma refuse_filter (chars forbidden : List Char) (others : List PasswordPolicyError) :
    refuse ((chars.filter (· ∈ forbidden)).map .forbiddenCharacter ++ others) =
      match chars.find? (· ∈ forbidden) with
      | some c => Except.error (.forbiddenCharacter c) >>= fun _ : PUnit => refuse others
      | none => Except.ok () >>= fun _ : PUnit => refuse others := by
  rw [← List.head?_filter]
  cases chars.filter (· ∈ forbidden) <;> rfl

/-- The common passwords are in lower case. -/
lemma any_common_iff :
    (commonPasswords.any fun common => toLowercase password = toLowercase common) = true ↔
      toLowercase password ∈ commonPasswords := by
  have hlower : ∀ common ∈ commonPasswords, toLowercase common = common := by
    have hall : commonPasswords.all (fun common =>
        common.toList.all fun c => c.toNat < 128 && c.toLower == c) = true := by decide
    intro common hcommon
    exact toLowercase_eq_self (List.all_eq_true.mp hall common hcommon)
  simp only [List.any_eq_true, decide_eq_true_eq]
  constructor
  · rintro ⟨common, hcommon, h⟩
    rwa [h, hlower common hcommon]
  · intro h
    exact ⟨_, h, (hlower _ h).symm⟩

/-- The check of the common passwords. -/
lemma checkNotCommon_eq :
    refuse (rule
      (commonPasswords.any fun common => toLowercase password = toLowercase common) .tooCommon) =
      checkNotCommon password := by
  rw [checkNotCommon]
  by_cases h : toLowercase password ∈ commonPasswords
  · rw [if_pos h, (any_common_iff password).mpr h]
    rfl
  · rw [if_neg h, Bool.eq_false_iff.mpr (mt (any_common_iff password).mp h)]
    rfl

/-- **What the check does**: it goes through the rules, with the lengths in bytes.

**Proof sketch.** Both sides check one rule after the other, and each step is the check of its
rule. -/
theorem validate_eq :
    policy.validate password = refuse
      (rule (password.utf8ByteSize < policy.minLength) (.tooShort policy.minLength) ++
        rule (policy.maxLength < password.utf8ByteSize) (.tooLong policy.maxLength) ++
        policy.otherViolations password) := by
  simp only [otherViolations, List.append_assoc, refuse_rule, refuse_filter, checkNotCommon_eq,
    decide_eq_true_eq]
  rfl

/-! ## The rules and the specification -/

/-- A password violates no rule exactly if it satisfies the policy. -/
theorem violations_eq_nil_iff : policy.violations password = [] ↔ policy.Satisfied password := by
  have hrule : ∀ violated error, rule violated error = [] ↔ violated = false := by
    intro violated error
    cases violated <;> simp [rule]
  simp only [violations, otherViolations, List.append_eq_nil_iff, List.map_eq_nil_iff,
    List.filter_eq_nil_iff, hrule, decide_eq_false_iff_not, decide_eq_true_eq, Nat.not_lt,
    Bool.and_eq_false_imp, Bool.not_eq_false', List.any_eq_true, List.any_eq_false]
  constructor
  · rintro ⟨⟨hlong, hshort⟩, ⟨⟨⟨⟨hallowed, hupper⟩, hlower⟩, hdigit⟩, hspecial⟩, hcommon⟩
    exact ⟨hlong, hshort, hallowed, hupper, hlower, hdigit, hspecial, hcommon⟩
  · intro h
    exact ⟨⟨h.long, h.short⟩, ⟨⟨⟨⟨h.allowed, h.uppercase⟩, h.lowercase⟩, h.digit⟩, h.special⟩,
      h.uncommon⟩

/-- The other rules say nothing about the length. -/
lemma otherViolations_head (n : ℕ) :
    (policy.otherViolations password).head? ≠ some (.tooShort n) ∧
      (policy.otherViolations password).head? ≠ some (.tooLong n) := by
  have hrule : ∀ {error error' : PasswordPolicyError} {violated : Bool},
      error ∈ rule violated error' → error = error' := by
    intro error error' violated h
    cases violated <;> simp_all [rule]
  have hmem : ∀ error ∈ policy.otherViolations password,
      error ≠ .tooShort n ∧ error ≠ .tooLong n := by
    intro error h
    simp only [otherViolations, List.mem_append, List.mem_map] at h
    obtain ((((⟨c, -, rfl⟩ | h) | h) | h) | h) | h := h
    · exact ⟨by simp, by simp⟩
    all_goals
      obtain rfl := hrule h
      exact ⟨by simp, by simp⟩
  exact ⟨fun h => (hmem _ (List.mem_of_head? h)).1 rfl,
    fun h => (hmem _ (List.mem_of_head? h)).2 rfl⟩

/-- The check does what the rules say if it finds the same first violation. -/
lemma asPromised_iff_head :
    policy.AsPromised password ↔
      (rule (password.utf8ByteSize < policy.minLength) (.tooShort policy.minLength) ++
        rule (policy.maxLength < password.utf8ByteSize) (.tooLong policy.maxLength) ++
        policy.otherViolations password).head? = (policy.violations password).head? := by
  rw [AsPromised, validate_eq, ← violations_eq_nil_iff]
  simp only [refuse_eq_ok, refuse_eq_error]
  constructor
  · rintro ⟨-, herror⟩
    exact Option.ext herror
  · intro h
    refine ⟨?_, fun error => by rw [h]⟩
    rw [← List.head?_eq_none_iff, h, List.head?_eq_none_iff]

end Rules

/-! ## When the check does what the rules say -/

/-- **The password policy and its specification**: for every policy that the builder makes and every
password, the check accepts exactly the passwords that satisfy the policy and names the first
violated rule of the others, iff bytes are within the bounds where characters are, and too few where
characters are.

**Proof sketch.** The first violations are to be the same (`asPromised_iff_head`), and the rules
after the lengths are the same and name no length.  There are at least as many bytes as characters,
so bytes are too few only where characters are, and are too many wherever characters are. -/
theorem asPromised_iff [Unicode] (builder : PasswordPolicyBuilder) (password : String) :
    builder.build.AsPromised password ↔ builder.build.SameLength password := by
  generalize builder.build = policy
  have hle := length_le_utf8ByteSize password
  have hshort := (policy.otherViolations_head password policy.minLength).1
  have hlong := (policy.otherViolations_head password policy.maxLength).2
  rw [asPromised_iff_head, violations, SameLength]
  -- the cases are those of the two lengths, in the order in which the bounds are checked
  by_cases hmin : password.length < policy.minLength
  · by_cases hmin' : password.utf8ByteSize < policy.minLength
    · simp [rule, hmin, hmin', Nat.not_le.mpr hmin]
    · by_cases hmax' : policy.maxLength < password.utf8ByteSize
      · simp [rule, hmin, hmin', hmax']
      · simpa [rule, hmin, hmin', hmax'] using hshort
  · have hmin' : ¬ password.utf8ByteSize < policy.minLength := by omega
    by_cases hmax : policy.maxLength < password.length
    · have hmax' : policy.maxLength < password.utf8ByteSize := by omega
      simp [rule, hmin, hmin', hmax, hmax', Nat.not_le.mpr hmax]
    · by_cases hmax' : policy.maxLength < password.utf8ByteSize
      · simpa [rule, hmin, hmin', hmax, hmax', Nat.not_lt.mp hmin, Nat.not_lt.mp hmax,
          Nat.not_le.mpr hmax', eq_comm] using hlong
      · simp [rule, hmin, hmin', hmax, hmax', Nat.not_lt.mp hmax']

/-- ASCII passwords have as many bytes as characters. -/
theorem sameLength_of_ascii (policy : PasswordPolicy) {password : String}
    (h : ∀ c ∈ password.toList, c.toNat < 128) : policy.SameLength password := by
  have hchars : ∀ chars : List Char, (∀ c ∈ chars, c.toNat < 128) →
      (String.ofList chars).utf8ByteSize = chars.length := by
    intro chars hascii
    induction chars with
    | nil => rfl
    | cons c chars ih =>
      have hsize : c.utf8Size = 1 := by
        rw [Char.utf8Size_eq_one_iff, UInt32.le_iff_toNat_le]
        exact Nat.le_of_lt_succ (hascii c List.mem_cons_self)
      rw [String.ofList_cons, String.utf8ByteSize_append, String.utf8ByteSize_singleton, hsize,
        ih fun d hd => hascii d (List.mem_cons_of_mem _ hd), List.length_cons, Nat.add_comm]
  have heq : password.utf8ByteSize = password.length := by
    have := hchars password.toList h
    rwa [String.ofList_toList, String.length_toList] at this
  rw [SameLength, heq]
  exact ⟨id, fun _ => id⟩

/-- Seven characters are accepted where eight are asked for. -/
theorem seven_characters_accepted :
    letI := Unicode.ascii
    ¬ (PasswordPolicyBuilder.build {}).AsPromised "Pässw0r" := by
  let := Unicode.ascii
  intro h
  have hok : (PasswordPolicyBuilder.build {}).validate "Pässw0r" = .ok () := by decide +kernel
  have hlong := (h.1.mp hok).long
  revert hlong
  decide

end PasswordPolicy

end Klynt
