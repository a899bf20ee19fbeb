import Klynt.Domain.Text

set_option relaxedAutoImplicit false
set_option autoImplicit false

/-!
# Host names of the platform

The frontend decides by the host name of the page what it shows: the part of the name below the base
domain is a fixed name, the slug of a tenant, or the name of a user.

## Main definitions

* `HostContext`, `getHostContext` — the classification of host names.
* `classify`, `heuristic` — of a name below the base domain, and of any other name.
* `IsHostChar` — the characters of host names.

## Main results

* `getHostContext_base`, `getHostContext_below` — the base domain, and the names below it.
* `classify_cases`, `classify_profile`, `classify_tenant` — the names of each kind.
-/

namespace Klynt.Routing

/-! ## Texts -/

/-- `endsWith`. -/
def endsWith (s t : String) : Bool := t.toList.isSuffixOf s.toList

/-- `startsWith`. -/
def startsWith (s t : String) : Bool := t.toList.isPrefixOf s.toList

/-- `slice` from a position on. -/
def sliceFrom (s : String) (n : ℕ) : String := String.ofList (s.toList.drop n)

/-- `slice` up to a position. -/
def sliceTo (s : String) (n : ℕ) : String := String.ofList (s.toList.take n)

/-- A text ends with what is appended to it. -/
lemma endsWith_append (s t : String) : endsWith (s ++ t) t = true := by
  unfold endsWith
  rw [String.toList_append]
  exact List.isSuffixOf_iff_suffix.mpr (List.suffix_append _ _)

/-- A text starts with what it is appended to. -/
lemma startsWith_append (s t : String) : startsWith (s ++ t) s = true := by
  unfold startsWith
  rw [String.toList_append]
  exact List.isPrefixOf_iff_prefix.mpr (List.prefix_append _ _)

/-- A text that starts with another one. -/
lemma startsWith_iff {s t : String} : startsWith s t = true ↔ ∃ rest, s = t ++ rest := by
  unfold startsWith
  rw [List.isPrefixOf_iff_prefix]
  constructor
  · rintro ⟨rest, hrest⟩
    refine ⟨String.ofList rest, String.toList_injective ?_⟩
    rw [String.toList_append, String.toList_ofList, hrest]
  · rintro ⟨rest, rfl⟩
    rw [String.toList_append]
    exact List.prefix_append _ _

/-- What is left after the beginning of a text. -/
lemma sliceFrom_append (s t : String) : sliceFrom (s ++ t) s.length = t := by
  unfold sliceFrom
  rw [String.toList_append, ← String.length_toList, List.drop_left, String.ofList_toList]

/-- The beginning of a text. -/
lemma sliceTo_append (s t : String) : sliceTo (s ++ t) s.length = s := by
  unfold sliceTo
  rw [String.toList_append, ← String.length_toList, List.take_left, String.ofList_toList]

/-! ## The classification -/

/-- `RESERVED_SUBDOMAINS`. -/
def reservedSubdomains : List String :=
  ["www", "login", "admin", "u", "api", "app", "mail", "ftp", "cdn", "static"]

/-- What a host name shows. -/
inductive HostContext where
  /-- The platform. -/
  | apex
  /-- The login. -/
  | login
  /-- The administration. -/
  | admin
  /-- A tenant. -/
  | tenant (slug : String)
  /-- The profile of a user. -/
  | profile (username : String)
  /-- A reserved name. -/
  | reserved (subdomain : String)
  /-- Any other name. -/
  | unknown (subdomain : String)
  deriving DecidableEq

/-- The classification of a name below the base domain. -/
def classify (subdomain : String) : HostContext :=
  if subdomain = "login" then .login
  else if subdomain = "admin" then .admin
  else if startsWith subdomain "u." then
    let username := sliceFrom subdomain 2
    if username ≠ "" then .profile username else .unknown subdomain
  else if '.' ∈ subdomain.toList then .unknown subdomain
  else if subdomain ∈ reservedSubdomains then .reserved subdomain
  else .tenant subdomain

/-- The match of `/^u\.([^.]+)\./`. -/
def profileMatch (host : String) : Option String :=
  if startsWith host "u." then
    let rest := host.toList.drop 2
    let username := rest.takeWhile (· ≠ '.')
    if username ≠ [] ∧ (rest.dropWhile (· ≠ '.')).head? = some '.' then some (String.ofList username)
    else none
  else none

/-- The classification of any other name. -/
def heuristic (host : String) : HostContext :=
  if startsWith host "login." then .login
  else if startsWith host "admin." then .admin
  else match profileMatch host with
    | some username => .profile username
    | none => .apex

variable [Unicode]

/-- `getHostContext`. -/
def getHostContext (hostname baseDomain : String) : HostContext :=
  let host := toLowercase hostname
  let base := toLowercase baseDomain
  let subdomain :=
    if host = base then ""
    else if endsWith host ("." ++ base) then sliceTo host (host.length - (base.length + 1))
    else ""
  if subdomain ≠ "" ∧ subdomain ≠ "www" then classify subdomain else heuristic host

/-! ## Host names -/

/-- A character of a host name: in lower case, and no delimiter. -/
def IsHostChar (c : Char) : Prop :=
  c.toNat < 128 ∧ c.toLower = c ∧ c ≠ ':' ∧ c ≠ '/' ∧ c ≠ '?' ∧ c ≠ '#'

instance : DecidablePred IsHostChar := fun c => by
  unfold IsHostChar
  infer_instance

/-- A host name is in lower case. -/
lemma lower_of_hostChars {s : String} (h : ∀ c ∈ s.toList, IsHostChar c) : toLowercase s = s := by
  refine toLowercase_eq_self (List.all_eq_true.mpr fun c hc => ?_)
  obtain ⟨hascii, hlower, -⟩ := h c hc
  simp [hascii, hlower]

/-- A domain that the fallback takes for no other. -/
structure BaseDomain (base : String) : Prop where
  /-- Its characters. -/
  chars : ∀ c ∈ base.toList, IsHostChar c
  /-- It does not start with `www.`. -/
  not_www : startsWith base "www." = false
  /-- It does not start with `login.`. -/
  not_login : startsWith base "login." = false
  /-- It does not start with `admin.`. -/
  not_admin : startsWith base "admin." = false
  /-- It does not start with `u.`. -/
  not_profile : startsWith base "u." = false

variable {base subdomain username : String}

omit [Unicode] in
/-- A base domain has no port. -/
lemma BaseDomain.no_colon (hbase : BaseDomain base) : ':' ∉ base.toList := fun hcolon =>
  (hbase.chars _ hcolon).2.2.1 rfl

/-- The base domain shows the platform. -/
lemma getHostContext_base (hbase : BaseDomain base) : getHostContext base base = .apex := by
  unfold getHostContext heuristic profileMatch
  rw [lower_of_hostChars hbase.chars]
  simp [hbase.not_login, hbase.not_admin, hbase.not_profile]

/-- ASCII texts are lower-cased one by one. -/
lemma lower_append {s t : String} (hs : ∀ c ∈ s.toList, c.toNat < 128)
    (ht : ∀ c ∈ t.toList, c.toNat < 128) : toLowercase (s ++ t) = toLowercase s ++ toLowercase t := by
  have hboth : ∀ c ∈ (s ++ t).toList, c.toNat < 128 := by
    intro c hc
    rw [String.toList_append] at hc
    exact (List.mem_append.mp hc).elim (hs c) (ht c)
  rw [Unicode.toLowercase_ascii _ hboth, Unicode.toLowercase_ascii _ hs, Unicode.toLowercase_ascii _ ht,
    String.toList_append, List.map_append, String.ofList_append]

/-- The lower-case form of a name below the base domain. -/
lemma lower_below (hbase : BaseDomain base) (hascii : ∀ c ∈ subdomain.toList, c.toNat < 128) :
    toLowercase (subdomain ++ "." ++ base) = toLowercase subdomain ++ "." ++ base := by
  have hdot : ∀ c ∈ ".".toList, c.toNat < 128 := by simp
  have hleft : ∀ c ∈ (subdomain ++ ".").toList, c.toNat < 128 := by
    intro c hc
    rw [String.toList_append] at hc
    exact (List.mem_append.mp hc).elim (hascii c) (hdot c)
  rw [lower_append hleft fun c hc => (hbase.chars c hc).1, lower_append hascii hdot,
    lower_of_hostChars hbase.chars, toLowercase_eq_self (s := ".") (by decide)]

/-- What is cut from a name below the base domain. -/
lemma getHostContext_eq (hbase : BaseDomain base) (hascii : ∀ c ∈ subdomain.toList, c.toNat < 128) :
    getHostContext (subdomain ++ "." ++ base) base =
      if toLowercase subdomain ≠ "" ∧ toLowercase subdomain ≠ "www" then
        classify (toLowercase subdomain)
      else heuristic (toLowercase subdomain ++ "." ++ base) := by
  unfold getHostContext
  rw [lower_below hbase hascii, lower_of_hostChars hbase.chars]
  generalize toLowercase subdomain = lower
  have hlength : (lower ++ "." ++ base).length = lower.length + 1 + base.length := by
    rw [String.length_append, String.length_append]
    rfl
  have hne : lower ++ "." ++ base ≠ base := by
    intro heq
    have hsame := congrArg String.length heq
    omega
  have hends : endsWith (lower ++ "." ++ base) ("." ++ base) = true := by
    rw [String.append_assoc]
    exact endsWith_append lower ("." ++ base)
  have hcut : sliceTo (lower ++ "." ++ base) ((lower ++ "." ++ base).length - (base.length + 1)) =
      lower := by
    rw [hlength, show lower.length + 1 + base.length - (base.length + 1) = lower.length by omega,
      String.append_assoc]
    exact sliceTo_append lower ("." ++ base)
  dsimp only
  rw [if_neg hne, if_pos hends, hcut]

/-- `www` shows the platform. -/
lemma getHostContext_www (hbase : BaseDomain base) :
    getHostContext ("www" ++ "." ++ base) base = .apex := by
  have hlower : toLowercase "www" = "www" := toLowercase_eq_self (by decide)
  rw [getHostContext_eq hbase (by simp), hlower, if_neg (by decide)]
  have hstart : ∀ start : String, start.toList.head? ≠ some 'w' → start ≠ "" →
      startsWith ("www" ++ "." ++ base) start = false := by
    intro start hhead hne
    rw [Bool.eq_false_iff]
    intro hstarts
    obtain ⟨rest, hrest⟩ := startsWith_iff.mp hstarts
    have hlist := congrArg (List.head? ∘ String.toList) hrest
    simp only [Function.comp_apply, String.toList_append, List.head?_append] at hlist
    cases hs : start.toList with
    | nil => exact hne (String.toList_injective hs)
    | cons c cs =>
      rw [hs] at hlist hhead
      exact hhead hlist.symm
  unfold heuristic profileMatch
  rw [hstart "login." (by decide) (by decide), hstart "admin." (by decide) (by decide),
    hstart "u." (by decide) (by decide)]
  rfl

/-- **A name below the base domain** is classified by itself. -/
lemma getHostContext_below (hbase : BaseDomain base) (hascii : ∀ c ∈ subdomain.toList, c.toNat < 128)
    (hne : toLowercase subdomain ≠ "") (hwww : toLowercase subdomain ≠ "www") :
    getHostContext (subdomain ++ "." ++ base) base = classify (toLowercase subdomain) := by
  rw [getHostContext_eq hbase hascii, if_pos ⟨hne, hwww⟩]

/-! ## Names below the base domain -/

omit [Unicode]

/-- The kinds of names below the base domain. -/
lemma classify_cases (subdomain : String) :
    (subdomain = "login" ∧ classify subdomain = .login) ∨
    (subdomain = "admin" ∧ classify subdomain = .admin) ∨
    (∃ username, subdomain = "u." ++ username ∧ username ≠ "" ∧
      classify subdomain = .profile username) ∨
    classify subdomain = .unknown subdomain ∨ classify subdomain = .reserved subdomain ∨
    classify subdomain = .tenant subdomain := by
  unfold classify
  split
  · exact .inl ⟨‹_›, rfl⟩
  · split
    · exact .inr (.inl ⟨‹_›, rfl⟩)
    · split
      · rename_i hstarts
        obtain ⟨rest, rfl⟩ := startsWith_iff.mp hstarts
        have hslice : sliceFrom ("u." ++ rest) 2 = rest := sliceFrom_append "u." rest
        dsimp only
        rw [hslice]
        split
        · exact .inr (.inr (.inl ⟨rest, rfl, ‹_›, rfl⟩))
        · exact .inr (.inr (.inr (.inl rfl)))
      · split
        · exact .inr (.inr (.inr (.inl rfl)))
        · split
          · exact .inr (.inr (.inr (.inr (.inl rfl))))
          · exact .inr (.inr (.inr (.inr (.inr rfl))))

/-- Profiles are below `u`. -/
lemma classify_profile (hne : username ≠ "") : classify ("u." ++ username) = .profile username := by
  have hhead : ∀ text : String, "u." ++ username = text → text.toList.head? = some 'u' := by
    rintro text rfl
    rw [String.toList_append]
    rfl
  have hslice : sliceFrom ("u." ++ username) 2 = username := sliceFrom_append "u." username
  unfold classify
  rw [if_neg fun heq => absurd (hhead "login" heq) (by decide),
    if_neg fun heq => absurd (hhead "admin" heq) (by decide), if_pos (startsWith_append _ _)]
  dsimp only
  rw [hslice, if_pos hne]

/-- Names without dots that are not reserved are slugs of tenants. -/
lemma classify_tenant (hdot : '.' ∉ subdomain.toList) (hfree : subdomain ∉ reservedSubdomains) :
    classify subdomain = .tenant subdomain := by
  have hu : ¬ startsWith subdomain "u." = true := by
    intro hstarts
    obtain ⟨rest, rfl⟩ := startsWith_iff.mp hstarts
    refine hdot ?_
    rw [String.toList_append]
    exact List.mem_append_left _ (by decide)
  have hlogin : subdomain ≠ "login" := by
    rintro rfl
    exact hfree (by decide)
  have hadmin : subdomain ≠ "admin" := by
    rintro rfl
    exact hfree (by decide)
  unfold classify
  rw [if_neg hlogin, if_neg hadmin, if_neg hu, if_neg hdot, if_neg hfree]

end Klynt.Routing
