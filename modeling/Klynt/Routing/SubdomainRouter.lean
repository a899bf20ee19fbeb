import Klynt.Domain.Email
import Klynt.Domain.Slug
import Klynt.Routing.HostContext

set_option relaxedAutoImplicit false
set_option autoImplicit false

/-!
# The addresses of the platform

From the page at which it runs, the frontend recovers the base domain with its port, and builds the
addresses of the other parts of the platform from it.

## Main definitions

* `AppEnv`, `Location` — the configuration, and the address of the page.
* `getBaseHost` — the base domain with the port of the page.
* `buildTenantUrl`, `buildLoginUrl`, … — the addresses.
* `hostOf`, `hostnameOf` — the host of an address.

## Main results

* `getBaseHost_eq` — the base host is recovered from every page below the base domain.
* `addresses_lead_back` — every address leads to what it was built for.

## Implementation notes

The address of the login goes through the parser of the browser, of which only the host name is a
parameter: it refuses names that are no domains, and a domain stays one below `login`.  Texts are
lists of characters; all positions at which they are cut are within ASCII texts.
-/

namespace Klynt.Routing

/-! ## The page -/

/-- The configuration of the frontend. -/
structure AppEnv where
  /-- `VITE_APP_DOMAIN`. -/
  domain : Option String
  /-- `VITE_APP_PROTOCOL`. -/
  protocol : Option String
  /-- The protocol is configured without a colon. -/
  protocol_colon : ∀ p, protocol = some p → ':' ∉ p.toList

/-- `window.location`. -/
structure Location where
  /-- The scheme, without a colon. -/
  scheme : String
  /-- The host name. -/
  hostname : String
  /-- The port, if it is not the one of the scheme. -/
  portNumber : Option UInt16
  /-- Schemes have no colon. -/
  scheme_colon : ':' ∉ scheme.toList
  /-- Browsers keep host names in lower case. -/
  hostname_chars : ∀ c ∈ hostname.toList, IsHostChar c

namespace Location

variable (location : Location)

/-- `location.protocol`. -/
def protocol : String := location.scheme ++ ":"

/-- `location.port`. -/
def port : String := match location.portNumber with
  | some n => toString n.toNat
  | none => ""

/-- A port as it follows a host name. -/
def portSuffix : String := if location.port = "" then "" else ":" ++ location.port

/-- `location.host`. -/
def host : String := location.hostname ++ location.portSuffix

end Location

/-! ## Addresses -/

section Build

variable [Unicode] (env : AppEnv) (location : Location)

omit [Unicode] in
/-- `normalizePath`. -/
def normalizePath (path : String) : String := if startsWith path "/" then path else "/" ++ path

omit [Unicode] in
/-- `getBaseDomain`. -/
def getBaseDomain : String := env.domain.getD location.hostname

omit [Unicode] in
/-- `getAppProtocol`. -/
def getAppProtocol : String :=
  env.protocol.getD (String.ofList (location.protocol.toList.erase ':'))

/-- `getBaseHost`. -/
def getBaseHost : String :=
  let host := location.host
  match getHostContext location.hostname (getBaseDomain env location) with
  | .apex => if startsWith host "www." then sliceFrom host 4 else host
  | .login => sliceFrom host "login.".length
  | .admin => sliceFrom host "admin.".length
  | .tenant slug => sliceFrom host (slug.length + 1)
  | .profile username => sliceFrom host ("u." ++ username ++ ".").length
  | .reserved _ | .unknown _ =>
    let domain := getBaseDomain env location
    if location.port ≠ "" ∧ ':' ∉ domain.toList then domain ++ ":" ++ location.port else domain

/-- `buildSubdomainUrl`. -/
def buildSubdomainUrl (subdomain path : String) : String :=
  getAppProtocol env location ++ "://" ++ subdomain ++ "." ++ getBaseHost env location ++
    normalizePath path

/-- `buildProfileUrl`. -/
def buildProfileUrl (username : String) : String :=
  buildSubdomainUrl env location ("u." ++ username) "/"

/-- `buildTenantUrl`. -/
def buildTenantUrl (slug path : String) : String := buildSubdomainUrl env location slug path

/-- `buildAdminUrl`. -/
def buildAdminUrl (path : String) : String := buildSubdomainUrl env location "admin" path

/-- `buildApexUrl`. -/
def buildApexUrl (path : String) : String :=
  getAppProtocol env location ++ "://" ++ getBaseHost env location ++ normalizePath path

end Build

/-! ## The parser of the browser -/

/-- A domain is a name and no address of numbers: its last label is not a number.  A dot may stand
at its end. -/
def IsDomainName (domain : String) : Prop :=
  (domain.toList.splitOn '.').getLastD [] = [] ∨
    ∃ c ∈ (domain.toList.splitOn '.').getLastD [], c.isDigit = false

/-- The browser. -/
class Browser where
  /-- The host parser: it keeps, rewrites or refuses a host name. -/
  parseHost : String → Option String
  /-- The serializer of the parameters of a query. -/
  urlencode : String → String
  /-- A domain stays one below `login`: an address in brackets has colons. -/
  parseHost_login : ∀ domain, ':' ∉ domain.toList → IsDomainName domain →
    parseHost domain = some domain → parseHost ("login." ++ domain) = some ("login." ++ domain)

/-- A parsed address. -/
structure Url where
  /-- The scheme. -/
  scheme : String
  /-- The host name. -/
  hostname : String
  /-- The port, or nothing if it is the one of the scheme. -/
  port : String
  /-- The path. -/
  path : String
  /-- The query. -/
  query : String

/-- The port of a scheme. -/
def defaultPort (scheme : String) : Option String :=
  if scheme = "http" ∨ scheme = "ws" then some "80"
  else if scheme = "https" ∨ scheme = "wss" then some "443"
  else if scheme = "ftp" then some "21"
  else none

/-- The characters that end the host of an address. -/
def isAuthorityEnd (c : Char) : Bool := c == '/' || c == '?' || c == '#'

/-- The scheme of an address. -/
def schemeOf (url : String) : String := String.ofList (url.toList.takeWhile (· ≠ ':'))

/-- The host of an address, with its port. -/
def hostOf (url : String) : String :=
  String.ofList (((url.toList.dropWhile (· ≠ ':')).drop 3).takeWhile fun c => !isAuthorityEnd c)

/-- The host name of an address. -/
def hostnameOf (url : String) : String := String.ofList ((hostOf url).toList.takeWhile (· ≠ ':'))

/-- The port of an address. -/
def portOf (url : String) : String :=
  String.ofList (((hostOf url).toList.dropWhile (· ≠ ':')).drop 1)

/-- What follows the host of an address. -/
def pathOf (url : String) : String :=
  String.ofList (((url.toList.dropWhile (· ≠ ':')).drop 3).dropWhile fun c => !isAuthorityEnd c)

/-- `new URL`, of an address with a host and without a query. -/
def Url.parse [Browser] (text : String) : Option Url :=
  let scheme := String.ofList ((schemeOf text).toList.map Char.toLower)
  (Browser.parseHost (hostnameOf text)).map fun hostname =>
    { scheme, hostname, port := if defaultPort scheme = some (portOf text) then "" else portOf text,
      path := pathOf text, query := "" }

/-- `url.searchParams.set`, of an address without a query. -/
def Url.setParam [Browser] (url : Url) (name value : String) : Url :=
  { url with query := "?" ++ name ++ "=" ++ Browser.urlencode value }

/-- `url.toString`. -/
def Url.toText (url : Url) : String :=
  url.scheme ++ "://" ++ url.hostname ++ (if url.port = "" then "" else ":" ++ url.port) ++ url.path ++
    url.query

/-- `buildLoginUrl`: nothing, if the address is refused. -/
def buildLoginUrl [Unicode] [Browser] (env : AppEnv) (location : Location)
    (source : Option String) : Option String :=
  (Url.parse (buildSubdomainUrl env location "login" "/")).map fun url =>
    match source with
    | some text => (if text = "" then url else url.setParam "from" text).toText
    | none => url.toText

/-! ## The base host -/

section BaseHost

variable [Unicode] {env : AppEnv} {location : Location} {base subdomain : String}

omit [Unicode] in
/-- A port is a number. -/
lemma Location.port_digits : ∀ c ∈ location.port.toList, c.isDigit = true := by
  unfold Location.port
  split
  · rename_i n hn
    intro c hc
    rw [Nat.toString_eq_ofList_toDigits, String.toList_ofList] at hc
    exact Nat.isDigit_of_mem_toDigits (by decide) (by decide) hc
  · exact List.forall_mem_nil _

omit [Unicode] in
/-- What follows a host name is nothing, or a colon with a number. -/
lemma Location.portSuffix_cases :
    location.portSuffix = "" ∨ location.portSuffix = ":" ++ location.port := by
  unfold Location.portSuffix
  split
  · exact .inl rfl
  · exact .inr rfl

omit [Unicode] in
/-- A name starts with `www.` with its port only if it does so without. -/
lemma startsWith_www (hbase : startsWith base "www." = false) :
    startsWith (base ++ location.portSuffix) "www." = false := by
  rw [Bool.eq_false_iff]
  intro hstarts
  obtain ⟨rest, hrest⟩ := startsWith_iff.mp hstarts
  have hlist := congrArg String.toList hrest
  rw [String.toList_append, String.toList_append] at hlist
  rcases List.append_eq_append_iff.mp hlist with ⟨more, hwww, hsuffix⟩ | ⟨more, hlonger, -⟩
  · cases more with
    | nil =>
      have hsame : base = "www." :=
        String.toList_injective ((List.append_nil _).symm.trans hwww.symm)
      rw [startsWith_iff.mpr ⟨"", hsame.trans String.append_empty.symm⟩] at hbase
      cases hbase
    | cons c more =>
      -- the colon before the port would be in `www.`
      have hcolon : c = ':' := by
        rcases location.portSuffix_cases with hnone | hport
        · rw [hnone] at hsuffix
          cases hsuffix
        · rw [hport, String.toList_append] at hsuffix
          exact (List.cons.inj hsuffix).1.symm
      have hmem : ':' ∈ "www.".toList := by
        rw [hwww, hcolon]
        exact List.mem_append_right _ List.mem_cons_self
      exact absurd hmem (by decide)
  · have hsame : base = "www." ++ String.ofList more := String.toList_injective (by
      rw [hlonger, String.toList_append, String.toList_ofList (l := more)])
    rw [startsWith_iff.mpr ⟨_, hsame⟩] at hbase
    cases hbase

omit [Unicode] in
/-- The configured domain with the port of the page. -/
lemma domain_with_port (hcolon : ':' ∉ base.toList) :
    (if location.port ≠ "" ∧ ':' ∉ base.toList then base ++ ":" ++ location.port else base) =
      base ++ location.portSuffix := by
  unfold Location.portSuffix
  by_cases hport : location.port = ""
  · rw [if_neg fun h => h.1 hport, if_pos hport, String.append_empty]
  · rw [if_pos ⟨hport, hcolon⟩, if_neg hport, String.append_assoc]

/-- **The base host** is recovered from every page below the base domain. -/
lemma getBaseHost_eq (hbase : BaseDomain base) (hdomain : getBaseDomain env location = base)
    (hhost : location.hostname = base ∨
      ∃ subdomain, subdomain ≠ "" ∧ location.hostname = subdomain ++ "." ++ base) :
    getBaseHost env location = base ++ location.portSuffix := by
  unfold getBaseHost
  rw [hdomain]
  dsimp only
  rcases hhost with hhost | ⟨subdomain, hne, hhost⟩
  · rw [hhost, getHostContext_base hbase]
    dsimp only
    unfold Location.host
    rw [hhost, if_neg (Bool.eq_false_iff.mp (startsWith_www hbase.not_www))]
  · have hchars : ∀ c ∈ subdomain.toList, IsHostChar c := by
      intro c hc
      refine location.hostname_chars c ?_
      rw [hhost, String.toList_append, String.toList_append]
      exact List.mem_append_left _ (List.mem_append_left _ hc)
    have hlower := lower_of_hostChars hchars
    have hfull : location.host = subdomain ++ "." ++ base ++ location.portSuffix := by
      unfold Location.host
      rw [hhost]
    have hcut : ∀ start : String, location.host = start ++ (base ++ location.portSuffix) →
        sliceFrom location.host start.length = base ++ location.portSuffix := by
      intro start hstart
      rw [hstart]
      exact sliceFrom_append start _
    by_cases hwww : subdomain = "www"
    · subst hwww
      have hstart : location.host = "www." ++ (base ++ location.portSuffix) := by
        rw [hfull, ← String.append_assoc]
        rfl
      rw [hhost, getHostContext_www hbase]
      dsimp only
      rw [if_pos (startsWith_iff.mpr ⟨_, hstart⟩)]
      exact hcut "www." hstart
    · have hcontext : getHostContext location.hostname base = classify subdomain := by
        rw [hhost, getHostContext_below hbase (fun c hc => (hchars c hc).1)
          (by rw [hlower]; exact hne) (by rw [hlower]; exact hwww), hlower]
      have hcolon : ':' ∉ base.toList := fun hmem => (hbase.chars _ hmem).2.2.1 rfl
      rw [hcontext]
      rcases classify_cases subdomain with ⟨rfl, hclass⟩ | ⟨rfl, hclass⟩ | ⟨username, rfl, -, hclass⟩ |
        hclass | hclass | hclass
      · rw [hclass]
        refine hcut "login." ?_
        rw [hfull, ← String.append_assoc]
        rfl
      · rw [hclass]
        refine hcut "admin." ?_
        rw [hfull, ← String.append_assoc]
        rfl
      · rw [hclass]
        refine hcut ("u." ++ username ++ ".") ?_
        rw [hfull, ← String.append_assoc]
      · rw [hclass]
        exact domain_with_port hcolon
      · rw [hclass]
        exact domain_with_port hcolon
      · rw [hclass]
        have hlength : (subdomain ++ ".").length = subdomain.length + 1 :=
          String.length_append subdomain "."
        dsimp only
        rw [← hlength]
        refine hcut (subdomain ++ ".") ?_
        rw [hfull, ← String.append_assoc]

end BaseHost

/-! ## The host of an address -/

section Host

variable {env : AppEnv} {location : Location} {protocol host path url name : String}

/-- The texts of an address, behind its protocol. -/
lemma drop_protocol (hcolon : ':' ∉ protocol.toList) (rest : String) :
    (((protocol ++ "://" ++ rest).toList.dropWhile (· ≠ ':')).drop 3) = rest.toList := by
  have hall : ∀ c ∈ protocol.toList, decide (c ≠ ':') = true := fun c hc =>
    decide_eq_true fun heq => hcolon (heq ▸ hc)
  rw [String.toList_append, String.toList_append, List.append_assoc,
    List.dropWhile_append_of_pos hall]
  rfl

/-- The host of an address that is put together, and what follows it. -/
lemma host_of_parts (hcolon : ':' ∉ protocol.toList)
    (hhost : ∀ c ∈ host.toList, isAuthorityEnd c = false) (hpath : startsWith path "/" = true) :
    hostOf (protocol ++ "://" ++ host ++ path) = host ∧
      pathOf (protocol ++ "://" ++ host ++ path) = path := by
  obtain ⟨rest, rfl⟩ := startsWith_iff.mp hpath
  have hall : ∀ c ∈ host.toList, (!isAuthorityEnd c) = true := fun c hc => by rw [hhost c hc]; rfl
  have hdrop := drop_protocol hcolon (host ++ ("/" ++ rest))
  rw [← String.append_assoc] at hdrop
  unfold hostOf pathOf
  rw [hdrop, String.toList_append, List.takeWhile_append_of_pos hall,
    List.dropWhile_append_of_pos hall]
  constructor
  · refine String.toList_injective ?_
    rw [String.toList_ofList, String.toList_append]
    exact List.append_nil host.toList
  · refine String.toList_injective ?_
    rw [String.toList_ofList, String.toList_append]
    rfl

/-- A port as it follows a host name. -/
lemma port_chars {port : String} (hport : ∀ c ∈ port.toList, c.isDigit = true) :
    ∀ c ∈ (if port = "" then "" else ":" ++ port).toList, isAuthorityEnd c = false := by
  split
  · exact List.forall_mem_nil _
  · intro c hc
    rw [String.toList_append] at hc
    rcases List.mem_append.mp hc with hcolon | hc
    · obtain rfl := List.mem_singleton.mp hcolon
      decide
    · have hdigit := hport c hc
      unfold isAuthorityEnd
      by_contra hend
      simp only [Bool.or_eq_true, beq_iff_eq, Bool.not_eq_false] at hend
      rcases hend with (rfl | rfl) | rfl <;> exact absurd hdigit (by decide)

/-- The host name and the port of a host. -/
lemma hostname_of_host (port : String)
    (h : hostOf url = name ++ (if port = "" then "" else ":" ++ port)) (hname : ':' ∉ name.toList) :
    hostnameOf url = name ∧ portOf url = port := by
  have hall : ∀ c ∈ name.toList, decide (c ≠ ':') = true := fun c hc =>
    decide_eq_true fun heq => hname (heq ▸ hc)
  unfold hostnameOf portOf
  rw [h, String.toList_append, List.takeWhile_append_of_pos hall, List.dropWhile_append_of_pos hall]
  split
  · rename_i hport
    rw [hport]
    constructor
    · refine String.toList_injective ?_
      rw [String.toList_ofList]
      exact List.append_nil name.toList
    · rfl
  · rw [String.toList_append]
    constructor
    · refine String.toList_injective ?_
      rw [String.toList_ofList]
      exact List.append_nil name.toList
    · exact String.ofList_toList

/-- The protocol of an address has no colon. -/
lemma getAppProtocol_colon (env : AppEnv) (location : Location) :
    ':' ∉ (getAppProtocol env location).toList := by
  unfold getAppProtocol
  cases hprotocol : env.protocol with
  | none =>
    have herase : location.protocol.toList.erase ':' = location.scheme.toList := by
      unfold Location.protocol
      rw [String.toList_append, List.erase_append_right _ location.scheme_colon]
      exact List.append_nil _
    rw [Option.getD_none, herase, String.ofList_toList]
    exact location.scheme_colon
  | some p => exact env.protocol_colon p hprotocol

/-- A path begins with a slash. -/
lemma startsWith_normalizePath (path : String) : startsWith (normalizePath path) "/" = true := by
  unfold normalizePath
  split
  · assumption
  · exact startsWith_append "/" path

end Host

/-! ## Where addresses lead -/

/-- A character that does not end the host name of an address. -/
def IsNameChar (c : Char) : Prop := c ≠ ':' ∧ isAuthorityEnd c = false

/-- The letters of the names of users. -/
def isUserNameChar (c : Char) : Bool := isAsciiAlphanumeric c || c == '-' || c == '.'

/-- An address leads to a host name on the port of the page, and the host name to a context. -/
structure LeadsTo [Unicode] (location : Location) (base url name : String) (context : HostContext) :
    Prop where
  /-- The host of the address. -/
  host : hostOf url = name ++ location.portSuffix
  /-- The host name of the address. -/
  hostname : hostnameOf url = name
  /-- What it shows. -/
  context : getHostContext (hostnameOf url) base = context

section Lead

variable [Unicode] {env : AppEnv} {location : Location} {base subdomain : String}

omit [Unicode] in
/-- Host names do not end host names. -/
lemma IsHostChar.nameChar {c : Char} (h : IsHostChar c) : IsNameChar c := by
  obtain ⟨-, -, hcolon, hslash, hquery, hfragment⟩ := h
  exact ⟨hcolon, by simp [isAuthorityEnd, hslash, hquery, hfragment]⟩

omit [Unicode] in
/-- Letters of names of users are ASCII, and do not end host names. -/
lemma isUserNameChar_spec {c : Char} (h : isUserNameChar c = true) : c.toNat < 128 ∧ IsNameChar c := by
  refine ⟨?_, ?_, ?_⟩
  · have hcode : c.toNat ≤ 122 := by
      simp only [isUserNameChar, isAsciiAlphanumeric, Char.isAlphanum, Char.isAlpha, Char.isUpper,
        Char.isLower, Char.isDigit, Bool.or_eq_true, Bool.and_eq_true, decide_eq_true_eq, beq_iff_eq,
        ge_iff_le, UInt32.le_iff_toNat_le] at h
      show c.val.toNat ≤ 122
      rcases h with ((((h | h) | h) | rfl) | rfl)
      · exact h.2.trans (by decide)
      · exact h.2.trans (by decide)
      · exact h.2.trans (by decide)
      · decide
      · decide
    omega
  · rintro rfl
    exact absurd h (by decide)
  · by_contra hend
    simp only [isAuthorityEnd, Bool.or_eq_true, beq_iff_eq, Bool.not_eq_false] at hend
    rcases hend with (rfl | rfl) | rfl <;> exact absurd h (by decide)

omit [Unicode] in
/-- Ports do not end hosts. -/
lemma portSuffix_chars : ∀ c ∈ location.portSuffix.toList, isAuthorityEnd c = false :=
  port_chars location.port_digits

omit [Unicode] in
/-- A name below the base domain. -/
lemma below_chars (hbase : BaseDomain base) (hname : ∀ c ∈ subdomain.toList, IsNameChar c) :
    ∀ c ∈ (subdomain ++ "." ++ base).toList, IsNameChar c := by
  intro c hc
  rw [String.toList_append, String.toList_append] at hc
  rcases List.mem_append.mp hc with hc | hc
  · rcases List.mem_append.mp hc with hc | hc
    · exact hname c hc
    · obtain rfl := List.mem_singleton.mp hc
      exact ⟨by decide, by decide⟩
  · exact (hbase.chars c hc).nameChar

/-- The host and the path of an address of a name below the base domain. -/
lemma buildSubdomainUrl_parts (hbase : BaseDomain base)
    (hhost : getBaseHost env location = base ++ location.portSuffix)
    (hname : ∀ c ∈ subdomain.toList, IsNameChar c) (path : String) :
    hostOf (buildSubdomainUrl env location subdomain path) =
        subdomain ++ "." ++ base ++ location.portSuffix ∧
      pathOf (buildSubdomainUrl env location subdomain path) = normalizePath path := by
  have hends : ∀ c ∈ (subdomain ++ "." ++ base ++ location.portSuffix).toList,
      isAuthorityEnd c = false := by
    intro c hc
    rw [String.toList_append] at hc
    exact (List.mem_append.mp hc).elim (fun hc => (below_chars hbase hname c hc).2)
      (portSuffix_chars c)
  have hparts := host_of_parts (getAppProtocol_colon env location) hends
    (startsWith_normalizePath path)
  unfold buildSubdomainUrl
  rw [hhost]
  simpa only [String.append_assoc] using hparts

/-- **An address of a name below the base domain.** -/
lemma leadsTo_below (hbase : BaseDomain base)
    (hhost : getBaseHost env location = base ++ location.portSuffix)
    (hascii : ∀ c ∈ subdomain.toList, c.toNat < 128) (hname : ∀ c ∈ subdomain.toList, IsNameChar c)
    (hne : toLowercase subdomain ≠ "") (hwww : toLowercase subdomain ≠ "www") (path : String) :
    LeadsTo location base (buildSubdomainUrl env location subdomain path) (subdomain ++ "." ++ base)
      (classify (toLowercase subdomain)) := by
  have hurl := (buildSubdomainUrl_parts hbase hhost hname path).1
  have hhostname := (hostname_of_host location.port hurl fun hcolon =>
    (below_chars hbase hname _ hcolon).1 rfl).1
  refine ⟨hurl, hhostname, ?_⟩
  rw [hhostname]
  exact getHostContext_below hbase hascii hne hwww

/-- An address of the base domain. -/
lemma leadsTo_base (hbase : BaseDomain base)
    (hhost : getBaseHost env location = base ++ location.portSuffix) (path : String) :
    LeadsTo location base (buildApexUrl env location path) base .apex := by
  have hends : ∀ c ∈ (base ++ location.portSuffix).toList, isAuthorityEnd c = false := by
    intro c hc
    rw [String.toList_append] at hc
    exact (List.mem_append.mp hc).elim (fun hc => (hbase.chars c hc).nameChar.2) (portSuffix_chars c)
  have hurl : hostOf (buildApexUrl env location path) = base ++ location.portSuffix := by
    unfold buildApexUrl
    rw [hhost]
    exact (host_of_parts (getAppProtocol_colon env location) hends (startsWith_normalizePath path)).1
  have hhostname := (hostname_of_host location.port hurl fun hcolon =>
    (hbase.chars _ hcolon).nameChar.1 rfl).1
  refine ⟨hurl, hhostname, ?_⟩
  rw [hhostname]
  exact getHostContext_base hbase

omit [Unicode] in
/-- The parts of the text of an address. -/
lemma Url.toText_parts (url : Url) (hscheme : ':' ∉ url.scheme.toList)
    (hname : ∀ c ∈ url.hostname.toList, IsNameChar c) (hport : ∀ c ∈ url.port.toList, c.isDigit = true)
    (hpath : startsWith url.path "/" = true) :
    schemeOf url.toText = url.scheme ∧ hostnameOf url.toText = url.hostname ∧
      portOf url.toText = url.port := by
  have hends : ∀ c ∈ (url.hostname ++ (if url.port = "" then "" else ":" ++ url.port)).toList,
      isAuthorityEnd c = false := by
    intro c hc
    rw [String.toList_append] at hc
    exact (List.mem_append.mp hc).elim (fun hc => (hname c hc).2) (port_chars hport c)
  have hstart : startsWith (url.path ++ url.query) "/" = true := by
    obtain ⟨rest, hrest⟩ := startsWith_iff.mp hpath
    rw [hrest, String.append_assoc]
    exact startsWith_append "/" _
  have htext : url.toText = url.scheme ++ "://" ++
      (url.hostname ++ (if url.port = "" then "" else ":" ++ url.port)) ++ (url.path ++ url.query) := by
    unfold Url.toText
    simp only [String.append_assoc]
  have hall : ∀ c ∈ url.scheme.toList, decide (c ≠ ':') = true := fun c hc =>
    decide_eq_true fun heq => hscheme (heq ▸ hc)
  refine ⟨?_, hostname_of_host url.port ?_ fun hcolon => (hname _ hcolon).1 rfl⟩
  · refine String.toList_injective ?_
    unfold schemeOf
    rw [htext, String.toList_ofList]
    simp only [String.append_assoc]
    rw [String.toList_append, List.takeWhile_append_of_pos hall, String.toList_append]
    exact List.append_nil _
  · rw [htext]
    exact (host_of_parts hscheme hends hstart).1

omit [Unicode] in
/-- A scheme has no colon. -/
lemma schemeOf_colon (text : String) : ':' ∉ (schemeOf text).toList := by
  unfold schemeOf
  rw [String.toList_ofList]
  intro hmem
  have hne := List.mem_takeWhile_imp hmem
  simp at hne

omit [Unicode] in
/-- Lower-casing introduces no colon. -/
lemma colon_not_mem_map {l : List Char} (h : ':' ∉ l) : ':' ∉ l.map Char.toLower := by
  intro hmem
  obtain ⟨c, hc, hlower⟩ := List.mem_map.mp hmem
  by_cases hupper : c.isUpper = true
  · have halpha : c.toLower.isLower = true := by
      rw [Char.isLower_toLower_eq_isAlpha, Char.isAlpha, hupper, Bool.true_or]
    rw [hlower] at halpha
    exact absurd halpha (by decide)
  · rw [Char.toLower_eq_of_not_isUpper hupper] at hlower
    exact h (hlower ▸ hc)

omit [Unicode] in
/-- What is parsed of an address. -/
lemma Url.parse_spec [Browser] {text name port : String}
    (hhost : Browser.parseHost (hostnameOf text) = some name) (hport : portOf text = port) :
    ∃ url, Url.parse text = some url ∧ ':' ∉ url.scheme.toList ∧ url.hostname = name ∧
      url.path = pathOf text ∧
      url.port = if defaultPort url.scheme = some port then "" else port := by
  unfold Url.parse
  rw [hhost, hport]
  dsimp only [Option.map_some]
  generalize hscheme : String.ofList ((schemeOf text).toList.map Char.toLower) = scheme
  refine ⟨_, rfl, ?_, rfl, rfl, rfl⟩
  rw [← hscheme, String.toList_ofList]
  exact colon_not_mem_map (schemeOf_colon text)

/-- The address of the login. -/
lemma leadsTo_login [Browser] (hbase : BaseDomain base)
    (hkept : Browser.parseHost base = some base) (hname : IsDomainName base)
    (hhost : getBaseHost env location = base ++ location.portSuffix) (source : Option String) :
    ∃ url, buildLoginUrl env location source = some url ∧ hostnameOf url = "login" ++ "." ++ base ∧
      (portOf url = location.port ∨
        portOf url = "" ∧ defaultPort (schemeOf url) = some location.port) ∧
      getHostContext (hostnameOf url) base = .login := by
  have hlower : toLowercase "login" = "login" := toLowercase_eq_self (by decide)
  have hchars : ∀ c ∈ "login".toList, isUserNameChar c = true := List.all_eq_true.mp (by decide)
  have hlead := leadsTo_below hbase hhost (fun c hc => (isUserNameChar_spec (hchars c hc)).1)
    (fun c hc => (isUserNameChar_spec (hchars c hc)).2) (by rw [hlower]; decide)
    (by rw [hlower]; decide) "/"
  have hclass : getHostContext ("login" ++ "." ++ base) base = .login := by
    rw [← hlead.hostname, hlead.context, hlower]
    rfl
  have hnames := below_chars hbase fun c hc => (isUserNameChar_spec (hchars c hc)).2
  have hport := (hostname_of_host location.port hlead.host fun hcolon =>
    (hnames _ hcolon).1 rfl).2
  have hparse : Browser.parseHost (hostnameOf (buildSubdomainUrl env location "login" "/")) =
      some ("login" ++ "." ++ base) := by
    have hdot : ("login" ++ "." : String) = "login." := by decide
    rw [hlead.hostname, hdot]
    exact Browser.parseHost_login base hbase.no_colon hname hkept
  have hslash : startsWith (pathOf (buildSubdomainUrl env location "login" "/")) "/" = true := by
    rw [(buildSubdomainUrl_parts hbase hhost (fun c hc => (isUserNameChar_spec (hchars c hc)).2)
      "/").2]
    exact startsWith_normalizePath "/"
  obtain ⟨url, hurl, hscheme, hhostname, hpath, hurlPort⟩ := Url.parse_spec hparse hport
  rw [← hpath] at hslash
  have hends : ∀ result : Url, result.scheme = url.scheme → result.hostname = url.hostname →
      result.port = url.port → result.path = url.path →
      hostnameOf result.toText = "login" ++ "." ++ base ∧
      (portOf result.toText = location.port ∨
        portOf result.toText = "" ∧ defaultPort (schemeOf result.toText) = some location.port) ∧
      getHostContext (hostnameOf result.toText) base = .login := by
    intro result hs hh hp hpa
    obtain ⟨h₁, h₂, h₃⟩ := Url.toText_parts result (hs ▸ hscheme) (by rw [hh, hhostname]; exact hnames)
      (by
        rw [hp, hurlPort]
        split
        · exact List.forall_mem_nil _
        · exact location.port_digits) (hpa ▸ hslash)
    rw [h₁, h₂, h₃, hh, hp, hs, hhostname, hurlPort]
    refine ⟨rfl, ?_, hclass⟩
    split
    · exact .inr ⟨rfl, ‹_›⟩
    · exact .inl rfl
  unfold buildLoginUrl
  rw [hurl]
  cases source with
  | none => exact ⟨_, rfl, hends url rfl rfl rfl rfl⟩
  | some text =>
    refine ⟨_, rfl, ?_⟩
    dsimp only
    split
    · exact hends url rfl rfl rfl rfl
    · exact hends _ rfl rfl rfl rfl

end Lead

/-- **Addresses lead back.** On a page at the base domain or below it, the address that is built for
a tenant, for the administration, for the platform, for the profile of a user or for the login has
the host name of its target and the port of the page, and its host name is classified as the target.
Names of users are lower-cased on the way.

**Proof sketch.** The base host is cut from the host of the page by the length of what precedes it,
in every class of pages.  Names below the base domain are classified by themselves, and no slug is
reserved. -/
theorem addresses_lead_back [Unicode] [Browser] (laws : LowercaseLaws) (env : AppEnv)
    (location : Location) {base : String} (hbase : BaseDomain base)
    (hdomain : getBaseDomain env location = base)
    (hhost : location.hostname = base ∨
      ∃ subdomain, subdomain ≠ "" ∧ location.hostname = subdomain ++ "." ++ base) :
    (∀ raw slug path, TenantSlug.parse raw = .ok slug →
      LeadsTo location base (buildTenantUrl env location slug.text path) (slug.text ++ "." ++ base)
        (.tenant slug.text)) ∧
    (∀ path, LeadsTo location base (buildAdminUrl env location path) ("admin" ++ "." ++ base) .admin) ∧
    (∀ path, LeadsTo location base (buildApexUrl env location path) base .apex) ∧
    (∀ username, username ≠ "" → (∀ c ∈ username.toList, isUserNameChar c = true) →
      LeadsTo location base (buildProfileUrl env location username) ("u." ++ username ++ "." ++ base)
        (.profile (toLowercase username))) ∧
    (Browser.parseHost base = some base → IsDomainName base → ∀ source,
        ∃ url, buildLoginUrl env location source = some url ∧
          hostnameOf url = "login" ++ "." ++ base ∧
          (portOf url = location.port ∨
            portOf url = "" ∧ defaultPort (schemeOf url) = some location.port) ∧
          getHostContext (hostnameOf url) base = .login) := by
  have hbaseHost := getBaseHost_eq hbase hdomain hhost
  refine ⟨fun raw slug path hparse => ?_, fun path => ?_, fun path => ?_, fun username hne hchars => ?_,
    fun hkept hname source => leadsTo_login hbase hkept hname hbaseHost source⟩
  · have hslug := slug.slugText
    have hlower := TenantSlug.lower_of_parse laws hparse
    have hchars : ∀ c ∈ slug.text.toList, isUserNameChar c = true := fun c hc => by
      rw [isUserNameChar, Bool.or_eq_true]
      exact .inl (hslug.chars c hc)
    have hne : slug.text ≠ "" := by
      intro hempty
      have hlong := hslug.long
      rw [hempty] at hlong
      exact absurd hlong (by decide)
    have hwww : slug.text ≠ "www" := by
      intro heq
      exact hslug.free (heq ▸ by decide)
    have hdot : '.' ∉ slug.text.toList := fun hmem => absurd (hslug.chars _ hmem) (by decide)
    have hlead := leadsTo_below hbase hbaseHost (fun c hc => (isUserNameChar_spec (hchars c hc)).1)
      (fun c hc => (isUserNameChar_spec (hchars c hc)).2) (by rw [hlower]; exact hne)
      (by rw [hlower]; exact hwww) path
    rw [hlower, classify_tenant hdot hslug.free] at hlead
    exact hlead
  · have hlower : toLowercase "admin" = "admin" := toLowercase_eq_self (by decide)
    have hchars : ∀ c ∈ "admin".toList, isUserNameChar c = true := List.all_eq_true.mp (by decide)
    have hlead := leadsTo_below hbase hbaseHost (fun c hc => (isUserNameChar_spec (hchars c hc)).1)
      (fun c hc => (isUserNameChar_spec (hchars c hc)).2) (by rw [hlower]; decide)
      (by rw [hlower]; decide) path
    rw [hlower] at hlead
    exact hlead
  · exact leadsTo_base hbase hbaseHost path
  · have hfull : ∀ c ∈ ("u." ++ username).toList, isUserNameChar c = true := by
      intro c hc
      rw [String.toList_append] at hc
      rcases List.mem_append.mp hc with hc | hc
      · have hall : ∀ c ∈ "u.".toList, isUserNameChar c = true := List.all_eq_true.mp (by decide)
        exact hall c hc
      · exact hchars c hc
    have hascii : ∀ c ∈ ("u." ++ username).toList, c.toNat < 128 := fun c hc =>
      (isUserNameChar_spec (hfull c hc)).1
    have hlower : toLowercase ("u." ++ username) = "u." ++ toLowercase username := by
      rw [lower_append (fun c hc => hascii c (by
          rw [String.toList_append]
          exact List.mem_append_left _ hc)) fun c hc => (isUserNameChar_spec (hchars c hc)).1,
        toLowercase_eq_self (s := "u.") (by decide)]
    have hname : toLowercase username ≠ "" := by
      intro hempty
      rw [Unicode.toLowercase_ascii _ fun c hc => (isUserNameChar_spec (hchars c hc)).1] at hempty
      have hlist := congrArg String.toList hempty
      rw [String.toList_ofList] at hlist
      exact hne (String.toList_injective (List.map_eq_nil_iff.mp hlist))
    have hhead : (toLowercase ("u." ++ username)).toList.head? = some 'u' := by
      rw [hlower, String.toList_append]
      rfl
    have hlead := leadsTo_below hbase hbaseHost hascii
      (fun c hc => (isUserNameChar_spec (hfull c hc)).2)
      (fun heq => absurd (heq ▸ hhead) (by decide)) (fun heq => absurd (heq ▸ hhead) (by decide)) "/"
    rw [hlower, classify_profile hname] at hlead
    exact hlead

/-! ## Pages -/

namespace Scenario

/-- A platform at a domain that leads to the machine itself. -/
def env : AppEnv := ⟨some "lvh.me", some "http", by
  rintro p ⟨⟩
  decide⟩

/-- The page of a tenant there. -/
def page : Location where
  scheme := "http"
  hostname := "acme.lvh.me"
  portNumber := some 5174
  scheme_colon := by decide
  hostname_chars := fun c hc => of_decide_eq_true
    (List.all_eq_true.mp (by decide : ("acme.lvh.me".toList.all fun c => decide (IsHostChar c)) = true)
      c hc)

/-- A browser that refuses names of other characters. -/
@[reducible] def browser : Browser where
  parseHost s := if s.toList.all fun c => decide (IsHostChar c) then some s else none
  urlencode s := s
  parseHost_login := by
    intro domain _ _ hkept
    split at hkept
    · rename_i hall
      have hlogin : ("login." ++ domain).toList.all (fun c => decide (IsHostChar c)) = true := by
        rw [String.toList_append, List.all_append, hall, Bool.and_true]
        decide
      exact if_pos hlogin
    · cases hkept

/-- The base domain of the platform. -/
lemma baseDomain : BaseDomain "lvh.me" where
  chars := fun c hc => of_decide_eq_true
    (List.all_eq_true.mp (by decide : ("lvh.me".toList.all fun c => decide (IsHostChar c)) = true) c hc)
  not_www := by decide
  not_login := by decide
  not_admin := by decide
  not_profile := by decide

end Scenario

/-- From the page of a tenant to another one, and to the login. -/
theorem addresses_lead_back_tenant :
    letI := Unicode.ascii
    letI := Scenario.browser
    LeadsTo Scenario.page "lvh.me" (buildTenantUrl Scenario.env Scenario.page "globex" "/members")
        ("globex" ++ "." ++ "lvh.me") (.tenant "globex") ∧
      ∃ url, buildLoginUrl Scenario.env Scenario.page none = some url ∧
        getHostContext (hostnameOf url) "lvh.me" = .login := by
  let _ := Unicode.ascii
  let _ := Scenario.browser
  have hlead := addresses_lead_back lowercaseLaws_ascii Scenario.env Scenario.page Scenario.baseDomain
    rfl (.inr ⟨"acme", by decide, by decide⟩)
  obtain ⟨htenant, -, -, -, hlogin⟩ := hlead
  obtain ⟨url, hurl, -, -, hcontext⟩ := hlogin (by decide) (.inr ⟨'m', by decide, by decide⟩) none
  exact ⟨htenant "Globex" ⟨"globex", by decide⟩ "/members" (by rfl), url, hurl, hcontext⟩

/-- The name of a user in upper case is not the name that the page of the profile shows. -/
theorem profile_lower_cased :
    letI := Unicode.ascii
    (∀ c ∈ "Bob".toList, isUserNameChar c = true) ∧
      getHostContext (hostnameOf (buildProfileUrl Scenario.env Scenario.page "Bob")) "lvh.me" ≠
        .profile "Bob" := by
  refine ⟨List.all_eq_true.mp (by decide), ?_⟩
  have hshown : @getHostContext Unicode.ascii (hostnameOf (@buildProfileUrl Unicode.ascii Scenario.env
      Scenario.page "Bob")) "lvh.me" = .profile "bob" := by
    decide +kernel
  rw [hshown]
  decide

end Klynt.Routing
