import Klynt.Lib.WebUrl
import Klynt.Routing.SubdomainRouter

set_option relaxedAutoImplicit false
set_option autoImplicit false

/-!
# The way back after the login

The address of the login carries where to go after it.  The frontend looks at the text to decide
whether it leads to the platform, and then lets the browser read it.

## Main definitions

* `isAllowedRedirectUrl`, `useRedirectTarget` — the check of the text.
* `navigateExternal` — the browser follows it.
* `OnPlatform`, `Stays` — the host names of the platform, and the navigations that stay there.
* `NamesOutsider` — the texts with two slashes, in the reading of the browser only, before the host
  name of somebody else.

## Main results

* `redirect_stays_iff` — an allowed text stays on the platform iff it is no such text.

## Implementation notes

The host parser of the browser is a parameter.  The page is one that was served by `http` or
`https`.
-/

namespace Klynt.Routing

/-- The address of the page. -/
def Location.webUrl (location : Location) : WebUrl where
  scheme := location.scheme
  hostname := location.hostname
  port := location.portNumber.map UInt16.toNat

/-- `http` and `https`. -/
def isHttp (scheme : String) : Bool := scheme = "http" || scheme = "https"

/-! ## The check and the navigation -/

section Check

variable [Unicode] (R : HostReader) (env : AppEnv) (location : Location)

/-- The base domain, and what ends with it after a dot. -/
def isPlatformHost (hostname : String) : Bool :=
  let base := toLowercase (getBaseDomain env location)
  let host := toLowercase hostname
  host = base || endsWith host ("." ++ base)

/-- `isAllowedRedirectUrl`. -/
def isAllowedRedirectUrl (url : String) : Bool :=
  if startsWith url "/" then !startsWith url "//"
  else match WebUrl.parse R none url with
    | some parsed => isPlatformHost env location parsed.hostname
    | none => false

/-- `useRedirectTarget`: the parameter `from`, or what is taken without it. -/
def useRedirectTarget (source : Option String) (fallback : String) : String :=
  match source with
  | some url => if url ≠ "" ∧ isAllowedRedirectUrl R env location url then url else fallback
  | none => fallback

/-- What `navigateExternal` does. -/
inductive Navigation where
  /-- It throws. -/
  | throws
  /-- The page is replaced. -/
  | replaces (resolved : WebUrl)
  deriving DecidableEq

/-- `navigateExternal`. -/
def navigateExternal (url : String) : Navigation :=
  match WebUrl.parse R (some location.webUrl) url with
  | none => .throws
  | some resolved => if isHttp resolved.scheme then .replaces resolved else .throws

/-! ## The platform -/

/-- The host names of the platform. -/
def OnPlatform (hostname : String) : Prop := isPlatformHost env location hostname = true

instance (hostname : String) : Decidable (OnPlatform env location hostname) :=
  inferInstanceAs (Decidable (_ = _))

/-- A navigation that does not leave the platform. -/
def Stays (navigation : Navigation) : Prop :=
  ∀ resolved, navigation = .replaces resolved →
    isHttp resolved.scheme = true ∧ OnPlatform env location resolved.hostname

/-- A slash and, once tabs and line breaks are gone, another one of either kind, before an authority
with the host name of somebody else. -/
def NamesOutsider (url : String) : Prop :=
  startsWith url "/" = true ∧ ∃ d rest outside, WebUrl.clean url = '/' :: d :: rest ∧
    WebUrl.isSlash d = true ∧ WebUrl.readHttpLike R location.scheme rest = some outside ∧
    ¬ OnPlatform env location outside.hostname

end Check

/-! ## Where it leads -/

section Stay

variable [Unicode] {R : HostReader} {env : AppEnv} {location : Location} {url : String}

/-- What leads to nothing or to a place on the platform stays there. -/
lemma stays_of_parse
    (h : ∀ resolved, WebUrl.parse R (some location.webUrl) url = some resolved →
      isHttp resolved.scheme = true → OnPlatform env location resolved.hostname) :
    Stays env location (navigateExternal R location url) := by
  intro resolved hnavigation
  unfold navigateExternal at hnavigation
  split at hnavigation
  · cases hnavigation
  · rename_i u hparse
    split at hnavigation
    · rename_i hhttp
      obtain rfl := Navigation.replaces.inj hnavigation
      exact ⟨hhttp, h u hparse hhttp⟩
    · cases hnavigation

/-- A place off the platform is left for. -/
lemma not_stays_of_parse {resolved : WebUrl}
    (hparse : WebUrl.parse R (some location.webUrl) url = some resolved)
    (hhttp : isHttp resolved.scheme = true) (houtside : ¬ OnPlatform env location resolved.hostname) :
    ¬ Stays env location (navigateExternal R location url) := by
  intro hstays
  have hnavigation : navigateExternal R location url = .replaces resolved := by
    unfold navigateExternal
    rw [hparse]
    exact if_pos hhttp
  exact houtside (hstays resolved hnavigation).2

/-- An absolute address that is allowed stays on the platform. -/
lemma stays_absolute (hpage : OnPlatform env location location.hostname)
    (hslash : startsWith url "/" = false) (h : isAllowedRedirectUrl R env location url = true) :
    Stays env location (navigateExternal R location url) := by
  unfold isAllowedRedirectUrl at h
  rw [if_neg (by rw [hslash]; exact Bool.false_ne_true)] at h
  split at h
  · rename_i u hparse
    refine stays_of_parse fun resolved hresolved _ => ?_
    rcases WebUrl.parse_absolute hparse location.webUrl with hsame | hback
    · obtain rfl := Option.some.inj (hsame.symm.trans hresolved)
      exact h
    · obtain rfl := Option.some.inj (hback.symm.trans hresolved)
      exact hpage
  · cases h

omit [Unicode] in
/-- The two ways to read an address on the page that begins with a slash. -/
lemma parse_slash_cases (hslash : startsWith url "/" = true) (page : WebUrl) :
    (∃ d rest, WebUrl.clean url = '/' :: d :: rest ∧ WebUrl.isSlash d = true ∧
      WebUrl.parse R (some page) url = WebUrl.readHttpLike R page.scheme rest) ∨
    (∀ d rest, WebUrl.clean url = '/' :: d :: rest → WebUrl.isSlash d = false) ∧
      WebUrl.parse R (some page) url = some page := by
  obtain ⟨tail, rfl⟩ := startsWith_iff.mp hslash
  have hlist : ("/" ++ tail).toList = '/' :: tail.toList := by
    rw [String.toList_append]
    rfl
  obtain ⟨cs, hcs⟩ := WebUrl.clean_of_slash hlist
  rw [WebUrl.parse_slash hlist, hcs]
  cases cs with
  | nil =>
    refine .inr ⟨?_, rfl⟩
    intro d rest heq
    cases heq
  | cons d rest =>
    cases hd : WebUrl.isSlash d with
    | true =>
      refine .inl ⟨d, rest, rfl, hd, ?_⟩
      have hboth : (WebUrl.isSlash '/' && WebUrl.isSlash d) = true := by
        rw [hd]
        rfl
      exact if_pos hboth
    | false =>
      refine .inr ⟨?_, ?_⟩
      · intro d' rest' heq
        obtain ⟨rfl, -⟩ := List.cons.inj (List.cons.inj heq).2
        exact hd
      · have hboth : ¬ (WebUrl.isSlash '/' && WebUrl.isSlash d) = true := by
          rw [hd]
          exact Bool.false_ne_true
        exact if_neg hboth

end Stay

/-- **Where an allowed address leads.** On a page of the platform, the navigation to an address that
the check allows throws or stays on the platform iff the address is not one that begins with a slash
and, once the browser has dropped its tabs and line breaks, goes on with another slash or a
backslash before the host name of somebody else.

**Proof sketch.** An absolute address leads to the host that was checked, or to the page.  An
address that begins with a slash leads to the page, unless the browser sees two slashes there: the
check looks for them in the raw text. -/
theorem redirect_stays_iff [Unicode] (R : HostReader) (env : AppEnv) (location : Location)
    (hserved : isHttp location.scheme = true) (hpage : OnPlatform env location location.hostname)
    (url : String) (hallowed : isAllowedRedirectUrl R env location url = true) :
    Stays env location (navigateExternal R location url) ↔ ¬ NamesOutsider R env location url := by
  constructor
  · rintro hstays ⟨hslash, d, rest, outside, hclean, hd, hread, houtside⟩
    rcases parse_slash_cases (R := R) hslash location.webUrl with
      ⟨d', rest', hclean', -, hparse⟩ | ⟨hnone, -⟩
    · rw [hclean'] at hclean
      cases hclean
      rw [show location.webUrl.scheme = location.scheme from rfl, hread] at hparse
      refine not_stays_of_parse hparse ?_ houtside hstays
      rw [WebUrl.scheme_of_readHttpLike hread]
      exact hserved
    · exact Bool.false_ne_true ((hnone d rest hclean).symm.trans hd)
  · intro hnames
    cases hslash : startsWith url "/" with
    | false => exact stays_absolute hpage hslash hallowed
    | true =>
      refine stays_of_parse fun resolved hresolved _ => ?_
      rcases parse_slash_cases (R := R) hslash location.webUrl with
        ⟨d, rest, hclean, hd, hparse⟩ | ⟨-, hparse⟩
      · by_contra houtside
        rw [hparse] at hresolved
        exact hnames ⟨hslash, d, rest, resolved, hclean, hd, hresolved, houtside⟩
      · obtain rfl := Option.some.inj (hparse.symm.trans hresolved)
        exact hpage

namespace Scenario

/-- A browser that knows names of the characters of host names only. -/
def reader : HostReader where
  host cs := if cs.all fun c => decide (IsHostChar c) then some (String.ofList cs) else none
  other _ _ := some ""

end Scenario

/-- A path leads to the page, and backslashes after a scheme of its own to the host that was
checked. -/
theorem redirect_stays_path :
    letI := Unicode.ascii
    Stays Scenario.env Scenario.page (navigateExternal Scenario.reader Scenario.page "/courses/intro") ∧
      Stays Scenario.env Scenario.page
        (navigateExternal Scenario.reader Scenario.page "https:\\\\user@globex.lvh.me:5174") := by
  let _ := Unicode.ascii
  have hpage : OnPlatform Scenario.env Scenario.page Scenario.page.hostname := by decide +kernel
  constructor
  · refine (redirect_stays_iff Scenario.reader Scenario.env Scenario.page (by decide) hpage
      "/courses/intro" (by decide +kernel)).mpr ?_
    rintro ⟨-, d, rest, outside, hclean, hd, -⟩
    have hsecond : (WebUrl.clean "/courses/intro")[1]? = some 'c' := by decide +kernel
    rw [hclean] at hsecond
    obtain rfl := Option.some.inj hsecond
    exact absurd hd (by decide)
  · refine (redirect_stays_iff Scenario.reader Scenario.env Scenario.page (by decide) hpage
      "https:\\\\user@globex.lvh.me:5174" (by decide +kernel)).mpr ?_
    rintro ⟨hslash, -⟩
    exact absurd hslash (by decide +kernel)

/-- A backslash or a tab hides the second slash from the check: the page is left for a host that has
nothing to do with the platform. -/
theorem redirect_leaves :
    letI := Unicode.ascii
    isAllowedRedirectUrl Scenario.reader Scenario.env Scenario.page "/\\evil.com" = true ∧
      navigateExternal Scenario.reader Scenario.page
          (useRedirectTarget Scenario.reader Scenario.env Scenario.page (some "/\\evil.com") "/") =
        .replaces ⟨"http", "evil.com", none⟩ ∧
      navigateExternal Scenario.reader Scenario.page
          (useRedirectTarget Scenario.reader Scenario.env Scenario.page (some "/\t/evil.com") "/") =
        .replaces ⟨"http", "evil.com", none⟩ ∧
      OnPlatform Scenario.env Scenario.page Scenario.page.hostname ∧
      ¬ OnPlatform Scenario.env Scenario.page "evil.com" := by
  decide +kernel

end Klynt.Routing
