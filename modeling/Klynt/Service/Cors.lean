import Klynt.Lib.Delimited
import Klynt.Routing.HostContext
import Klynt.Service.ClientIp

set_option relaxedAutoImplicit false
set_option autoImplicit false

/-!
# Origins of other sites

The gateway lets pages of some origins read its answers with credentials.  The origins are
configured as patterns, which may begin with a wildcard, and an origin is compared with them as a
text.

## Main definitions

* `ApiConfig`, `ApiConfig.validated` — the configured patterns, and what is checked of them.
* `matchesWildcardOrigin`, `corsLayer` — the comparison, and the layer that uses it.
* `Origin`, `OriginPattern` — serialised origins and patterns in their parts.
* `OriginPattern.Matches` — an origin matches a pattern label by label.

## Main results

* `matchesWildcardOrigin_iff` — the comparison of texts is the one of labels.
* `corsLayer_allows_iff` — the layer allows the origins that match a pattern.
-/

namespace Klynt

open Routing

/-! ## The configuration -/

/-- What is wrong with a configuration. -/
inductive ConfigError where
  /-- The host. -/
  | invalidHost (message : String)
  /-- The port. -/
  | invalidPort (message : String)
  /-- An origin. -/
  | invalidOrigin (message : String)
  /-- A trusted proxy. -/
  | invalidTrustedProxy (message : String)
  deriving DecidableEq

/-- The configuration of the gateway. -/
structure ApiConfig where
  /-- The host. -/
  host : String := "127.0.0.1"
  /-- The port. -/
  port : UInt16 := 3001
  /-- The patterns. -/
  allowedOrigins : List String := ["http://localhost:5174"]
  /-- The trusted proxies. -/
  trustedProxies : List String := []

/-- The texts of networks. -/
class IpNetText (Net : Type) where
  /-- `IpNet::from_str`. -/
  parse : String → Option Net
  /-- `IpNet::from`: the network of one address. -/
  ofIp : IpAddr → Net

section Validation

variable {Net : Type} [IpNetText Net]

/-- `parse_trusted_proxies`. -/
def parseTrustedProxies (proxies : List String) : Except ConfigError (List Net) :=
  proxies.mapM fun entry =>
    match IpNetText.parse entry with
    | some net => .ok net
    | none =>
      match IpAddr.parse entry with
      | some ip => .ok (IpNetText.ofIp ip)
      | none => .error (.invalidTrustedProxy ("'" ++ entry ++ "' is not a valid IP or CIDR"))

/-- The check of a pattern. -/
def checkOrigin (origin : String) : Except ConfigError Unit :=
  if !startsWith origin "http://" && !startsWith origin "https://" then
    .error (.invalidOrigin ("origin '" ++ origin ++ "' must start with http:// or https://"))
  else .ok ()

variable (Net) in
/-- `validated`. -/
def ApiConfig.validated (config : ApiConfig) : Except ConfigError Unit := do
  if config.host.isEmpty then .error (.invalidHost "host cannot be empty")
  if config.port < 1 then
    .error (.invalidPort ("port " ++ toString config.port ++ " is below minimum 1"))
  config.allowedOrigins.forM checkOrigin
  let _ ← (parseTrustedProxies config.trustedProxies : Except ConfigError (List Net))
  return ()

end Validation

/-! ## The comparison -/

/-- `str::strip_prefix`. -/
def strStripPrefix (s t : String) : Option String :=
  if startsWith s t then some (sliceFrom s t.length) else none

/-- `str::strip_suffix`. -/
def strStripSuffix (s t : String) : Option String :=
  if endsWith s t then some (sliceTo s (s.length - t.length)) else none

/-- `split_scheme`. -/
def splitScheme (value : String) : Option String × String :=
  match strStripPrefix value "http://" with
  | some rest => (some "http", rest)
  | none =>
    match strStripPrefix value "https://" with
    | some rest => (some "https", rest)
    | none => (none, value)

/-- The comparison of what follows the schemes. -/
def matchesWildcardHost (originHost patternHost : String) : Bool :=
  match strStripPrefix patternHost "*." with
  | some suffix => (strStripSuffix originHost suffix).any (endsWith · ".")
  | none => originHost = patternHost

/-- `matches_wildcard_origin`. -/
def matchesWildcardOrigin (origin pattern : String) : Bool :=
  let (originScheme, originHost) := splitScheme origin
  let (patternScheme, patternHost) := splitScheme pattern
  match patternScheme with
  | some scheme =>
    if originScheme ≠ some scheme then false else matchesWildcardHost originHost patternHost
  | none => matchesWildcardHost originHost patternHost

/-- Which origins a layer allows. -/
inductive AllowOrigin where
  /-- All of them. -/
  | any
  /-- Those of which a predicate holds. -/
  | predicate (allows : HeaderValue → Bool)

/-- What is set of a layer. -/
structure CorsLayer where
  /-- The allowed methods. -/
  allowMethods : List String
  /-- The allowed headers. -/
  allowHeaders : List String
  /-- The allowed origins. -/
  allowOrigin : AllowOrigin
  /-- Whether credentials are allowed. -/
  allowCredentials : Bool := false

/-- `cors_layer`. -/
def corsLayer (allowedOrigins : List String) : CorsLayer :=
  let methods := ["GET", "POST", "PUT", "PATCH", "DELETE", "OPTIONS"]
  let headers := ["authorization", "content-type", "accept", "origin"]
  if allowedOrigins.isEmpty then
    { allowMethods := methods, allowHeaders := headers, allowOrigin := .any }
  else
    { allowMethods := methods, allowHeaders := headers
      allowOrigin := .predicate fun origin =>
        allowedOrigins.any (matchesWildcardOrigin (origin.toStr.getD ""))
      allowCredentials := true }

/-! ## Origins and patterns in their parts -/

/-- The text of a port, with its colon. -/
def portText : Option (List Char) → List Char
  | some digits => ':' :: digits
  | none => []

/-- A serialised origin. -/
structure Origin where
  /-- The scheme. -/
  scheme : List Char
  /-- The labels of the host. -/
  labels : List (List Char)
  /-- The port, if it is not the usual one. -/
  port : Option (List Char)
  /-- A scheme has no colon. -/
  scheme_colon : ':' ∉ scheme
  /-- There is a label. -/
  labels_ne_nil : labels ≠ []
  /-- Labels are not empty and contain no delimiter. -/
  label : ∀ l ∈ labels, l ≠ [] ∧ '.' ∉ l ∧ ':' ∉ l
  /-- Ports are numbers. -/
  digits : ∀ port' ∈ port, ∀ c ∈ port', c.isDigit = true

/-- A pattern of origins. -/
structure OriginPattern where
  /-- The scheme. -/
  scheme : List Char
  /-- Whether the pattern has a wildcard. -/
  wildcard : Bool
  /-- The labels of the host, or of its end. -/
  suffix : List (List Char)
  /-- The port. -/
  port : Option (List Char)
  /-- A scheme has no colon. -/
  scheme_colon : ':' ∉ scheme
  /-- There is a label. -/
  suffix_ne_nil : suffix ≠ []
  /-- Labels contain no delimiter. -/
  label : ∀ l ∈ suffix, '.' ∉ l ∧ ':' ∉ l
  /-- Ports are numbers. -/
  digits : ∀ port' ∈ port, ∀ c ∈ port', c.isDigit = true
  /-- Without a wildcard the host does not begin like one. -/
  plain : wildcard = false → ¬ ['*', '.'] <+: List.intercalate ['.'] suffix ++ portText port

/-- The host and the port of an origin. -/
def Origin.hostPort (origin : Origin) : List Char :=
  List.intercalate ['.'] origin.labels ++ portText origin.port

/-- The text of an origin. -/
def Origin.text (origin : Origin) : String :=
  String.ofList (origin.scheme ++ [':', '/', '/'] ++ origin.hostPort)

namespace OriginPattern

variable (pattern : OriginPattern)

/-- The host and the port of a pattern, without the wildcard. -/
def suffixPort : List Char := List.intercalate ['.'] pattern.suffix ++ portText pattern.port

/-- The wildcard of a pattern. -/
def star : List Char := if pattern.wildcard then ['*', '.'] else []

/-- The text of a pattern. -/
def text : String :=
  String.ofList (pattern.scheme ++ [':', '/', '/'] ++ (pattern.star ++ pattern.suffixPort))

/-- **An origin matches a pattern**: the schemes are equal, and hosts and ports are, or, if the
pattern has a wildcard, the host has at least one more label in front and the port is the same. -/
def Matches (origin : Origin) : Prop :=
  origin.scheme = pattern.scheme ∧
    ((pattern.wildcard = false ∧ origin.hostPort = pattern.suffixPort) ∨
      (pattern.wildcard = true ∧ (∃ labels ≠ [], origin.labels = labels ++ pattern.suffix) ∧
        origin.port = pattern.port))

end OriginPattern

/-! ## Hosts and ports -/

/-- **The end after a dot.**  A host and a port end with a dot, a suffix and a port only if the
ports are the same and the host ends so. -/
lemma cut_suffix {α : Type} {c d : α} {a p q x y : List α} (hcolon : c ∉ a)
    (hp : ∀ e ∈ p.head?, e = c) (hdot : d ∉ p) (hq : ∀ e ∈ q.head?, e = c) (hy : c ∉ y)
    (hcd : c ≠ d) (h : a ++ p = x ++ d :: (y ++ q)) :
    a = x ++ d :: y ∧ p = q := by
  -- the delimiter of the port is not in front of the dot, as there is no dot in a port
  have hx : c ∉ x := by
    intro hmem
    obtain ⟨x₁, x₂, rfl, hx₁⟩ := List.eq_append_cons_of_mem hmem
    have hcut : a ++ p = x₁ ++ c :: (x₂ ++ d :: (y ++ q)) := by simpa using h
    obtain ⟨-, rfl⟩ := cut_unique hcolon hx₁ hp (by simp) hcut
    simp at hdot
  refine cut_unique hcolon ?_ hp hq (by simpa using h)
  simp [hx, hy, hcd]

/-- A port begins with a colon. -/
lemma head_portText (port : Option (List Char)) : ∀ e ∈ (portText port).head?, e = ':' := by
  cases port <;> simp [portText]

/-- There is no dot in a port. -/
lemma dot_not_mem_portText {port : Option (List Char)}
    (h : ∀ port' ∈ port, ∀ c ∈ port', c.isDigit = true) : '.' ∉ portText port := by
  cases port with
  | none => simp [portText]
  | some digits =>
    intro hmem
    obtain heq | hmem := List.mem_cons.mp hmem
    · exact absurd heq (by decide)
    · exact absurd (h digits rfl '.' hmem) (by decide)

/-- Ports are told by their texts. -/
lemma portText_inj {port port' : Option (List Char)} (h : portText port = portText port') :
    port = port' := by
  cases port <;> cases port' <;> simp_all [portText]

/-- There is no colon in a host. -/
lemma colon_not_mem_intercalate {labels : List (List Char)} (h : ∀ l ∈ labels, ':' ∉ l) :
    ':' ∉ List.intercalate ['.'] labels := by
  induction labels with
  | nil => simp
  | cons l labels ih =>
    have hl : ':' ∉ l := h l List.mem_cons_self
    have hlabels := ih fun m hm => h m (List.mem_cons_of_mem _ hm)
    cases labels with
    | nil => simpa using hl
    | cons m labels => simp_all

/-- Labels one after the other. -/
lemma intercalate_append {labels suffix : List (List Char)} (h : labels ≠ []) (h' : suffix ≠ []) :
    List.intercalate ['.'] (labels ++ suffix) =
      List.intercalate ['.'] labels ++ '.' :: List.intercalate ['.'] suffix := by
  induction labels with
  | nil => exact absurd rfl h
  | cons l labels ih =>
    cases labels with
    | nil => simp [List.intercalate_cons_of_ne_nil h']
    | cons m labels =>
      have hrest := ih (List.cons_ne_nil _ _)
      rw [List.cons_append, List.cons_append, List.intercalate_cons_cons, ← List.cons_append, hrest,
        List.intercalate_cons_cons]
      simp

/-- **A host ends label by label.** -/
lemma intercalate_eq_iff {labels suffix : List (List Char)} (hne : labels ≠ [])
    (hdot : ∀ l ∈ labels, '.' ∉ l) (hne' : suffix ≠ []) (hdot' : ∀ l ∈ suffix, '.' ∉ l) :
    (∃ x, List.intercalate ['.'] labels = x ++ '.' :: List.intercalate ['.'] suffix) ↔
      ∃ more ≠ [], labels = more ++ suffix := by
  constructor
  · rintro ⟨x, hx⟩
    refine ⟨x.splitOn '.', List.splitOn_ne_nil _ _, ?_⟩
    rw [← List.splitOn_intercalate '.' hdot hne, hx, List.splitOn_append_cons_self,
      List.splitOn_intercalate '.' hdot' hne']
  · rintro ⟨more, hmore, rfl⟩
    exact ⟨_, intercalate_append hmore hne'⟩

/-! ## The comparison on parts -/

/-- A prefix is stripped off a text that begins with it. -/
lemma strStripPrefix_ofList (text start : List Char) :
    strStripPrefix (String.ofList text) (String.ofList start) =
      if start <+: text then some (String.ofList (text.drop start.length)) else none := by
  unfold strStripPrefix startsWith sliceFrom
  simp only [String.toList_ofList, List.isPrefixOf_iff_prefix, String.length_ofList]

/-- A suffix is stripped off a text that ends with it, and what is left ends with a dot. -/
lemma strStripSuffix_dot (text suffix : List Char) :
    (strStripSuffix (String.ofList text) (String.ofList suffix)).any (endsWith · ".") = true ↔
      ∃ x, text = x ++ '.' :: suffix := by
  unfold strStripSuffix endsWith sliceTo
  have hdot : ".".toList = ['.'] := by decide
  simp only [String.toList_ofList, List.isSuffixOf_iff_suffix, String.length_ofList, hdot]
  constructor
  · intro h
    split at h
    · rename_i hsuffix
      obtain ⟨start, rfl⟩ := hsuffix
      rw [Option.any_some, String.toList_ofList, List.isSuffixOf_iff_suffix, List.length_append,
        Nat.add_sub_cancel, List.take_left] at h
      obtain ⟨x, rfl⟩ := h
      exact ⟨x, List.append_assoc ..⟩
    · cases h
  · rintro ⟨x, rfl⟩
    rw [if_pos ⟨x ++ ['.'], List.append_assoc ..⟩, Option.any_some, String.toList_ofList,
      List.isSuffixOf_iff_suffix, List.length_append, List.length_cons]
    have htake : (x ++ '.' :: suffix).take (x.length + (suffix.length + 1) - suffix.length) =
        x ++ ['.'] := by
      rw [show x.length + (suffix.length + 1) - suffix.length = x.length + 1 by omega]
      rw [List.take_append, List.take_of_length_le (Nat.le_succ _), Nat.add_sub_cancel_left]
      rfl
    rw [htake]
    exact List.suffix_append _ _

/-- A text with a scheme begins with another one if the schemes are equal. -/
lemma scheme_prefix_iff {scheme scheme' rest : List Char} (h : ':' ∉ scheme) (h' : ':' ∉ scheme') :
    scheme' ++ [':', '/', '/'] <+: scheme ++ [':', '/', '/'] ++ rest ↔ scheme = scheme' := by
  constructor
  · rintro ⟨more, hmore⟩
    rw [List.append_assoc, List.append_assoc] at hmore
    exact (cut_unique h' h (by simp) (by simp) hmore).1.symm
  · rintro rfl
    exact List.prefix_append _ _

/-- The parts of a text with a scheme. -/
lemma splitScheme_text {scheme : List Char} (h : ':' ∉ scheme) (rest : List Char) :
    splitScheme (String.ofList (scheme ++ [':', '/', '/'] ++ rest)) =
      if scheme = "http".toList then (some "http", String.ofList rest)
      else if scheme = "https".toList then (some "https", String.ofList rest)
      else (none, String.ofList (scheme ++ [':', '/', '/'] ++ rest)) := by
  have hhttp : "http://" = String.ofList ("http".toList ++ [':', '/', '/']) := by decide
  have hhttps : "https://" = String.ofList ("https".toList ++ [':', '/', '/']) := by decide
  have hdrop : ∀ scheme' : List Char, scheme = scheme' →
      (scheme ++ [':', '/', '/'] ++ rest).drop (scheme' ++ [':', '/', '/']).length = rest := by
    rintro _ rfl
    exact List.drop_left
  unfold splitScheme
  rw [hhttp, hhttps, strStripPrefix_ofList, strStripPrefix_ofList]
  simp only [scheme_prefix_iff h (by decide : ':' ∉ "http".toList),
    scheme_prefix_iff h (by decide : ':' ∉ "https".toList)]
  by_cases h₁ : scheme = "http".toList
  · rw [if_pos h₁, if_pos h₁, hdrop _ h₁]
  · rw [if_neg h₁, if_neg h₁]
    by_cases h₂ : scheme = "https".toList
    · rw [if_pos h₂, if_pos h₂, hdrop _ h₂]
    · rw [if_neg h₂, if_neg h₂]

/-- **What follows the schemes is compared label by label.**

**Proof sketch.** Without a wildcard the texts are compared.  With one, the host and the port of the
origin end with a dot, the suffix and its port; as neither a dot nor a second colon is in a port,
the ports are the same and the host ends so (`cut_suffix`), label by label
(`intercalate_eq_iff`). -/
lemma matchesWildcardHost_iff (origin : Origin) (pattern : OriginPattern) :
    matchesWildcardHost (String.ofList origin.hostPort)
        (String.ofList (pattern.star ++ pattern.suffixPort)) = true ↔
      (pattern.wildcard = false ∧ origin.hostPort = pattern.suffixPort) ∨
        (pattern.wildcard = true ∧ (∃ labels ≠ [], origin.labels = labels ++ pattern.suffix) ∧
          origin.port = pattern.port) := by
  have hstar : "*." = String.ofList ['*', '.'] := by decide
  unfold matchesWildcardHost
  rw [hstar, strStripPrefix_ofList]
  unfold OriginPattern.star
  cases hwildcard : pattern.wildcard with
  | false =>
    have hplain : ¬ ['*', '.'] <+: pattern.suffixPort := pattern.plain hwildcard
    rw [if_neg Bool.false_ne_true, List.nil_append, if_neg hplain]
    simp [String.ofList_inj]
  | true =>
    rw [if_pos rfl, if_pos (List.prefix_append _ _), List.drop_left]
    simp only [strStripSuffix_dot, Bool.true_eq_false, false_and, true_and, false_or]
    rw [← intercalate_eq_iff origin.labels_ne_nil (fun l hl => (origin.label l hl).2.1)
      pattern.suffix_ne_nil fun l hl => (pattern.label l hl).1]
    unfold Origin.hostPort OriginPattern.suffixPort
    constructor
    · rintro ⟨x, hx⟩
      have hcut := cut_suffix
        (colon_not_mem_intercalate fun l hl => (origin.label l hl).2.2) (head_portText _)
        (dot_not_mem_portText origin.digits) (head_portText _)
        (colon_not_mem_intercalate fun l hl => (pattern.label l hl).2) (by decide) hx
      exact ⟨⟨x, hcut.1⟩, portText_inj hcut.2⟩
    · rintro ⟨⟨x, hx⟩, hport⟩
      exact ⟨x, by rw [hx, hport, List.append_assoc, List.cons_append]⟩

/-- A pattern with one of the two schemes. -/
lemma matchesWildcardOrigin_text (origin : Origin) (pattern : OriginPattern)
    (h : pattern.scheme = "http".toList ∨ pattern.scheme = "https".toList) :
    matchesWildcardOrigin origin.text pattern.text = true ↔ pattern.Matches origin := by
  have hne : "http".toList ≠ "https".toList := by decide
  unfold matchesWildcardOrigin Origin.text OriginPattern.text OriginPattern.Matches
  rw [splitScheme_text origin.scheme_colon, splitScheme_text pattern.scheme_colon,
    ← matchesWildcardHost_iff]
  generalize "http".toList = http at *
  generalize "https".toList = https at *
  -- the schemes are equal, or those that are split off differ
  rcases h with h | h
  · by_cases ho : origin.scheme = http
    · simp [h, ho]
    · by_cases ho' : origin.scheme = https
      · simp [h, ho', hne.symm]
      · simp [h, ho, ho']
  · by_cases ho : origin.scheme = https
    · simp [h, ho, hne.symm]
    · by_cases ho' : origin.scheme = http
      · simp [h, ho', hne, hne.symm]
      · simp [h, ho, ho', hne.symm]

section Main

variable {Net : Type} [IpNetText Net]

/-- A configuration that passed its check has patterns of two schemes only. -/
lemma startsWith_of_validated {config : ApiConfig} (h : config.validated Net = .ok ()) :
    ∀ origin ∈ config.allowedOrigins,
      startsWith origin "http://" = true ∨ startsWith origin "https://" = true := by
  have hforM : forM config.allowedOrigins checkOrigin = .ok () := by
    unfold ApiConfig.validated at h
    rw [List.forM_eq_forM] at h
    cases hf : forM config.allowedOrigins checkOrigin with
    | ok u => rfl
    | error e =>
      rw [hf] at h
      dsimp only at h
      split at h
      · cases h
      · split at h <;> cases h
  generalize config.allowedOrigins = origins at hforM
  induction origins with
  | nil => simp
  | cons origin origins ih =>
    rw [List.forM_cons, checkOrigin] at hforM
    split at hforM
    · cases hforM
    · rename_i hscheme
      intro o ho
      rcases List.mem_cons.mp ho with rfl | ho
      · cases hhttp : startsWith o "http://" <;> simp_all
      · exact ih hforM o ho

/-- The scheme of a pattern that passed the check. -/
lemma OriginPattern.scheme_of_startsWith (pattern : OriginPattern)
    (h : startsWith pattern.text "http://" = true ∨ startsWith pattern.text "https://" = true) :
    pattern.scheme = "http".toList ∨ pattern.scheme = "https".toList := by
  have hhttp : "http://" = String.ofList ("http".toList ++ [':', '/', '/']) := by decide
  have hhttps : "https://" = String.ofList ("https".toList ++ [':', '/', '/']) := by decide
  unfold startsWith OriginPattern.text at h
  rw [hhttp, hhttps] at h
  simp only [String.toList_ofList, List.isPrefixOf_iff_prefix] at h
  exact h.imp (scheme_prefix_iff pattern.scheme_colon (by decide)).mp
    (scheme_prefix_iff pattern.scheme_colon (by decide)).mp

/-- **Origins are compared label by label**: of a pattern that the configuration was accepted with,
every serialised origin is accepted iff the schemes are equal and the hosts and ports are, or, for a
pattern with a wildcard, the host has one or more labels in front of the suffix and the port is the
same.

**Proof sketch.** An accepted pattern has one of the two schemes that are split off
(`startsWith_of_validated`), so that different schemes are refused and what follows is compared
(`matchesWildcardHost_iff`). -/
theorem matchesWildcardOrigin_iff (config : ApiConfig) (hvalid : config.validated Net = .ok ())
    (pattern : OriginPattern) (hpattern : pattern.text ∈ config.allowedOrigins) (origin : Origin) :
    matchesWildcardOrigin origin.text pattern.text = true ↔ pattern.Matches origin := by
  have hstarts := startsWith_of_validated hvalid _ hpattern
  exact matchesWildcardOrigin_text origin pattern (pattern.scheme_of_startsWith hstarts)

/-- **The layer allows the origins that match a pattern**, with credentials. -/
theorem corsLayer_allows_iff {config : ApiConfig} (hvalid : config.validated Net = .ok ())
    {patterns : List OriginPattern} (hne : patterns ≠ [])
    (hpatterns : config.allowedOrigins = patterns.map OriginPattern.text) {value : HeaderValue}
    {origin : Origin} (hvalue : value.toStr = some origin.text) :
    ∃ allows, (corsLayer config.allowedOrigins).allowOrigin = .predicate allows ∧
      (corsLayer config.allowedOrigins).allowCredentials = true ∧
      (allows value = true ↔ ∃ pattern ∈ patterns, pattern.Matches origin) := by
  have hstarts := startsWith_of_validated hvalid
  rw [hpatterns] at hstarts ⊢
  have hempty : (patterns.map OriginPattern.text).isEmpty = false := by simpa using hne
  unfold corsLayer
  rw [hempty]
  refine ⟨_, rfl, rfl, ?_⟩
  rw [hvalue, Option.getD_some, List.any_map, List.any_eq_true]
  refine exists_congr fun pattern => and_congr_right fun hpattern => ?_
  exact matchesWildcardOrigin_text origin pattern
    (pattern.scheme_of_startsWith (hstarts _ (List.mem_map_of_mem hpattern)))

end Main

namespace Scenario

/-- No text is the text of a network. -/
@[reducible] def noNetworks : IpNetText Unit where
  parse _ := none
  ofIp _ := ()

/-- A pattern with a wildcard. -/
def sitePattern : OriginPattern where
  scheme := "https".toList
  wildcard := true
  suffix := ["klynt".toList, "dev".toList]
  port := none
  scheme_colon := by decide
  suffix_ne_nil := by decide
  label := by decide
  digits := by simp
  plain := by simp

/-- An origin with one more label. -/
def siteOrigin : Origin where
  scheme := "https".toList
  labels := ["app".toList, "klynt".toList, "dev".toList]
  port := none
  scheme_colon := by decide
  labels_ne_nil := by decide
  label := by decide
  digits := by simp

/-- The configuration with the pattern. -/
def siteConfig : ApiConfig := { allowedOrigins := [sitePattern.text] }

end Scenario

/-- The wildcard stands for one label here. -/
theorem matchesWildcardOrigin_site :
    matchesWildcardOrigin Scenario.siteOrigin.text Scenario.sitePattern.text = true := by
  let := Scenario.noNetworks
  have hvalid : Scenario.siteConfig.validated Unit = .ok () := by rfl
  have hmatches : Scenario.sitePattern.Matches Scenario.siteOrigin :=
    ⟨rfl, .inr ⟨rfl, ⟨["app".toList], List.cons_ne_nil _ _, rfl⟩, rfl⟩⟩
  exact (matchesWildcardOrigin_iff Scenario.siteConfig hvalid Scenario.sitePattern
    List.mem_cons_self Scenario.siteOrigin).mpr hmatches

end Klynt
