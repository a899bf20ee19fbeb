import Mathlib.Data.List.DropRight
import Mathlib.Tactic.Common

set_option relaxedAutoImplicit false
set_option autoImplicit false

/-!
# Addresses as browsers read them

A browser reads the address of a link in its own way: it drops blanks at the ends, tabs and line
breaks anywhere, and takes a backslash for a slash.  What it reads, it may have to complete by the
address of the page.

## Main definitions

* `WebUrl` — the parts of an address that say where it leads.
* `HostReader` — how host names are read.
* `WebUrl.parse` — the address of a text, by itself or on a page.
* `WebUrl.origin` — the beginning of the text of an address.

## Main results

* `WebUrl.parse_absolute` — an address that can be read by itself leads to the same place on a page,
  or to the page.
* `WebUrl.parse_slash` — where an address leads that begins with a slash.
* `WebUrl.parse_origin` — a written address is read back.

## Implementation notes

User names, paths, queries and fragments do not say where an address leads, and are left out.  Of
addresses without the authority of `http`, only the scheme and the host name are followed.
-/

/-- The parts of an address that say where it leads. -/
structure WebUrl where
  /-- The scheme, without the colon. -/
  scheme : String
  /-- The host name. -/
  hostname : String
  /-- The port, if it is not the one of the scheme. -/
  port : Option ℕ
  deriving DecidableEq

/-- How the browser reads host names. -/
structure HostReader where
  /-- The host parser, for the schemes that are read like `http`. -/
  host : List Char → Option String
  /-- The host name of an address of another scheme, after its colon. -/
  other : String → List Char → Option String

namespace WebUrl

/-! ## Characters -/

/-- Controls and blanks, which are dropped at both ends. -/
def isControlOrSpace (c : Char) : Bool := c.toNat ≤ 32

/-- Tabs and line breaks, which are dropped anywhere. -/
def isTabOrNewline (c : Char) : Bool := c = '\t' || c = '\n' || c = '\r'

/-- Slashes and backslashes. -/
def isSlash (c : Char) : Bool := c = '/' || c = '\\'

/-- The characters that end an authority. -/
def isAuthorityEnd (c : Char) : Bool := isSlash c || c = '?' || c = '#'

/-- The characters of a scheme after its first letter. -/
def isSchemeChar (c : Char) : Bool := c.isAlphanum || c = '+' || c = '-' || c = '.'

/-- A text without the characters that are dropped. -/
def clean (text : String) : List Char :=
  ((text.toList.dropWhile isControlOrSpace).rdropWhile isControlOrSpace).filter (!isTabOrNewline ·)

/-! ## Parts -/

/-- The scheme at the beginning of a text, in lower case, and what follows its colon. -/
def splitScheme : List Char → Option (String × List Char)
  | [] => none
  | c :: cs =>
    if c.isAlpha then
      match cs.dropWhile isSchemeChar with
      | ':' :: rest =>
        some (String.ofList ((c :: cs.takeWhile isSchemeChar).map Char.toLower), rest)
      | _ => none
    else none

/-- The schemes that are read like `http`. -/
def isHttpLike (scheme : String) : Bool := scheme ∈ ["http", "https", "ws", "wss", "ftp"]

/-- The port of a scheme. -/
def defaultPort (scheme : String) : ℕ :=
  if scheme = "https" ∨ scheme = "wss" then 443 else if scheme = "ftp" then 21 else 80

/-- A host name and the port after it.  Colons between brackets belong to the host name. -/
def splitPort : Bool → List Char → List Char × Option (List Char)
  | _, [] => ([], none)
  | inside, c :: cs =>
    if c = ':' ∧ inside = false then ([], some cs)
    else
      let rest := splitPort (if c = '[' then true else if c = ']' then false else inside) cs
      (c :: rest.1, rest.2)

/-- A port, as it is read. -/
def readPort (scheme : String) : Option (List Char) → Option (Option ℕ)
  | none | some [] => some none
  | some digits =>
    if digits.all Char.isDigit ∧ Nat.ofDigitChars 10 digits 0 ≤ 65535 then
      let port := Nat.ofDigitChars 10 digits 0
      some (if port = defaultPort scheme then none else some port)
    else none

/-- The address whose authority a text begins with: what stands before the last `@` is the name of a
user. -/
def readAuthority (R : HostReader) (scheme : String) (cs : List Char) : Option WebUrl :=
  let authority := cs.takeWhile (!isAuthorityEnd ·)
  let (host, port) := splitPort false (authority.rtakeWhile (· ≠ '@'))
  if host = [] then none
  else do
    let hostname ← R.host host
    let port ← readPort scheme port
    return { scheme, hostname, port }

/-- The address of an authority after any number of slashes. -/
def readHttpLike (R : HostReader) (scheme : String) (cs : List Char) : Option WebUrl :=
  readAuthority R scheme (cs.dropWhile isSlash)

/-- An address without a scheme, on a page: two slashes lead to another host. -/
def readRelative (R : HostReader) (page : WebUrl) : List Char → Option WebUrl
  | c :: d :: cs => if isSlash c && isSlash d then readHttpLike R page.scheme cs else some page
  | _ => some page

/-- **The address of a text**, by itself or on a page.  On a page, a scheme that is the one of the
page only begins another authority if two slashes follow it. -/
def parse (R : HostReader) (page : Option WebUrl) (text : String) : Option WebUrl :=
  match splitScheme (clean text) with
  | some (scheme, rest) =>
    if isHttpLike scheme then
      match page with
      | some page =>
        if page.scheme = scheme then
          match rest with
          | '/' :: '/' :: cs => readHttpLike R scheme cs
          | rest => readRelative R page rest
        else readHttpLike R scheme rest
      | none => readHttpLike R scheme rest
    else (R.other scheme rest).map fun hostname => { scheme, hostname, port := none }
  | none =>
    match page with
    | some page => readRelative R page (clean text)
    | none => none

/-! ## Reading on a page -/

variable {R : HostReader} {page u : WebUrl} {text scheme : String} {cs : List Char}

/-- More slashes do not matter. -/
lemma readHttpLike_cons {c : Char} (h : isSlash c = true) :
    readHttpLike R scheme (c :: cs) = readHttpLike R scheme cs := by
  rw [readHttpLike, List.dropWhile_cons_of_pos h, readHttpLike]

/-- An address that is read has its scheme. -/
lemma scheme_of_readHttpLike (h : readHttpLike R scheme cs = some u) : u.scheme = scheme := by
  unfold readHttpLike readAuthority at h
  dsimp only at h
  split at h
  · cases h
  · obtain ⟨hostname, -, h⟩ := Option.bind_eq_some_iff.mp h
    obtain ⟨port, -, h⟩ := Option.bind_eq_some_iff.mp h
    obtain rfl := Option.some.inj h
    rfl

/-- On a page, two slashes lead where they lead by themselves, and all else to the page. -/
lemma readRelative_cases (R : HostReader) (page : WebUrl) (cs : List Char) :
    readRelative R page cs = readHttpLike R page.scheme cs ∨ readRelative R page cs = some page := by
  unfold readRelative
  split
  · split
    · rename_i hslashes
      obtain ⟨hc, hd⟩ := Bool.and_eq_true_iff.mp hslashes
      left
      rw [readHttpLike_cons hc, readHttpLike_cons hd]
    · exact .inr rfl
  · exact .inr rfl

/-- **An address that can be read by itself** leads to the same place on a page, or to the page. -/
theorem parse_absolute (h : parse R none text = some u) (page : WebUrl) :
    parse R (some page) text = some u ∨ parse R (some page) text = some page := by
  unfold parse at h ⊢
  split at h
  · rename_i scheme rest hscheme
    dsimp only at h ⊢
    split at h
    · rename_i hhttp
      rw [if_pos hhttp]
      split
      · rename_i hsame
        split
        · rw [readHttpLike_cons rfl, readHttpLike_cons rfl] at h
          exact .inl h
        · rcases readRelative_cases R page rest with heq | heq
          · rw [heq, hsame]
            exact .inl h
          · exact .inr heq
      · exact .inl h
    · rename_i hhttp
      rw [if_neg hhttp]
      exact .inl h
  · cases h

/-- What does not satisfy a condition at the beginning of a list is not dropped from its end. -/
lemma rdropWhile_cons_of_neg {α : Type} {p : α → Bool} {a : α} (ha : ¬ p a = true) (l : List α) :
    ∃ l', (a :: l).rdropWhile p = a :: l' := by
  induction l using List.reverseRecOn with
  | nil => exact ⟨[], List.rdropWhile_concat_neg p [] a ha⟩
  | append_singleton l b ih =>
    rw [← List.cons_append]
    by_cases hb : p b = true
    · rw [List.rdropWhile_concat_pos _ _ _ hb]
      exact ih
    · rw [List.rdropWhile_concat_neg _ _ _ hb]
      exact ⟨l ++ [b], rfl⟩

/-- A slash at the beginning of a text is not dropped. -/
lemma clean_of_slash {rest : List Char} (h : text.toList = '/' :: rest) :
    ∃ cs, clean text = '/' :: cs := by
  have hslash : ¬ isControlOrSpace '/' = true := by decide
  obtain ⟨cs, hcs⟩ := rdropWhile_cons_of_neg hslash rest
  unfold clean
  rw [h, List.dropWhile_cons_of_neg hslash, hcs, List.filter_cons_of_pos (by decide)]
  exact ⟨_, rfl⟩

/-- **An address that begins with a slash** has no scheme of its own. -/
theorem parse_slash {rest : List Char} (h : text.toList = '/' :: rest) :
    parse R (some page) text = readRelative R page (clean text) := by
  obtain ⟨cs, hcs⟩ := clean_of_slash h
  unfold parse
  rw [hcs]
  rfl

/-! ## Written addresses -/

/-- A port as it follows a host name. -/
def portText : Option ℕ → String
  | none => ""
  | some n => ":" ++ toString n

/-- The beginning of the text of an address, up to its path. -/
def origin (u : WebUrl) : String := u.scheme ++ "://" ++ u.hostname ++ portText u.port

/-- An address of `http` or `https` as browsers keep it. -/
structure Kept (R : HostReader) (u : WebUrl) : Prop where
  /-- The scheme. -/
  scheme : u.scheme = "http" ∨ u.scheme = "https"
  /-- The host name is read as it is. -/
  host : R.host u.hostname.toList = some u.hostname
  /-- There is a host name. -/
  nonempty : u.hostname ≠ ""
  /-- The characters of the host name. -/
  chars : ∀ c ∈ u.hostname.toList,
    32 < c.toNat ∧ isAuthorityEnd c = false ∧ c ≠ '@' ∧ c ≠ ':' ∧ c ≠ '['
  /-- The port of the scheme is left out. -/
  port : ∀ n, u.port = some n → n ≤ 65535 ∧ n ≠ defaultPort u.scheme

/-- What is checked of all characters of a list holds of each of them. -/
lemma forall_of_all {p : Char → Prop} [DecidablePred p] (h : (cs.all fun c => decide (p c)) = true) :
    ∀ c ∈ cs, p c := fun c hc => of_decide_eq_true (List.all_eq_true.mp h c hc)

/-- Nothing is dropped from a text without blanks and controls. -/
lemma clean_eq (h : ∀ c ∈ text.toList, 32 < c.toNat) : clean text = text.toList := by
  have hkept : ∀ c ∈ text.toList, isControlOrSpace c = false := fun c hc =>
    decide_eq_false (by have := h c hc; omega)
  have hstart : text.toList.dropWhile isControlOrSpace = text.toList := by
    cases hlist : text.toList with
    | nil => rfl
    | cons c cs =>
      refine List.dropWhile_cons_of_neg ?_
      rw [hkept c (hlist ▸ List.mem_cons_self)]
      exact Bool.false_ne_true
  have hend : text.toList.rdropWhile isControlOrSpace = text.toList := by
    refine List.rdropWhile_eq_self_iff.mpr fun hne => ?_
    rw [hkept _ (List.getLast_mem hne)]
    exact Bool.false_ne_true
  unfold clean
  rw [hstart, hend, List.filter_eq_self]
  intro c hc
  have hcode := h c hc
  simp only [isTabOrNewline, Bool.not_eq_true', Bool.or_eq_false_iff, decide_eq_false_iff_not]
  refine ⟨⟨?_, ?_⟩, ?_⟩ <;> rintro rfl <;> exact absurd hcode (by decide)

/-- The host name before a port. -/
lemma splitPort_append {tail : List Char} (h : ∀ c ∈ cs, c ≠ ':' ∧ c ≠ '[') :
    splitPort false (cs ++ tail) = (cs ++ (splitPort false tail).1, (splitPort false tail).2) := by
  induction cs with
  | nil => rfl
  | cons c cs ih =>
    obtain ⟨hcolon, hbracket⟩ := h c List.mem_cons_self
    have hinside : (if c = '[' then true else if c = ']' then false else false) = false := by
      rw [if_neg hbracket, ite_self]
    rw [List.cons_append, splitPort, if_neg fun hc => hcolon hc.1, hinside,
      ih fun c hc => h c (List.mem_cons_of_mem _ hc)]
    rfl

/-- A written port is read back. -/
lemma readPort_portText {port : Option ℕ}
    (h : ∀ n, port = some n → n ≤ 65535 ∧ n ≠ defaultPort scheme) :
    (splitPort false (portText port).toList).1 = [] ∧
      readPort scheme (splitPort false (portText port).toList).2 = some port := by
  cases port with
  | none => exact ⟨rfl, rfl⟩
  | some n =>
    obtain ⟨hsmall, hdefault⟩ := h n rfl
    have hlist : (portText (some n)).toList = ':' :: Nat.toDigits 10 n := by
      unfold portText
      rw [String.toList_append, Nat.toString_eq_ofList_toDigits,
        String.toList_ofList (l := Nat.toDigits 10 n)]
      rfl
    have hsplit : splitPort false (':' :: Nat.toDigits 10 n) = ([], some (Nat.toDigits 10 n)) :=
      if_pos ⟨rfl, rfl⟩
    have hvalue : Nat.ofDigitChars 10 (Nat.toDigits 10 n) 0 = n :=
      Nat.ofDigitChars_toDigits (by decide) (by decide)
    have hall : (Nat.toDigits 10 n).all Char.isDigit = true :=
      List.all_eq_true.mpr fun c hc => Nat.isDigit_of_mem_toDigits (by decide) (by decide) hc
    rw [hlist, hsplit]
    refine ⟨rfl, ?_⟩
    dsimp only
    cases hdigits : Nat.toDigits 10 n with
    | nil => exact absurd hdigits Nat.toDigits_ne_nil
    | cons c cs =>
      rw [hdigits] at hvalue hall
      unfold readPort
      dsimp only
      rw [hvalue, if_pos ⟨hall, hsmall⟩, if_neg hdefault]

/-- The characters after the slashes of a written address. -/
lemma authority_chars (hu : Kept R u) :
    ∀ c ∈ u.hostname.toList ++ (portText u.port).toList,
      32 < c.toNat ∧ isAuthorityEnd c = false ∧ c ≠ '@' := by
  intro c hc
  rcases List.mem_append.mp hc with hname | hport
  · obtain ⟨hcode, hend, hat, -⟩ := hu.chars c hname
    exact ⟨hcode, hend, hat⟩
  · cases hn : u.port with
    | none =>
      rw [hn] at hport
      cases hport
    | some n =>
      rw [hn] at hport
      unfold portText at hport
      rw [String.toList_append, Nat.toString_eq_ofList_toDigits,
        String.toList_ofList (l := Nat.toDigits 10 n)] at hport
      have hmark : c = ':' ∨ c.isDigit = true := (List.mem_append.mp hport).imp List.mem_singleton.mp
        fun hc => Nat.isDigit_of_mem_toDigits (b := 10) (by decide) (by decide) hc
      rcases hmark with rfl | hdigit
      · decide
      · have hcode : 48 ≤ c.toNat := by
          simp only [Char.isDigit, Bool.and_eq_true, decide_eq_true_eq, ge_iff_le,
            UInt32.le_iff_toNat_le] at hdigit
          exact hdigit.1
        refine ⟨by omega, ?_, ?_⟩
        · by_contra hend
          simp only [isAuthorityEnd, isSlash, Bool.or_eq_true, decide_eq_true_eq,
            Bool.not_eq_false] at hend
          rcases hend with ((rfl | rfl) | rfl) | rfl <;> exact absurd hdigit (by decide)
        · rintro rfl
          exact absurd hdigit (by decide)

/-- The authority of a written address is read back. -/
lemma readAuthority_written (hu : Kept R u) (tail : List Char) :
    readAuthority R u.scheme (u.hostname.toList ++ (portText u.port).toList ++ '/' :: tail) =
      some u := by
  have hchars := authority_chars hu
  obtain ⟨hnone, hport⟩ := readPort_portText hu.port
  have htake : (u.hostname.toList ++ (portText u.port).toList ++ '/' :: tail).takeWhile
      (!isAuthorityEnd ·) = u.hostname.toList ++ (portText u.port).toList := by
    rw [List.takeWhile_append_of_pos fun c hc => by rw [(hchars c hc).2.1]; rfl]
    exact List.append_nil _
  have huser : (u.hostname.toList ++ (portText u.port).toList).rtakeWhile (· ≠ '@') =
      u.hostname.toList ++ (portText u.port).toList :=
    List.rtakeWhile_eq_self_iff.mpr fun c hc => decide_eq_true (hchars c hc).2.2
  have hne : u.hostname.toList ≠ [] := fun h => hu.nonempty (String.toList_injective h)
  unfold readAuthority
  dsimp only
  rw [htake, huser, splitPort_append fun c hc => (hu.chars c hc).2.2.2, hnone, List.append_nil]
  dsimp only
  rw [if_neg hne, hu.host, hport]
  rfl

/-- **A written address is read back**, by itself and on every page. -/
theorem parse_origin (hu : Kept R u) (page : Option WebUrl) {path : String} {tail : List Char}
    (hpath : path.toList = '/' :: tail) (hchars : ∀ c ∈ path.toList, 32 < c.toNat) :
    parse R page (u.origin ++ path) = some u := by
  have hlist : (u.origin ++ path).toList = u.scheme.toList ++ ':' :: '/' :: '/' ::
      (u.hostname.toList ++ (portText u.port).toList ++ '/' :: tail) := by
    unfold origin
    simp only [String.toList_append, hpath, List.append_assoc]
    rfl
  have hscheme : ∀ c ∈ u.scheme.toList, 32 < c.toNat := by
    have hall : (u.scheme.toList.all fun c => decide (32 < c.toNat)) = true := by
      rcases hu.scheme with h | h <;> rw [h] <;> decide
    exact forall_of_all hall
  have hclean : clean (u.origin ++ path) = (u.origin ++ path).toList := by
    refine clean_eq fun c hc => ?_
    rw [hlist] at hc
    rcases List.mem_append.mp hc with hc | hc
    · exact hscheme c hc
    · rcases hc with _ | ⟨_, _ | ⟨_, _ | ⟨_, hc⟩⟩⟩
      · decide
      · decide
      · decide
      · rcases List.mem_append.mp hc with hc | hc
        · exact (authority_chars hu c hc).1
        · exact hchars c (hpath ▸ hc)
  have hsplit : splitScheme (u.origin ++ path).toList = some (u.scheme, '/' :: '/' ::
      (u.hostname.toList ++ (portText u.port).toList ++ '/' :: tail)) := by
    rw [hlist]
    rcases hu.scheme with h | h <;> rw [h] <;> rfl
  have hread : readHttpLike R u.scheme (u.hostname.toList ++ (portText u.port).toList ++ '/' :: tail) =
      some u := by
    rw [← readAuthority_written hu tail]
    unfold readHttpLike
    congr 1
    obtain ⟨c, cs, hname⟩ := List.exists_cons_of_ne_nil fun h : u.hostname.toList = [] =>
      hu.nonempty (String.toList_injective h)
    have hend := (hu.chars c (hname ▸ List.mem_cons_self)).2.1
    rw [hname]
    refine List.dropWhile_cons_of_neg fun hslash => ?_
    rw [isAuthorityEnd, hslash] at hend
    cases hend
  have hhttp : isHttpLike u.scheme = true := by
    rcases hu.scheme with h | h <;> rw [h] <;> rfl
  unfold parse
  rw [hclean, hsplit]
  dsimp only
  rw [if_pos hhttp]
  cases page with
  | none =>
    dsimp only
    rw [readHttpLike_cons rfl, readHttpLike_cons rfl, hread]
  | some page =>
    dsimp only
    split
    · exact hread
    · rw [readHttpLike_cons rfl, readHttpLike_cons rfl, hread]

end WebUrl
