import Klynt.Domain.Text
import Klynt.Lib.IpParse

set_option relaxedAutoImplicit false
set_option autoImplicit false

/-!
# The address of a client

The gateway stands behind proxies, each of which adds the address of its peer to the header
`X-Forwarded-For`.  The address of a client is looked for from the right, past the proxies that are
trusted.

## Main definitions

* `HeaderValue`, `HeaderMap` — header lines.
* `IpNet` — networks.
* `clientIp` — the address that is limited.
* `xffEntries`, `decisive`, `determinedIp` — the entries of all lines, the rightmost one that is not
  the address of a trusted proxy, and the address that it determines.
* `Undisturbed` — the headers that are read so.

## Main results

* `clientIp_determined_iff` — the address is the one that is determined iff the headers are
  undisturbed.
* `clientIp_of_decisive` — what stands to the left then does not matter.

## Implementation notes

A byte of a header is the character of its number.  Networks and their members are a parameter.
-/

namespace Klynt

/-! ## Header lines -/

/-- `is_visible_ascii`. -/
def isVisibleAscii (c : Char) : Bool := (32 ≤ c.toNat && c.toNat < 127) || c = '\t'

/-- The value of a header line. -/
structure HeaderValue where
  /-- The bytes. -/
  bytes : List Char
  /-- No controls but tabs, and nothing beyond a byte. -/
  valid : ∀ c ∈ bytes, (32 ≤ c.toNat ∧ c.toNat ≤ 255 ∧ c.toNat ≠ 127) ∨ c = '\t'

/-- `to_str`. -/
def HeaderValue.toStr (value : HeaderValue) : Option String :=
  if value.bytes.all isVisibleAscii then some (String.ofList value.bytes) else none

/-- The header lines of a request in their order, with names in lower case. -/
abbrev HeaderMap : Type := List (String × HeaderValue)

/-- `get_all`. -/
def HeaderMap.getAll (headers : HeaderMap) (name : String) : List HeaderValue :=
  headers.filterMap fun line => if line.1 = name then some line.2 else none

/-- `get`: the first line of a name. -/
def HeaderMap.get (headers : HeaderMap) (name : String) : Option HeaderValue :=
  (headers.getAll name).head?

/-- `split(',').map(str::trim)`. -/
def splitTrim (text : String) : List String :=
  (text.toList.splitOn ',').map fun part => trim (String.ofList part)

/-! ## The address -/

/-- Networks. -/
class IpNet (Net : Type) where
  /-- The network is one of version 4. -/
  isV4 : Net → Bool
  /-- `contains`. -/
  contains : Net → IpAddr → Bool

/-- `SocketAddr`. -/
structure SocketAddr where
  /-- The address. -/
  ip : IpAddr
  /-- The port. -/
  port : UInt16

/-- `normalize_ip`. -/
def normalizeIp : IpAddr → IpAddr
  | .v6 v6 => (v6.toIpv4Mapped.map IpAddr.v4).getD (.v6 v6)
  | .v4 v4 => .v4 v4

section Client

variable {Net : Type} [IpNet Net]

/-- `matches_ip_in_net`. -/
def matchesIpInNet (ip : IpAddr) (net : Net) : Bool :=
  if IpNet.contains net ip then true
  else match ip, IpNet.isV4 net with
    | .v4 v4, false => IpNet.contains net (.v6 v4.toIpv6Mapped)
    | .v6 v6, true => ((v6.toIpv4Mapped.map IpAddr.v4).map (IpNet.contains net)).getD false
    | _, _ => false

/-- `is_trusted_ip`. -/
def isTrustedIp (ip : IpAddr) (trustedNets : List Net) : Bool := trustedNets.any (matchesIpInNet ip)

/-- The address of an entry, if it is not the one of a trusted proxy. -/
def untrustedIp (trustedProxies : List Net) (part : String) : Option IpAddr :=
  match IpAddr.parse part with
  | some ip => if !isTrustedIp (normalizeIp ip) trustedProxies then some (normalizeIp ip) else none
  | none => none

/-- `client_ip`. -/
def clientIp (trustedProxies : List Net) (peer : SocketAddr) (headers : HeaderMap) : IpAddr :=
  let peerIp := normalizeIp peer.ip
  if trustedProxies.isEmpty then peerIp
  else if !isTrustedIp peerIp trustedProxies then peerIp
  else match headers.get "x-forwarded-for" with
    | some value =>
      match value.toStr with
      | some value =>
        match (splitTrim value).reverse.findSome? (untrustedIp trustedProxies) with
        | some ip => ip
        | none => peerIp
      | none => peerIp
    | none => peerIp

/-! ## What determines it -/

/-- The entries of the lines, which commas join. -/
def xffEntries (headers : HeaderMap) : List (List Char) :=
  match headers.getAll "x-forwarded-for" with
  | [] => []
  | lines => (List.intercalate [','] (lines.map HeaderValue.bytes)).splitOn ','

/-- The normalised address of an entry, if it is one. -/
def entryIp (entry : List Char) : Option IpAddr :=
  if entry.all isVisibleAscii then (IpAddr.parse (trim (String.ofList entry))).map normalizeIp else none

/-- An entry is the address of a trusted proxy. -/
def isProxy (trustedProxies : List Net) (entry : List Char) : Bool :=
  (entryIp entry).any (isTrustedIp · trustedProxies)

/-- An entry is the address of somebody else. -/
def isClient (trustedProxies : List Net) (entry : List Char) : Bool :=
  (entryIp entry).any (!isTrustedIp · trustedProxies)

/-- The rightmost entry that is not the address of a trusted proxy. -/
def decisive (trustedProxies : List Net) (headers : HeaderMap) : Option (List Char) :=
  (xffEntries headers).reverse.find? (!isProxy trustedProxies ·)

/-- The address that a peer and the header lines determine: the lines of a peer that is not trusted
do not matter. -/
def determinedIp (trustedProxies : List Net) (peer : SocketAddr) (headers : HeaderMap) : IpAddr :=
  if isTrustedIp (normalizeIp peer.ip) trustedProxies then
    ((decisive trustedProxies headers).bind entryIp).getD (normalizeIp peer.ip)
  else normalizeIp peer.ip

/-- The entries of the first line, if no byte of it is beyond visible ASCII. -/
def heardEntries (headers : HeaderMap) : List (List Char) :=
  match headers.get "x-forwarded-for" with
  | some value => if value.bytes.all isVisibleAscii then value.bytes.splitOn ',' else []
  | none => []

/-- Nothing disturbs the search: if the decisive entry is no address, the first line has no address
of a client, and if it is one, it is the one of the rightmost client of the first line. -/
def Undisturbed (trustedProxies : List Net) (headers : HeaderMap) : Prop :=
  ∀ entry, decisive trustedProxies headers = some entry →
    if isClient trustedProxies entry then
      ∃ left client right, heardEntries headers = left ++ client :: right ∧
        entryIp client = entryIp entry ∧ ∀ e ∈ right, isClient trustedProxies e = false
    else ∀ e ∈ heardEntries headers, isClient trustedProxies e = false

/-! ## Entries -/

variable {trustedProxies : List Net} {peer : SocketAddr} {headers : HeaderMap} {entry : List Char}

omit [IpNet Net] in
/-- The entries of a line and of the lines after it. -/
lemma splitOn_intercalate_cons (line : List Char) (lines : List (List Char)) :
    ∃ more, (List.intercalate [','] (line :: lines)).splitOn ',' = line.splitOn ',' ++ more := by
  cases lines with
  | nil =>
    refine ⟨[], ?_⟩
    rw [List.intercalate_singleton, List.append_nil]
  | cons second lines =>
    refine ⟨(List.intercalate [','] (second :: lines)).splitOn ',', ?_⟩
    rw [List.intercalate_cons_cons, List.append_assoc, List.singleton_append,
      List.splitOn_append_cons_self]

omit [IpNet Net] in
/-- What is heard are entries. -/
lemma mem_xffEntries_of_mem_heardEntries (h : entry ∈ heardEntries headers) :
    entry ∈ xffEntries headers := by
  unfold heardEntries HeaderMap.get at h
  unfold xffEntries
  cases hlines : headers.getAll "x-forwarded-for" with
  | nil =>
    rw [hlines] at h
    exact h
  | cons value lines =>
    rw [hlines] at h
    obtain ⟨more, hmore⟩ := splitOn_intercalate_cons value.bytes (lines.map HeaderValue.bytes)
    dsimp only [List.head?_cons] at h ⊢
    rw [List.map_cons, hmore]
    split at h
    · exact List.mem_append_left _ h
    · cases h

/-- A client is an entry with an address that is not trusted. -/
lemma isClient_iff : isClient trustedProxies entry = true ↔
    ∃ ip, entryIp entry = some ip ∧ isTrustedIp ip trustedProxies = false := by
  unfold isClient
  cases entryIp entry with
  | none => simp
  | some ip => simp

/-- An entry is the address of a proxy, the address of a client, or no address. -/
lemma entryIp_eq_none (hproxy : isProxy trustedProxies entry = false)
    (hclient : isClient trustedProxies entry = false) : entryIp entry = none := by
  unfold isProxy at hproxy
  unfold isClient at hclient
  cases hip : entryIp entry with
  | none => rfl
  | some ip =>
    rw [hip, Option.any_some] at hproxy hclient
    rw [hproxy] at hclient
    cases hclient

/-- The address of a proxy is not the one of a client. -/
lemma isClient_of_isProxy (h : isProxy trustedProxies entry = true) :
    isClient trustedProxies entry = false := by
  unfold isProxy at h
  unfold isClient
  cases hip : entryIp entry with
  | none => rfl
  | some ip =>
    rw [hip, Option.any_some] at h
    rw [Option.any_some, h]
    rfl

/-- What the search does with an entry of a line without other bytes. -/
lemma untrustedIp_entry (h : entry.all isVisibleAscii = true) :
    untrustedIp trustedProxies (trim (String.ofList entry)) =
      if isClient trustedProxies entry then entryIp entry else none := by
  unfold untrustedIp isClient entryIp
  rw [if_pos h]
  cases IpAddr.parse (trim (String.ofList entry)) with
  | none => rfl
  | some ip => rfl

/-! ## The search -/

omit [IpNet Net] in
/-- What is cut from a list belongs to it. -/
lemma mem_of_mem_splitOn {a c : Char} {xs piece : List Char} (h : piece ∈ xs.splitOn a)
    (hc : c ∈ piece) : c ∈ xs := by
  induction xs generalizing piece with
  | nil =>
    obtain rfl := List.mem_singleton.mp h
    exact hc
  | cons x xs ih =>
    rw [List.splitOn_cons_eq_if_modifyHead] at h
    split at h
    · rcases List.mem_cons.mp h with rfl | h
      · cases hc
      · exact List.mem_cons_of_mem x (ih h hc)
    · obtain ⟨first, rest, hsplit⟩ := List.exists_cons_of_ne_nil (List.splitOn_ne_nil a xs)
      rw [hsplit, List.modifyHead_cons] at h
      rw [hsplit] at ih
      rcases List.mem_cons.mp h with rfl | h
      · rcases List.mem_cons.mp hc with rfl | hc
        · exact List.mem_cons_self
        · exact List.mem_cons_of_mem x (ih List.mem_cons_self hc)
      · exact List.mem_cons_of_mem x (ih (List.mem_cons_of_mem _ h) hc)

omit [IpNet Net] in
/-- A search depends on the members of the list only. -/
lemma findSome?_congr_mem {α β : Type} {f g : α → Option β} {l : List α}
    (h : ∀ x ∈ l, f x = g x) : l.findSome? f = l.findSome? g := by
  induction l with
  | nil => rfl
  | cons x l ih =>
    rw [List.findSome?_cons, List.findSome?_cons, h x List.mem_cons_self,
      ih fun y hy => h y (List.mem_cons_of_mem x hy)]

/-- The search in a line without other bytes. -/
lemma findSome?_splitTrim {bytes : List Char} (hvisible : bytes.all isVisibleAscii = true) :
    (splitTrim (String.ofList bytes)).reverse.findSome? (untrustedIp trustedProxies) =
      (bytes.splitOn ',').reverse.findSome? fun entry =>
        if isClient trustedProxies entry then entryIp entry else none := by
  unfold splitTrim
  rw [String.toList_ofList, ← List.map_reverse, List.findSome?_map]
  refine findSome?_congr_mem fun entry hentry => ?_
  have hvisible' : entry.all isVisibleAscii = true := List.all_eq_true.mpr fun c hc =>
    List.all_eq_true.mp hvisible c (mem_of_mem_splitOn (List.mem_reverse.mp hentry) hc)
  rw [Function.comp_apply, untrustedIp_entry hvisible']

/-- The client that is found from the right. -/
def foundIp (trustedProxies : List Net) (headers : HeaderMap) : Option IpAddr :=
  (heardEntries headers).reverse.findSome? fun entry =>
    if isClient trustedProxies entry then entryIp entry else none

/-- **What `client_ip` computes**, for a trusted peer. -/
lemma clientIp_eq (hpeer : isTrustedIp (normalizeIp peer.ip) trustedProxies = true) :
    clientIp trustedProxies peer headers =
      (foundIp trustedProxies headers).getD (normalizeIp peer.ip) := by
  have hsome : trustedProxies.isEmpty = false := by
    cases trustedProxies with
    | nil => cases hpeer
    | cons net nets => rfl
  unfold clientIp foundIp heardEntries
  dsimp only
  rw [hsome, hpeer]
  cases headers.get "x-forwarded-for" with
  | none => rfl
  | some value =>
    dsimp only
    rw [if_neg Bool.false_ne_true, if_neg (by exact Bool.false_ne_true)]
    unfold HeaderValue.toStr
    cases hvisible : value.bytes.all isVisibleAscii with
    | false => rfl
    | true =>
      rw [if_pos rfl, if_pos rfl]
      dsimp only
      rw [findSome?_splitTrim hvisible]
      cases (value.bytes.splitOn ',').reverse.findSome? _ with
      | none => rfl
      | some ip => rfl

/-- What is found is not trusted. -/
lemma untrusted_of_foundIp {ip : IpAddr} (h : foundIp trustedProxies headers = some ip) :
    isTrustedIp ip trustedProxies = false := by
  obtain ⟨entry, -, hentry⟩ := List.exists_of_findSome?_eq_some h
  split at hentry
  · rename_i hclient
    obtain ⟨ip', hip', huntrusted⟩ := isClient_iff.mp hclient
    obtain rfl := Option.some.inj (hip'.symm.trans hentry)
    exact huntrusted
  · cases hentry

/-- Nothing is found iff there is no client. -/
lemma foundIp_eq_none_iff : foundIp trustedProxies headers = none ↔
    ∀ e ∈ heardEntries headers, isClient trustedProxies e = false := by
  unfold foundIp
  rw [List.findSome?_eq_none_iff]
  constructor
  · intro h e he
    have hnone := h e (List.mem_reverse.mpr he)
    cases hclient : isClient trustedProxies e with
    | false => rfl
    | true =>
      obtain ⟨ip, hip, -⟩ := isClient_iff.mp hclient
      rw [if_pos hclient, hip] at hnone
      cases hnone
  · intro h e he
    rw [h e (List.mem_reverse.mp he)]
    rfl

/-- The rightmost client is found. -/
lemma foundIp_eq_some_iff {ip : IpAddr} (hip : entryIp entry = some ip)
    (hclient : isClient trustedProxies entry = true) :
    foundIp trustedProxies headers = some ip ↔
      ∃ left client right, heardEntries headers = left ++ client :: right ∧
        entryIp client = entryIp entry ∧ ∀ e ∈ right, isClient trustedProxies e = false := by
  unfold foundIp
  rw [List.findSome?_eq_some_iff]
  constructor
  · rintro ⟨before, client, after, hreverse, hfound, hbefore⟩
    have hlist := congrArg List.reverse hreverse
    rw [List.reverse_reverse, List.reverse_append, List.reverse_cons, List.append_assoc,
      List.singleton_append] at hlist
    refine ⟨after.reverse, client, before.reverse, hlist, ?_, ?_⟩
    · split at hfound
      · exact hfound.trans hip.symm
      · cases hfound
    · intro e he
      have hnone := hbefore e (List.mem_reverse.mp he)
      cases hother : isClient trustedProxies e with
      | false => rfl
      | true =>
        obtain ⟨ip', hip', -⟩ := isClient_iff.mp hother
        rw [if_pos hother, hip'] at hnone
        cases hnone
  · rintro ⟨left, client, right, hlist, hsame, hright⟩
    refine ⟨right.reverse, client, left.reverse, ?_, ?_, ?_⟩
    · rw [hlist, List.reverse_append, List.reverse_cons, List.append_assoc, List.singleton_append]
    · have hclient' : isClient trustedProxies client = true := by
        unfold isClient at hclient ⊢
        rw [hsame]
        exact hclient
      rw [if_pos hclient', hsame, hip]
    · intro e he
      rw [hright e (List.mem_reverse.mp he)]
      rfl

/-! ## The address that is limited -/

/-- What is determined by an entry is not trusted. -/
lemma untrusted_of_decisive {ip : IpAddr}
    (h : (decisive trustedProxies headers).bind entryIp = some ip) :
    isTrustedIp ip trustedProxies = false := by
  obtain ⟨entry, hdecisive, hip⟩ := Option.bind_eq_some_iff.mp h
  have hproxy := List.find?_some hdecisive
  unfold isProxy at hproxy
  rwa [hip, Option.any_some, Bool.not_eq_true'] at hproxy

/-- Two addresses that may be missing stand for the same one beside a trusted address, if they are
not trusted. -/
lemma getD_eq_iff {found due : Option IpAddr} {peerIp : IpAddr}
    (hpeer : isTrustedIp peerIp trustedProxies = true)
    (hfound : ∀ ip, found = some ip → isTrustedIp ip trustedProxies = false)
    (hdue : ∀ ip, due = some ip → isTrustedIp ip trustedProxies = false) :
    found.getD peerIp = due.getD peerIp ↔ found = due := by
  constructor
  · intro h
    cases found with
    | none =>
      cases due with
      | none => rfl
      | some ip =>
        obtain rfl : peerIp = ip := h
        rw [hdue _ rfl] at hpeer
        cases hpeer
    | some ip =>
      cases due with
      | none =>
        obtain rfl : ip = peerIp := h
        rw [hfound _ rfl] at hpeer
        cases hpeer
      | some ip' => exact congrArg some h
  · intro h
    rw [h]

/-- What is found is what the decisive entry is, iff the headers are undisturbed. -/
lemma foundIp_eq_iff : foundIp trustedProxies headers =
    (decisive trustedProxies headers).bind entryIp ↔ Undisturbed trustedProxies headers := by
  unfold Undisturbed
  cases hdecisive : decisive trustedProxies headers with
  | none =>
    rw [Option.bind_none, foundIp_eq_none_iff]
    refine iff_of_true (fun e he => ?_) (fun entry hentry => by cases hentry)
    -- every entry is the address of a proxy
    have hproxy := List.find?_eq_none.mp hdecisive e
      (List.mem_reverse.mpr (mem_xffEntries_of_mem_heardEntries he))
    rw [Bool.not_eq_true, Bool.not_eq_false'] at hproxy
    exact isClient_of_isProxy hproxy
  | some entry =>
    have hproxy : isProxy trustedProxies entry = false := by
      have hfind := List.find?_some hdecisive
      rwa [Bool.not_eq_true'] at hfind
    rw [Option.bind_some]
    have hone : ∀ P : List Char → Prop, (∀ e, some entry = some e → P e) ↔ P entry := fun P =>
      ⟨fun h => h entry rfl, fun h e he => Option.some.inj he ▸ h⟩
    rw [hone]
    cases hclient : isClient trustedProxies entry with
    | false =>
      rw [entryIp_eq_none hproxy hclient, foundIp_eq_none_iff, if_neg Bool.false_ne_true]
    | true =>
      obtain ⟨ip, hip, -⟩ := isClient_iff.mp hclient
      rw [if_pos rfl, hip, foundIp_eq_some_iff hip hclient, hip]

end Client

/-- **The address of a client.** The address that is limited is the one that the rightmost entry of
all header lines determines which is not the address of a trusted proxy — its normalised address, or
the address of the peer if it is no address or if there is none — iff the peer is not trusted or the
headers are undisturbed.

**Proof sketch.** For a trusted peer the code finds the rightmost client of the first line, and
falls back to the peer.  The peer is trusted and clients are not, so that both addresses are the
same iff the same client is found. -/
theorem clientIp_determined_iff {Net : Type} [IpNet Net] (trustedProxies : List Net)
    (peer : SocketAddr) (headers : HeaderMap) :
    clientIp trustedProxies peer headers = determinedIp trustedProxies peer headers ↔
      (isTrustedIp (normalizeIp peer.ip) trustedProxies = true → Undisturbed trustedProxies headers) := by
  unfold determinedIp
  cases hpeer : isTrustedIp (normalizeIp peer.ip) trustedProxies with
  | false =>
    refine iff_of_true ?_ (fun h => by cases h)
    unfold clientIp
    dsimp only
    rw [hpeer]
    exact ite_self _
  | true =>
    have hdue : ∀ ip, (decisive trustedProxies headers).bind entryIp = some ip →
        isTrustedIp ip trustedProxies = false := fun ip h => untrusted_of_decisive h
    rw [if_pos rfl, clientIp_eq hpeer,
      getD_eq_iff hpeer (fun ip h => untrusted_of_foundIp h) hdue, foundIp_eq_iff]
    exact ⟨fun h _ => h, fun h => h rfl⟩

/-- Of two requests that agree from the decisive entry on, the addresses are the same: what stands
to the left of it does not matter, as long as nothing disturbs the search. -/
theorem clientIp_of_decisive {Net : Type} [IpNet Net] {trustedProxies : List Net} {peer : SocketAddr}
    {headers headers' : HeaderMap}
    (h : decisive trustedProxies headers = decisive trustedProxies headers')
    (hun : Undisturbed trustedProxies headers) (hun' : Undisturbed trustedProxies headers') :
    clientIp trustedProxies peer headers = clientIp trustedProxies peer headers' := by
  rw [(clientIp_determined_iff trustedProxies peer headers).mpr fun _ => hun,
    (clientIp_determined_iff trustedProxies peer headers').mpr fun _ => hun', determinedIp,
    determinedIp, h]

/-! ## Proxies -/

namespace Scenario

/-- Networks of one address. -/
@[reducible] def hostNet : IpNet IpAddr where
  isV4
    | .v4 _ => true
    | .v6 _ => false
  contains net ip := net = ip

/-- A header line of visible characters. -/
def xffLine (text : String) (h : ∀ c ∈ text.toList, 32 ≤ c.toNat ∧ c.toNat ≤ 255 ∧ c.toNat ≠ 127) :
    String × HeaderValue :=
  ("x-forwarded-for", ⟨text.toList, fun c hc => .inl (h c hc)⟩)

/-- A text of visible characters. -/
lemma visible_of_all {text : String}
    (h : text.toList.all (fun c => 32 ≤ c.toNat && c.toNat ≤ 255 && c.toNat != 127) = true) :
    ∀ c ∈ text.toList, 32 ≤ c.toNat ∧ c.toNat ≤ 255 ∧ c.toNat ≠ 127 := by
  intro c hc
  simpa [and_assoc] using List.all_eq_true.mp h c hc

/-- A proxy. -/
def proxyIp : IpAddr := .v4 ⟨10, 0, 0, 1⟩

end Scenario

/-- Behind a proxy that adds a port to the address of its peer, and behind one that adds a line of
its own, a client chooses the address under which it is limited. -/
theorem clientIp_spoofed :
    letI := Scenario.hostNet
    let peer : SocketAddr := ⟨Scenario.proxyIp, 443⟩
    let chosen : IpAddr := .v4 ⟨1, 2, 3, 4⟩
    let client : IpAddr := .v4 ⟨203, 0, 113, 42⟩
    let port := Scenario.xffLine "1.2.3.4, 203.0.113.42:5555" (Scenario.visible_of_all rfl)
    let first := Scenario.xffLine "1.2.3.4" (Scenario.visible_of_all rfl)
    let second := Scenario.xffLine "203.0.113.42" (Scenario.visible_of_all rfl)
    clientIp [Scenario.proxyIp] peer [port] = chosen ∧
      determinedIp [Scenario.proxyIp] peer [port] = Scenario.proxyIp ∧
      clientIp [Scenario.proxyIp] peer [first, second] = chosen ∧
      determinedIp [Scenario.proxyIp] peer [first, second] = client := by
  decide +kernel

end Klynt
