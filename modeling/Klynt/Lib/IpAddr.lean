import Mathlib.Data.List.Basic
import Mathlib.Data.List.TakeWhile
import Mathlib.Tactic.Common

set_option relaxedAutoImplicit false
set_option autoImplicit false

/-!
# Texts of internet addresses

The texts of addresses of both versions: decimal octets between dots, and hexadecimal groups
between colons, where the first longest run of at least two zero groups is left out.

## Main definitions

* `Ipv4Addr`, `Ipv6Addr`, `IpAddr` — addresses.
* `Ipv4Addr.display`, `Ipv6Addr.display`, `IpAddr.display` — their texts.

## Main results

* `IpAddr.display_injective` — addresses with the same text are the same.
-/

/-! ## Digits -/

/-- Digits below 16 are distinct. -/
lemma digitChar_inj : ∀ m < 16, ∀ n < 16, Nat.digitChar m = Nat.digitChar n → m = n := by decide

/-- **Numbers with the same digits are the same**, in a base up to 16. -/
lemma toDigits_inj {b : ℕ} (hb : 1 < b) (hb' : b ≤ 16) {m n : ℕ}
    (h : Nat.toDigits b m = Nat.toDigits b n) : m = n := by
  induction m using Nat.strong_induction_on generalizing n with
  | _ m ih =>
    rw [Nat.toDigits_eq_if hb, Nat.toDigits_eq_if (n := n) hb] at h
    split_ifs at h with hm hn hn
    · exact digitChar_inj m (by omega) n (by omega) (List.singleton_inj.mp h)
    · have hlength := congrArg List.length h
      have hpos : 0 < (Nat.toDigits b (n / b)).length := Nat.length_toDigits_pos
      rw [List.length_singleton, List.length_append, List.length_singleton] at hlength
      omega
    · have hlength := congrArg List.length h
      have hpos : 0 < (Nat.toDigits b (m / b)).length := Nat.length_toDigits_pos
      rw [List.length_singleton, List.length_append, List.length_singleton] at hlength
      omega
    · obtain ⟨hdiv, hmod⟩ := List.append_inj' h rfl
      have hquot := ih (m / b) (Nat.div_lt_self (by omega) hb) hdiv
      have hrem := digitChar_inj (m % b) ((Nat.mod_lt m (by omega)).trans_le hb') (n % b)
        ((Nat.mod_lt n (by omega)).trans_le hb') (List.singleton_inj.mp hmod)
      rw [← Nat.div_add_mod m b, ← Nat.div_add_mod n b, hquot, hrem]

/-- No digit of a number is a delimiter. -/
lemma not_mem_toDigits {b : ℕ} (hb : 1 < b) (hb' : b ≤ 16) (n : ℕ) :
    '.' ∉ Nat.toDigits b n ∧ ':' ∉ Nat.toDigits b n := by
  induction n using Nat.strong_induction_on with
  | _ n ih =>
    rw [Nat.toDigits_eq_if hb]
    split
    · simp
    · obtain ⟨hdots, hcolons⟩ := ih (n / b) (Nat.div_lt_self (by omega) hb)
      simp [hdots, hcolons]

/-! ## Version 4 -/

/-- An address of four octets. -/
structure Ipv4Addr where
  /-- The first octet. -/
  a : BitVec 8
  /-- The second octet. -/
  b : BitVec 8
  /-- The third octet. -/
  c : BitVec 8
  /-- The fourth octet. -/
  d : BitVec 8
  deriving DecidableEq

namespace Ipv4Addr

/-- An octet in decimal digits. -/
def octet (n : BitVec 8) : List Char := Nat.toDigits 10 n.toNat

/-- The octets between dots. -/
def display (ip : Ipv4Addr) : List Char :=
  List.intercalate ['.'] [octet ip.a, octet ip.b, octet ip.c, octet ip.d]

/-- An octet has no delimiters. -/
lemma not_mem_octet (n : BitVec 8) : '.' ∉ octet n ∧ ':' ∉ octet n :=
  not_mem_toDigits (by omega) (by omega) _

/-- The octets of a text. -/
lemma splitOn_display (ip : Ipv4Addr) :
    ip.display.splitOn '.' = [octet ip.a, octet ip.b, octet ip.c, octet ip.d] := by
  refine List.splitOn_intercalate '.' ?_ (List.cons_ne_nil _ _)
  simp [not_mem_octet]

/-- **Addresses of version 4 with the same text are the same.** -/
lemma display_injective : Function.Injective display := by
  intro x y h
  have hoctet : ∀ m n : BitVec 8, octet m = octet n → m = n := fun m n h =>
    BitVec.eq_of_toNat_eq (toDigits_inj (by omega) (by omega) h)
  have hparts := (splitOn_display x).symm.trans ((congrArg (List.splitOn '.') h).trans
    (splitOn_display y))
  obtain ⟨ha, hrest⟩ := List.cons.inj hparts
  obtain ⟨hb, hrest⟩ := List.cons.inj hrest
  obtain ⟨hc, hrest⟩ := List.cons.inj hrest
  obtain ⟨hd, -⟩ := List.cons.inj hrest
  obtain ⟨a, b, c, d⟩ := x
  obtain ⟨a', b', c', d'⟩ := y
  rw [hoctet a a' ha, hoctet b b' hb, hoctet c c' hc, hoctet d d' hd]

/-- A text of version 4 has dots, and no colons. -/
lemma mem_display (ip : Ipv4Addr) : '.' ∈ ip.display ∧ ':' ∉ ip.display := by
  simp [display, List.intercalate, not_mem_octet]

end Ipv4Addr

/-! ## Version 6 -/

/-- An address of eight groups. -/
structure Ipv6Addr where
  /-- The groups. -/
  segments : List (BitVec 16)
  /-- There are eight. -/
  length : segments.length = 8
  deriving DecidableEq

namespace Ipv6Addr

/-- A group in hexadecimal digits. -/
def group (n : BitVec 16) : List Char := Nat.toDigits 16 n.toNat

/-- Groups between colons. -/
def groups (l : List (BitVec 16)) : List Char := List.intercalate [':'] (l.map group)

/-- A run of zero groups: where it starts, and its length. -/
structure Span where
  /-- Where it starts. -/
  start : ℕ
  /-- The length. -/
  len : ℕ

/-- One more group is seen, at an index: the longest run, and the run that may go on. -/
def Span.next (spans : Span × Span) (segment : BitVec 16 × ℕ) : Span × Span :=
  if segment.1 = 0 then
    let current : Span :=
      { start := if spans.2.len = 0 then segment.2 else spans.2.start, len := spans.2.len + 1 }
    (if current.len > spans.1.len then current else spans.1, current)
  else (spans.1, ⟨0, 0⟩)

/-- The first longest run of zero groups. -/
def zeroes (segments : List (BitVec 16)) : Span :=
  (segments.zipIdx.foldl Span.next (⟨0, 0⟩, ⟨0, 0⟩)).1

/-- `to_ipv4_mapped`. -/
def toIpv4Mapped (ip : Ipv6Addr) : Option Ipv4Addr :=
  match ip.segments with
  | [0, 0, 0, 0, 0, 0xffff, ab, cd] =>
    some ⟨ab.extractLsb' 8 8, ab.extractLsb' 0 8, cd.extractLsb' 8 8, cd.extractLsb' 0 8⟩
  | _ => none

/-- The text: a mapped address of version 4, or the groups without the longest run of zeros. -/
def display (ip : Ipv6Addr) : List Char :=
  match ip.toIpv4Mapped with
  | some ipv4 => "::ffff:".toList ++ ipv4.display
  | none =>
    if 1 < (zeroes ip.segments).len then
      groups (ip.segments.take (zeroes ip.segments).start) ++ ':' :: ':' ::
        groups (ip.segments.drop ((zeroes ip.segments).start + (zeroes ip.segments).len))
    else groups ip.segments

/-! ### The run of zeros -/

/-- A run of zero groups is where the span says. -/
def Span.Zeros (span : Span) (l : List (BitVec 16)) : Prop :=
  span.start + span.len ≤ l.length ∧
    ∀ i, span.start ≤ i → i < span.start + span.len → l[i]? = some 0

/-- The runs after some groups: both are runs of zeros, and the second one ends where the groups
end. -/
def Seen (l : List (BitVec 16)) (spans : Span × Span) : Prop :=
  spans.1.Zeros l ∧ spans.2.Zeros l ∧ (0 < spans.2.len → spans.2.start + spans.2.len = l.length)

/-- A run stays where it is. -/
lemma Span.Zeros.append {span : Span} {l : List (BitVec 16)} (h : span.Zeros l) (n : BitVec 16) :
    span.Zeros (l ++ [n]) := by
  obtain ⟨hle, hzero⟩ := h
  refine ⟨by rw [List.length_append]; omega, fun i hi hi' => ?_⟩
  rw [List.getElem?_append_left (by omega)]
  exact hzero i hi hi'

/-- A run that ends where the groups end goes on with a zero, or starts with it. -/
lemma Span.Zeros.grow {span : Span} {l : List (BitVec 16)} (h : span.Zeros l)
    (hend : 0 < span.len → span.start + span.len = l.length) :
    Span.Zeros ⟨if span.len = 0 then l.length else span.start, span.len + 1⟩ (l ++ [0]) ∧
      (if span.len = 0 then l.length else span.start) + (span.len + 1) = (l ++ [0]).length := by
  obtain ⟨hle, hzero⟩ := h
  have hlast : (if span.len = 0 then l.length else span.start) + (span.len + 1) =
      (l ++ [0]).length := by
    rw [List.length_append, List.length_singleton]
    split_ifs with hlen
    · omega
    · have hat := hend (Nat.pos_of_ne_zero hlen)
      omega
  refine ⟨⟨hlast.le, fun i hi hi' => ?_⟩, hlast⟩
  dsimp only at hi hi'
  rw [hlast, List.length_append, List.length_singleton] at hi'
  rcases Nat.lt_or_ge i l.length with hlt | hge
  · rw [List.getElem?_append_left hlt]
    split_ifs at hi with hlen
    · omega
    · have hat := hend (Nat.pos_of_ne_zero hlen)
      exact hzero i hi (by omega)
  · obtain rfl : i = l.length := by omega
    exact List.getElem?_concat_length

/-- One more group. -/
lemma Seen.next {l : List (BitVec 16)} {spans : Span × Span} (h : Seen l spans) (n : BitVec 16) :
    Seen (l ++ [n]) (Span.next spans (n, l.length)) := by
  obtain ⟨hlongest, hcurrent, hend⟩ := h
  unfold Span.next
  split
  · rename_i hzero
    obtain rfl : n = 0 := hzero
    obtain ⟨hgrown, hlast⟩ := hcurrent.grow hend
    refine ⟨?_, hgrown, fun _ => hlast⟩
    dsimp only
    split
    · exact hgrown
    · exact hlongest.append 0
  · exact ⟨hlongest.append n, ⟨Nat.zero_le _, fun i _ hi => absurd hi (Nat.not_lt_zero i)⟩, nofun⟩

/-- **The longest run of zeros** is a run of zeros. -/
lemma zeroes_zeros (segments : List (BitVec 16)) : (zeroes segments).Zeros segments := by
  have hseen : ∀ (l seen : List (BitVec 16)) (spans : Span × Span), Seen seen spans →
      Seen (seen ++ l) ((l.zipIdx seen.length).foldl Span.next spans) := by
    intro l
    induction l with
    | nil =>
      intro seen spans h
      rwa [List.append_nil]
    | cons n l ih =>
      intro seen spans h
      have hrest := ih (seen ++ [n]) _ (h.next n)
      rwa [List.append_assoc, List.length_append] at hrest
  have hnone : Span.Zeros ⟨0, 0⟩ [] := ⟨le_refl _, fun i _ hi => absurd hi (Nat.not_lt_zero i)⟩
  exact (hseen segments [] (⟨0, 0⟩, ⟨0, 0⟩) ⟨hnone, hnone, nofun⟩).1

/-- Groups are those before a run of zeros, zeros, and those after it. -/
lemma Span.Zeros.split {span : Span} {l : List (BitVec 16)} (h : span.Zeros l) :
    l = l.take span.start ++ List.replicate span.len 0 ++ l.drop (span.start + span.len) := by
  obtain ⟨hle, hzero⟩ := h
  have hmid : (l.drop span.start).take span.len = List.replicate span.len 0 := by
    refine List.eq_replicate_iff.mpr ⟨?_, fun n hn => ?_⟩
    · rw [List.length_take, List.length_drop]
      omega
    · obtain ⟨i, hi⟩ := List.mem_iff_getElem?.mp hn
      rw [List.getElem?_take] at hi
      split_ifs at hi with hlt
      rw [List.getElem?_drop, hzero _ (by omega) (by omega)] at hi
      exact (Option.some.inj hi).symm
  have hrest : l.drop (span.start + span.len) = (l.drop span.start).drop span.len := by
    rw [List.drop_drop]
  rw [← hmid, hrest, List.append_assoc, List.take_append_drop, List.take_append_drop]

/-! ### The parts of a text -/

/-- A group has no delimiters, and at least one digit. -/
lemma not_mem_group (n : BitVec 16) : '.' ∉ group n ∧ ':' ∉ group n :=
  not_mem_toDigits (by omega) (by omega) _

/-- Groups with the same digits are the same. -/
lemma group_injective : Function.Injective group := fun _ _ h =>
  BitVec.eq_of_toNat_eq (toDigits_inj (by omega) (by omega) h)

/-- Groups between colons, cut at the colons. -/
lemma splitOn_groups (l : List (BitVec 16)) :
    (groups l).splitOn ':' = if l = [] then [[]] else l.map group := by
  split_ifs with h
  · rw [h]
    rfl
  · refine List.splitOn_intercalate ':' ?_ (by simpa using h)
    rintro part hpart
    obtain ⟨n, -, rfl⟩ := List.mem_map.mp hpart
    exact (not_mem_group n).2

/-- The parts before an empty one. -/
lemma takeWhile_parts (parts rest : List (List Char)) (h : ∀ part ∈ parts, part ≠ []) :
    ((if parts = [] then [[]] else parts) ++ [] :: rest).takeWhile (· ≠ []) = parts := by
  split_ifs with hnil
  · rw [hnil]
    rfl
  · rw [List.takeWhile_append_of_pos fun part hpart => decide_eq_true (h part hpart)]
    simp

/-- The groups before a run that is left out, read off a text. -/
lemma map_group_eq_takeWhile (l : List (BitVec 16)) (rest : List (List Char)) :
    ((groups l).splitOn ':' ++ [] :: rest).takeWhile (· ≠ []) = l.map group := by
  have hparts : ∀ part ∈ l.map group, part ≠ [] := by
    rintro part hpart
    obtain ⟨n, -, rfl⟩ := List.mem_map.mp hpart
    exact Nat.toDigits_ne_nil
  have h := takeWhile_parts (l.map group) rest hparts
  rw [splitOn_groups]
  simpa only [List.map_eq_nil_iff] using h

/-- The groups after a run that is left out, read off a text from its end. -/
lemma map_group_reverse_eq_takeWhile (l : List (BitVec 16)) (rest : List (List Char)) :
    (((groups l).splitOn ':').reverse ++ [] :: rest).takeWhile (· ≠ []) = (l.map group).reverse := by
  have hparts : ∀ part ∈ (l.map group).reverse, part ≠ [] := by
    rintro part hpart
    obtain ⟨n, -, rfl⟩ := List.mem_map.mp (List.mem_reverse.mp hpart)
    exact Nat.toDigits_ne_nil
  have h := takeWhile_parts (l.map group).reverse rest hparts
  rw [splitOn_groups]
  by_cases hl : l = []
  · rw [if_pos hl, hl]
    rfl
  · rw [if_neg hl]
    rwa [if_neg (by simpa using hl)] at h

/-- The parts of a text with a run that is left out. -/
lemma splitOn_compressed (l r : List (BitVec 16)) :
    (groups l ++ ':' :: ':' :: groups r).splitOn ':' =
      (groups l).splitOn ':' ++ [] :: (groups r).splitOn ':' := by
  have hrest : (':' :: groups r).splitOn ':' = [] :: (groups r).splitOn ':' :=
    List.splitOn_append_cons_self_of_not_mem (List.not_mem_nil) _
  rw [List.splitOn_append_cons_self, hrest]

/-- Texts with a run that is left out are the same for the same groups only. -/
lemma compressed_inj {l l' r r' : List (BitVec 16)}
    (h : groups l ++ ':' :: ':' :: groups r = groups l' ++ ':' :: ':' :: groups r') :
    l = l' ∧ r = r' := by
  have hparts := congrArg (List.splitOn ':') h
  rw [splitOn_compressed, splitOn_compressed] at hparts
  constructor
  · have hleft := congrArg (List.takeWhile (· ≠ [])) hparts
    rw [map_group_eq_takeWhile, map_group_eq_takeWhile] at hleft
    exact List.map_injective_iff.mpr group_injective hleft
  · have hright := congrArg (fun parts => parts.reverse.takeWhile (· ≠ [])) hparts
    simp only [List.reverse_append, List.reverse_cons, List.append_assoc, List.singleton_append] at hright
    rw [map_group_reverse_eq_takeWhile, map_group_reverse_eq_takeWhile] at hright
    exact List.map_injective_iff.mpr group_injective (List.reverse_injective hright)

/-- A text with a run that is left out has an empty part, and one without it has not. -/
lemma compressed_ne {l r segments : List (BitVec 16)} (hsegments : segments ≠ []) :
    groups l ++ ':' :: ':' :: groups r ≠ groups segments := by
  intro h
  have hparts := congrArg (List.splitOn ':') h
  rw [splitOn_compressed, splitOn_groups segments, if_neg hsegments] at hparts
  have hmem : [] ∈ segments.map group := by
    rw [← hparts]
    exact List.mem_append_right _ List.mem_cons_self
  obtain ⟨n, -, hn⟩ := List.mem_map.mp hmem
  exact Nat.toDigits_ne_nil hn

/-- Groups between colons have no dots. -/
lemma not_mem_groups (l : List (BitVec 16)) : '.' ∉ groups l := by
  induction l with
  | nil => exact List.not_mem_nil
  | cons n l ih =>
    cases l with
    | nil => simpa [groups] using (not_mem_group n).1
    | cons m l =>
      have hcons : groups (n :: m :: l) = group n ++ ':' :: groups (m :: l) := by
        simp [groups, List.intercalate_cons_cons]
      rw [hcons, List.mem_append, List.mem_cons]
      rintro (hmem | hmem | hmem)
      · exact (not_mem_group n).1 hmem
      · cases hmem
      · exact ih hmem

/-- The groups of a mapped address. -/
lemma segments_of_mapped {ip : Ipv6Addr} {ipv4 : Ipv4Addr} (h : ip.toIpv4Mapped = some ipv4) :
    ip.segments = [0, 0, 0, 0, 0, 0xffff, ipv4.a ++ ipv4.b, ipv4.c ++ ipv4.d] := by
  unfold toIpv4Mapped at h
  split at h
  · rename_i ab cd hsegments
    obtain rfl := Option.some.inj h
    have hsplit : ∀ n : BitVec (8 + 8), n.extractLsb' 8 8 ++ n.extractLsb' 0 8 = n :=
      fun n => BitVec.extractLsb'_append_extractLsb'
    rw [hsegments]
    dsimp only
    rw [hsplit ab, hsplit cd]
    rfl
  · cases h

/-- The text of an address that is not mapped has no dots. -/
lemma not_mem_display {ip : Ipv6Addr} (h : ip.toIpv4Mapped = none) : '.' ∉ ip.display := by
  unfold display
  rw [h]
  dsimp only
  split
  · simp [not_mem_groups]
  · exact not_mem_groups _

/-- The text of an address has colons. -/
lemma mem_display (ip : Ipv6Addr) : ':' ∈ ip.display := by
  unfold display
  split
  · exact List.mem_append_left _ (by decide)
  · split
    · exact List.mem_append_right _ List.mem_cons_self
    · by_contra hno
      have hparts := (List.splitOn_eq_singleton hno).symm.trans (splitOn_groups ip.segments)
      have hlength := ip.length
      split_ifs at hparts with hnil
      · rw [hnil] at hlength
        cases hlength
      · have hone := congrArg List.length hparts
        rw [List.length_map, hlength] at hone
        cases hone

/-- Eight groups, with the longest run of zeros left out or not. -/
lemma segments_inj {l l' : List (BitVec 16)} (hl : l.length = 8) (hl' : l'.length = 8)
    (h : (if 1 < (zeroes l).len then groups (l.take (zeroes l).start) ++ ':' :: ':' ::
          groups (l.drop ((zeroes l).start + (zeroes l).len)) else groups l) =
      if 1 < (zeroes l').len then groups (l'.take (zeroes l').start) ++ ':' :: ':' ::
          groups (l'.drop ((zeroes l').start + (zeroes l').len)) else groups l') : l = l' := by
  have hne : l ≠ [] := List.ne_nil_of_length_pos (by omega)
  have hne' : l' ≠ [] := List.ne_nil_of_length_pos (by omega)
  split_ifs at h
  · obtain ⟨hbefore, hafter⟩ := compressed_inj h
    have hsplit := (zeroes_zeros l).split
    have hsplit' := (zeroes_zeros l').split
    have hlength := congrArg List.length hsplit
    have hlength' := congrArg List.length hsplit'
    rw [hbefore, hafter] at hsplit hlength
    simp only [List.length_append, List.length_replicate] at hlength hlength'
    have hlen : (zeroes l).len = (zeroes l').len := by omega
    rw [hsplit, hlen]
    exact hsplit'.symm
  · exact absurd h (compressed_ne hne')
  · exact absurd h.symm (compressed_ne hne)
  · have hparts := congrArg (List.splitOn ':') h
    rw [splitOn_groups, splitOn_groups, if_neg hne, if_neg hne'] at hparts
    exact List.map_injective_iff.mpr group_injective hparts

/-- **Addresses of version 6 with the same text are the same.** -/
lemma display_injective : Function.Injective display := by
  intro x y h
  have hsegments : x.segments = y.segments := by
    cases hx : x.toIpv4Mapped with
    | some v =>
      cases hy : y.toIpv4Mapped with
      | some v' =>
        unfold display at h
        rw [hx, hy] at h
        obtain rfl := Ipv4Addr.display_injective (List.append_cancel_left h)
        rw [segments_of_mapped hx, segments_of_mapped hy]
      | none =>
        refine absurd ?_ (not_mem_display hy)
        rw [← h]
        unfold display
        rw [hx]
        exact List.mem_append_right _ v.mem_display.1
    | none =>
      cases hy : y.toIpv4Mapped with
      | some v =>
        refine absurd ?_ (not_mem_display hx)
        rw [h]
        unfold display
        rw [hy]
        exact List.mem_append_right _ v.mem_display.1
      | none =>
        unfold display at h
        rw [hx, hy] at h
        dsimp only at h
        exact segments_inj x.length y.length h
  obtain ⟨segments, hlength⟩ := x
  obtain ⟨segments', hlength'⟩ := y
  obtain rfl : segments = segments' := hsegments
  rfl

end Ipv6Addr

/-- An address. -/
inductive IpAddr where
  /-- Of version 4. -/
  | v4 (ip : Ipv4Addr)
  /-- Of version 6. -/
  | v6 (ip : Ipv6Addr)
  deriving DecidableEq

/-- The text of an address. -/
def IpAddr.display : IpAddr → List Char
  | v4 ip => ip.display
  | v6 ip => ip.display

example : IpAddr.display (.v6 ⟨[0x2001, 0xdb8, 0, 0, 1, 0, 0, 1], rfl⟩) =
    "2001:db8::1:0:0:1".toList := by decide

/-- **Addresses with the same text are the same.** -/
theorem IpAddr.display_injective : Function.Injective IpAddr.display := by
  rintro (x | x) (y | y) h
  · exact congrArg v4 (Ipv4Addr.display_injective h)
  · refine absurd (y.mem_display) ?_
    rw [← show x.display = y.display from h]
    exact x.mem_display.2
  · refine absurd (x.mem_display) ?_
    rw [show x.display = y.display from h]
    exact y.mem_display.2
  · exact congrArg v6 (Ipv6Addr.display_injective h)
