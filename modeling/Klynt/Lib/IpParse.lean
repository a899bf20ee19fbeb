import Klynt.Lib.IpAddr

set_option relaxedAutoImplicit false
set_option autoImplicit false

/-!
# Reading internet addresses

The reader of the standard library for addresses of both versions: each stage takes what it reads
from the beginning of a text and leaves the rest.

## Main definitions

* `readIpv4Addr`, `readIpv6Addr` — an address at the beginning of a text.
* `IpAddr.parse` — the address that a whole text is.
* `Ipv4Addr.toIpv6Mapped` — the addresses of version 4 within version 6.
-/

/-! ## Numbers -/

/-- The value of a digit in a base. -/
def toDigit (radix : ℕ) (c : Char) : Option ℕ :=
  let value :=
    if c.isDigit then some (c.toNat - '0'.toNat)
    else if 'a' ≤ c ∧ c ≤ 'z' then some (c.toNat - 'a'.toNat + 10)
    else if 'A' ≤ c ∧ c ≤ 'Z' then some (c.toNat - 'A'.toNat + 10)
    else none
  value.filter (· < radix)

/-- `read_number`: a number of at most so many digits and below a bound, with or without zeros at
its beginning. -/
def readNumber (radix maxDigits bound : ℕ) (allowZeroPrefix : Bool) (cs : List Char) :
    Option (ℕ × List Char) :=
  let digits := cs.takeWhile fun c => (toDigit radix c).isSome
  let value := (digits.filterMap (toDigit radix)).foldl (fun n d => n * radix + d) 0
  if digits.length > maxDigits ∨ digits = [] then none
  else if !allowZeroPrefix ∧ digits.head? = some '0' ∧ digits.length > 1 then none
  else if value < bound then some (value, cs.drop digits.length)
  else none

/-- `read_separator`: what comes at an index of a list, after a separator unless it is the first. -/
def readSeparator {α : Type} (sep : Char) (index : ℕ) (inner : List Char → Option (α × List Char))
    (cs : List Char) : Option (α × List Char) :=
  if index = 0 then inner cs
  else match cs with
    | c :: cs => if c = sep then inner cs else none
    | [] => none

/-! ## Version 4 -/

/-- An octet at an index. -/
def readOctet (index : ℕ) (cs : List Char) : Option (BitVec 8 × List Char) :=
  (readSeparator '.' index (readNumber 10 3 256 false) cs).map fun r => (BitVec.ofNat 8 r.1, r.2)

/-- `read_ipv4_addr`. -/
def readIpv4Addr (cs : List Char) : Option (Ipv4Addr × List Char) := do
  let (a, cs) ← readOctet 0 cs
  let (b, cs) ← readOctet 1 cs
  let (c, cs) ← readOctet 2 cs
  let (d, cs) ← readOctet 3 cs
  return (⟨a, b, c, d⟩, cs)

/-! ## Version 6 -/

/-- The groups that were read, and whether the last two of them are an address of version 4. -/
structure Groups where
  /-- The groups. -/
  groups : List (BitVec 16)
  /-- They end with an address of version 4. -/
  ipv4 : Bool
  /-- What is left. -/
  rest : List Char

/-- `read_groups`: at most so many groups, from an index on. -/
def readGroups : ℕ → ℕ → List Char → Groups
  | 0, _, cs => ⟨[], false, cs⟩
  | limit + 1, index, cs =>
    match if 0 < limit then readSeparator ':' index readIpv4Addr cs else none with
    | some (ip, rest) => ⟨[ip.a ++ ip.b, ip.c ++ ip.d], true, rest⟩
    | none =>
      match readSeparator ':' index (readNumber 16 4 65536 true) cs with
      | some (group, rest) =>
        let more := readGroups limit (index + 1) rest
        { more with groups := BitVec.ofNat 16 group :: more.groups }
      | none => ⟨[], false, cs⟩

/-- There are at most so many groups. -/
lemma length_readGroups (limit index : ℕ) (cs : List Char) :
    (readGroups limit index cs).groups.length ≤ limit := by
  induction limit generalizing index cs with
  | zero => exact le_refl 0
  | succ limit ih =>
    unfold readGroups
    split
    · rename_i heq
      split at heq
      · rename_i hlimit
        exact Nat.succ_le_succ hlimit
      · cases heq
    · split
      · rename_i group rest _
        exact Nat.succ_le_succ (ih (index + 1) rest)
      · exact Nat.zero_le _

/-- `read_ipv6_addr`: eight groups, or two colons in the place of some of them. -/
def readIpv6Addr (cs : List Char) : Option (Ipv6Addr × List Char) :=
  let head := readGroups 8 0 cs
  if h : head.groups.length = 8 then some (⟨head.groups, h⟩, head.rest)
  else if head.ipv4 then none
  else match head.rest with
    | ':' :: ':' :: cs =>
      let tail := readGroups (7 - head.groups.length) 0 cs
      let zeroes := 8 - head.groups.length - tail.groups.length
      some (⟨head.groups ++ List.replicate zeroes 0 ++ tail.groups, by
        have hhead : head.groups.length ≤ 8 := length_readGroups 8 0 _
        have htail : tail.groups.length ≤ 7 - head.groups.length := length_readGroups _ 0 cs
        rw [List.length_append, List.length_append, List.length_replicate]
        omega⟩, tail.rest)
    | _ => none

/-! ## Addresses -/

namespace IpAddr

/-- `read_ip_addr`. -/
def read (cs : List Char) : Option (IpAddr × List Char) :=
  match readIpv4Addr cs with
  | some (ip, rest) => some (.v4 ip, rest)
  | none => (readIpv6Addr cs).map fun r => (.v6 r.1, r.2)

/-- `IpAddr::from_str`. -/
def parse (text : String) : Option IpAddr :=
  match read text.toList with
  | some (ip, []) => some ip
  | _ => none

end IpAddr

/-- `to_ipv6_mapped`. -/
def Ipv4Addr.toIpv6Mapped (ip : Ipv4Addr) : Ipv6Addr where
  segments := [0, 0, 0, 0, 0, 0xFFFF, ip.a ++ ip.b, ip.c ++ ip.d]
  length := rfl

example : IpAddr.parse "::ffff:10.0.0.2" =
    some (.v6 (Ipv4Addr.toIpv6Mapped ⟨10, 0, 0, 2⟩)) := by decide +kernel
