import Relata.Url.Domain

/-!
Hosts of addresses: names, and numeric addresses of four and of sixteen bytes. Schemes that are
known to name hosts of the internet read names as domain names, and those that end in a number as
numeric; other schemes keep a name as it is.
-/

namespace Relata.Url

inductive UrlFault
  | relativeWithoutBase
  | emptyHost
  | invalidPort
  | invalidIpv4
  | invalidIpv6
  | invalidDomainCharacter
  | invalidDomain
  deriving DecidableEq

def UrlFault.message : UrlFault → String
  | .relativeWithoutBase => "relative URL without a base"
  | .emptyHost => "empty host"
  | .invalidPort => "invalid port number"
  | .invalidIpv4 => "invalid IPv4 address"
  | .invalidIpv6 => "invalid IPv6 address"
  | .invalidDomainCharacter => "invalid domain character"
  | .invalidDomain => "invalid international domain name"

inductive Host
  | name (s : String)
  | v4 (address : Nat)
  /-- Eight groups of two bytes. -/
  | v6 (groups : List Nat)
  deriving DecidableEq

/-- The number of digits in a base, if all of them are digits of the base. -/
def number? (base : Nat) (digits : List Char) : Option Nat :=
  digits.foldl (fun n c => do
    let d ← Text.hexValue? c
    if d < base then return (← n) * base + d else none) (some 0)

/-- A number in decimal, octal with a leading zero or hexadecimal with `0x`. -/
def ipv4Number? : List Char → Option Nat
  | [] => none
  | '0' :: 'x' :: digits => number? 16 digits
  | '0' :: 'X' :: digits => number? 16 digits
  | '0' :: d :: digits => number? 8 (d :: digits)
  | digits => number? 10 digits

/-- The parts of a numeric address; one dot at its end is allowed. -/
def ipv4Parts (domain : List Char) : List (List Char) :=
  let parts := Text.splitOn '.' domain
  if parts.getLast? = some [] then parts.dropLast else parts

def endsInNumber (domain : List Char) : Bool :=
  match (ipv4Parts domain).getLast? with
  | none => false
  | some last => (!last.isEmpty && last.all Char.isDigit) || (ipv4Number? last).isSome

/-- A numeric address of up to four parts; the last part fills the bytes that are left. -/
def ipv4? (domain : List Char) : Option Nat := do
  let parts := ipv4Parts domain
  if parts.length > 4 then none else
  let numbers ← parts.mapM ipv4Number?
  let last ← numbers.getLast?
  let leading := numbers.dropLast
  if leading.any (· > 255) || last ≥ Nat.pow 256 (4 - leading.length) then none
  else
    let high := leading.foldl (fun n part => n * 256 + part) 0
    return high * Nat.pow 256 (4 - leading.length) + last

/-- One group of up to four hexadecimal digits. -/
def ipv6Group? (digits : List Char) : Option Nat :=
  if digits.isEmpty || digits.length > 4 then none else number? 16 digits

/-- One of the four numbers at the end of a sixteen-byte address, without leading zeros. -/
def quadNumber? : List Char → Option Nat
  | [] => none
  | ['0'] => some 0
  | '0' :: _ => none
  | digits => do
    let n ← number? 10 digits
    if n > 255 then none else return n

/-- The last two groups, written as four numbers. -/
def quadGroups? (part : List Char) : Option (List Nat) :=
  match (Text.splitOn '.' part).mapM quadNumber? with
  | some [a, b, c, d] => some [a * 256 + b, c * 256 + d]
  | _ => none

/-- All eight groups: those that were left out at `gap` are zero. -/
def fillGroups (groups : List Nat) (gap : Option Nat) : Option (List Nat) :=
  match gap with
  | none => if groups.length = 8 then some groups else none
  | some i => some (groups.take i ++ List.replicate (8 - groups.length) 0 ++ groups.drop i)

/-- Reads the parts between colons. An empty part marks the one place where groups are left out. -/
def ipv6Parts? : List (List Char) → List Nat → Option Nat → Option (List Nat)
  | [], groups, gap => fillGroups groups gap
  | [part], groups, gap =>
    if part.isEmpty then fillGroups groups gap
    else if groups.length = 8 then none
    else if part.contains '.' then
      if groups.length > 6 then none
      else do fillGroups (groups ++ (← quadGroups? part)) gap
    else do fillGroups (groups ++ [← ipv6Group? part]) gap
  | part :: next :: rest, groups, gap =>
    if groups.length = 8 then none
    else if part.isEmpty then
      if gap.isSome then none
      else ipv6Parts? (next :: rest) (groups ++ [0]) (some (groups.length + 1))
    else if next.isEmpty && rest.isEmpty then none
    else do ipv6Parts? (next :: rest) (groups ++ [← ipv6Group? part]) gap

def ipv6? (text : List Char) : Option (List Nat) :=
  match Text.splitOn ':' text with
  | [] :: [] :: next :: rest => ipv6Parts? (next :: rest) [0] (some 1)
  | [] :: _ => none
  | parts => ipv6Parts? parts [] none

/-- The first longest run of at least two zero groups: where it starts and how long it is. -/
def longestZeros (groups : List Nat) : Option (Nat × Nat) :=
  let runs := (List.range groups.length).map fun i =>
    (i, ((groups.drop i).takeWhile (· == 0)).length)
  let best := runs.foldl (fun best run => if run.2 > best.2 then run else best) (0, 1)
  if best.2 ≥ 2 then some best else none

def hexGroups (groups : List Nat) : String :=
  ":".intercalate (groups.map fun group => String.ofList (Text.hexDigits group))

def Host.display : Host → String
  | .name s => s
  | .v4 address =>
    ".".intercalate ([3, 2, 1, 0].map fun i => toString (address / Nat.pow 256 i % 256))
  | .v6 groups =>
    match longestZeros groups with
    | some (start, length) =>
      let after := groups.drop (start + length)
      "[" ++ hexGroups (groups.take start) ++ "::" ++ hexGroups after ++ "]"
    | none => "[" ++ hexGroups groups ++ "]"

def bracketed (inner : List Char) : Except UrlFault Host :=
  match inner.reverse with
  | ']' :: reversed =>
    match ipv6? reversed.reverse with
    | some groups => .ok (.v6 groups)
    | none => .error .invalidIpv6
  | _ => .error .invalidIpv6

/-- A host under a scheme of no known meaning. -/
def opaqueHost : List Char → Except UrlFault Host
  | '[' :: inner => bracketed inner
  | chars =>
    if chars.any ("\x00\t\n\r #/:<>?@[\\]^|".toList.contains ·) then
      .error .invalidDomainCharacter
    else .ok (.name (encode controls chars))

/-- A host under a scheme that names hosts of the internet. -/
def domainHost : List Char → Except UrlFault Host
  | '[' :: inner => bracketed inner
  | chars =>
    match (String.fromUTF8? ⟨(decodeBytes chars).toArray⟩).bind (asciiDomain? ·.toList) with
    | none => .error .invalidDomain
    | some domain =>
      if domain.isEmpty then .error .emptyHost
      else if endsInNumber domain then
        match ipv4? domain with
        | some address => .ok (.v4 address)
        | none => .error .invalidIpv4
      else .ok (.name (String.ofList domain))

end Relata.Url
