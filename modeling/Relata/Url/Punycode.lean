/-!
Punycode: the labels of a domain name in letters, digits and hyphens. The other characters of a
label are written at its end, in ascending order, each as the distance from the one before it;
distances are numbers of variable length in base 36 whose digit thresholds adapt to the distances so
far. Reading puts the characters back one by one; a distance past 32 bits is refused.
-/

namespace Relata.Url.Punycode

def digitChar (d : Nat) : Char :=
  if d < 26 then Char.ofNat ('a'.toNat + d) else Char.ofNat ('0'.toNat + d - 26)

def digitValue? (c : Char) : Option Nat :=
  if 'a' ≤ c ∧ c ≤ 'z' then some (c.toNat - 'a'.toNat)
  else if '0' ≤ c ∧ c ≤ '9' then some (c.toNat - '0'.toNat + 26)
  else none

/-- The threshold of the digit at position `k`. -/
def threshold (k bias : Nat) : Nat :=
  if k ≤ bias then 1 else if bias + 26 ≤ k then 26 else k - bias

theorem threshold_bounds (k bias : Nat) : 1 ≤ threshold k bias ∧ threshold k bias ≤ 26 := by
  unfold threshold
  split
  · omega
  · split <;> omega

/-- A distance as digits, from position `k` on. -/
def digits (bias k n : Nat) : List Char :=
  let t := threshold k bias
  if n < t then [digitChar n]
  else digitChar (t + (n - t) % (36 - t)) :: digits bias (k + 36) ((n - t) / (36 - t))
termination_by n
decreasing_by
  have bounds := threshold_bounds k bias
  have quotient := Nat.div_le_self (n - threshold k bias) (36 - threshold k bias)
  omega

/-- Divides a scaled distance until it is small, and counts the divisions. -/
def shrink (delta k : Nat) : Nat × Nat :=
  if 455 < delta then shrink (delta / 35) (k + 36) else (delta, k)
termination_by delta
decreasing_by exact Nat.div_lt_self (by omega) (by omega)

def adapt (delta points : Nat) (first : Bool) : Nat :=
  let scaled := if first then delta / 700 else delta / 2
  let (rest, k) := shrink (scaled + scaled / points) 0
  k + 36 * rest / (rest + 38)

structure Progress where
  output : List Char
  delta : Nat
  bias : Nat
  written : Nat

/-- Passes one character while the characters with code `point` are written. -/
def visit (basic point : Nat) (progress : Progress) (c : Char) : Progress :=
  if c.toNat < point then { progress with delta := progress.delta + 1 }
  else if c.toNat = point then
    { output := progress.output ++ digits progress.bias 36 progress.delta
      delta := 0
      bias := adapt progress.delta (progress.written + 1) (progress.written == basic)
      written := progress.written + 1 }
  else progress

/-- Writes the characters with the codes `points`, in that order; codes below `start` are done. -/
def writeAll (label : List Char) (basic : Nat) : List Nat → Nat → Progress → Progress
  | [], _, progress => progress
  | point :: points, start, progress =>
    let reached :=
      { progress with delta := progress.delta + (point - start) * (progress.written + 1) }
    let passed := label.foldl (visit basic point) reached
    writeAll label basic points (point + 1) { passed with delta := passed.delta + 1 }

def encode (label : List Char) : List Char :=
  let basic := label.filter (·.toNat < 128)
  let points := ((label.filter (·.toNat ≥ 128)).map Char.toNat).mergeSort.eraseDups
  let separated := if basic.isEmpty then [] else basic ++ ['-']
  (writeAll label basic.length points 128 ⟨separated, 0, 72, basic.length⟩).output

def largestDistance : Nat := 0xFFFFFFFF

/-- Adds the distance that starts a text to `sum`, and gives the text after it. The next digit has
position `k` and counts `weight` times. -/
def readDistance (bias k weight sum : Nat) : List Char → Option (Nat × List Char)
  | [] => none
  | c :: rest =>
    match digitValue? c with
    | none => none
    | some d =>
      let t := threshold k bias
      if largestDistance < sum + d * weight then none
      else if d < t then some (sum + d * weight, rest)
      else if largestDistance < weight * (36 - t) then none
      else readDistance bias (k + 36) (weight * (36 - t)) (sum + d * weight) rest

theorem length_of_readDistance {bias k weight sum total : Nat} {chars rest : List Char}
    (read : readDistance bias k weight sum chars = some (total, rest)) :
    rest.length < chars.length := by
  induction chars generalizing k weight sum with
  | nil => simp [readDistance] at read
  | cons c after ih =>
    unfold readDistance at read
    split at read
    · simp at read
    · simp only at read
      split at read
      · simp at read
      · split at read
        · simp only [Option.some.injEq, Prod.mk.injEq] at read
          simp [read.2]
        · split at read
          · simp at read
          · have shorter := ih read
            simp only [List.length_cons]
            omega

/-- Puts characters into a label, each by its distance from the one before it, which had the code
`point` and stood before `place`. -/
def insertAll (bias point place : Nat) (label digits : List Char) : Option (List Char) :=
  if digits.isEmpty then some label
  else
    match _read : readDistance bias 36 1 place digits with
    | none => none
    | some (total, rest) =>
      let count := label.length + 1
      let next := point + total / count
      if next.isValidChar then
        let before := label.take (total % count)
        let after := label.drop (total % count)
        insertAll (adapt (total - place) count (place == 0)) next (total % count + 1)
          (before ++ Char.ofNat next :: after) rest
      else none
termination_by digits.length
decreasing_by exact length_of_readDistance _read

def decode? (code : List Char) : Option (List Char) :=
  match code.reverse.span (· != '-') with
  | (_, ['-']) => none
  | (digits, _ :: basic) =>
    if basic.all (·.toNat < 128) then insertAll 72 128 0 basic.reverse digits.reverse else none
  | (digits, []) => insertAll 72 128 0 [] digits.reverse

end Relata.Url.Punycode
