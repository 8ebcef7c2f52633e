import Assay.Utility.Copying

/-!
Numbers as products of primes.
-/

namespace Assay.Utility

namespace Factors

/-- A power of a number, but for multiples of a modulus; the first number bounds the bits of the exponent. -/
def power (modulus : Nat) : Nat → Nat → Nat → Nat
  | 0, _, _ => 1 % modulus
  | fuel + 1, base, exponent =>
    if exponent = 0 then 1 % modulus
    else
      let half := power modulus fuel (base * base % modulus) (exponent / 2)
      if exponent % 2 = 1 then half * base % modulus else half

def halved : Nat → Nat → Nat × Nat
  | 0, n => (0, n)
  | fuel + 1, n =>
    if n % 2 = 0 ∧ n ≠ 0 then
      let (count, rest) := halved fuel (n / 2)
      (count + 1, rest)
    else (0, n)

def reachesMinusOne (modulus : Nat) : Nat → Nat → Bool
  | 0, _ => false
  | count + 1, residue => residue = modulus - 1 || reachesMinusOne modulus count (residue * residue % modulus)

def bases : List Nat := [2, 3, 5, 7, 11, 13, 17, 19, 23, 29, 31, 37, 41, 43, 47]

def isPrime (n : Nat) : Bool :=
  if n < 2 then false
  else if bases.contains n then true
  else if bases.any fun p => n % p = 0 then false
  else
    let bits := Nat.log2 n + 1
    let (count, odd) := halved bits (n - 1)
    bases.all fun base =>
      let residue := power n bits base odd
      residue = 1 || reachesMinusOne n count residue

/-- Divides by small numbers as long as that is possible: the factors found, and what is left. -/
def trial : Nat → Nat → Nat → List Nat → List Nat × Nat
  | 0, _, n, found => (found, n)
  | fuel + 1, divisor, n, found =>
    if n < divisor * divisor then (found, n)
    else if n % divisor = 0 then trial fuel divisor (n / divisor) (divisor :: found)
    else trial fuel (if divisor = 2 then 3 else divisor + 2) n found

/-- Two walks of different speed over the residues; where they meet but for a factor, that factor is found. -/
def walk (n shift : Nat) : Nat → Nat → Nat → Option Nat
  | 0, _, _ => none
  | fuel + 1, slow, fast =>
    let step := fun x : Nat => (x * x + shift) % n
    let slower := step slow
    let faster := step (step fast)
    let divisor := Nat.gcd (if slower < faster then faster - slower else slower - faster) n
    if divisor = 1 then walk n shift fuel slower faster
    else if divisor = n then none
    else some divisor

def divisor? (n : Nat) : Nat → Option Nat
  | 0 => none
  | tries + 1 => (walk n (tries + 1) 4000000 2 2).orElse fun _ => divisor? n tries

/-- The prime factors of what small divisors have left; the number bounds how deep factors are taken apart. -/
def large : Nat → Nat → List Nat
  | 0, n => [n]
  | fuel + 1, n =>
    if n = 1 then []
    else if isPrime n then [n]
    else
      match divisor? n 20 with
      | some divisor => large fuel divisor ++ large fuel (n / divisor)
      | none => [n]

def of (n : Nat) : List Nat :=
  if n < 2 then []
  else
    let (small, rest) := trial 5000 2 n []
    let others := if rest = 1 then [] else if rest < 25000000 then [rest] else large 200 rest
    (small ++ others).mergeSort fun a b => a ≤ b

end Factors

def tellFactors (text : String) : Utility Unit := do
  let body := text.toList.dropWhile fun c => c = ' ' || c = '\t'
  let digits := if body.head? = some '+' then body.drop 1 else body
  if digits ≠ [] && digits.all Char.isDigit then
    let n := Text.valueIn 10 digits
    emitText (toString n ++ ":" ++ String.join ((Factors.of n).map fun p => " " ++ toString p) ++ "\n")
  else complain (cited text ++ " is not a valid positive integer")

def factor : Program := program do
  let found ← options {}
  if found.operands.isEmpty then
    match ← lift (Process.readAll 0) with
    | .error fault => fail ("error reading input: " ++ fault.message)
    | .ok content =>
      for word in (Octets.chars content).splitOnP fun c => c = ' ' || c = '\t' || c = '\n' do
        if word ≠ [] then tellFactors (String.ofList word)
  else
    for text in found.operands do tellFactors text

end Assay.Utility
