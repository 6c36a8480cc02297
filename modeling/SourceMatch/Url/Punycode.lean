/-!
Punycode: a label with characters beyond ASCII written in ASCII. The plain characters come first;
the others follow in increasing order, each as the distance that a counter over characters and
places has to go, in digits of base 36 whose thresholds adapt.
-/
namespace SourceMatch.Url.Punycode

def digit (n : Nat) : Char :=
  if n < 26 then Char.ofNat ('a'.toNat + n) else Char.ofNat ('0'.toNat + (n - 26))

def threshold (place bias : Nat) : Nat :=
  if place ≤ bias then 1 else if bias + 26 ≤ place then 26 else place - bias

theorem threshold_pos (place bias : Nat) : 0 < threshold place bias := by
  unfold threshold
  split
  · omega
  · split <;> omega

def distance (bias place n : Nat) : List Char :=
  let t := threshold place bias
  if h : n < t then [digit n]
  else digit (t + (n - t) % (36 - t)) :: distance bias (place + 36) ((n - t) / (36 - t))
termination_by n
decreasing_by
  have := threshold_pos place bias
  have := Nat.div_le_self (n - threshold place bias) (36 - threshold place bias)
  omega

def shrink (delta passed : Nat) : Nat × Nat :=
  if 455 < delta then shrink (delta / 35) (passed + 36) else (delta, passed)
termination_by delta
decreasing_by omega

def adapt (delta count : Nat) (first : Bool) : Nat :=
  let delta := if first then delta / 700 else delta / 2
  let (rest, passed) := shrink (delta + delta / count) 0
  passed + 36 * rest / (rest + 38)

structure State where
  written : List Char
  delta : Nat
  bias : Nat
  count : Nat

def State.pass (plain code : Nat) (s : State) (c : Char) : State :=
  if c.toNat < code then { s with delta := s.delta + 1 }
  else if c.toNat = code then
    { written := s.written ++ distance s.bias 36 s.delta
      delta := 0
      bias := adapt s.delta (s.count + 1) (s.count = plain)
      count := s.count + 1 }
  else s

def writeCodes (label : List Char) (plain : Nat) : List Nat → Nat → State → State
  | [], _, s => s
  | code :: codes, next, s =>
    let s := { s with delta := s.delta + (code - next) * (s.count + 1) }
    let s := label.foldl (State.pass plain code) s
    writeCodes label plain codes (code + 1) { s with delta := s.delta + 1 }

def encode (label : List Char) : List Char :=
  let plain := label.filter (·.toNat < 128)
  let codes := ((label.filter (128 ≤ ·.toNat)).map Char.toNat).eraseDups.mergeSort
  let start := if plain.isEmpty then [] else plain ++ ['-']
  (writeCodes label plain.length codes 128 ⟨start, 0, 72, plain.length⟩).written

def digitValue? (c : Char) : Option Nat :=
  if 'a' ≤ c ∧ c ≤ 'z' then some (c.toNat - 'a'.toNat)
  else if 'A' ≤ c ∧ c ≤ 'Z' then some (c.toNat - 'A'.toNat)
  else if c.isDigit then some (c.toNat - '0'.toNat + 26)
  else none

/-- The distance at the beginning of a text, and the rest. `weight` belongs to the next digit; the
counter has 32 bits. -/
def readDistance (bias place weight sum : Nat) : List Char → Option (Nat × List Char)
  | [] => none
  | c :: rest =>
    match digitValue? c with
    | none => none
    | some d =>
      if UInt32.size ≤ sum + d * weight then none
      else if d < threshold place bias then some (sum + d * weight, rest)
      else if UInt32.size ≤ weight * (36 - threshold place bias) then none
      else
        readDistance bias (place + 36) (weight * (36 - threshold place bias)) (sum + d * weight) rest

theorem length_of_readDistance {cs rest : List Char} {bias place weight sum n : Nat}
    (h : readDistance bias place weight sum cs = some (n, rest)) : rest.length < cs.length := by
  induction cs generalizing place weight sum with
  | nil => simp [readDistance] at h
  | cons c cs ih =>
    rw [readDistance] at h
    repeat' split at h
    · simp at h
    · simp at h
    · simp only [Option.some.injEq, Prod.mk.injEq] at h
      simp [h.2]
    · simp at h
    · have := ih h
      simp only [List.length_cons]
      omega

/-- Puts characters into a label. The counter stands at the character `code` and at a place of the
label; a distance moves it over the places, and on to the next character behind the last place. -/
def readCodes (label : List Char) (code place bias : Nat) (cs : List Char) : Option (List Char) :=
  match cs with
  | [] => some label
  | c :: rest =>
    match _h : readDistance bias 36 1 place (c :: rest) with
    | none => none
    | some (sum, rest) =>
      let count := label.length + 1
      let code := code + sum / count
      if !code.isValidChar then none
      else
        readCodes (label.insertIdx (sum % count) (Char.ofNat code)) code (sum % count + 1)
          (adapt (sum - place) count (place = 0)) rest
termination_by cs.length
decreasing_by exact length_of_readDistance ‹_›

def decode? (cs : List Char) : Option (List Char) :=
  match cs.reverse.span (· ≠ '-') with
  | ([], _) => none
  | (codes, []) => readCodes [] 128 0 72 codes.reverse
  | (codes, _ :: plain) =>
    if plain.isEmpty then none else readCodes plain.reverse 128 0 72 codes.reverse

end SourceMatch.Url.Punycode
