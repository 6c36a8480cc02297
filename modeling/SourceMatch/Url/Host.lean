import SourceMatch.Url.Domain

/-!
Hosts of addresses: domains, and numeric addresses of four or sixteen bytes in their one written
form.
-/
namespace SourceMatch.Url

inductive ParseError where
  | relative
  | emptyHost
  | port
  | ipv4
  | ipv6
  | hostCharacter
  | domain
deriving DecidableEq, Repr

def ParseError.message : ParseError → String
  | .relative => "relative URL without a base"
  | .emptyHost => "empty host"
  | .port => "invalid port number"
  | .ipv4 => "invalid IPv4 address"
  | .ipv6 => "invalid IPv6 address"
  | .hostCharacter => "invalid domain character"
  | .domain => "invalid international domain name"

namespace Host

def ipv4Number? (cs : List Char) : Option Nat :=
  let read (base : Nat) (digits : List Char) : Option Nat :=
    digits.foldlM (fun n c => do
      let d ← Percent.hexValue? c
      if d < base then some (n * base + d) else none) 0
  match cs with
  | [] => none
  | '0' :: 'x' :: rest | '0' :: 'X' :: rest => read 16 rest
  | '0' :: d :: rest => read 8 (d :: rest)
  | cs => read 10 cs

def labels (domain : List Char) : List (List Char) :=
  match (Text.splitAtChar '.' domain).reverse with
  | [] :: rest => rest.reverse
  | rest => rest.reverse

def endsInNumber (domain : List Char) : Bool :=
  match (labels domain).getLast? with
  | none => false
  | some [] => false
  | some label => label.all Char.isDigit || (label.take 2).map Char.toLower = ['0', 'x'] &&
      (ipv4Number? label).isSome

def ipv4? (domain : List Char) : Option (List Nat) := do
  let numbers ← (labels domain).mapM ipv4Number?
  match numbers.reverse with
  | [] => none
  | last :: front =>
    if 4 < numbers.length || front.any (255 < ·) || Nat.pow 256 (5 - numbers.length) ≤ last then none
    else
      let bytes := (List.range (5 - numbers.length)).map fun i => last / Nat.pow 256 i % 256
      some (front.reverse ++ bytes.reverse)

def ipv4Text (bytes : List Nat) : List Char :=
  ['.'].intercalate (bytes.map (Nat.toDigits 10))

def group? (cs : List Char) : Option Nat :=
  if cs.isEmpty || 4 < cs.length then none
  else cs.foldlM (fun n c => (Percent.hexValue? c).map (n * 16 + ·)) 0

/-- The last two groups may be written as four numbers without leading zeros. -/
def embedded? (cs : List Char) : Option (List Nat) := do
  let parts := Text.splitAtChar '.' cs
  let bytes ← parts.mapM fun p =>
    if p.isEmpty || !p.all Char.isDigit || (1 < p.length && p.head? = some '0') then none
    else
      let n := p.foldl (fun n c => n * 10 + (c.toNat - '0'.toNat)) 0
      if n < 256 then some n else none
  match bytes with
  | [a, b, c, d] => some [a * 256 + b, c * 256 + d]
  | _ => none

def groups? (last : Bool) (cs : List Char) : Option (List Nat) :=
  if cs.isEmpty then some []
  else go (Text.splitAtChar ':' cs)
where
  go : List (List Char) → Option (List Nat)
    | [] => some []
    | [p] => if last && p.contains '.' then embedded? p else (group? p).map ([·])
    | p :: ps => do return (← group? p) :: (← go ps)

def doubled? : List Char → Option (List Char × List Char)
  | ':' :: ':' :: rest => some ([], rest)
  | c :: rest => (doubled? rest).map fun (a, b) => (c :: a, b)
  | [] => none

def ipv6? (cs : List Char) : Option (List Nat) :=
  match doubled? cs with
  | none => do
    let groups ← groups? true cs
    if groups.length = 8 then some groups else none
  | some (front, back) => do
    let front ← groups? false front
    let back ← groups? true back
    if 7 < front.length + back.length then none
    else some (front ++ List.replicate (8 - front.length - back.length) 0 ++ back)

def zeroRun (groups : List Nat) : Nat := (groups.takeWhile (· = 0)).length

def longestRun (groups : List Nat) : Nat × Nat :=
  (List.range groups.length).foldl (fun best i =>
    let run := zeroRun (groups.drop i)
    if best.2 < run then (i, run) else best) (0, 0)

def ipv6Text (groups : List Nat) : List Char :=
  let write (gs : List Nat) : List Char := [':'].intercalate (gs.map (Nat.toDigits 16))
  let (place, run) := longestRun groups
  if run < 2 then write groups
  else write (groups.take place) ++ [':', ':'] ++ write (groups.drop (place + run))

def special (cs : List Char) : Except ParseError (List Char) :=
  match cs with
  | '[' :: rest => bracketed rest
  | cs =>
    match Domain.inAddress? cs with
    | none => .error .domain
    | some [] => .error .emptyHost
    | some domain =>
      if endsInNumber domain then
        match ipv4? domain with
        | some bytes => .ok (ipv4Text bytes)
        | none => .error .ipv4
      else .ok domain
where
  bracketed (rest : List Char) : Except ParseError (List Char) :=
    match rest.reverse with
    | ']' :: inner =>
      match ipv6? inner.reverse with
      | some groups => .ok ('[' :: ipv6Text groups ++ [']'])
      | none => .error .ipv6
    | _ => .error .ipv6

def isForbiddenPlain (c : Char) : Bool :=
  ['\x00', '\t', '\n', '\x0d', ' ', '#', '/', ':', '<', '>', '?', '@', '[', '\\', ']', '^', '|'
    ].contains c

def plain (cs : List Char) : Except ParseError (List Char) :=
  match cs with
  | '[' :: rest => special.bracketed rest
  | cs =>
    if cs.any isForbiddenPlain then .error .hostCharacter else .ok (Percent.encode .opaquePath cs)

end Host

end SourceMatch.Url
