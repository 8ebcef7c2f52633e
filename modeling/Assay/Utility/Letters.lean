import Assay.Utility.Copying

/-!
Characters one by one: others in their place, fewer of them, or in another order.
-/

namespace Assay.Utility

inductive SetPart
  | chars (members : List Char)
  | named (name : String) (members : List Char)
  | copies (c : Char) (count : Option Nat)

namespace SetPart

def everyChar : List Char := (List.range 256).map Char.ofNat

def members : SetPart → List Char
  | chars members => members
  | named _ members => members
  | copies c count => List.replicate (count.getD 0) c

/-- The character that an escape stands for, and what follows. The first character is the one behind
the backslash. -/
def escaped (c : Char) (rest : List Char) : Char × List Char :=
  let isOctal := fun d : Char => '0' ≤ d && d ≤ '7'
  if isOctal c then
    let digits := (c :: rest).take 3 |>.takeWhile isOctal
    let value := Text.valueIn 8 digits
    if value < 256 then (Char.ofNat value, (c :: rest).drop digits.length)
    else (Char.ofNat (Text.valueIn 8 (digits.take 2)), (c :: rest).drop 2)
  else
    let plain := match c with
      | 'a' => '\x07'
      | 'b' => '\x08'
      | 'f' => '\x0c'
      | 'n' => '\n'
      | 'r' => '\r'
      | 't' => '\t'
      | 'v' => '\x0b'
      | other => other
    (plain, rest)

def unescaped : Nat → List Char → List (Char × Bool)
  | 0, _ => []
  | _, [] => []
  | fuel + 1, '\\' :: c :: rest =>
    let (meant, after) := escaped c rest
    (meant, true) :: unescaped fuel after
  | fuel + 1, c :: rest => (c, false) :: unescaped fuel rest

def writtenChar (c : Char) : String :=
  if Text.isGraphic c ∨ c = ' ' then String.ofList [c]
  else
    let digits := Nat.toDigits 8 c.toNat
    "\\" ++ String.ofList (List.replicate (3 - digits.length) '0' ++ digits)

def bracketed? (mark : Char) (text : List (Char × Bool)) : Option (List Char × List (Char × Bool)) :=
  go (text.length + 1) [] text
where
  go : Nat → List Char → List (Char × Bool) → Option (List Char × List (Char × Bool))
    | 0, _, _ => none
    | fuel + 1, taken, (c, plain) :: (d, other) :: rest =>
      if c = mark ∧ d = ']' ∧ !plain ∧ !other then some (taken.reverse, rest)
      else go fuel (c :: taken) ((d, other) :: rest)
    | _, _, _ => none

def countOf? (digits : List Char) : Option (Option Nat) :=
  match digits with
  | [] => some none
  | '0' :: rest =>
    if rest.all fun d => '0' ≤ d && d ≤ '7' then
      some (if Text.valueIn 8 rest = 0 then none else some (Text.valueIn 8 rest))
    else none
  | _ => if digits.all Char.isDigit then some (some (Text.valueIn 10 digits)) else none

def readAll : Nat → List (Char × Bool) → Except String (List SetPart)
  | 0, _ => .ok []
  | _, [] => .ok []
  | fuel + 1, (c, marked) :: rest => do
    let single := do
      match rest with
      | ('-', false) :: (d, _) :: more =>
        if d < c then
          throw ("range-endpoints of '" ++ writtenChar c ++ "-" ++ writtenChar d
            ++ "' are in reverse collating sequence order")
        else
          let span := (List.range (d.toNat - c.toNat + 1)).map fun offset => Char.ofNat (c.toNat + offset)
          return chars span :: (← readAll fuel more)
      | _ => return chars [c] :: (← readAll fuel rest)
    if c = '[' ∧ !marked then
      match rest with
      | (':', false) :: more =>
        match bracketed? ':' more with
        | some (name, after) =>
          match Text.classNamed? (String.ofList name) with
          | some test => return named (String.ofList name) (everyChar.filter test) :: (← readAll fuel after)
          | none => throw ("invalid character class " ++ cited (String.ofList name))
        | none => single
      | ('=', false) :: more =>
        match bracketed? '=' more with
        | some ([d], after) => return chars [d] :: (← readAll fuel after)
        | some (text, _) =>
          throw (String.ofList text ++ ": equivalence class operand must be a single character")
        | none => single
      | (d, _) :: ('*', false) :: more =>
        let digits := (more.map Prod.fst).takeWhile (· ≠ ']')
        match more.drop digits.length, countOf? digits with
        | _ :: after, some count => return copies d count :: (← readAll fuel after)
        | _ :: _, none =>
          throw ("invalid repeat count " ++ cited (String.ofList digits) ++ " in [c*n] construct")
        | [], _ => single
      | _ => single
    else single

def read (text : List Char) : Except String (List SetPart) :=
  readAll (text.length + 1) (unescaped (text.length + 1) text)

end SetPart

def filledTo (size : Nat) (parts : List SetPart) : List Char :=
  let known := (parts.flatMap SetPart.members).length
  parts.flatMap fun part =>
    match part with
    | .copies c none => List.replicate (size - known) c
    | other => other.members

def casePairs : List SetPart → List SetPart → Except String Unit
  | _, [] => .ok ()
  | firsts, .named name _ :: rest =>
    match firsts with
    | .named other _ :: others =>
      if ["upper", "lower"].contains name then
        if ["upper", "lower"].contains other then casePairs others rest
        else .error "misaligned [:upper:] and/or [:lower:] construct"
      else .error "when translating, the only character classes that may appear in\nstring2 are 'upper' and 'lower'"
    | _ =>
      if ["upper", "lower"].contains name then .error "misaligned [:upper:] and/or [:lower:] construct"
      else .error "when translating, the only character classes that may appear in\nstring2 are 'upper' and 'lower'"
  | firsts, part :: rest => casePairs (dropped part.members.length firsts) rest
where
  dropped : Nat → List SetPart → List SetPart
    | _, [] => []
    | 0, parts => parts
    | size, part :: rest =>
      let members := part.members
      if members.length ≤ size then dropped (size - members.length) rest
      else .chars (members.drop size) :: rest

structure Exchange where
  deletes : Char → Bool
  meant : Array Char
  squeezes : Char → Bool

/-- Goes through a text; the state is the last character that was written. -/
def Exchange.through (exchange : Exchange) (last : Option Char) (text : List Char) :
    Option Char × ByteArray :=
  text.foldl (fun (found : Option Char × ByteArray) c =>
    if exchange.deletes c then found
    else
      let d := (exchange.meant[c.toNat]?).getD c
      if found.1 = some d && exchange.squeezes d then found
      else (some d, found.2.push (Octets.byteOf d))) (last, .empty)

def exchangeOn (exchange : Exchange) : Nat → Option Char → Utility Unit
  | 0, _ => return
  | pieces + 1, last => do
    match ← ask (.read 0 8192) with
    | .error fault => fail ("read error: " ++ fault.message)
    | .ok content =>
      if !content.isEmpty then
        let (next, output) := exchange.through last (Octets.chars content)
        emitBytes output
        exchangeOn exchange pieces next

def tableOf (firsts seconds : List Char) : Array Char :=
  (firsts.zip seconds).foldl (fun table (c, d) => table.setIfInBounds c.toNat d)
    SetPart.everyChar.toArray

def setOf (members : List Char) : Char → Bool :=
  let marks := members.foldl (fun marks c => marks.setIfInBounds c.toNat true) (Array.replicate 256 false)
  fun c => (marks[c.toNat]?).getD false

def tr : Program := program do
  let found ← options
    { flags := "cCdst", inOrder := true,
      words := [("complement", "c", false), ("delete", "d", false), ("squeeze-repeats", "s", false),
                ("truncate-set1", "t", false)] }
  let complements := found.has "c" || found.has "C"
  let deletes := found.has "d"
  let squeezes := found.has "s"
  let translates := !deletes && found.operands.length = 2
  let least := if deletes = squeezes then 2 else 1
  let most := if deletes && !squeezes then 1 else 2
  let helpLine := "Try 'tr --help' for more information.\n"
  if found.operands.length < least then
    match found.operands.getLast? with
    | none => misuse "missing operand"
    | some last =>
      warn ("missing operand after " ++ cited last)
      say ((if squeezes then "Two strings must be given when both deleting and squeezing repeats.\n"
        else "Two strings must be given when translating.\n") ++ helpLine)
      throw 1
  if most < found.operands.length then
    warn ("extra operand " ++ cited (found.operands.getD most ""))
    if found.operands.length = 2 then
      say "Only one string may be given when deleting without squeezing repeats.\n"
    say helpLine
    throw 1
  let parse := fun (text : String) => do
    if ((text.toList.reverse.takeWhile (· = '\\')).length) % 2 = 1 then
      warn "warning: an unescaped backslash at end of string is not portable"
    match SetPart.read text.toList with
    | .ok parts => pure parts
    | .error message => fail message
  let firstParts ← parse (found.operands.headD "")
  let secondParts ← match found.operands[1]? with
    | some text => parse text
    | none => pure []
  let plain := firstParts.flatMap SetPart.members
  let firsts := if complements then SetPart.everyChar.filter fun c => !setOf plain c else plain
  let seconds := filledTo firsts.length secondParts
  if translates then
    if seconds.isEmpty && !firsts.isEmpty && !found.has "t" then
      fail "when not truncating set1, string2 must be non-empty"
    match if complements then .ok () else casePairs firstParts secondParts with
    | .ok () => pure ()
    | .error message => fail message
  let padded := if found.has "t" then seconds
    else seconds ++ List.replicate (firsts.length - seconds.length) (seconds.getLast?.getD ' ')
  let exchange : Exchange :=
    { deletes := if deletes then setOf firsts else fun _ => false
      meant := if translates then tableOf firsts padded else SetPart.everyChar.toArray
      squeezes :=
        if !squeezes then fun _ => false
        else if found.operands.length = 2 then setOf seconds else setOf firsts }
  exchangeOn exchange Process.manySteps none

def rev : Program := program do
  waiting
  let found ← options {}
  let turned := if ← spellsWide then Text.Characters.changing List.reverse else List.reverse
  for file in if found.operands.isEmpty then ["-"] else found.operands do
    let step : LineStep Unit := fun _ line complete =>
      { state := (), output := if complete then ended (turned line) else turned line }
    match ← eachLine file {} () step with
    | .ok () => pure ()
    | .error fault => complain ("cannot open " ++ file ++ ": " ++ fault.message)

end Assay.Utility
