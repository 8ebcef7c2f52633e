import Assay.Text.Citation
import Assay.Text.Format
import Assay.Utility.Escape

/-!
What `printf` writes: a format that is used again while it takes arguments and some are left.
-/

namespace Assay.Utility.Printf

structure Printing where
  habit : Escape.Habit
  /-- Some moment in a form: one that is counted in seconds, or one that a number below zero means. -/
  dated : String → Int → List Char := fun _ _ => []
  arguments : List String
  output : List Char := []
  complaints : List String := []
  status : Nat := 0
  stopped : Bool := false

def Printing.manner (printing : Printing) : Manner := printing.habit.manner

abbrev Step (α : Type) := StateM Printing α

def emit (text : List Char) : Step Unit :=
  modify fun state => { state with output := text.reverse ++ state.output }

def complain (message : String) (status : Nat := 1) : Step Unit :=
  modify fun state => { state with complaints := state.complaints ++ [message], status }

def giveUp (message : String) (status : Nat) : Step Unit := do
  complain message status
  modify fun state => { state with stopped := true }

def argument? : Step (Option String) := do
  let state ← get
  match state.arguments with
  | [] => return none
  | first :: rest =>
    set { state with arguments := rest }
    return some first

def notNumeric (manner : Manner) (text : String) (begins : Bool) : String :=
  match manner with
  | .plain => text ++ (if begins then ": not completely converted" else ": expected numeric value")
  | .rich =>
    let octal := "0".isPrefixOf text && (text.toList.drop 1).head?.any Char.isDigit
    text ++ (if octal then ": invalid octal number"
      else if "0x".isPrefixOf text then ": invalid hex number" else ": invalid number")
  | .program =>
    Text.Citation.marked text ++
      (if begins then ": value not completely converted" else ": expected a numeric value")

def tooLarge (manner : Manner) (text : String) : String :=
  match manner with
  | .plain => text ++ ": Numerical result out of range"
  | .rich => "warning: " ++ text ++ ": Numerical result out of range"
  | .program => Text.Citation.marked text ++ ": Numerical result out of range"

def checkRest (text : String) (rest : List Char) (found : Bool) : Step Unit := do
  let manner := (← get).manner
  if rest ≠ [] || (!found && manner = .program) then complain (notNumeric manner text found)

def quotedCode? (wide : Bool) (text : String) : Option Int :=
  match text.toList with
  | q :: rest =>
    if q = '\'' ∨ q = '"' then
      let chars := if wide then Text.Characters.gather rest else rest
      some ((chars.head?.map fun c =>
        if Text.Characters.isStray c then ((rest.headD c).toNat : Int) - (if wide then 256 else 0) else (c.toNat : Int)).getD 0)
    else none
  | [] => none

def integer (signed : Bool) : Step Int := do
  match ← argument? with
  | none => return 0
  | some text =>
    match quotedCode? (← get).habit.wide text with
    | some code => return code
    | none =>
      let scanned := Text.scanInteger false text.toList
      checkRest text scanned.rest scanned.found
      let manner := (← get).manner
      let report : Step Unit :=
        if manner = .rich then
          modify fun state => { state with complaints := state.complaints ++ [tooLarge manner text] }
        else complain (tooLarge manner text)
      if signed then
        if scanned.value > Text.greatestInteger then do report; return Text.greatestInteger
        else if scanned.value < Text.leastInteger then do report; return Text.leastInteger
        else return scanned.value
      else if scanned.value > Text.greatestNatural || -scanned.value > Text.greatestNatural then do
        report
        return Text.greatestNatural
      else return scanned.value % (Text.greatestNatural + 1)

inductive Real
  | binary (x : Quantity)
  | word (negative : Bool) (name : String)

def real : Step Real := do
  let extended : Bool := (← get).manner ≠ .plain
  match ← argument? with
  | none => return .binary (Text.binaryOf extended false 0 0)
  | some text =>
    match quotedCode? (← get).habit.wide text with
    | some code => return .binary (Text.binaryOf extended false code.toNat 0)
    | none =>
      let body := text.toList.dropWhile Text.isSpaceByte
      let (negative, magnitude) : Bool × List Char :=
        match body with
        | '-' :: rest => (true, rest)
        | '+' :: rest => (false, rest)
        | rest => (false, rest)
      let lower := magnitude.map Char.toLower
      match ["infinity", "inf", "nan"].find? fun name => name.toList.isPrefixOf lower with
      | some name =>
        checkRest text (magnitude.drop name.length) true
        return .word negative (if name = "nan" then "nan" else "inf")
      | none =>
        match lower with
        | '0' :: 'x' :: d :: digits =>
          if Text.isDigitIn 16 d then
            let number := (d :: digits).takeWhile (Text.isDigitIn 16)
            checkRest text ((d :: digits).drop number.length) true
            return .binary (Text.binaryOf extended negative (Text.valueIn 16 number) 0)
          else
            checkRest text ('x' :: d :: digits) true
            return .binary (Text.binaryOf extended negative 0 0)
        | _ =>
          match Text.scanDecimal body with
          | some (sign, digits, exponent, rest) =>
            checkRest text rest true
            return .binary (Text.binaryOf extended sign digits exponent)
          | none =>
            checkRest text text.toList false
            return .binary (Text.binaryOf extended false 0 0)

def number? (text : List Char) : Step (Option Int × List Char) := do
  match text with
  | '*' :: rest => return (some (← integer true), rest)
  | _ =>
    let digits := text.takeWhile Char.isDigit
    return (if digits = [] then none else some (Text.valueIn 10 digits : Int), text.drop digits.length)

def layout (text : List Char) : Step (Text.Layout × List Char) := do
  let isFlag := fun c : Char => "#-+ 0".toList.contains c
  let flags := text.takeWhile isFlag
  let (width, afterWidth) ← number? (text.drop flags.length)
  let base := (Text.Layout.withFlags flags).withWidth (width.getD 0)
  match afterWidth with
  | '.' :: more =>
    let (precision, rest) ← number? more
    let places := precision.getD 0
    return ({ base with precision := if places < 0 then none else some places.toNat }, rest)
  | rest => return (base, rest)

/-- A text with backslashes before what is special, or with escapes if some of it cannot be printed. -/
def backslashed (wide : Bool) (text : List Char) : List Char :=
  let all := Text.Citation.pieces wide text
  if all.any fun piece => !piece.2.2 then
    let shown := all.flatMap fun (c, octets, visible) =>
      if c = '\x1b' then ['\\', 'E']
      else if c = '\'' ∨ c = '\\' then ['\\', c]
      else if visible then octets
      else octets.flatMap Text.Citation.octetEscape
    '$' :: '\'' :: shown ++ ['\'']
  else
    let special := fun c : Char => " !\"$&'()*,;<>?[\\]^\x60\x7b|\x7d".toList.contains c
    let front := if text.head? = some '#' || text.head? = some '~' then ['\\'] else []
    front ++ text.flatMap fun c => if special c then ['\\', c] else [c]

def requoted (habit : Escape.Habit) (text : List Char) : List Char :=
  if text = [] then "''".toList
  else if habit.manner = .program then Text.Citation.readable habit.wide [] text
  else backslashed habit.wide text

/-- Carries out one conversion. The result tells whether it takes an argument. -/
def convert (spec : List Char) (form : Text.Layout) (letter : Char) : Step Unit := do
  match letter with
  | 's' => emit (form.text ((← argument?).getD "").toList)
  | 'c' =>
    let first := (← argument?).bind fun text => text.toList.head?
    emit ({ form with precision := none }.text [first.getD '\x00'])
  | 'b' =>
    let state ← get
    let (text, stopped) := Escape.unescape state.habit ((← argument?).getD "").toList
    emit (form.text text)
    if stopped then modify fun after => { after with stopped := true }
  | 'd' | 'i' => emit (form.integer (← integer true))
  | 'o' | 'u' | 'x' | 'X' => emit (form.natural letter (← integer false).toNat)
  | 'e' | 'E' | 'f' | 'F' | 'g' | 'G' | 'a' | 'A' =>
    match ← real with
    | .binary x => emit (form.real letter x)
    | .word negative name =>
      let shown := if letter.isUpper then name.toUpper else name
      emit ({ form with zero := false, precision := none }.text
        ((if negative then ['-'] else if form.plus then ['+'] else []) ++ shown.toList))
  | 'q' =>
    if (← get).manner = .plain then giveUp (String.ofList spec ++ ": invalid directive") 2
    else emit (form.text (requoted (← get).habit ((← argument?).getD "").toList))
  | _ =>
    match (← get).manner with
    | .plain => giveUp (String.ofList spec ++ ": invalid directive") 2
    | .rich => giveUp ("\x60" ++ String.ofList [letter] ++ "': invalid format character") 1
    | .program => giveUp (String.ofList spec ++ ": invalid conversion specification") 1

def dropSizes (manner : Manner) (text : List Char) : List Char :=
  if manner = .plain then text else text.dropWhile fun c => "hlLjzt".toList.contains c

def momentForm? (manner : Manner) (text : List Char) : Option (String × List Char) :=
  match manner, text with
  | .rich, '(' :: rest =>
    (closing 0 rest).bind fun (inside, after) =>
      match after with
      | 'T' :: final => some (String.ofList inside, final)
      | _ => none
  | _, _ => none
where
  closing : Nat → List Char → Option (List Char × List Char)
    | _, [] => none
    | depth, c :: rest =>
      if c = ')' ∧ depth = 0 then some ([], rest)
      else
        (closing (if c = '(' then depth + 1 else if c = ')' then depth - 1 else depth) rest).map
          fun (inside, after) => (c :: inside, after)

def dateOf (layout : Text.Layout) (text : String) : Step Unit := do
  let state ← get
  let seconds ← if state.arguments.isEmpty then pure (-1) else integer true
  emit (layout.text (state.dated (if text = "" then "%X" else text) seconds))

def once : Nat → List Char → Step Unit
  | 0, _ => return
  | _, [] => return
  | fuel + 1, '%' :: '%' :: rest => do
    emit ['%']
    once fuel rest
  | fuel + 1, '%' :: rest => do
    let (form, after) ← layout rest
    let manner := (← get).manner
    let spec := '%' :: rest.take (rest.length - after.length)
    match momentForm? manner after with
    | some (text, final) =>
      dateOf form text
      if (← get).stopped then return else once fuel final
    | none =>
    match dropSizes manner after with
    | [] =>
      match manner with
      | .plain => giveUp "missing format character" 2
      | .rich => giveUp ("\x60" ++ String.ofList spec ++ "': missing format character") 1
      | .program => giveUp (String.ofList spec ++ ": invalid conversion specification") 1
    | letter :: final =>
      convert (spec ++ [letter]) form letter
      if (← get).stopped then return else once fuel final
  | fuel + 1, '\\' :: rest => do
    match Escape.meaning (← get).habit .format rest with
    | .stop => modify fun state => { state with stopped := true }
    | .none =>
      emit ['\\']
      once fuel rest
    | .text content left =>
      emit content
      once fuel left
  | fuel + 1, c :: rest => do
    emit [c]
    once fuel rest

def all (format : List Char) : Nat → Step Unit
  | 0 => return
  | uses + 1 => do
    let before := (← get).arguments.length
    once (format.length + 1) format
    let state ← get
    if state.stopped || state.arguments.isEmpty then return
    else if state.arguments.length = before then
      if state.manner = .program then
        let message := "warning: ignoring excess arguments, starting with "
          ++ Text.Citation.marked (state.arguments.headD "")
        set { state with complaints := state.complaints ++ [message] }
    else all format uses

def printed (start : Printing) (format : String) : Printing :=
  ((all format.toList (start.arguments.length + 1)).run start).2

end Assay.Utility.Printf
