import Assay.Text.Numeral
import Assay.Text.Trial

/-!
How expressions that are tried from left to right are written.
-/

namespace Assay.Text.Trial

inductive Fault
  | danglingBackslash
  | danglingControl
  | unknownEscape
  | disorderedCounts
  | hugeCount
  | openSet
  | disorderedRange
  | nothingRepeated
  | unknownMark
  | classOutside
  | collation
  | openGroup
  | unknownGroup
  | openComment
  | strayClose
  | unsizedBehind
  | manyBranches
  | unknownClass
  | hugeCode
  | unsupported
  | openName
  | twiceNamed
  | digitName
  | missingName
  | malformedProperty
  | unknownProperty
  | classInRange
  | badReference
  | openCall
  | badHex
  | badOctal
  | unknownVerb
deriving DecidableEq

def Fault.message : Fault → String
  | danglingBackslash => "\\ at end of pattern"
  | danglingControl => "\\c at end of pattern"
  | unknownEscape => "unrecognized character follows \\"
  | disorderedCounts => "numbers out of order in \x7b\x7d quantifier"
  | hugeCount => "number too big in \x7b\x7d quantifier"
  | openSet => "missing terminating ] for character class"
  | disorderedRange => "range out of order in character class"
  | nothingRepeated => "quantifier does not follow a repeatable item"
  | unknownMark => "unrecognized character after (? or (?-"
  | classOutside => "POSIX named classes are supported only within a class"
  | collation => "POSIX collating elements are not supported"
  | openGroup => "missing closing parenthesis"
  | unknownGroup => "reference to non-existent subpattern"
  | openComment => "missing ) after (?# comment"
  | strayClose => "unmatched closing parenthesis"
  | unsizedBehind => "lookbehind assertion is not fixed length"
  | manyBranches => "conditional subpattern contains more than two branches"
  | unknownClass => "unknown POSIX class name"
  | hugeCode => "character code point value in \\x\x7b\x7d or \\o\x7b\x7d is too large"
  | unsupported => "PCRE2 does not support \\F, \\L, \\l, \\N\x7bname\x7d, \\U, or \\u"
  | openName => "syntax error in subpattern name (missing terminator?)"
  | twiceNamed => "two named subpatterns have the same name (PCRE2_DUPNAMES not set)"
  | digitName => "subpattern name must start with a non-digit"
  | missingName => "subpattern name expected"
  | malformedProperty => "malformed \\P or \\p sequence"
  | unknownProperty => "unknown property after \\P or \\p"
  | classInRange => "invalid range in character class"
  | badReference =>
    "\\g is not followed by a braced, angle-bracketed, or quoted name/number or by a plain number"
  | openCall => "(?R (recursive pattern call) must be followed by a closing parenthesis"
  | badHex => "non-hex character in \\x\x7b\x7d (closing brace missing?)"
  | badOctal => "non-octal character in \\o\x7b\x7d (closing brace missing?)"
  | unknownVerb => "(*VERB) not recognized or malformed"

structure Switches where
  ignoresCase : Bool := false
  lines : Bool := false
  dotAll : Bool := false
  spaced : Bool := false
  seldom : Bool := false
  unnumbered : Bool := false
  wide : Bool := false
  wideClasses : Bool := false

structure Reader where
  rest : List Char
  switches : Switches
  quoting : Bool := false
  groups : Nat := 0
  base : Option Nat := none
  highest : Nat := 0
  made : List (Nat × Trial) := []
  names : List (String × Nat) := []
  wantedNumbers : List Nat := []
  wantedNames : List String := []
  late : Option Fault := none

abbrev Reading (α : Type) := StateT Reader (Except Fault) α

namespace Reading

def switches : Reading Switches := do return (← get).switches

def rest : Reading (List Char) := do return (← get).rest

def goTo (rest : List Char) : Reading Unit := modify fun state => { state with rest }

def wantNumber (number : Nat) : Reading Unit :=
  modify fun state => { state with wantedNumbers := number :: state.wantedNumbers }

def faultLater (fault : Fault) : Reading Unit :=
  modify fun state => { state with late := state.late.orElse fun _ => some fault }

end Reading

open Reading

def isWordChar (switches : Switches) (c : Char) : Bool :=
  c.isAlphanum || c = '_' || (switches.wideClasses && Alphabet.isLetter c)

def oneOf (switches : Switches) (test : Char → Bool) : Trial :=
  if !switches.ignoresCase then .one test
  else if switches.wide then .one fun c => test c || test (Alphabet.lower c) || test (Alphabet.upper c)
  else .one fun c => test c || test c.toLower || test c.toUpper

def literal (switches : Switches) (wanted : Char) : Trial := oneOf switches (wanted = ·)

def isAcross (c : Char) : Bool := [0x9, 0x20, 0xA0, 0x1680, 0x180E, 0x202F, 0x205F, 0x3000].contains c.toNat
  || (0x2000 ≤ c.toNat && c.toNat ≤ 0x200A)

def isDown (c : Char) : Bool := ('\n' ≤ c && c ≤ '\r') || [0x85, 0x2028, 0x2029].contains c.toNat

/-- The class that a letter stands for; a large letter stands for all others. -/
def classOf? (switches : Switches) : Char → Option (Char → Bool)
  | 'd' => some Char.isDigit
  | 'D' => some fun c => !c.isDigit
  | 'w' => some (isWordChar switches)
  | 'W' => some fun c => !isWordChar switches c
  | 's' => some isSpaceByte
  | 'S' => some fun c => !isSpaceByte c
  | 'h' => some isAcross
  | 'H' => some fun c => !isAcross c
  | 'v' => some isDown
  | 'V' => some fun c => !isDown c
  | _ => none

def propertyNamed? (name : String) : Option (Char → Bool) :=
  let isLetter := fun c : Char => c.isAlpha || Alphabet.isLetter c
  let isUpper := fun c : Char => c.isUpper || Alphabet.isUpper c
  let isLower := fun c : Char => c.isLower || Alphabet.isLower c
  let isPunct := fun c : Char => "!\"#%&'()*,-./:;?@[\\]_\x7b\x7d".toList.contains c
    || [0xA1, 0xA7, 0xAB, 0xB6, 0xB7, 0xBB, 0xBF].contains c.toNat || (0x2010 ≤ c.toNat && c.toNat ≤ 0x2027)
    || (0x2030 ≤ c.toNat && c.toNat ≤ 0x205E)
  let isSign := fun c : Char => "$+<=>^\x60|~".toList.contains c
    || [0xA2, 0xA3, 0xA4, 0xA5, 0xA6, 0xA8, 0xA9, 0xAC, 0xAE, 0xAF, 0xB0, 0xB1, 0xB4, 0xB8, 0xD7, 0xF7].contains c.toNat
    || (0x20A0 ≤ c.toNat && c.toNat ≤ 0x20BF) || (0x2190 ≤ c.toNat && c.toNat ≤ 0x2BFF)
  let within := fun (first last : Nat) (c : Char) => isLetter c && first ≤ c.toNat && c.toNat ≤ last
  match name with
  | "Any" => some fun _ => true
  | "L" => some isLetter
  | "Lu" => some isUpper
  | "Ll" => some isLower
  | "L&" => some fun c => isUpper c || isLower c
  | "N" | "Nd" => some Char.isDigit
  | "P" => some isPunct
  | "S" => some isSign
  | "Z" | "Zs" => some fun c => isAcross c && c ≠ '\t'
  | "C" | "Cc" => some fun c => c.toNat < 32 || (127 ≤ c.toNat && c.toNat < 160)
  | "Xan" => some fun c => isLetter c || c.isDigit
  | "Xwd" => some fun c => isLetter c || c.isDigit || c = '_'
  | "Xsp" | "Xps" => some fun c => isSpaceByte c || isAcross c || isDown c
  | "Latin" => some fun c => within 0 0x24F c || within 0x1E00 0x1EFF c
  | "Greek" => some (within 0x370 0x3FF)
  | "Cyrillic" => some (within 0x400 0x52F)
  | "Han" => some fun c => (0x3400 ≤ c.toNat && c.toNat ≤ 0x9FFF) || 0x20000 ≤ c.toNat
  | "Hiragana" => some fun c => 0x3041 ≤ c.toNat && c.toNat ≤ 0x309F
  | "Katakana" => some fun c => 0x30A1 ≤ c.toNat && c.toNat ≤ 0x30FF
  | _ => none

def property (wanted : Bool) : Reading (Char → Bool) := do
  let find := fun (wanted : Bool) (name : List Char) => do
    match propertyNamed? (String.ofList name) with
    | some test => return fun c => test c = wanted
    | none => throw .unknownProperty
  match ← rest with
  | '\x7b' :: text =>
    let name := text.takeWhile (· ≠ '\x7d')
    match text.drop name.length with
    | [] => throw .malformedProperty
    | _ :: rest =>
      goTo rest
      match name with
      | '^' :: name => find (!wanted) name
      | _ => find wanted name
  | c :: rest =>
    goTo rest
    find wanted [c]
  | [] => throw .malformedProperty

def charOf (code : Nat) : Reading Char := do
  let limit := if (← switches).wide then 0x110000 else 0x100
  if limit ≤ code then throw .hugeCode else return Char.ofNat code

def isOctal (c : Char) : Bool := '0' ≤ c && c ≤ '7'

def bracedCode (base : Nat) (isFigure : Char → Bool) (fault : Fault) (text : List Char) : Reading Char := do
  let figures := text.takeWhile isFigure
  match text.drop figures.length with
  | '\x7d' :: rest =>
    if figures = [] then throw fault
    goTo rest
    charOf (Text.valueIn base figures)
  | _ => throw fault

def escapedChar? (c : Char) : Reading (Option Char) := do
  match c with
  | 'a' => return some '\x07'
  | 'e' => return some '\x1b'
  | 'f' => return some '\x0c'
  | 'n' => return some '\n'
  | 'r' => return some '\r'
  | 't' => return some '\t'
  | 'c' =>
    match ← rest with
    | [] => throw .danglingControl
    | c :: rest =>
      goTo rest
      return some (Char.ofNat (c.toUpper.toNat ^^^ 64))
  | '0' =>
    let text ← rest
    let figures := (text.take 2).takeWhile isOctal
    goTo (text.drop figures.length)
    return some (Char.ofNat (Text.valueIn 8 figures))
  | 'o' =>
    match ← rest with
    | '\x7b' :: text => some <$> bracedCode 8 isOctal .badOctal text
    | _ => throw .unknownEscape
  | 'x' =>
    let isHex := Text.isDigitIn 16
    match ← rest with
    | '\x7b' :: text => some <$> bracedCode 16 isHex .badHex text
    | text =>
      let figures := (text.take 2).takeWhile isHex
      goTo (text.drop figures.length)
      return some (Char.ofNat (Text.valueIn 16 figures))
  | _ => if c.isAlphanum then return none else return some c

abbrev Member := Char ⊕ (Char → Bool)

def namedClass? (text : List Char) : Option (List Char × List Char) :=
  let name := text.takeWhile fun c => c.isAlpha || c = '^'
  match text.drop name.length with
  | ':' :: ']' :: rest => some (name, rest)
  | _ => none

def setClass (switches : Switches) (name : List Char) : Except Fault (Char → Bool) :=
  let (negated, word) : Bool × List Char := match name with
    | '^' :: word => (true, word)
    | word => (false, word)
  let found : Option (Char → Bool) := match String.ofList word with
    | "word" => some (isWordChar switches)
    | "ascii" => some fun c => c.toNat < 128
    | word => if switches.wideClasses then wideClassNamed? word else classNamed? word
  match found with
  | some test => .ok fun c => test c != negated
  | none => .error .unknownClass

def readMember : Reading Member := do
  match ← rest with
  | [] => throw .openSet
  | '[' :: ':' :: text =>
    match namedClass? text with
    | some (name, rest) =>
      goTo rest
      match setClass (← switches) name with
      | .ok test => return .inr test
      | .error fault => throw fault
    | none =>
      goTo (':' :: text)
      return .inl '['
  | '[' :: c :: text =>
    if (c = '.' || c = '=') && (List.range text.length).any fun place => (text.drop place).take 2 = [c, ']'] then
      throw .collation
    goTo (c :: text)
    return .inl '['
  | '\\' :: [] => throw .danglingBackslash
  | '\\' :: c :: text =>
    goTo text
    match classOf? (← switches) c with
    | some test => return .inr test
    | none =>
    match c with
    | 'b' => return .inl '\x08'
    | 'p' => .inr <$> property true
    | 'P' => .inr <$> property false
    | _ =>
      if isOctal c then
        let figures := ((c :: text).take 3).takeWhile isOctal
        goTo ((c :: text).drop figures.length)
        return .inl (Char.ofNat (Text.valueIn 8 figures))
      match ← escapedChar? c with
      | some c => return .inl c
      | none => if c.isDigit then return .inl c else throw .unknownEscape
  | c :: text =>
    goTo text
    return .inl c

/-- The members of a set up to its closing bracket, as one test. A bracket in front stands for itself. -/
def readMembers : Nat → Bool → (Char → Bool) → Reading (Char → Bool)
  | 0, _, _ => throw .openSet
  | fuel + 1, first, test => do
    match ← rest with
    | ']' :: rest =>
      if first then
        goTo rest
        readRange fuel (.inl ']') test
      else
        goTo rest
        return test
    | '\\' :: 'E' :: rest =>
      goTo rest
      readMembers fuel first test
    | '\\' :: 'Q' :: rest =>
      let size := ((List.range rest.length).find? fun place => (rest.drop place).take 2 = ['\\', 'E']).getD rest.length
      let quoted := rest.take size
      goTo (rest.drop (size + 2))
      readMembers fuel false fun c => test c || quoted.contains c
    | _ =>
      let member ← readMember
      readRange fuel member test
where
  readRange : Nat → Member → (Char → Bool) → Reading (Char → Bool)
    | 0, _, _ => throw .openSet
    | fuel + 1, member, test => do
      match ← rest with
      | '-' :: ']' :: _ => readMembers fuel false (Member.joined member test)
      | '-' :: more =>
        match member with
        | .inr _ =>
          match more with
          | [] => throw .openSet
          | '[' :: ':' :: _ => readMembers fuel false (Member.joined member test)
          | _ => throw .classInRange
        | .inl first =>
          goTo more
          match ← readMember with
          | .inr _ => throw .classInRange
          | .inl last =>
            if last < first then throw .disorderedRange
            readMembers fuel false fun c => test c || (first ≤ c && c ≤ last)
      | _ => readMembers fuel false (Member.joined member test)
  Member.joined (member : Member) (test : Char → Bool) : Char → Bool :=
    match member with
    | .inl wanted => fun c => test c || wanted = c
    | .inr other => fun c => test c || other c

def readSet : Reading Trial := do
  let text ← rest
  match text with
  | c :: _ =>
    let last := ((text.drop 1).takeWhile (· ≠ ']')).getLast?
    if (c = ':' || c = '.' || c = '=') && last = some c then
      throw (if c = ':' then Fault.classOutside else Fault.collation)
  | [] => throw .openSet
  let negated : Bool := text.head? = some '^'
  if negated then goTo (text.drop 1)
  let switches ← switches
  let test ← readMembers (2 * text.length + 4) true fun _ => false
  match oneOf switches test with
  | .one test => return .one fun c => test c != negated
  | other => return other

def readName (close : Char) : Reading String := do
  let text ← rest
  let name := text.takeWhile fun c => c.isAlphanum || c = '_'
  if name.head?.any Char.isDigit then throw .digitName
  if name = [] then throw .missingName
  match text.drop name.length with
  | c :: rest =>
    if c ≠ close then throw .openName
    goTo rest
    return String.ofList name
  | [] => throw .openName

def groupNamed (name : String) : Reading (Option Nat) := do
  modify fun state => { state with wantedNames := name :: state.wantedNames }
  return (← get).names.lookup name

def backTo (number : Nat) : Reading Trial := do
  wantNumber number
  return .back (← switches).ignoresCase number

def backToName (close : Char) : Reading Trial := do
  match ← groupNamed (← readName close) with
  | some number => return .back (← switches).ignoresCase number
  | none => return .never

def callOf (number : Nat) : Reading Trial := do
  wantNumber number
  return .call number

def relative (negative : Bool) (distance : Nat) : Reading Nat := do
  let groups := (← get).groups
  if negative then
    if groups < distance ∨ distance = 0 then throw .unknownGroup else return groups + 1 - distance
  else return groups + distance

def readReference : Reading Trial := do
  let signed := fun (text : List Char) =>
    let (sign, body) : Option Bool × List Char := match text with
      | '-' :: body => (some true, body)
      | '+' :: body => (some false, body)
      | body => (none, body)
    let figures := body.takeWhile Char.isDigit
    (sign, figures, body.drop figures.length)
  let numbered := fun (sign : Option Bool) (figures : List Char) => match sign with
    | some negative => relative negative (Text.valueIn 10 figures)
    | none => pure (Text.valueIn 10 figures)
  match ← rest with
  | '\x7b' :: text =>
    match signed text with
    | (sign, figure :: figures, '\x7d' :: rest) =>
      goTo rest
      backTo (← numbered sign (figure :: figures))
    | _ =>
      goTo text
      backToName '\x7d'
  | '<' :: text | '\'' :: text =>
    match signed text with
    | (sign, figure :: figures, _ :: rest) =>
      goTo rest
      callOf (← numbered sign (figure :: figures))
    | _ => throw .badReference
  | text =>
    match signed text with
    | (sign, figure :: figures, rest) =>
      goTo rest
      backTo (← numbered sign (figure :: figures))
    | _ => throw .badReference

def readEscape (c : Char) : Reading (Trial × Bool) := do
  let switches ← switches
  let word := fun c : Option Char => c.any (isWordChar switches)
  match classOf? switches c with
  | some test => return (.one test, true)
  | none =>
  match c with
  | 'b' => return (.edge fun before after => word before != word after, false)
  | 'B' => return (.edge fun before after => word before == word after, false)
  | 'A' => return (.edge fun before _ => before.isNone, false)
  | 'z' | 'Z' => return (.edge fun _ after => after.isNone, false)
  | 'G' => return (.origin, false)
  | 'K' => return (.keep, false)
  | 'N' =>
    match ← rest with
    | '\x7b' :: _ => throw .unsupported
    | _ => return (.one (· ≠ '\n'), true)
  | 'C' | 'X' => return (.one fun _ => true, true)
  | 'R' =>
    return (.once (.either (.sequence (.one (· = '\r')) (.one (· = '\n'))) (.one isDown)), true)
  | 'p' => return (oneOf switches (← property true), true)
  | 'P' => return (oneOf switches (← property false), true)
  | 'k' =>
    match ← rest with
    | '<' :: text => goTo text; return (← backToName '>', true)
    | '\'' :: text => goTo text; return (← backToName '\'', true)
    | '\x7b' :: text => goTo text; return (← backToName '\x7d', true)
    | _ => throw .unknownEscape
  | 'g' => return (← readReference, true)
  | 'L' | 'l' | 'U' | 'u' | 'F' => throw .unsupported
  | _ =>
    if c.isDigit && c ≠ '0' then
      let text ← rest
      let figures := c :: text.takeWhile Char.isDigit
      let number := Text.valueIn 10 figures
      if number < 10 ∨ '8' ≤ c ∨ number ≤ (← get).groups then
        goTo (text.drop (figures.length - 1))
        return (← backTo number, true)
      else
        let octal := ((c :: text).take 3).takeWhile isOctal
        goTo ((c :: text).drop octal.length)
        return (literal switches (Char.ofNat (Text.valueIn 8 octal)), true)
    else
      match ← escapedChar? c with
      | some c => return (literal switches c, true)
      | none => throw .unknownEscape

/-- Skips what means nothing: comments, blanks where they mean nothing, and marks of quoting. -/
def skipNotes : Nat → Reading Unit
  | 0 => return
  | fuel + 1 => do
    let state ← get
    let onward := fun (rest : List Char) (quoting : Bool) => do
      set { state with rest, quoting }
      skipNotes fuel
    match state.quoting, state.rest with
    | _, '\\' :: 'E' :: rest => onward rest false
    | true, _ => return
    | false, '\\' :: 'Q' :: rest => onward rest true
    | false, '(' :: '?' :: '#' :: text =>
      match text.dropWhile (· ≠ ')') with
      | _ :: rest => onward rest false
      | [] => throw .openComment
    | false, c :: rest =>
      if state.switches.spaced then
        if isSpaceByte c then onward rest false
        else if c = '#' then onward ((rest.dropWhile (· ≠ '\n')).drop 1) false
        else return
      else return
    | false, [] => return

def counts? (text : List Char) : Option (Nat × Option Nat × List Char) :=
  let low := text.takeWhile Char.isDigit
  if low = [] then none
  else
    match text.drop low.length with
    | '\x7d' :: rest => some (Text.valueIn 10 low, some (Text.valueIn 10 low), rest)
    | ',' :: more =>
      let high := more.takeWhile Char.isDigit
      match more.drop high.length with
      | '\x7d' :: rest => some (Text.valueIn 10 low, if high = [] then none else some (Text.valueIn 10 high), rest)
      | _ => none
    | _ => none

def repetition? : Reading (Option (Nat × Option Nat)) := do
  let state ← get
  if state.quoting then return none
  match state.rest with
  | '*' :: rest => goTo rest; return some (0, none)
  | '+' :: rest => goTo rest; return some (1, none)
  | '?' :: rest => goTo rest; return some (0, some 1)
  | '\x7b' :: text =>
    match counts? text with
    | none => return none
    | some (least, most, rest) =>
      if 65535 < max least (most.getD 0) then throw .hugeCount
      if most.any (· < least) then throw .disorderedCounts
      goTo rest
      return some (least, most)
  | _ => return none

def eagerness : Reading Eagerness := do
  let usual := (← switches).seldom
  match ← rest with
  | '?' :: rest => goTo rest; return if usual then .often else .seldom
  | '+' :: rest => goTo rest; return .always
  | _ => return if usual then .seldom else .often

section

variable (self : Reading Trial)

def closeGroup : Reading Unit := do
  match ← rest with
  | ')' :: rest => goTo rest
  | _ => throw .openGroup

def inside (shares : Bool := false) : Reading Trial := do
  let before ← get
  set { before with base := if shares then some before.groups else none }
  let inner ← self
  modify fun state =>
    { state with
      switches := before.switches, quoting := false, base := before.base
      groups := if shares then max state.highest state.groups else state.groups }
  closeGroup
  return inner

def numbered (name : Option String) : Reading Trial := do
  let number := (← get).groups + 1
  modify fun state => { state with groups := number }
  match name with
  | some name =>
    if ((← get).names.lookup name).any (· ≠ number) then throw .twiceNamed
    modify fun state => { state with names := (name, number) :: state.names }
  | none => pure ()
  let inner ← inside self
  modify fun state => { state with made := (number, .capture number inner) :: state.made }
  return .capture number inner

def asBehind (wanted : Bool) : Reading Trial := do
  let inner ← inside self
  match asBehind? wanted inner with
  | some trial => return trial
  | none =>
    faultLater .unsizedBehind
    return .never

def readSwitches : Nat → Bool → Switches → Reading (Switches × Bool)
  | 0, _, _ => throw .openGroup
  | fuel + 1, value, switches => do
    match ← rest with
    | [] => throw .openGroup
    | c :: rest =>
      goTo rest
      match c with
      | 'i' => readSwitches fuel value { switches with ignoresCase := value }
      | 'm' => readSwitches fuel value { switches with lines := value }
      | 's' => readSwitches fuel value { switches with dotAll := value }
      | 'x' => readSwitches fuel value { switches with spaced := value }
      | 'U' => readSwitches fuel value { switches with seldom := value }
      | 'n' => readSwitches fuel value { switches with unnumbered := value }
      | 'J' => readSwitches fuel value switches
      | '^' =>
        readSwitches fuel value
          { switches with ignoresCase := false, lines := false, dotAll := false, spaced := false, unnumbered := false }
      | '-' => readSwitches fuel false switches
      | ')' => return (switches, true)
      | ':' => return (switches, false)
      | _ => throw .unknownMark

def branches : Reading (Trial × Trial) := do
  let inner ← inside self
  match inner with
  | .either yes no =>
    match no with
    | .either .. => faultLater .manyBranches
    | _ => pure ()
    return (yes, no)
  | yes => return (yes, .empty)

def readCondition : Reading Trial := do
  let onGroup := fun (number : Nat) => do
    let (yes, no) ← branches self
    return .choose number yes no
  let onNamed := fun (name : String) => do
    match ← groupNamed name with
    | some number => onGroup number
    | none => onGroup 0
  let onLook := fun (trial : Bool → Trial) => do
    let (yes, no) ← branches self
    return .either (.sequence (trial true) yes) (.sequence (trial false) no)
  match ← rest with
  | '?' :: '=' :: text =>
    goTo text
    let inner ← inside self
    onLook fun holds => .ahead holds inner
  | '?' :: '!' :: text =>
    goTo text
    let inner ← inside self
    onLook fun holds => .ahead (!holds) inner
  | '?' :: '<' :: c :: text =>
    goTo text
    let inner ← inside self
    let wanted : Bool := c = '='
    match asBehind? true inner, asBehind? false inner with
    | some positive, some negative => onLook fun holds => if holds = wanted then positive else negative
    | _, _ =>
      faultLater .unsizedBehind
      return .never
  | '<' :: text =>
    goTo text
    let name ← readName '>'
    closeGroup
    onNamed name
  | '\'' :: text =>
    goTo text
    let name ← readName '\''
    closeGroup
    onNamed name
  | text =>
    let figures := text.takeWhile Char.isDigit
    if figures ≠ [] then
      goTo (text.drop figures.length)
      closeGroup
      wantNumber (Text.valueIn 10 figures)
      onGroup (Text.valueIn 10 figures)
    else
      let name ← readName ')'
      if name = "R" ∨ name = "DEFINE" then onGroup 0
      else onNamed name

def readVerb (text : List Char) : Reading Trial := do
  let word := text.takeWhile fun c => c.isAlpha || c = '_'
  let behind := text.drop word.length
  let named := String.ofList word
  match behind with
  | ':' :: rest =>
    goTo rest
    match named with
    | "pla" | "positive_lookahead" => return .ahead true (← inside self)
    | "nla" | "negative_lookahead" => return .ahead false (← inside self)
    | "plb" | "positive_lookbehind" => asBehind self true
    | "nlb" | "negative_lookbehind" => asBehind self false
    | "atomic" => return .once (← inside self)
    | _ =>
      goTo (rest.dropWhile (· ≠ ')'))
      if ["MARK", "PRUNE", "SKIP", "THEN", "COMMIT", ""].contains named then
        closeGroup
        return .empty
      else throw .unknownVerb
  | ')' :: rest =>
    goTo rest
    if named = "F" ∨ named = "FAIL" then return .never
    else if named = "UCP" then
      modify fun state => { state with switches := { state.switches with wideClasses := state.switches.wide } }
      return .empty
    else if ["UTF", "ACCEPT", "COMMIT", "PRUNE", "SKIP", "THEN"].contains named then return .empty
    else throw .unknownVerb
  | _ => throw .unknownVerb

def readGroup : Reading (Trial × Bool) := do
  let onward := fun (text : List Char) => goTo text
  let closed := fun (trial : Trial) => do
    match ← rest with
    | ')' :: rest =>
      goTo rest
      return (trial, true)
    | _ => throw .openGroup
  match ← rest with
  | '*' :: text => return (← readVerb self text, false)
  | '?' :: text =>
    match text with
    | [] => throw .openGroup
    | ':' :: text => onward text; return (← inside self, true)
    | '|' :: text => onward text; return (← inside self true, true)
    | '>' :: text => onward text; return (.once (← inside self), true)
    | '=' :: text => onward text; return (.ahead true (← inside self), true)
    | '!' :: text => onward text; return (.ahead false (← inside self), true)
    | '<' :: '=' :: text => onward text; return (← asBehind self true, true)
    | '<' :: '!' :: text => onward text; return (← asBehind self false, true)
    | '<' :: text => onward text; return (← numbered self (some (← readName '>')), true)
    | '\'' :: text => onward text; return (← numbered self (some (← readName '\'')), true)
    | 'P' :: '<' :: text => onward text; return (← numbered self (some (← readName '>')), true)
    | 'P' :: '=' :: text => onward text; return (← backToName ')', true)
    | 'P' :: '>' :: text | '&' :: text =>
      onward text
      match ← groupNamed (← readName ')') with
      | some number => return (.call number, true)
      | none => return (.never, true)
    | 'P' :: [] => throw .openGroup
    | 'R' :: text =>
      onward text
      match text with
      | ')' :: _ => closed (.call 0)
      | _ => throw .openCall
    | '(' :: text => onward text; return (← readCondition self, true)
    | 'C' :: text =>
      onward (text.dropWhile Char.isDigit)
      let (trial, _) ← closed .empty
      return (trial, false)
    | c :: text =>
      let (sign, body) : Option Bool × List Char := match c, text with
        | '-', d :: _ => if d.isDigit then (some true, text) else (none, c :: text)
        | '+', _ => (some false, text)
        | _, _ => (none, c :: text)
      let figures := body.takeWhile Char.isDigit
      if figures ≠ [] then
        onward (body.drop figures.length)
        let number ← match sign with
          | some negative => relative negative (Text.valueIn 10 figures)
          | none => pure (Text.valueIn 10 figures)
        closed (← callOf number)
      else
        onward (c :: text)
        let before ← switches
        let (switches, closes) ← readSwitches (text.length + 2) true before
        modify fun state => { state with switches }
        if closes then return (.empty, false)
        else
          let inner ← self
          modify fun state => { state with switches := before, quoting := false }
          closeGroup
          return (inner, true)
  | _ => if (← switches).unnumbered then return (← inside self, true) else return (← numbered self none, true)

def readItem : Reading (Trial × Bool) := do
  let state ← get
  let switches := state.switches
  match state.rest with
  | [] => return (.empty, false)
  | c :: rest =>
    goTo rest
    if state.quoting then return (literal switches c, true)
    match c, rest with
    | '\\', [] => throw .danglingBackslash
    | '\\', c :: rest =>
      goTo rest
      readEscape c
    | '.', _ => return (.one fun c => switches.dotAll || c ≠ '\n', true)
    | '^', _ => return (.edge fun before _ => before.isNone || (switches.lines && before = some '\n'), false)
    | '$', _ => return (.edge fun _ after => after.isNone || (switches.lines && after = some '\n'), false)
    | '[', _ => return (← readSet, true)
    | '(', _ => readGroup self
    | '*', _ | '+', _ | '?', _ => throw .nothingRepeated
    | '\x7b', _ =>
      if (counts? rest).isSome then throw .nothingRepeated else return (literal switches c, true)
    | _, _ => return (literal switches c, true)

def readSequence : Nat → Trial → Reading Trial
  | 0, made => return made
  | fuel + 1, made => do
    skipNotes ((← rest).length + 1)
    let state ← get
    let ends : Bool := match state.rest with
      | [] => true
      | c :: _ => !state.quoting && (c = '|' || c = ')')
    if ends then return made
    else
      let (item, repeatable) ← readItem self
      skipNotes ((← rest).length + 1)
      let whole ← match repeatable, ← repetition? with
        | _, none => pure item
        | false, some _ => throw .nothingRepeated
        | true, some (least, most) => pure (.times least most (← eagerness) item)
      readSequence fuel (match made with
        | .empty => whole
        | before => .sequence before whole)

def readAlternatives : Nat → Reading Trial
  | 0 => return .empty
  | fuel + 1 => do
    let first ← readSequence self ((← rest).length + 1) .empty
    match ← rest with
    | '|' :: rest =>
      goTo rest
      modify fun state => match state.base with
        | some number => { state with highest := max state.highest state.groups, groups := number }
        | none => state
      return .either first (← readAlternatives fuel)
    | _ => return first

end

/-- An expression inside groups; the number bounds how deep they stand in one another. -/
def readInner : Nat → Reading Trial
  | 0 => throw .openGroup
  | depth + 1 => do readAlternatives (readInner depth) ((← rest).length + 1)

def read (switches : Switches) (text : List Char) : Except Fault (Trial × List (Nat × Trial)) := do
  let (trial, state) ← (readInner 250).run { rest := text, switches }
  if state.rest ≠ [] then throw .strayClose
  if state.wantedNumbers.any (state.groups < ·) || state.wantedNames.any fun name => (state.names.lookup name).isNone then
    throw .unknownGroup
  match state.late with
  | some fault => throw fault
  | none => return (trial, (0, trial) :: state.made)

end Assay.Text.Trial
