import Assay.Text.CharClass
import Assay.Text.Octets

/-!
Regular expressions in the two usual notations, on texts with one character for each byte. Of all
places where an expression fits, the first one counts, and there the longest part.
-/

namespace Assay.Text

inductive SetMember
  | range (first last : Char)
  | named (test : Char → Bool)

inductive Regex
  | empty
  | char (c : Char)
  | any
  | oneOf (negated : Bool) (members : List SetMember)
  | lineStart
  | lineEnd
  | textStart
  | textEnd
  | wordStart
  | wordEnd
  | wordEdge
  | insideWord
  | sequence (first second : Regex)
  | either (first second : Regex)
  | times (least : Nat) (most : Option Nat) (inner : Regex)
  | group (number : Nat) (inner : Regex)
  | back (number : Nat)

namespace Regex

structure Style where
  extended : Bool := false
  ignoresCase : Bool := false
  lines : Bool := false
  strict : Bool := false
  limited : Bool := false
  /-- Characters beyond ASCII belong to classes and have cases, and bytes that belong to no character fit nothing
  but themselves. -/
  wide : Bool := false

inductive Fault
  | openSet
  | emptySet
  | openGroup
  | strayBracket
  | openCount
  | badCount
  | nothingToRepeat
  | trailingBackslash
  | badBack
  | badRange
  | badClass
  | badCollation
  | tooBig
deriving DecidableEq

def Fault.message : Fault → String
  | openSet => "Unmatched [, [^, [:, [., or [="
  | emptySet => "Invalid regular expression"
  | openGroup => "Unmatched ( or \\("
  | strayBracket => "Unmatched ) or \\)"
  | openCount => "Unmatched \\\x7b"
  | badCount => "Invalid content of \\\x7b\\\x7d"
  | nothingToRepeat => "Invalid preceding regular expression"
  | trailingBackslash => "Trailing backslash"
  | badBack => "Invalid back reference"
  | badRange => "Invalid range end"
  | badClass => "Invalid character class name"
  | badCollation => "Invalid collation character"
  | tooBig => "Regular expression too big"

structure Reader where
  rest : List Char
  groups : Nat := 0
  closed : List Nat := []
  strays : List String := []

abbrev Reading (α : Type) := StateT Reader (Except Fault) α

def marked (mark : Char) : Nat → List Char → List Char → Option (List Char × List Char)
  | 0, _, _ => none
  | fuel + 1, taken, c :: d :: rest =>
    if c = mark ∧ d = ']' then some (taken.reverse, rest) else marked mark fuel (c :: taken) (d :: rest)
  | _, _, _ => none

def setChar (text : List Char) : Except Fault (Char × List Char) :=
  match text with
  | '[' :: '.' :: rest =>
    match marked '.' (rest.length + 1) [] rest with
    | some ([c], after) => .ok (c, after)
    | some _ => .error .badCollation
    | none => .ok ('[', '.' :: rest)
  | c :: rest => .ok (c, rest)
  | [] => .error .openSet

def setMembers (wide : Bool) : Nat → Bool → List Char → Except Fault (List SetMember × List Char)
  | 0, _, _ => .error .openSet
  | _, _, [] => .error .openSet
  | fuel + 1, first, c :: rest =>
    if c = ']' ∧ ¬first then .ok ([], rest)
    else
      let more := fun (member : SetMember) (left : List Char) =>
        (setMembers wide fuel false left).map fun (members, after) => (member :: members, after)
      match c, rest with
      | '[', ':' :: name =>
        match marked ':' (name.length + 1) [] name with
        | some (word, after) =>
          match if wide then wideClassNamed? (String.ofList word) else classNamed? (String.ofList word) with
          | some test => more (.named test) after
          | none => .error .badClass
        | none => more (.range '[' '[') rest
      | '[', '=' :: name =>
        match marked '=' (name.length + 1) [] name with
        | some ([d], after) => more (.range d d) after
        | _ => more (.range '[' '[') rest
      | _, _ =>
        match setChar (c :: rest) with
        | .error fault => .error fault
        | .ok (low, after) =>
          match after with
          | '-' :: d :: others =>
            if d = ']' then more (.range low low) after
            else
              match setChar (d :: others) with
              | .ok (high, left) => if high < low then .error .badRange else more (.range low high) left
              | .error fault => .error fault
          | _ => more (.range low low) after

def readSet (wide : Bool) : Reading Regex := do
  let state ← get
  let (negated, text) : Bool × List Char := match state.rest with
    | '^' :: rest => (true, rest)
    | rest => (false, rest)
  if text = [] then throw .emptySet
  let (members, rest) ← setMembers wide (text.length + 1) true text
  set { state with rest }
  return .oneOf negated members

inductive Bound
  | number (value : Nat)
  | missing
  | other
deriving DecidableEq

inductive BoundEnd
  | comma
  | brace
  | text
deriving DecidableEq

def bound (extended : Bool) : Bound → List Char → Bound × BoundEnd × List Char
  | _, [] => (.other, .text, [])
  | found, ',' :: rest => (found, .comma, rest)
  | found, '\\' :: '\x7d' :: rest =>
    if extended then bound extended .other ('\x7d' :: rest) else (found, .brace, rest)
  | found, c :: rest =>
    if extended && c = '\x7d' then (found, .brace, rest)
    else
      let digit := c.toNat - '0'.toNat
      match found with
      | .missing => bound extended (if c.isDigit then .number digit else .other) rest
      | .number value =>
        bound extended (if c.isDigit then .number (min (10 * value + digit) 100000) else .other) rest
      | .other => bound extended .other rest
termination_by _ text => text.length

/-- The counts of a repetition, from behind its opening brace up to its closing one. They may be no counts at all where
a brace may stand for itself. -/
def counts (style : Style) (text : List Char) : Except Fault (Option (Nat × Option Nat × List Char)) :=
  let unlike := fun (stop : BoundEnd) =>
    if style.extended && !style.strict then .ok none
    else if stop = .text then .error .openCount
    else .error .badCount
  let (first, firstEnd, rest) := bound style.extended .missing text
  let upTo := fun (least : Nat) =>
    let (second, secondEnd, after) := bound style.extended .missing rest
    match second with
    | .other => unlike secondEnd
    | .missing => if secondEnd = .brace then .ok (some (least, none, after)) else .error .badCount
    | .number most =>
      if secondEnd ≠ .brace || most < least then .error .badCount else .ok (some (least, some most, after))
  match first, firstEnd with
  | .other, _ => unlike firstEnd
  | .missing, .comma => upTo 0
  | .missing, _ => .error .badCount
  | .number least, .comma => upTo least
  | .number least, _ => .ok (some (least, some least, rest))

def countLimit : Nat := 32767

def repetition? (style : Style) : Reading (Option (Nat × Option Nat)) := do
  let state ← get
  let take := fun (rest : List Char) (least : Nat) (most : Option Nat) => do
    set { state with rest }
    return some (least, most)
  let braced := fun (text : List Char) => do
    match counts style text with
    | .error fault => throw fault
    | .ok none => return none
    | .ok (some (least, most, after)) =>
      if countLimit < max least (most.getD 0) then throw .tooBig
      take after least most
  match style.extended, state.rest with
  | _, '*' :: rest => take rest 0 none
  | true, '+' :: rest => take rest 1 none
  | true, '?' :: rest => take rest 0 (some 1)
  | false, '\\' :: '+' :: rest => if style.limited then return none else take rest 1 none
  | false, '\\' :: '?' :: rest => if style.limited then return none else take rest 0 (some 1)
  | true, '\x7b' :: rest => braced rest
  | false, '\\' :: '\x7b' :: rest => braced rest
  | _, _ => return none

def isWordChar (wide : Bool) (c : Char) : Bool := c.isAlphanum || c = '_' || (wide && Alphabet.isLetter c)

def escape (style : Style) (c : Char) : Reading Regex := do
  if style.limited && !c.isDigit then return .char c
  match c with
  | 'w' => return .oneOf false [.named (isWordChar style.wide)]
  | 'W' => return .oneOf true [.named (isWordChar style.wide)]
  | 's' => return .oneOf false [.named isSpaceByte]
  | 'S' => return .oneOf true [.named isSpaceByte]
  | 'b' => return .wordEdge
  | 'B' => return .insideWord
  | '<' => return .wordStart
  | '>' => return .wordEnd
  | '\x60' => return .textStart
  | '\'' => return .textEnd
  | _ =>
    if '1' ≤ c ∧ c ≤ '9' then
      let number := c.toNat - '0'.toNat
      if (← get).closed.contains number then return .back number else throw .badBack
    else return .char c

section

variable (style : Style) (self : Reading Regex)

def endsItems (inGroup : Bool) (rest : List Char) : Bool :=
  match style.extended, rest with
  | _, [] => true
  | true, '|' :: _ => true
  | true, ')' :: _ => inGroup
  | false, '\\' :: '|' :: _ => !style.limited
  | false, '\\' :: ')' :: _ => true
  | _, _ => false

def readGroup : Reading Regex := do
  let number := (← get).groups + 1
  modify fun state => { state with groups := number }
  let inner ← self
  let state ← get
  match style.extended, state.rest with
  | true, ')' :: rest | false, '\\' :: ')' :: rest =>
    set { state with rest, closed := number :: state.closed }
    return .group number inner
  | _, _ => throw .openGroup

def readItem (start : Bool) : Reading Regex := do
  let state ← get
  let onward := fun rest : List Char => set { state with rest }
  match state.rest with
  | [] => return .empty
  | '\\' :: [] => throw .trailingBackslash
  | '\\' :: c :: rest =>
    onward rest
    if c = '(' ∧ ¬style.extended then readGroup style self
    else escape style c
  | c :: rest =>
    onward rest
    match c with
    | '.' => return .any
    | '[' => readSet style.wide
    | '(' => if style.extended then readGroup style self else return .char c
    | '^' => if style.extended || start then return .lineStart else return .char c
    | '$' => if style.extended || endsItems style true rest then return .lineEnd else return .char c
    | _ => return .char c

def isEdge : Regex → Bool
  | .lineStart | .lineEnd | .textStart | .textEnd | .wordStart | .wordEnd | .wordEdge | .insideWord => true
  | _ => false

def skipStrays : Nat → Reading Unit
  | 0 => return
  | fuel + 1 => do
    let before ← get
    if style.strict then
      match style.extended, before.rest with
      | true, '*' :: _ | true, '+' :: _ | true, '?' :: _ | true, '\x7b' :: _ => throw .nothingToRepeat
      | false, '\\' :: '\x7b' :: _ => throw .nothingToRepeat
      | _, _ => return
    else if style.extended then
      match ← repetition? style with
      | some _ =>
        let note := match before.rest with
          | '\x7b' :: _ => "\x7b...\x7d at start of expression"
          | c :: _ => String.ofList [c] ++ " at start of expression"
          | [] => ""
        modify fun state => { state with strays := state.strays ++ [note] }
        skipStrays fuel
      | none => return

def repeated : Nat → Regex → Reading Regex
  | 0, item => return item
  | fuel + 1, item => do
    match ← repetition? style with
    | some (least, most) =>
      if style.strict && !style.extended then
        match (← get).rest with
        | '*' :: _ | '\\' :: '\x7b' :: _ => throw .nothingToRepeat
        | _ => pure ()
      repeated fuel (.times least most item)
    | none => return item

def readSequence (inGroup : Bool) : Nat → Bool → Regex → Reading Regex
  | 0, _, made => return made
  | fuel + 1, start, made => do
    if start then skipStrays style ((← get).rest.length + 1)
    let rest := (← get).rest
    if endsItems style inGroup rest then return made
    else
      let first : Bool := match made with
        | .empty => start
        | _ => false
      let item ← readItem style self first
      let anchored : Bool := match item with
        | .lineStart => start || style.extended
        | _ => style.extended && isEdge item
      let whole ← if anchored then pure item else repeated style (rest.length + 1) item
      readSequence inGroup fuel anchored (match made with
        | .empty => whole
        | before => .sequence before whole)

def readAlternatives (inGroup : Bool) : Nat → Reading Regex
  | 0 => return .empty
  | fuel + 1 => do
    let first ← readSequence style self inGroup ((← get).rest.length + 1) true .empty
    let state ← get
    match style.extended, state.rest with
    | true, '|' :: rest =>
      set { state with rest }
      return .either first (← readAlternatives inGroup fuel)
    | false, '\\' :: '|' :: rest =>
      if style.limited then return first
      set { state with rest }
      return .either first (← readAlternatives inGroup fuel)
    | _, _ => return first

end

/-- An expression inside groups; the number bounds how deep they stand in one another. -/
def readInner (style : Style) : Nat → Reading Regex
  | 0 => throw .openGroup
  | depth + 1 => readAlternatives style (readInner style depth) true 100000

def read (style : Style) (text : List Char) : Except Fault (Regex × List String) := do
  let (regex, state) ←
    (readAlternatives style (readInner style 1000) false (text.length + 1)).run { rest := text }
  match state.rest with
  | [] => return (regex, state.strays)
  | _ => throw .strayBracket

def groupCount : Regex → Nat
  | .sequence first second | .either first second => max (groupCount first) (groupCount second)
  | .times _ _ inner => groupCount inner
  | .group number inner => max number (groupCount inner)
  | _ => 0

structure Subject where
  chars : Array Char
  style : Style

namespace Subject

def at? (subject : Subject) (place : Nat) : Option Char := subject.chars[place]?

def before? (subject : Subject) (place : Nat) : Option Char :=
  if place = 0 then none else subject.chars[place - 1]?

def isWord (subject : Subject) (c : Option Char) : Bool := (c.map (isWordChar subject.style.wide)).getD false

def lower (subject : Subject) : Char → Char := if subject.style.wide then Alphabet.lower else Char.toLower

def upper (subject : Subject) : Char → Char := if subject.style.wide then Alphabet.upper else Char.toUpper

def same (subject : Subject) (wanted found : Char) : Bool :=
  wanted = found || (subject.style.ignoresCase && subject.lower wanted = subject.lower found)

def inSet (subject : Subject) (members : List SetMember) (c : Char) : Bool :=
  let holds := fun d : Char => members.any fun member =>
    match member with
    | .range first last => first ≤ d && d ≤ last
    | .named test => test d
  holds c || (subject.style.ignoresCase && (holds (subject.lower c) || holds (subject.upper c)))

def holdsAt (subject : Subject) (regex : Regex) (place : Nat) : Bool :=
  let before := subject.isWord (subject.before? place)
  let after := subject.isWord (subject.at? place)
  match regex with
  | .empty => true
  | .lineStart =>
    place = 0 || (subject.style.lines && subject.before? place = some '\n')
  | .lineEnd =>
    place = subject.chars.size || (subject.style.lines && subject.at? place = some '\n')
  | .textStart => place = 0
  | .textEnd => place = subject.chars.size
  | .wordStart => !before && after
  | .wordEnd => before && !after
  | .wordEdge => before != after
  | .insideWord => before = after
  | _ => false

def fitsOne (subject : Subject) (regex : Regex) (c : Char) : Bool :=
  match regex with
  | .char wanted => subject.same wanted c
  | .any => !(subject.style.wide && Characters.isStray c)
  | .oneOf negated members => subject.inSet members c != negated && !(subject.style.wide && Characters.isStray c)
  | _ => false

end Subject

abbrev Places := List (Nat × Nat)

namespace Places

def push (places : Places) (first last : Nat) : Places :=
  match places with
  | (low, high) :: rest => if first ≤ high + 1 then (low, max high last) :: rest else (first, last) :: places
  | [] => [(first, last)]

def insert (first last : Nat) : Places → Places
  | [] => [(first, last)]
  | (low, high) :: rest =>
    if last + 1 < low then (first, last) :: (low, high) :: rest
    else if high + 1 < first then (low, high) :: insert first last rest
    else insert (min first low) (max last high) rest

def union (places more : Places) : Places := more.foldl (fun all range => all.insert range.1 range.2) places

def outside (first last : Nat) : Places → Places
  | [] => [(first, last)]
  | (low, high) :: rest =>
    if last < low then [(first, last)]
    else if high < first then outside first last rest
    else
      let front : Places := if first < low then [(first, low - 1)] else []
      if high < last then front ++ outside (high + 1) last rest else front

def minus (places less : Places) : Places := places.flatMap fun range => outside range.1 range.2 less

def toList (places : Places) : List Nat :=
  places.flatMap fun (first, last) => (List.range (last + 1 - first)).map (first + ·)

def filter (places : Places) (holds : Nat → Bool) : Places :=
  (places.toList.foldl (fun (kept : Places) place => if holds place then kept.push place place else kept) []).reverse

/-- Where a run ends that begins at a place and goes on as long as something holds; the number bounds it. -/
def runEnd (holds : Nat → Bool) : Nat → Nat → Nat
  | 0, place => place
  | most + 1, place => if holds place then runEnd holds most (place + 1) else place

/-- Where something may end that fits single places and is repeated. What is known of one run serves for all places
in it. -/
def repeated (places : Places) (size : Nat) (holds : Nat → Bool) (least : Nat) (most : Option Nat) : Places :=
  (places.toList.foldl (fun (found : Places × Nat) place =>
    let stop := if place < found.2 then found.2 else runEnd holds (size - place) place
    let last := match most with
      | some count => min stop (place + count)
      | none => stop
    if place + least ≤ last then (found.1.push (place + least) last, stop) else (found.1, stop)) ([], 0)).1.reverse

end Places

def close (step : Places → Places) : Nat → Places → Places → Places
  | 0, reached, _ => reached
  | fuel + 1, reached, fresh =>
    let next := (step fresh).minus reached
    if next.isEmpty then reached else close step fuel (reached.union next) next

def isSingle : Regex → Bool
  | .char _ | .any | .oneOf .. => true
  | _ => false

def fitsAt (subject : Subject) (regex : Regex) (place : Nat) : Bool :=
  (subject.at? place).any (subject.fitsOne regex)

/-- Where an expression may end that begins at some places. What a group fitted is not known here, so a
reference to it may end anywhere. -/
def ends (subject : Subject) : Regex → Places → Places
  | .sequence first second, places => ends subject second (ends subject first places)
  | .either first second, places => (ends subject first places).union (ends subject second places)
  | .group _ inner, places => ends subject inner places
  | .times least most inner, places =>
    if isSingle inner then places.repeated subject.chars.size (fitsAt subject inner) least most
    else
    let started := (List.range least).foldl (fun reached _ => ends subject inner reached) places
    let bound := match most with
      | some count => count - least
      | none => subject.chars.size + 1
    close (ends subject inner) bound started started
  | .back _, places =>
    match places with
    | (first, _) :: _ => [(first, subject.chars.size)]
    | [] => []
  | regex, places =>
    if isSingle regex then
      (places.filter (fitsAt subject regex)).map fun (first, last) => (first + 1, last + 1)
    else places.filter (subject.holdsAt regex)

def stops (subject : Subject) (regex : Regex) (start : Nat) : List Nat :=
  (ends subject regex [(start, start)]).toList.reverse

abbrev Groups := List (Nat × Nat × Nat)

/-- Tries to fit an expression from a place on, as much as possible first; what follows has to fit,
too. The number bounds the steps of one path. -/
def attempt (subject : Subject) : Nat → Regex → Nat → Groups → (Nat → Groups → Option Groups) → Option Groups
  | 0, _, _, _, _ => none
  | fuel + 1, regex, place, groups, next =>
    match regex with
    | .sequence first second =>
      attempt subject fuel first place groups fun middle found => attempt subject fuel second middle found next
    | .either first second =>
      (attempt subject fuel first place groups next).orElse fun _ =>
        attempt subject fuel second place groups next
    | .group number inner =>
      attempt subject fuel inner place groups fun stop found =>
        next stop ((number, place, stop) :: found.filter (·.1 ≠ number))
    | .times least most inner =>
      if isSingle inner then
        let limit := match most with
          | some count => min count (subject.chars.size - place)
          | none => subject.chars.size - place
        let stop := Places.runEnd (fitsAt subject inner) limit place
        (List.range (stop + 1 - (place + least))).findSome? fun missing => next (stop - missing) groups
      else
      let more := fun _ : Unit =>
        if most = some 0 then none
        else
          attempt subject fuel inner place groups fun stop found =>
            if stop = place ∧ least = 0 then none
            else attempt subject fuel (.times (least - 1) (most.map (· - 1)) inner) stop found next
      if least = 0 then (more ()).orElse fun _ => next place groups else more ()
    | .back number =>
      match groups.lookup number with
      | none => none
      | some (start, stop) =>
        let size := stop - start
        let fits := (List.range size).all fun offset =>
          match subject.at? (start + offset), subject.at? (place + offset) with
          | some wanted, some found => subject.same wanted found
          | _, _ => false
        if fits then next (place + size) groups else none
    | _ =>
      match regex with
      | .char _ | .any | .oneOf .. =>
        match subject.at? place with
        | some c => if subject.fitsOne regex c then next (place + 1) groups else none
        | none => none
      | _ => if subject.holdsAt regex place then next place groups else none

def hasBack : Regex → Bool
  | .back _ => true
  | .sequence first second | .either first second => hasBack first || hasBack second
  | .times _ _ inner | .group _ inner => hasBack inner
  | _ => false

structure Match where
  start : Nat
  stop : Nat
  groups : Groups := []

def groupsOf (subject : Subject) (regex : Regex) (start stop : Nat) : Option Groups :=
  attempt subject (1000 + 40 * subject.chars.size) regex start [] fun place groups =>
    if place = stop then some groups else none

def longestAt (subject : Subject) (regex : Regex) (start : Nat) : Option Match :=
  if hasBack regex then
    (stops subject regex start).findSome? fun stop =>
      (groupsOf subject regex start stop).map fun groups => { start, stop, groups }
  else ((ends subject regex [(start, start)]).getLast?).map fun (_, stop) => { start, stop }

def findFrom (subject : Subject) (regex : Regex) : Nat → Nat → Option Match
  | 0, _ => none
  | fuel + 1, start =>
    if subject.chars.size < start then none
    else
      match longestAt subject regex start with
      | some found => some found
      | none => findFrom subject regex fuel (start + 1)

def find? (subject : Subject) (regex : Regex) (start : Nat) : Option Match :=
  findFrom subject regex (subject.chars.size + 2) start

def withGroups (subject : Subject) (regex : Regex) (found : Match) : Match :=
  { found with groups := (groupsOf subject regex found.start found.stop).getD found.groups }

end Regex

end Assay.Text
