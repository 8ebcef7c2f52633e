import Assay.Calendar.Zone
import Assay.Text.CharClass

/-!
Moments as people tell them: dates, times of day, days of the week, zones, and steps from one moment to
another, in almost any order.
-/

namespace Assay.Calendar.Telling

inductive Measure
  | years
  | months
  | days
  | hours
  | minutes
  | seconds
deriving DecidableEq

inductive Token
  | number (value digits : Nat)
  | signed (negative : Bool) (value digits : Nat)
  | decimal (signed : Bool) (seconds : Int) (nanos : Nat)
  | half (afternoon : Bool)
  | month (number : Nat)
  | weekday (number : Nat)
  | ordinal (number : Int)
  | measure (kind : Measure) (amount : Int)
  | direction (sign : Int)
  | shift (days : Int)
  | zone (ahead : Int)
  | summerZone (ahead : Int)
  | summerTime
  | between
  | here
  | mark (c : Char)
  | nothing
deriving DecidableEq

def measures : List (String × Measure × Int) :=
  [("YEAR", .years, 1), ("MONTH", .months, 1), ("FORTNIGHT", .days, 14), ("WEEK", .days, 7), ("DAY", .days, 1),
   ("HOUR", .hours, 1), ("MINUTE", .minutes, 1), ("MIN", .minutes, 1), ("SECOND", .seconds, 1), ("SEC", .seconds, 1)]

def relatives : List (String × Token) :=
  [("TOMORROW", .shift 1), ("YESTERDAY", .shift (-1)), ("TODAY", .shift 0), ("NOW", .shift 0),
   ("LAST", .ordinal (-1)), ("THIS", .ordinal 0), ("NEXT", .ordinal 1), ("FIRST", .ordinal 1), ("THIRD", .ordinal 3),
   ("FOURTH", .ordinal 4), ("FIFTH", .ordinal 5), ("SIXTH", .ordinal 6), ("SEVENTH", .ordinal 7),
   ("EIGHTH", .ordinal 8), ("NINTH", .ordinal 9), ("TENTH", .ordinal 10), ("ELEVENTH", .ordinal 11),
   ("TWELFTH", .ordinal 12), ("AGO", .direction (-1)), ("HENCE", .direction 1)]

/-- Zones by their names, in minutes ahead of Greenwich; the second list holds those of summer. -/
def zones : List (String × Int) :=
  [("GMT", 0), ("UT", 0), ("UTC", 0), ("WET", 0), ("ART", -180), ("BRT", -180), ("NST", -210), ("AST", -240),
   ("CLT", -240), ("EST", -300), ("CST", -360), ("MST", -420), ("PST", -480), ("AKST", -540), ("HST", -600),
   ("HAST", -600), ("SST", -720), ("WAT", 60), ("CET", 60), ("MET", 60), ("MEZ", 60), ("EET", 120), ("CAT", 120),
   ("SAST", 120), ("EAT", 180), ("MSK", 180), ("IST", 330), ("SGT", 480), ("KST", 540), ("JST", 540), ("GST", 600),
   ("NZST", 720)]

def summerZones : List (String × Int) :=
  [("WEST", 0), ("BST", 0), ("BRST", -180), ("NDT", -210), ("ADT", -240), ("CLST", -240), ("EDT", -300),
   ("CDT", -360), ("MDT", -420), ("PDT", -480), ("AKDT", -540), ("HADT", -600), ("CEST", 60), ("MEST", 60),
   ("MESZ", 60), ("EEST", 120), ("MSD", 180), ("NZDT", 720)]

def letterZone? (c : Char) : Option Token :=
  let code := c.toNat
  if c = 'T' then some .between
  else if c = 'Z' then some (.zone 0)
  else if 'A' ≤ c ∧ c ≤ 'I' then some (.zone (((code : Int) - 'A'.toNat + 1) * 3600))
  else if 'K' ≤ c ∧ c ≤ 'M' then some (.zone (((code : Int) - 'K'.toNat + 10) * 3600))
  else if c = 'J' then some .here
  else if 'N' ≤ c ∧ c ≤ 'Y' then some (.zone (-(((code : Int) - 'N'.toNat + 1) * 3600)))
  else none

def wordToken (zone : Zone) (letters : List Char) : Token :=
  let word := String.ofList (letters.map Char.toUpper)
  let short : Bool := letters.length = 3 || (letters.length = 4 && letters.getD 3 ' ' = '.')
  let front := String.ofList ((letters.take 3).map Char.toUpper)
  let numbered := fun (names : List String) => (List.range names.length).zip names
  let called := fun (name : String) => name.toUpper = word || (short && (String.ofList (name.toList.take 3)).toUpper = front)
  let zoneNamed := fun (name : String) =>
    let own := zone.standard :: (zone.summer.map fun item => item.1).toList
    match own.find? fun setting => setting.name.toUpper = name with
    | some setting => some (Token.zone setting.ahead)
    | none =>
      ((zones.lookup name).map fun minutes => Token.zone (minutes * 60)).orElse fun _ =>
        (summerZones.lookup name).map fun minutes => Token.summerZone (minutes * 60)
  let first : List (Option Token) :=
    [if word = "AM" ∨ word = "A.M." then some (.half false)
     else if word = "PM" ∨ word = "P.M." then some (.half true) else none,
     ((numbered months).find? fun item => called item.2).map fun item => .month (item.1 + 1),
     if word = "SEPT" then some (.month 9) else none,
     ((numbered weekdays).find? fun item => called item.2).map fun item => .weekday item.1,
     ([("TUES", 2), ("WEDNES", 3), ("THUR", 4), ("THURS", 4)].lookup word).map .weekday,
     zoneNamed word,
     if word = "DST" then some .summerTime else none,
     (measures.lookup word).map fun item => .measure item.1 item.2,
     if word.toList.getLast? = some 'S' then
       (measures.lookup (String.ofList word.toList.dropLast)).map fun item => .measure item.1 item.2 else none,
     relatives.lookup word,
     match word.toList with
     | [c] => letterZone? c
     | _ => none,
     zoneNamed (String.ofList (word.toList.filter (· ≠ '.')))]
  (first.findSome? id).getD .nothing

/-- The number at the front of a text, behind the sign that stands before it, and what follows. -/
def numeric (negative : Option Bool) (text : List Char) : Token × List Char :=
  let digits := text.takeWhile Char.isDigit
  let value := Text.valueIn 10 digits
  let after := text.drop digits.length
  let whole : Token := match negative with
    | some below => .signed below value digits.length
    | none => .number value digits.length
  match after with
  | point :: rest =>
    let fraction := rest.takeWhile Char.isDigit
    if (point = '.' ∨ point = ',') ∧ fraction ≠ [] then
      let nanos := Text.valueIn 10 ((fraction ++ List.replicate 9 '0').take 9)
      let token : Token :=
        if negative = some true then
          if nanos = 0 then .decimal true (-(value : Int)) 0 else .decimal true (-(value : Int) - 1) (1000000000 - nanos)
        else .decimal negative.isSome value nanos
      (token, rest.drop fraction.length)
    else (whole, after)
  | [] => (whole, [])

/-- What follows a remark between brackets; the number counts those that are open. -/
def comment? : Nat → List Char → Option (List Char)
  | _, [] => none
  | depth, c :: rest =>
    if c = '(' then comment? (depth + 1) rest
    else if c = ')' then (if depth ≤ 1 then some rest else comment? (depth - 1) rest)
    else comment? depth rest

def tokens (zone : Zone) : Nat → List Char → List Token
  | 0, _ => []
  | _, [] => []
  | fuel + 1, c :: rest =>
    let numbered := fun (negative : Option Bool) (text : List Char) =>
      let (token, after) := numeric negative text
      token :: tokens zone fuel after
    if Text.isSpaceByte c then tokens zone fuel rest
    else if c.isDigit then numbered none (c :: rest)
    else if c = '-' ∨ c = '+' then
      match rest.dropWhile Text.isSpaceByte with
      | d :: more => if d.isDigit then numbered (some (c = '-')) (d :: more) else tokens zone fuel (d :: more)
      | [] => []
    else if c.isAlpha then
      let letters := (c :: rest).takeWhile fun d => d.isAlpha || d = '.'
      wordToken zone letters :: tokens zone fuel ((c :: rest).drop letters.length)
    else if c = '(' then
      match comment? 1 rest with
      | some after => tokens zone fuel after
      | none => [.nothing]
    else .mark c :: tokens zone fuel rest

structure Counts where
  dates : Nat := 0
  days : Nat := 0
  times : Nat := 0
  zones : Nat := 0
  steps : Nat := 0

structure Steps where
  years : Int := 0
  months : Int := 0
  days : Int := 0
  hours : Int := 0
  minutes : Int := 0
  seconds : Int := 0
  nanos : Int := 0

def Steps.adding (steps : Steps) (kind : Measure) (amount : Int) : Steps :=
  match kind with
  | .years => { steps with years := steps.years + amount }
  | .months => { steps with months := steps.months + amount }
  | .days => { steps with days := steps.days + amount }
  | .hours => { steps with hours := steps.hours + amount }
  | .minutes => { steps with minutes := steps.minutes + amount }
  | .seconds => { steps with seconds := steps.seconds + amount }

structure Told where
  year : Int
  yearDigits : Nat := 0
  month : Int
  day : Int
  hour : Int
  minute : Int
  second : Int
  nanos : Nat
  half : Option Bool := none
  weekday : Nat := 0
  ordinal : Int := 0
  ahead : Int := 0
  isHere : Bool := false
  steps : Steps := {}
  counts : Counts := {}

namespace Told

def dated (told : Told) (year : Option (Int × Nat)) (month day : Int) : Told :=
  let base := { told with month, day, counts := { told.counts with dates := told.counts.dates + 1 } }
  match year with
  | some (value, digits) => { base with year := value, yearDigits := digits }
  | none => base

def timed (told : Told) (hour minute second : Int) (nanos : Nat) (half : Option Bool) : Told :=
  { told with hour, minute, second, nanos, half, counts := { told.counts with times := told.counts.times + 1 } }

def zoned (told : Told) (ahead : Int) : Told :=
  { told with ahead, counts := { told.counts with zones := told.counts.zones + 1 } }

def onWeekday (told : Told) (ordinal : Int) (weekday : Nat) : Told :=
  { told with ordinal, weekday, counts := { told.counts with days := told.counts.days + 1 } }

def stepped (told : Told) (kind : Measure) (amount : Int) : Told :=
  { told with steps := told.steps.adding kind amount, counts := { told.counts with steps := told.counts.steps + 1 } }

def numbered (told : Told) (value digits : Nat) : Told :=
  if told.counts.dates ≠ 0 ∧ told.yearDigits = 0 ∧ told.counts.steps = 0 ∧ (told.counts.times ≠ 0 ∨ 2 < digits) then
    { told with year := value, yearDigits := digits }
  else if 4 < digits then
    told.dated (some (value / 10000, digits - 4)) (value / 100 % 100) (value % 100)
  else if digits ≤ 2 then told.timed value 0 0 0 none
  else told.timed (value / 100) (value % 100) 0 0 none

end Told

def aheadOf? (negative : Bool) (value digits : Nat) (minutes : Option Nat) : Option Int :=
  let size : Nat := match minutes with
    | some more => value * 60 + more
    | none => if digits ≤ 2 then value * 60 else value / 100 * 60 + value % 100
  if 24 * 60 < size then none else some ((if negative then -(size : Int) else size) * 60)

def zoneAhead? : List Token → Option (Option Int × List Token)
  | .signed negative value digits :: .mark ':' :: .number minutes _ :: rest =>
    some (aheadOf? negative value digits (some minutes), rest)
  | .signed negative value digits :: rest => some (aheadOf? negative value digits none, rest)
  | _ => none

def withZone (told : Told) (rest : List Token) : Option (Told × List Token) :=
  match zoneAhead? rest with
  | none => some (told, rest)
  | some (some ahead, after) => some (told.zoned ahead, after)
  | some (none, _) => none

def clockTime? (told : Told) (hour : Nat) : List Token → Option (Told × List Token)
  | .mark ':' :: .number minute _ :: .mark ':' :: .number second _ :: rest => ended minute second 0 rest
  | .mark ':' :: .number minute _ :: .mark ':' :: .decimal false second nanos :: rest => ended minute second nanos rest
  | .mark ':' :: .number minute _ :: rest => ended minute 0 0 rest
  | _ => none
where
  ended (minute second : Int) (nanos : Nat) : List Token → Option (Told × List Token)
    | .half afternoon :: rest => some (told.timed hour minute second nanos (some afternoon), rest)
    | rest => withZone (told.timed hour minute second nanos none) rest

/-- A step behind a number and what it counts; a word may turn it around. -/
def step (told : Told) (kind : Measure) (amount : Int) (nanos : Nat) : List Token → Told × List Token
  | .direction sign :: rest =>
    let turned := told.stepped kind (amount * sign)
    ({ turned with steps := { turned.steps with nanos := turned.steps.nanos + sign * nanos } }, rest)
  | rest =>
    let plain := told.stepped kind amount
    ({ plain with steps := { plain.steps with nanos := plain.steps.nanos + nanos } }, rest)

def item (told : Told) : List Token → Option (Told × List Token)
  | .number hour _ :: .half afternoon :: rest => some (told.timed hour 0 0 0 (some afternoon), rest)
  | .number first many :: .mark '/' :: .number second _ :: .mark '/' :: .number third digits :: rest =>
    if 4 ≤ many then some (told.dated (some (first, many)) second third, rest)
    else some (told.dated (some (third, digits)) first second, rest)
  | .number first digits :: .mark '/' :: .number second more :: rest =>
    if 4 ≤ digits ∨ more = 0 then none else some (told.dated none first second, rest)
  | .number day _ :: .month month :: .signed _ year digits :: rest => some (told.dated (some (year, digits)) month day, rest)
  | .number day _ :: .month month :: .number year digits :: rest => some (told.dated (some (year, digits)) month day, rest)
  | .number day _ :: .month month :: rest => some (told.dated none month day, rest)
  | .number ordinal _ :: .weekday day :: rest => some (told.onWeekday ordinal day, rest)
  | .number year digits :: .signed true month _ :: .signed true day _ :: rest =>
    some (told.dated (some (year, digits)) month day, afterDate rest)
  | .number value digits :: .signed negative amount _ :: .measure kind size :: rest =>
    some (step (told.numbered value digits) kind ((if negative then -(amount : Int) else amount) * size) 0 rest)
  | .number amount _ :: .measure kind size :: rest => some (step told kind (amount * size) 0 rest)
  | .number hour digits :: rest =>
    match rest with
    | .mark ':' :: _ => clockTime? told hour rest
    | .signed .. :: _ => withZone (told.timed hour 0 0 0 none) rest
    | _ => some (told.numbered hour digits, rest)
  | .signed negative amount _ :: .measure kind size :: rest =>
    some (step told kind ((if negative then -(amount : Int) else amount) * size) 0 rest)
  | .decimal _ seconds nanos :: .measure .seconds 1 :: rest => some (step told .seconds seconds nanos rest)
  | .month month :: .signed _ day _ :: .signed _ year digits :: rest => some (told.dated (some (year, digits)) month day, rest)
  | .month month :: .number day _ :: .mark ',' :: .number year digits :: rest =>
    some (told.dated (some (year, digits)) month day, rest)
  | .month month :: .number day _ :: rest => some (told.dated none month day, rest)
  | .weekday day :: .mark ',' :: rest => some (told.onWeekday 0 day, rest)
  | .weekday day :: rest => some (told.onWeekday 0 day, rest)
  | .ordinal number :: .weekday day :: rest => some (told.onWeekday number day, rest)
  | .ordinal number :: .measure kind size :: rest => some (step told kind (number * size) 0 rest)
  | .measure kind size :: rest => some (step told kind size 0 rest)
  | .shift days :: rest => some (told.stepped .days days, rest)
  | .zone ahead :: .summerTime :: rest => some (told.zoned (ahead + 3600), rest)
  | .summerZone ahead :: rest => some (told.zoned (ahead + 3600), rest)
  | .zone ahead :: rest => behindZone ahead rest
  | .between :: rest => if told.counts.dates ≠ 0 ∧ rest = [] then none else behindZone (-(7 * 3600)) rest
  | .here :: rest => some ({ told with counts := { told.counts with zones := told.counts.zones + 1 }, isHere := true }, rest)
  | _ => none
where
  afterDate : List Token → List Token
    | .between :: .number hour digits :: rest => .number hour digits :: rest
    | rest => rest
  behindZone (ahead : Int) : List Token → Option (Told × List Token)
    | .signed negative amount digits :: rest =>
      match rest with
      | .measure .. :: _ => some (told.zoned ahead, .signed negative amount digits :: rest)
      | _ =>
        match zoneAhead? (.signed negative amount digits :: rest) with
        | some (some more, after) => some (told.zoned (ahead + more), after)
        | _ => none
    | rest => some (told.zoned ahead, rest)

def items : Nat → Told → List Token → Option Told
  | _, told, [] => some told
  | 0, _, _ => none
  | fuel + 1, told, rest => (item told rest).bind fun (next, after) => items fuel next after

def hourOf? (told : Told) : Option Int :=
  match told.half with
  | none => if 0 ≤ told.hour ∧ told.hour < 24 then some told.hour else none
  | some afternoon =>
    let base := if afternoon then 12 else 0
    if 0 < told.hour ∧ told.hour < 12 then some (told.hour + base) else if told.hour = 12 then some base else none

def yearOf (told : Told) : Int :=
  if told.yearDigits = 2 then told.year + (if told.year < 69 then 2000 else 1900) else told.year

/-- Day and time as clocks show them, in seconds; none if there is no such day or time. -/
def shown? (year month day hour minute second : Int) : Option Int :=
  if 1 ≤ month ∧ month ≤ 12 ∧ 1 ≤ day ∧ 0 ≤ minute ∧ minute < 60 ∧ 0 ≤ second ∧ second < 60
      ∧ day ≤ daysToAny year (month + 1) 1 - daysToAny year month 1 then
    some (daysToAny year month day * 86400 + hour * 3600 + minute * 60 + second)
  else none

def momentOf? (zone : Zone) (told : Told) : Option Moment := do
  let counts := told.counts
  if 1 < counts.times ∨ 1 < counts.dates ∨ 1 < counts.days ∨ 1 < counts.zones then none
  let clock := counts.times ≠ 0 || (counts.steps ≠ 0 && counts.dates = 0 && counts.days = 0)
  let hour ← if clock then hourOf? told else some 0
  let minute := if clock then told.minute else 0
  let second := if clock then told.second else 0
  let nanos := if clock then told.nanos else 0
  let day ← shown? (yearOf told) told.month told.day hour minute second
  let moment := fun (shown : Int) =>
    if counts.zones ≠ 0 ∧ !told.isHere then some (shown - told.ahead) else zone.secondsOf? shown
  let wall := Wall.ofSeconds day
  let onDay := if counts.days ≠ 0 ∧ counts.dates = 0 then
      let ahead := Int.fmod (told.weekday - (wall.weekday : Int)) 7
      let weeks := told.ordinal - (if 0 < told.ordinal ∧ wall.weekday ≠ told.weekday then 1 else 0)
      day + (ahead + 7 * weeks) * 86400
    else day
  let steps := told.steps
  let moved := if steps.years ≠ 0 ∨ steps.months ≠ 0 ∨ steps.days ≠ 0 then
      let start := Wall.ofSeconds onDay
      daysToAny (start.year + steps.years) (start.month + steps.months) (start.day + steps.days) * 86400 + start.second
    else onDay
  let start ← moment moved
  let all := (start + steps.hours * 3600 + steps.minutes * 60 + steps.seconds) * 1000000000 + nanos + steps.nanos
  return { seconds := Int.fdiv all 1000000000, nanos := (Int.fmod all 1000000000).toNat }

def counted? (told : List Token) : Option Moment :=
  match told with
  | [.number value _] => some { seconds := value }
  | [.signed negative value _] => some { seconds := if negative then -(value : Int) else value }
  | [.decimal _ seconds nanos] => some { seconds, nanos }
  | _ => none

def ownZone? (text : List Char) : Option (Zone × List Char) :=
  match text with
  | 'T' :: 'Z' :: '=' :: '"' :: rest =>
    let inside := rest.takeWhile (· ≠ '"')
    if inside.length < rest.length then
      some (Zone.ofSetting (some (String.ofList inside)), rest.drop (inside.length + 1))
    else none
  | _ => none

def moment? (now : Moment) (zone : Zone) (text : String) : Option Moment :=
  let start := text.toList.dropWhile Text.isSpaceByte
  let (zone, body) := (ownZone? start).getD (zone, start)
  let told := tokens zone (body.length + 1) body
  match told with
  | .mark '@' :: rest => counted? rest
  | _ =>
    let wall := Wall.ofSeconds (now.seconds + (zone.settingAt now.seconds).ahead)
    let start : Told :=
      { year := wall.year, month := wall.month, day := wall.day, hour := wall.hour, minute := wall.minute
        second := wall.second % 60, nanos := now.nanos }
    (items (body.length + 1) start told).bind (momentOf? zone)

end Assay.Calendar.Telling
