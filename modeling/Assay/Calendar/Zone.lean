import Assay.Calendar.Moment
import Assay.Text.Numeral

/-!
Time zones: how far clocks are ahead of Greenwich, all year or in summer and in winter, by rules that a
text gives.
-/

namespace Assay.Calendar

structure Setting where
  ahead : Int
  name : String
  summer : Bool := false
deriving DecidableEq, Repr

inductive ChangeDay
  | usual (day : Nat)
  | plain (day : Nat)
  | weekday (month week day : Nat)
deriving DecidableEq, Repr

structure Change where
  day : ChangeDay
  second : Int := 7200
deriving DecidableEq, Repr

structure Zone where
  standard : Setting
  summer : Option (Setting × Change × Change) := none
deriving DecidableEq, Repr

namespace ChangeDay

def inYear (day : ChangeDay) (year : Int) : Int :=
  match day with
  | usual number => daysTo year 1 1 + number - 1 + (if isLeap year ∧ 60 ≤ number then 1 else 0)
  | plain number => daysTo year 1 1 + number
  | weekday month week wanted =>
    let first := daysTo year month 1
    let start := first + Int.fmod (wanted - (first + 4)) 7
    let last := daysToAny year (month + 1) 1
    let found := start + 7 * (week - 1)
    if last ≤ found then found - 7 else found

end ChangeDay

namespace Zone

def greenwich : Zone := { standard := { ahead := 0, name := "UTC" } }

def settingAt (zone : Zone) (seconds : Int) : Setting :=
  match zone.summer with
  | none => zone.standard
  | some (summer, starts, ends) =>
    let year := (Wall.ofSeconds (seconds + zone.standard.ahead)).year
    let start := starts.day.inYear year * 86400 + starts.second - zone.standard.ahead
    let stop := ends.day.inYear year * 86400 + ends.second - summer.ahead
    let inside := if start ≤ stop then start ≤ seconds && seconds < stop else !(stop ≤ seconds && seconds < start)
    if inside then summer else zone.standard

/-- The moment at which clocks show something; none if they leave it out. -/
def secondsOf? (zone : Zone) (shown : Int) : Option Int :=
  let settings := zone.standard :: (zone.summer.map fun item => item.1).toList
  (settings.map fun setting => (shown - setting.ahead, setting)).find? (fun item => zone.settingAt item.1 = item.2)
    |>.map Prod.fst

def name? (text : List Char) : Option (String × List Char) :=
  match text with
  | '<' :: rest =>
    let inside := rest.takeWhile (· ≠ '>')
    match rest.drop inside.length with
    | '>' :: after => if 3 ≤ inside.length then some (String.ofList inside, after) else none
    | _ => none
  | _ =>
    let letters := text.takeWhile Char.isAlpha
    if 3 ≤ letters.length then some (String.ofList letters, text.drop letters.length) else none

def clock? (text : List Char) : Option (Int × List Char) :=
  let (sign, body) : Int × List Char := match text with
    | '-' :: rest => (-1, rest)
    | '+' :: rest => (1, rest)
    | rest => (1, rest)
  let number := fun (digits : List Char) => (Text.valueIn 10 digits : Int)
  let hours := body.takeWhile Char.isDigit
  if hours = [] then none
  else
    match body.drop hours.length with
    | ':' :: rest =>
      let minutes := rest.takeWhile Char.isDigit
      match rest.drop minutes.length with
      | ':' :: more =>
        let seconds := more.takeWhile Char.isDigit
        some (sign * (number hours * 3600 + number minutes * 60 + number seconds), more.drop seconds.length)
      | after => some (sign * (number hours * 3600 + number minutes * 60), after)
    | after => some (sign * (number hours * 3600), after)

def change? (text : List Char) : Option (Change × List Char) :=
  let day : Option (ChangeDay × List Char) :=
    match text with
    | 'M' :: rest =>
      let month := rest.takeWhile Char.isDigit
      let behind := (rest.drop month.length).drop 1
      let week := behind.takeWhile Char.isDigit
      let last := (behind.drop week.length).drop 1
      let wanted := last.takeWhile Char.isDigit
      if month = [] ∨ week = [] ∨ wanted = [] then none
      else some (.weekday (Text.valueIn 10 month) (Text.valueIn 10 week) (Text.valueIn 10 wanted), last.drop wanted.length)
    | 'J' :: rest =>
      let digits := rest.takeWhile Char.isDigit
      if digits = [] then none else some (.usual (Text.valueIn 10 digits), rest.drop digits.length)
    | rest =>
      let digits := rest.takeWhile Char.isDigit
      if digits = [] then none else some (.plain (Text.valueIn 10 digits), rest.drop digits.length)
  day.bind fun (found, after) =>
    match after with
    | '/' :: rest => (clock? rest).map fun (second, left) => ({ day := found, second }, left)
    | _ => some ({ day := found }, after)

def usualChanges : Change × Change := ({ day := .weekday 3 2 0 }, { day := .weekday 11 1 0 })

/-- A zone by the names of its settings and by its rules. What is no such text means Greenwich, under the name in
front. -/
def ofRules (text : String) : Zone :=
  match name? text.toList with
  | none => { standard := { ahead := 0, name := "" } }
  | some (name, rest) =>
    match clock? rest with
    | none => { standard := { ahead := 0, name } }
    | some (behind, after) =>
      let standard : Setting := { ahead := -behind, name }
      match name? after with
      | none => { standard }
      | some (summerName, left) =>
        let (ahead, rules) : Int × List Char := match left with
          | ',' :: _ | [] => (3600 - behind, left)
          | _ => match clock? left with
            | some (other, final) => (-other, final)
            | none => (3600 - behind, left)
        let summer : Setting := { ahead, name := summerName, summer := true }
        match rules with
        | ',' :: first =>
          match change? first with
          | some (starts, ',' :: second) =>
            match change? second with
            | some (ends, _) => { standard, summer := some (summer, starts, ends) }
            | none => { standard, summer := some (summer, usualChanges) }
          | _ => { standard, summer := some (summer, usualChanges) }
        | _ => { standard, summer := some (summer, usualChanges) }

def placeRules : List (String × String) :=
  [("UTC", "UTC0"), ("Etc/UTC", "UTC0"), ("Universal", "UTC0"), ("Zulu", "UTC0"), ("UCT", "UTC0"), ("GMT", "GMT0"),
   ("Etc/GMT", "GMT0"), ("GMT0", "GMT0"), ("Greenwich", "GMT0"), ("EST", "EST5"), ("MST", "MST7"), ("HST", "HST10"),
   ("EST5EDT", "EST5EDT,M3.2.0,M11.1.0"), ("CST6CDT", "CST6CDT,M3.2.0,M11.1.0"), ("MST7MDT", "MST7MDT,M3.2.0,M11.1.0"),
   ("PST8PDT", "PST8PDT,M3.2.0,M11.1.0"), ("US/Eastern", "EST5EDT,M3.2.0,M11.1.0"),
   ("US/Central", "CST6CDT,M3.2.0,M11.1.0"), ("US/Pacific", "PST8PDT,M3.2.0,M11.1.0"),
   ("America/New_York", "EST5EDT,M3.2.0,M11.1.0"), ("America/Toronto", "EST5EDT,M3.2.0,M11.1.0"),
   ("America/Chicago", "CST6CDT,M3.2.0,M11.1.0"), ("America/Denver", "MST7MDT,M3.2.0,M11.1.0"),
   ("America/Phoenix", "MST7"), ("America/Los_Angeles", "PST8PDT,M3.2.0,M11.1.0"),
   ("America/Anchorage", "AKST9AKDT,M3.2.0,M11.1.0"), ("America/Halifax", "AST4ADT,M3.2.0,M11.1.0"),
   ("America/Sao_Paulo", "<-03>3"), ("America/Argentina/Buenos_Aires", "<-03>3"), ("America/Bogota", "<-05>5"),
   ("America/Mexico_City", "CST6"), ("Pacific/Honolulu", "HST10"), ("CET", "CET-1CEST,M3.5.0,M10.5.0/3"),
   ("EET", "EET-2EEST,M3.5.0/3,M10.5.0/4"), ("MET", "MET-1MEST,M3.5.0,M10.5.0/3"), ("WET", "WET0WEST,M3.5.0/1,M10.5.0"),
   ("Europe/London", "GMT0BST,M3.5.0/1,M10.5.0"), ("Europe/Dublin", "GMT0IST,M3.5.0/1,M10.5.0"),
   ("Europe/Lisbon", "WET0WEST,M3.5.0/1,M10.5.0"), ("Europe/Berlin", "CET-1CEST,M3.5.0,M10.5.0/3"),
   ("Europe/Paris", "CET-1CEST,M3.5.0,M10.5.0/3"), ("Europe/Madrid", "CET-1CEST,M3.5.0,M10.5.0/3"),
   ("Europe/Rome", "CET-1CEST,M3.5.0,M10.5.0/3"), ("Europe/Vienna", "CET-1CEST,M3.5.0,M10.5.0/3"),
   ("Europe/Zurich", "CET-1CEST,M3.5.0,M10.5.0/3"), ("Europe/Amsterdam", "CET-1CEST,M3.5.0,M10.5.0/3"),
   ("Europe/Brussels", "CET-1CEST,M3.5.0,M10.5.0/3"), ("Europe/Prague", "CET-1CEST,M3.5.0,M10.5.0/3"),
   ("Europe/Warsaw", "CET-1CEST,M3.5.0,M10.5.0/3"), ("Europe/Stockholm", "CET-1CEST,M3.5.0,M10.5.0/3"),
   ("Europe/Oslo", "CET-1CEST,M3.5.0,M10.5.0/3"), ("Europe/Copenhagen", "CET-1CEST,M3.5.0,M10.5.0/3"),
   ("Europe/Budapest", "CET-1CEST,M3.5.0,M10.5.0/3"), ("Europe/Athens", "EET-2EEST,M3.5.0/3,M10.5.0/4"),
   ("Europe/Helsinki", "EET-2EEST,M3.5.0/3,M10.5.0/4"), ("Europe/Kyiv", "EET-2EEST,M3.5.0/3,M10.5.0/4"),
   ("Europe/Moscow", "MSK-3"), ("Europe/Istanbul", "<+03>-3"), ("Asia/Dubai", "<+04>-4"), ("Asia/Karachi", "PKT-5"),
   ("Asia/Kolkata", "IST-5:30"), ("Asia/Calcutta", "IST-5:30"), ("Asia/Kathmandu", "<+0545>-5:45"),
   ("Asia/Dhaka", "<+06>-6"), ("Asia/Bangkok", "<+07>-7"), ("Asia/Jakarta", "WIB-7"), ("Asia/Shanghai", "CST-8"),
   ("Asia/Hong_Kong", "HKT-8"), ("Asia/Taipei", "CST-8"), ("Asia/Manila", "PST-8"), ("Asia/Singapore", "<+08>-8"),
   ("Australia/Perth", "AWST-8"), ("Asia/Seoul", "KST-9"), ("Asia/Tokyo", "JST-9"), ("Japan", "JST-9"),
   ("Australia/Brisbane", "AEST-10"), ("Australia/Adelaide", "ACST-9:30ACDT,M10.1.0,M4.1.0/3"),
   ("Australia/Sydney", "AEST-10AEDT,M10.1.0,M4.1.0/3"), ("Australia/Melbourne", "AEST-10AEDT,M10.1.0,M4.1.0/3"),
   ("Pacific/Auckland", "NZST-12NZDT,M9.5.0,M4.1.0/3"), ("Africa/Cairo", "EET-2EEST,M4.5.5/0,M10.5.4/24"),
   ("Africa/Johannesburg", "SAST-2"), ("Africa/Lagos", "WAT-1"), ("Africa/Nairobi", "EAT-3"),
   ("Asia/Jerusalem", "IST-2IDT,M3.4.4/26,M10.5.0"), ("Atlantic/Reykjavik", "GMT0")]

def ofSetting : Option String → Zone
  | none => greenwich
  | some text =>
    let name := String.ofList (text.toList.dropWhile (· = ':'))
    if name = "" then greenwich
    else
      match placeRules.lookup name with
      | some rules => ofRules rules
      | none =>
        match name.toList with
        | 'E' :: 't' :: 'c' :: '/' :: 'G' :: 'M' :: 'T' :: rest =>
          match clock? rest with
          | some (behind, []) =>
            let hours := toString (behind.natAbs / 3600)
            { standard := { ahead := -behind,
                            name := (if behind < 0 then "+" else "-") ++ (if hours.length < 2 then "0" else "") ++ hours } }
          | _ => ofRules name
        | _ => ofRules name

end Zone

end Assay.Calendar
