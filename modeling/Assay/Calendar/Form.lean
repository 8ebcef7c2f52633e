import Assay.Calendar.Zone
import Assay.Text.Numeral

/-!
Moments in a form that is asked for: fields behind percent signs, with flags and widths.
-/

namespace Assay.Calendar

structure Local where
  moment : Moment
  setting : Setting

namespace Local

def ofMoment (zone : Zone) (moment : Moment) : Local := { moment, setting := zone.settingAt moment.seconds }

def wall (shown : Local) : Wall := Wall.ofSeconds (shown.moment.seconds + shown.setting.ahead)

end Local

inductive Field
  | digits (width : Nat) (blank : Bool) (value : Int)
  | fraction (nanos : Nat)
  | word (text : String)

structure Manner where
  bare : Bool := false
  blank : Bool := false
  zero : Bool := false
  upper : Bool := false
  opposite : Bool := false
  width : Option Nat := none

def Manner.ofFlags (flags : List Char) (digits : List Char) : Manner :=
  let last := (flags.filter fun c => c = '-' || c = '_' || c = '0').getLast?
  { bare := last = some '-', blank := last = some '_', zero := last = some '0', upper := flags.contains '^'
    opposite := flags.contains '#', width := if digits.isEmpty then none else some (Text.valueIn 10 digits) }

def Field.written (manner : Manner) : Field → List Char
  | digits width blank value =>
    let digits := (toString value.natAbs).toList
    let sign := if value < 0 then ['-'] else []
    if manner.bare then sign ++ digits
    else
      let mark := if manner.zero then '0' else if manner.blank || blank then ' ' else '0'
      let gap := List.replicate (manner.width.getD width - digits.length - sign.length) mark
      if mark = '0' then sign ++ gap ++ digits else gap ++ sign ++ digits
  | fraction nanos =>
    let plain := (toString nanos).toList
    let all := List.replicate (9 - plain.length) '0' ++ plain
    match manner.width with
    | none =>
      if manner.bare then
        let short := (all.reverse.dropWhile (· = '0')).reverse
        if short = [] then ['0'] else short
      else all
    | some width => all.take width ++ List.replicate (width - 9) (if manner.blank then ' ' else '0')
  | word text =>
    let letters := if manner.upper then text.toList.map Char.toUpper else text.toList
    let mark := if manner.zero then '0' else ' '
    (if manner.bare then [] else List.replicate (manner.width.getD 0 - letters.length) mark) ++ letters

def pair (value : Nat) : String := if value < 10 then "0" ++ toString value else toString value

def aheadText (colons : Nat) (ahead : Int) : String :=
  let size := ahead.natAbs
  let sign := if ahead < 0 then "-" else "+"
  let hours := pair (size / 3600)
  let minutes := pair (size / 60 % 60)
  let seconds := pair (size % 60)
  match colons with
  | 0 => sign ++ hours ++ minutes
  | 1 => sign ++ hours ++ ":" ++ minutes
  | 2 => sign ++ hours ++ ":" ++ minutes ++ ":" ++ seconds
  | _ =>
    sign ++ hours ++ (if size % 3600 = 0 then "" else ":" ++ minutes ++ if size % 60 = 0 then "" else ":" ++ seconds)

def field? (full : Bool) (shown : Local) (opposite : Bool) (letter : Char) : Option Field :=
  let wall := shown.wall
  let hour := wall.hour
  let half := if hour % 12 = 0 then 12 else hour % 12
  let name := fun (names : List String) (place : Nat) => names.getD place ""
  let word := fun (text : String) => some (Field.word (if opposite then text.toUpper else text))
  match letter with
  | 'Y' => some (.digits 4 false wall.year)
  | 'C' => some (.digits 2 false (Int.fdiv wall.year 100))
  | 'y' => some (.digits 2 false (Int.fmod wall.year 100))
  | 'm' => some (.digits 2 false wall.month)
  | 'd' => some (.digits 2 false wall.day)
  | 'e' => some (.digits 2 true wall.day)
  | 'H' => some (.digits 2 false hour)
  | 'k' => some (.digits 2 true hour)
  | 'I' => some (.digits 2 false half)
  | 'l' => some (.digits 2 true half)
  | 'M' => some (.digits 2 false wall.minute)
  | 'S' => some (.digits 2 false (wall.second % 60 : Nat))
  | 's' => some (.digits 1 false shown.moment.seconds)
  | 'j' => some (.digits 3 false wall.yearDay)
  | 'u' => some (.digits 1 false (if wall.weekday = 0 then 7 else wall.weekday : Nat))
  | 'w' => some (.digits 1 false wall.weekday)
  | 'U' => some (.digits 2 false ((wall.yearDay + 6 - wall.weekday) / 7 : Nat))
  | 'W' => some (.digits 2 false ((wall.yearDay + 6 - (wall.weekday + 6) % 7) / 7 : Nat))
  | 'G' => some (.digits 4 false wall.week.1)
  | 'g' => some (.digits 2 false (Int.fmod wall.week.1 100))
  | 'V' => some (.digits 2 false wall.week.2)
  | 'a' => word (String.ofList ((name weekdays wall.weekday).toList.take 3))
  | 'A' => word (name weekdays wall.weekday)
  | 'b' | 'h' => word (String.ofList ((name months (wall.month - 1)).toList.take 3))
  | 'B' => word (name months (wall.month - 1))
  | 'p' =>
    let text := if hour < 12 then "AM" else "PM"
    some (.word (if opposite then text.toLower else text))
  | 'P' => some (.word (if hour < 12 then "am" else "pm"))
  | 'Z' => some (.word (if opposite then shown.setting.name.toLower else shown.setting.name))
  | 'z' => some (.word (aheadText 0 shown.setting.ahead))
  | 'n' => some (.word "\n")
  | 't' => some (.word "\t")
  | '%' => some (.word "%")
  | 'N' => if full then some (.fraction shown.moment.nanos) else none
  | 'q' => if full then some (.digits 1 false ((wall.month + 2) / 3 : Nat)) else none
  | _ => none

def compound? : Char → Option String
  | 'c' => some "%a %b %e %H:%M:%S %Y"
  | 'D' | 'x' => some "%m/%d/%y"
  | 'F' => some "%Y-%m-%d"
  | 'r' => some "%I:%M:%S %p"
  | 'R' => some "%H:%M"
  | 'T' | 'X' => some "%H:%M:%S"
  | _ => none

namespace Local

def writtenIn (full : Bool) (shown : Local) : Nat → List Char → List Char
  | 0, _ => []
  | _, [] => []
  | fuel + 1, '%' :: rest =>
    let flags := rest.takeWhile fun c => "-_0^#+".toList.contains c
    let digits := (rest.drop flags.length).takeWhile Char.isDigit
    let manner := Manner.ofFlags flags digits
    let behind := rest.drop (flags.length + digits.length)
    let colons := if full then behind.takeWhile (· = ':') else []
    match behind.drop colons.length with
    | 'z' :: after =>
      (Field.word (aheadText colons.length shown.setting.ahead)).written { manner with zero := false, width := none }
        ++ writtenIn full shown fuel after
    | letter :: after =>
      let (meant, left) : Char × List Char :=
        match letter, after with
        | 'E', other :: final | 'O', other :: final => (other, final)
        | _, _ => (letter, after)
      match if colons = [] then field? full shown manner.opposite meant else none, compound? meant with
      | some field, _ => field.written manner ++ writtenIn full shown fuel left
      | none, some form =>
        let whole := writtenIn full shown fuel form.toList
        (Field.word (String.ofList whole)).written manner ++ writtenIn full shown fuel left
      | none, none =>
        '%' :: (rest.take (rest.length - after.length) ++ writtenIn full shown fuel after)
    | [] => '%' :: rest
  | fuel + 1, c :: rest => c :: writtenIn full shown fuel rest

/-- A moment in a form. With the flag, more letters mean something than in the usual ones. -/
def written (shown : Local) (form : String) (full : Bool := false) : List Char :=
  writtenIn full shown (form.length + 100) form.toList

end Local

end Assay.Calendar
