import Assay.Utility.Copying
import Assay.Utility.Placing

/-!
Telling the time in a form that is asked for.
-/

namespace Assay.Utility

namespace Dating

def usualForm : String := "%a %b %e %H:%M:%S %Z %Y"

def mailForm : String := "%a, %d %b %Y %H:%M:%S %z"

def isoForms : List (List String × String) :=
  [(["hours"], "%Y-%m-%dT%H%:z"), (["minutes"], "%Y-%m-%dT%H:%M%:z"), (["date"], "%Y-%m-%d"),
   (["seconds"], "%Y-%m-%dT%H:%M:%S%:z"), (["ns"], "%Y-%m-%dT%H:%M:%S,%N%:z")]

def plainForms : List (List String × String) :=
  [(["date"], "%Y-%m-%d"), (["seconds"], "%Y-%m-%d %H:%M:%S%:z"), (["ns"], "%Y-%m-%d %H:%M:%S.%N%:z")]

def asked : List (String × String) → Utility (List String)
  | [] => return []
  | (key, value) :: rest => do
    let form ← match key with
      | "R" => pure (some mailForm)
      | "I" => if value = "" then pure (some "%Y-%m-%d") else some <$> choice "--iso-8601" isoForms value
      | "3" => do pure (some (← choice "--rfc-3339" plainForms value))
      | _ => pure none
    return form.toList ++ (← asked rest)

/-- An operand that spells a date to be set: month, day, hour and minute, and perhaps a year and seconds. -/
def spellsTime (text : String) : Bool :=
  let digits := text.toList.takeWhile Char.isDigit
  let rest := text.toList.drop digits.length
  let pair := fun place : Nat => Text.valueIn 10 ((digits.drop place).take 2)
  [8, 10, 12].contains digits.length && 1 ≤ pair 0 && pair 0 ≤ 12 && 1 ≤ pair 2 && pair 2 ≤ 31 && pair 4 < 24
    && pair 6 < 60
    && (rest.isEmpty || (rest.length = 3 && rest.head? = some '.' && (rest.drop 1).all Char.isDigit))

end Dating

open Dating in
def date : Program := program do
  let found ← options
    { flags := "uR", valued := "dfrs", loose := "I", lenient := ["iso-8601"],
      words := [("utc", "u", false), ("uct", "u", false), ("universal", "u", false), ("date", "d", true),
        ("reference", "r", true), ("rfc-email", "R", false), ("rfc-822", "R", false), ("rfc-2822", "R", false),
        ("rfc-3339", "3", true), ("iso-8601", "I", false), ("file", "f", true), ("set", "s", true),
        ("debug", "debug", false)] }
  let forms ← asked found.options
  let several := "multiple output formats specified"
  if 1 < forms.length then fail several
  let sources := (["d", "f", "r"].filter found.has).length
  if 1 < sources then misuse "the options to specify dates for printing are mutually exclusive"
  if found.has "s" && sources ≠ 0 then misuse "the options to print and set the time may not be used together"
  let (form, setting) ← match found.operands with
    | [] => pure (forms.head?, none)
    | [text] =>
      match text.toList with
      | '+' :: rest =>
        if forms.isEmpty then pure (some (String.ofList rest), none) else fail several
      | _ =>
        if sources ≠ 0 || found.has "s" then
          misuse ("the argument " ++ cited text ++ " lacks a leading '+';\nwhen using an option to specify date(s), any "
            ++ "non-option\nargument must be a format string beginning with '+'")
        else pure (forms.head?, some text)
    | _ :: extra :: _ => misuse ("extra operand " ++ cited extra)
  let zone ← if found.has "u" then pure Calendar.Zone.greenwich else zone
  let now ← present
  let tell := fun moment : Moment =>
    emit ((Calendar.Local.ofMoment zone moment).written (form.getD usualForm) true ++ ['\n'])
  let parsed := fun text : String => Calendar.Telling.moment? now zone text
  let refuseSetting := do complain "cannot set date: Operation not permitted"
  match found.value? "f", found.value? "r", (found.value? "d").orElse fun _ => found.value? "s" with
  | some file, _, _ =>
    match ← contentOf file with
    | .error fault => fail (named (inputName file) ++ ": " ++ fault.message)
    | .ok content =>
      for line in linesOf (Octets.chars content) do
        match parsed (String.ofList line) with
        | some moment => tell moment
        | none => complain ("invalid date " ++ cited (String.ofList line))
  | none, some file, _ =>
    match ← presentAt true file with
    | .ok (location, entry) => tell (Moment.ofNanos ((← tree).traitsOf location entry).modified)
    | .error fault => fail (named file ++ ": " ++ fault.message)
  | none, none, some text =>
    match parsed text with
    | some moment =>
      if found.has "s" then refuseSetting
      tell moment
    | none => fail ("invalid date " ++ cited text)
  | none, none, none =>
    match setting with
    | none => tell now
    | some text =>
      if spellsTime text then
        refuseSetting
        tell now
      else fail ("invalid date " ++ cited text)

end Assay.Utility
