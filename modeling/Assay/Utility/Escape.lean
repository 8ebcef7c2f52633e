import Assay.Text.Numeral
import Assay.Text.Octets

/-!
Escapes: what a backslash and the characters after it stand for, in the habits of several commands.
-/

namespace Assay.Utility

inductive Manner
  | plain
  | rich
  | program
deriving DecidableEq, Repr

namespace Escape

inductive Place
  | operand
  | format
deriving DecidableEq

def isOctal (c : Char) : Bool := '0' ≤ c && c ≤ '7'

def letter? (manner : Manner) (place : Place) (c : Char) : Option Char :=
  let always := [('a', '\x07'), ('b', '\x08'), ('e', '\x1b'), ('f', '\x0c'), ('n', '\n'), ('r', '\r'),
    ('t', '\t'), ('v', '\x0b'), ('\\', '\\')]
  (always.lookup c).orElse fun _ =>
    match manner, place, c with
    | .rich, _, 'E' => some '\x1b'
    | .rich, .format, '"' | .program, .format, '"' => some '"'
    | .rich, .format, '\'' => some '\''
    | _, _, _ => none

structure Habit where
  manner : Manner
  wide : Bool := false
  always : Bool := false

/-- The character of a code. Where each character is a byte, one that is none is written as the escape it came
from. -/
def encoded (wide : Bool) (code : Nat) : List Char :=
  if code < 128 then [Char.ofNat code]
  else if wide && (Char.ofNat code).toNat = code then Text.Characters.octetsOf (Char.ofNat code)
  else
    let digits := (Nat.toDigits 16 code).map Char.toUpper
    let (letter, width) := if code < 65536 then ('u', 4) else ('U', 8)
    '\\' :: letter :: List.replicate (width - digits.length) '0' ++ digits

inductive Meaning
  | text (content rest : List Char)
  | stop
  | none

def octal (size : Nat) (text : List Char) : Meaning :=
  let digits := (text.take size).takeWhile isOctal
  .text [Char.ofNat (Text.valueIn 8 digits % 256)] (text.drop digits.length)

def hexadecimal (wide : Bool) (size : Nat) (text : List Char) : Meaning :=
  let digits := (text.take size).takeWhile (Text.isDigitIn 16)
  if digits = [] then .none
  else if size = 2 then .text [Char.ofNat (Text.valueIn 16 digits)] (text.drop digits.length)
  else .text (encoded wide (Text.valueIn 16 digits)) (text.drop digits.length)

def meaning (habit : Habit) (place : Place) : List Char → Meaning
  | [] => .none
  | c :: rest =>
    let manner := habit.manner
    match letter? manner place c with
    | some meant => .text [meant] rest
    | none =>
      if c = 'c' then if place = .operand || manner = .program then .stop else .none
      else if c = '0' && place = .operand then
        match rest with
        | d :: _ => if isOctal d then octal 3 rest else .text ['\x00'] rest
        | [] => .text ['\x00'] rest
      else if isOctal c then
        if manner = .rich && place = .operand then .none else octal 3 (c :: rest)
      else if manner = .plain then .none
      else if c = 'x' then hexadecimal habit.wide 2 rest
      else if c = 'u' && (manner = .rich || place = .format) then hexadecimal habit.wide 4 rest
      else if c = 'U' && (manner = .rich || place = .format) then hexadecimal habit.wide 8 rest
      else .none

def carriedOut (habit : Habit) : Nat → List Char → List Char × Bool
  | 0, _ => ([], false)
  | _, [] => ([], false)
  | fuel + 1, '\\' :: rest =>
    match meaning habit .operand rest with
    | .stop => ([], true)
    | .none =>
      let (after, stopped) := carriedOut habit fuel rest
      ('\\' :: after, stopped)
    | .text content left =>
      let (after, stopped) := carriedOut habit fuel left
      (content ++ after, stopped)
  | fuel + 1, c :: rest =>
    let (after, stopped) := carriedOut habit fuel rest
    (c :: after, stopped)

def unescape (habit : Habit) (text : List Char) : List Char × Bool :=
  carriedOut habit (text.length + 1) text

end Escape

end Assay.Utility

namespace Assay.Utility.Echo

def isOption (argument : String) : Bool :=
  match argument.toList with
  | '-' :: c :: rest => (c :: rest).all fun d => d = 'n' || d = 'e' || d = 'E'
  | _ => false

def options (arguments : List String) : List Char :=
  (arguments.takeWhile isOption).flatMap fun option => option.toList.drop 1

def wantsEscapes (usually : Bool) (letters : List Char) : Bool :=
  letters.foldl (fun wanted c => if c = 'e' then true else if c = 'E' then false else wanted) usually

/-- The texts with blanks between them. The line ends unless an option or an escape forbids it. -/
def written (habit : Escape.Habit) (arguments : List String) : List Char :=
  let letters := options arguments
  let (texts, endsLine, escapes) : List String × Bool × Bool :=
    if habit.manner = .plain then
      match arguments with
      | "-n" :: rest => (rest, false, true)
      | texts => (texts, true, true)
    else (arguments.dropWhile isOption, !letters.contains 'n', wantsEscapes habit.always letters)
  let line := (" ".intercalate texts).toList
  let (text, stopped) := if escapes then Escape.unescape habit line else (line, false)
  if endsLine && !stopped then text ++ ['\n'] else text

end Assay.Utility.Echo
