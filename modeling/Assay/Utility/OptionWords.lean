import Assay.Utility.Basic

/-!
The arguments of another program in their usual order: options first, each with its value, and then all else.
-/

namespace Assay.Utility

inductive Takes
  | none | value | perhaps
deriving DecidableEq

structure KnownOptions where
  letters : List (Char × Takes) := []
  words : List (String × Takes) := []
  inOrder : Bool := false
  inPlace : Bool := false
  alternative : Bool := false

namespace KnownOptions

def takes (text : List Char) : Takes × List Char :=
  match text with
  | ':' :: ':' :: rest => (.perhaps, rest)
  | ':' :: rest => (.value, rest)
  | rest => (.none, rest)

def lettersOf : Nat → List Char → List (Char × Takes)
  | 0, _ => []
  | _, [] => []
  | fuel + 1, c :: rest =>
    let (kind, more) := takes rest
    (c, kind) :: lettersOf fuel more

def wordsOf (text : String) : List (String × Takes) :=
  (text.toList.splitOnP fun c => c = ',' || c = ' ' || c = '\t' || c = '\n').filterMap fun piece =>
    if piece = [] then none
    else
      let name := (piece.reverse.dropWhile (· = ':')).reverse
      some (String.ofList name, (takes (piece.drop name.length)).1)

/-- What the short options say. A plus or a dash at the front tells what becomes of other arguments. -/
def ofTexts (short : String) (long : List String) : KnownOptions :=
  let (sign, letters) : Option Char × List Char := match short.toList with
    | '+' :: rest => (some '+', rest)
    | '-' :: rest => (some '-', rest)
    | rest => (none, rest)
  { letters := lettersOf (letters.length + 1) letters, words := long.flatMap wordsOf
    inOrder := sign = some '+', inPlace := sign = some '-' }

end KnownOptions

structure Arranged where
  options : List String := []
  operands : List String := []
  complaints : List String := []

def shellQuoted (text : String) : String :=
  "'" ++ String.ofList (text.toList.flatMap fun c => if c = '\'' then "'\\''".toList else [c]) ++ "'"

namespace KnownOptions

def word (known : KnownOptions) (shown : String → String) (dashes : String) (text : String) (rest : List String)
    (found : Arranged) : Arranged × List String :=
  let name := String.ofList (text.toList.takeWhile (· ≠ '='))
  let given : Option String := match text.toList.drop name.length with
    | _ :: value => some (String.ofList value)
    | [] => none
  let fits := known.words.filter fun item => name.isPrefixOf item.1
  let exact := known.words.filter fun item => item.1 = name
  let complain := fun (message : String) (left : List String) =>
    ({ found with complaints := message :: found.complaints }, left)
  match if exact.isEmpty then fits else exact with
  | [] => complain ("unrecognized option '" ++ dashes ++ text ++ "'") rest
  | (whole, kind) :: others =>
    if !others.isEmpty && exact.isEmpty && others.any fun other => other.2 ≠ kind ∨ other.1 ≠ whole then
      complain ("option '" ++ dashes ++ text ++ "' is ambiguous; possibilities: "
        ++ " ".intercalate (fits.map fun item => "'" ++ dashes ++ item.1 ++ "'")) rest
    else
      let add := fun (parts : List String) (left : List String) =>
        ({ found with options := parts.reverse ++ found.options }, left)
      match kind, given, rest with
      | .none, some _, _ => complain ("option '" ++ dashes ++ whole ++ "' doesn't allow an argument") rest
      | .none, none, _ => add ["--" ++ whole] rest
      | .perhaps, value, _ => add ["--" ++ whole, shown (value.getD "")] rest
      | .value, some value, _ => add ["--" ++ whole, shown value] rest
      | .value, none, value :: left => add ["--" ++ whole, shown value] left
      | .value, none, [] => complain ("option '" ++ dashes ++ whole ++ "' requires an argument") []

/-- Letters behind one dash; the list is what they are followed by. -/
def cluster (known : KnownOptions) (shown : String → String) : List Char → List String → Arranged → Arranged × List String
  | [], rest, found => (found, rest)
  | c :: more, rest, found =>
    let add := fun parts : List String => { found with options := parts.reverse ++ found.options }
    let name := "-" ++ String.ofList [c]
    match if c = ':' ∨ c = ';' then none else known.letters.lookup c with
    | none =>
      cluster known shown more rest
        { found with complaints := ("invalid option -- '" ++ String.ofList [c] ++ "'") :: found.complaints }
    | some .none => cluster known shown more rest (add [name])
    | some .perhaps => (add [name, shown (String.ofList more)], rest)
    | some .value =>
      if more ≠ [] then (add [name, shown (String.ofList more)], rest)
      else
        match rest with
        | value :: left => (add [name, shown value], left)
        | [] =>
          ({ found with complaints := ("option requires an argument -- '" ++ String.ofList [c] ++ "'") :: found.complaints },
            [])

def arrange (known : KnownOptions) (shown : String → String) : Nat → List String → Arranged → Arranged
  | 0, _, found => found
  | _, [], found => found
  | fuel + 1, first :: rest, found =>
    match first.toList with
    | ['-', '-'] => { found with operands := found.operands ++ rest }
    | '-' :: '-' :: text =>
      let (next, left) := known.word shown "--" (String.ofList text) rest found
      known.arrange shown fuel left next
    | '-' :: c :: more =>
      let text := String.ofList (c :: more)
      let name := String.ofList ((c :: more).takeWhile (· ≠ '='))
      let isWord := known.alternative && (known.words.any fun item => name.isPrefixOf item.1)
        && !(more = [] && (known.letters.lookup c).isSome)
      let (next, left) := if isWord || (known.alternative && (known.letters.lookup c).isNone) then
          known.word shown "-" text rest found
        else known.cluster shown (c :: more) rest found
      known.arrange shown fuel left next
    | _ =>
      if known.inOrder then { found with operands := found.operands ++ first :: rest }
      else if known.inPlace then
        known.arrange shown fuel rest { found with options := shown first :: found.options }
      else known.arrange shown fuel rest { found with operands := found.operands ++ [first] }

end KnownOptions

def getopt : Program := program do
  waiting
  let given ← arguments
  let old := (given.head?.map fun text => !text.startsWith "-").getD false
  let compatible := old || ((← get).call.environment.lookup "GETOPT_COMPATIBLE").isSome
  let known : Options :=
      { flags := "aqQuTV", valued := "lnos", inOrder := true, failure := 2,
        words := [("alternative", "a", false), ("longoptions", "l", true), ("name", "n", true), ("options", "o", true),
          ("quiet", "q", false), ("quiet-output", "Q", false), ("shell", "s", true), ("test", "T", false),
          ("unquoted", "u", false)] }
  let found ← if old then pure ({} : Found) else options known
  if given.isEmpty then
    warn "missing optstring argument"
    say ("Try '" ++ (← name) ++ " --help' for more information.\n")
    throw 2
  if found.has "T" then throw 4
  let operands := if old then given else found.operands
  let (short, rest) ← match found.value? "o", operands with
    | some short, rest => pure (short, rest)
    | none, short :: rest => pure (short, rest)
    | none, [] =>
      warn "missing optstring argument"
      say ("Try '" ++ (← name) ++ " --help' for more information.\n")
      throw 2
  let rest := if old && rest.head? = some "--" then rest.drop 1 else rest
  let shown := if compatible && old || found.has "u" then id else shellQuoted
  let order : KnownOptions :=
    { KnownOptions.ofTexts short (found.values "l") with alternative := found.has "a" }
  let result := order.arrange shown (rest.length + 1) rest {}
  if !found.has "q" then
    let title := ((found.value? "n").getD (← name))
    for message in result.complaints.reverse do say (title ++ ": " ++ message ++ "\n")
  if !found.has "Q" then
    emitText (String.join (result.options.reverse.map (" " ++ ·)) ++ " --"
      ++ String.join (result.operands.map fun text => " " ++ shown text) ++ "\n")
  if !result.complaints.isEmpty then throw 1

end Assay.Utility
